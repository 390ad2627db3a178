import OpenApiGen.Trace
import Mathlib.Data.List.Forall2

/-! # Results and events of runs: failing computations, traced ones, and both at once -/

namespace OpenApiGen

variable {α β ε : Type}

@[simp] theorem ok_bind (a : α) (f : α → Except ε β) : (Except.ok a >>= f) = f a := rfl

@[simp] theorem error_bind (e : ε) (f : α → Except ε β) : (Except.error e >>= f) = .error e := rfl

@[simp] theorem pure_eq_ok (a : α) : (pure a : Except ε α) = .ok a := rfl

theorem bind_eq_ok_iff {x : Except ε α} {f : α → Except ε β} {b : β} :
    (x >>= f) = .ok b ↔ ∃ a, x = .ok a ∧ f a = .ok b := by
  cases x <;> simp

theorem map_eq_ok_iff {x : Except ε α} {f : α → β} {b : β} :
    x.map f = .ok b ↔ ∃ a, x = .ok a ∧ f a = b := by
  cases x <;> simp [Except.map]

theorem eq_of_map_eq_ok {x : Except ε α} {f : α → β} {a : α} {b : β} (hm : x.map f = .ok b)
    (h : x = .ok a) : f a = b := by
  rw [h] at hm
  exact Except.ok.inj hm

/-- A value that is read off one of the results. -/
theorem exists_mem_of_map_eq_ok {x : Except ε (List α)} {f : α → β} {b : β} {bs : List β}
    (h : x.map (List.map f) = .ok bs) (hb : b ∈ bs) : ∃ as, x = .ok as ∧ ∃ a ∈ as, f a = b := by
  obtain ⟨as, hx, rfl⟩ := map_eq_ok_iff.mp h
  exact ⟨as, hx, List.mem_map.mp hb⟩

theorem mapM_eq_ok_iff {f : α → Except ε β} {xs : List α} {ys : List β} :
    xs.mapM f = .ok ys ↔ List.Forall₂ (fun x y => f x = .ok y) xs ys := by
  induction xs generalizing ys with
  | nil => cases ys <;> simp
  | cons x xs ih =>
    simp only [List.mapM_cons, bind_eq_ok_iff, ih]
    constructor
    · rintro ⟨y, hy, rest, hrest, h⟩
      cases h
      exact .cons hy hrest
    · intro h
      cases h with
      | cons hy hrest => exact ⟨_, hy, _, hrest, rfl⟩

theorem map_eq_map_of_forall₂ {γ : Type} {f : α → γ} {g : β → γ} {xs : List α} {ys : List β}
    (h : List.Forall₂ (fun x y => f x = g y) xs ys) : xs.map f = ys.map g := by
  have hmaps : List.Forall₂ (· = ·) (xs.map f) (ys.map g) :=
    List.forall₂_map_left_iff.mpr (List.forall₂_map_right_iff.mpr h)
  rwa [List.forall₂_eq_eq_eq] at hmaps

theorem exists_of_forall₂ {R : α → β → Prop} {xs : List α} {ys : List β}
    (h : List.Forall₂ R xs ys) {y : β} (hy : y ∈ ys) : ∃ x ∈ xs, R x y := by
  induction h with
  | nil => cases hy
  | @cons x _ _ _ hr _ ih =>
    rcases List.mem_cons.mp hy with rfl | hy
    · exact ⟨x, List.mem_cons_self .., hr⟩
    · obtain ⟨z, hz, hr⟩ := ih hy
      exact ⟨z, List.mem_cons_of_mem _ hz, hr⟩

namespace Traced

@[simp] theorem value_pure (a : α) : (pure a : Traced α).value = a := rfl

@[simp] theorem events_pure (a : α) : (pure a : Traced α).events = [] := rfl

@[simp] theorem value_bind (x : Traced α) (f : α → Traced β) :
    (x >>= f).value = (f x.value).value := rfl

@[simp] theorem events_bind (x : Traced α) (f : α → Traced β) :
    (x >>= f).events = x.events ++ (f x.value).events := rfl

@[simp] theorem value_map (f : α → β) (x : Traced α) : (f <$> x).value = f x.value := rfl

@[simp] theorem events_map (f : α → β) (x : Traced α) : (f <$> x).events = x.events := by
  simp [Functor.map]

@[simp] theorem events_report (event : Event) : (report event).events = [event] := rfl

@[simp] theorem value_mapM (f : α → Traced β) (xs : List α) :
    (xs.mapM f).value = xs.map fun x => (f x).value := by
  induction xs with
  | nil => rfl
  | cons x xs ih => simp [ih]

@[simp] theorem events_mapM (f : α → Traced β) (xs : List α) :
    (xs.mapM f).events = xs.flatMap fun x => (f x).events := by
  induction xs with
  | nil => rfl
  | cons x xs ih => simp [ih]

@[simp] theorem value_foldlM (f : β → α → Traced β) (b : β) (xs : List α) :
    (xs.foldlM f b).value = xs.foldl (fun b x => (f b x).value) b := by
  induction xs generalizing b with
  | nil => rfl
  | cons x xs ih => simp [ih]

/-- A run without warnings. -/
def Quiet (x : Traced α) : Prop := ∀ event ∈ x.events, event.level ≠ .warn

@[simp] theorem quiet_pure (a : α) : Quiet (pure a : Traced α) := by
  simp [Quiet]

@[simp] theorem quiet_report (event : Event) : Quiet (report event) ↔ event.level ≠ .warn := by
  simp [Quiet]

@[simp] theorem quiet_bind (x : Traced α) (f : α → Traced β) :
    Quiet (x >>= f) ↔ Quiet x ∧ Quiet (f x.value) := by
  simp only [Quiet, events_bind, List.mem_append]
  constructor
  · intro h
    exact ⟨fun event he => h event (.inl he), fun event he => h event (.inr he)⟩
  · rintro ⟨hx, hf⟩ event (he | he)
    · exact hx event he
    · exact hf event he

@[simp] theorem quiet_map (f : α → β) (x : Traced α) : Quiet (f <$> x) ↔ Quiet x := by
  simp [Quiet]

@[simp] theorem quiet_mapM (f : α → Traced β) (xs : List α) :
    Quiet (xs.mapM f) ↔ ∀ x ∈ xs, Quiet (f x) := by
  simp only [Quiet, events_mapM, List.mem_flatMap]
  constructor
  · intro h x hx event he
    exact h event ⟨x, hx, he⟩
  · rintro h event ⟨x, hx, he⟩
    exact h x hx event he

end Traced

namespace Attempt

/-- What a computation comes to, without its events. -/
def outcome (x : Attempt α) : Except Failure α := x.run.value

@[simp] theorem outcome_pure (a : α) : outcome (pure a) = .ok a := rfl

@[simp] theorem outcome_lift (x : Traced α) : outcome (ExceptT.lift x) = .ok x.value := rfl

@[simp] theorem outcome_report (event : Event) : outcome (report event) = .ok () := rfl

@[simp] theorem outcome_bind (x : Attempt α) (f : α → Attempt β) :
    outcome (x >>= f) = (outcome x >>= fun a => outcome (f a)) := by
  simp only [outcome, ExceptT.run_bind, Traced.value_bind]
  cases x.run.value <;> rfl

@[simp] theorem outcome_mapM (f : α → Attempt β) (xs : List α) :
    outcome (xs.mapM f) = xs.mapM fun x => outcome (f x) := by
  induction xs with
  | nil => rfl
  | cons x xs ih =>
    simp only [List.mapM_cons, outcome_bind, outcome_pure, ih]
    rfl

/-- What a computation reports on the way, whatever it comes to. -/
def events (x : Attempt α) : List Event := x.run.events

@[simp] theorem events_lift (x : Traced α) : events (ExceptT.lift x) = x.events := by
  simp [events]

theorem events_bind {x : Attempt α} {a : α} (h : outcome x = .ok a) (f : α → Attempt β) :
    events (x >>= f) = events x ++ events (f a) := by
  unfold outcome at h
  simp only [events, ExceptT.run_bind, Traced.events_bind, h]

theorem events_subset_bind {x : Attempt α} {a : α} (h : outcome x = .ok a) (f : α → Attempt β) :
    events x ⊆ events (x >>= f) ∧ events (f a) ⊆ events (x >>= f) := by
  rw [events_bind h]
  exact ⟨List.subset_append_left .., List.subset_append_right ..⟩

/-- Each result of a list of computations comes from one of them, whose events are reported. -/
theorem exists_of_mem_mapM {f : α → Attempt β} {xs : List α} {ys : List β}
    (h : outcome (xs.mapM f) = .ok ys) {y : β} (hy : y ∈ ys) :
    ∃ x ∈ xs, outcome (f x) = .ok y ∧ events (f x) ⊆ events (xs.mapM f) := by
  induction xs generalizing ys with
  | nil =>
    cases h
    cases hy
  | cons x xs ih =>
    rw [List.mapM_cons] at h ⊢
    rw [outcome_bind, bind_eq_ok_iff] at h
    obtain ⟨first, hfirst, h⟩ := h
    rw [outcome_bind, bind_eq_ok_iff] at h
    obtain ⟨rest, hrest, h⟩ := h
    cases h
    rcases List.mem_cons.mp hy with rfl | hy
    · exact ⟨x, List.mem_cons_self .., hfirst, (events_subset_bind hfirst _).1⟩
    · obtain ⟨z, hz, houtcome, hevents⟩ := ih hrest hy
      refine ⟨z, List.mem_cons_of_mem _ hz, houtcome, ?_⟩
      refine List.Subset.trans ?_ (events_subset_bind hfirst _).2
      exact List.Subset.trans hevents (events_subset_bind hrest _).1

end Attempt
end OpenApiGen
