import OpenApiGen.Proofs.ServiceTypes

/-!
# Declarations in whatever order the handlers come

Where nothing was given up, every place in which an object stands shows all that its schema calls by
name. So each schema is opened in the end, whichever handler comes first, and declared with the type
that any of its objects has.
-/

namespace OpenApiGen

namespace RequestBody

variable {lossy : Prop}

theorem eq_of_calls {body : RequestBody} {name called : String} (h : body.called? = some name)
    (hc : Calls body called) : called = name := by
  cases hc with
  | cut =>
    cases h
    rfl
  | named =>
    cases h
    rfl
  | item => cases h
  | property => cases h

theorem Alike.calls {a b : RequestBody} (h : Alike lossy a b) (hlossy : ¬lossy) {name : String}
    (hc : Calls a name) : Calls b name := by
  induction h with
  | lost h => exact absurd h hlossy
  | lostRight h => exact absurd h hlossy
  | nowhere => exact hc
  | leaf => exact hc
  | called ha hb =>
    rw [eq_of_calls ha hc]
    exact calls_of_called? hb
  | array _ ih =>
    cases hc with
    | item hc => exact .item (ih hc)
  | inline left right _ ih =>
    cases hc with
    | property hp hc =>
      obtain ⟨property, hmem, rfl⟩ := List.mem_map.mp hp
      exact .property (List.mem_map.mpr ⟨property, hmem, rfl⟩) (ih property hmem hc)

theorem outlines_eq_map (required : List String) (properties : List (String × RequestBody)) :
    outlines required properties = properties.map fun property =>
      (Naming.propertyKey property.1, !required.contains property.1, outline property.2) := by
  induction properties with
  | nil => rw [outlines, List.map_nil]
  | cons property rest ih => rw [outlines, List.map_cons, ih]

theorem Alike.outline_eq {a b : RequestBody} (h : Alike lossy a b) (hlossy : ¬lossy) :
    outline a = outline b := by
  induction h with
  | lost h => exact absurd h hlossy
  | lostRight h => exact absurd h hlossy
  | nowhere => rfl
  | leaf => rfl
  | called ha hb => rw [outline_of_called? ha, outline_of_called? hb]
  | array _ ih => rw [outline, outline, ih]
  | inline left right _ ih =>
    rw [outline, outline, outlines_eq_map, outlines_eq_map]
    unfold bodiesOf
    rw [List.map_map, List.map_map]
    congr 1
    refine List.map_congr_left fun property hp => ?_
    simp only [Function.comp_apply, ih property hp]

theorem AlikeProperties.outlines_eq {left right : List (String × RequestBody)}
    (h : AlikeProperties lossy left right) (hlossy : ¬lossy) (required : List String) :
    outlines required left = outlines required right := by
  induction h with
  | nil => rfl
  | @cons p q _ _ hpq _ ih =>
    obtain ⟨key, a⟩ := p
    obtain ⟨_, b⟩ := q
    obtain ⟨rfl, hab⟩ := hpq
    rw [outlines, outlines, ih, hab.outline_eq hlossy]

theorem AlikeProperties.calls {left right : List (String × RequestBody)}
    (h : AlikeProperties lossy left right) (hlossy : ¬lossy) {name : String}
    (hc : ∃ property ∈ left, Calls property.2 name) : ∃ property ∈ right, Calls property.2 name := by
  obtain ⟨p, hp, hc⟩ := hc
  induction h with
  | nil => cases hp
  | cons hpq _ ih =>
    rcases List.mem_cons.mp hp with rfl | hp
    · exact ⟨_, List.mem_cons_self .., hpq.2.calls hlossy hc⟩
    · obtain ⟨q, hq, hc⟩ := ih hp
      exact ⟨q, List.mem_cons_of_mem _ hq, hc⟩

end RequestBody

namespace Visit

def schema : Visit → String
  | .opened schema | .closed schema => schema

/-- With an object, all that its schema calls by name is opened. -/
def Complete (inside : String → String → Prop) (history : List Visit) : Prop :=
  ∀ outer, .closed outer ∈ history → ∀ inner, inside outer inner → .opened inner ∈ history

theorem undisputed_of_distinct {P : String → Prop}
    (hdistinct : ∀ a b, P a → P b → Naming.typeIdentifier a = Naming.typeIdentifier b → a = b)
    {history : List Visit} (h : ∀ visit ∈ history, P visit.schema) : Undisputed history := by
  induction history with
  | nil => trivial
  | cons visit earlier ih =>
    have hearlier := ih fun v hv => h v (List.mem_cons_of_mem _ hv)
    cases visit with
    | closed s => exact hearlier
    | opened s =>
      refine ⟨fun holder hh => ?_, hearlier⟩
      obtain ⟨hclosed, hi⟩ := identifier_of_holder? hh
      exact hdistinct holder s (h _ (List.mem_cons_of_mem _ hclosed)) (h _ (List.mem_cons_self ..)) hi

end Visit

namespace RequestBody

mutual

theorem mentions_of_visit {history : List Visit} {v : Visit} :
    (body : RequestBody) → v ∈ visit history body → v ∈ history ∨ body.Mentions v.schema
  | .leaf .., h => by
    rw [visit] at h
    exact .inl h
  | .cut .., h => by
    rw [visit] at h
    exact .inl h
  | .array item, h => by
    rw [visit] at h
    exact (mentions_of_visit item h).imp_right fun hm => hm.within (.item .self)
  | .object none required properties, h => by
    rw [visit] at h
    refine (mentions_of_visitAll properties h).imp_right ?_
    exact fun ⟨p, hp, hm⟩ => hm.within (within_property hp)
  | .object (some origin) required properties, h => by
    rw [visit] at h
    have hself := mentions_self origin required properties
    split at h
    · rcases List.mem_cons.mp h with rfl | h
      · exact .inr hself
      · exact .inl h
    · rcases List.mem_cons.mp h with rfl | h
      · exact .inr hself
      · rcases mentions_of_visitAll properties h with h | ⟨p, hp, hm⟩
        · rcases List.mem_cons.mp h with rfl | h
          · exact .inr hself
          · exact .inl h
        · exact .inr (hm.within (within_property hp))

theorem mentions_of_visitAll {history : List Visit} {v : Visit} :
    (properties : List (String × RequestBody)) → v ∈ visitAll history properties →
      v ∈ history ∨ ∃ p ∈ properties, p.2.Mentions v.schema
  | [], h => by
    rw [visitAll] at h
    exact .inl h
  | (key, body) :: rest, h => by
    rw [visitAll] at h
    rcases mentions_of_visitAll rest h with h | ⟨p, hp, hm⟩
    · rcases mentions_of_visit body h with h | hm
      · exact .inl h
      · exact .inr ⟨_, List.mem_cons_self .., hm⟩
    · exact .inr ⟨p, List.mem_cons_of_mem _ hp, hm⟩

end

theorem mem_visit {v : Visit} {history : List Visit} (h : v ∈ history) (body : RequestBody) :
    v ∈ visit history body := by
  obtain ⟨later, hl⟩ := visit_eq_append history body
  rw [hl]
  exact List.mem_append_right _ h

/-- Every object in the body shows what its schema calls by name. -/
def ShowsAll (inside : String → String → Prop) (body : RequestBody) : Prop :=
  ∀ origin required properties, Within (.object (some origin) required properties) body →
    ∀ inner, inside origin.name inner → ∃ property ∈ properties, Calls property.2 inner

theorem ShowsAll.inner {inside : String → String → Prop} {part body : RequestBody}
    (h : ShowsAll inside body) (hw : Within part body) : ShowsAll inside part :=
  fun origin required properties hp => h origin required properties (hp.trans hw)

mutual

/-- What a body calls by name is opened once the body has been visited: a cut is called by the name
of an enclosing object, and that one is open already. -/
theorem visit_opens {doc : Document} {room : Nat} {inside : String → String → Prop}
    {active : List String} {history : List Visit}
    (hactive : ∀ name ∈ active, .opened name ∈ history) (hcomplete : Visit.Complete inside history) :
    (body : RequestBody) → Fits doc room active body → ShowsAll inside body →
      (∀ name, Calls body name → .opened name ∈ visit history body) ∧
        Visit.Complete inside (visit history body)
  | .leaf .., _, _ => by
    rw [visit]
    refine ⟨fun name hc => ?_, hcomplete⟩
    cases hc
  | .cut .., hf, _ => by
    rw [visit]
    refine ⟨fun name hc => ?_, hcomplete⟩
    cases hc
    cases hf with
    | cut hn => exact hactive _ hn
  | .array item, hf, hs => by
    rw [visit]
    cases hf with
    | array hf =>
      obtain ⟨hopened, hc⟩ := visit_opens hactive hcomplete item hf (hs.inner (.item .self))
      refine ⟨fun name hcall => ?_, hc⟩
      cases hcall with
      | item hcall => exact hopened name hcall
  | .object none required properties, hf, hs => by
    rw [visit]
    cases hf with
    | inline hf =>
      obtain ⟨hopened, hc⟩ := visitAll_opens hactive hcomplete properties hf
        fun p hp => hs.inner (within_property hp)
      refine ⟨fun name hcall => ?_, hc⟩
      cases hcall with
      | property hp hcall => exact hopened _ hp name hcall
  | .object (some origin) required properties, hf, hs => by
    have hcalls : ∀ name, Calls (.object (some origin) required properties) name →
        name = origin.name := fun name hc => eq_of_calls rfl hc
    rw [visit]
    split
    · refine ⟨fun name hc => ?_, fun outer ho inner hi => ?_⟩
      · rw [hcalls name hc]
        exact List.mem_cons_self ..
      · exact List.mem_cons_of_mem _ (hcomplete outer (by simpa using ho) inner hi)
    · cases hf with
      | named _ hf =>
        have hopen : ∀ name ∈ origin.name :: active, .opened name ∈ .opened origin.name :: history := by
          intro name hn
          rcases List.mem_cons.mp hn with rfl | hn
          · exact List.mem_cons_self ..
          · exact List.mem_cons_of_mem _ (hactive name hn)
        have hearlier : Visit.Complete inside (.opened origin.name :: history) :=
          fun outer ho inner hi => List.mem_cons_of_mem _ (hcomplete outer (by simpa using ho) inner hi)
        obtain ⟨hopened, hc⟩ := visitAll_opens hopen hearlier properties hf
          fun p hp => hs.inner (within_property hp)
        refine ⟨fun name hcall => ?_, fun outer ho inner hi => ?_⟩
        · rw [hcalls name hcall]
          exact List.mem_cons_of_mem _ (mem_visitAll (List.mem_cons_self ..) properties)
        · refine List.mem_cons_of_mem _ ?_
          rcases List.mem_cons.mp ho with ho | ho
          · cases ho
            obtain ⟨p, hp, hcall⟩ := hs origin required properties .self inner hi
            exact hopened p hp inner hcall
          · exact hc outer ho inner hi

theorem visitAll_opens {doc : Document} {room : Nat} {inside : String → String → Prop}
    {active : List String} {history : List Visit}
    (hactive : ∀ name ∈ active, .opened name ∈ history) (hcomplete : Visit.Complete inside history) :
    (properties : List (String × RequestBody)) →
      (∀ property ∈ properties, Fits doc room active property.2) →
      (∀ property ∈ properties, ShowsAll inside property.2) →
      (∀ property ∈ properties, ∀ name, Calls property.2 name →
          .opened name ∈ visitAll history properties) ∧
        Visit.Complete inside (visitAll history properties)
  | [], _, _ => by
    rw [visitAll]
    exact ⟨by simp, hcomplete⟩
  | (key, body) :: rest, hf, hs => by
    rw [visitAll]
    obtain ⟨hfirst, hc⟩ := visit_opens hactive hcomplete body (hf _ (List.mem_cons_self ..))
      (hs _ (List.mem_cons_self ..))
    obtain ⟨hrest, hc'⟩ := visitAll_opens (fun name hn => mem_visit (hactive name hn) body) hc rest
      (fun p hp => hf p (List.mem_cons_of_mem _ hp)) fun p hp => hs p (List.mem_cons_of_mem _ hp)
    refine ⟨fun p hp name hcall => ?_, hc'⟩
    rcases List.mem_cons.mp hp with rfl | hp
    · exact mem_visitAll (hfirst name hcall) rest
    · exact hrest p hp name hcall

end

/-- What is reached with the names that a body calls, and with those called inside of what is
reached, holds of all objects in the body. -/
theorem mentions_reached {inside : String → String → Prop} {reached : String → Prop}
    {body : RequestBody}
    (hreached : ∀ outer, reached outer → ∀ inner, inside outer inner → reached inner)
    (hinside : ∀ origin required properties,
      Within (.object (some origin) required properties) body → ∀ property ∈ properties,
        ∀ inner, Calls property.2 inner → inside origin.name inner)
    (hcalls : ∀ name, Calls body name → reached name) {name : String} (hm : Mentions body name) :
    reached name := by
  obtain ⟨part, hw, hn⟩ := hm
  induction hw with
  | self =>
    cases part with
    | leaf => cases hn
    | cut => cases hn
    | array => cases hn
    | object origin => exact hcalls name (calls_of_called? hn)
  | item _ ih =>
    refine ih (fun origin required properties hw => ?_) fun called hc => hcalls called (.item hc)
    exact hinside origin required properties (.item hw)
  | @property origin required properties property hp _ ih =>
    refine ih (fun o r ps hw => hinside o r ps (.property hp hw)) fun called hc => ?_
    cases origin with
    | none => exact hcalls called (.property hp hc)
    | some origin =>
      exact hreached origin.name (hcalls origin.name .named) called
        (hinside origin required properties .self property hp called hc)

end RequestBody

namespace Handler

open RequestBody

variable {doc : Document} {lossy : Prop} {handlers : List Handler}

/-- An object of the one schema, somewhere in the bodies, calls the other one inside. -/
def CallsInside (handlers : List Handler) (outer inner : String) : Prop :=
  ∃ origin required properties, Part handlers (.object (some origin) required properties) ∧
    origin.name = outer ∧ ∃ property ∈ properties, Calls property.2 inner

/-- No object stands inside of one of another schema that has the same identifier. -/
def NestsDistinct (handlers : List Handler) : Prop :=
  ∀ outer inner, Enclose handlers outer inner →
    Naming.typeIdentifier outer = Naming.typeIdentifier inner → outer = inner

theorem Flattened.showsAll (hf : Flattened doc lossy handlers) (hlossy : ¬lossy)
    {body : RequestBody} (hp : Part handlers body) : ShowsAll (CallsInside handlers) body := by
  rintro origin required properties hw inner ⟨other, required', left, hother, hname, hcalls⟩
  have hoccurrence := hf.occurrence hother
  rw [hname] at hoccurrence
  obtain ⟨-, halike⟩ := hoccurrence.alike (hf.occurrence (hp.inner hw))
  exact halike.calls hlossy hcalls

section
variable {room : Nat} {inside : String → String → Prop} {history : List Visit}

theorem visit_opens {handler : Handler}
    (hf : ∀ body, handler.method.body = some body → Fits doc room [] body)
    (hs : ∀ body, handler.method.body = some body → ShowsAll inside body)
    (hcomplete : Visit.Complete inside history) :
    (∀ body, handler.method.body = some body → ∀ name, Calls body name →
        .opened name ∈ visit history handler) ∧
      Visit.Complete inside (visit history handler) := by
  cases hb : handler.method.body with
  | none =>
    unfold visit
    rw [hb]
    exact ⟨by simp, hcomplete⟩
  | some body =>
    rw [visit_of_body hb]
    obtain ⟨hopened, hc⟩ := body.visit_opens (by simp) hcomplete (hf body hb) (hs body hb)
    refine ⟨fun found hfound => ?_, hc⟩
    cases hfound
    exact hopened

theorem foldl_visit_opens
    (hf : ∀ handler ∈ handlers, ∀ body, handler.method.body = some body → Fits doc room [] body)
    (hs : ∀ handler ∈ handlers, ∀ body, handler.method.body = some body → ShowsAll inside body)
    (hcomplete : Visit.Complete inside history) :
    (∀ name, Call handlers name → .opened name ∈ handlers.foldl visit history) ∧
      Visit.Complete inside (handlers.foldl visit history) := by
  induction handlers generalizing history with
  | nil =>
    refine ⟨?_, hcomplete⟩
    rintro name ⟨handler, hh, -⟩
    cases hh
  | cons handler rest ih =>
    rw [List.foldl_cons]
    obtain ⟨hfirst, hc⟩ := visit_opens (hf handler (List.mem_cons_self ..))
      (hs handler (List.mem_cons_self ..)) hcomplete
    obtain ⟨hrest, hc'⟩ := ih (fun other ho => hf other (List.mem_cons_of_mem _ ho))
      (fun other ho => hs other (List.mem_cons_of_mem _ ho)) hc
    refine ⟨?_, hc'⟩
    rintro name ⟨other, ho, body, hb, hcall⟩
    rcases List.mem_cons.mp ho with rfl | ho
    · obtain ⟨later, hl⟩ := foldl_visit_eq_append rest (visit history other)
      rw [hl]
      exact List.mem_append_right _ (hfirst body hb name hcall)
    · exact hrest name ⟨other, ho, body, hb, hcall⟩

end

/-- Nothing is passed over: what is called by name is opened, and with it all that it calls inside. -/
theorem closed_of_mention (hf : Flattened doc lossy handlers) (hlossy : ¬lossy)
    (hu : Visit.Undisputed (visits handlers)) {name : String} (hm : Mention handlers name) :
    .closed name ∈ visits handlers := by
  have hclosed : ∀ name, .opened name ∈ visits handlers → .closed name ∈ visits handlers :=
    fun name ho => ((visits_nested hu).finished name ho).resolve_right (by simp)
  obtain ⟨hopened, hcomplete⟩ := foldl_visit_opens
    (fun handler hh body hb => hf.fits hh hb)
    (fun handler hh body hb => hf.showsAll hlossy ⟨handler, hh, body, hb, .self⟩)
    (show Visit.Complete (CallsInside handlers) [] by simp [Visit.Complete])
  obtain ⟨handler, hh, body, hb, hm⟩ := hm
  have hreached : ∀ outer, .opened outer ∈ visits handlers →
      ∀ inner, CallsInside handlers outer inner → .opened inner ∈ visits handlers :=
    fun outer ho => hcomplete outer (hclosed outer ho)
  refine hclosed name (mentions_reached hreached ?_ ?_ hm)
  · intro origin required properties hw property hp inner hc
    exact ⟨origin, required, properties, ⟨handler, hh, body, hb, hw⟩, rfl, property, hp, hc⟩
  · exact fun called hc => hopened called ⟨handler, hh, body, hb, hc⟩

theorem distinctIdentifiers (hf : Flattened doc lossy handlers) (hlossy : ¬lossy)
    (hnests : NestsDistinct handlers) (hu : Visit.Undisputed (visits handlers)) :
    DistinctIdentifiers handlers := by
  intro a b ha hb hi
  by_contra hne
  have hvisits := visits_nested hu
  have hopenedA := hvisits.started a (closed_of_mention hf hlossy hu ha)
  have hopenedB := hvisits.started b (closed_of_mention hf hlossy hu hb)
  rcases hvisits.shared a b hopenedA hopenedB hne hi with h | h
  · exact hne (hnests a b h hi)
  · exact hne (hnests b a h hi.symm).symm

theorem mention_of_foldl_visit {history : List Visit} {v : Visit}
    (h : v ∈ handlers.foldl visit history) : v ∈ history ∨ Mention handlers v.schema := by
  induction handlers generalizing history with
  | nil => exact .inl h
  | cons handler rest ih =>
    rw [List.foldl_cons] at h
    rcases ih h with h | ⟨other, ho, found⟩
    · unfold visit at h
      split at h
      · exact .inl h
      · rename_i body hb
        refine (mentions_of_visit body h).imp_right fun hm => ?_
        exact ⟨handler, List.mem_cons_self .., body, hb, hm⟩
    · exact .inr ⟨other, List.mem_cons_of_mem _ ho, found⟩

section
variable {handlers' : List Handler}

theorem Mention.of_subset {name : String} (h : Mention handlers name) (hs : handlers ⊆ handlers') :
    Mention handlers' name := by
  obtain ⟨handler, hh, found⟩ := h
  exact ⟨handler, hs hh, found⟩

theorem Part.of_subset {part : RequestBody} (h : Part handlers part) (hs : handlers ⊆ handlers') :
    Part handlers' part := by
  obtain ⟨handler, hh, found⟩ := h
  exact ⟨handler, hs hh, found⟩

theorem NestsDistinct.of_subset (h : NestsDistinct handlers) (hs : handlers' ⊆ handlers) :
    NestsDistinct handlers' := by
  rintro outer inner ⟨handler, hh, found⟩
  exact h outer inner ⟨handler, hs hh, found⟩

theorem Flattened.of_subset (h : Flattened doc lossy handlers) (hs : handlers' ⊆ handlers) :
    Flattened doc lossy handlers' :=
  fun handler hh => h handler (hs hh)

end
end Handler

namespace ModuleService

open RequestBody

variable {doc : Document} {lossy : Prop} {handlers handlers' : List Handler}
  {service service' : ModuleService}

theorem exists_ofHandlers_of_perm (hf : Handler.Flattened doc lossy handlers) (hlossy : ¬lossy)
    (hnests : Handler.NestsDistinct handlers) (hperm : handlers.Perm handlers')
    (h : ∃ service, ofHandlers handlers = .ok service) :
    ∃ service, ofHandlers handlers' = .ok service := by
  rw [exists_ofHandlers_iff] at h ⊢
  obtain ⟨hu, hfree⟩ := h
  have hmention : ∀ visit ∈ Handler.visits handlers', Handler.Mention handlers visit.schema := by
    intro visit hv
    rcases Handler.mention_of_foldl_visit hv with hv | hm
    · cases hv
    · exact hm.of_subset hperm.symm.subset
  refine ⟨Visit.undisputed_of_distinct (Handler.distinctIdentifiers hf hlossy hnests hu) hmention, ?_⟩
  intro schema hclosed handler hh
  have hclosed' := Handler.closed_of_mention hf hlossy hu (hmention _ hclosed)
  exact hfree schema hclosed' handler (hperm.symm.subset hh)

/-- What is declared is the type of each object in the bodies, wherever it stands. -/
theorem mem_declarations_iff (hf : Handler.Flattened doc lossy handlers) (hlossy : ¬lossy)
    (hnests : Handler.NestsDistinct handlers) (hservice : ofHandlers handlers = .ok service)
    {d : Declaration} :
    d ∈ service.declarations ↔ ∃ origin required properties,
      Handler.Part handlers (.object (some origin) required properties) ∧
        d = .ofObject origin required properties := by
  obtain ⟨hu, -⟩ := (exists_ofHandlers_iff handlers).mp ⟨service, hservice⟩
  have hdistinct := Handler.distinctIdentifiers hf hlossy hnests hu
  constructor
  · intro hd
    obtain ⟨-, hextends⟩ := extends_of_flattened hf hservice
    rcases hextends.made d hd with hd | ⟨origin, required, properties, hpart, heq, -⟩
    · cases hd
    · exact ⟨origin, required, properties, hpart, heq⟩
  · rintro ⟨origin, required, properties, hpart, rfl⟩
    have hmention : Handler.Mention handlers origin.name := hpart.mention rfl
    have hdeclared : Naming.typeIdentifier origin.name ∈
        Declaration.identifiers service.declarations :=
      List.mem_map.mpr <| (exists_declaration_iff (holds_of_ofHandlers hservice) _).mpr
        ⟨origin.name, Handler.closed_of_mention hf hlossy hu hmention, rfl⟩
    obtain ⟨other, required', left, hname, hother, hd, -⟩ :=
      exists_object_of_declared hf hdistinct hservice hmention hdeclared
    have hoccurrence := hf.occurrence hother
    rw [hname] at hoccurrence
    obtain ⟨rfl, halike⟩ := hoccurrence.alike (hf.occurrence hpart)
    have hsame : Declaration.ofObject other required' left =
        .ofObject origin required' properties := by
      unfold Declaration.ofObject
      rw [hname, halike.outlines_eq hlossy]
    rwa [← hsame]

/-- Where nothing of the bodies is given up and no object stands inside of one of another schema with
its identifier, a module gets its service in every order of its handlers or in none, with the same
declarations: the type of each object in the bodies, wherever it stands. -/
theorem ofHandlers_perm {bearer : String} {modules : List ModuleRoutes} {module : ModuleRoutes}
    (hmodules : (doc.extractModules bearer).outcome = .ok modules) (hmodule : module ∈ modules)
    (hhandlers : Handler.ofModule module = .ok handlers) (hperm : handlers.Perm handlers')
    (hlossless : ∀ event ∈ (doc.extractModule bearer module.module).events, ¬event.isLossy)
    (hnests : Handler.NestsDistinct handlers) :
    ((∃ service, ofHandlers handlers = .ok service) ↔
        ∃ service, ofHandlers handlers' = .ok service) ∧
      ∀ service service', ofHandlers handlers = .ok service → ofHandlers handlers' = .ok service' →
        service.declarations.Perm service'.declarations ∧
          ∀ d, d ∈ service.declarations ↔ ∃ origin required properties,
            Handler.Part handlers (.object (some origin) required properties) ∧
              d = .ofObject origin required properties := by
  have hf : Handler.Flattened doc False handlers :=
    Handler.flattened_of_ofModule (Document.extractModule_of_mem hmodules hmodule) hhandlers hlossless
  have hf' : Handler.Flattened doc False handlers' := hf.of_subset hperm.symm.subset
  have hnests' := hnests.of_subset hperm.symm.subset
  refine ⟨⟨exists_ofHandlers_of_perm hf id hnests hperm,
    exists_ofHandlers_of_perm hf' id hnests' hperm.symm⟩, fun service service' hs hs' => ?_⟩
  have hmem := @mem_declarations_iff _ _ _ _ hf id hnests hs
  have hmem' := @mem_declarations_iff _ _ _ _ hf' id hnests' hs'
  refine ⟨?_, fun d => hmem⟩
  rw [List.perm_ext_iff_of_nodup (nodup_identifiers hf hs).of_map (nodup_identifiers hf' hs').of_map]
  intro d
  rw [hmem, hmem']
  constructor
  · rintro ⟨origin, required, properties, hpart, rfl⟩
    exact ⟨origin, required, properties, hpart.of_subset hperm.subset, rfl⟩
  · rintro ⟨origin, required, properties, hpart, rfl⟩
    exact ⟨origin, required, properties, hpart.of_subset hperm.symm.subset, rfl⟩

theorem nestsDistinct_nodes : Handler.NestsDistinct nodesHandlers := by
  rintro outer inner ⟨handler, hh, body, hb, origin, required, properties, ho, rfl, p, hp, hi⟩ _
  have houter : Handler.Mention nodesHandlers origin.name := ⟨handler, hh, body, hb, _, ho, rfl⟩
  have hinner : Handler.Mention nodesHandlers inner :=
    ⟨handler, hh, body, hb, hi.within ((within_property hp).trans ho)⟩
  rw [mention_nodes houter, mention_nodes hinner]

/-- Whether nodes are posted first or put first, they are declared alike. -/
theorem ofHandlers_perm_nodes :
    (∃ service, ofHandlers nodesHandlers = .ok service) ∧
      nodesHandlers.Perm nodesHandlers.reverse ∧
      (∀ event ∈ (nodesDocument.extractModule "bearerAuth" "nodes").events, ¬event.isLossy) ∧
      Handler.NestsDistinct nodesHandlers ∧
      ∃ service service', ofHandlers nodesHandlers = .ok service ∧
        ofHandlers nodesHandlers.reverse = .ok service' ∧
        service.declarations.Perm service'.declarations := by
  have hperm : nodesHandlers.Perm nodesHandlers.reverse := nodesHandlers.reverse_perm.symm
  have hlossless : ∀ event ∈ (nodesDocument.extractModule "bearerAuth" "nodes").events,
      ¬event.isLossy := by
    decide +kernel
  obtain ⟨hiff, hsame⟩ := ofHandlers_perm extractModules_nodes (List.mem_singleton.mpr rfl)
    ofModule_nodes hperm hlossless nestsDistinct_nodes
  obtain ⟨service', hs'⟩ := hiff.mp ⟨_, ofHandlers_nodes⟩
  exact ⟨⟨_, ofHandlers_nodes⟩, hperm, hlossless, nestsDistinct_nodes, _, service',
    ofHandlers_nodes, hs', (hsame _ service' ofHandlers_nodes hs').1⟩

def branchReference : Schema := { reference := some "#/components/schemas/Branch" }

def branchesReference : Schema := { reference := some "#/components/schemas/Branches" }

/-- The branches that grow from one stand in an array, which has a name of its own. -/
def branchSchema : Schema :=
  { type := some (.single "object"), properties := [("children", branchesReference)] }

def branchesSchema : Schema :=
  { type := some (.single "array"), items := some branchReference }

def treesDocument : Document :=
  .ofBodies "/trees" [(.post, branchesReference), (.put, branchReference)]
    [("Branches", branchesSchema), ("Branch", branchSchema)]

def branchOrigin : Origin := ⟨"Branch", "#/components/schemas/Branch"⟩

def branchesOrigin : Origin := ⟨"Branches", "#/components/schemas/Branches"⟩

/-- The array is being followed already where a branch is come to inside of it. -/
def branchesBody : RequestBody :=
  .array (.object (some branchOrigin) [] [("children", untyped none)])

def branchBody : RequestBody :=
  .object (some branchOrigin) [] [("children", .array (.cut "Branch" false none))]

def treesModule : ModuleRoutes :=
  ⟨"trees", [⟨"/trees", "/trees",
    [⟨.post, [], some branchesBody, false⟩, ⟨.put, [], some branchBody, false⟩]⟩]⟩

def treesHandlers : List Handler := Handler.candidates treesModule

theorem branch_leads : Leads treesDocument branchReference branchOrigin branchSchema :=
  ⟨rfl, by decide +kernel, rfl⟩

theorem branches_leads : Leads treesDocument branchesReference branchesOrigin branchesSchema :=
  ⟨rfl, by decide +kernel, rfl⟩

theorem flatten_branches :
    (flatten treesDocument branchesReference).value = some branchesBody := by
  have hchildren : Outcome treesDocument True 4 ["Branch", "Branches"] none branchesReference
      (some (untyped none)) := .looped (by decide) branches_leads (by decide) (by decide) trivial
  have hbranch : Outcome treesDocument True 3 ["Branch", "Branches"] (some branchOrigin) branchSchema
      (some (.object (some branchOrigin) [] [("children", untyped none)])) := by
    refine .object (by decide) rfl (fun _ => some (untyped none)) fun property hp => ?_
    obtain rfl := List.mem_singleton.mp hp
    exact hchildren
  refine outcome_iff.mp (.follow (by decide) branches_leads (by decide) ?_)
  exact .array (by decide) rfl rfl (.follow (by decide) branch_leads (by decide) hbranch)

theorem flatten_branch : (flatten treesDocument branchReference).value = some branchBody := by
  have hcut : Outcome treesDocument True 4 ["Branches", "Branch"] none branchReference
      (some (.cut "Branch" false none)) := .cut (by decide) branch_leads (by decide) rfl
  have hchildren : Outcome treesDocument True 2 ["Branch"] none branchesReference
      (some (.array (.cut "Branch" false none))) :=
    .follow (by decide) branches_leads (by decide) (.array (by decide) rfl rfl hcut)
  refine outcome_iff.mp (.follow (by decide) branch_leads (by decide) ?_)
  refine .object (by decide) rfl (fun _ => some (.array (.cut "Branch" false none)))
    fun property hp => ?_
  obtain rfl := List.mem_singleton.mp hp
  exact hchildren

theorem extractModules_trees :
    (treesDocument.extractModules "bearerAuth").outcome = .ok [treesModule] :=
  Document.extractModules_ofBodies "/trees" "trees"
    [(.post, branchesReference), (.put, branchReference)]
    [("Branches", branchesSchema), ("Branch", branchSchema)]
    [(.post, branchesBody), (.put, branchBody)] (by decide)
    (.cons ⟨rfl, flatten_branches⟩ (.cons ⟨rfl, flatten_branch⟩ .nil)) _

/-- A branch that is come to first inside of the array loses its children. -/
theorem declaration_depends_on_order :
    (treesDocument.extractModules "bearerAuth").outcome = .ok [treesModule] ∧
    Handler.ofModule treesModule = .ok treesHandlers ∧
    treesHandlers.Perm treesHandlers.reverse ∧
    ∃ service service', ofHandlers treesHandlers = .ok service ∧
      ofHandlers treesHandlers.reverse = .ok service' ∧
      service.declarations = [⟨"Branch", "Branch", .record [("children", true, .any)]⟩] ∧
      service'.declarations =
        [⟨"Branch", "Branch", .record [("children", true, .array (.named "Branch"))]⟩] ∧
      ¬service.declarations.Perm service'.declarations := by
  refine ⟨extractModules_trees, rfl, treesHandlers.reverse_perm.symm, _, _, rfl, rfl, rfl, rfl, ?_⟩
  intro hperm
  have heq := List.perm_singleton.mp hperm
  cases heq

end ModuleService
end OpenApiGen
