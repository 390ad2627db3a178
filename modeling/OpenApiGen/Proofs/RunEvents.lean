import OpenApiGen.Proofs.EntityProperties
import OpenApiGen.Proofs.ItemOutcomes

/-!
# What a run reports

A file and a failure are reported when they are recorded, and in no other place. So the events of a
run tell what its output holds, in the same order, and the last one tells how much of it there is.
-/

namespace OpenApiGen

namespace Utf8

theorem length_encodeChar (c : Char) : (encodeChar c).length = c.utf8Size := by
  have hn : c.toNat = c.val.toNat := rfl
  simp only [encodeChar, Char.utf8Size, hn, UInt32.le_iff_toNat_le, UInt32.toNat_ofNatLT,
    ← Nat.lt_succ_iff, Nat.succ_eq_add_one, Nat.reduceAdd]
  split
  · rfl
  · split
    · rfl
    · split <;> rfl

theorem size_eq (text : String) : size text = text.utf8ByteSize := by
  rw [← String.ofList_toList (s := text)]
  generalize text.toList = cs
  induction cs with
  | nil => rfl
  | cons c cs ih =>
    rw [String.ofList_cons, String.utf8ByteSize_append, String.utf8ByteSize_singleton, ← ih]
    simp [size, encode, length_encodeChar]

end Utf8

namespace Event

/-- What is reported once everything is read off the document. -/
def ofEmission : Event → Bool
  | fileEmitted .. | itemSkipped .. | generationFinished .. => true
  | _ => false

/-- The events with a message, in order. -/
def called (message : String) (events : List Event) : List Event :=
  events.filter fun event => event.message = message

theorem level_eq_info_iff {event : Event} :
    event.level = .info ↔ event.message = "generation finished" := by
  cases event <;> simp [level, message]

theorem message_of_not_ofEmission {event : Event} (h : event.ofEmission = false) :
    event.message ∉ ["emitted file", "skipping item", "generation finished"] := by
  cases event <;> simp [ofEmission, message] at h ⊢

end Event

variable {α β : Type} {P : Event → Prop}

/-- What holds of all events of a computation. -/
def Traced.Reports (P : Event → Prop) (x : Traced α) : Prop := ∀ event ∈ x.events, P event

namespace Traced.Reports

theorem pure (a : α) : Reports P (Pure.pure a) := nofun

theorem report {event : Event} (h : P event) : Reports P (Traced.report event) :=
  List.forall_mem_singleton.mpr h

theorem bind {x : Traced α} {f : α → Traced β} (hx : Reports P x) (hf : ∀ a, Reports P (f a)) :
    Reports P (x >>= f) := by
  intro event he
  rw [events_bind] at he
  rcases List.mem_append.mp he with he | he
  · exact hx event he
  · exact hf x.value event he

theorem mapM {f : α → Traced β} {xs : List α} (h : ∀ x ∈ xs, Reports P (f x)) :
    Reports P (xs.mapM f) := by
  intro event he
  rw [events_mapM] at he
  obtain ⟨x, hx, he⟩ := List.mem_flatMap.mp he
  exact h x hx event he

end Traced.Reports

/-- What holds of all events of a computation, also where it fails. -/
def Attempt.Reports (P : Event → Prop) (x : Attempt α) : Prop := ∀ event ∈ x.events, P event

namespace Attempt.Reports

theorem pure (a : α) : Reports P (Pure.pure a : Attempt α) := nofun

theorem throw (failure : Failure) : Reports P (MonadExcept.throw failure : Attempt α) := nofun

theorem mk (x : Except Failure α) : Reports P (ExceptT.mk (Pure.pure x) : Attempt α) := nofun

theorem lift {x : Traced α} (h : x.Reports P) : Reports P (ExceptT.lift x : Attempt α) := by
  intro event he
  rw [events_lift] at he
  exact h event he

theorem report {event : Event} (h : P event) : Reports P (Attempt.report event) :=
  lift (.report h)

theorem bind {x : Attempt α} {f : α → Attempt β} (hx : Reports P x)
    (hf : ∀ a, Reports P (f a)) : Reports P (x >>= f) := by
  have hrun : Traced.Reports P (x >>= f).run := by
    rw [ExceptT.run_bind]
    refine Traced.Reports.bind hx fun result => ?_
    cases result with
    | ok a => exact hf a
    | error failure => exact .pure _
  exact hrun

theorem mapM {f : α → Attempt β} {xs : List α} (h : ∀ x ∈ xs, Reports P (f x)) :
    Reports P (xs.mapM f) := by
  induction xs with
  | nil => exact .pure _
  | cons x xs ih =>
    rw [List.mapM_cons]
    refine bind (h x (List.mem_cons_self ..)) fun first => ?_
    exact bind (ih fun y hy => h y (List.mem_cons_of_mem _ hy)) fun rest => .pure _

end Attempt.Reports

/-! ## What is read off a document -/

/-- Nothing about files, nor about items that are left out. -/
abbrev Preparatory (event : Event) : Prop := event.ofEmission = false

theorem Preparatory.called_eq_nil {events : List Event} (h : ∀ event ∈ events, Preparatory event)
    {message : String} (hm : message ∈ ["emitted file", "skipping item"]) :
    Event.called message events = [] := by
  rw [Event.called, List.filter_eq_nil_iff]
  intro event he heq
  rw [decide_eq_true_iff] at heq
  apply Event.message_of_not_ofEmission (h event he)
  rw [heq]
  exact List.mem_append_left ["generation finished"] hm

namespace RequestBody

theorem reports_flattenFrom (doc : Document) (levels : Nat) (enclosing : List String)
    (origin : Option Origin) (schema : Schema) :
    (flattenFrom doc levels enclosing origin schema).Reports Preparatory := by
  induction levels generalizing enclosing origin schema with
  | zero => exact .bind (.report rfl) fun _ => .pure _
  | succ levels ih =>
    rw [flattenFrom]
    split
    · split
      · exact .bind (.report rfl) fun _ => .pure _
      · split
        · exact .bind (.report rfl) fun _ => .pure _
        · split
          · split
            · exact .bind (.report rfl) fun _ => .pure _
            · exact .bind (.report rfl) fun _ => .pure _
          · exact ih _ _ _
    · split
      · refine .bind (.mapM fun property _ => ?_) fun _ => .pure _
        exact .bind (ih _ _ _) fun _ => .pure _
      · split
        · exact .pure _
        · exact .bind (ih _ _ _) fun _ => .pure _
      · exact .pure _

theorem reports_ofEntry (doc : Document) (entry : BodyEntry) :
    (ofEntry doc entry).Reports Preparatory := by
  unfold ofEntry
  split
  · exact .pure _
  · exact reports_flattenFrom doc _ _ _ _

theorem reports_extract (doc : Document) (source : Referable BodyEntry) :
    (extract doc source).Reports Preparatory := by
  cases source with
  | inline entry => exact reports_ofEntry doc entry
  | reference pointer =>
    rw [extract]
    split
    · exact reports_ofEntry doc _
    · exact .bind (.report rfl) fun _ => .pure _

end RequestBody

namespace Document

variable (doc : Document) (bearer : String)

theorem reports_extractMethod (path : String) (verb : Verb) (operation : Operation) :
    (doc.extractMethod bearer path verb operation).Reports Preparatory := by
  refine .bind (.mk _) fun parameters => ?_
  dsimp only
  split
  · exact .bind (.pure _) fun body => .bind (.report rfl) fun _ => .pure _
  · refine .bind (.lift (RequestBody.reports_extract doc _)) fun body => ?_
    exact .bind (.report rfl) fun _ => .pure _

theorem reports_extractModule (module : String) :
    (doc.extractModule bearer module).Reports Preparatory := by
  refine .bind (.mapM fun ⟨path, item⟩ _ => ?_) fun _ => .pure _
  refine .bind (.mapM fun ⟨verb, operation⟩ _ => ?_) fun _ => .pure _
  exact doc.reports_extractMethod bearer path verb operation

theorem reports_extractModules : (doc.extractModules bearer).Reports Preparatory := by
  refine .bind (.lift fun event he => ?_) fun modules => .bind (.report rfl) fun _ => .mapM ?_
  · obtain ⟨path, -, rfl⟩ := List.mem_map.mp he
    rfl
  · exact fun module _ => doc.reports_extractModule bearer module

end Document

namespace Entity

variable {doc : Document} {policy : ReferencePolicy}

theorem reports_followReference (context : String) (otherwise : TypeExpr)
    (reference : Option String) (current : TypeExpr × Option String) :
    (followReference doc policy context otherwise reference current).Reports Preparatory := by
  cases reference with
  | none => exact .pure _
  | some reference =>
    have hcheck : (checkReference doc policy context reference).Reports Preparatory := by
      unfold checkReference
      split
      · exact .pure _
      · cases policy with
        | error => exact .throw _
        | untyped => exact .bind (.report rfl) fun _ => .pure _
    refine .bind hcheck fun leads => ?_
    cases leads <;> exact .pure _

mutual

theorem reports_flattenProperty : (schema : Schema) → (name context : String) →
    (required : Bool) →
    (flattenProperty doc policy name context required schema).Reports Preparatory
  | { properties := properties, items := items, required := names, .. },
    name, context, required => by
    rw [flattenProperty_eq]
    refine .bind ?_ fun found => .bind ?_ fun nested => .pure _
    · refine .bind (reports_followReference _ _ _ _) fun found => ?_
      exact reports_followReference _ _ _ _
    · rw [flattenNested]
      split
      · exact reports_flattenItems items context
      · split
        · exact reports_flattenAll properties context names
        · exact .pure _

theorem reports_flattenItems : (items : Option Schema) → (context : String) →
    (flattenItems doc policy context items).Reports Preparatory
  | none, context => by
    rw [flattenItems]
    exact .pure _
  | some { properties := properties, required := names, .. }, context => by
    rw [flattenItems]
    split
    · exact reports_flattenAll properties context names
    · exact .pure _

theorem reports_flattenAll : (properties : List (String × Schema)) → (owner : String) →
    (required : List String) →
    (flattenAll doc policy owner required properties).Reports Preparatory
  | [], owner, required => by
    rw [flattenAll]
    exact .pure _
  | (name, schema) :: rest, owner, required => by
    rw [flattenAll]
    refine .bind (reports_flattenProperty schema name _ _) fun property => ?_
    exact .bind (reports_flattenAll rest owner required) fun properties => .pure _

end

theorem reports_ofSchemas (schemas : List (String × Schema)) :
    (ofSchemas doc policy schemas).Reports Preparatory := by
  induction schemas with
  | nil => exact .pure _
  | cons entry rest ih =>
    rw [ofSchemas]
    split
    · exact ih
    · split
      · exact .throw _
      · refine .bind (reports_flattenAll _ _ _) fun properties => ?_
        exact .bind ih fun entities => .pure _

theorem reports_extract : (extract doc policy).Reports Preparatory :=
  .bind (reports_ofSchemas _) fun _ => .bind (.report rfl) fun _ => .pure _

end Entity

/-! ## What is emitted -/

/-- What is reported when a file is emitted. -/
def EmittedFile.event (file : EmittedFile) : Event :=
  .fileEmitted file.path (Utf8.size file.content)

/-- What is reported when an item is left out. -/
def ItemFailure.event (failure : ItemFailure) : Event :=
  .itemSkipped failure.item.text failure.failure

/-- The events on the way from one output to another tell of each file and of each failure that came
in, and of nothing else. -/
structure Output.Logs (start finish : Output) (events : List Event) : Prop where
  files : finish.files.map EmittedFile.event =
    start.files.map EmittedFile.event ++ Event.called "emitted file" events
  failures : finish.failures.map ItemFailure.event =
    start.failures.map ItemFailure.event ++ Event.called "skipping item" events
  level : ∀ event ∈ events, event.level ≠ .info

namespace Output.Logs

variable {start middle finish : Output} {events more : List Event}

theorem refl (output : Output) : output.Logs output [] where
  files := by simp [Event.called]
  failures := by simp [Event.called]
  level := nofun

theorem trans (h : start.Logs middle events) (h' : middle.Logs finish more) :
    start.Logs finish (events ++ more) where
  files := by
    rw [h'.files, h.files, Event.called, Event.called, Event.called, List.filter_append,
      List.append_assoc]
  failures := by
    rw [h'.failures, h.failures, Event.called, Event.called, Event.called, List.filter_append,
      List.append_assoc]
  level := fun event he => (List.mem_append.mp he).elim (h.level event) (h'.level event)

end Output.Logs

namespace Output

theorem logs_addFailure (output : Output) (item : Item) (failure : Failure) :
    output.Logs (output.addFailure item failure).value (output.addFailure item failure).events where
  files := by simp [addFailure, Event.called, Event.message]
  failures := by simp [addFailure, Event.called, Event.message, ItemFailure.event]
  level := by simp [addFailure, Event.level]

theorem logs_emit (output : Output) (item : Item) (batch : List (String × String)) :
    output.Logs (output.emit item batch).value (output.emit item batch).events where
  files := by
    simp [emit, Event.called, List.filter_map, Function.comp_def, Event.message, EmittedFile.event]
  failures := by simp [emit, Event.called, List.filter_map, Function.comp_def, Event.message]
  level := by
    intro event he
    obtain ⟨entry, -, rfl⟩ := List.mem_map.mp he
    exact Level.noConfusion

theorem logs_insertAll (output : Output) (item : Item) (batch : List (String × String)) :
    output.Logs (output.insertAll item batch).value.1 (output.insertAll item batch).events := by
  unfold insertAll
  split
  · simpa using output.logs_addFailure item _
  · simpa using output.logs_emit item batch

end Output

namespace Generation

theorem logs_emitModule (options : Options) (output : Output) (module : ModuleRoutes) :
    output.Logs (emitModule options output module).value.1
      (emitModule options output module).events := by
  unfold emitModule
  split
  · simpa using output.logs_addFailure _ _
  · exact output.logs_insertAll _ _

/-- A turn reports what its failure or its emission reports. -/
theorem logs_step {progress : Progress α} {a : α} {item : Item} {identifier : String}
    {emit : Output → Traced (Output × Bool)}
    (h : progress.output.Logs (emit progress.output).value.1 (emit progress.output).events) :
    progress.output.Logs (progress.step a item identifier emit).value.output
      (progress.step a item identifier emit).events := by
  unfold Progress.step
  split
  · simpa using progress.output.logs_addFailure item _
  · simp only [Traced.value_bind, Traced.events_bind]
    split <;> simpa using h

theorem logs_moduleStep (options : Options) (progress : Progress String) (module : ModuleRoutes) :
    progress.output.Logs (moduleStep options progress module).value.output
      (moduleStep options progress module).events := by
  apply logs_step
  exact logs_emitModule options progress.output module

theorem logs_entityStep (options : Options) (progress : Progress Entity) (entity : Entity) :
    progress.output.Logs (entityStep options progress entity).value.output
      (entityStep options progress entity).events := by
  apply logs_step
  exact progress.output.logs_insertAll _ _

theorem logs_foldlM {step : Progress α → β → Traced (Progress α)}
    (hstep : ∀ (progress : Progress α) (x : β), progress.output.Logs
      (step progress x).value.output (step progress x).events)
    (items : List β) (progress : Progress α) :
    progress.output.Logs (items.foldlM step progress).value.output
      (items.foldlM step progress).events := by
  induction items generalizing progress with
  | nil => exact .refl _
  | cons x items ih =>
    rw [List.foldlM_cons]
    exact (hstep progress x).trans (ih (step progress x).value)

theorem logs_emitModules (options : Options) (modules : List ModuleRoutes) (output : Output) :
    output.Logs (emitModules options modules output).value
      (emitModules options modules output).events := by
  have hturns := logs_foldlM (logs_moduleStep options) modules { output := output }
  unfold emitModules
  simp only [Traced.value_bind, Traced.events_bind]
  refine hturns.trans ?_
  split
  · simpa using Output.logs_insertAll _ _ _
  · exact .refl _

theorem logs_emitEntities (options : Options) (entities : List Entity) (output : Output) :
    output.Logs (emitEntities options entities output).value
      (emitEntities options entities output).events := by
  have hturns := logs_foldlM (logs_entityStep options) entities { output := output }
  unfold emitEntities
  simp only [Traced.value_bind, Traced.events_bind]
  refine hturns.trans ?_
  split
  · exact .refl _
  · simpa using Output.logs_insertAll _ _ _

/-! ## A whole run -/

variable {options : Options} {doc : Document} {output : Output}

/-- First what is read off the document, then what is emitted, then the end. -/
theorem exists_events_run (h : (run options doc).outcome = .ok output) :
    ∃ reading emission, (run options doc).events = reading ++ (emission ++
        [.generationFinished output.files.length output.failures.length]) ∧
      (∀ event ∈ reading, Preparatory event) ∧ Output.Logs {} output emission := by
  rw [run_eq_bind] at h ⊢
  simp only [Attempt.outcome_bind, bind_eq_ok_iff, Attempt.outcome_lift] at h
  obtain ⟨modules, hmodules, entities, hentities, h⟩ := h
  rw [Attempt.events_bind hmodules, Attempt.events_bind hentities, Attempt.events_lift]
  have hreading : ∀ event ∈ (if options.artifacts.hasModuleFiles then
        doc.extractModules options.bearerScheme else pure []).events
      ++ (if options.artifacts.entities then
        Entity.extract doc options.unresolvedEntityReferences else pure []).events,
      Preparatory event := by
    rw [List.forall_mem_append]
    constructor
    · split
      · exact doc.reports_extractModules _
      · exact Attempt.Reports.pure _
    · split
      · exact Entity.reports_extract
      · exact Attempt.Reports.pure _
  refine ⟨_, (emitModules options modules {}).events
    ++ (emitEntities options entities (emitModules options modules {}).value).events, ?_, hreading,
    ?_⟩
  · cases h
    simp [emitAll]
  · cases h
    exact (logs_emitModules options modules {}).trans (logs_emitEntities options entities _)

/-- What a list of events tells of an output: its files with their sizes in bytes, its failures with
their messages, and at the end, as the only piece of information, how many of both there are. -/
structure TellsOf (events : List Event) (output : Output) : Prop where
  files : (Event.called "emitted file" events).map (fun event => (event.level, event.fields)) =
    output.files.map fun file =>
      (.debug, [("path", file.path), ("bytes", toString file.content.utf8ByteSize)])
  failures : (Event.called "skipping item" events).map (fun event => (event.level, event.fields)) =
    output.failures.map fun failure =>
      (.warn, [("item", failure.item.text), ("error", failure.failure.message)])
  finish : ∃ before last, events = before ++ [last] ∧ last.level = .info ∧
    last.message = "generation finished" ∧
    last.fields = [("files", toString output.files.length),
      ("failures", toString output.failures.length)] ∧
    ∀ event ∈ before, event.level ≠ .info

/-- The log of a run tells of its output, every file under a path of its own. -/
theorem events_run_tellsOf (hr : (run options doc).outcome = .ok output) :
    TellsOf (run options doc).events output ∧ output.paths.Nodup := by
  obtain ⟨reading, emission, hevents, hreading, hlogs⟩ := exists_events_run hr
  have hcalled : ∀ message ∈ ["emitted file", "skipping item"],
      Event.called message (run options doc).events = Event.called message emission := by
    intro message hm
    have hend : Event.called message
        [.generationFinished output.files.length output.failures.length] = [] := by
      simp only [List.mem_cons, List.not_mem_nil, or_false] at hm
      rcases hm with rfl | rfl <;> simp [Event.called, Event.message]
    have hnone := Preparatory.called_eq_nil hreading hm
    simp only [hevents, Event.called, List.filter_append] at hnone hend ⊢
    rw [hnone, hend, List.nil_append, List.append_nil]
  have hinfo : ∀ event ∈ reading, event.level ≠ .info := by
    intro event he hlevel
    apply Event.message_of_not_ofEmission (hreading event he)
    rw [Event.level_eq_info_iff.mp hlevel]
    simp
  refine ⟨{
    files := ?_
    failures := ?_
    finish := ⟨reading ++ emission, _, by rw [hevents, List.append_assoc], rfl, rfl, rfl, ?_⟩ }, ?_⟩
  · have hfiles : output.files.map EmittedFile.event = Event.called "emitted file" emission :=
      hlogs.files
    rw [hcalled _ (by simp), ← hfiles, List.map_map]
    exact List.map_congr_left fun file _ => by
      rw [Function.comp_apply, EmittedFile.event, Event.level, Event.fields, Utf8.size_eq]
  · have hfailures : output.failures.map ItemFailure.event = Event.called "skipping item" emission :=
      hlogs.failures
    rw [hcalled _ (by simp), ← hfailures, List.map_map]
    rfl
  · exact List.forall_mem_append.mpr ⟨hinfo, hlogs.level⟩
  · obtain ⟨modules, entities, hs, rfl⟩ := exists_selects hr
    obtain ⟨mounted, skipped, exported, dropped, h⟩ := exists_settles hs.schemaNames.2
    exact h.paths

theorem events_run_tellsOf_colliding :
    ∃ output, (run routesAndEntities collidingDocument).outcome = .ok output ∧
      output.paths = ["user-list/index.routes.ts", "routes.ts", "user.entity.ts", "index.ts"] ∧
      output.failures.length = 2 ∧
      TellsOf (run routesAndEntities collidingDocument).events output := by
  have hrun : (run routesAndEntities collidingDocument).outcome.map
      (fun output => (output.paths, output.failures.length))
        = .ok (["user-list/index.routes.ts", "routes.ts", "user.entity.ts", "index.ts"], 2) := by
    decide +kernel
  obtain ⟨output, hr, hpaths⟩ := map_eq_ok_iff.mp hrun
  obtain ⟨hfiles, hfailures⟩ := Prod.mk.inj hpaths
  exact ⟨output, hr, hfiles, hfailures, (events_run_tellsOf hr).1⟩

end Generation

end OpenApiGen
