import OpenApiGen.Proofs.DistinctKeys
import OpenApiGen.Proofs.PropertyPlaces
import Mathlib.Data.List.Perm.Subperm
import Mathlib.Data.List.Permutation

/-!
# Entities that answer to a name

An entity answers to the name of its schema and to the same name without the suffix. What answers to
a name is therefore called like it, or like it with one more suffix, and there is one of each at most.
-/

namespace OpenApiGen.Entity

variable {doc : Document} {policy : ReferencePolicy} {entities : List Entity}

theorem schemaName_eq_append (h : (extract doc policy).outcome = .ok entities) {entity : Entity}
    (he : entity ∈ entities) : entity.schemaName = entity.name ++ suffix :=
  stripSuffix?_eq_some_iff.mp (of_extract h entity he).2

theorem mem_schemaNames_iff (h : (extract doc policy).outcome = .ok entities) {called : String} :
    called ∈ entities.map schemaName ↔
      called ∈ KeyedList.keys doc.components.schemas ∧ ∃ name, name ≠ "" ∧ called = name ++ suffix := by
  constructor
  · intro hmem
    obtain ⟨entity, he, rfl⟩ := List.mem_map.mp hmem
    exact ⟨(of_extract h entity he).1, entity.name, name_ne_empty h he, schemaName_eq_append h he⟩
  · rintro ⟨hkey, name, -, hname⟩
    rw [schemaNames_of_extract h, List.mem_filter, stripSuffix?_eq_some_iff.mpr hname]
    exact ⟨hkey, rfl⟩

/-- No schema is called by the suffix alone, so that each one behind it is an entity. -/
theorem append_suffix_mem_schemaNames_iff (h : (extract doc policy).outcome = .ok entities)
    {name : String} : name ++ suffix ∈ entities.map schemaName ↔
      name ++ suffix ∈ KeyedList.keys doc.components.schemas := by
  rw [mem_schemaNames_iff h]
  refine ⟨And.left, fun hkey => ⟨hkey, name, ?_, rfl⟩⟩
  rintro rfl
  rw [String.empty_append] at hkey
  exact suffix_not_mem_keys h hkey

theorem schemaNames_sublist (h : (extract doc policy).outcome = .ok entities) :
    (entities.map schemaName).Sublist (KeyedList.keys doc.components.schemas) := by
  rw [schemaNames_of_extract h]
  exact List.filter_sublist

theorem schema_of_mem (hd : doc.DistinctKeys) (h : (extract doc policy).outcome = .ok entities)
    {entity : Entity} (he : entity ∈ entities) : ∃ schema,
      doc.schema? entity.schemaName = some schema ∧
        (flattenSchema doc policy entity.schemaName schema).outcome = .ok entity.properties := by
  unfold extract at h
  simp only [Attempt.outcome_bind, Attempt.outcome_report, bind_eq_ok_iff] at h
  obtain ⟨found, hfound, -, -, h⟩ := h
  cases h
  obtain ⟨⟨schemaName, schema⟩, hentry, hname, hproperties⟩ := exists_of_mem_ofSchemas hfound he
  dsimp only at hname hproperties
  rw [hname] at hentry hproperties
  exact ⟨schema, KeyedList.find?_of_mem hd.schemas hentry, hproperties⟩

/-! ## What answers to a name -/

theorem answersTo_iff {entity : Entity} (h : entity.schemaName = entity.name ++ suffix)
    {name : String} : answersTo name entity ↔
      entity.schemaName = name ∨ entity.schemaName = name ++ suffix := by
  rw [answersTo, Bool.or_eq_true, beq_iff_eq, beq_iff_eq, or_comm, h, String.append_left_inj]

theorem append_suffix_ne (name : String) : name ++ suffix ≠ name := by
  intro h
  have hlength := congrArg String.length h
  rw [String.length_append] at hlength
  have hsuffix : suffix.length = 6 := rfl
  omega

theorem mem_answering_iff (hnames : ∀ entity ∈ entities, entity.schemaName = entity.name ++ suffix)
    {name called : String} : called ∈ (entities.filter (answersTo name)).map schemaName ↔
      called ∈ entities.map schemaName ∧ (called = name ∨ called = name ++ suffix) := by
  simp only [List.mem_map, List.mem_filter]
  constructor
  · rintro ⟨entity, ⟨he, hanswers⟩, rfl⟩
    exact ⟨⟨entity, he, rfl⟩, (answersTo_iff (hnames entity he)).mp hanswers⟩
  · rintro ⟨⟨entity, he, rfl⟩, hcalled⟩
    exact ⟨entity, ⟨he, (answersTo_iff (hnames entity he)).mpr hcalled⟩, rfl⟩

/-- Nothing answers to a name, or one of the two that may, or both of them. -/
inductive Answering (names : List String) (name : String) : List Entity → Prop
  | nobody (hn : name ∉ names) (hs : name ++ suffix ∉ names) : Answering names name []
  | itself {entity} (he : entity.schemaName = name) (hn : name ∈ names)
      (hs : name ++ suffix ∉ names) : Answering names name [entity]
  | suffixed {entity} (he : entity.schemaName = name ++ suffix) (hn : name ∉ names)
      (hs : name ++ suffix ∈ names) : Answering names name [entity]
  | both {first second} (hp : [first.schemaName, second.schemaName].Perm [name, name ++ suffix])
      (hn : name ∈ names) (hs : name ++ suffix ∈ names) : Answering names name [first, second]

theorem answering_filter (hnames : ∀ entity ∈ entities, entity.schemaName = entity.name ++ suffix)
    (hdistinct : (entities.map schemaName).Nodup) (name : String) :
    Answering (entities.map schemaName) name (entities.filter (answersTo name)) := by
  have hfound : ∀ called, called ∈ (entities.filter (answersTo name)).map schemaName ↔
      called ∈ entities.map schemaName ∧ (called = name ∨ called = name ++ suffix) :=
    fun _ => mem_answering_iff hnames
  have hnodup : ((entities.filter (answersTo name)).map schemaName).Nodup :=
    hdistinct.sublist (List.filter_sublist.map _)
  have hself := hfound name
  have hsuffixed := hfound (name ++ suffix)
  have hother := append_suffix_ne name
  generalize entities.filter (answersTo name) = found at *
  match found with
  | [] =>
    apply Answering.nobody
    · simpa using hself
    · simpa using hsuffixed
  | [entity] =>
    have hcalled := ((hfound entity.schemaName).mp (by simp)).2
    rcases hcalled with hcalled | hcalled
    · apply Answering.itself hcalled
      · simpa [hcalled] using hself
      · simpa [hcalled, hother] using hsuffixed
    · apply Answering.suffixed hcalled
      · simpa [hcalled, hother.symm] using hself
      · simpa [hcalled] using hsuffixed
  | [first, second] =>
    have hfirst := ((hfound first.schemaName).mp (by simp)).2
    have hsecond := ((hfound second.schemaName).mp (by simp)).2
    have hne : first.schemaName ≠ second.schemaName := by simpa using hnodup
    rcases hfirst with hfirst | hfirst <;> rcases hsecond with hsecond | hsecond
    · exact absurd (hfirst.trans hsecond.symm) hne
    · refine .both ?_ ?_ ?_
      · rw [hfirst, hsecond]
      · simpa [hfirst] using hself
      · simpa [hsecond] using hsuffixed
    · refine .both ?_ ?_ ?_
      · rw [hfirst, hsecond]
        exact .swap ..
      · simpa [hsecond] using hself
      · simpa [hfirst] using hsuffixed
    · exact absurd (hfirst.trans hsecond.symm) hne
  | first :: second :: third :: rest =>
    have hsubset : (first :: second :: third :: rest).map schemaName ⊆ [name, name ++ suffix] := by
      intro called hcalled
      simpa using ((hfound called).mp hcalled).2
    have hlength := (hnodup.subperm hsubset).length_le
    simp at hlength

/-! ## What is found -/

/-- What a look-up comes to, given all that answers to the name. -/
def settle (name : String) : List Entity → Except Failure (Option Entity)
  | [] => .ok none
  | [entity] => .ok (some entity)
  | first :: second :: _ => .error (.namingCollision name first.schemaName second.schemaName)

theorem outcome_find? (h : (extract doc policy).outcome = .ok entities) (name : String) :
    (find? doc policy name).outcome = settle name (entities.filter (answersTo name)) := by
  rw [find?, Attempt.outcome_bind, h, ok_bind]
  match entities.filter (answersTo name) with
  | [] => rfl
  | [entity] => rfl
  | first :: second :: _ => rfl

section

variable {names : List String} {name : String} {found : List Entity}

theorem Answering.length_le (h : Answering names name found) : found.length ≤ 2 := by
  cases h <;> simp

theorem Answering.settle_eq_error_iff (h : Answering names name found) :
    (∃ failure, settle name found = .error failure) ↔ name ∈ names ∧ name ++ suffix ∈ names := by
  cases h with
  | nobody hn hs => simp [settle, hn]
  | itself he hn hs => simp [settle, hs]
  | suffixed he hn hs => simp [settle, hn]
  | both hp hn hs => simp [settle, hn, hs]

theorem Answering.settle_eq_none_iff (h : Answering names name found) :
    settle name found = .ok none ↔ name ∉ names ∧ name ++ suffix ∉ names := by
  cases h with
  | nobody hn hs => simp [settle, hn, hs]
  | itself he hn hs => simp [settle, hn]
  | suffixed he hn hs => simp [settle, hs]
  | both hp hn hs => simp [settle, hn]

/-- The two that collide are named in the order in which they answer. -/
theorem Answering.exists_of_settle_eq_error (h : Answering names name found) {failure : Failure}
    (hf : settle name found = .error failure) : ∃ first second,
      failure = .namingCollision name first second ∧ found.map schemaName = [first, second] ∧
        [first, second].Perm [name, name ++ suffix] := by
  cases h with
  | nobody => cases hf
  | itself => cases hf
  | suffixed => cases hf
  | both hp hn hs =>
    cases hf
    exact ⟨_, _, rfl, rfl, hp⟩

theorem Answering.settle_eq_some_iff (h : Answering names name found) {entity : Entity} :
    settle name found = .ok (some entity) ↔ entity ∈ found ∧
      (entity.schemaName = name ∧ name ++ suffix ∉ names ∨
        entity.schemaName = name ++ suffix ∧ name ∉ names) := by
  cases h with
  | nobody => simp [settle]
  | @itself found he hn hs =>
    simp only [settle, Except.ok.injEq, Option.some.injEq, List.mem_singleton]
    constructor
    · rintro rfl
      exact ⟨rfl, .inl ⟨he, hs⟩⟩
    · rintro ⟨rfl, -⟩
      rfl
  | @suffixed found he hn hs =>
    simp only [settle, Except.ok.injEq, Option.some.injEq, List.mem_singleton]
    constructor
    · rintro rfl
      exact ⟨rfl, .inr ⟨he, hn⟩⟩
    · rintro ⟨rfl, -⟩
      rfl
  | both hp hn hs => simp [settle, hn, hs]

end

theorem nodup_schemaNames (hd : doc.DistinctKeys) (h : (extract doc policy).outcome = .ok entities) :
    (entities.map schemaName).Nodup :=
  hd.schemas.sublist (schemaNames_sublist h)

theorem nodup_names (hd : doc.DistinctKeys) (h : (extract doc policy).outcome = .ok entities) :
    (entities.map Entity.name).Nodup := by
  have hsuffixed : entities.map schemaName = (entities.map Entity.name).map (· ++ suffix) := by
    rw [List.map_map]
    exact List.map_congr_left fun entity he => schemaName_eq_append h he
  have hnodup := nodup_schemaNames hd h
  rw [hsuffixed] at hnodup
  exact hnodup.of_map _

/-- The entities are the schemas that have a name in front of the suffix, in the order in which they
are declared, and no two have the same name. A name that is looked up is in dispute exactly if an
entity and, with one more suffix, another schema are called by it, and the two are then reported in
the order of the document. Any other name finds the one of the two that there is, or none. Never do
more than two entities answer. -/
theorem lookup_after_extract (hd : doc.DistinctKeys)
    (h : (extract doc policy).outcome = .ok entities) :
    (entities.map schemaName).Sublist (KeyedList.keys doc.components.schemas) ∧
    (∀ called, called ∈ entities.map schemaName ↔
      called ∈ KeyedList.keys doc.components.schemas ∧
        ∃ name, name ≠ "" ∧ called = name ++ "Entity") ∧
    (∀ entity ∈ entities, entity.schemaName = entity.name ++ "Entity" ∧ ∃ schema,
      doc.schema? entity.schemaName = some schema ∧
        (flattenSchema doc policy entity.schemaName schema).outcome = .ok entity.properties) ∧
    (entities.map Entity.name).Nodup ∧
    ∀ name,
      ((∃ failure, (find? doc policy name).outcome = .error failure) ↔
        name ∈ entities.map schemaName ∧
          name ++ "Entity" ∈ KeyedList.keys doc.components.schemas) ∧
      (∀ failure, (find? doc policy name).outcome = .error failure → ∃ first second,
        failure = .namingCollision name first second ∧
          [first, second].Perm [name, name ++ "Entity"] ∧
            [first, second].Sublist (KeyedList.keys doc.components.schemas)) ∧
      ((find? doc policy name).outcome = .ok none ↔
        name ∉ entities.map schemaName ∧
          name ++ "Entity" ∉ KeyedList.keys doc.components.schemas) ∧
      (∀ entity, (find? doc policy name).outcome = .ok (some entity) ↔ entity ∈ entities ∧
        (entity.schemaName = name ∧ name ++ "Entity" ∉ KeyedList.keys doc.components.schemas ∨
          entity.schemaName = name ++ "Entity" ∧ name ∉ entities.map schemaName)) ∧
      (entities.filter (answersTo name)).length ≤ 2 := by
  have hnames : ∀ entity ∈ entities, entity.schemaName = entity.name ++ suffix :=
    fun entity he => schemaName_eq_append h he
  refine ⟨schemaNames_sublist h, fun called => mem_schemaNames_iff h,
    fun entity he => ⟨hnames entity he, schema_of_mem hd h he⟩, nodup_names hd h, fun name => ?_⟩
  have hanswering := answering_filter hnames (nodup_schemaNames hd h) name
  have hdeclared : name ++ "Entity" ∈ KeyedList.keys doc.components.schemas ↔
      name ++ suffix ∈ entities.map schemaName := (append_suffix_mem_schemaNames_iff h).symm
  rw [outcome_find? h, hdeclared]
  refine ⟨hanswering.settle_eq_error_iff, ?_, hanswering.settle_eq_none_iff, ?_,
    hanswering.length_le⟩
  · intro failure hf
    obtain ⟨first, second, rfl, hfound, hp⟩ := hanswering.exists_of_settle_eq_error hf
    refine ⟨first, second, rfl, hp, ?_⟩
    rw [← hfound]
    exact (List.filter_sublist.map _).trans (schemaNames_sublist h)
  · intro entity
    rw [hanswering.settle_eq_some_iff, List.mem_filter, and_assoc]
    refine and_congr_right fun he => and_iff_right_of_imp fun hcalled => ?_
    rw [answersTo_iff (hnames entity he)]
    exact hcalled.imp And.left And.left

/-- An entity called like another one without its suffix, which is declared first. -/
def nestedNames : Document :=
  .ofKeys [] [("OrderEntityEntity", {}), ("Order", {}), ("OrderEntity", {})]

theorem lookup_after_extract_nestedNames :
    nestedNames.DistinctKeys ∧
      ∃ entities, (extract nestedNames .error).outcome = .ok entities ∧
        entities.map schemaName = ["OrderEntityEntity", "OrderEntity"] ∧
        (find? nestedNames .error "OrderEntity").outcome = .error
          (.namingCollision "OrderEntity" "OrderEntityEntity" "OrderEntity") ∧
        ∃ entity ∈ entities, entity.schemaName = "OrderEntity" ∧
          (find? nestedNames .error "Order").outcome = .ok (some entity) := by
  have hd : nestedNames.DistinctKeys := Document.distinctKeys_ofKeys (by decide) (by decide)
  have hextract : (extract nestedNames .error).outcome.map (List.map schemaName) =
      .ok ["OrderEntityEntity", "OrderEntity"] := by decide +kernel
  obtain ⟨entities, h, hnames⟩ := map_eq_ok_iff.mp hextract
  obtain ⟨-, -, -, -, hfind⟩ := lookup_after_extract hd h
  refine ⟨hd, entities, h, hnames, ?_, ?_⟩
  · obtain ⟨hdisputed, hreported, -⟩ := hfind "OrderEntity"
    obtain ⟨failure, hfailure⟩ := hdisputed.mpr (by rw [hnames]; decide)
    obtain ⟨first, second, rfl, hp, hs⟩ := hreported failure hfailure
    rcases List.perm_pair.mp hp with hp | hp
    · cases hp
      exact absurd hs (by decide)
    · cases hp
      exact hfailure
  · have hmem : "OrderEntity" ∈ entities.map schemaName := by
      rw [hnames]
      decide
    obtain ⟨entity, he, hname⟩ := List.mem_map.mp hmem
    refine ⟨entity, he, hname, ((hfind "Order").2.2.2.1 entity).mpr ⟨he, .inr ⟨hname, ?_⟩⟩⟩
    rw [hnames]
    decide

end OpenApiGen.Entity
