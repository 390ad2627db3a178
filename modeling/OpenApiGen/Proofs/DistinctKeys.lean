import OpenApiGen.Workspace
import OpenApiGen.Proofs.Runs
import Mathlib.Data.List.Nodup

/-! # Keys that stand once, in the values that are read and in the documents made of them -/

namespace OpenApiGen

theorem KeyedList.mem_of_mem_put {α : Type} {key : String} {value : α} {entry : String × α}
    {entries : List (String × α)} (h : entry ∈ put key value entries) :
    entry = (key, value) ∨ entry ∈ entries := by
  induction entries with
  | nil => simpa [put] using h
  | cons e rest ih =>
    obtain ⟨k, v⟩ := e
    rw [put] at h
    split at h
    · rcases List.mem_cons.mp h with h | h
      · exact .inl h
      · exact .inr (List.mem_cons_of_mem _ h)
    · rcases List.mem_cons.mp h with h | h
      · exact .inr (h ▸ List.mem_cons_self ..)
      · exact (ih h).imp_right (List.mem_cons_of_mem _)

theorem KeyedList.mem_of_mem_ofList {α : Type} {entry : String × α} {entries : List (String × α)}
    (h : entry ∈ ofList entries) : entry ∈ entries := by
  have hfold : ∀ acc : List (String × α),
      entry ∈ entries.foldl (fun acc e => put e.1 e.2 acc) acc → entry ∈ acc ∨ entry ∈ entries := by
    clear h
    induction entries with
    | nil => exact fun acc h => .inl h
    | cons e rest ih =>
      intro acc h
      rcases ih _ h with h | h
      · rcases mem_of_mem_put h with rfl | h
        · exact .inr (List.mem_cons_self ..)
        · exact .inl h
      · exact .inr (List.mem_cons_of_mem _ h)
  simpa using hfold [] h

theorem exists_of_mem_mapM_option {α β : Type} {f : α → Option β} {xs : List α} {ys : List β}
    (h : xs.mapM f = some ys) {y : β} (hy : y ∈ ys) : ∃ x ∈ xs, f x = some y := by
  induction xs generalizing ys with
  | nil =>
    cases h
    cases hy
  | cons x xs ih =>
    simp only [List.mapM_cons, Option.bind_eq_bind, Option.bind_eq_some_iff] at h
    obtain ⟨first, hfirst, rest, hrest, h⟩ := h
    cases h
    rcases List.mem_cons.mp hy with rfl | hy
    · exact ⟨x, List.mem_cons_self .., hfirst⟩
    · obtain ⟨z, hz, hf⟩ := ih hrest hy
      exact ⟨z, List.mem_cons_of_mem _ hz, hf⟩

/-- No object of the value, at any depth, has a key twice. -/
inductive Json.DistinctKeys : Json → Prop
  | null : DistinctKeys .null
  | boolean (b : Bool) : DistinctKeys (.boolean b)
  | number (n : Number) : DistinctKeys (.number n)
  | string (s : String) : DistinctKeys (.string s)
  | array {items} (h : ∀ item ∈ items, DistinctKeys item) : DistinctKeys (.array items)
  | object {entries} (hn : (KeyedList.keys entries).Nodup)
      (h : ∀ entry ∈ entries, DistinctKeys entry.2) : DistinctKeys (.object entries)

namespace Json.DistinctKeys

theorem ofList {entries : List (String × Json)} (h : ∀ entry ∈ entries, DistinctKeys entry.2) :
    DistinctKeys (.object (KeyedList.ofList entries)) :=
  .object (KeyedList.nodup_ofList entries) fun _ he => h _ (KeyedList.mem_of_mem_ofList he)

/-- The entries of a JSON object are put in one by one. -/
theorem of_toJson? : ∀ {levels : Nat} {text : JsonText} {value : Json},
    text.toJson? levels = some value → value.DistinctKeys
  | _, .null, _, h => by
    rw [JsonText.toJson?] at h
    cases h
    exact .null
  | _, .boolean b, _, h => by
    rw [JsonText.toJson?] at h
    cases h
    exact .boolean b
  | _, .number n, _, h => by
    rw [JsonText.toJson?, Option.map_eq_some_iff] at h
    obtain ⟨n, -, rfl⟩ := h
    exact .number n
  | _, .string pieces, _, h => by
    rw [JsonText.toJson?, Option.map_eq_some_iff] at h
    obtain ⟨s, -, rfl⟩ := h
    exact .string s
  | 0, .array _, _, h => by simp [JsonText.toJson?] at h
  | 0, .object _, _, h => by simp [JsonText.toJson?] at h
  | levels + 1, .array texts, _, h => by
    rw [JsonText.toJson?, Option.map_eq_some_iff] at h
    obtain ⟨items, hitems, rfl⟩ := h
    refine .array fun item hi => ?_
    obtain ⟨text, -, ht⟩ := exists_of_mem_mapM_option hitems hi
    exact of_toJson? ht
  | levels + 1, .object texts, _, h => by
    rw [JsonText.toJson?, Option.map_eq_some_iff] at h
    obtain ⟨entries, hentries, rfl⟩ := h
    refine ofList fun entry he => ?_
    obtain ⟨text, -, ht⟩ := exists_of_mem_mapM_option hentries he
    simp only [Option.bind_eq_bind, Option.bind_eq_some_iff, Option.pure_def,
      Option.some.injEq] at ht
    obtain ⟨key, -, value, hvalue, rfl⟩ := ht
    exact of_toJson? hvalue

theorem of_parse? {text : String} {value : Json} (h : Json.parse? text = some value) :
    value.DistinctKeys := by
  obtain ⟨tree, -, hvalue⟩ := Option.bind_eq_some_iff.mp h
  exact of_toJson? hvalue

end Json.DistinctKeys

namespace Yaml

theorem run_bind_eq_some_iff {α β : Type} {x : Resolving α} {f : α → Resolving β}
    {jumps jumps' : Nat} {b : β} : (x >>= f).run jumps = some (b, jumps') ↔
      ∃ a middle, x.run jumps = some (a, middle) ∧ (f a).run middle = some (b, jumps') := by
  simp only [StateT.run_bind, Option.bind_eq_bind, Option.bind_eq_some_iff, Prod.exists]

theorem run_pure_eq_some_iff {α : Type} {a b : α} {jumps jumps' : Nat} :
    (pure a : Resolving α).run jumps = some (b, jumps') ↔ a = b ∧ jumps = jumps' := by
  simp

theorem exists_of_mem_mapM_resolving {α β : Type} {f : α → Resolving β} {xs : List α}
    {ys : List β} {jumps jumps' : Nat} (h : (xs.mapM f).run jumps = some (ys, jumps')) {y : β}
    (hy : y ∈ ys) : ∃ x ∈ xs, ∃ before after, (f x).run before = some (y, after) := by
  induction xs generalizing ys jumps with
  | nil =>
    cases h
    cases hy
  | cons x xs ih =>
    simp only [List.mapM_cons, run_bind_eq_some_iff, run_pure_eq_some_iff] at h
    obtain ⟨first, middle, hfirst, rest, last, hrest, rfl, rfl⟩ := h
    rcases List.mem_cons.mp hy with rfl | hy
    · exact ⟨x, List.mem_cons_self .., _, _, hfirst⟩
    · obtain ⟨z, hz, hf⟩ := ih hrest hy
      exact ⟨z, List.mem_cons_of_mem _ hz, hf⟩

theorem distinctKeys_of_integerJson? {n : Int} {value : Json} (h : integerJson? n = some value) :
    value.DistinctKeys := by
  unfold integerJson? at h
  split at h
  · cases h
    exact .number _
  · cases h

theorem distinctKeys_of_numberJson? {text : String} {value : Json}
    (h : numberJson? text = some value) : value.DistinctKeys := by
  unfold numberJson? at h
  split at h
  · cases h
    exact .null
  · obtain ⟨x, -, rfl⟩ := Option.map_eq_some_iff.mp h
    exact .number _

theorem distinctKeys_of_plainJson? {text : String} {value : Json}
    (h : plainJson? text = some value) : value.DistinctKeys := by
  unfold plainJson? at h
  split at h
  · cases h
    exact .null
  · split at h
    · cases h
      exact .boolean _
    · split at h
      · exact distinctKeys_of_integerJson? h
      · split at h
        · cases h
          exact .string _
        · cases hn : numberJson? text with
          | none =>
            rw [hn] at h
            cases h
            exact .string _
          | some number =>
            rw [hn] at h
            cases h
            exact distinctKeys_of_numberJson? hn

theorem distinctKeys_of_scalarJson? {tag : Option String} {style : Style} {text : String}
    {value : Json} (h : scalarJson? tag style text = some value) : value.DistinctKeys := by
  unfold scalarJson? at h
  split at h
  · split at h
    · exact distinctKeys_of_plainJson? h
    · cases h
      exact .string _
  · split at h
    · cases h
    · split at h
      · obtain ⟨b, -, rfl⟩ := Option.map_eq_some_iff.mp h
        exact .boolean b
      · split at h
        · obtain ⟨n, -, hn⟩ := Option.bind_eq_some_iff.mp h
          exact distinctKeys_of_integerJson? hn
        · split at h
          · exact distinctKeys_of_numberJson? h
          · split at h
            · split at h
              · cases h
                exact .null
              · cases h
            · cases h
              exact .string _

theorem distinctKeys_of_resolve {doc : Document} {fuel levels : Nat} {node : Node} {value : Json}
    {jumps jumps' : Nat} (h : (doc.resolve fuel levels node).run jumps = some (value, jumps')) :
    value.DistinctKeys := by
  induction fuel generalizing levels node value jumps jumps' with
  | zero => cases h
  | succ fuel ih =>
    cases node with
    | anchored n =>
      simp only [Document.resolve, run_bind_eq_some_iff] at h
      obtain ⟨target, middle, -, h⟩ := h
      exact ih h
    | scalar p style text =>
      simp only [Document.resolve] at h
      split at h
      · rename_i hvalue
        cases h
        exact distinctKeys_of_scalarJson? hvalue
      · cases h
    | sequence p nodes =>
      simp only [Document.resolve] at h
      split at h
      · cases h
      · simp only [run_bind_eq_some_iff, run_pure_eq_some_iff] at h
        obtain ⟨items, last, hitems, rfl, -⟩ := h
        refine .array fun item hi => ?_
        obtain ⟨node, -, before, after, hf⟩ := exists_of_mem_mapM_resolving hitems hi
        exact ih hf
    | mapping p nodes =>
      simp only [Document.resolve] at h
      split at h
      · cases h
      · simp only [run_bind_eq_some_iff, run_pure_eq_some_iff] at h
        obtain ⟨entries, last, hentries, rfl, -⟩ := h
        refine .ofList fun entry he => ?_
        obtain ⟨node, -, before, after, hf⟩ := exists_of_mem_mapM_resolving hentries he
        simp only [run_bind_eq_some_iff, run_pure_eq_some_iff] at hf
        obtain ⟨key, afterKey, -, inner, afterValue, hinner, rfl, -⟩ := hf
        exact ih hinner

theorem distinctKeys_of_toJson? {text : String} {value : Json} (h : toJson? text = some value) :
    value.DistinctKeys := by
  unfold toJson? at h
  split at h
  · cases h
  · cases h
    exact .null
  · obtain ⟨⟨value, jumps⟩, hresolve, rfl⟩ := Option.map_eq_some_iff.mp h
    exact distinctKeys_of_resolve hresolve

end Yaml

namespace Decode

variable {α : Type}

theorem entries_of_map {decode : Json → Decoded α} {value : Json} {entries : List (String × α)}
    (h : map decode value = .ok entries) : ∃ sources, value = .object sources ∧
      List.Forall₂ (fun source entry => source.1 = entry.1 ∧ decode source.2 = .ok entry.2)
        sources entries := by
  cases value with
  | object sources =>
    refine ⟨sources, rfl, (mapM_eq_ok_iff.mp h).imp ?_⟩
    intro source entry he
    obtain ⟨a, ha, he⟩ := bind_eq_ok_iff.mp he
    cases he
    exact ⟨rfl, ha⟩
  | _ => cases h

theorem nodup_keys_of_map {decode : Json → Decoded α} {value : Json} {entries : List (String × α)}
    (hv : value.DistinctKeys) (h : map decode value = .ok entries) :
    (KeyedList.keys entries).Nodup := by
  obtain ⟨sources, rfl, hentries⟩ := entries_of_map h
  cases hv with
  | object hn _ =>
    rw [KeyedList.keys, ← map_eq_map_of_forall₂ (hentries.imp fun _ _ he => he.1)]
    exact hn

theorem of_optional {decode : Json → Decoded α} {value : Json} {result : Option α}
    (h : optional decode value = .ok result) :
    result = none ∨ ∃ a, result = some a ∧ decode value = .ok a := by
  unfold optional at h
  split at h
  · cases h
    exact .inl rfl
  · obtain ⟨a, ha, rfl⟩ := map_eq_ok_iff.mp h
    exact .inr ⟨a, rfl, ha⟩

end Decode

/-- What each step of a loop keeps holds when the loop has come to its end. -/
theorem of_foldlM {α β ε : Type} {P : β → Prop} {f : β → α → Except ε β} {xs : List α}
    (hstep : ∀ x ∈ xs, ∀ b b', P b → f b x = .ok b' → P b') {b b' : β} (hb : P b)
    (h : xs.foldlM f b = .ok b') : P b' := by
  induction xs generalizing b with
  | nil =>
    cases h
    exact hb
  | cons x xs ih =>
    obtain ⟨next, hnext, h⟩ := bind_eq_ok_iff.mp h
    exact ih (fun y hy => hstep y (List.mem_cons_of_mem _ hy))
      (hstep x (List.mem_cons_self ..) b next hb hnext) h

namespace Shape

variable {σ : Type} {shape : Shape σ} {P : σ → Prop}

theorem of_readItems (hread : ∀ field ∈ shape.fields, ∀ value : Json, value.DistinctKeys →
      ∀ s s', P s → field.read value s = .ok s' → P s')
    {count : Nat} {fields : List (Field σ)} (hfields : fields ⊆ shape.fields) {values : List Json}
    (hvalues : ∀ value ∈ values, value.DistinctKeys) {start s : σ} (hp : P start)
    (h : shape.readItems count fields values start = .ok s) : P s := by
  induction fields generalizing values start with
  | nil =>
    cases values with
    | nil =>
      cases h
      exact hp
    | cons value values => cases h
  | cons field fields ih =>
    obtain ⟨hfield, hfields⟩ := List.cons_subset.mp hfields
    cases values with
    | nil =>
      rw [readItems] at h
      split at h
      · cases h
      · exact ih hfields hvalues hp h
    | cons value values =>
      obtain ⟨hvalue, hvalues⟩ := List.forall_mem_cons.mp hvalues
      obtain ⟨next, hnext, h⟩ := bind_eq_ok_iff.mp h
      exact ih hfields hvalues (hread field hfield value hvalue start next hp hnext) h

/-- What the record has to start with, and keeps with each of its fields, it has when it is
decoded. -/
theorem of_decode (hstart : P shape.start)
    (hread : ∀ field ∈ shape.fields, ∀ value : Json, value.DistinctKeys → ∀ s s', P s →
      field.read value s = .ok s' → P s')
    {value : Json} (hv : value.DistinctKeys) {s : σ} (h : shape.decode value = .ok s) : P s := by
  cases hv with
  | object _ hentries =>
    obtain ⟨filled, hfill, h⟩ := bind_eq_ok_iff.mp h
    have hfilled : P filled := by
      refine of_foldlM (fun entry he s s' hp hs => ?_) hstart hfill
      dsimp only at hs
      split at hs
      · rename_i field hfield
        exact hread field (List.mem_of_find?_eq_some hfield) _ (hentries entry he) s s' hp hs
      · cases hs
        exact hp
    split at h
    · cases h
    · cases h
      exact hfilled
  | array hitems => exact of_readItems hread (List.Subset.refl _) hitems hstart h
  | _ => cases h

end Shape

theorem Verb.name_of_ofName? {key : String} {verb : Verb} (h : ofName? key = some verb) :
    verb.name = key := by
  simpa using List.find?_some h

namespace PathItem

theorem names_of_ofEntries {entries : List (String × Json)} {item : PathItem}
    (h : ofEntries entries = .ok item) :
    (item.map fun operation => operation.1.name).Sublist (KeyedList.keys entries) := by
  induction entries generalizing item with
  | nil =>
    cases h
    exact List.Sublist.refl _
  | cons entry entries ih =>
    obtain ⟨key, value⟩ := entry
    rw [ofEntries] at h
    split at h
    · exact (ih h).cons key
    · rename_i verb hverb
      split at h
      · cases h
      · obtain ⟨rest, hrest, h⟩ := bind_eq_ok_iff.mp h
        cases h
        rw [List.map_cons, Verb.name_of_ofName? hverb]
        exact (ih hrest).cons_cons key

theorem nodup_verbs {value : Json} (hv : value.DistinctKeys) {item : PathItem}
    (h : decode value = .ok item) : (item.map Prod.fst).Nodup := by
  cases hv with
  | object hn _ =>
    have hnames : ((item.map Prod.fst).map Verb.name).Nodup := by
      rw [List.map_map]
      exact hn.sublist (names_of_ofEntries h)
    exact hnames.of_map _
  | _ => cases h

end PathItem

theorem Components.nodup_schemas {value : Json} (hv : value.DistinctKeys) {components : Components}
    (h : shape.decode value = .ok components) : (KeyedList.keys components.schemas).Nodup := by
  have hstart : (KeyedList.keys shape.start.schemas).Nodup := List.nodup_nil
  refine Shape.of_decode (P := fun components => (KeyedList.keys components.schemas).Nodup)
    hstart ?_ hv h
  intro field hfield value hv s s' hs hread
  simp only [shape, Field.defaulted, List.mem_cons, List.not_mem_nil, or_false] at hfield
  rcases hfield with rfl | rfl | rfl | rfl
  · obtain ⟨schemas, hschemas, rfl⟩ := map_eq_ok_iff.mp hread
    exact Decode.nodup_keys_of_map hv hschemas
  · obtain ⟨parameters, -, rfl⟩ := map_eq_ok_iff.mp hread
    exact hs
  · obtain ⟨bodies, -, rfl⟩ := map_eq_ok_iff.mp hread
    exact hs
  · obtain ⟨schemes, -, rfl⟩ := map_eq_ok_iff.mp hread
    exact hs

namespace Document

/-- Paths, the verbs of a path and schemas stand once each, as in every document that is read
(`distinctKeys_of_ofText`). -/
structure DistinctKeys (doc : Document) : Prop where
  paths : (KeyedList.keys doc.paths).Nodup
  verbs : ∀ entry ∈ doc.paths, (entry.2.map Prod.fst).Nodup
  schemas : (KeyedList.keys doc.components.schemas).Nodup

theorem decode_of_section? {α : Type} {root : List (String × Json)} {key : String}
    {decode : Json → Decoded α} {a : α} (h : section? root key decode = .ok a) :
    decode ((KeyedList.find? key root).getD .null) = .ok a := by
  unfold section? at h
  split at h
  · rename_i a' ha
    cases h
    exact ha
  · cases h

theorem distinctKeys_of_root {root : List (String × Json)}
    (hr : (Json.object root).DistinctKeys) (key : String) :
    ((KeyedList.find? key root).getD .null).DistinctKeys := by
  cases hr with
  | object _ hentries =>
    cases hfind : KeyedList.find? key root with
    | none => exact .null
    | some value => exact hentries _ (KeyedList.mem_of_find? hfind)

theorem distinctKeys_of_ofJson {value : Json} (hv : value.DistinctKeys) {doc : Document}
    (h : ofJson value = .ok doc) : doc.DistinctKeys := by
  obtain ⟨-, -, h⟩ := bind_eq_ok_iff.mp h
  cases value with
  | object root =>
    simp only [ofRoot, bind_eq_ok_iff] at h
    obtain ⟨openapi, -, info, -, paths, hpaths, components, hcomponents, h⟩ := h
    cases h
    refine ⟨?_, ?_, ?_⟩
    · rcases Decode.of_optional (decode_of_section? hpaths) with rfl | ⟨entries, rfl, hentries⟩
      · exact List.nodup_nil
      · exact Decode.nodup_keys_of_map (distinctKeys_of_root hv _) hentries
    · rcases Decode.of_optional (decode_of_section? hpaths) with rfl | ⟨entries, rfl, hentries⟩
      · simp
      · have hvalue := distinctKeys_of_root hv "paths"
        obtain ⟨sources, hsources, hdecoded⟩ := Decode.entries_of_map hentries
        rw [hsources] at hvalue
        cases hvalue with
        | object _ hitems =>
          intro entry he
          obtain ⟨source, hs, -, hdecode⟩ := exists_of_forall₂ hdecoded he
          exact PathItem.nodup_verbs (hitems source hs) hdecode
    · rcases Decode.of_optional (decode_of_section? hcomponents) with rfl | ⟨found, rfl, hfound⟩
      · exact List.nodup_nil
      · exact Components.nodup_schemas (distinctKeys_of_root hv _) hfound
  | _ => cases h

theorem distinctKeys_of_parse? {format : DocumentFormat} {text : String} {value : Json}
    (h : format.parse? text = some value) : value.DistinctKeys := by
  cases format with
  | json => exact Json.DistinctKeys.of_parse? h
  | yaml => exact Yaml.distinctKeys_of_toJson? h

/-- A document that was read has no path, verb or schema twice. -/
theorem distinctKeys_of_ofText {format : DocumentFormat} {text : String} {doc : Document}
    (h : (ofText format text).outcome = .ok doc) : doc.DistinctKeys := by
  unfold ofText at h
  split at h
  · cases h
  · rename_i value hvalue
    unfold load at h
    split at h
    · cases h
    · rename_i found hfound
      cases h
      exact distinctKeys_of_ofJson (distinctKeys_of_parse? hvalue) hfound

/-- A document of paths with one operation each, and of schemas. -/
def ofKeys (paths : List String) (schemas : List (String × Schema)) : Document where
  openapi := "3.0.0"
  info := ⟨"Keys", "1", none⟩
  paths := paths.map fun path => (path, [(.get, ⟨none, none, none, none, none⟩)])
  components := { schemas := schemas }

theorem distinctKeys_ofKeys {paths : List String} {schemas : List (String × Schema)}
    (hp : paths.Nodup) (hs : (KeyedList.keys schemas).Nodup) :
    (ofKeys paths schemas).DistinctKeys where
  paths := by simpa [ofKeys, KeyedList.keys, Function.comp_def] using hp
  verbs := by simp [ofKeys]
  schemas := hs

end Document
end OpenApiGen
