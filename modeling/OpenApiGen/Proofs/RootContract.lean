import OpenApiGen.Proofs.DistinctKeys
import OpenApiGen.Proofs.DocumentErrors

/-!
# What can fail behind the contract of the root

A value that meets the contract has the version, the title and the version of the API as texts. The
one thing left to fail in front of the paths and the components is the description of the API, which
the contract does not look at.
-/

namespace OpenApiGen

namespace Decode

variable {α : Type}

def errors (decode : Json → Decoded α) (value : Json) : List ShapeError :=
  match decode value with
  | .ok _ => []
  | .error reason => [reason]

theorem endsAt_map {β : Type} (decode : Json → Decoded α) (value : Json) (f : α → β) :
    EndsAt (errors decode value) ((decode value).map f) := by
  unfold errors
  cases decode value with
  | ok a => exact .ok (f a)
  | error reason => exact .error reason []

/-- The only values that an optional text takes are texts and null. -/
theorem errors_optional_string {value : Json} (hnull : value ≠ .null)
    (htext : ∀ text, value ≠ .string text) :
    errors (optional string) value = [.invalidType (Found.ofJson value) "a string"] := by
  cases value with
  | null => exact absurd rfl hnull
  | string text => exact absurd rfl (htext text)
  | _ => rfl

end Decode

namespace Document

theorem requireString_eq_ok_iff {field text : String} {entry : Option Json} :
    requireString field entry = .ok text ↔ entry = some (.string text) := by
  unfold requireString require
  cases entry with
  | none => simp
  | some value => cases value <;> simp

theorem requireObject_eq_ok_iff {field : String} {entry : Option Json}
    {entries : List (String × Json)} :
    requireObject field entry = .ok entries ↔ entry = some (.object entries) := by
  unfold requireObject require
  cases entry with
  | none => simp
  | some value => cases value <;> simp

/-- What the contract asks of the entries of the root and of those under `info`. -/
structure MeetsContract (root info : List (String × Json)) : Prop where
  supported : ∃ version, KeyedList.find? "openapi" root = some (.string version) ∧
    "3.".toList <+: version.toList
  described : KeyedList.find? "info" root = some (.object info)
  titled : ∃ title, KeyedList.find? "title" info = some (.string title)
  versioned : ∃ version, KeyedList.find? "version" info = some (.string version)
  routed : ∃ paths, KeyedList.find? "paths" root = some (.object paths)

theorem validate_object_eq_ok_iff {root : List (String × Json)} :
    validate (.object root) = .ok () ↔ ∃ info, MeetsContract root info := by
  simp only [validate, bind_eq_ok_iff, requireString_eq_ok_iff]
  constructor
  · rintro ⟨version, hversion, h⟩
    split at h
    · cases h
    · rename_i hprefix
      rw [Bool.not_eq_true, Bool.not_eq_false', List.isPrefixOf_iff_prefix] at hprefix
      simp only [bind_eq_ok_iff, requireString_eq_ok_iff, requireObject_eq_ok_iff] at h
      obtain ⟨info, hinfo, title, htitle, apiVersion, hapi, paths, hpaths, -⟩ := h
      exact ⟨info, ⟨version, hversion, hprefix⟩, hinfo, ⟨title, htitle⟩, ⟨apiVersion, hapi⟩,
        ⟨paths, hpaths⟩⟩
  · rintro ⟨info, ⟨version, hversion, hprefix⟩, hinfo, ⟨title, htitle⟩, ⟨apiVersion, hapi⟩,
      ⟨paths, hpaths⟩⟩
    refine ⟨version, hversion, ?_⟩
    rw [if_neg (by simpa using List.isPrefixOf_iff_prefix.mpr hprefix)]
    simp only [bind_eq_ok_iff, requireString_eq_ok_iff, requireObject_eq_ok_iff]
    exact ⟨info, hinfo, title, htitle, apiVersion, hapi, paths, hpaths, rfl⟩

end Document

namespace Info

/-- What is wrong with an entry of the information about an API. -/
def errors (entry : String × Json) : List ShapeError :=
  if entry.1 = "title" ∨ entry.1 = "version" then Decode.errors Decode.string entry.2
  else if entry.1 = "description" then Decode.errors (Decode.optional Decode.string) entry.2
  else []

theorem endsAt_fill (entries : List (String × Json)) :
    EndsAt (entries.flatMap errors) (shape.fill entries) := by
  refine EndsAt.foldlM entries (fun s entry _ => ?_) shape.start
  obtain ⟨key, value⟩ := entry
  by_cases htitle : key = "title"
  · subst htitle
    exact Decode.endsAt_map Decode.string value _
  by_cases hversion : key = "version"
  · subst hversion
    exact Decode.endsAt_map Decode.string value _
  by_cases hdescription : key = "description"
  · subst hdescription
    exact Decode.endsAt_map (Decode.optional Decode.string) value _
  · have hunknown : shape.fields.find? (·.name == key) = none := by
      simp [shape, Field.needed, Field.defaulted, Ne.symm htitle, Ne.symm hversion,
        Ne.symm hdescription]
    simp only [hunknown, errors, htitle, hversion, hdescription, or_self, if_false]
    exact .ok s

end Info

namespace Document

/-- The description of the API stands in a value and is neither a text nor null. -/
structure Misdescribes (value description : Json) : Prop where
  stands : ∃ root info, value = .object root ∧
    KeyedList.find? "info" root = some (.object info) ∧
      KeyedList.find? "description" info = some description
  ne_null : description ≠ .null
  ne_string : ∀ text, description ≠ .string text

variable {root info : List (String × Json)}

namespace MeetsContract

theorem errors_eq_nil (h : MeetsContract root info) (hn : (KeyedList.keys info).Nodup)
    {entry : String × Json} (he : entry ∈ info) (hkey : entry.1 ≠ "description") :
    Info.errors entry = [] := by
  obtain ⟨key, value⟩ := entry
  have hfind := KeyedList.find?_of_mem hn he
  by_cases hcontract : key = "title" ∨ key = "version"
  · obtain ⟨text, rfl⟩ : ∃ text, value = .string text := by
      rcases hcontract with rfl | rfl
      · obtain ⟨title, htitle⟩ := h.titled
        exact ⟨title, Option.some.inj (hfind.symm.trans htitle)⟩
      · obtain ⟨version, hversion⟩ := h.versioned
        exact ⟨version, Option.some.inj (hfind.symm.trans hversion)⟩
    exact if_pos hcontract
  · exact (if_neg hcontract).trans (if_neg hkey)

theorem missing?_eq_none (h : MeetsContract root info) : Info.shape.missing? info = none := by
  have hmem {key : String} {value : Json} (hfind : KeyedList.find? key info = some value) :
      key ∈ KeyedList.keys info :=
    List.mem_map.mpr ⟨_, KeyedList.mem_of_find? hfind, rfl⟩
  obtain ⟨title, htitle⟩ := h.titled
  obtain ⟨version, hversion⟩ := h.versioned
  simp [Shape.missing?, Info.shape, Field.needed, Field.defaulted, hmem htitle, hmem hversion]

theorem decode_eq_error (h : MeetsContract root info) (hn : (KeyedList.keys info).Nodup)
    {description : Json} (hd : Misdescribes (.object root) description) :
    Info.shape.decode (.object info) =
      .error (.invalidType (Found.ofJson description) "a string") := by
  obtain ⟨_, found, hroot, hinfo, hfind⟩ := hd.stands
  cases hroot
  cases Option.some.inj (h.described.symm.trans hinfo)
  obtain ⟨front, back, hsplit⟩ := List.append_of_mem (KeyedList.mem_of_find? hfind)
  have hfront : front.flatMap Info.errors = [] := by
    refine List.flatMap_eq_nil_iff.mpr fun entry he => ?_
    refine h.errors_eq_nil hn (hsplit ▸ List.mem_append_left _ he) fun hkey => ?_
    rw [hsplit, KeyedList.keys, List.map_append, List.nodup_append] at hn
    exact hn.2.2 _ (List.mem_map_of_mem he) _ (List.mem_cons_self ..) hkey
  have hfill := Info.endsAt_fill info
  have hdescription : Info.errors ("description", description) =
      [.invalidType (Found.ofJson description) "a string"] :=
    Decode.errors_optional_string hd.ne_null hd.ne_string
  rw [hsplit, List.flatMap_append, hfront, List.flatMap_cons, hdescription, ← hsplit] at hfill
  rw [Shape.decode, (hfill _).mpr rfl]
  rfl

theorem exists_decode_eq_ok (h : MeetsContract root info) (hn : (KeyedList.keys info).Nodup)
    (hd : ∀ description, ¬Misdescribes (.object root) description) :
    ∃ i, Info.shape.decode (.object info) = .ok i := by
  have hnone : info.flatMap Info.errors = [] := by
    refine List.flatMap_eq_nil_iff.mpr fun entry he => ?_
    by_cases hkey : entry.1 = "description"
    · obtain ⟨key, value⟩ := entry
      cases hkey
      have hfind := KeyedList.find?_of_mem hn he
      cases value with
      | null | string _ => rfl
      | _ => exact absurd ⟨⟨root, info, rfl, h.described, hfind⟩, nofun, nofun⟩ (hd _)
    · exact h.errors_eq_nil hn he hkey
  have hfill := Info.endsAt_fill info
  rw [hnone] at hfill
  obtain ⟨i, hi⟩ := hfill.exists_eq_ok
  refine ⟨i, ?_⟩
  rw [Shape.decode, hi, ok_bind, h.missing?_eq_none]

end MeetsContract

theorem section?_cases {α : Type} (root : List (String × Json)) (key : String)
    (decode : Json → Decoded α) : (∃ a, section? root key decode = .ok a) ∨
      ∃ reason, section? root key decode = .error (.invalid key (.unexpectedShape reason)) := by
  unfold section?
  cases decode ((KeyedList.find? key root).getD .null) with
  | ok a => exact .inl ⟨a, rfl⟩
  | error reason => exact .inr ⟨reason, rfl⟩

theorem section?_of_find? {α : Type} {key : String} {value : Json}
    (hfind : KeyedList.find? key root = some value) (decode : Json → Decoded α) :
    (section? root key decode : Except Failure α) =
      (decode value).mapError fun reason => .invalid key (.unexpectedShape reason) := by
  unfold section?
  rw [hfind, Option.getD_some]
  cases decode value <;> rfl

namespace MeetsContract

theorem ofRoot_of_misdescribes (h : MeetsContract root info) (hn : (KeyedList.keys info).Nodup)
    {description : Json} (hd : Misdescribes (.object root) description) :
    ofRoot root = .error (.invalid "info"
      (.unexpectedShape (.invalidType (Found.ofJson description) "a string"))) := by
  obtain ⟨version, hversion, -⟩ := h.supported
  rw [ofRoot, section?_of_find? hversion, section?_of_find? h.described, h.decode_eq_error hn hd]
  rfl

theorem ofRoot_cases (h : MeetsContract root info) (hn : (KeyedList.keys info).Nodup)
    (hd : ∀ description, ¬Misdescribes (.object root) description) :
    (∃ doc, ofRoot root = .ok doc) ∨ ∃ field ∈ ["paths", "components"], ∃ reason,
      ofRoot root = .error (.invalid field (.unexpectedShape reason)) := by
  obtain ⟨version, hversion, -⟩ := h.supported
  obtain ⟨described, hinfo⟩ := h.exists_decode_eq_ok hn hd
  have hopenapi : section? root "openapi" Decode.string = .ok version := by
    rw [section?_of_find? hversion]
    rfl
  have hdescribed : section? root "info" Info.shape.decode = .ok described := by
    rw [section?_of_find? h.described, hinfo]
    rfl
  rw [ofRoot, hopenapi, ok_bind, hdescribed, ok_bind]
  rcases section?_cases root "paths" (Decode.optional (Decode.map PathItem.decode))
    with ⟨paths, hpaths⟩ | ⟨reason, hpaths⟩
  · rw [hpaths, ok_bind]
    rcases section?_cases root "components" (Decode.optional Components.shape.decode)
      with ⟨components, hcomponents⟩ | ⟨reason, hcomponents⟩
    · rw [hcomponents]
      exact .inl ⟨_, rfl⟩
    · rw [hcomponents]
      exact .inr ⟨"components", by simp, reason, rfl⟩
  · rw [hpaths]
    exact .inr ⟨"paths", by simp, reason, rfl⟩

end MeetsContract

/-- Behind the contract, only the paths, the components and the description of the API can keep a
value from being a document, and the description does so exactly if it is neither a text nor null. -/
theorem ofJson_of_validate {value : Json} (hkeys : value.DistinctKeys)
    (h : validate value = .ok ()) :
    ((∃ doc, ofJson value = .ok doc) ∨ ∃ field ∈ ["info", "paths", "components"], ∃ reason,
        ofJson value = .error (.invalid field (.unexpectedShape reason))) ∧
      ∀ reason, ofJson value = .error (.invalid "info" (.unexpectedShape reason)) ↔
        ∃ description, Misdescribes value description ∧
          reason = .invalidType (Found.ofJson description) "a string" := by
  cases value with
  | object root =>
    obtain ⟨info, hcontract⟩ := validate_object_eq_ok_iff.mp h
    have hn : (KeyedList.keys info).Nodup := by
      cases hkeys with
      | object _ hentries =>
        cases hentries _ (KeyedList.mem_of_find? hcontract.described) with
        | object hn _ => exact hn
    have hroot : ofJson (.object root) = ofRoot root := by
      rw [ofJson, h, ok_bind]
    rw [hroot]
    by_cases hd : ∃ description, Misdescribes (.object root) description
    · obtain ⟨description, hd⟩ := hd
      have herror := hcontract.ofRoot_of_misdescribes hn hd
      refine ⟨.inr ⟨"info", by simp, _, herror⟩, fun reason => ⟨fun hreason => ?_, ?_⟩⟩
      · rw [herror] at hreason
        cases hreason
        exact ⟨description, hd, rfl⟩
      · rintro ⟨other, hother, rfl⟩
        exact hcontract.ofRoot_of_misdescribes hn hother
    · rw [not_exists] at hd
      have hcases := hcontract.ofRoot_cases hn hd
      refine ⟨hcases.imp_right ?_, fun reason => ⟨fun hreason => ?_, ?_⟩⟩
      · rintro ⟨field, hfield, reason, herror⟩
        exact ⟨field, List.mem_cons_of_mem _ hfield, reason, herror⟩
      · rw [hreason] at hcases
        rcases hcases with ⟨doc, hdoc⟩ | ⟨field, hfield, other, herror⟩
        · cases hdoc
        · cases herror
          exact absurd hfield (by decide)
      · rintro ⟨description, hdescription, -⟩
        exact absurd hdescription (hd description)
  | _ => cases h

/-- An API without paths, with something for its description. -/
def describedBy (description : Json) : Json :=
  .object [("openapi", .string "3.0.0"),
    ("info", .object [("title", .string "T"), ("version", .string "1"),
      ("description", description)]),
    ("paths", .object [])]

theorem distinctKeys_describedBy {description : Json} (h : description.DistinctKeys) :
    (describedBy description).DistinctKeys := by
  have hinfo : (Json.object [("title", .string "T"), ("version", .string "1"),
      ("description", description)]).DistinctKeys := by
    refine .object (by simp) ?_
    simpa [Json.DistinctKeys.string] using h
  refine .object (by simp) ?_
  simpa [Json.DistinctKeys.string, hinfo] using Json.DistinctKeys.object (by simp) (by simp)

theorem ofJson_of_validate_number :
    (describedBy (.number (.integer 5))).DistinctKeys ∧
      validate (describedBy (.number (.integer 5))) = .ok () ∧
        ofJson (describedBy (.number (.integer 5))) = .error (.invalid "info"
          (.unexpectedShape (.invalidType (.number (.integer 5)) "a string"))) := by
  have hkeys := distinctKeys_describedBy (.number (.integer 5))
  have hvalid : validate (describedBy (.number (.integer 5))) = .ok () := rfl
  refine ⟨hkeys, hvalid, ((ofJson_of_validate hkeys hvalid).2 _).mpr ?_⟩
  exact ⟨_, ⟨⟨_, _, rfl, rfl, rfl⟩, nofun, nofun⟩, rfl⟩

/-- The description of the API is not among the paths, nor among the components. -/
theorem info_fails_behind_contract :
    validate (describedBy (.number (.integer 5))) = .ok () ∧
      ¬((∃ doc, ofJson (describedBy (.number (.integer 5))) = .ok doc) ∨
        ∃ field ∈ ["paths", "components"], ∃ defect,
          ofJson (describedBy (.number (.integer 5))) = .error (.invalid field defect)) := by
  have herror : ofJson (describedBy (.number (.integer 5))) = .error (.invalid "info"
      (.unexpectedShape (.invalidType (.number (.integer 5)) "a string"))) := rfl
  refine ⟨rfl, ?_⟩
  rw [herror]
  rintro (⟨doc, hdoc⟩ | ⟨field, hfield, defect, hdefect⟩)
  · cases hdoc
  · cases hdefect
    exact absurd hfield (by decide)

end Document

end OpenApiGen
