import OpenApiGen.ModuleService
import OpenApiGen.Proofs.Runs

/-! # Runs of the type of a body over the declarations made before -/

namespace OpenApiGen

theorem Declaration.find?_put (d : Declaration) (declarations : List Declaration)
    (identifier : String) :
    (d.put declarations).find? (·.identifier == identifier) =
      if d.identifier = identifier then some d
      else declarations.find? (·.identifier == identifier) := by
  induction declarations with
  | nil => by_cases h : d.identifier = identifier <;> simp [put, h]
  | cons e rest ih =>
    by_cases he : e.identifier = d.identifier
    · by_cases h : d.identifier = identifier <;> simp [put, he, h]
    · by_cases h : d.identifier = identifier
      · have hn : e.identifier ≠ identifier := fun e' => he (e'.trans h.symm)
        simpa [put, he, hn, h] using ih
      · by_cases hn : e.identifier = identifier
        · have hd : ¬identifier = d.identifier := fun e' => h e'.symm
          simp [put, hn, h, hd]
        · simpa [put, he, hn, h] using ih

namespace RequestBody

variable (declarations : List Declaration)

theorem run_type_leaf (type : TypeExpr) (kind : SchemaKind) (literals : List Json) (nullable : Bool)
    (description : Option String) :
    (RequestBody.leaf type kind literals nullable description).type.run declarations
      = .ok (type, declarations) := by
  rw [RequestBody.type]
  rfl

theorem run_type_cut (name : String) (nullable : Bool) (description : Option String) :
    (RequestBody.cut name nullable description).type.run declarations
      = .ok (.named (Naming.typeIdentifier name), declarations) := by
  rw [RequestBody.type]
  rfl

theorem run_type_array (item : RequestBody) :
    (RequestBody.array item).type.run declarations
      = (fun (t, after) => (.array t, after)) <$> item.type.run declarations := by
  rw [RequestBody.type, StateT.run_bind]
  cases item.type.run declarations <;> rfl

theorem run_type_inline (required : List String) (properties : List (String × RequestBody)) :
    (RequestBody.object none required properties).type.run declarations
      = (fun (fields, after) => (recordType fields, after)) <$>
          (fieldTypes required properties).run declarations := by
  rw [RequestBody.type, StateT.run_bind]
  cases (fieldTypes required properties).run declarations <;> rfl

/-- A named object finds its identifier taken by another schema, or declared before, or free. -/
theorem run_type_named (origin : Origin) (required : List String)
    (properties : List (String × RequestBody)) :
    (RequestBody.object (some origin) required properties).type.run declarations =
      match declarations.find? (·.identifier == Naming.typeIdentifier origin.name) with
      | some d =>
        if d.schema = origin.name then .ok (.named (Naming.typeIdentifier origin.name), declarations)
        else .error (.namingCollision (Naming.typeIdentifier origin.name)
          (Declaration.owner d.schema) (Declaration.owner origin.name))
      | none =>
        (fun (fields, after) => (.named (Naming.typeIdentifier origin.name),
          Declaration.put ⟨Naming.typeIdentifier origin.name, origin.name, recordType fields⟩
            after)) <$> (fieldTypes required properties).run declarations := by
  rw [RequestBody.type]
  simp only [StateT.run_bind, StateT.run_get, pure_eq_ok, ok_bind]
  unfold declared?
  cases declarations.find? (·.identifier == Naming.typeIdentifier origin.name) with
  | none =>
    cases h : (fieldTypes required properties).run declarations <;> simp [h]
  | some d =>
    by_cases hd : d.schema = origin.name <;> simp [hd]

theorem run_fieldTypes_nil (required : List String) :
    (fieldTypes required []).run declarations = .ok ([], declarations) := by
  rw [fieldTypes]
  rfl

theorem run_fieldTypes_cons (required : List String) (name : String) (body : RequestBody)
    (rest : List (String × RequestBody)) :
    (fieldTypes required ((name, body) :: rest)).run declarations =
      body.type.run declarations >>= fun (t, between) =>
        (fun (fields, after) =>
          ((Naming.propertyKey name, !required.contains name, t) :: fields, after)) <$>
            (fieldTypes required rest).run between := by
  rw [fieldTypes, StateT.run_bind]
  cases body.type.run declarations with
  | error failure => rfl
  | ok result =>
    rw [ok_bind, StateT.run_bind]
    cases h : (fieldTypes required rest).run result.2 <;> simp [h]

end RequestBody
end OpenApiGen
