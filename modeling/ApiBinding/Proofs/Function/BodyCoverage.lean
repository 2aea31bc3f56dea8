import ApiBinding.Proofs.Function.Routing
import ApiBinding.Proofs.Schema.Fields

/-!
# Inputs and type of a body

A body that is taken apart has one input for each property of the schema that it stands
for.  Its type has all fields of that schema.  The two name the same things for a plain
object; but a part of the schema may have fields that are no properties of the schema
itself, and for these there is no input: the type has them and no call sends them.

Main results:

- Theorem `perm_bodySlotNames`: the slots of a flattened body are its properties.
- Theorem `mem_fieldNames_typeOf_iff`: the type of a body has the fields of the schema
  that it stands for.
- Theorem `flattensBody_of_isFlattened`: what is sent of a flattened body, what its type
  has, and exactly when these agree.
- Theorem `memoBody_not_covered`: a field that the type has and no call sends.
-/

namespace ApiBinding

/-- The names of the slots that are properties of the body. -/
def ConnectorFunction.bodySlotNames (function : ConnectorFunction) : List String :=
  (function.slots.filter fun slot => slot.placement == .bodyProperty).map Slot.name

namespace Schema

/-- The properties of a schema are exactly its fields.  For a schema that is no
reference: no part has a field of another name, and under a declared type without fields
each property is also a field of some part. -/
def NamesAllFields (document : Option Document) (schema : Schema) : Prop :=
  match schema.reference with
  | none =>
    (∀ part ∈ schema.parts, ∀ name, HasField document name part →
        name ∈ Entries.names schema.properties) ∧
      (schema.primaryType? ∈ fieldlessTypes → ∀ name ∈ Entries.names schema.properties,
        ∃ part ∈ schema.parts, HasField document name part)
  | some reference =>
    ∀ name, name ∈ Entries.names schema.properties ↔
      ∃ target, lookup? document reference = some target ∧ HasField document name target

variable {document : Option Document} {policy : NumberPolicy} {schema : Schema} {name : String}

/-- The condition on parts says that properties and fields have the same names. -/
theorem namesAllFields_iff : NamesAllFields document schema ↔
    ∀ name, name ∈ Entries.names schema.properties ↔ HasField document name schema := by
  unfold NamesAllFields
  cases hreference : schema.reference with
  | some reference =>
      exact forall_congr' fun name => iff_congr Iff.rfl (hasField_iff_of_reference hreference).symm
  | none =>
      simp only [hasField_iff_of_reference_eq_none hreference]
      constructor
      · rintro ⟨hparts, hfieldless⟩ name
        constructor
        · intro hname
          by_cases htype : schema.primaryType? ∈ fieldlessTypes
          · exact Or.inr (hfieldless htype name hname)
          · exact Or.inl ⟨htype, hname⟩
        · rintro (howns | ⟨part, hpart, hfield⟩)
          · exact howns.2
          · exact hparts part hpart name hfield
      · intro hsame
        constructor
        · intro part hpart name hfield
          exact (hsame name).2 (Or.inr ⟨part, hpart, hfield⟩)
        · intro htype name hname
          rcases (hsame name).1 hname with howns | hpart
          · exact absurd htype howns.1
          · exact hpart

end Schema

namespace Binder

variable {binder : Binder} {operation : Operation} {body : RequestBody} {name : String}

/-! ## Slots -/

/-- The inputs of a flattened body have the names of its properties. -/
theorem names_propertyInputs (hbody : operation.body = some body)
    (hflat : binder.isFlattened body = true) :
    ((binder.declaredInputs operation).filter
        (fun input => input.placement == .bodyProperty)).map
        (fun input => input.parameter.name) =
      Entries.names (binder.bodySchema body).properties := by
  have hplace := filter_placement_bodyInputs binder .bodyProperty hbody rfl
  rw [bodyPlacement, if_pos hflat, if_pos rfl] at hplace
  rw [hplace, bodyInputs, if_pos hflat, List.map_map]
  rfl

/-- The slots of a flattened body are its properties, each once. -/
theorem perm_bodySlotNames (hbody : operation.body = some body)
    (hflat : binder.isFlattened body = true) :
    (binder.describe operation).bodySlotNames.Perm
      (Entries.names (binder.bodySchema body).properties) := by
  have hdeliveries : (binder.describe operation).bodySlotNames =
      ((binder.inputDeliveries operation []).filter
        (fun delivery => delivery.placement == .bodyProperty)).map Delivery.name := by
    rw [← deliveries_describe, ConnectorFunction.deliveries, List.filter_map, List.map_map]
    rfl
  -- no property is withheld
  have hfilled : ((binder.declaredInputs operation).filter binder.isFilled).filter
      (fun input => input.placement == .bodyProperty) =
      (binder.declaredInputs operation).filter fun input => input.placement == .bodyProperty := by
    rw [List.filter_comm, List.filter_eq_self]
    intro input hinput
    exact isFilled_of_bodyProperty (by simpa using (List.mem_filter.1 hinput).2)
  rw [hdeliveries, names_inputDeliveries, ← names_propertyInputs hbody hflat, ← hfilled]
  exact ((perm_fillings binder operation []).filter _).map _

/-- What is sent of a flattened body has a slot. -/
theorem names_jsonsAt_subset_bodySlotNames (arguments : List Value)
    (hbody : operation.body = some body) (hflat : binder.isFlattened body = true) :
    Entries.names (Delivery.jsonsAt .bodyProperty
        (binder.inputDeliveries operation arguments)) ⊆
      (binder.describe operation).bodySlotNames := by
  have hsent := subperm_names_jsonsAt binder operation arguments .bodyProperty
  rw [names_propertyInputs hbody hflat] at hsent
  intro name hname
  exact (perm_bodySlotNames hbody hflat).mem_iff.2 (hsent.subset hname)

/-! ## Fields -/

/-- The type of a body has the fields of the schema that the body stands for. -/
theorem mem_fieldNames_typeOf_iff :
    name ∈ (binder.typeOf body.schema).fieldNames ↔
      Schema.HasField (some binder.document) name (binder.bodySchema body) := by
  rw [typeOf, Schema.mem_fieldNames_toType_iff, bodySchema, Schema.hasField_target_iff]

/-! ## Coverage -/

/-- The inputs of a flattened body are the properties of its schema, and its type has the
fields of that schema. -/
structure FlattensBody (binder : Binder) (operation : Operation) (body : RequestBody) :
    Prop where
  /-- There is one slot for each property. -/
  slots : (binder.describe operation).bodySlotNames.Perm
    (Entries.names (binder.bodySchema body).properties)
  distinct : (binder.describe operation).bodySlotNames.Nodup
  /-- Nothing else can be sent. -/
  sent : ∀ (arguments : List Value) (request : Request),
    (binder.describe operation).buildRequest arguments = .ok request →
      ∃ members, request.body = some (.obj members) ∧
        Entries.names members ⊆ (binder.describe operation).bodySlotNames
  fields : ∀ name, name ∈ (binder.typeOf body.schema).fieldNames ↔
    Schema.HasField (some binder.document) name body.schema
  /-- Slots and fields are the same for an object without parts. -/
  plain : (binder.bodySchema body).reference = none → (binder.bodySchema body).parts = [] →
    (binder.bodySchema body).primaryType? ∉ Schema.fieldlessTypes →
      (binder.describe operation).bodySlotNames.Perm (binder.typeOf body.schema).fieldNames
  /-- In general they are if the properties are all fields. -/
  agree : (∀ name, name ∈ (binder.describe operation).bodySlotNames ↔
      name ∈ (binder.typeOf body.schema).fieldNames) ↔
    (binder.bodySchema body).NamesAllFields (some binder.document)

/-- Every flattened body of a description that is read is sent by its properties. -/
theorem flattensBody_of_isFlattened (hparsed : binder.document.IsParsed)
    (hoperation : operation ∈ binder.document.operations) (hbody : operation.body = some body)
    (hflat : binder.isFlattened body = true) : FlattensBody binder operation body := by
  have hsorted := sorted_properties_bodySchema hparsed hoperation hbody
  have hslots := perm_bodySlotNames hbody hflat
  refine
    { slots := hslots
      distinct := hslots.nodup_iff.2 (Entries.nodup_names_of_sorted hsorted)
      sent := ?_
      fields := fun name => Schema.mem_fieldNames_toType_iff
      plain := ?_
      agree := ?_ }
  · intro arguments request hbuild
    obtain ⟨_, _, rfl⟩ := buildRequest_describe_eq_ok_iff.1 hbuild
    exact ⟨_, body_requestOf_of_flattened hbody hflat hsorted,
      names_jsonsAt_subset_bodySlotNames arguments hbody hflat⟩
  · intro hreference hparts htype
    obtain ⟨follow, htypeOf⟩ := Schema.exists_toType_eq_convert_target (some binder.document)
      binder.settings.policy body.schema
    rw [typeOf, htypeOf, ← bodySchema, Schema.fieldNames_convert_of_keywords hreference hparts,
      if_neg htype]
    exact hslots
  · rw [Schema.namesAllFields_iff]
    refine forall_congr' fun name => ?_
    rw [hslots.mem_iff, mem_fieldNames_typeOf_iff]

/-- The item of the store is sent by its properties, which are the fields of its type. -/
theorem flattensBody_store : FlattensBody storeBinder storeOperation
      { name := "item", required := true, schema := storeItem } ∧
    (storeBinder.describe storeOperation).bodySlotNames = ["id", "size"] ∧
    (storeBinder.typeOf storeItem).fieldNames = ["id", "size"] :=
  ⟨flattensBody_of_isFlattened isParsed_storeDocument List.mem_cons_self rfl rfl, rfl, rfl⟩

/-! ## Inherited fields -/

/-- A description of memos, each of which is an entry with a text. -/
def memoDescription : Json :=
  .obj
    [("swagger", .str "2.0"), ("basePath", .str "/v1"),
      ("definitions", .obj
        [("Entry", .obj [("properties", .obj [("id", .obj [("type", .str "string")])])]),
          ("Memo", .obj
            [("allOf", .arr [.obj [("$ref", .str "#/definitions/Entry")]]),
              ("properties", .obj [("text", .obj [("type", .str "string")])])])]),
      ("paths", .obj [("/memos", .obj [("post", .obj
        [("operationId", .str "PutMemo"),
          ("parameters", .arr
            [.obj [("name", .str "memo"), ("in", .str "body"), ("required", .bool true),
              ("schema", .obj [("$ref", .str "#/definitions/Memo")])]])])])])]

/-- The body of the operation that stores a memo. -/
def memoBody : RequestBody where
  name := "memo"
  required := true
  schema := { reference := some "#/definitions/Memo" }

/-- The operation that stores a memo. -/
def memoOperation : Operation where
  name := "PutMemo"
  method := .post
  path := "/memos"
  summary := none
  description := none
  deprecated := false
  parameters := []
  body := some memoBody
  response := none

/-- The memos as they are read. -/
def memoDocument : Document where
  version := .swagger2
  title := none
  basePath := "/v1"
  schemas :=
    [("Entry", { properties := [("id", .ofType "string")] }),
      ("Memo",
        { parts := [{ reference := some "#/definitions/Entry" }]
          properties := [("text", .ofType "string")] })]
  operations := [memoOperation]

/-- The description of the memos is read as the memos. -/
theorem isParsed_memoDocument : memoDocument.IsParsed :=
  ⟨memoDescription, rfl⟩

/-- A connector of the memos. -/
def memoBinder : Binder where
  document := memoDocument
  settings := { namespaceName := "N" }
  globals := []

/-- A memo has the field of the entry that it is composed of, and no call sends it. -/
theorem memoBody_not_covered :
    memoBinder.document.IsParsed ∧ memoOperation ∈ memoBinder.document.operations ∧
      memoOperation.body = some memoBody ∧ memoBinder.isFlattened memoBody = true ∧
      (memoBinder.describe memoOperation).bodySlotNames = ["text"] ∧
      (memoBinder.typeOf memoBody.schema).fieldNames = ["id", "text"] ∧
      ¬ ∀ name, name ∈ (memoBinder.describe memoOperation).bodySlotNames ↔
        name ∈ (memoBinder.typeOf memoBody.schema).fieldNames := by
  have hslots : (memoBinder.describe memoOperation).bodySlotNames = ["text"] := rfl
  have hfields : (memoBinder.typeOf memoBody.schema).fieldNames = ["id", "text"] := rfl
  refine ⟨isParsed_memoDocument, List.mem_cons_self, rfl, rfl, hslots, hfields, fun hsame => ?_⟩
  have hid := (hsame "id").2 (by rw [hfields]; exact List.mem_cons_self)
  rw [hslots] at hid
  simp at hid

end Binder

end ApiBinding
