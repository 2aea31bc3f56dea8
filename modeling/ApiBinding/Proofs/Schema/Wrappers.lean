import ApiBinding.Proofs.Schema.Leaves
import ApiBinding.Proofs.Value.Landing

/-!
# Schemas around one part

A schema with annotations and a single part, and nothing else, is composed of parts like any
other, and so it is a record.  It has the type of its part if that is a record, since the
fields of a record stand in the order of their names already.  Around anything else it is the
record without fields, which takes null and records and nothing else, and no other type takes
the same.

Main results:

- Theorem `sorted_of_typeBeside_eq_record`: the fields of a record stand in the order of their
  names.
- Theorem `typeBeside_of_wraps`: a schema around one part has the fields of the part.
- Theorem `accepts_emptyRecord`: the record without fields takes null and records.
- Theorem `exists_accepts_ne`: no type that is no record takes the same.
- Theorem `typedAsPart_of_wraps`: a schema around one part has the type of the part exactly if
  that is a record.
-/

namespace ApiBinding.Schema

variable {document : Option Document} {policy : NumberPolicy} {follow : String → ValueType}
  {opened : List String} {schema wrapper part : Schema} {fields : List (String × ValueType)}

/-! ## Sorted records -/

/-- The fields that the keywords of a schema say are those of its properties. -/
theorem eq_of_keywordType_eq_record {primary format : Option String}
    {properties : List (String × ValueType)} {items : Option ValueType}
    (h : keywordType policy primary format properties items = .record fields) :
    fields = properties := by
  unfold keywordType at h
  split_ifs at h
  · cases policy <;> cases h
  · exact (ValueType.record.inj h).symm

/-- The fields of a schema without reference and parts are typed in the order of its
properties. -/
theorem sorted_of_convert_eq_record (hreference : schema.reference = none)
    (hparts : schema.parts = []) (hsorted : Entries.Sorted schema.properties)
    (h : convert policy follow schema = .record fields) : Entries.Sorted fields := by
  rw [convert_of_keywords hreference hparts] at h
  rw [eq_of_keywordType_eq_record h, convertProperties_eq_map, Entries.Sorted, List.pairwise_map]
  exact hsorted

/-- Wherever a well-formed schema is visited, the fields of a record stand in the order of their
names; the induction is along the run. -/
theorem sorted_of_typeBeside_eq_record
    (hdocument : ∀ reference target, lookup? document reference = some target → target.WellFormed)
    (hschema : schema.WellFormed)
    (h : typeBeside document policy opened schema = .record fields) : Entries.Sorted fields := by
  suffices hvisit : ∀ visit : Visit, visit.schema.WellFormed →
      typeBeside document policy visit.opened visit.schema = .record fields →
        Entries.Sorted fields from hvisit ⟨opened, schema⟩ hschema h
  intro visit
  induction visit using nextInduction document with
  | step visit ih =>
      obtain ⟨opened, schema⟩ := visit
      intro hschema htype
      cases hreference : schema.reference with
      | none =>
          by_cases hparts : schema.parts = []
          · exact sorted_of_convert_eq_record hreference hparts hschema.sorted htype
          · rw [typeBeside_of_isComposed ⟨hreference, hparts⟩] at htype
            obtain rfl := ValueType.record.inj htype
            exact Entries.sorted_ofList _
      | some reference =>
          by_cases hopen : reference ∈ opened
          · rw [typeBeside, convert_of_reference hreference, innerType_of_mem hopen] at htype
            cases htype
          · cases hlookup : lookup? document reference with
            | none =>
                rw [typeBeside, convert_of_reference hreference,
                  innerType_of_lookup?_eq_none hlookup] at htype
                cases htype
            | some target =>
                rw [typeBeside_of_followed hreference hopen hlookup] at htype
                exact ih _ (.followed hreference hopen hlookup) (hdocument _ _ hlookup) htype

/-! ## Wrappers -/

/-- A schema that says nothing but that it is composed of a single part.  What it says of a
format, of items and of required names means nothing without a type and properties. -/
structure Wraps (wrapper part : Schema) : Prop where
  reference : wrapper.reference = none
  parts : wrapper.parts = [part]
  typeKeyword : wrapper.typeKeyword = none
  properties : wrapper.properties = []

/-- A schema around one part is composed of parts. -/
theorem Wraps.isComposed (h : Wraps wrapper part) : wrapper.IsComposed :=
  ⟨h.reference, by simp [h.parts]⟩

/-- The keywords of a schema around one part say nothing. -/
theorem Wraps.fields_ownKeywords (h : Wraps wrapper part) :
    Visit.fields document policy ⟨opened, wrapper.ownKeywords⟩ = [] := by
  have htype : typeBeside document policy opened wrapper.ownKeywords = .untyped := by
    have hreference : wrapper.ownKeywords.reference = none := h.reference
    rw [typeBeside, convert_of_keywords hreference rfl]
    simp [primaryType?, ownKeywords, h.typeKeyword, h.properties, convertProperties, keywordType]
  rw [Visit.fields, htype]
  rfl

/-- A schema around one part is a record of the fields of the part. -/
theorem typeBeside_of_wraps (h : Wraps wrapper part) :
    typeBeside document policy opened wrapper =
      .record (Entries.ofList (Visit.fields document policy ⟨opened, part⟩)) := by
  rw [typeBeside_of_isComposed h.isComposed, h.fields_ownKeywords, h.parts,
    List.flatMap_singleton, List.append_nil]

/-! ## Values -/

/-- The record without fields takes null and records. -/
theorem accepts_emptyRecord (value : Value) :
    (ValueType.record []).accepts value = true ↔
      value = .null ∨ ∃ fields, value = .record fields := by
  cases value with
  | record fields =>
      have hfields : ValueType.acceptsValues [] fields = true :=
        ValueType.acceptsValues_iff.2 fun _ _ _ hfind => by cases hfind
      simp [ValueType.accepts, hfields]
  | _ => simp [ValueType.accepts]

/-- What is no record takes other values than the record without fields. -/
theorem exists_accepts_ne {type : ValueType} (h : ∀ fields, type ≠ .record fields) :
    ∃ value, (ValueType.record []).accepts value ≠ type.accepts value := by
  cases type with
  | record fields => exact absurd rfl (h fields)
  | blank => exact ⟨.record [], by simp [ValueType.accepts, ValueType.acceptsValues]⟩
  | boolean => exact ⟨.bool true, by simp [ValueType.accepts]⟩
  | number => exact ⟨.num .nan, by simp [ValueType.accepts]⟩
  | decimal => exact ⟨.num .nan, by simp [ValueType.accepts]⟩
  | text => exact ⟨.str "", by simp [ValueType.accepts]⟩
  | dateTime => exact ⟨.str "", by simp [ValueType.accepts]⟩
  | table columns => exact ⟨.list [], by simp [ValueType.accepts, ValueType.acceptsRows]⟩
  | untyped => exact ⟨.str "", by simp [ValueType.accepts]⟩

/-! ## Types of wrappers -/

/-- The type of a wrapper is that of what it is around if that is a record, and else the record
without fields. -/
structure TypedAsPart (wrapped plain : ValueType) : Prop where
  kept : ∀ fields, plain = .record fields → wrapped = .record fields
  emptied : (∀ fields, plain ≠ .record fields) → wrapped = .record [] ∧
    ∀ value, wrapped.accepts value = true ↔ value = .null ∨ ∃ fields, value = .record fields
  same_iff : wrapped = plain ↔ ∃ fields, plain = .record fields
  /-- The same values are accepted for the wrapper exactly if it is around a record. -/
  accepts_iff : (∀ value, wrapped.accepts value = plain.accepts value) ↔
    ∃ fields, plain = .record fields

/-- What keeps the type of records, and makes a record without fields of all others, takes the
same values for records alone. -/
theorem typedAsPart_of_cases {wrapped plain : ValueType}
    (hkept : ∀ fields, plain = .record fields → wrapped = .record fields)
    (hemptied : (∀ fields, plain ≠ .record fields) → wrapped = .record []) :
    TypedAsPart wrapped plain := by
  have htaken : (∀ fields, plain ≠ .record fields) → wrapped = .record [] ∧
      ∀ value, wrapped.accepts value = true ↔ value = .null ∨ ∃ fields, value = .record fields :=
    fun hne => ⟨hemptied hne, by rw [hemptied hne]; exact accepts_emptyRecord⟩
  by_cases hrecord : ∃ fields, plain = .record fields
  · obtain ⟨fields, hfields⟩ := hrecord
    have hsame : wrapped = plain := (hkept fields hfields).trans hfields.symm
    exact ⟨hkept, htaken, iff_of_true hsame ⟨fields, hfields⟩,
      iff_of_true (fun value => by rw [hsame]) ⟨fields, hfields⟩⟩
  · have hne : ∀ fields, plain ≠ .record fields := not_exists.1 hrecord
    have hempty := hemptied hne
    obtain ⟨value, hvalue⟩ := exists_accepts_ne hne
    refine ⟨hkept, htaken, iff_of_false (fun hsame => ?_) hrecord,
      iff_of_false (fun hsame => ?_) hrecord⟩
    · exact hne [] (hsame.symm.trans hempty)
    · rw [hempty] at hsame
      exact hvalue (hsame value)

/-- Wherever a schema around one part is visited, it has the type of the part if that is a
record, and else that of the record without fields. -/
theorem typedAsPart_typeBeside
    (hdocument : ∀ reference target, lookup? document reference = some target → target.WellFormed)
    (hpart : part.WellFormed) (hwraps : Wraps wrapper part) (policy : NumberPolicy)
    (opened : List String) :
    TypedAsPart (typeBeside document policy opened wrapper)
      (typeBeside document policy opened part) := by
  rw [typeBeside_of_wraps hwraps, Visit.fields]
  refine typedAsPart_of_cases (fun fields hfields => ?_) fun hne => ?_
  · have hsorted := sorted_of_typeBeside_eq_record hdocument hpart hfields
    rw [hfields, ValueType.fields?, Option.getD_some, Entries.ofList_eq_self hsorted]
  · cases htype : typeBeside document policy opened part with
    | record fields => exact absurd htype (hne fields)
    | _ => rfl

/-- A schema whose one keyword is a single part has the type of the part, and accepts the same
values, exactly if the part is a record.  Around anything else it is the record without
fields. -/
theorem typedAsPart_of_wraps {document : Document} (hdocument : document.WellFormed)
    (hpart : part.WellFormed) (hwraps : Wraps wrapper part) (policy : NumberPolicy) :
    TypedAsPart (wrapper.toType (some document) policy) (part.toType (some document) policy) ∧
      ∀ opened, TypedAsPart (typeBeside (some document) policy opened wrapper)
        (typeBeside (some document) policy opened part) := by
  have hleads : ∀ reference target, lookup? (some document) reference = some target →
      target.WellFormed := by
    intro reference target hlookup
    obtain ⟨name, _, hentry⟩ := exists_entry_of_lookup? hlookup
    exact hdocument.schemas _ hentry
  have hvisit := typedAsPart_typeBeside hleads hpart hwraps policy
  refine ⟨?_, hvisit⟩
  rw [← typeBeside_nil, ← typeBeside_nil]
  exact hvisit []

/-! ## Names and people -/

/-- A description of a greeting, whose parameter is declared by a schema around a text. -/
def greetDescription : Json :=
  .obj
    [("openapi", .str "3.0.0"),
      ("components", .obj [("schemas", .obj
        [("Name", .obj [("type", .str "string")]),
          ("Person", .obj
            [("properties", .obj
              [("name", .obj [("$ref", .str "#/components/schemas/Name")])])])])]),
      ("paths", .obj [("/greet", .obj [("get", .obj
        [("operationId", .str "Greet"),
          ("parameters", .arr
            [.obj [("name", .str "name"), ("in", .str "query"), ("required", .bool true),
              ("schema", .obj
                [("description", .str "Whom to greet"),
                  ("allOf", .arr [.obj [("$ref", .str "#/components/schemas/Name")]])])]])])])])]

/-- The reference to the schema of names. -/
def nameReference : Schema where
  reference := some "#/components/schemas/Name"

/-- The reference to the schema of people. -/
def personReference : Schema where
  reference := some "#/components/schemas/Person"

/-- The parameter that says whom to greet. -/
def greetParameter : Parameter where
  name := "name"
  location := .query
  required := true
  schema := { parts := [nameReference], description := some "Whom to greet" }
  default := none
  isInternal := false
  description := none

/-- The operation that greets. -/
def greetOperation : Operation :=
  { replyOperation "Greet" "/greet" none with parameters := [greetParameter] }

/-- The greeting as it is read. -/
def greetDocument : Document where
  version := .openApi3
  title := none
  basePath := ""
  schemas := [("Name", ofType "string"), ("Person", { properties := [("name", nameReference)] })]
  operations := [greetOperation]

/-- The description of the greeting is read as the greeting. -/
theorem isParsed_greetDocument : greetDocument.IsParsed :=
  ⟨greetDescription, rfl⟩

/-- A reference is well-formed. -/
theorem wellFormed_personReference : personReference.WellFormed :=
  .intro List.Pairwise.nil (by simp [personReference]) (by simp [personReference])
    (by simp [personReference]) (by simp [personReference])

/-- A schema around a person has the type of a person. -/
theorem typedAsPart_person :
    greetDocument.WellFormed ∧ personReference.WellFormed ∧
      Wraps { parts := [personReference], description := some "Whom to greet" } personReference ∧
      toType (some greetDocument) .binary
          { parts := [personReference], description := some "Whom to greet" } =
        .record [("name", .text)] ∧
      TypedAsPart
        (toType (some greetDocument) .binary
          { parts := [personReference], description := some "Whom to greet" })
        (personReference.toType (some greetDocument) .binary) := by
  have hdocument := Document.wellFormed_of_isParsed isParsed_greetDocument
  have hwraps : Wraps { parts := [personReference], description := some "Whom to greet" }
      personReference := ⟨rfl, rfl, rfl, rfl⟩
  exact ⟨hdocument, wellFormed_personReference, hwraps, rfl,
    (typedAsPart_of_wraps hdocument wellFormed_personReference hwraps .binary).1⟩

/-- A parameter that is declared by a schema around a name takes no name. -/
theorem greetParameter_not_text :
    greetDocument.IsParsed ∧ greetOperation ∈ greetDocument.operations ∧
      greetParameter ∈ greetOperation.parameters ∧ Wraps greetParameter.schema nameReference ∧
      nameReference.toType (some greetDocument) .binary = .text ∧
      greetParameter.schema.toType (some greetDocument) .binary = .record [] ∧
      ValueType.text.accepts (.str "Ada") = true ∧
      (ValueType.record []).accepts (.str "Ada") = false ∧
      ¬∀ wrapper part : Schema, Wraps wrapper part →
        wrapper.toType (some greetDocument) .binary = part.toType (some greetDocument) .binary := by
  have hwraps : Wraps greetParameter.schema nameReference := ⟨rfl, rfl, rfl, rfl⟩
  have htext : nameReference.toType (some greetDocument) .binary = .text := rfl
  have hrecord : greetParameter.schema.toType (some greetDocument) .binary = .record [] := rfl
  refine ⟨isParsed_greetDocument, List.mem_cons_self, List.mem_cons_self, hwraps, htext, hrecord,
    rfl, rfl, fun hall => ?_⟩
  have hsame := hall _ _ hwraps
  rw [htext, hrecord] at hsame
  cases hsame

end ApiBinding.Schema
