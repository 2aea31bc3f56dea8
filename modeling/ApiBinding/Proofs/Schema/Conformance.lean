import ApiBinding.Document.Reader
import ApiBinding.Proofs.Schema.Typing
import ApiBinding.Proofs.Value.Landing

/-!
# Conforming JSON

What JSON a schema describes, and that it lands in the type of the schema.  A schema may
say several things at once: that it stands for another one, that it is composed of
parts, and a type with properties or items.  Its type follows the first of these alone,
so that JSON lands in it if it conforms by that clause.  It need not if it conforms by a
later one.

Main results:

- Theorem `lands_of_conforms`: JSON that conforms by the leading clauses lands in the
  type of its schema, wherever the schema stands.
- Theorem `accepts_of_fits`: a reply that fits a schema is accepted by its type.
- Theorem `exists_conforms_not_accepted`: JSON that conforms by a later clause need not
  be accepted.
-/

namespace ApiBinding.Schema

/-! ## Conformance -/

/-- What a schema may say about JSON. -/
inductive Clause where
  /-- It is what another schema describes. -/
  | reference
  /-- It is an object that all parts describe. -/
  | parts
  /-- It is a boolean, a number, a text or nothing. -/
  | scalar
  /-- It is an array of items. -/
  | array
  /-- It is an object with properties. -/
  | object
deriving DecidableEq, Repr

/-- The first of the clauses of a schema. -/
def leadingClause (schema : Schema) : Clause :=
  if schema.reference.isSome then .reference
  else if schema.parts ≠ [] then .parts
  else if schema.primaryType? = some "array" then .array
  else if schema.primaryType? ∈
      ([some "boolean", some "integer", some "number", some "string", some "null"] :
        List (Option String)) then .scalar
  else .object

/-- JSON conforms to a schema by one of the clauses that are read of it.  Null conforms to
every schema, and everything does to one without a type. -/
inductive Conforms (document : Option Document) (policy : NumberPolicy)
    (reads : Schema → Clause → Prop) : Schema → Json → Prop where
  | null {schema : Schema} : Conforms document policy reads schema .null
  | untyped {schema : Schema} {json : Json} (htype : schema.toType document policy = .untyped) :
      Conforms document policy reads schema json
  | bool {schema : Schema} {b : Bool} (hread : reads schema .scalar)
      (htype : schema.primaryType? = some "boolean") :
      Conforms document policy reads schema (.bool b)
  | num {schema : Schema} {n : JsonNumber} (hread : reads schema .scalar)
      (htype : schema.primaryType? = some "integer" ∨ schema.primaryType? = some "number") :
      Conforms document policy reads schema (.num n)
  | str {schema : Schema} {text : String} (hread : reads schema .scalar)
      (htype : schema.primaryType? = some "string") :
      Conforms document policy reads schema (.str text)
  | arr {schema : Schema} {elements : List Json} (hread : reads schema .array)
      (htype : schema.primaryType? = some "array")
      (hitems : ∀ item, schema.items = some item → ∀ element ∈ elements,
        Conforms document policy reads item element) :
      Conforms document policy reads schema (.arr elements)
  | obj {schema : Schema} {members : List (String × Json)} (hread : reads schema .object)
      (hobject : schema.isObject = true)
      (hproperties : ∀ member ∈ members, ∀ property ∈ schema.properties, property.1 = member.1 →
        Conforms document policy reads property.2 member.2) :
      Conforms document policy reads schema (.obj members)
  | parts {schema : Schema} {members : List (String × Json)} (hread : reads schema .parts)
      (hparts : schema.parts ≠ [])
      (hall : ∀ part ∈ schema.parts, Conforms document policy reads part (.obj members))
      (hown : Conforms document policy reads schema.ownKeywords (.obj members)) :
      Conforms document policy reads schema (.obj members)
  | reference {schema : Schema} {json : Json} {name : String} (hread : reads schema .reference)
      (hreference : schema.reference = some name)
      (htarget : ∀ target, (document.bind fun document => document.resolve? name) = some target →
        Conforms document policy reads target json) :
      Conforms document policy reads schema json

/-- Every schema is read by its leading clause alone. -/
def ByLeadingClause (schema : Schema) (clause : Clause) : Prop :=
  schema.leadingClause = clause

/-- Every schema is read by any of its clauses. -/
def ByAnyClause (_ : Schema) (_ : Clause) : Prop :=
  True

/-- JSON fits a schema if it conforms, or if a table is expected and a conforming array
stands under the name of a value. -/
inductive Fits (document : Option Document) (policy : NumberPolicy)
    (reads : Schema → Clause → Prop) (schema : Schema) : Json → Prop where
  | itself {json : Json} (hconforms : Conforms document policy reads schema json) :
      Fits document policy reads schema json
  | wrapped {columns : List (String × ValueType)} {members : List (String × Json)}
      {items : List Json} (htype : schema.toType document policy = .table columns)
      (hvalue : Entries.find? "value" members = some (.arr items))
      (hconforms : Conforms document policy reads schema (.arr items)) :
      Fits document policy reads schema (.obj members)

variable {document : Option Document} {policy : NumberPolicy} {follow : String → ValueType}
  {schema : Schema} {json : Json} {conversion : Conversion}

/-! ## Leading clauses -/

/-- A schema that is read by its parts is no reference. -/
theorem reference_eq_none_of_parts (h : schema.leadingClause = .parts) :
    schema.reference = none := by
  unfold leadingClause at h
  split_ifs at h with hisSome
  all_goals simp_all

/-- A schema that is read by its type or properties is converted by its keywords. -/
theorem convert_of_leadingClause {clause : Clause} (hread : schema.leadingClause = clause)
    (hreference : clause ≠ .reference) (hparts : clause ≠ .parts) :
    convert policy follow schema =
      keywordType policy schema.primaryType? schema.format
        (convertProperties policy follow schema.properties)
        (convertItems policy follow schema.items) := by
  have hplain : schema.reference = none ∧ schema.parts = [] := by
    unfold leadingClause at hread
    split_ifs at hread with hisSome hempty
    all_goals simp_all
  exact convert_of_keywords hplain.1 hplain.2

/-- A schema that is read by its properties has none of the other types. -/
theorem primaryType_of_object (h : schema.leadingClause = .object) :
    schema.primaryType? ≠ some "array" ∧
      schema.primaryType? ∉
        ([some "boolean", some "integer", some "number", some "string", some "null"] :
          List (Option String)) := by
  unfold leadingClause at h
  split_ifs at h with _ _ harray hscalar
  exact ⟨harray, hscalar⟩

/-- A schema that is read by its properties is a record of them. -/
theorem convert_of_object (hread : schema.leadingClause = .object)
    (hobject : schema.isObject = true) :
    convert policy follow schema =
      .record (convertProperties policy follow schema.properties) := by
  obtain ⟨harray, hscalar⟩ := primaryType_of_object hread
  simp only [List.mem_cons, List.not_mem_nil, or_false, not_or] at hscalar
  obtain ⟨hboolean, hinteger, hnumber, hstring, hnull⟩ := hscalar
  have hdescribed : schema.primaryType? = some "object" ∨
      (!(convertProperties policy follow schema.properties).isEmpty) = true := by
    rw [convertProperties_eq_map, List.isEmpty_map]
    simpa [isObject] using hobject
  rw [convert_of_leadingClause hread (by decide) (by decide)]
  unfold keywordType
  rw [if_neg hboolean, if_neg (not_or.2 ⟨hinteger, hnumber⟩), if_neg hstring, if_neg hnull,
    if_neg harray, if_pos hdescribed]

/-! ## Landing by clause -/

/-- A text lands in the type of texts and in that of moments. -/
theorem lands_str {type : ValueType} (htype : type = .text ∨ type = .dateTime) (text : String) :
    conversion.Lands type (.str text) := by
  simp only [Conversion.Lands, Conversion.ofJson]
  rcases Conversion.ofText_cases conversion type text with hplain | ⟨rfl, moment, hmoment⟩
  · rw [hplain]
    rcases htype with rfl | rfl <;> rfl
  · rw [hmoment]
    rfl

/-- Members that land in a record land in its fields. -/
theorem fieldsLand_of_lands {fields : List (String × ValueType)} {members : List (String × Json)}
    (h : conversion.Lands (.record fields) (.obj members)) :
    conversion.FieldsLand fields members := by
  rcases h with huntyped | ⟨_, heq, hfields⟩
  · simp at huntyped
  · rw [ValueType.record.injEq] at heq
    rwa [heq]

/-- Members that land in all parts and in the own keywords land in what is composed of
them. -/
theorem fieldsLand_of_parts {members : List (String × Json)}
    (hparts : ∀ part ∈ schema.parts,
      conversion.Lands (convert policy follow part) (.obj members))
    (hown : conversion.Lands (convert policy follow schema.ownKeywords) (.obj members)) :
    conversion.FieldsLand (Entries.ofList (convertParts policy follow schema.parts ++
      (convert policy follow schema.ownKeywords).fields?.getD [])) members := by
  intro member hmember field hfield hname
  rcases List.mem_append.1 (Entries.mem_ofList hfield) with hpart | hself
  · obtain ⟨part, hmem, fields, hrecord, hin⟩ := exists_part_of_mem_convertParts hpart
    have hland := hparts part hmem
    rw [hrecord] at hland
    exact fieldsLand_of_lands hland member hmember field hin hname
  · obtain ⟨fields, hrecord, hin⟩ := exists_fields_of_mem hself
    rw [hrecord] at hown
    exact fieldsLand_of_lands hown member hmember field hin hname

/-- JSON that conforms by the leading clauses lands in the type of its schema, whichever
references are open. -/
theorem lands_of_conforms (h : Conforms document policy ByLeadingClause schema json)
    {fuel : Nat} {opened : List String} (hfuel : fuel ≤ outerFuel document) :
    conversion.Lands (convert policy (innerType document policy fuel opened) schema) json := by
  -- the induction follows the derivation, and the type may be that of a schema inside others
  induction h generalizing fuel opened with
  | null => exact Conversion.lands_null
  | untyped htype =>
      rw [convert_untyped_mono hfuel htype]
      exact Conversion.lands_untyped _
  | bool hread htype =>
      rw [convert_of_leadingClause hread (by decide) (by decide), htype]
      rfl
  | num hread htype =>
      rw [convert_of_leadingClause hread (by decide) (by decide)]
      rcases htype with htype | htype <;> rw [htype] <;> exact Conversion.lands_num _ _
  | @str schema text hread htype =>
      rw [convert_of_leadingClause hread (by decide) (by decide), htype]
      refine lands_str ?_ text
      cases hformat : isDateFormat schema.format <;> simp [keywordType, hformat]
  | @arr schema elements hread htype _ ih =>
      rw [convert_of_leadingClause hread (by decide) (by decide), htype, convertItems_eq_map]
      cases hitems : schema.items with
      | none =>
          -- without items the rows have no columns, as if the items were untyped
          exact Conversion.lands_table .untyped fun _ _ => Conversion.lands_untyped _
      | some item =>
          exact Conversion.lands_table _ fun element helement =>
            ih item hitems element helement hfuel
  | @obj schema members hread hobject _ ih =>
      rw [convert_of_object hread hobject]
      refine Or.inr ⟨_, rfl, fun member hmember field hfield hname => ?_⟩
      rw [convertProperties_eq_map] at hfield
      obtain ⟨property, hproperty, rfl⟩ := List.mem_map.1 hfield
      exact Conversion.accepts_of_lands (ih member hmember property hproperty hname hfuel)
  | parts hread hparts _ _ ihparts ihown =>
      rw [convert_of_parts (reference_eq_none_of_parts hread) hparts]
      exact Or.inr ⟨_, rfl,
        fieldsLand_of_parts (fun part hpart => ihparts part hpart hfuel) (ihown hfuel)⟩
  | @reference _ _ name _ hreference _ ih =>
      rw [convert_of_reference hreference]
      rcases innerType_cases document policy fuel opened name with
        huntyped | ⟨target, rest, hresolve, rfl, hopen⟩
      · rw [huntyped]
        exact Conversion.lands_untyped _
      · rw [innerType_of_resolve hresolve hopen]
        exact ih target hresolve (by omega)

/-! ## Replies -/

/-- JSON that conforms to a schema is accepted by its type. -/
theorem accepts_of_conforms (conversion : Conversion)
    (h : Conforms document policy ByLeadingClause schema json) :
    (schema.toType document policy).accepts
      (conversion.ofJson (some (schema.toType document policy)) json) = true := by
  rw [toType_eq_convert]
  exact Conversion.accepts_of_lands (lands_of_conforms h (Nat.le_refl _))

/-- JSON that fits a schema is accepted by its type, and so is what a reply of it is cut
to. -/
theorem accepts_of_fits (h : Fits document policy ByLeadingClause schema json) :
    (schema.toType document policy).accepts
        (conversion.ofJson (some (schema.toType document policy)) json) = true ∧
      ∀ maxRows body, Json.parse? (Text.utf8DecodeLenient body) = some json →
        (schema.toType document policy).accepts
          (conversion.ofReply (some (schema.toType document policy)) maxRows body) = true := by
  have haccepts : (schema.toType document policy).accepts
      (conversion.ofJson (some (schema.toType document policy)) json) = true := by
    cases h with
    | itself hconforms => exact accepts_of_conforms conversion hconforms
    | wrapped htype hvalue hconforms =>
        have htable := accepts_of_conforms conversion hconforms
        rw [htype] at htable ⊢
        rwa [Conversion.ofJson_wrapped hvalue]
  exact ⟨haccepts, fun maxRows _ hbody => Conversion.accepts_ofReply hbody haccepts maxRows⟩

/-- A description of items with schemas of which each can be read by two clauses. -/
def overlapDescription : Json :=
  .obj
    [("swagger", .str "2.0"), ("paths", .obj []),
      ("definitions", .obj
        [("Text", .obj [("type", .str "string")]),
          ("Composed", .obj
            [("type", .str "object"),
              ("allOf", .arr [.obj
                [("properties", .obj [("name", .obj [("type", .str "string")])])]])]),
          ("Named", .obj
            [("type", .str "string"),
              ("allOf", .arr [.obj
                [("properties", .obj [("name", .obj [("type", .str "string")])])]])]),
          ("Labelled", .obj
            [("type", .str "string"),
              ("properties", .obj [("name", .obj [("type", .str "string")])])]),
          ("Alias", .obj
            [("$ref", .str "#/definitions/Text"), ("type", .str "boolean")])])]

/-- A text may stand for a moment, so a table of moments takes the rows of a reply that
wraps them. -/
theorem accepts_momentRows : ∃ schema,
    ofJson? (.obj [("type", .str "array"), ("items", .obj
      [("type", .str "string"), ("format", .str "date")])]) = some schema ∧
      (schema.toType none .binary).accepts
        (Conversion.ofJson ⟨.binary, 0⟩ (some (schema.toType none .binary))
          (.obj [("value", .arr [.str "2024-01-02", .str "soon", .null])])) = true := by
  refine ⟨_, rfl, (accepts_of_fits (.wrapped rfl rfl (.arr ?_ rfl ?_))).1⟩
  · exact Eq.refl Clause.array
  · intro item hitem element helement
    obtain rfl := Option.some.inj hitem
    simp only [List.mem_cons, List.not_mem_nil, or_false] at helement
    rcases helement with rfl | rfl | rfl
    · exact .str rfl rfl
    · exact .str rfl rfl
    · exact .null

/-- JSON that conforms by another clause than the leading one need not be accepted. -/
theorem exists_conforms_not_accepted : ∃ document composed named labelled aliased,
    Document.ofJson overlapDescription = .ok document ∧
      document.resolve? "#/definitions/Composed" = some composed ∧
      document.resolve? "#/definitions/Named" = some named ∧
      document.resolve? "#/definitions/Labelled" = some labelled ∧
      document.resolve? "#/definitions/Alias" = some aliased ∧
      ∀ pair ∈ [(composed, Json.obj [("name", .bool true)]), (named, Json.str "abc"),
          (labelled, Json.obj [("name", .str "x")]), (aliased, Json.bool true)],
        Conforms (some document) .binary ByAnyClause pair.1 pair.2 ∧
          (pair.1.toType (some document) .binary).accepts
            (Conversion.ofJson ⟨.binary, 0⟩ (some (pair.1.toType (some document) .binary))
              pair.2) = false := by
  refine ⟨_, _, _, _, _, rfl, rfl, rfl, rfl, rfl, ?_⟩
  rintro pair (_ | ⟨_, _ | ⟨_, _ | ⟨_, _ | ⟨_, hnil⟩⟩⟩⟩)
  · exact ⟨.obj trivial rfl fun _ _ property hproperty _ => absurd hproperty List.not_mem_nil, rfl⟩
  · exact ⟨.str trivial rfl, rfl⟩
  · refine ⟨.obj trivial rfl ?_, rfl⟩
    intro member hmember property hproperty _
    obtain rfl := List.mem_singleton.1 hmember
    obtain rfl := List.mem_singleton.1 hproperty
    exact .str trivial rfl
  · exact ⟨.bool trivial rfl, rfl⟩
  · cases hnil

end ApiBinding.Schema
