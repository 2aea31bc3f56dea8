import ApiBinding.Proofs.Schema.Unfolding

/-!
# The stack of open references

Schemas are typed one after the other on one stack of open references: a reference is
pushed before its schema is typed and popped afterwards, and the next schema finds the
stack as it was left.  Whatever the references of a description lead to, this comes to an
end, for every push leaves one reference less that may still be pushed, and between two
pushes the schemas get smaller.  It gives the types that are given to each schema by
itself, and it leaves the stack as it was.

Main results:

- Theorem `length_unopened_lt`: every reference that is pushed leaves one less.
- Theorem `TypesInTurn.eq_map`: the types of a run, and the stack that it leaves.
- Theorem `exists_typesInTurn`: every run comes to an end.
- Theorem `typesInTurn_iff`: the runs are exactly those that type each schema by itself.
-/

namespace ApiBinding.Schema

/-- Schemas are typed in turn, with some references open at first and some at the end. -/
inductive TypesInTurn (document : Option Document) (policy : NumberPolicy) :
    List String → List Schema → List ValueType → List String → Prop where
  | done {opened : List String} : TypesInTurn document policy opened [] [] opened
  /-- A reference that is open is untyped. -/
  | again {opened left : List String} {schema : Schema} {rest : List Schema}
      {types : List ValueType} {reference : String}
      (hreference : schema.reference = some reference) (hopen : reference ∈ opened)
      (hrest : TypesInTurn document policy opened rest types left) :
      TypesInTurn document policy opened (schema :: rest) (.untyped :: types) left
  /-- A reference that leads to no schema is untyped. -/
  | unknown {opened left : List String} {schema : Schema} {rest : List Schema}
      {types : List ValueType} {reference : String}
      (hreference : schema.reference = some reference) (hclosed : reference ∉ opened)
      (hlookup : lookup? document reference = none)
      (hrest : TypesInTurn document policy opened rest types left) :
      TypesInTurn document policy opened (schema :: rest) (.untyped :: types) left
  /-- Any other reference is pushed, its schema is typed, and the stack is popped. -/
  | followed {opened inside left : List String} {schema target : Schema} {rest : List Schema}
      {type : ValueType} {types : List ValueType} {reference : String}
      (hreference : schema.reference = some reference) (hclosed : reference ∉ opened)
      (hlookup : lookup? document reference = some target)
      (htarget : TypesInTurn document policy (reference :: opened) [target] [type] inside)
      (hrest : TypesInTurn document policy inside.tail rest types left) :
      TypesInTurn document policy opened (schema :: rest) (type :: types) left
  /-- The parts of a schema are typed, and then the schema without them. -/
  | composed {opened between left : List String} {schema : Schema} {rest : List Schema}
      {parts types : List ValueType} (hreference : schema.reference = none)
      (hcomposed : schema.parts ≠ [])
      (hparts : TypesInTurn document policy opened (schema.parts ++ [schema.ownKeywords]) parts
        between)
      (hrest : TypesInTurn document policy between rest types left) :
      TypesInTurn document policy opened (schema :: rest)
        (.record (Entries.ofList (parts.flatMap fun type => type.fields?.getD [])) :: types) left
  | scalar {opened left : List String} {schema : Schema} {rest : List Schema}
      {types : List ValueType} (hreference : schema.reference = none) (hparts : schema.parts = [])
      (hscalar : schema.primaryType? ∈ fieldlessTypes)
      (hother : schema.primaryType? ≠ some "array")
      (hrest : TypesInTurn document policy opened rest types left) :
      TypesInTurn document policy opened (schema :: rest)
        (keywordType policy schema.primaryType? schema.format [] none :: types) left
  | array {opened between left : List String} {schema : Schema} {rest : List Schema}
      {items types : List ValueType} (hreference : schema.reference = none)
      (hparts : schema.parts = []) (harray : schema.primaryType? = some "array")
      (hitems : TypesInTurn document policy opened schema.items.toList items between)
      (hrest : TypesInTurn document policy between rest types left) :
      TypesInTurn document policy opened (schema :: rest)
        (.table ((items.head?.map ValueType.rowColumns).getD []) :: types) left
  | object {opened between left : List String} {schema : Schema} {rest : List Schema}
      {fields types : List ValueType} (hreference : schema.reference = none)
      (hparts : schema.parts = []) (hfields : schema.primaryType? ∉ fieldlessTypes)
      (hproperties : TypesInTurn document policy opened (schema.properties.map Prod.snd) fields
        between)
      (hrest : TypesInTurn document policy between rest types left) :
      TypesInTurn document policy opened (schema :: rest)
        ((if schema.isObject then .record ((Entries.names schema.properties).zip fields)
          else .untyped) :: types) left

variable {document : Option Document} {policy : NumberPolicy} {fuel : Nat}
  {opened between left : List String} {reference : String} {schema target : Schema}
  {schemas more : List Schema} {type : ValueType} {types others : List ValueType}

/-! ## References that may still be pushed -/

/-- The references to schemas of a description that are not open. -/
def unopened (document : Option Document) (opened : List String) : List String :=
  ((document.map Document.references).getD []).filter fun reference => reference ∉ opened

/-- A reference that leads to a schema and is not open may be pushed. -/
theorem mem_unopened (hlookup : lookup? document reference = some target)
    (hclosed : reference ∉ opened) : reference ∈ unopened document opened := by
  cases document with
  | none => cases hlookup
  | some document =>
      have hmem := Document.mem_references_of_resolve hlookup
      exact List.mem_filter.2 ⟨hmem, by simpa using hclosed⟩

/-- Every reference that is pushed leaves one less that may be. -/
theorem length_unopened_lt (hlookup : lookup? document reference = some target)
    (hclosed : reference ∉ opened) :
    (unopened document (reference :: opened)).length < (unopened document opened).length := by
  have hless : unopened document (reference :: opened) =
      (unopened document opened).filter fun other => other ≠ reference := by
    rw [unopened, unopened, List.filter_filter]
    apply List.filter_congr
    intro other _
    simp
  rw [hless, List.length_filter_lt_length_iff_exists]
  exact ⟨reference, mem_unopened hlookup hclosed, by simp⟩

/-- There is room for all references at first, whichever are open. -/
theorem length_unopened_le (document : Option Document) (opened : List String) :
    (unopened document opened).length ≤ outerFuel document := by
  cases document with
  | none => exact Nat.zero_le _
  | some document =>
      have hall := List.length_filter_le (fun reference => reference ∉ opened) document.references
      rw [document.length_references] at hall
      exact Nat.le_succ_of_le hall

/-- With room for all references that may be pushed, one of them has the type of its
schema. -/
theorem exists_rest_of_unopened (policy : NumberPolicy)
    (hlookup : lookup? document reference = some target) (hclosed : reference ∉ opened)
    (hroom : (unopened document opened).length ≤ fuel) :
    ∃ rest, (unopened document (reference :: opened)).length ≤ rest ∧
      innerType document policy fuel opened reference =
        convert policy (innerType document policy rest (reference :: opened)) target := by
  have hless := length_unopened_lt hlookup hclosed
  obtain ⟨rest, rfl⟩ : ∃ rest, fuel = rest + 1 := ⟨fuel - 1, by omega⟩
  exact ⟨rest, by omega, innerType_of_resolve hlookup hclosed⟩

/-! ## Types of a run -/

/-- The type that a schema has beside open references. -/
def typeBeside (document : Option Document) (policy : NumberPolicy) (opened : List String)
    (schema : Schema) : ValueType :=
  convert policy (innerType document policy (outerFuel document) opened) schema

/-- Beside no open reference a schema has its own type. -/
theorem typeBeside_nil (schema : Schema) :
    typeBeside document policy [] schema = schema.toType document policy :=
  toType_eq_convert.symm

variable {follow : String → ValueType}

/-- A scalar has its type whatever properties and items it has. -/
theorem convert_scalar (hreference : schema.reference = none) (hparts : schema.parts = [])
    (hscalar : schema.primaryType? ∈ fieldlessTypes)
    (hother : schema.primaryType? ≠ some "array") :
    convert policy follow schema =
      keywordType policy schema.primaryType? schema.format [] none := by
  rw [convert_of_keywords hreference hparts]
  apply keywordType_congr
  · intro hfields
    exact absurd hscalar hfields
  · intro harray
    exact absurd harray hother

/-- An array is a table of its items. -/
theorem convert_array (hreference : schema.reference = none) (hparts : schema.parts = [])
    (harray : schema.primaryType? = some "array") :
    convert policy follow schema =
      .table (((schema.items.toList.map (convert policy follow)).head?.map
        ValueType.rowColumns).getD []) := by
  rw [convert_of_keywords hreference hparts, harray, convertItems_eq_map]
  cases schema.items <;> rfl

/-- An object is a record of its properties, and what is neither scalar nor array nor object
has no type. -/
theorem convert_object (hreference : schema.reference = none) (hparts : schema.parts = [])
    (hfields : schema.primaryType? ∉ fieldlessTypes) :
    convert policy follow schema =
      if schema.isObject then
        .record ((Entries.names schema.properties).zip
          ((schema.properties.map Prod.snd).map (convert policy follow)))
      else .untyped := by
  have hzip : (Entries.names schema.properties).zip
      ((schema.properties.map Prod.snd).map (convert policy follow)) =
      convertProperties policy follow schema.properties := by
    rw [convertProperties_eq_map, Entries.names, List.map_map, List.zip_map']
    rfl
  have hempty : (convertProperties policy follow schema.properties).isEmpty =
      schema.properties.isEmpty := by
    rw [convertProperties_eq_map, List.isEmpty_map]
  rw [convert_of_keywords hreference hparts, hzip]
  simp only [fieldlessTypes, List.mem_cons, List.not_mem_nil, or_false, not_or] at hfields
  obtain ⟨hboolean, hinteger, hnumber, hstring, hnull, harray⟩ := hfields
  unfold keywordType
  rw [if_neg hboolean, if_neg (by simp [hinteger, hnumber]), if_neg hstring, if_neg hnull,
    if_neg harray, hempty]
  simp [isObject]

/-- The fields of parts are those of the types of the parts. -/
theorem convertParts_eq_flatMap (parts : List Schema) :
    convertParts policy follow parts =
      (parts.map (convert policy follow)).flatMap fun type => type.fields?.getD [] := by
  induction parts with
  | nil => rfl
  | cons part rest ih => rw [convertParts, ih, List.map_cons, List.flatMap_cons]

/-- A schema with parts is a record of the fields of the parts and of its own. -/
theorem convert_composed (hreference : schema.reference = none) (hparts : schema.parts ≠ []) :
    convert policy follow schema =
      .record (Entries.ofList (((schema.parts ++ [schema.ownKeywords]).map
        (convert policy follow)).flatMap fun type => type.fields?.getD [])) := by
  rw [convert_of_parts hreference hparts, convertParts_eq_flatMap, List.map_append,
    List.flatMap_append, List.map_singleton, List.flatMap_singleton]

/-- A run gives every schema the type that it has beside the references that are open at
first, and leaves these. -/
theorem TypesInTurn.eq_map (h : TypesInTurn document policy opened schemas types left) :
    ∀ fuel, (unopened document opened).length ≤ fuel →
      left = opened ∧ types = schemas.map (convert policy (innerType document policy fuel opened)) := by
  induction h with
  | done => exact fun _ _ => ⟨rfl, rfl⟩
  | again hreference hopen _ ih =>
      intro fuel hroom
      obtain ⟨rfl, rfl⟩ := ih fuel hroom
      rw [List.map_cons, convert_of_reference hreference, innerType_of_mem hopen]
      exact ⟨rfl, rfl⟩
  | unknown hreference _ hlookup _ ih =>
      intro fuel hroom
      obtain ⟨rfl, rfl⟩ := ih fuel hroom
      rw [List.map_cons, convert_of_reference hreference, innerType_of_lookup?_eq_none hlookup]
      exact ⟨rfl, rfl⟩
  | followed hreference hclosed hlookup _ _ ihtarget ihrest =>
      intro fuel hroom
      obtain ⟨rest, hrest, htype⟩ := exists_rest_of_unopened _ hlookup hclosed hroom
      -- what was pushed is on top again when the stack is popped
      obtain ⟨rfl, htarget⟩ := ihtarget rest hrest
      obtain ⟨rfl, rfl⟩ := ihrest fuel hroom
      obtain rfl := List.singleton_inj.1 htarget
      rw [List.map_cons, convert_of_reference hreference, htype]
      exact ⟨rfl, rfl⟩
  | composed hreference hcomposed _ _ ihparts ihrest =>
      intro fuel hroom
      obtain ⟨rfl, rfl⟩ := ihparts fuel hroom
      obtain ⟨rfl, rfl⟩ := ihrest fuel hroom
      rw [List.map_cons, convert_composed hreference hcomposed]
      exact ⟨rfl, rfl⟩
  | scalar hreference hparts hscalar hother _ ih =>
      intro fuel hroom
      obtain ⟨rfl, rfl⟩ := ih fuel hroom
      rw [List.map_cons, convert_scalar hreference hparts hscalar hother]
      exact ⟨rfl, rfl⟩
  | array hreference hparts harray _ _ ihitems ihrest =>
      intro fuel hroom
      obtain ⟨rfl, rfl⟩ := ihitems fuel hroom
      obtain ⟨rfl, rfl⟩ := ihrest fuel hroom
      rw [List.map_cons, convert_array hreference hparts harray]
      exact ⟨rfl, rfl⟩
  | object hreference hparts hfields _ _ ihproperties ihrest =>
      intro fuel hroom
      obtain ⟨rfl, rfl⟩ := ihproperties fuel hroom
      obtain ⟨rfl, rfl⟩ := ihrest fuel hroom
      rw [List.map_cons, convert_object hreference hparts hfields]
      exact ⟨rfl, rfl⟩

/-! ## Every run comes to an end -/

/-- A schema can be typed beside open references. -/
def CanBeTyped (document : Option Document) (policy : NumberPolicy) (opened : List String)
    (schema : Schema) : Prop :=
  ∃ type left, TypesInTurn document policy opened [schema] [type] left

/-- Typing one schema leaves the stack as it was. -/
theorem TypesInTurn.left_eq (h : TypesInTurn document policy opened schemas types left) :
    left = opened :=
  (h.eq_map _ (length_unopened_le document opened)).1

/-- Runs can be put one after the other. -/
theorem TypesInTurn.append (hfirst : TypesInTurn document policy opened schemas types between)
    (hnext : TypesInTurn document policy between more others left) :
    TypesInTurn document policy opened (schemas ++ more) (types ++ others) left := by
  induction hfirst with
  | done => exact hnext
  | again hreference hopen _ ih => exact .again hreference hopen (ih hnext)
  | unknown hreference hclosed hlookup _ ih =>
      exact .unknown hreference hclosed hlookup (ih hnext)
  | followed hreference hclosed hlookup htarget _ _ ih =>
      exact .followed hreference hclosed hlookup htarget (ih hnext)
  | composed hreference hcomposed hparts _ _ ih =>
      exact .composed hreference hcomposed hparts (ih hnext)
  | scalar hreference hparts hscalar hother _ ih =>
      exact .scalar hreference hparts hscalar hother (ih hnext)
  | array hreference hparts harray hitems _ _ ih =>
      exact .array hreference hparts harray hitems (ih hnext)
  | object hreference hparts hfields hproperties _ _ ih =>
      exact .object hreference hparts hfields hproperties (ih hnext)

/-- Schemas that can be typed can be typed in turn, as each of them leaves the stack as it
was. -/
theorem exists_of_canBeTyped (h : ∀ schema ∈ schemas, CanBeTyped document policy opened schema) :
    ∃ types left, TypesInTurn document policy opened schemas types left := by
  induction schemas with
  | nil => exact ⟨[], opened, .done⟩
  | cons schema rest ih =>
      obtain ⟨hschema, hrest⟩ := List.forall_mem_cons.1 h
      obtain ⟨type, between, hfirst⟩ := hschema
      obtain ⟨types, left, hnext⟩ := ih hrest
      obtain rfl := hfirst.left_eq
      exact ⟨type :: types, left, hfirst.append hnext⟩

/-- A schema without reference and parts can be typed if its properties and items can. -/
theorem canBeTyped_of_keywords (hreference : schema.reference = none) (hparts : schema.parts = [])
    (hproperties : ∀ property ∈ schema.properties,
      CanBeTyped document policy opened property.2)
    (hitems : ∀ item, schema.items = some item → CanBeTyped document policy opened item) :
    CanBeTyped document policy opened schema := by
  by_cases harray : schema.primaryType? = some "array"
  · have hall : ∀ item ∈ schema.items.toList, CanBeTyped document policy opened item :=
      fun item hitem => hitems item (Option.mem_toList.1 hitem)
    obtain ⟨types, left, hrun⟩ := exists_of_canBeTyped hall
    exact ⟨_, _, .array hreference hparts harray hrun .done⟩
  · by_cases hfields : schema.primaryType? ∈ fieldlessTypes
    · exact ⟨_, _, .scalar hreference hparts hfields harray .done⟩
    · have hall : ∀ inner ∈ schema.properties.map Prod.snd,
          CanBeTyped document policy opened inner := by
        intro inner hinner
        obtain ⟨property, hproperty, rfl⟩ := List.mem_map.1 hinner
        exact hproperties property hproperty
      obtain ⟨types, left, hrun⟩ := exists_of_canBeTyped hall
      exact ⟨_, _, .object hreference hparts hfields hrun .done⟩

/-- Every schema can be typed, whichever references are open.  The induction is on the
references that may still be pushed, and inside on the schema. -/
theorem canBeTyped (document : Option Document) (policy : NumberPolicy) (opened : List String)
    (schema : Schema) : CanBeTyped document policy opened schema := by
  induction hsize : (unopened document opened).length using Nat.strongRecOn
    generalizing opened schema with
  | ind size hless =>
      subst hsize
      induction schema using insideInduction with
      | inside schema hproperties hitems hparts =>
          cases hreference : schema.reference with
          | some reference =>
              by_cases hopen : reference ∈ opened
              · exact ⟨_, _, .again hreference hopen .done⟩
              · cases hlookup : lookup? document reference with
                | none => exact ⟨_, _, .unknown hreference hopen hlookup .done⟩
                | some target =>
                    obtain ⟨type, inside, htarget⟩ := hless _ (length_unopened_lt hlookup hopen)
                      (reference :: opened) target rfl
                    exact ⟨_, _, .followed hreference hopen hlookup htarget .done⟩
          | none =>
              have hkeywords : ∀ own : Schema, own.reference = none → own.parts = [] →
                  own.properties = schema.properties → own.items = schema.items →
                  CanBeTyped document policy opened own := by
                intro own hplain hnone hown hitem
                apply canBeTyped_of_keywords hplain hnone
                · rw [hown]
                  exact hproperties
                · rw [hitem]
                  exact hitems
              by_cases hcomposed : schema.parts = []
              · exact hkeywords schema hreference hcomposed rfl rfl
              · have hall : ∀ inner ∈ schema.parts ++ [schema.ownKeywords],
                    CanBeTyped document policy opened inner := by
                  intro inner hinner
                  rcases List.mem_append.1 hinner with hpart | hown
                  · exact hparts inner hpart
                  · obtain rfl := List.mem_singleton.1 hown
                    exact hkeywords schema.ownKeywords hreference rfl rfl rfl
                obtain ⟨types, left, hrun⟩ := exists_of_canBeTyped hall
                exact ⟨_, _, .composed hreference hcomposed hrun .done⟩

/-- Every run comes to an end. -/
theorem exists_typesInTurn (document : Option Document) (policy : NumberPolicy)
    (opened : List String) (schemas : List Schema) :
    ∃ types left, TypesInTurn document policy opened schemas types left :=
  exists_of_canBeTyped fun schema _ => canBeTyped document policy opened schema

/-- A run gives every schema the type that it has by itself beside the references that are
open at first, leaves these, and can always be done. -/
theorem typesInTurn_iff :
    TypesInTurn document policy opened schemas types left ↔
      types = schemas.map (typeBeside document policy opened) ∧ left = opened := by
  constructor
  · intro h
    obtain ⟨hleft, htypes⟩ := h.eq_map _ (length_unopened_le document opened)
    exact ⟨htypes, hleft⟩
  · rintro ⟨rfl, rfl⟩
    obtain ⟨found, after, h⟩ := exists_typesInTurn document policy left schemas
    obtain ⟨hafter, hfound⟩ := h.eq_map _ (length_unopened_le document left)
    rw [hafter, hfound] at h
    exact h

/-- A reference that is not open has the type of the schema that it leads to, beside one more
open reference. -/
theorem typeBeside_of_followed (hreference : schema.reference = some reference)
    (hclosed : reference ∉ opened) (hlookup : lookup? document reference = some target) :
    typeBeside document policy opened schema =
      typeBeside document policy (reference :: opened) target := by
  have htarget : TypesInTurn document policy (reference :: opened) [target]
      [typeBeside document policy (reference :: opened) target] (reference :: opened) :=
    typesInTurn_iff.2 ⟨rfl, rfl⟩
  have hschema := typesInTurn_iff.1 (.followed hreference hclosed hlookup htarget .done)
  exact (List.singleton_inj.1 hschema.1).symm

end ApiBinding.Schema
