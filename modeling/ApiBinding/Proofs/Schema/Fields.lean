import ApiBinding.Proofs.Schema.References

/-!
# Fields of schemas

Which fields the type of a schema has can be said without the conversion: its own
properties, unless its declared type is that of a scalar or an array, the fields of its
parts, and those of the schema that it refers to.  That an open reference is not followed again
makes no difference to them: a field that is found on a way through a reference twice
is also found without the way in between.

Main results:

- Theorem `foundBeside_nil_iff_hasField`: a field that is found by following references
  again and again is found by following none twice.
- Theorem `hasField_target_iff`: a schema has the fields of the schema that it stands for.
- Theorem `mem_fieldNames_toType_iff`: the fields of the type of a schema.
-/

namespace ApiBinding

/-- The names of the fields of a type; only a record has any. -/
def ValueType.fieldNames (type : ValueType) : List String :=
  Entries.names (type.fields?.getD [])

namespace Schema

/-- The declared types under which a schema is no record, whatever properties it has. -/
def fieldlessTypes : List (Option String) :=
  [some "boolean", some "integer", some "number", some "string", some "null", some "array"]

/-- A property of a schema itself, as far as the declared type lets it have any. -/
def Owns (schema : Schema) (name : String) : Prop :=
  schema.primaryType? ∉ fieldlessTypes ∧ name ∈ Entries.names schema.properties

/-- A schema has the fields of its own, of its parts and of the schema that it refers to. -/
inductive HasField (document : Option Document) (name : String) : Schema → Prop where
  | own {schema : Schema} (hreference : schema.reference = none) (howns : schema.Owns name) :
      HasField document name schema
  | part {schema part : Schema} (hreference : schema.reference = none)
      (hpart : part ∈ schema.parts) (hfield : HasField document name part) :
      HasField document name schema
  | target {schema target : Schema} {reference : String}
      (hreference : schema.reference = some reference)
      (hlookup : lookup? document reference = some target)
      (hfield : HasField document name target) : HasField document name schema

/-- The fields of a schema that are found when no open reference is followed. -/
inductive FoundBeside (document : Option Document) (name : String) :
    List String → Schema → Prop where
  | own {opened : List String} {schema : Schema} (hreference : schema.reference = none)
      (howns : schema.Owns name) : FoundBeside document name opened schema
  | part {opened : List String} {schema part : Schema} (hreference : schema.reference = none)
      (hpart : part ∈ schema.parts) (hfound : FoundBeside document name opened part) :
      FoundBeside document name opened schema
  | target {opened : List String} {schema target : Schema} {reference : String}
      (hreference : schema.reference = some reference)
      (hlookup : lookup? document reference = some target) (hopen : reference ∉ opened)
      (hfound : FoundBeside document name (reference :: opened) target) :
      FoundBeside document name opened schema

variable {document : Option Document} {policy : NumberPolicy} {follow : String → ValueType}
  {fuel : Nat} {opened less : List String} {name reference : String} {schema target : Schema}

/-! ## Cutting repeated references -/

/-- Beside open references a schema that is no reference has its own fields and those of
its parts. -/
theorem foundBeside_iff_of_reference_eq_none (hreference : schema.reference = none) :
    FoundBeside document name opened schema ↔
      schema.Owns name ∨ ∃ part ∈ schema.parts, FoundBeside document name opened part := by
  constructor
  · intro h
    cases h with
    | own _ howns => exact Or.inl howns
    | part _ hpart hfound => exact Or.inr ⟨_, hpart, hfound⟩
    | target hother => rw [hreference] at hother; cases hother
  · rintro (howns | ⟨part, hpart, hfound⟩)
    · exact .own hreference howns
    · exact .part hreference hpart hfound

/-- Beside open references a reference has the fields of its schema if it is not open. -/
theorem foundBeside_iff_of_reference (hreference : schema.reference = some reference) :
    FoundBeside document name opened schema ↔
      ∃ target, lookup? document reference = some target ∧ reference ∉ opened ∧
        FoundBeside document name (reference :: opened) target := by
  constructor
  · intro h
    cases h with
    | own hother _ => rw [hreference] at hother; cases hother
    | part hother _ _ => rw [hreference] at hother; cases hother
    | target hother hlookup hopen hfound =>
        obtain rfl := Option.some.inj (hreference.symm.trans hother)
        exact ⟨_, hlookup, hopen, hfound⟩
  · rintro ⟨target, hlookup, hopen, hfound⟩
    exact .target hreference hlookup hopen hfound

/-- Where fewer references are open, no fewer fields are found. -/
theorem FoundBeside.anti (h : FoundBeside document name opened schema) (hless : less ⊆ opened) :
    FoundBeside document name less schema := by
  induction h generalizing less with
  | own hreference howns => exact .own hreference howns
  | part hreference hpart _ ih => exact .part hreference hpart (ih hless)
  | target hreference hlookup hopen _ ih =>
      exact .target hreference hlookup (fun hmem => hopen (hless hmem))
        (ih (List.cons_subset_cons _ hless))

/-- A field of a schema is found beside open references, or one of these leads to a
schema where it is found beside them. -/
theorem HasField.foundBeside (h : HasField document name schema) (opened : List String) :
    FoundBeside document name opened schema ∨
      ∃ reference ∈ opened, ∃ target, lookup? document reference = some target ∧
        FoundBeside document name opened target := by
  induction h generalizing opened with
  | own hreference howns => exact Or.inl (.own hreference howns)
  | part hreference hpart _ ih => exact (ih opened).imp (.part hreference hpart) id
  | @target schema target reference hreference hlookup _ ih =>
      by_cases hopen : reference ∈ opened
      · rcases ih opened with hfound | hother
        · exact Or.inr ⟨reference, hopen, target, hlookup, hfound⟩
        · exact Or.inr hother
      · rcases ih (reference :: opened) with hfound | ⟨other, hother, found, hleads, hfound⟩
        · exact Or.inl (.target hreference hlookup hopen hfound)
        · rcases List.mem_cons.1 hother with rfl | hother
          · -- the way comes back to the reference itself and is cut there
            obtain rfl := Option.some.inj (hlookup.symm.trans hleads)
            exact Or.inl (.target hreference hlookup hopen hfound)
          · exact Or.inr ⟨other, hother, found, hleads,
              hfound.anti (List.subset_cons_self _ _)⟩

/-- A field that is found beside open references is a field. -/
theorem FoundBeside.hasField (h : FoundBeside document name opened schema) :
    HasField document name schema := by
  induction h with
  | own hreference howns => exact .own hreference howns
  | part hreference hpart _ ih => exact .part hreference hpart ih
  | target hreference hlookup _ _ ih => exact .target hreference hlookup ih

/-- Following no reference twice finds all fields. -/
theorem foundBeside_nil_iff_hasField :
    FoundBeside document name [] schema ↔ HasField document name schema := by
  refine ⟨FoundBeside.hasField, fun h => ?_⟩
  rcases h.foundBeside [] with hfound | ⟨reference, hopen, _⟩
  · exact hfound
  · cases hopen

/-! ## Fields by clause -/

/-- A schema that is no reference has its own fields and those of its parts. -/
theorem hasField_iff_of_reference_eq_none (hreference : schema.reference = none) :
    HasField document name schema ↔
      schema.Owns name ∨ ∃ part ∈ schema.parts, HasField document name part := by
  simp only [← foundBeside_nil_iff_hasField]
  exact foundBeside_iff_of_reference_eq_none hreference

/-- A reference has the fields of the schema that it leads to. -/
theorem hasField_iff_of_reference (hreference : schema.reference = some reference) :
    HasField document name schema ↔
      ∃ target, lookup? document reference = some target ∧ HasField document name target := by
  constructor
  · intro h
    rw [← foundBeside_nil_iff_hasField, foundBeside_iff_of_reference hreference] at h
    obtain ⟨target, hlookup, _, hfound⟩ := h
    exact ⟨target, hlookup, hfound.hasField⟩
  · rintro ⟨target, hlookup, hfield⟩
    exact .target hreference hlookup hfield

/-- A schema has the fields of the schema that it stands for. -/
theorem hasField_target_iff :
    HasField document name ((schema.target? document).getD schema) ↔
      HasField document name schema := by
  cases hreference : schema.reference with
  | none => rw [target?_of_reference_eq_none hreference, Option.getD_some]
  | some reference =>
      rw [target?_of_reference hreference]
      cases hlookup : lookup? document reference with
      | none => rw [Option.getD_none]
      | some target =>
          rw [Option.getD_some, hasField_iff_of_reference hreference]
          simp [hlookup]

/-! ## Fields of types -/

/-- Numbers have no fields. -/
theorem fieldNames_ofPolicy : (ValueType.ofPolicy policy).fieldNames = [] := by
  cases policy <;> rfl

/-- A scalar or an array has no fields; any other schema has those of its properties. -/
theorem fieldNames_keywordType {primary format : Option String}
    {properties : List (String × ValueType)} {items : Option ValueType} :
    (keywordType policy primary format properties items).fieldNames =
      if primary ∈ fieldlessTypes then [] else Entries.names properties := by
  by_cases hfieldless : primary ∈ fieldlessTypes
  · rw [if_pos hfieldless]
    simp only [fieldlessTypes, List.mem_cons, List.not_mem_nil, or_false] at hfieldless
    rcases hfieldless with rfl | rfl | rfl | rfl | rfl | rfl
    · rfl
    · exact fieldNames_ofPolicy
    · exact fieldNames_ofPolicy
    · have htext : keywordType policy (some "string") format properties items =
          if isDateFormat format then .dateTime else .text := rfl
      rw [htext]
      split <;> rfl
    · rfl
    · rfl
  · rw [if_neg hfieldless]
    simp only [fieldlessTypes, List.mem_cons, List.not_mem_nil, or_false, not_or] at hfieldless
    obtain ⟨hboolean, hinteger, hnumber, hstring, hnull, harray⟩ := hfieldless
    unfold keywordType
    rw [if_neg hboolean, if_neg (not_or.2 ⟨hinteger, hnumber⟩), if_neg hstring, if_neg hnull,
      if_neg harray]
    split
    · rfl
    · rename_i hobject
      have hempty : properties = [] := by simpa using (not_or.1 hobject).2
      rw [hempty]
      rfl

/-- A schema without parts has the fields of its properties, unless its declared type
lets it have none. -/
theorem fieldNames_convert_of_keywords (hreference : schema.reference = none)
    (hparts : schema.parts = []) :
    (convert policy follow schema).fieldNames =
      if schema.primaryType? ∈ fieldlessTypes then [] else Entries.names schema.properties := by
  have hnames : Entries.names (convertProperties policy follow schema.properties) =
      Entries.names schema.properties := by
    simp [Entries.names, convertProperties_eq_map]
  rw [convert_of_keywords hreference hparts, fieldNames_keywordType, hnames]

/-- A schema without parts has its own fields. -/
theorem mem_fieldNames_convert_of_keywords (hreference : schema.reference = none)
    (hparts : schema.parts = []) :
    name ∈ (convert policy follow schema).fieldNames ↔ schema.Owns name := by
  rw [fieldNames_convert_of_keywords hreference hparts, Owns]
  by_cases hfieldless : schema.primaryType? ∈ fieldlessTypes
  · simp [hfieldless]
  · simp [hfieldless]

/-- The fields of parts are those of each of them. -/
theorem mem_names_convertParts {parts : List Schema} :
    name ∈ Entries.names (convertParts policy follow parts) ↔
      ∃ part ∈ parts, name ∈ (convert policy follow part).fieldNames := by
  induction parts with
  | nil => simp [convertParts, Entries.names]
  | cons part rest ih =>
      have hcons : Entries.names (convertParts policy follow (part :: rest)) =
          (convert policy follow part).fieldNames ++
            Entries.names (convertParts policy follow rest) := by
        rw [convertParts, Entries.names, List.map_append]
        rfl
      rw [hcons, List.mem_append, ih]
      simp

/-- A schema that is no reference has its own fields and those of its parts, whatever
references lead to. -/
theorem mem_fieldNames_convert (hreference : schema.reference = none) :
    name ∈ (convert policy follow schema).fieldNames ↔
      schema.Owns name ∨ ∃ part ∈ schema.parts, name ∈ (convert policy follow part).fieldNames := by
  by_cases hparts : schema.parts = []
  · rw [mem_fieldNames_convert_of_keywords hreference hparts, hparts]
    simp
  · have hown : name ∈ (convert policy follow schema.ownKeywords).fieldNames ↔ schema.Owns name :=
      mem_fieldNames_convert_of_keywords hreference rfl
    rw [convert_of_parts hreference hparts, ← hown, ← mem_names_convertParts]
    simp only [ValueType.fieldNames, ValueType.fields?, Option.getD_some]
    rw [Entries.mem_names_ofList_iff, Entries.names, List.map_append, List.mem_append, or_comm]
    rfl

/-- A reference that is not followed has no fields. -/
theorem not_mem_fieldNames_untyped : name ∉ ValueType.untyped.fieldNames :=
  List.not_mem_nil

/-- Wherever a schema stands, its type has the fields that are found beside the open
references. -/
theorem mem_fieldNames_innerType (hroom : Room document fuel opened) (schema : Schema) :
    name ∈ (convert policy (innerType document policy fuel opened) schema).fieldNames ↔
      FoundBeside document name opened schema := by
  induction fuel using Nat.strongRecOn generalizing opened schema with
  | ind fuel hless =>
    induction schema using insideInduction with
    | _ schema _ _ hparts =>
      cases hreference : schema.reference with
      | none =>
          rw [mem_fieldNames_convert hreference, foundBeside_iff_of_reference_eq_none hreference]
          exact or_congr_right (exists_congr fun part => and_congr_right fun hpart =>
            hparts part hpart)
      | some reference =>
          rw [convert_of_reference hreference, foundBeside_iff_of_reference hreference]
          cases hlookup : lookup? document reference with
          | none =>
              rw [innerType_of_lookup?_eq_none hlookup]
              simp [not_mem_fieldNames_untyped]
          | some target =>
              by_cases hopen : reference ∈ opened
              · rw [innerType_of_mem hopen]
                simp [not_mem_fieldNames_untyped, hopen]
              · obtain ⟨rest, hrest, hinner, htype⟩ :=
                  hroom.innerType_of_not_mem policy hlookup hopen
                rw [htype, hless rest hrest hinner target]
                simp [hopen]

/-- The type of a schema has the fields of the schema. -/
theorem mem_fieldNames_toType_iff :
    name ∈ (schema.toType document policy).fieldNames ↔ HasField document name schema := by
  rw [toType_eq_convert, mem_fieldNames_innerType (room_outerFuel document),
    foundBeside_nil_iff_hasField]

end Schema

end ApiBinding
