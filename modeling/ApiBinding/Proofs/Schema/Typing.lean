import ApiBinding.Proofs.Schema.WellFormed
import ApiBinding.Proofs.Traversal
import ApiBinding.Schema.Typing

/-!
# Types of schemas, keyword by keyword

A schema is typed by the first of its keywords that counts: a reference, its parts, or
the declared type with the properties and items.  Inside other schemas a reference is
typed while some references are open.  It is then untyped, or it has the type of its
schema with fewer references that may still be opened, and opening more of them never
gives a type to what had none.

Main results:

- Theorem `insideInduction`: induction over the schemas inside a schema.
- Theorems `convert_of_reference`, `convert_of_parts` and `convert_of_keywords`: the
  type of a schema by its keywords.
- Theorem `innerType_cases`: the type of a reference inside other schemas.
- Theorem `convert_untyped_mono`: an untyped schema is untyped inside other schemas.
-/

namespace ApiBinding.Schema

variable {policy : NumberPolicy} {follow other : String → ValueType} {schema : Schema}

/-- The keywords of a schema itself, without its parts. -/
def ownKeywords (schema : Schema) : Schema :=
  { schema with parts := [] }

/-! ## Schemas inside a schema -/

/-- What holds of a schema whenever it holds of the schemas directly inside it holds of
every schema. -/
@[elab_as_elim]
theorem insideInduction {motive : Schema → Prop}
    (inside : ∀ schema : Schema, (∀ property ∈ schema.properties, motive property.2) →
      (∀ item, schema.items = some item → motive item) → (∀ part ∈ schema.parts, motive part) →
      motive schema) (schema : Schema) : motive schema := by
  refine @Schema.rec motive (fun properties => ∀ property ∈ properties, motive property.2)
    (fun items => ∀ item, items = some item → motive item)
    (fun parts => ∀ part ∈ parts, motive part) (fun property => motive property.2)
    ?_ ?_ ?_ ?_ ?_ ?_ ?_ ?_ schema
  · intro _ _ _ _ _ _ _ _ _ _ _ _ hproperties hitems hparts
    exact inside _ hproperties hitems hparts
  · exact List.forall_mem_nil _
  · intro property rest hproperty hrest
    exact List.forall_mem_cons.2 ⟨hproperty, hrest⟩
  · intro item hitem
    cases hitem
  · intro item hinside other hother
    exact Option.some.inj hother ▸ hinside
  · exact List.forall_mem_nil _
  · intro part rest hpart hrest
    exact List.forall_mem_cons.2 ⟨hpart, hrest⟩
  · intro name schema hschema
    exact hschema

/-! ## Keywords -/

/-- A reference has the type that it leads to. -/
theorem convert_of_reference {reference : String} (h : schema.reference = some reference) :
    convert policy follow schema = follow reference := by
  obtain ⟨_, _, _, _, _, _, _, _, _, _, _, _⟩ := schema
  obtain rfl := h
  rw [convert]

/-- A schema without parts has the type that its keywords say. -/
theorem convert_of_keywords (hreference : schema.reference = none) (hparts : schema.parts = []) :
    convert policy follow schema =
      keywordType policy schema.primaryType? schema.format
        (convertProperties policy follow schema.properties)
        (convertItems policy follow schema.items) := by
  obtain ⟨_, _, _, _, _, _, _, _, _, _, _, _⟩ := schema
  obtain rfl := hreference
  obtain rfl := hparts
  rw [convert]
  rfl

/-- A schema with parts is a record of the fields of its parts and of its own. -/
theorem convert_of_parts (hreference : schema.reference = none) (hparts : schema.parts ≠ []) :
    convert policy follow schema =
      .record (Entries.ofList (convertParts policy follow schema.parts ++
        (convert policy follow schema.ownKeywords).fields?.getD [])) := by
  obtain ⟨_, _, _, _, _, _, _, _, _, _, _, _⟩ := schema
  obtain rfl := hreference
  simp only [ownKeywords, convert, List.isEmpty_nil, if_true]
  rw [if_neg (by simpa using hparts)]

/-- Properties are typed one by one. -/
theorem convertProperties_eq_map (properties : List (String × Schema)) :
    convertProperties policy follow properties =
      properties.map fun property => (property.1, convert policy follow property.2) := by
  induction properties with
  | nil => rw [convertProperties, List.map_nil]
  | cons property rest ih => rw [convertProperties, ih, List.map_cons]

/-- The items of an array are typed if there are any. -/
theorem convertItems_eq_map (items : Option Schema) :
    convertItems policy follow items = items.map (convert policy follow) := by
  cases items with
  | none => rw [convertItems, Option.map_none]
  | some item => rw [convertItems, Option.map_some]

/-- Only a record has fields. -/
theorem exists_fields_of_mem {type : ValueType} {field : String × ValueType}
    (h : field ∈ type.fields?.getD []) : ∃ fields, type = .record fields ∧ field ∈ fields := by
  cases type with
  | record fields => exact ⟨fields, rfl, h⟩
  | _ => simp [ValueType.fields?] at h

/-- The fields of parts come from parts that are records. -/
theorem exists_part_of_mem_convertParts {parts : List Schema} {field : String × ValueType}
    (h : field ∈ convertParts policy follow parts) :
    ∃ part ∈ parts, ∃ fields, convert policy follow part = .record fields ∧ field ∈ fields := by
  induction parts with
  | nil => simp [convertParts] at h
  | cons part rest ih =>
      rw [convertParts, List.mem_append] at h
      rcases h with hfirst | hrest
      · exact ⟨part, List.mem_cons_self, exists_fields_of_mem hfirst⟩
      · obtain ⟨later, hlater, hfields⟩ := ih hrest
        exact ⟨later, List.mem_cons_of_mem _ hlater, hfields⟩

/-! ## Untyped schemas -/

/-- Numbers always have a type. -/
theorem ofPolicy_ne_untyped : ValueType.ofPolicy policy ≠ .untyped := by
  cases policy <;> simp [ValueType.ofPolicy]

/-- Keywords that say no type do not say one for other types of properties and items. -/
theorem keywordType_untyped {primary format : Option String}
    {properties others : List (String × ValueType)} {items otherItems : Option ValueType}
    (hempty : properties.isEmpty = others.isEmpty)
    (h : keywordType policy primary format properties items = .untyped) :
    keywordType policy primary format others otherItems = .untyped := by
  unfold keywordType at h ⊢
  rw [← hempty]
  split_ifs at h ⊢
  all_goals first
    | rfl
    | exact absurd h ofPolicy_ne_untyped

/-- Whether a schema that is no reference is untyped does not depend on references. -/
theorem convert_untyped_of_reference_eq_none (hreference : schema.reference = none)
    (h : convert policy follow schema = .untyped) : convert policy other schema = .untyped := by
  by_cases hparts : schema.parts = []
  · rw [convert_of_keywords hreference hparts] at h ⊢
    refine keywordType_untyped ?_ h
    simp [convertProperties_eq_map]
  · rw [convert_of_parts hreference hparts] at h
    simp at h

/-! ## References inside other schemas -/

/-- The type of a reference while others are open.  Without a document no reference is
known. -/
def innerType (document : Option Document) (policy : NumberPolicy) (fuel : Nat)
    (opened : List String) (reference : String) : ValueType :=
  match document with
  | none => .untyped
  | some document => followWithin document policy fuel opened reference

/-- How many references of a description can be open at once. -/
def outerFuel (document : Option Document) : Nat :=
  (document.map referenceBound).getD 0

variable {document : Option Document} {fuel less : Nat} {opened more : List String}
  {reference : String}

/-- At first no reference is open. -/
theorem toType_eq_convert :
    schema.toType document policy =
      convert policy (innerType document policy (outerFuel document) []) schema := by
  unfold toType
  congr 1
  cases document <;> rfl

/-- A reference that may still be opened has the type of its schema, with itself open. -/
theorem innerType_of_resolve {target : Schema}
    (hresolve : (document.bind fun document => document.resolve? reference) = some target)
    (hopen : reference ∉ opened) :
    innerType document policy (fuel + 1) opened reference =
      convert policy (innerType document policy fuel (reference :: opened)) target := by
  cases document with
  | none => simp at hresolve
  | some document =>
      rw [Option.bind_some] at hresolve
      simp only [innerType, followWithin]
      rw [if_neg (by simpa using hopen), hresolve]
      rfl

/-- A reference inside others is untyped, or it may still be opened and leads to a
schema. -/
theorem innerType_cases (document : Option Document) (policy : NumberPolicy) (fuel : Nat)
    (opened : List String) (reference : String) :
    innerType document policy fuel opened reference = .untyped ∨
      ∃ target rest, (document.bind fun document => document.resolve? reference) = some target ∧
        fuel = rest + 1 ∧ reference ∉ opened := by
  match document, fuel with
  | none, _ => exact Or.inl rfl
  | some _, 0 => exact Or.inl rfl
  | some document, rest + 1 =>
      by_cases hopen : reference ∈ opened
      · left
        simp only [innerType, followWithin]
        rw [if_pos (by simpa using hopen)]
      · cases hresolve : document.resolve? reference with
        | some target => exact Or.inr ⟨target, rest, by simpa using hresolve, rfl, hopen⟩
        | none =>
            left
            simp only [innerType, followWithin]
            rw [if_neg (by simpa using hopen), hresolve]

/-- An untyped reference stays untyped where more references are open. -/
theorem innerType_untyped_mono (hfuel : less ≤ fuel) (hopened : opened ⊆ more)
    (h : innerType document policy fuel opened reference = .untyped) :
    innerType document policy less more reference = .untyped := by
  induction less generalizing fuel opened more reference with
  | zero => cases document <;> rfl
  | succ less ih =>
      rcases innerType_cases document policy (less + 1) more reference with
        huntyped | ⟨target, _, hresolve, _, hopen⟩
      · exact huntyped
      · -- the reference may also be opened where fewer are open
        obtain ⟨rest, rfl⟩ : ∃ rest, fuel = rest + 1 := ⟨fuel - 1, by omega⟩
        rw [innerType_of_resolve hresolve fun hmem => hopen (hopened hmem)] at h
        rw [innerType_of_resolve hresolve hopen]
        cases hreference : target.reference with
        | none => exact convert_untyped_of_reference_eq_none hreference h
        | some next =>
            rw [convert_of_reference hreference] at h ⊢
            exact ih (by omega) (List.cons_subset_cons _ hopened) h

/-- An untyped schema is untyped inside other schemas as well. -/
theorem convert_untyped_mono (hfuel : less ≤ outerFuel document)
    (h : schema.toType document policy = .untyped) :
    convert policy (innerType document policy less opened) schema = .untyped := by
  rw [toType_eq_convert] at h
  cases hreference : schema.reference with
  | none => exact convert_untyped_of_reference_eq_none hreference h
  | some reference =>
      rw [convert_of_reference hreference] at h ⊢
      exact innerType_untyped_mono hfuel (List.nil_subset _) h

end ApiBinding.Schema
