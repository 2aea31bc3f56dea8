import ApiBinding.Proofs.Json.Fields
import ApiBinding.Schema.Reader

/-!
# Well-formed schemas

Reading a schema guarantees more than its type says: properties stand in the order of
their names, and a default that is there is not null.  Both hold of the schema and of
every schema inside it.

Main results:

- Theorem `wellFormed_of_readWithin`: every schema that is read is well-formed.
- Theorem `wellFormed_empty`: the schema without keywords is well-formed.
-/

namespace ApiBinding

namespace Schema

/-- What reading guarantees of a schema and of every schema inside it. -/
inductive WellFormed : Schema → Prop where
  | intro {schema : Schema}
      (properties_sorted : Entries.Sorted schema.properties)
      (default_ne_null : schema.default ≠ some .null)
      (properties : ∀ property ∈ schema.properties, WellFormed property.2)
      (items : ∀ item, schema.items = some item → WellFormed item)
      (parts : ∀ part ∈ schema.parts, WellFormed part) : WellFormed schema

namespace WellFormed

variable {schema : Schema}

/-- The properties of a well-formed schema stand in the order of their names. -/
theorem sorted (h : WellFormed schema) : Entries.Sorted schema.properties := by
  cases h
  assumption

/-- A well-formed schema has no null default. -/
theorem default_ne_null (h : WellFormed schema) : schema.default ≠ some .null := by
  cases h
  assumption

/-- The properties of a well-formed schema are well-formed. -/
theorem property (h : WellFormed schema) :
    ∀ property ∈ schema.properties, WellFormed property.2 := by
  cases h
  assumption

end WellFormed

/-- The schema without keywords is well-formed. -/
theorem wellFormed_empty : WellFormed {} :=
  .intro List.Pairwise.nil (by simp) (by simp) (by simp) (by simp)

/-- The schema that a parameter spreads over its declaration is well-formed. -/
theorem wellFormed_ofType (name : String) (format : Option String) {items : Option Schema}
    (h : ∀ item, items = some item → WellFormed item) :
    WellFormed { ofType name with format, items } :=
  .intro List.Pairwise.nil (by simp [ofType]) (by simp [ofType]) h (by simp [ofType])

/-- Where the properties, items, parts and default of a schema are read from. -/
theorem exists_fields_of_readWithin {height : Nat} {json : Json} {schema : Schema}
    (h : readWithin (height + 1) json = some schema) :
    ∃ fields : Fields,
      fields.defaulted? "properties" [] (Json.sorted? (readWithin height)) =
          some schema.properties ∧
        fields.optional? "items" (readWithin height) = some schema.items ∧
        fields.defaulted? "allOf" [] (Json.list? (readWithin height)) = some schema.parts ∧
        fields.optional? "default" some = some schema.default := by
  rw [readWithin] at h
  obtain ⟨fields, _, h⟩ := Option.bind_eq_some_iff.1 h
  obtain ⟨_, _, h⟩ := Option.bind_eq_some_iff.1 h
  obtain ⟨_, _, h⟩ := Option.bind_eq_some_iff.1 h
  obtain ⟨_, _, h⟩ := Option.bind_eq_some_iff.1 h
  obtain ⟨properties, hproperties, h⟩ := Option.bind_eq_some_iff.1 h
  obtain ⟨items, hitems, h⟩ := Option.bind_eq_some_iff.1 h
  obtain ⟨_, _, h⟩ := Option.bind_eq_some_iff.1 h
  obtain ⟨parts, hparts, h⟩ := Option.bind_eq_some_iff.1 h
  obtain ⟨default, hdefault, h⟩ := Option.bind_eq_some_iff.1 h
  obtain ⟨_, _, h⟩ := Option.bind_eq_some_iff.1 h
  obtain ⟨_, _, h⟩ := Option.bind_eq_some_iff.1 h
  obtain ⟨_, _, h⟩ := Option.bind_eq_some_iff.1 h
  obtain ⟨_, _, h⟩ := Option.bind_eq_some_iff.1 h
  obtain rfl := Option.some.inj h
  exact ⟨fields, hproperties, hitems, hparts, hdefault⟩

/-- Every schema that is read is well-formed; the induction is on the height read. -/
theorem wellFormed_of_readWithin (height : Nat) :
    ∀ (json : Json) (schema : Schema), readWithin height json = some schema →
      WellFormed schema := by
  induction height with
  | zero => simp [readWithin]
  | succ height ih =>
      intro json schema hread
      obtain ⟨fields, hproperties, hitems, hparts, hdefault⟩ := exists_fields_of_readWithin hread
      refine .intro ?_ (Fields.optional?_ne_null hdefault) ?_ ?_ ?_
      · rcases Fields.defaulted?_cases hproperties with hnil | ⟨_, hsorted⟩
        · rw [hnil]
          exact List.Pairwise.nil
        · exact Json.sorted_of_sorted? hsorted
      · rcases Fields.defaulted?_cases hproperties with hnil | ⟨_, hsorted⟩
        · simp [hnil]
        · exact Json.forall_of_sorted? ih hsorted
      · exact Fields.forall_of_optional? ih hitems
      · rcases Fields.defaulted?_cases hparts with hnil | ⟨_, hlist⟩
        · simp [hnil]
        · exact Json.forall_of_list? ih hlist

/-- Every schema that a JSON value writes is well-formed. -/
theorem wellFormed_of_ofJson? (json : Json) (schema : Schema) (h : ofJson? json = some schema) :
    WellFormed schema :=
  wellFormed_of_readWithin json.height json schema h

end Schema

end ApiBinding
