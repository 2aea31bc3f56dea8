import ApiBinding.Proofs.Entries.Order
import ApiBinding.Proofs.Schema.Typing
import ApiBinding.Proofs.ValueType.Columns

/-!
# Number types

A type that is made under a number policy has the number type of that policy, in whatever
depth numbers stand, and no other one.  This holds of the types of schemas, of all that they
refer to, and of the types that are learned from samples.

Main results:

- Theorems `keepsTo_record_iff` and `keepsTo_table_iff`: number types field by field.
- Theorem `keepsTo_toType`: the number types of a schema.
- Theorem `keepsTo_infer`: the number types of a sample.
-/

namespace ApiBinding

namespace ValueType

/-- A type stands in another one, at any depth. -/
inductive Contains : ValueType → ValueType → Prop where
  | itself (type : ValueType) : Contains type type
  | field {fields : List (String × ValueType)} {field : String × ValueType} {part : ValueType}
      (hfield : field ∈ fields) (h : Contains field.2 part) : Contains (.record fields) part
  | column {columns : List (String × ValueType)} {column : String × ValueType} {part : ValueType}
      (hcolumn : column ∈ columns) (h : Contains column.2 part) : Contains (.table columns) part

/-- A type has no number type but that of a policy. -/
def KeepsTo (policy : NumberPolicy) (type : ValueType) : Prop :=
  ∀ other, type.Contains (ofPolicy other) → other = policy

variable {policy : NumberPolicy} {type : ValueType} {columns : List (String × ValueType)}

/-! ## Parts of types -/

/-- The type of numbers under a policy keeps to it. -/
theorem keepsTo_ofPolicy (policy : NumberPolicy) : (ofPolicy policy).KeepsTo policy := by
  intro other h
  cases policy with
  | binary =>
      cases other with
      | binary => rfl
      | decimal => cases h
  | decimal =>
      cases other with
      | binary => cases h
      | decimal => rfl

/-- A type that has neither parts nor numbers keeps to every policy. -/
theorem keepsTo_of_plain (h : type = .blank ∨ type = .boolean ∨ type = .text ∨
    type = .dateTime ∨ type = .untyped) : type.KeepsTo policy := by
  intro other hother
  rcases h with rfl | rfl | rfl | rfl | rfl <;> cases other <;> cases hother

/-- A record keeps to a policy if all fields do. -/
theorem keepsTo_record_iff {fields : List (String × ValueType)} :
    (record fields).KeepsTo policy ↔ ∀ field ∈ fields, field.2.KeepsTo policy := by
  constructor
  · exact fun h field hfield other hother => h other (.field hfield hother)
  · intro h other hother
    cases other <;> cases hother with
    | field hfield hpart => exact h _ hfield _ hpart

/-- A table keeps to a policy if all columns do. -/
theorem keepsTo_table_iff :
    (table columns).KeepsTo policy ↔ ∀ column ∈ columns, column.2.KeepsTo policy := by
  constructor
  · exact fun h column hcolumn other hother => h other (.column hcolumn hother)
  · intro h other hother
    cases other <;> cases hother with
    | column hcolumn hpart => exact h _ hcolumn _ hpart

/-- The columns that items make keep to the policy of the items. -/
theorem KeepsTo.rowColumns (h : type.KeepsTo policy) :
    ∀ column ∈ type.rowColumns, column.2.KeepsTo policy := by
  cases type with
  | record fields => exact keepsTo_record_iff.1 h
  | untyped => exact List.forall_mem_nil _
  | _ => exact List.forall_mem_singleton.2 h

/-! ## Samples -/

/-- One more column leaves columns that keep to a policy. -/
theorem keepsTo_addColumn {column : String × ValueType}
    (hcolumns : ∀ column ∈ columns, column.2.KeepsTo policy) (hcolumn : column.2.KeepsTo policy) :
    ∀ found ∈ addColumn columns column, found.2.KeepsTo policy := by
  have hinsert : ∀ found ∈ Entries.insert column.1 column.2 columns, found.2.KeepsTo policy := by
    intro found hfound
    rcases Entries.mem_insert hfound with rfl | hold
    · exact hcolumn
    · exact hcolumns found hold
  unfold addColumn
  split
  · exact hinsert
  · split
    · exact hinsert
    · exact hcolumns

/-- One more row leaves columns that keep to a policy. -/
theorem keepsTo_addRow {row : ValueType}
    (hcolumns : ∀ column ∈ columns, column.2.KeepsTo policy) (hrow : row.KeepsTo policy) :
    ∀ found ∈ addRow columns row, found.2.KeepsTo policy := by
  unfold addRow
  split
  next fields =>
    rw [keepsTo_record_iff] at hrow
    induction fields generalizing columns with
    | nil => exact hcolumns
    | cons field fields ih =>
        rw [List.forall_mem_cons] at hrow
        exact ih (keepsTo_addColumn hcolumns hrow.1) hrow.2
  next => exact hcolumns
  next =>
    split
    · intro found hfound
      rcases Entries.mem_insert hfound with rfl | hold
      · exact hrow
      · exact hcolumns found hold
    · exact hcolumns

/-- The columns of rows keep to the policy of the rows. -/
theorem keepsTo_columnsOf {rows : List ValueType} (h : ∀ row ∈ rows, row.KeepsTo policy) :
    ∀ column ∈ columnsOf rows, column.2.KeepsTo policy := by
  have hfold : ∀ columns : List (String × ValueType),
      (∀ column ∈ columns, column.2.KeepsTo policy) →
        ∀ column ∈ rows.foldl addRow columns, column.2.KeepsTo policy := by
    induction rows with
    | nil => exact fun _ hcolumns => hcolumns
    | cons row rows ih =>
        intro columns hcolumns
        rw [List.forall_mem_cons] at h
        exact ih h.2 _ (keepsTo_addRow hcolumns h.1)
  exact hfold [] (List.forall_mem_nil _)

/-- The type of a sample keeps to the policy that it is learned under. -/
theorem keepsTo_infer (policy : NumberPolicy) (json : Json) :
    (infer policy json).KeepsTo policy := by
  match json with
  | .null | .bool _ | .str _ => exact keepsTo_of_plain (by simp [infer])
  | .num n =>
      rw [infer]
      exact keepsTo_ofPolicy policy
  | .arr items =>
      rw [infer, keepsTo_table_iff, inferItems_eq_map]
      refine keepsTo_columnsOf (List.forall_mem_map.2 fun item hitem => ?_)
      exact keepsTo_infer policy item
  | .obj members =>
      rw [infer, keepsTo_record_iff, ofList_inferMembers]
      refine List.forall_mem_map.2 fun member hmember => ?_
      exact keepsTo_infer policy member.2
termination_by sizeOf json
decreasing_by
  · have hsmaller := List.sizeOf_lt_of_mem hitem
    rw [Json.arr.sizeOf_spec]
    omega
  · exact Json.sizeOf_lt_obj hmember

end ValueType

/-! ## Schemas -/

namespace Schema

open ValueType (keepsTo_ofPolicy keepsTo_of_plain keepsTo_record_iff keepsTo_table_iff)

variable {policy : NumberPolicy} {follow : String → ValueType}

/-- Keywords say a type that keeps to the policy if properties and items have such types. -/
theorem keepsTo_keywordType (primary format : Option String)
    {properties : List (String × ValueType)} {items : Option ValueType}
    (hproperties : ∀ property ∈ properties, property.2.KeepsTo policy)
    (hitems : ∀ item, items = some item → item.KeepsTo policy) :
    (keywordType policy primary format properties items).KeepsTo policy := by
  unfold keywordType
  split_ifs
  · exact keepsTo_of_plain (by simp)
  · exact keepsTo_ofPolicy policy
  · exact keepsTo_of_plain (by simp)
  · exact keepsTo_of_plain (by simp)
  · exact keepsTo_of_plain (by simp)
  · rw [keepsTo_table_iff]
    cases items with
    | none => exact List.forall_mem_nil _
    | some item => exact (hitems item rfl).rowColumns
  · exact keepsTo_record_iff.2 hproperties
  · exact keepsTo_of_plain (by simp)

/-- The type of a schema keeps to the policy if the types of references do. -/
theorem keepsTo_convert (hfollow : ∀ reference, (follow reference).KeepsTo policy)
    (schema : Schema) : (convert policy follow schema).KeepsTo policy := by
  induction schema using insideInduction with
  | inside schema hproperties hitems hparts =>
    cases hreference : schema.reference with
    | some reference =>
        rw [convert_of_reference hreference]
        exact hfollow reference
    | none =>
        have hkeywords : (keywordType policy schema.primaryType? schema.format
            (convertProperties policy follow schema.properties)
            (convertItems policy follow schema.items)).KeepsTo policy := by
          refine keepsTo_keywordType _ _ ?_ ?_
          · rw [convertProperties_eq_map]
            exact List.forall_mem_map.2 hproperties
          · rw [convertItems_eq_map]
            rintro type htype
            obtain ⟨item, hitem, rfl⟩ := Option.map_eq_some_iff.1 htype
            exact hitems item hitem
        by_cases hempty : schema.parts = []
        · rwa [convert_of_keywords hreference hempty]
        · have hown : (convert policy follow schema.ownKeywords).KeepsTo policy := by
            have hsame : convert policy follow schema.ownKeywords = _ :=
              convert_of_keywords hreference rfl
            rw [hsame]
            exact hkeywords
          rw [convert_of_parts hreference hempty, keepsTo_record_iff]
          intro field hfield
          rcases List.mem_append.1 (Entries.mem_ofList hfield) with hpart | hfield
          · obtain ⟨part, hpart, fields, htype, hmem⟩ := exists_part_of_mem_convertParts hpart
            have hkeeps := hparts part hpart
            rw [htype, keepsTo_record_iff] at hkeeps
            exact hkeeps field hmem
          · obtain ⟨fields, htype, hmem⟩ := exists_fields_of_mem hfield
            rw [htype, keepsTo_record_iff] at hown
            exact hown field hmem

/-- The type of a reference keeps to the policy, whichever references are open. -/
theorem keepsTo_innerType (document : Option Document) (policy : NumberPolicy) (fuel : Nat)
    (opened : List String) (reference : String) :
    (innerType document policy fuel opened reference).KeepsTo policy := by
  induction fuel generalizing opened reference with
  | zero =>
      rcases innerType_cases document policy 0 opened reference with huntyped | ⟨_, _, _, hfuel, _⟩
      · exact keepsTo_of_plain (by simp [huntyped])
      · cases hfuel
  | succ fuel ih =>
      rcases innerType_cases document policy (fuel + 1) opened reference with
        huntyped | ⟨target, rest, hresolve, hfuel, hopen⟩
      · exact keepsTo_of_plain (by simp [huntyped])
      · rw [innerType_of_resolve hresolve hopen]
        exact keepsTo_convert (ih _) target

/-- The type of a schema keeps to the policy that it is made under. -/
theorem keepsTo_toType (document : Option Document) (policy : NumberPolicy) (schema : Schema) :
    (schema.toType document policy).KeepsTo policy := by
  rw [toType_eq_convert]
  exact keepsTo_convert (keepsTo_innerType document policy _ []) schema

/-- A result type that is known keeps to the policy. -/
theorem keepsTo_returnType (document : Option Document) (policy : NumberPolicy)
    (response : Option Schema) {type : ValueType}
    (h : returnType document policy response = .resolved type) : type.KeepsTo policy := by
  unfold returnType at h
  split at h
  · obtain rfl := ReturnType.resolved.inj h
    exact keepsTo_of_plain (Or.inl rfl)
  · split at h
    · cases h
    · dsimp only at h
      split at h
      · obtain rfl := ReturnType.resolved.inj h
        exact keepsTo_toType document policy _
      · cases h

end Schema

end ApiBinding
