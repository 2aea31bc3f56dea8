import ApiBinding.Proofs.Json.Uniform

/-!
# Columns of samples

The columns of a table are learned row by row.  If the rows go together, the type of each
column is that of the cell that leads it: earlier types are kept unless they are blank,
and only null has a blank type.

Main results:

- Theorem `find?_infer_fields`: the fields of the type of an object.
- Theorem `find?_addRow`: what a row adds to the columns.
- Theorem `find?_columnsOf`: the type of a column is that of the cell that leads it.
-/

namespace ApiBinding.ValueType

variable {policy : NumberPolicy}

/-! ## Types of parts -/

/-- Only null has a blank type. -/
theorem isBlank_infer (policy : NumberPolicy) (json : Json) :
    (infer policy json).isBlank = json.isNull := by
  cases json with
  | num n => cases policy <;> rfl
  | _ => simp [infer, isBlank, Json.isNull]

/-- The types of items are learned one by one. -/
theorem inferItems_eq_map (policy : NumberPolicy) (items : List Json) :
    inferItems policy items = items.map (infer policy) := by
  induction items with
  | nil => rw [inferItems, List.map_nil]
  | cons item rest ih => rw [inferItems, ih, List.map_cons]

/-- The types of members are learned one by one. -/
theorem inferMembers_eq_map (policy : NumberPolicy) (members : List (String × Json)) :
    inferMembers policy members = members.map fun member => (member.1, infer policy member.2) := by
  induction members with
  | nil => rw [inferMembers, List.map_nil]
  | cons member rest ih => rw [inferMembers, ih, List.map_cons]

/-- The fields of the type of an object. -/
theorem ofList_inferMembers (policy : NumberPolicy) (members : List (String × Json)) :
    Entries.ofList (inferMembers policy members) =
      (Entries.ofList members).map fun member => (member.1, infer policy member.2) := by
  rw [inferMembers_eq_map]
  exact Entries.ofList_map (fun _ => infer policy) members

/-- The type of a field is that of the value under its name. -/
theorem find?_infer_fields (policy : NumberPolicy) (name : String)
    (members : List (String × Json)) :
    Entries.find? name (Entries.ofList (inferMembers policy members)) =
      (Entries.find? name (Entries.ofList members)).map (infer policy) := by
  rw [ofList_inferMembers]
  exact Entries.find?_map (fun _ => infer policy) name _

/-! ## Adding rows -/

/-- The type of a column after a further cell, which counts if all before it are blank. -/
def withCell (column cell : Option ValueType) : Option ValueType :=
  match column with
  | none => cell
  | some type => if type.isBlank then cell.or (some type) else some type

/-- A row without a cell leaves a column as it is. -/
@[simp]
theorem withCell_none (column : Option ValueType) : withCell column none = column := by
  cases column <;> simp [withCell]

/-- The type of what leads a column is that of the column. -/
theorem map_withCell (policy : NumberPolicy) (lead cell : Option Json) :
    (Json.withCell lead cell).map (infer policy) =
      withCell (lead.map (infer policy)) (cell.map (infer policy)) := by
  cases lead with
  | none => rfl
  | some first =>
      rw [Json.withCell, Option.map_some, withCell, isBlank_infer]
      split
      · rw [Option.map_or, Option.map_some]
      · rfl

/-- A column that is added counts for the column of its name. -/
theorem find?_addColumn_self (columns : List (String × ValueType)) (name : String)
    (type : ValueType) :
    Entries.find? name (addColumn columns (name, type)) =
      withCell (Entries.find? name columns) (some type) := by
  unfold addColumn
  cases hfind : Entries.find? name columns with
  | none => simp [withCell]
  | some first =>
      by_cases hblank : first.isBlank = true
      · simp [withCell, hblank]
      · simp [withCell, hblank, hfind]

/-- A column that is added changes no column of another name. -/
theorem find?_addColumn_of_ne {name : String} {column : String × ValueType}
    (h : column.1 ≠ name) (columns : List (String × ValueType)) :
    Entries.find? name (addColumn columns column) = Entries.find? name columns := by
  unfold addColumn
  cases Entries.find? column.1 columns with
  | none => exact Entries.find?_insert_of_ne h _ _
  | some first =>
      by_cases hblank : first.isBlank = true
      · simp [hblank, Entries.find?_insert_of_ne h]
      · simp [hblank]

/-- The fields of a record are added each to the column of its name. -/
theorem find?_foldl_addColumn (name : String) {fields : List (String × ValueType)}
    (hnodup : (Entries.names fields).Nodup) (columns : List (String × ValueType)) :
    Entries.find? name (fields.foldl addColumn columns) =
      withCell (Entries.find? name columns) (Entries.find? name fields) := by
  induction fields generalizing columns with
  | nil => exact (withCell_none _).symm
  | cons field rest ih =>
      obtain ⟨key, type⟩ := field
      rw [Entries.names, List.map_cons, List.nodup_cons] at hnodup
      rw [List.foldl_cons, ih hnodup.2]
      by_cases hkey : key = name
      · subst hkey
        have hrest : Entries.find? key rest = none := by
          rw [← Option.not_isSome_iff_eq_none, Entries.isSome_find?_iff]
          exact hnodup.1
        rw [find?_addColumn_self, hrest, withCell_none, Entries.find?, if_pos rfl]
      · rw [find?_addColumn_of_ne hkey, Entries.find?, if_neg hkey]

/-- The type of a single value counts for the column of single values if nothing stands there,
not even a blank type. -/
theorem find?_addRow_of_single (name : String) (columns : List (String × ValueType))
    {type : ValueType} (hrecord : ∀ fields, type ≠ record fields) (hblank : type.isBlank = false) :
    Entries.find? name (addRow columns type) =
      (Entries.find? name columns).or (Entries.find? name [(valueColumn, type)]) := by
  have hrow : addRow columns type =
      match Entries.find? valueColumn columns with
      | none => Entries.insert valueColumn type columns
      | some _ => columns := by
    cases type with
    | record fields => exact absurd rfl (hrecord fields)
    | blank => cases hblank
    | _ => rfl
  rw [hrow]
  by_cases hname : valueColumn = name
  · subst hname
    cases hfind : Entries.find? valueColumn columns with
    | none => simp [Entries.find?]
    | some first => simp [hfind]
  · have hcell : Entries.find? name [(valueColumn, type)] = none := by
      simp [Entries.find?, hname]
    rw [hcell, Option.or_none]
    cases Entries.find? valueColumn columns with
    | none => exact Entries.find?_insert_of_ne hname _ _
    | some first => rfl

/-- Where the type of a column is not blank, it stays. -/
theorem withCell_eq_or {column : Option ValueType} (cell : Option ValueType)
    (h : ∀ type, column = some type → type.isBlank = false) :
    withCell column cell = column.or cell := by
  cases column with
  | none => rfl
  | some type => simp [withCell, h type rfl]

/-- The type of a single value counts for the column of single values, unless there is a type
already; a blank one would be kept. -/
theorem find?_addRow_single (name : String) {columns : List (String × ValueType)}
    {type : ValueType} (hrecord : ∀ fields, type ≠ record fields) (hblank : type.isBlank = false)
    (hcolumn : ∀ first, Entries.find? valueColumn columns = some first → first.isBlank = false) :
    Entries.find? name (addRow columns type) =
      withCell (Entries.find? name columns) (Entries.find? name [(valueColumn, type)]) := by
  rw [find?_addRow_of_single name columns hrecord hblank]
  by_cases hname : valueColumn = name
  · subst hname
    rw [withCell_eq_or _ hcolumn]
  · have hcell : Entries.find? name [(valueColumn, type)] = none := by
      simp [Entries.find?, hname]
    rw [hcell, withCell_none, Option.or_none]

/-- The type of a single value is not that of a record. -/
theorem infer_ne_record {json : Json} (h : json.IsSingle) (fields : List (String × ValueType)) :
    infer policy json ≠ .record fields := by
  cases json with
  | obj members => exact absurd rfl (h.2 members)
  | num n => cases policy <;> simp [infer, ofPolicy]
  | _ => simp [infer]

/-- A row adds the types of its cells to the columns. -/
theorem find?_addRow (name : String) {columns : List (String × ValueType)} {item : Json}
    (hsingle : item.IsSingle → ∀ first,
      Entries.find? valueColumn columns = some first → first.isBlank = false) :
    Entries.find? name (addRow columns (infer policy item)) =
      withCell (Entries.find? name columns)
        ((Entries.find? name item.cells).map (infer policy)) := by
  rcases item.kind_cases with rfl | ⟨members, rfl⟩ | hitem
  · rw [infer, addRow]
    exact (withCell_none _).symm
  · have hnodup := Entries.nodup_names_of_sorted
      (Entries.sorted_ofList (inferMembers policy members))
    rw [infer, addRow, find?_foldl_addColumn name hnodup, find?_infer_fields]
    rfl
  · have hblank : (infer policy item).isBlank = false := by
      rw [isBlank_infer, ← Bool.not_eq_true, Json.isNull_iff]
      exact hitem.1
    have hcell : Entries.find? name [(valueColumn, infer policy item)] =
        (Entries.find? name [(valueColumn, item)]).map (infer policy) :=
      Entries.find?_map (fun _ => infer policy) name [(valueColumn, item)]
    rw [find?_addRow_single name (infer_ne_record hitem) hblank (hsingle hitem), hcell,
      hitem.cells_eq]

/-- The type of a column is that of the cell that leads it. -/
theorem find?_columnsOf (policy : NumberPolicy) (name : String) {items : List Json}
    (h : items.Pairwise Json.Compatible) :
    Entries.find? name (columnsOf (inferItems policy items)) =
      (Json.leading? name items).map (infer policy) := by
  induction items using List.reverseRecOn generalizing name with
  | nil => rfl
  | append_singleton rest last ih =>
      obtain ⟨hrest, _, hlast⟩ := List.pairwise_append.1 h
      have hstep : columnsOf (inferItems policy (rest ++ [last])) =
          addRow (columnsOf (inferItems policy rest)) (infer policy last) := by
        simp [columnsOf, inferItems_eq_map]
      have hsingle : last.IsSingle → ∀ first,
          Entries.find? valueColumn (columnsOf (inferItems policy rest)) = some first →
            first.isBlank = false := by
        intro hitem first hfirst
        rw [ih valueColumn hrest, Option.map_eq_some_iff] at hfirst
        obtain ⟨lead, hlead, rfl⟩ := hfirst
        obtain ⟨item, hmem, hcell⟩ := Json.exists_row_of_leading? hlead
        have hcompatible := hlast item hmem last List.mem_cons_self
        rw [isBlank_infer, ← Bool.not_eq_true, Json.isNull_iff]
        exact hcompatible.ne_null_of_isSingle hitem _ hcell
      rw [hstep, find?_addRow name hsingle, ih name hrest, Json.leading?_append_singleton,
        map_withCell]

end ApiBinding.ValueType
