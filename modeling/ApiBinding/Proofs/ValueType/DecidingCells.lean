import ApiBinding.Proofs.ValueType.Columns

/-!
# Cells that decide a column

The type of a column is learned from one of its cells.  A field of an object gives way to the
next field of its name while it is null, whatever stands between them.  A single value gets a
say only if the column has no cell before it.  So a column that begins with a null is decided
by the first field that is not null, and any other column by its first cell.  This is the
first cell that is not null, unless a null field comes before a single value.

Main results:

- Theorem `deciding?_append_singleton`: what a further row does to the cell that decides.
- Theorem `find?_columnsOf_eq_deciding?`: the type of a column is that of the cell that decides
  it.
- Theorem `deciding?_eq_leading?`: the cell that decides is the first one that is not null,
  unless a null field comes before a single value.
- Theorem `typedByCells_infer`: the columns of an array.
-/

namespace ApiBinding

namespace Json

/-- Whether a value is an object. -/
def isObject : Json → Bool
  | obj _ => true
  | _ => false

/-- The cells of a column that are fields of objects. -/
def fieldCells (name : String) (items : List Json) : List Json :=
  column name (items.filter isObject)

/-- The cell that decides the type of a column: the first one, or, if that is null, the first
field that is not null, if there is one. -/
def deciding? (name : String) (items : List Json) : Option Json :=
  (column name items).head?.bind fun first =>
    if first.isNull then
      ((fieldCells name items).find? fun cell => !cell.isNull).or (some first)
    else some first

/-- The cell that decides a column after a further row. -/
def withRow (name : String) (lead : Option Json) (row : Json) : Option Json :=
  if row.isObject then withCell lead (Entries.find? name row.cells)
  else lead.or (Entries.find? name row.cells)

variable {name : String} {items : List Json} {item first : Json} {rest : List Json}

/-! ## The cell that decides -/

/-- A further row adds its cell to the fields of a column if it is an object. -/
theorem fieldCells_append_singleton (name : String) (items : List Json) (item : Json) :
    fieldCells name (items ++ [item]) = fieldCells name items ++
      if item.isObject then (Entries.find? name item.cells).toList else [] := by
  cases hobject : item.isObject with
  | true =>
      rw [fieldCells, List.filter_append, List.filter_singleton, hobject]
      exact column_append_singleton name _ item
  | false => simp [fieldCells, hobject]

/-- The fields of a column are cells of the column. -/
theorem fieldCells_sublist (name : String) (items : List Json) :
    (fieldCells name items).Sublist (column name items) :=
  List.filter_sublist.filterMap _

/-- Without cells nothing decides a column. -/
theorem deciding?_of_column_eq_nil (hcolumn : column name items = []) :
    deciding? name items = none := by
  rw [deciding?, hcolumn]
  rfl

/-- A first cell that is not null decides. -/
theorem deciding?_of_first (hcolumn : column name items = first :: rest)
    (hfirst : first.isNull = false) : deciding? name items = some first := by
  simp [deciding?, hcolumn, hfirst]

/-- After a null the first field that is not null decides. -/
theorem deciding?_of_null (hcolumn : column name items = .null :: rest) :
    deciding? name items =
      ((fieldCells name items).find? fun cell => !cell.isNull).or (some .null) := by
  simp [deciding?, hcolumn, isNull]

/-- A column with any cell has one that decides it. -/
theorem isSome_deciding?_iff : (deciding? name items).isSome = true ↔ column name items ≠ [] := by
  cases hcolumn : column name items with
  | nil => simp [deciding?_of_column_eq_nil hcolumn]
  | cons first rest =>
      cases hfirst : first.isNull with
      | true =>
          obtain rfl := isNull_iff.1 hfirst
          simp [deciding?_of_null hcolumn]
      | false => simp [deciding?_of_first hcolumn hfirst]

/-- The first cell of a column decides as long as it is the only one. -/
theorem deciding?_append_of_column_eq_nil (hcolumn : column name items = []) (item : Json) :
    deciding? name (items ++ [item]) = Entries.find? name item.cells := by
  have hfields : fieldCells name items = [] :=
    List.sublist_nil.1 (hcolumn ▸ fieldCells_sublist name items)
  rw [deciding?, column_append_singleton, fieldCells_append_singleton, hcolumn, hfields]
  cases Entries.find? name item.cells with
  | none => rfl
  | some cell => cases cell <;> cases item.isObject <;> simp [isNull]

/-- A further cell decides a column that begins with a null if it is the first field that is
not null. -/
theorem deciding?_append_of_null (hcolumn : column name items = .null :: rest) (item : Json) :
    deciding? name (items ++ [item]) = withRow name (deciding? name items) item := by
  have hlonger : column name (items ++ [item]) =
      .null :: (rest ++ (Entries.find? name item.cells).toList) := by
    rw [column_append_singleton, hcolumn, List.cons_append]
  rw [deciding?_of_null hlonger, deciding?_of_null hcolumn, fieldCells_append_singleton, withRow,
    List.find?_append]
  cases hfound : (fieldCells name items).find? fun cell => !cell.isNull with
  | some lead =>
      have hlead : lead.isNull = false := by simpa using List.find?_some hfound
      simp [withCell, hlead]
  | none =>
      cases item.isObject with
      | false => simp
      | true =>
          cases Entries.find? name item.cells with
          | none => simp [withCell, isNull]
          | some cell => cases cell <;> simp [withCell, isNull]

/-- What a further row does to the cell that decides. -/
theorem deciding?_append_singleton (name : String) (items : List Json) (item : Json) :
    deciding? name (items ++ [item]) = withRow name (deciding? name items) item := by
  cases hcolumn : column name items with
  | nil =>
      rw [deciding?_append_of_column_eq_nil hcolumn, deciding?_of_column_eq_nil hcolumn, withRow]
      split <;> rfl
  | cons first rest =>
      cases hfirst : first.isNull with
      | true =>
          obtain rfl := isNull_iff.1 hfirst
          exact deciding?_append_of_null hcolumn item
      | false =>
          have hlonger : column name (items ++ [item]) =
              first :: (rest ++ (Entries.find? name item.cells).toList) := by
            rw [column_append_singleton, hcolumn, List.cons_append]
          rw [deciding?_of_first hlonger hfirst, deciding?_of_first hcolumn hfirst, withRow]
          simp [withCell, hfirst]

/-! ## The first cell that is not null -/

/-- No null field comes before a single value in a column: it does not begin with a null, or
all its cells are fields. -/
def Unhidden (name : String) (items : List Json) : Prop :=
  (column name items).head? ≠ some .null ∨ fieldCells name items = column name items

/-- Only the column of single values has other cells than fields. -/
theorem unhidden_of_ne (hname : name ≠ ValueType.valueColumn) (items : List Json) :
    Unhidden name items := by
  refine Or.inr ?_
  induction items using List.reverseRecOn with
  | nil => rfl
  | append_singleton rest last ih =>
      rw [fieldCells_append_singleton, column_append_singleton, ih]
      rcases last.kind_cases with rfl | ⟨members, rfl⟩ | hsingle
      · rfl
      · rfl
      · have hcell : Entries.find? name last.cells = none := by
          rw [hsingle.cells_eq, Entries.find?, if_neg hname.symm, Entries.find?]
        simp [hcell]

/-- Where no null field comes before a single value, the first cell that is not null decides,
and if there is none the first null. -/
theorem deciding?_eq_leading? (h : Unhidden name items) :
    deciding? name items = leading? name items := by
  cases hcolumn : column name items with
  | nil => rw [deciding?_of_column_eq_nil hcolumn, leading?, hcolumn]; rfl
  | cons first rest =>
      cases hfirst : first.isNull with
      | false => simp [deciding?_of_first hcolumn hfirst, leading?, hcolumn, hfirst]
      | true =>
          obtain rfl := isNull_iff.1 hfirst
          rcases h with hhead | hfields
          · rw [hcolumn] at hhead
            exact absurd rfl hhead
          · rw [deciding?_of_null hcolumn, leading?, hfields, hcolumn, List.head?_cons]

end Json

namespace ValueType

open Json (column deciding? leading? withRow Unhidden)

variable {policy : NumberPolicy}

/-! ## Types of columns -/

/-- A row adds the types of its cells to the columns: fields in the place of blank types, and
single values where nothing stands. -/
theorem find?_addRow_eq_withRow (name : String) {columns : List (String × ValueType)}
    {lead : Option Json} (item : Json)
    (hlead : Entries.find? name columns = lead.map (infer policy)) :
    Entries.find? name (addRow columns (infer policy item)) =
      (withRow name lead item).map (infer policy) := by
  rcases item.kind_cases with rfl | ⟨members, rfl⟩ | hitem
  · rw [infer, addRow, hlead]
    exact congrArg _ (Option.or_none).symm
  · rw [find?_addRow name fun hsingle => absurd rfl (hsingle.2 members), hlead, ← map_withCell]
    rfl
  · have hblank : (infer policy item).isBlank = false := by
      rw [isBlank_infer, ← Bool.not_eq_true, Json.isNull_iff]
      exact hitem.1
    have hcell : Entries.find? name [(valueColumn, infer policy item)] =
        (Entries.find? name [(valueColumn, item)]).map (infer policy) :=
      Entries.find?_map (fun _ => infer policy) name [(valueColumn, item)]
    have hrow : withRow name lead item = lead.or (Entries.find? name item.cells) := by
      cases item with
      | obj members => exact absurd rfl (hitem.2 members)
      | _ => rfl
    rw [find?_addRow_of_single name columns (infer_ne_record hitem) hblank, hcell, hlead, hrow,
      hitem.cells_eq, Option.map_or]

/-- The type of a column is that of the cell that decides it; the induction is on the rows from
the last one. -/
theorem find?_columnsOf_eq_deciding? (policy : NumberPolicy) (name : String)
    (items : List Json) :
    Entries.find? name (columnsOf (inferItems policy items)) =
      (deciding? name items).map (infer policy) := by
  induction items using List.reverseRecOn with
  | nil => rfl
  | append_singleton rest last ih =>
      have hstep : columnsOf (inferItems policy (rest ++ [last])) =
          addRow (columnsOf (inferItems policy rest)) (infer policy last) := by
        simp [columnsOf, inferItems_eq_map]
      rw [hstep, find?_addRow_eq_withRow name last ih, Json.deciding?_append_singleton]

/-- A column that is added stands in the order of names. -/
theorem sorted_addColumn {columns : List (String × ValueType)} (h : Entries.Sorted columns)
    (column : String × ValueType) : Entries.Sorted (addColumn columns column) := by
  unfold addColumn
  split
  · exact Entries.sorted_insert h _ _
  · split
    · exact Entries.sorted_insert h _ _
    · exact h

/-- The columns of a row are added in the order of names. -/
theorem sorted_addRow {columns : List (String × ValueType)} (h : Entries.Sorted columns)
    (row : ValueType) : Entries.Sorted (addRow columns row) := by
  unfold addRow
  split
  · exact List.foldlRecOn _ _ h fun _ hsorted column _ => sorted_addColumn hsorted column
  · exact h
  · split
    · exact Entries.sorted_insert h _ _
    · exact h

/-- Columns stand in the order of their names. -/
theorem sorted_columnsOf (rows : List ValueType) : Entries.Sorted (columnsOf rows) :=
  List.foldlRecOn _ _ List.Pairwise.nil fun _ hsorted row _ => sorted_addRow hsorted row

/-- The columns of a table are those in which the items have cells, each with the type of one
of them. -/
structure TypedByCells (policy : NumberPolicy) (items : List Json)
    (columns : List (String × ValueType)) : Prop where
  sorted : Entries.Sorted columns
  /-- There are exactly the columns with a cell. -/
  names : ∀ name, name ∈ Entries.names columns ↔ column name items ≠ []
  /-- Each column has the type of the cell that decides it. -/
  types : ∀ name, Entries.find? name columns = (deciding? name items).map (infer policy)
  /-- This is the first cell that is not null in every column but that of single values. -/
  fields : ∀ name, name ≠ valueColumn →
    Entries.find? name columns = (leading? name items).map (infer policy)
  /-- There it is too, unless a null field comes before a single value. -/
  singles : Unhidden valueColumn items →
    Entries.find? valueColumn columns = (leading? valueColumn items).map (infer policy)

/-- The type of an array is a table of the columns in which its items have cells. -/
theorem typedByCells_infer (policy : NumberPolicy) (items : List Json) :
    ∃ columns, infer policy (.arr items) = .table columns ∧ TypedByCells policy items columns := by
  have hled : ∀ name, Unhidden name items →
      Entries.find? name (columnsOf (inferItems policy items)) =
        (leading? name items).map (infer policy) := by
    intro name hname
    rw [find?_columnsOf_eq_deciding?, Json.deciding?_eq_leading? hname]
  refine ⟨_, by rw [infer], sorted_columnsOf _, fun name => ?_,
    fun name => find?_columnsOf_eq_deciding? policy name items,
    fun name hname => hled name (Json.unhidden_of_ne hname items), hled valueColumn⟩
  rw [← Entries.isSome_find?_iff, find?_columnsOf_eq_deciding?, Option.isSome_map,
    Json.isSome_deciding?_iff]

/-- The first cell that is not null decides every column of an array, and a column of nulls is
blank. -/
def TypedByFirst (policy : NumberPolicy) (items : List Json) : Prop :=
  ∃ columns, infer policy (.arr items) = .table columns ∧
    ∀ name, (name ∈ Entries.names columns ↔ column name items ≠ []) ∧
      Entries.find? name columns = (leading? name items).map (infer policy)

/-- A null field hides the text after it. -/
theorem not_typedByFirst_nullThenText :
    infer .binary (.arr [.obj [("Value", .null)], .str "x"]) = .table [("Value", .blank)] ∧
      column "Value" [.obj [("Value", .null)], .str "x"] = [.null, .str "x"] ∧
      leading? "Value" [.obj [("Value", .null)], .str "x"] = some (.str "x") ∧
      ¬TypedByFirst .binary [.obj [("Value", .null)], .str "x"] := by
  have htable : infer .binary (.arr [.obj [("Value", .null)], .str "x"]) =
      .table [("Value", .blank)] := by rfl
  refine ⟨htable, rfl, rfl, ?_⟩
  rintro ⟨columns, hcolumns, htyped⟩
  obtain rfl := ValueType.table.inj (htable.symm.trans hcolumns)
  have htext : some ValueType.blank = some .text := (htyped "Value").2
  cases htext

end ValueType

end ApiBinding
