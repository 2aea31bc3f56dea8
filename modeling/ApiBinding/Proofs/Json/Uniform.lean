import ApiBinding.Json.Basic
import ApiBinding.Proofs.Entries.Order
import ApiBinding.ValueType.Inference
import Mathlib.Data.List.Pairwise

/-!
# Uniform samples

The items of an array are the rows of a table, and what stands under one name in different
rows belongs to one column.  A sample is uniform if the items of each of its arrays go
together: wherever two of them hold something, it is of one kind.  Null goes together with
everything.

The first item of a column that is not null leads the column; the type of the column is
learned from it alone.  So a sample covers a value if the value is null wherever the
sample, or what leads a column of it, is null.

Main results:

- Theorem `Compatible.symm`: going together does not depend on the order.
- Theorem `Uniform.compatible_self`: a uniform value goes together with itself.
- Theorem `Compatible.cells`: items that go together do so in every column.
- Theorem `leading?_append_singleton`: what a further row does to the lead of a column.
- Theorems `covers_obj_iff` and `covers_arr_iff`: a sample covers a value part by part.
-/

namespace ApiBinding.Json

/-- The only value that is null. -/
theorem isNull_iff {json : Json} : json.isNull = true ↔ json = .null := by
  cases json <;> simp [isNull]

/-! ## Going together -/

/-- Two values are of one kind wherever both have something, or one of them is null. -/
inductive Compatible : Json → Json → Prop where
  | null_left (value : Json) : Compatible .null value
  | null_right (value : Json) : Compatible value .null
  | bool (a b : Bool) : Compatible (.bool a) (.bool b)
  | num (m n : JsonNumber) : Compatible (.num m) (.num n)
  | str (s t : String) : Compatible (.str s) (.str t)
  /-- What stands under a name in both objects goes together. -/
  | obj {first second : List (String × Json)}
    (h : ∀ a ∈ Entries.ofList first, ∀ b ∈ Entries.ofList second, a.1 = b.1 →
      Compatible a.2 b.2) : Compatible (.obj first) (.obj second)
  /-- Any two of all the items of both arrays go together. -/
  | arr {first second : List Json}
    (h : ∀ a b, [a, b].Sublist (first ++ second) → Compatible a b) :
    Compatible (.arr first) (.arr second)

/-- The items of every array go together. -/
inductive Uniform : Json → Prop where
  | null : Uniform .null
  | bool (b : Bool) : Uniform (.bool b)
  | num (n : JsonNumber) : Uniform (.num n)
  | str (s : String) : Uniform (.str s)
  | arr {items : List Json} (hpairs : items.Pairwise Compatible)
    (h : ∀ item ∈ items, Uniform item) : Uniform (.arr items)
  | obj {members : List (String × Json)} (h : ∀ field ∈ Entries.ofList members, Uniform field.2) :
    Uniform (.obj members)

/-- Arrays go together if any two of all their items do. -/
theorem compatible_arr_iff {first second : List Json} :
    Compatible (.arr first) (.arr second) ↔ (first ++ second).Pairwise Compatible := by
  rw [List.pairwise_iff_forall_sublist]
  constructor
  · rintro (_ | _ | _ | _ | _ | _ | h)
    exact fun hpair => h _ _ hpair
  · exact fun h => .arr fun _ _ hpair => h hpair

/-- Going together does not depend on the order. -/
theorem Compatible.symm {first second : Json} (h : Compatible first second) :
    Compatible second first := by
  induction h with
  | null_left value => exact .null_right value
  | null_right value => exact .null_left value
  | bool a b => exact .bool b a
  | num m n => exact .num n m
  | str s t => exact .str t s
  | obj _ ih => exact .obj fun b hb a ha hname => ih a ha b hb hname.symm
  | @arr first second h ih =>
      obtain ⟨hfirst, hsecond, _⟩ := List.pairwise_append.1 (compatible_arr_iff.1 (.arr h))
      have hflipped : (first ++ second).Pairwise fun a b => Compatible b a :=
        List.pairwise_iff_forall_sublist.2 fun hpair => ih _ _ hpair
      obtain ⟨_, _, hcross⟩ := List.pairwise_append.1 hflipped
      exact compatible_arr_iff.2
        (List.pairwise_append.2 ⟨hsecond, hfirst, fun b hb a ha => hcross a ha b hb⟩)

instance : Std.Symm Compatible where
  symm _ _ := Compatible.symm

/-- A uniform value goes together with itself. -/
theorem Uniform.compatible_self {json : Json} (h : Uniform json) : Compatible json json := by
  induction h with
  | null => exact .null_left .null
  | bool b => exact .bool b b
  | num n => exact .num n n
  | str s => exact .str s s
  | arr hpairs _ ih =>
      rw [compatible_arr_iff, List.pairwise_append]
      exact ⟨hpairs, hpairs, fun a ha b hb => List.Pairwise.forall_of_forall ih hpairs ha hb⟩
  | @obj members _ ih =>
      have hnodup := Entries.nodup_names_of_sorted (Entries.sorted_ofList members)
      refine .obj fun a ha b hb hname => ?_
      obtain rfl := List.inj_on_of_nodup_map hnodup ha hb hname
      exact ih a ha

/-! ## Columns -/

/-- The cells of a row, under the names of their columns.  What is neither an object nor null
stands in a column of its own. -/
def cells : Json → List (String × Json)
  | null => []
  | obj members => Entries.ofList members
  | single => [(ValueType.valueColumn, single)]

/-- The cells of a column, from the first row on. -/
def column (name : String) (items : List Json) : List Json :=
  items.filterMap fun item => Entries.find? name item.cells

/-- The cell that leads a column: the first one that is not null, if there is one. -/
def leading? (name : String) (items : List Json) : Option Json :=
  ((column name items).find? fun cell => !cell.isNull).or (column name items).head?

/-- A row that is neither an object nor null. -/
def IsSingle (json : Json) : Prop :=
  json ≠ .null ∧ ∀ members, json ≠ .obj members

/-- A row is null, an object, or a single value. -/
theorem kind_cases (json : Json) :
    json = .null ∨ (∃ members, json = .obj members) ∨ json.IsSingle := by
  cases json <;> simp [IsSingle]

/-- A single value is the only cell of its row. -/
theorem IsSingle.cells_eq {json : Json} (h : json.IsSingle) :
    json.cells = [(ValueType.valueColumn, json)] := by
  cases json with
  | null => exact absurd rfl h.1
  | obj members => exact absurd rfl (h.2 members)
  | _ => rfl

/-- The cells of a uniform row are uniform. -/
theorem Uniform.cells {item : Json} (h : Uniform item) : ∀ cell ∈ item.cells, Uniform cell.2 := by
  cases h with
  | null => exact fun _ hcell => absurd hcell List.not_mem_nil
  | obj h => exact h
  | bool b => exact List.forall_mem_singleton.2 (.bool b)
  | num n => exact List.forall_mem_singleton.2 (.num n)
  | str s => exact List.forall_mem_singleton.2 (.str s)
  | arr hpairs h => exact List.forall_mem_singleton.2 (.arr hpairs h)

/-- Rows that go together do so in every column. -/
theorem Compatible.cells {first second : Json} (h : Compatible first second) :
    ∀ a ∈ first.cells, ∀ b ∈ second.cells, a.1 = b.1 → Compatible a.2 b.2 := by
  cases h with
  | null_left value => exact fun _ ha => absurd ha List.not_mem_nil
  | null_right value => exact fun _ _ _ hb => absurd hb List.not_mem_nil
  | obj h => exact h
  | bool a b => simpa [Json.cells] using .bool a b
  | num m n => simpa [Json.cells] using .num m n
  | str s t => simpa [Json.cells] using .str s t
  | arr h => simpa [Json.cells] using .arr h

/-- Beside a single value no row has a cell that is null. -/
theorem Compatible.ne_null_of_isSingle {first second : Json} (h : Compatible first second)
    (hsingle : second.IsSingle) : ∀ cell ∈ first.cells, cell.2 ≠ .null := by
  cases h with
  | null_left value => exact fun _ hcell => absurd hcell List.not_mem_nil
  | null_right value => exact absurd rfl hsingle.1
  | obj h => exact absurd rfl (hsingle.2 _)
  | _ => simp [Json.cells]

/-- The fields of an object are smaller than it. -/
theorem sizeOf_lt_obj {members : List (String × Json)} {field : String × Json}
    (h : field ∈ Entries.ofList members) : sizeOf field.2 < sizeOf (obj members) := by
  have hmember : sizeOf field < sizeOf members := List.sizeOf_lt_of_mem (Entries.mem_ofList h)
  have hfield : sizeOf field = 1 + sizeOf field.1 + sizeOf field.2 := by cases field; rfl
  rw [obj.sizeOf_spec]
  omega

/-- The cells of a row are smaller than the array of the rows. -/
theorem sizeOf_lt_arr {item : Json} {items : List Json} {cell : String × Json}
    (hitem : item ∈ items) (hcell : cell ∈ item.cells) : sizeOf cell.2 < sizeOf (arr items) := by
  have hsmaller : sizeOf item < sizeOf items := List.sizeOf_lt_of_mem hitem
  have hcells : sizeOf cell.2 ≤ sizeOf item := by
    cases item with
    | null => exact absurd hcell List.not_mem_nil
    | obj members => exact Nat.le_of_lt (sizeOf_lt_obj hcell)
    | _ => obtain rfl := List.mem_singleton.1 hcell; exact Nat.le_refl _
  rw [arr.sizeOf_spec]
  omega

/-- What leads a column is a cell of a row. -/
theorem exists_row_of_leading? {name : String} {items : List Json} {lead : Json}
    (h : leading? name items = some lead) : ∃ item ∈ items, (name, lead) ∈ item.cells := by
  have hmem : lead ∈ column name items := by
    rcases Option.or_eq_some_iff.1 h with hfind | ⟨_, hhead⟩
    · exact List.mem_of_find?_eq_some hfind
    · exact List.mem_of_mem_head? hhead
  obtain ⟨item, hitem, hcell⟩ := List.mem_filterMap.1 hmem
  exact ⟨item, hitem, Entries.mem_of_find? hcell⟩

/-- What leads a column after a further cell, which does so if all before it are null. -/
def withCell (lead cell : Option Json) : Option Json :=
  match lead with
  | none => cell
  | some first => if first.isNull then cell.or (some first) else some first

/-- A further row adds its cell to a column. -/
theorem column_append_singleton (name : String) (items : List Json) (item : Json) :
    column name (items ++ [item]) =
      column name items ++ (Entries.find? name item.cells).toList := by
  cases hcell : Entries.find? name item.cells <;> simp [column, hcell]

/-- A further row leads a column with its cell if all cells before it are null. -/
theorem leading?_append_singleton (name : String) (items : List Json) (item : Json) :
    leading? name (items ++ [item]) =
      withCell (leading? name items) (Entries.find? name item.cells) := by
  simp only [leading?, withCell, column_append_singleton, List.find?_append, List.head?_append]
  cases hfind : (column name items).find? fun cell => !cell.isNull with
  | some lead =>
      have hlead : lead.isNull = false := by simpa using List.find?_some hfind
      simp [hlead]
  | none =>
      have hnull := List.find?_eq_none.1 hfind
      cases hhead : (column name items).head? with
      | none =>
          cases Entries.find? name item.cells with
          | none => rfl
          | some cell => cases cell <;> rfl
      | some first =>
          have hfirst : first = .null := by
            have hmem := List.mem_of_mem_head? hhead
            simpa [isNull_iff] using hnull first hmem
          cases hcell : Entries.find? name item.cells with
          | none => simp
          | some cell => cases cell <;> simp [hfirst, isNull]

/-! ## Covering -/

/-- A sample has something of the same kind wherever a value has, so that its type is enough
for the value. -/
inductive Covers : Json → Json → Prop where
  | null (sample : Json) : Covers sample .null
  | bool (a b : Bool) : Covers (.bool a) (.bool b)
  | num (m n : JsonNumber) : Covers (.num m) (.num n)
  | str (s t : String) : Covers (.str s) (.str t)
  | obj {samples members : List (String × Json)}
    (h : ∀ field ∈ Entries.ofList members, ∀ sample,
      Entries.find? field.1 (Entries.ofList samples) = some sample → Covers sample field.2) :
    Covers (.obj samples) (.obj members)
  /-- What leads a column of the samples covers every cell of the column. -/
  | arr {samples items : List Json}
    (h : ∀ item ∈ items, ∀ cell ∈ item.cells, ∀ sample,
      leading? cell.1 samples = some sample → Covers sample cell.2) :
    Covers (.arr samples) (.arr items)

/-- Null covers only itself. -/
theorem covers_null_iff {json : Json} : Covers .null json ↔ json = .null := by
  constructor
  · rintro (_ | _)
    rfl
  · rintro rfl
    exact .null .null

/-- An object is covered field by field. -/
theorem covers_obj_iff {samples members : List (String × Json)} :
    Covers (.obj samples) (.obj members) ↔ ∀ field ∈ Entries.ofList members, ∀ sample,
      Entries.find? field.1 (Entries.ofList samples) = some sample → Covers sample field.2 :=
  ⟨fun | .obj h => h, .obj⟩

/-- An array is covered cell by cell. -/
theorem covers_arr_iff {samples items : List Json} :
    Covers (.arr samples) (.arr items) ↔ ∀ item ∈ items, ∀ cell ∈ item.cells, ∀ sample,
      leading? cell.1 samples = some sample → Covers sample cell.2 :=
  ⟨fun | .arr h => h, .arr⟩

end ApiBinding.Json
