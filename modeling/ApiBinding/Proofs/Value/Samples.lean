import ApiBinding.Proofs.Value.Landing
import ApiBinding.Proofs.ValueType.Columns

/-!
# Values of samples

A sample is converted by the type that was learned from it.  If it is uniform, its value is
accepted by that type exactly if the sample covers itself: a column has the type of the cell
that leads it, so what a later cell holds where that one has null inside is not acceptable.

Main results:

- Theorem `accepts_ofRow_iff`: a row is accepted if each of its cells is.
- Theorems `isExact_obj` and `isExact_arr`: the types of objects and of arrays accept exactly
  what the samples cover if the types of their parts do.
- Theorem `isExact_of_uniform`: so do the types of all uniform samples.
- Theorem `accepts_infer_iff_covers`: which uniform samples are accepted by their own types.
-/

namespace ApiBinding

variable {conversion : Conversion} {policy : NumberPolicy}

namespace Conversion

/-- A row is accepted if each of its cells is for the type of its column. -/
theorem accepts_ofRow_iff {columns : List (String × ValueType)} {item : Json} :
    (ValueType.record columns).accepts (conversion.ofRow (some columns) item) = true ↔
      ∀ cell ∈ item.cells, ∀ type, Entries.find? cell.1 columns = some type →
        type.accepts (conversion.ofJson (some type) cell.2) = true := by
  rcases item.kind_cases with rfl | ⟨members, rfl⟩ | hitem
  · exact ⟨fun _ _ hcell => absurd hcell List.not_mem_nil, fun _ => rfl⟩
  · exact accepts_record_iff
  · have hrow : conversion.ofRow (some columns) item = .record [(("Value" : String),
        conversion.ofJson (fieldType? (some columns) "Value") item)] := by
      cases item with
      | null => exact absurd rfl hitem.1
      | obj members => exact absurd rfl (hitem.2 members)
      | _ => rfl
    rw [hrow, accepts_wrapped_iff, hitem.cells_eq, List.forall_mem_singleton]
    rfl

/-- An array is accepted as a table if each cell of its rows is for the type of its column. -/
theorem accepts_table_iff {columns : List (String × ValueType)} {items : List Json} :
    (ValueType.table columns).accepts
        (conversion.ofJson (some (.table columns)) (.arr items)) = true ↔
      ∀ item ∈ items, ∀ cell ∈ item.cells, ∀ type, Entries.find? cell.1 columns = some type →
        type.accepts (conversion.ofJson (some type) cell.2) = true := by
  simp only [ofJson, columns?, ValueType.accepts]
  rw [ValueType.acceptsRows_iff, ofRows_eq_map, List.forall_mem_map]
  exact forall₂_congr fun item _ => accepts_ofRow_iff

/-- Where nothing is expected only null is accepted. -/
theorem accepts_blank_iff {json : Json} :
    ValueType.blank.accepts (conversion.ofJson (some .blank) json) = true ↔ json = .null := by
  constructor
  · intro haccepts
    by_contra hnull
    have hvalue : (conversion.ofJson (some .blank) json).isNull = false := isNull_ofJson hnull
    revert haccepts hvalue
    cases conversion.ofJson (some .blank) json <;> simp [ValueType.accepts, Value.isNull]
  · rintro rfl
    rfl

end Conversion

namespace ValueType

/-- The type of a sample accepts, of all that goes together with the sample, exactly what it
covers. -/
def IsExact (conversion : Conversion) (policy : NumberPolicy) (sample : Json) : Prop :=
  ∀ json, Json.Compatible sample json →
    ((infer policy sample).accepts (conversion.ofJson (some (infer policy sample)) json) = true ↔
      sample.Covers json)

/-- Where the type in a place is learned from a cell, what is accepted there is what the cell
covers. -/
theorem forall_accepts_iff {lead : Option Json} {json : Json}
    (hexact : ∀ sample, lead = some sample →
      IsExact conversion policy sample ∧ Json.Compatible sample json) :
    (∀ type, lead.map (infer policy) = some type →
        type.accepts (conversion.ofJson (some type) json) = true) ↔
      ∀ sample, lead = some sample → sample.Covers json := by
  cases lead with
  | none => simp
  | some sample =>
      obtain ⟨hsample, hcompatible⟩ := hexact sample rfl
      simpa using hsample json hcompatible

/-- The type of an object is exact if those of its fields are. -/
theorem isExact_obj {samples : List (String × Json)}
    (hexact : ∀ field ∈ Entries.ofList samples, IsExact conversion policy field.2) :
    IsExact conversion policy (.obj samples) := by
  rintro _ (_ | _ | _ | _ | _ | @⟨_, members, h⟩ | _)
  · exact ⟨fun _ => .null _, fun _ => rfl⟩
  · rw [infer, Conversion.accepts_record_iff, Json.covers_obj_iff]
    refine forall₂_congr fun field hfield => ?_
    rw [find?_infer_fields]
    refine forall_accepts_iff fun sample hsample => ?_
    have hmem := Entries.mem_of_find? hsample
    exact ⟨hexact _ hmem, h _ hmem field hfield rfl⟩

/-- The type of an array is exact if those of all its cells are. -/
theorem isExact_arr {samples : List Json} (hpairs : samples.Pairwise Json.Compatible)
    (hexact : ∀ item ∈ samples, ∀ cell ∈ item.cells, IsExact conversion policy cell.2) :
    IsExact conversion policy (.arr samples) := by
  rintro _ (_ | _ | _ | _ | _ | _ | @⟨_, items, h⟩)
  · exact ⟨fun _ => .null _, fun _ => rfl⟩
  · rw [infer, Conversion.accepts_table_iff, Json.covers_arr_iff]
    refine forall₂_congr fun item hitem => forall₂_congr fun cell hcell => ?_
    rw [find?_columnsOf policy cell.1 hpairs]
    refine forall_accepts_iff fun sample hsample => ?_
    obtain ⟨row, hrow, hmem⟩ := Json.exists_row_of_leading? hsample
    obtain ⟨_, _, hcross⟩ := List.pairwise_append.1 (Json.compatible_arr_iff.1 (.arr h))
    exact ⟨hexact row hrow _ hmem, (hcross row hrow item hitem).cells _ hmem cell hcell rfl⟩

/-- The type of null is exact. -/
theorem isExact_null : IsExact conversion policy .null := by
  intro json _
  rw [infer, Conversion.accepts_blank_iff, Json.covers_null_iff]

/-- The type of a uniform sample is exact. -/
theorem isExact_of_uniform {sample : Json} (h : sample.Uniform) :
    IsExact conversion policy sample := by
  cases h with
  | null => exact isExact_null
  | bool b =>
      rintro _ (_ | _ | ⟨_, other⟩)
      · exact ⟨fun _ => .null _, fun _ => rfl⟩
      · exact ⟨fun _ => .bool b other, fun _ => rfl⟩
  | num n =>
      rintro _ (_ | _ | _ | ⟨_, other⟩)
      · exact ⟨fun _ => .null _, fun _ => rfl⟩
      · exact ⟨fun _ => .num n other, fun _ => Conversion.lands_num policy other⟩
  | str s =>
      rintro _ (_ | _ | _ | _ | ⟨_, other⟩)
      · exact ⟨fun _ => .null _, fun _ => rfl⟩
      · exact ⟨fun _ => .str s other, fun _ => rfl⟩
  -- the cells of an array stand two levels below it, so the recursion is on the size
  | arr hpairs h =>
      exact isExact_arr hpairs fun item hitem cell hcell =>
        isExact_of_uniform ((h item hitem).cells cell hcell)
  | obj h => exact isExact_obj fun field hfield => isExact_of_uniform (h field hfield)
termination_by sizeOf sample
decreasing_by
  · exact Json.sizeOf_lt_arr hitem hcell
  · exact Json.sizeOf_lt_obj hfield

/-- A uniform sample is accepted by its own type exactly if it covers itself. -/
theorem accepts_infer_iff_covers {json : Json} (h : json.Uniform) (conversion : Conversion)
    (policy : NumberPolicy) :
    (infer policy json).accepts (conversion.ofJson (some (infer policy json)) json) = true ↔
      json.Covers json :=
  isExact_of_uniform h json h.compatible_self

/-! ## Rows with a single field -/

/-- An object with a single field. -/
def oneField (name : String) (value : Json) : Json :=
  .obj [(name, value)]

/-- Objects with one field go together if what they hold does. -/
theorem compatible_oneField (name : String) {first second : Json}
    (h : Json.Compatible first second) :
    Json.Compatible (oneField name first) (oneField name second) := by
  refine .obj fun a ha b hb _ => ?_
  obtain rfl := List.mem_singleton.1 ha
  obtain rfl := List.mem_singleton.1 hb
  exact h

/-- An object with one field is uniform if what it holds is. -/
theorem uniform_oneField (name : String) {value : Json} (h : value.Uniform) :
    (oneField name value).Uniform :=
  .obj (List.forall_mem_singleton.2 h)

/-- Two rows that go together are uniform if both are. -/
theorem uniform_rows {first second : Json} (h : Json.Compatible first second)
    (hfirst : first.Uniform) (hsecond : second.Uniform) : (Json.arr [first, second]).Uniform :=
  .arr (List.pairwise_pair.2 h) (by simp [hfirst, hsecond])

/-- Rows of which the first one has null in a column. -/
def nullCellRows : Json :=
  .arr [oneField "a" .null, oneField "a" (oneField "x" (.num (.whole 1)))]

/-- The later row leads the column, so the sample is accepted. -/
theorem accepts_infer_nullCellRows : nullCellRows.Uniform ∧
    (infer .binary nullCellRows).accepts
      (Conversion.ofJson ⟨.binary, 0⟩ (some (infer .binary nullCellRows)) nullCellRows) = true := by
  have huniform : nullCellRows.Uniform :=
    uniform_rows (compatible_oneField "a" (.null_left _)) (uniform_oneField "a" .null)
      (uniform_oneField "a" (uniform_oneField "x" (.num _)))
  have hcell : Json.Covers (oneField "x" (.num (.whole 1))) (oneField "x" (.num (.whole 1))) := by
    refine .obj fun field hfield sample hsample => ?_
    obtain rfl := List.mem_singleton.1 hfield
    obtain rfl := Option.some.inj hsample
    exact .num _ _
  have hcovers : nullCellRows.Covers nullCellRows := by
    refine .arr fun item hitem cell hmem sample hsample => ?_
    rcases List.mem_pair.1 hitem with rfl | rfl
    · obtain rfl := List.mem_singleton.1 hmem
      exact .null _
    · obtain rfl := List.mem_singleton.1 hmem
      obtain rfl := Option.some.inj hsample
      exact hcell
  exact ⟨huniform, (accepts_infer_iff_covers huniform ⟨.binary, 0⟩ .binary).2 hcovers⟩

/-- Rows of which the first one has null inside a record. -/
def nullFieldRows : Json :=
  .arr [oneField "a" (oneField "x" .null), oneField "a" (oneField "x" (.num (.whole 1)))]

/-- The rows go together, but the later one does not lead the column, and the sample is not
accepted. -/
theorem not_accepts_infer_nullFieldRows : nullFieldRows.Uniform ∧
    infer .binary nullFieldRows = .table [("a", .record [("x", .blank)])] ∧
      (infer .binary nullFieldRows).accepts
        (Conversion.ofJson ⟨.binary, 0⟩ (some (infer .binary nullFieldRows)) nullFieldRows) =
          false := by
  refine ⟨?_, rfl, rfl⟩
  refine uniform_rows (compatible_oneField "a" (compatible_oneField "x" (.null_left _))) ?_ ?_
  · exact uniform_oneField "a" (uniform_oneField "x" .null)
  · exact uniform_oneField "a" (uniform_oneField "x" (.num _))

end ValueType

end ApiBinding
