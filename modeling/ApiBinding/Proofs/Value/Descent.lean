import ApiBinding.Proofs.Json.Uniform
import ApiBinding.Proofs.Value.Landing

/-!
# Conversion part by part

JSON is converted together with the type that is expected of it, and each of its parts with
a type of its own: an item of an array by the columns of the rows, and a member of an object
by the field of its name.  An object that holds rows where a table is expected is converted
as the array in it.

Main results:

- Theorems `ofJson_items` and `ofJson_members`: arrays and objects by the values of their parts.
- Theorem `descentInduction`: induction over JSON and the type that is expected of it.
-/

namespace ApiBinding.Conversion

variable {conversion : Conversion} {type : Option ValueType}

/-! ## Rows -/

/-- The type of an item where rows have columns. -/
def itemType? (columns : Option (List (String × ValueType))) : Json → Option ValueType
  | .obj _ => columns.map .record
  | _ => fieldType? columns "Value"

/-- The row that the value of an item makes: a single value stands in a column of its own. -/
def asRow (item : Json) (value : Value) : Value :=
  match item with
  | .null | .obj _ => value
  | _ => .record [("Value", value)]

/-- A row is made of the value of its item. -/
theorem ofRow_eq_asRow (columns : Option (List (String × ValueType))) (item : Json) :
    conversion.ofRow columns item =
      asRow item (conversion.ofJson (itemType? columns item) item) := by
  cases item with
  | null => simp [ofRow, asRow, ofJson]
  | _ => rfl

/-- An array is converted item by item. -/
theorem ofJson_items (type : Option ValueType) (items : List Json) :
    conversion.ofJson type (.arr items) =
      .list (items.map fun item =>
        asRow item (conversion.ofJson (itemType? (columns? type) item) item)) := by
  rw [ofJson, ofRows_eq_map]
  exact congrArg Value.list (List.map_congr_left fun item _ => ofRow_eq_asRow (columns? type) item)

/-! ## Objects -/

/-- An object holds rows: a table is expected, and an array stands under the name of a value. -/
def HoldsRows (type : Option ValueType) (members : List (String × Json)) : Prop :=
  ∃ columns items, type = some (.table columns) ∧
    Entries.find? "value" members = some (.arr items)

/-- Rows are taken from an object only if an array stands under the name of a value. -/
theorem exists_items_of_ofWrappedRows {columns : List (String × ValueType)}
    {members : List (String × Json)} {rows : List Value}
    (h : ofWrappedRows conversion columns members = some rows) :
    ∃ items, Entries.find? "value" members = some (.arr items) := by
  induction members with
  | nil => simp [ofWrappedRows] at h
  | cons member rest ih =>
      obtain ⟨name, value⟩ := member
      by_cases hname : name = "value"
      · cases value with
        | arr items => exact ⟨items, by rw [Entries.find?, if_pos hname]⟩
        | _ => simp [ofWrappedRows, hname] at h
      · rw [Entries.find?, if_neg hname]
        cases value <;> exact ih (by simpa [ofWrappedRows, hname] using h)

/-- Any other object is converted member by member. -/
theorem ofJson_members {members : List (String × Json)} (h : ¬HoldsRows type members) :
    conversion.ofJson type (.obj members) =
      .record ((Entries.ofList members).map fun member =>
        (member.1, conversion.ofJson (fieldType? (fields? type) member.1) member.2)) := by
  have hfields : Entries.ofList (ofMembers conversion (fields? type) members) =
      (Entries.ofList members).map fun member =>
        (member.1, conversion.ofJson (fieldType? (fields? type) member.1) member.2) := by
    rw [ofMembers_eq_map]
    exact Entries.ofList_map
      (fun name json => conversion.ofJson (fieldType? (fields? type) name) json) members
  rw [← hfields]
  cases hcolumns : columns? type with
  | none => simp only [ofJson, hcolumns]
  | some columns =>
      have htype : type = some (.table columns) := by
        cases type with
        | none => cases hcolumns
        | some expected => cases expected <;> cases hcolumns; rfl
      have hrows : ofWrappedRows conversion columns members = none := by
        rw [Option.eq_none_iff_forall_ne_some]
        intro rows hsome
        obtain ⟨items, hitems⟩ := exists_items_of_ofWrappedRows hsome
        exact h ⟨columns, items, htype, hitems⟩
      simp only [ofJson, hcolumns, hrows]

/-! ## Induction -/

/-- What holds of JSON and an expected type whenever it holds of the parts, each with the type
that it is converted by, holds of all. -/
@[elab_as_elim]
theorem descentInduction {P : Option ValueType → Json → Prop} (null : ∀ type, P type .null)
    (bool : ∀ type b, P type (.bool b)) (num : ∀ type n, P type (.num n))
    (str : ∀ type s, P type (.str s))
    (arr : ∀ type items, (∀ item ∈ items, P (itemType? (columns? type) item) item) →
      P type (.arr items))
    (rows : ∀ columns members items, Entries.find? "value" members = some (.arr items) →
      P (some (.table columns)) (.arr items) → P (some (.table columns)) (.obj members))
    (record : ∀ type members, ¬HoldsRows type members →
      (∀ member ∈ Entries.ofList members, P (fieldType? (fields? type) member.1) member.2) →
        P type (.obj members)) (type : Option ValueType) (json : Json) : P type json := by
  cases json with
  | null => exact null type
  | bool b => exact bool type b
  | num n => exact num type n
  | str s => exact str type s
  | arr items =>
      refine arr type items fun item hitem => ?_
      exact descentInduction null bool num str arr rows record _ item
  | obj members =>
      by_cases hholds : HoldsRows type members
      · obtain ⟨columns, items, rfl, hfind⟩ := hholds
        refine rows columns members items hfind ?_
        exact descentInduction null bool num str arr rows record _ (.arr items)
      · refine record type members hholds fun member hmember => ?_
        exact descentInduction null bool num str arr rows record _ member.2
termination_by sizeOf json
decreasing_by
  · have hsmaller := List.sizeOf_lt_of_mem hitem
    rw [Json.arr.sizeOf_spec]
    omega
  · have hsmaller := List.sizeOf_lt_of_mem (Entries.mem_of_find? hfind)
    have hpair : sizeOf (("value" : String), Json.arr items) =
        1 + sizeOf ("value" : String) + sizeOf (Json.arr items) := rfl
    rw [Json.obj.sizeOf_spec]
    omega
  · exact Json.sizeOf_lt_obj hmember

end ApiBinding.Conversion
