import ApiBinding.Proofs.Json.Reading
import ApiBinding.Proofs.Json.Uniform
import ApiBinding.Proofs.Value.Landing

/-!
# JSON forms of literals

A literal is converted to a value by its shape alone, and the value has a JSON form.  The
two are alike wherever the items of arrays are objects or null: numbers are the same in the
binary64 format, and the members of objects the same in another order.  An item of another
kind makes a row with a single field, and the form of that row is an object.

Main results:

- Theorems `alike_arr_iff` and `alike_obj_iff`: a value whose parts are changed is like the
  one before if every part is.
- Theorem `alike_toJson_literal_iff`: the form of a literal is like the literal exactly if
  the rows of every array in it are objects or null.
-/

namespace ApiBinding

namespace Json

/-! ## Likeness -/

/-- Two values are the same up to the order of members, with numbers taken as binary64. -/
inductive Alike : Json → Json → Prop where
  | null : Alike .null .null
  | bool (b : Bool) : Alike (.bool b) (.bool b)
  | num {m n : JsonNumber} (h : m.toBinary64 = n.toBinary64) : Alike (.num m) (.num n)
  | str (s : String) : Alike (.str s) (.str s)
  /-- Items are alike one by one. -/
  | arr {first second : List Json} (hlength : first.length = second.length)
    (h : ∀ pair ∈ first.zip second, Alike pair.1 pair.2) : Alike (.arr first) (.arr second)
  /-- Both objects have the same names, and what stands under one name is alike. -/
  | obj {first second : List (String × Json)}
    (hnames : (Entries.names first).Perm (Entries.names second))
    (h : ∀ a ∈ first, ∀ b ∈ second, a.1 = b.1 → Alike a.2 b.2) : Alike (.obj first) (.obj second)

/-- The items of every array are objects or null. -/
inductive Tabular : Json → Prop where
  | null : Tabular .null
  | bool (b : Bool) : Tabular (.bool b)
  | num (n : JsonNumber) : Tabular (.num n)
  | str (s : String) : Tabular (.str s)
  | arr {items : List Json} (hrows : ∀ item ∈ items, ¬item.IsSingle)
    (h : ∀ item ∈ items, Tabular item) : Tabular (.arr items)
  | obj {members : List (String × Json)} (h : ∀ member ∈ members, Tabular member.2) :
    Tabular (.obj members)

/-- An array whose items are changed is like the one before if every item is. -/
theorem alike_arr_iff (change : Json → Json) {items : List Json} :
    (arr (items.map change)).Alike (arr items) ↔ ∀ item ∈ items, (change item).Alike item := by
  have hzip : (items.map change).zip items = items.map fun item => (change item, item) := by
    have hmap : (items.map change).zip (items.map id) =
        items.map fun item => (change item, id item) := List.zip_map'
    rwa [List.map_id] at hmap
  constructor
  · rintro (_ | _ | _ | _ | ⟨_, h⟩)
    rw [hzip] at h
    exact List.forall_mem_map.1 h
  · intro h
    refine .arr (List.length_map change) ?_
    rw [hzip]
    exact List.forall_mem_map.2 h

/-- An object whose values are changed and whose members are arranged anew is like the one
before if every value is. -/
theorem alike_obj_iff (change : Json → Json) {members arranged : List (String × Json)}
    (hnames : (Entries.names members).Nodup) (hperm : arranged.Perm members) :
    (obj (arranged.map fun member => (member.1, change member.2))).Alike (obj members) ↔
      ∀ member ∈ members, (change member.2).Alike member.2 := by
  constructor
  · rintro (_ | _ | _ | _ | _ | ⟨_, h⟩) member hmember
    have hchanged : (member.1, change member.2) ∈
        arranged.map fun member => (member.1, change member.2) :=
      List.mem_map_of_mem (hperm.mem_iff.2 hmember)
    exact h _ hchanged member hmember rfl
  · intro h
    refine .obj ?_ ?_
    · have hsame := hperm.map Prod.fst
      simpa only [Entries.names, List.map_map, Function.comp_def] using hsame
    · intro changed hchanged member hmember hname
      obtain ⟨given, hgiven, rfl⟩ := List.mem_map.1 hchanged
      obtain rfl := List.inj_on_of_nodup_map hnames (hperm.mem_iff.1 hgiven) hmember hname
      exact h given hmember

end Json

/-! ## Forms of values -/

namespace Value

/-- The forms of fields are taken one by one. -/
theorem fieldsToJson_eq_map (fields : List (String × Value)) :
    fieldsToJson fields = fields.map fun field => (field.1, field.2.toJson) := by
  induction fields with
  | nil => rw [fieldsToJson, List.map_nil]
  | cons field rest ih => rw [fieldsToJson, ih, List.map_cons]

/-- The forms of rows are taken one by one. -/
theorem rowsToJson_eq_map (rows : List Value) : rowsToJson rows = rows.map toJson := by
  induction rows with
  | nil => rw [rowsToJson, List.map_nil]
  | cons row rest ih => rw [rowsToJson, ih, List.map_cons]

end Value

/-! ## Literals -/

namespace Conversion

/-- The form of an array has the forms of its rows as items. -/
theorem toJson_literal_arr (policy : NumberPolicy) (items : List Json) :
    (literal policy (.arr items)).toJson =
      .arr (items.map fun item => ((⟨policy, 0⟩ : Conversion).ofRow none item).toJson) := by
  rw [literal, ofJson, Value.toJson, ofRows_eq_map, Value.rowsToJson_eq_map, List.map_map]
  rfl

/-- The form of an object has the forms of its members, in the order of their names. -/
theorem toJson_literal_obj (policy : NumberPolicy) (members : List (String × Json)) :
    (literal policy (.obj members)).toJson =
      .obj ((Entries.ofList members).map fun member =>
        (member.1, (literal policy member.2).toJson)) := by
  have hfields : Entries.ofList (ofMembers ⟨policy, 0⟩ none members) =
      (Entries.ofList members).map fun member => (member.1, literal policy member.2) := by
    rw [ofMembers_eq_map]
    exact Entries.ofList_map (fun _ json => literal policy json) members
  have hrecord : literal policy (.obj members) =
      .record (Entries.ofList (ofMembers ⟨policy, 0⟩ none members)) := by
    simp only [literal, ofJson, columns?, fields?]
  rw [hrecord, hfields, Value.toJson, Value.fieldsToJson_eq_map, List.map_map]
  rfl

/-- A single value becomes a record with a single field. -/
theorem ofRow_of_isSingle {conversion : Conversion} {columns : Option (List (String × ValueType))}
    {item : Json} (h : item.IsSingle) :
    conversion.ofRow columns item =
      .record [(("Value" : String), conversion.ofJson (fieldType? columns "Value") item)] := by
  cases item with
  | null => exact absurd rfl h.1
  | obj members => exact absurd rfl (h.2 members)
  | _ => rfl

/-- The form of a row is like its item exactly if the item is no single value and its own
form as a literal is like it. -/
theorem alike_toJson_ofRow_iff {policy : NumberPolicy} {item : Json} :
    (((⟨policy, 0⟩ : Conversion).ofRow none item).toJson).Alike item ↔
      ¬item.IsSingle ∧ (literal policy item).toJson.Alike item := by
  rcases item.kind_cases with rfl | ⟨members, rfl⟩ | hsingle
  · simp [Json.IsSingle, ofRow, literal, ofJson]
  · simp [Json.IsSingle, ofRow, literal]
  · refine iff_of_false ?_ fun h => h.1 hsingle
    intro halike
    rw [ofRow_of_isSingle hsingle, Value.toJson] at halike
    cases halike
    exact hsingle.2 _ rfl

/-- The form of a literal is like the literal exactly if the rows of every array in it are
objects or null. -/
theorem alike_toJson_literal_iff {json : Json} (hregular : json.Regular) :
    (literal .binary json).toJson.Alike json ↔ json.Tabular := by
  induction hregular with
  | null => exact iff_of_true .null .null
  | bool b => exact iff_of_true (.bool b) (.bool b)
  | @num n hfinite =>
      have hform : (literal .binary (.num n)).toJson = .num (.binary n.toBinary64) := by
        simp [literal, ofJson, policyFor, numberAs, Value.toJson, JsonNumber.ofBinary64?, hfinite]
      rw [hform]
      exact iff_of_true (.num rfl) (.num n)
  | str s => exact iff_of_true (.str s) (.str s)
  | @arr items _ ih =>
      rw [toJson_literal_arr, Json.alike_arr_iff]
      constructor
      · intro h
        have hitem := fun item hitem => alike_toJson_ofRow_iff.1 (h item hitem)
        exact .arr (fun item hmem => (hitem item hmem).1)
          fun item hmem => (ih item hmem).1 (hitem item hmem).2
      · rintro (_ | _ | _ | _ | ⟨hrows, h⟩) item hmem
        exact alike_toJson_ofRow_iff.2 ⟨hrows item hmem, (ih item hmem).2 (h item hmem)⟩
  | @obj members hnames _ ih =>
      rw [toJson_literal_obj]
      rw [Json.alike_obj_iff (fun json => (literal .binary json).toJson) hnames
        (Entries.ofList_perm hnames)]
      constructor
      · exact fun h => .obj fun member hmember => (ih member hmember).1 (h member hmember)
      · rintro (_ | _ | _ | _ | _ | h) member hmember
        exact (ih member hmember).2 (h member hmember)

end Conversion

end ApiBinding
