import ApiBinding.Proofs.Value.Literals

/-!
# Plain values

A value has a JSON form, and that form is converted to a value again.  A plain value comes
back as it was: it is built of null, truth values, finite numbers, texts, records, and lists
whose rows are records or null.  Nothing else comes back, since a literal is never a moment
or a decimal number, its numbers are finite, its fields stand in the order of their names,
and every row of its lists is a record or null.

Main results:

- Theorem `literal_toJson_record_iff`: a record comes back exactly if its fields stand in order
  and each of them comes back.
- Theorem `literal_toJson_list_iff`: a list comes back exactly if its rows are records or null
  and each of them comes back.
- Theorem `literal_toJson_eq_self_iff`: the values that come back from their JSON form are the
  plain ones.
-/

namespace ApiBinding

namespace Value

/-! ## Values and their parts -/

/-- What holds of a value if it does of the fields of a record and of the rows of a list holds
of every value. -/
@[elab_as_elim]
theorem partsInduction {P : Value → Prop} (null : P .null) (bool : ∀ b, P (.bool b))
    (num : ∀ x, P (.num x)) (dec : ∀ d, P (.dec d)) (str : ∀ s, P (.str s))
    (dateTime : ∀ moment, P (.dateTime moment))
    (record : ∀ fields, (∀ field ∈ fields, P field.2) → P (.record fields))
    (list : ∀ rows, (∀ row ∈ rows, P row) → P (.list rows)) (value : Value) : P value := by
  -- one motive for values, fields, rows and a single field each
  exact @Value.rec P (fun fields => ∀ field ∈ fields, P field.2) (fun rows => ∀ row ∈ rows, P row)
    (fun field => P field.2) null bool num dec str dateTime record list
    (List.forall_mem_nil _) (fun _ _ hfirst hrest => List.forall_mem_cons.2 ⟨hfirst, hrest⟩)
    (List.forall_mem_nil _) (fun _ _ hfirst hrest => List.forall_mem_cons.2 ⟨hfirst, hrest⟩)
    (fun _ _ hvalue => hvalue) value

/-- Whether a value can be a row of a table: a record or null. -/
def IsRow : Value → Prop
  | null | record _ => True
  | _ => False

/-- Values that are built of null, truth values, finite numbers and texts by records, whose
fields stand in the order of their names, and lists of records and null. -/
inductive Plain : Value → Prop where
  | null : Plain .null
  | bool (b : Bool) : Plain (.bool b)
  | num {x : Binary64} (h : x.isFinite = true) : Plain (.num x)
  | str (s : String) : Plain (.str s)
  | record {fields : List (String × Value)} (hsorted : Entries.Sorted fields)
    (h : ∀ field ∈ fields, Plain field.2) : Plain (.record fields)
  | list {rows : List Value} (hrows : ∀ row ∈ rows, row.IsRow)
    (h : ∀ row ∈ rows, Plain row) : Plain (.list rows)

end Value

namespace Conversion

/-! ## Literals -/

/-- A literal with binary numbers is no decimal number. -/
theorem literal_binary_ne_dec (json : Json) (d : Decimal) : literal .binary json ≠ .dec d := by
  cases json with
  | obj members => simp [literal, ofJson, columns?]
  | _ => simp [literal, ofJson, numberAs, policyFor, ofText]

/-- A literal with binary numbers is no moment. -/
theorem literal_binary_ne_dateTime (json : Json) (moment : Moment) :
    literal .binary json ≠ .dateTime moment := by
  cases json with
  | obj members => simp [literal, ofJson, columns?]
  | _ => simp [literal, ofJson, numberAs, policyFor, ofText]

/-- Every row of a literal is a record or null. -/
theorem isRow_ofRow (policy : NumberPolicy) (item : Json) :
    ((⟨policy, 0⟩ : Conversion).ofRow none item).IsRow := by
  rcases item.kind_cases with rfl | ⟨members, rfl⟩ | hsingle
  · trivial
  · simp [ofRow, ofJson, columns?, Value.IsRow]
  · rw [ofRow_of_isSingle hsingle]
    trivial

/-- The form of a value that can be a row is converted as it would be alone. -/
theorem ofRow_toJson {value : Value} (h : value.IsRow) :
    (⟨.binary, 0⟩ : Conversion).ofRow none value.toJson = literal .binary value.toJson := by
  cases value with
  | null => rfl
  | record fields =>
      rw [Value.toJson]
      rfl
  | _ => cases h

/-! ## Forms that are read back -/

/-- A list is kept by a change exactly if every element is. -/
theorem map_eq_self_iff {α : Type} {change : α → α} {xs : List α} :
    xs.map change = xs ↔ ∀ x ∈ xs, change x = x := by
  have h : xs.map change = xs.map id ↔ ∀ x ∈ xs, change x = id x := List.map_inj_left
  rwa [List.map_id] at h

/-- A number comes back if it is finite; any other has the form of null. -/
theorem literal_toJson_num_iff (x : Binary64) :
    literal .binary (Value.num x).toJson = .num x ↔ x.isFinite = true := by
  rw [Value.toJson, JsonNumber.ofBinary64?]
  cases x.isFinite with
  | true => simp [literal, ofJson, numberAs, policyFor, JsonNumber.toBinary64]
  | false => simp [literal, ofJson]

/-- A record comes back if its fields stand in the order of their names and each of them comes
back. -/
theorem literal_toJson_record_iff (fields : List (String × Value)) :
    literal .binary (Value.record fields).toJson = .record fields ↔
      Entries.Sorted fields ∧
        ∀ field ∈ fields, literal .binary field.2.toJson = field.2 := by
  have hread : literal .binary (Value.record fields).toJson =
      .record ((Entries.ofList fields).map fun field =>
        (field.1, literal .binary field.2.toJson)) := by
    rw [← Entries.ofList_map (fun _ value => literal .binary value.toJson) fields, Value.toJson,
      Value.fieldsToJson_eq_map]
    simp only [literal, ofJson, columns?, fields?]
    rw [ofMembers_eq_map, List.map_map]
    rfl
  rw [hread, Value.record.injEq]
  constructor
  · intro h
    have hsorted : Entries.Sorted fields := by
      rw [← h, ← Entries.ofList_map (fun _ value => literal .binary (Value.toJson value)) fields]
      exact Entries.sorted_ofList _
    rw [Entries.ofList_eq_self hsorted] at h
    refine ⟨hsorted, fun field hfield => ?_⟩
    have hsame := map_eq_self_iff.1 h field hfield
    exact congrArg Prod.snd hsame
  · rintro ⟨hsorted, h⟩
    rw [Entries.ofList_eq_self hsorted]
    exact map_eq_self_iff.2 fun field hfield => Prod.ext rfl (h field hfield)

/-- A list comes back if its rows are records or null and each of them comes back. -/
theorem literal_toJson_list_iff (rows : List Value) :
    literal .binary (Value.list rows).toJson = .list rows ↔
      ∀ row ∈ rows, row.IsRow ∧ literal .binary row.toJson = row := by
  have hread : literal .binary (Value.list rows).toJson =
      .list (rows.map fun row => (⟨.binary, 0⟩ : Conversion).ofRow none row.toJson) := by
    rw [Value.toJson, Value.rowsToJson_eq_map]
    simp only [literal, ofJson, columns?]
    rw [ofRows_eq_map, List.map_map]
    rfl
  rw [hread, Value.list.injEq, map_eq_self_iff]
  refine forall₂_congr fun row _ => ?_
  constructor
  · intro h
    have hrow : row.IsRow := h ▸ isRow_ofRow .binary row.toJson
    exact ⟨hrow, by rwa [ofRow_toJson hrow] at h⟩
  · rintro ⟨hrow, h⟩
    rw [ofRow_toJson hrow, h]

/-- A value comes back from its JSON form, converted with binary numbers, exactly if it is
plain. -/
theorem literal_toJson_eq_self_iff (value : Value) :
    literal .binary value.toJson = value ↔ value.Plain := by
  induction value using Value.partsInduction with
  | null => exact iff_of_true rfl .null
  | bool b => exact iff_of_true rfl (.bool b)
  | num x =>
      rw [literal_toJson_num_iff]
      exact ⟨.num, fun h => by cases h; assumption⟩
  | dec d => exact iff_of_false (literal_binary_ne_dec _ d) (by rintro ⟨⟩)
  | str s => exact iff_of_true rfl (.str s)
  | dateTime moment => exact iff_of_false (literal_binary_ne_dateTime _ moment) (by rintro ⟨⟩)
  | record fields ih =>
      rw [literal_toJson_record_iff]
      constructor
      · exact fun ⟨hsorted, h⟩ => .record hsorted fun field hfield =>
          (ih field hfield).1 (h field hfield)
      · rintro (_ | _ | _ | _ | ⟨hsorted, h⟩)
        exact ⟨hsorted, fun field hfield => (ih field hfield).2 (h field hfield)⟩
  | list rows ih =>
      rw [literal_toJson_list_iff]
      constructor
      · exact fun h => .list (fun row hrow => (h row hrow).1) fun row hrow =>
          (ih row hrow).1 (h row hrow).2
      · rintro (_ | _ | _ | _ | _ | ⟨hrows, h⟩)
        exact fun row hrow => ⟨hrows row hrow, (ih row hrow).2 (h row hrow)⟩

end Conversion

end ApiBinding
