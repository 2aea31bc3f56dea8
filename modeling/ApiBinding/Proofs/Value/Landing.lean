import ApiBinding.Proofs.Entries.Order
import ApiBinding.Schema.Typing
import ApiBinding.Value.Conversion

/-!
# Values that land in a type

JSON lands in a type if the value it is converted to by that type is acceptable for it.
An object lands field by field, so that what is known of single fields carries over to
records that are put together from several.  Rows land in the columns of a table if the
items do in the type that the columns are made of: a row that is neither an object nor
null is wrapped under the name that a single column has.

Main results:

- Theorem `accepts_of_lands`: what lands in a type is accepted by it.
- Theorem `acceptsRows_ofRows`: items that land in a type make rows that are accepted.
- Theorem `accepts_ofReply`: leaving rows out of a reply keeps its value acceptable.
-/

namespace ApiBinding

variable {conversion : Conversion} {type : ValueType}

namespace ValueType

/-- Anything is acceptable where nothing is known. -/
theorem accepts_untyped (value : Value) : untyped.accepts value = true := by
  cases value <;> rfl

/-- Fields are acceptable if each is for the type of its name. -/
theorem acceptsValues_iff {expected : List (String × ValueType)} {fields : List (String × Value)} :
    acceptsValues expected fields = true ↔
      ∀ field ∈ fields, ∀ type, Entries.find? field.1 expected = some type →
        type.accepts field.2 = true := by
  induction fields with
  | nil => simp [acceptsValues]
  | cons field rest ih =>
      rw [acceptsValues, Bool.and_eq_true, ih, List.forall_mem_cons]
      refine and_congr_left fun _ => ?_
      cases Entries.find? field.1 expected <;> simp

/-- Rows are acceptable if each is as a record of the columns. -/
theorem acceptsRows_iff {columns : List (String × ValueType)} {rows : List Value} :
    acceptsRows columns rows = true ↔ ∀ row ∈ rows, (record columns).accepts row = true := by
  induction rows with
  | nil => simp [acceptsRows]
  | cons row rest ih => rw [acceptsRows, Bool.and_eq_true, ih, List.forall_mem_cons]

end ValueType

namespace Conversion

/-- A number becomes a number, binary or decimal. -/
theorem numberAs_cases (policy : NumberPolicy) (n : JsonNumber) :
    (∃ x, numberAs policy n = .num x) ∨ ∃ d, numberAs policy n = .dec d := by
  cases policy with
  | binary => exact Or.inl ⟨_, rfl⟩
  | decimal =>
      cases hdecimal : (Decimal.ofText? n.text).or (Decimal.ofBinary64? n.toBinary64) with
      | some d => exact Or.inr ⟨d, by simp [numberAs, hdecimal]⟩
      | none => exact Or.inl ⟨n.toBinary64, by simp [numberAs, hdecimal]⟩

/-- A text becomes a text, or a moment where one is expected. -/
theorem ofText_cases (conversion : Conversion) (type : ValueType) (text : String) :
    conversion.ofText (some type) text = .str text ∨
      type = .dateTime ∧ ∃ moment, conversion.ofText (some type) text = .dateTime moment := by
  cases type with
  | dateTime =>
      cases hmoment : Moment.ofText? conversion.zone text with
      | some moment => exact Or.inr ⟨rfl, moment, by simp [ofText, hmoment]⟩
      | none => exact Or.inl (by simp [ofText, hmoment])
  | _ => exact Or.inl rfl

/-- Only the JSON null has the value null. -/
theorem isNull_ofJson {type : Option ValueType} {json : Json} (h : json ≠ .null) :
    (conversion.ofJson type json).isNull = false := by
  cases json with
  | null => exact absurd rfl h
  | bool b => simp [ofJson, Value.isNull]
  | num n =>
      simp only [ofJson]
      unfold numberAs
      split
      · rfl
      · split <;> rfl
  | str text =>
      simp only [ofJson]
      unfold ofText
      split
      · cases Moment.ofText? conversion.zone text <;> rfl
      · rfl
  | arr items => simp [ofJson, Value.isNull]
  | obj members =>
      simp only [ofJson]
      split <;> rfl

/-! ## Landing -/

/-- The members of an object land in fields: each does in every field of its name. -/
def FieldsLand (conversion : Conversion) (fields : List (String × ValueType))
    (members : List (String × Json)) : Prop :=
  ∀ member ∈ members, ∀ field ∈ fields, field.1 = member.1 →
    field.2.accepts (conversion.ofJson (some field.2) member.2) = true

/-- JSON lands in a type.  An object lands where nothing is known, or in a record. -/
def Lands (conversion : Conversion) (type : ValueType) : Json → Prop
  | .obj members =>
    type = .untyped ∨ ∃ fields, type = .record fields ∧ conversion.FieldsLand fields members
  | json => type.accepts (conversion.ofJson (some type) json) = true

/-- Everything lands where nothing is known. -/
theorem lands_untyped (json : Json) : conversion.Lands .untyped json := by
  cases json with
  | obj members => exact Or.inl rfl
  | _ => exact ValueType.accepts_untyped _

/-- Null lands in every type. -/
theorem lands_null : conversion.Lands type .null := by
  simp [Lands, ofJson, ValueType.accepts]

/-- A number lands in the type of numbers. -/
theorem lands_num (policy : NumberPolicy) (n : JsonNumber) :
    conversion.Lands (.ofPolicy policy) (.num n) := by
  simp only [Lands, ofJson]
  rcases numberAs_cases (conversion.policyFor (some (.ofPolicy policy))) n with
    ⟨x, hx⟩ | ⟨d, hd⟩
  · rw [hx]
    cases policy <;> rfl
  · rw [hd]
    cases policy <;> rfl

/-- The values of members are converted one by one. -/
theorem ofMembers_eq_map (fields : Option (List (String × ValueType)))
    (members : List (String × Json)) :
    ofMembers conversion fields members = members.map fun member =>
      (member.1, conversion.ofJson (fieldType? fields member.1) member.2) := by
  induction members with
  | nil => rw [ofMembers, List.map_nil]
  | cons member rest ih => rw [ofMembers, ih, List.map_cons]

/-- An object is accepted as a record if each of its fields is for the type of its name. -/
theorem accepts_record_iff {fields : List (String × ValueType)} {members : List (String × Json)} :
    (ValueType.record fields).accepts
        (conversion.ofJson (some (.record fields)) (.obj members)) = true ↔
      ∀ member ∈ Entries.ofList members, ∀ type, Entries.find? member.1 fields = some type →
        type.accepts (conversion.ofJson (some type) member.2) = true := by
  have hfields : Entries.ofList (ofMembers conversion (some fields) members) =
      (Entries.ofList members).map fun member =>
        (member.1, conversion.ofJson (Entries.find? member.1 fields) member.2) := by
    rw [ofMembers_eq_map]
    exact Entries.ofList_map
      (fun name json => conversion.ofJson (Entries.find? name fields) json) members
  simp only [ofJson, columns?, fields?, ValueType.accepts]
  rw [ValueType.acceptsValues_iff, hfields, List.forall_mem_map]
  refine forall₂_congr fun member _ => forall₂_congr fun type htype => ?_
  rw [htype]

/-- An object whose members land in fields is accepted as a record of them. -/
theorem accepts_record_of_fieldsLand {fields : List (String × ValueType)}
    {members : List (String × Json)} (h : conversion.FieldsLand fields members) :
    (ValueType.record fields).accepts
      (conversion.ofJson (some (.record fields)) (.obj members)) = true :=
  accepts_record_iff.2 fun member hmember type htype =>
    h member (Entries.mem_ofList hmember) (member.1, type) (Entries.mem_of_find? htype) rfl

/-- What lands in a type is accepted by it. -/
theorem accepts_of_lands {json : Json} (h : conversion.Lands type json) :
    type.accepts (conversion.ofJson (some type) json) = true := by
  cases json with
  | obj members =>
      rcases h with rfl | ⟨fields, rfl, hfields⟩
      · exact ValueType.accepts_untyped _
      · exact accepts_record_of_fieldsLand hfields
  | _ => exact h

/-! ## Rows -/

/-- The row of an item. -/
def ofRow (conversion : Conversion) (columns : Option (List (String × ValueType))) : Json → Value
  | .obj members => conversion.ofJson (columns.map .record) (.obj members)
  | .null => .null
  | single =>
    .record [(("Value" : String), conversion.ofJson (fieldType? columns "Value") single)]

/-- Items become rows one by one. -/
theorem ofRows_eq_map (columns : Option (List (String × ValueType))) (items : List Json) :
    ofRows conversion columns items = items.map (ofRow conversion columns) := by
  induction items with
  | nil => rw [ofRows, List.map_nil]
  | cons item rest ih =>
      cases item <;> simp only [ofRows, ofRow, ih, List.map_cons]

/-- A single value is accepted as a row if it is for the type of the only column. -/
theorem accepts_wrapped_iff {columns : List (String × ValueType)} {single : Json} :
    (ValueType.record columns).accepts
        (.record [(("Value" : String),
          conversion.ofJson (fieldType? (some columns) "Value") single)]) = true ↔
      ∀ type, Entries.find? "Value" columns = some type →
        type.accepts (conversion.ofJson (some type) single) = true := by
  rw [ValueType.accepts, ValueType.acceptsValues_iff, List.forall_mem_singleton]
  refine forall₂_congr fun type htype => ?_
  rw [fieldType?, Option.bind_some, htype]

/-- The only column for items of a type has that type, unless they are records. -/
theorem eq_of_find?_rowColumns (hrecord : ∀ fields, type ≠ .record fields) {column : ValueType}
    (h : Entries.find? "Value" type.rowColumns = some column) : column = type := by
  cases type with
  | record fields => exact absurd rfl (hrecord fields)
  | untyped => simp [ValueType.rowColumns, Entries.find?] at h
  | _ => simpa [ValueType.rowColumns, Entries.find?] using h.symm

/-- What is neither an object nor null lands in no record. -/
theorem ne_record_of_lands {json : Json} (h : conversion.Lands type json)
    (hnull : json ≠ .null) (hobj : ∀ members, json ≠ .obj members)
    (fields : List (String × ValueType)) : type ≠ .record fields := by
  rintro rfl
  cases json with
  | null => exact hnull rfl
  | obj members => exact hobj members rfl
  | bool b => simp [Lands, ofJson, ValueType.accepts] at h
  | num n =>
      rcases numberAs_cases (conversion.policyFor (some (.record fields))) n with
        ⟨x, hx⟩ | ⟨d, hd⟩
      · simp [Lands, ofJson, ValueType.accepts, hx] at h
      · simp [Lands, ofJson, ValueType.accepts, hd] at h
  | str text => simp [Lands, ofJson, ofText, ValueType.accepts] at h
  | arr items => simp [Lands, ofJson, ValueType.accepts] at h

/-- An item that lands in a type makes a row that is accepted for its columns. -/
theorem accepts_ofRow {item : Json} (h : conversion.Lands type item) :
    (ValueType.record type.rowColumns).accepts
      (conversion.ofRow (some type.rowColumns) item) = true := by
  have hsingle : item ≠ .null → (∀ members, item ≠ .obj members) →
      (ValueType.record type.rowColumns).accepts (.record [(("Value" : String),
        conversion.ofJson (fieldType? (some type.rowColumns) "Value") item)]) = true := by
    intro hnull hobj
    refine accepts_wrapped_iff.2 fun column hcolumn => ?_
    rw [eq_of_find?_rowColumns (ne_record_of_lands h hnull hobj) hcolumn]
    exact accepts_of_lands h
  cases item with
  | null => rfl
  | obj members =>
      rcases h with rfl | ⟨fields, rfl, hfields⟩
      · exact accepts_record_of_fieldsLand fun _ _ _ hfield => absurd hfield List.not_mem_nil
      · exact accepts_record_of_fieldsLand hfields
  | bool b => exact hsingle (by simp) (by simp)
  | num n => exact hsingle (by simp) (by simp)
  | str text => exact hsingle (by simp) (by simp)
  | arr items => exact hsingle (by simp) (by simp)

/-- Items that land in a type make rows that are accepted for its columns. -/
theorem acceptsRows_ofRows {items : List Json} (h : ∀ item ∈ items, conversion.Lands type item) :
    ValueType.acceptsRows type.rowColumns
      (ofRows conversion (some type.rowColumns) items) = true := by
  rw [ValueType.acceptsRows_iff, ofRows_eq_map, List.forall_mem_map]
  exact fun item hitem => accepts_ofRow (h item hitem)

/-- An array whose items land in a type lands in the table of its columns. -/
theorem lands_table (type : ValueType) {items : List Json}
    (h : ∀ item ∈ items, conversion.Lands type item) :
    conversion.Lands (.table type.rowColumns) (.arr items) := by
  simpa only [Lands, ofJson, columns?, ValueType.accepts] using acceptsRows_ofRows h

/-! ## Collections and replies -/

/-- The rows of an object are those of the array that stands under the name of a value. -/
theorem ofWrappedRows_of_find? {columns : List (String × ValueType)}
    {members : List (String × Json)} {items : List Json}
    (h : Entries.find? "value" members = some (.arr items)) :
    ofWrappedRows conversion columns members = some (ofRows conversion (some columns) items) := by
  induction members with
  | nil => simp [Entries.find?] at h
  | cons member rest ih =>
      obtain ⟨name, value⟩ := member
      by_cases hname : name = "value"
      · rw [Entries.find?, if_pos hname] at h
        obtain rfl := Option.some.inj h
        rw [ofWrappedRows, if_pos hname]
      · rw [Entries.find?, if_neg hname] at h
        cases value <;> simp only [ofWrappedRows, if_neg hname, ih h]

/-- Where a table is expected, an object is converted as the array in it. -/
theorem ofJson_wrapped {columns : List (String × ValueType)} {members : List (String × Json)}
    {items : List Json} (h : Entries.find? "value" members = some (.arr items)) :
    conversion.ofJson (some (.table columns)) (.obj members) =
      conversion.ofJson (some (.table columns)) (.arr items) := by
  simp only [ofJson, columns?, ofWrappedRows_of_find? h]

/-- Leaving rows out keeps a value acceptable. -/
theorem accepts_capRows {value : Value} (h : type.accepts value = true) (maxRows : Nat) :
    type.accepts (capRows maxRows value) = true := by
  cases value with
  | list rows =>
      cases type with
      | table columns =>
          rw [ValueType.accepts, ValueType.acceptsRows_iff] at h
          rw [capRows, ValueType.accepts, ValueType.acceptsRows_iff]
          exact fun row hrow => h row (List.mem_of_mem_take hrow)
      | untyped => exact ValueType.accepts_untyped _
      | _ => simp [ValueType.accepts] at h
  | _ => exact h

/-- The value of a reply is acceptable if that of its JSON is. -/
theorem accepts_ofReply {json : Json} {body : List UInt8}
    (hjson : Json.parse? (Text.utf8DecodeLenient body) = some json)
    (h : type.accepts (conversion.ofJson (some type) json) = true) (maxRows : Nat) :
    type.accepts (conversion.ofReply (some type) maxRows body) = true := by
  unfold ofReply
  by_cases hblank : (Text.utf8DecodeLenient body).all Text.isBlank = true
  · simp [hblank, ValueType.accepts]
  · simpa [hblank, hjson] using accepts_capRows h maxRows

end Conversion

end ApiBinding
