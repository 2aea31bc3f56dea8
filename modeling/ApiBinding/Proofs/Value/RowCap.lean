import ApiBinding.Proofs.Json.Reading
import ApiBinding.Proofs.Value.Landing

/-!
# Rows of a reply

A reply holds a collection if it is an array, or an object with an array under the name of
a value.  The collection comes back as rows: as the value itself if the reply is an array
or a table is expected, else as the field of that name.  Only rows that are the value
itself are limited in number; as a field, all of them come back.

Main results:

- Theorem `rows?_ofJson`: a collection comes back as one row for each item, in order.
- Theorem `capped_ofReply`: the rows that a reply has, and when they are within the limit.
-/

namespace ApiBinding

/-- The items of a collection: those of an array, or of the array under the name of a value. -/
def Json.collection? : Json → Option (List Json)
  | .arr items => some items
  | .obj members =>
    match Entries.find? "value" members with
    | some (.arr items) => some items
    | _ => none
  | _ => none

/-- The rows of a value: those of a list, or of the list under the name of a value. -/
def Value.rows? : Value → Option (List Value)
  | .list rows => some rows
  | .record fields =>
    match Entries.find? "value" fields with
    | some (.list rows) => some rows
    | _ => none
  | _ => none

/-- The rows of a value are the first ones of a list, within a limit. -/
def Value.HasFirst (maxRows : Nat) (rows : List Value) (value : Value) : Prop :=
  ∃ kept, value.rows? = some kept ∧ kept <+: rows ∧ kept.length ≤ maxRows

namespace Conversion

variable {conversion : Conversion} {type : Option ValueType} {json : Json} {items : List Json}

/-- Whether a collection comes back as a list: an array always does, and an object where a
table is expected. -/
def comesAsList (type : Option ValueType) : Json → Bool
  | .arr _ => true
  | _ => (columns? type).isSome

/-- The columns that the rows of a collection are converted by. -/
def collectionColumns? (type : Option ValueType) (json : Json) :
    Option (List (String × ValueType)) :=
  if comesAsList type json then columns? type
  else columns? (fieldType? (fields? type) "value")

/-! ## Rows of a collection -/

/-- An object with an array under the name of a value is a collection of its items. -/
theorem find?_of_collection? {members : List (String × Json)}
    (h : (Json.obj members).collection? = some items) :
    Entries.find? "value" members = some (.arr items) := by
  simp only [Json.collection?] at h
  split at h
  · rename_i hfind
    obtain rfl := Option.some.inj h
    exact hfind
  · cases h

/-- An array is converted to the list of its rows. -/
theorem ofJson_arr (type : Option ValueType) (items : List Json) :
    conversion.ofJson type (.arr items) =
      .list (items.map (conversion.ofRow (columns? type))) := by
  rw [ofJson, ofRows_eq_map]

/-- Where no table is expected, the value of a member is the field of its name. -/
theorem find?_ofMembers {members : List (String × Json)} (hnames : (Entries.names members).Nodup)
    (fields : Option (List (String × ValueType))) (name : String) :
    Entries.find? name (Entries.ofList (ofMembers conversion fields members)) =
      (Entries.find? name members).map (conversion.ofJson (fieldType? fields name)) := by
  rw [ofMembers_eq_map,
    Entries.ofList_map (fun name json => conversion.ofJson (fieldType? fields name) json),
    Entries.find?_map (fun name json => conversion.ofJson (fieldType? fields name) json),
    Entries.find?_ofList hnames]

/-- A collection that comes back as a list has one row for each item. -/
theorem ofJson_of_comesAsList (hitems : json.collection? = some items)
    (h : comesAsList type json = true) :
    conversion.ofJson type json = .list (items.map (conversion.ofRow (columns? type))) := by
  cases json with
  | arr given =>
      obtain rfl := Option.some.inj hitems
      exact ofJson_arr type given
  | obj members =>
      have hfind := find?_of_collection? hitems
      obtain ⟨columns, hcolumns⟩ := Option.isSome_iff_exists.1 h
      simp only [ofJson, hcolumns, ofWrappedRows_of_find? hfind, ofRows_eq_map]
  | _ => cases hitems

/-- Any other collection comes back as the rows of a field. -/
theorem ofJson_of_not_comesAsList (conversion : Conversion) (hregular : json.Regular)
    (hitems : json.collection? = some items) (h : comesAsList type json = false) :
    ∃ fields, conversion.ofJson type json = .record fields ∧
      Entries.find? "value" fields = some (.list (items.map
        (conversion.ofRow (columns? (fieldType? (fields? type) "value"))))) := by
  cases hregular with
  | @obj members hnames _ =>
      have hcolumns : columns? type = none :=
        Option.isNone_iff_eq_none.1 (Option.isSome_eq_false_iff.1 h)
      refine ⟨Entries.ofList (ofMembers conversion (fields? type) members), ?_, ?_⟩
      · simp only [ofJson, hcolumns]
      · rw [find?_ofMembers hnames, find?_of_collection? hitems, Option.map_some, ofJson_arr]
  | arr _ => cases h
  | _ => cases hitems

/-- A collection comes back as one row for each item, in order. -/
theorem rows?_ofJson (hregular : json.Regular) (hitems : json.collection? = some items) :
    (conversion.ofJson type json).rows? =
      some (items.map (conversion.ofRow (collectionColumns? type json))) := by
  by_cases h : comesAsList type json = true
  · rw [ofJson_of_comesAsList hitems h, collectionColumns?, if_pos h]
    rfl
  · obtain ⟨fields, hrecord, hrows⟩ :=
      ofJson_of_not_comesAsList conversion hregular hitems
        (Bool.eq_false_iff.2 h)
    rw [hrecord, collectionColumns?, if_neg h]
    simp only [Value.rows?, hrows]

/-! ## Limit -/

/-- Rows that are cut are within a limit; rows that are not cut are if there are no more. -/
theorem hasFirst_iff_of_rows? {value : Value} {rows : List Value} {maxRows : Nat} {cut : Bool}
    (h : value.rows? = some (if cut then rows.take maxRows else rows)) :
    value.HasFirst maxRows rows ↔ cut = true ∨ rows.length ≤ maxRows := by
  cases cut with
  | true =>
      refine iff_of_true ⟨rows.take maxRows, h, ?_, ?_⟩ (Or.inl rfl)
      · exact List.take_prefix maxRows rows
      · exact List.length_take_le maxRows rows
  | false =>
      have hall : value.rows? = some rows := h
      constructor
      · rintro ⟨kept, hkept, _, hlimit⟩
        rw [hall] at hkept
        obtain rfl := Option.some.inj hkept
        exact Or.inr hlimit
      · intro hlimit
        have hfew : rows.length ≤ maxRows := hlimit.resolve_left (by simp)
        exact ⟨rows, hall, List.prefix_rfl, hfew⟩

/-- A reply that is JSON is converted, and its rows are limited. -/
theorem ofReply_of_parse? {body : List UInt8}
    (hjson : Json.parse? (Text.utf8DecodeLenient body) = some json) (maxRows : Nat) :
    conversion.ofReply type maxRows body = capRows maxRows (conversion.ofJson type json) := by
  have hblank : (Text.utf8DecodeLenient body).all Text.isBlank = false := by
    rw [Bool.eq_false_iff]
    intro hblank
    rw [Json.parse?_eq_none_of_blank hblank] at hjson
    cases hjson
  simp only [ofReply, hblank, hjson, Bool.false_eq_true, if_false]

/-- Only the rows of a list are limited. -/
theorem rows?_capRows (hregular : json.Regular) (hitems : json.collection? = some items)
    (maxRows : Nat) :
    (capRows maxRows (conversion.ofJson type json)).rows? =
      some (let rows := items.map (conversion.ofRow (collectionColumns? type json))
        if comesAsList type json then rows.take maxRows else rows) := by
  by_cases h : comesAsList type json = true
  · rw [ofJson_of_comesAsList hitems h, collectionColumns?, if_pos h, if_pos h]
    rfl
  · obtain ⟨fields, hrecord, _⟩ :=
      ofJson_of_not_comesAsList conversion hregular hitems
        (Bool.eq_false_iff.2 h)
    have hcap : capRows maxRows (conversion.ofJson type json) = conversion.ofJson type json := by
      rw [hrecord]
      rfl
    rw [hcap, rows?_ofJson hregular hitems, if_neg h]

/-- A reply that holds a collection comes back with one row for each item: with the first
ones alone if it comes back as a list, else with all.  So the limit is kept exactly if it
comes back as a list, or holds no more items than the limit. -/
theorem capped_ofReply {body : List UInt8}
    (hjson : Json.parse? (Text.utf8DecodeLenient body) = some json)
    (hitems : json.collection? = some items) (conversion : Conversion)
    (type : Option ValueType) (maxRows : Nat) :
    let rows := items.map (conversion.ofRow (collectionColumns? type json))
    (conversion.ofReply type maxRows body).rows? =
        some (if comesAsList type json then rows.take maxRows else rows) ∧
      ((conversion.ofReply type maxRows body).HasFirst maxRows rows ↔
        comesAsList type json = true ∨ items.length ≤ maxRows) := by
  intro rows
  have hrows : (conversion.ofReply type maxRows body).rows? =
      some (if comesAsList type json then rows.take maxRows else rows) := by
    rw [ofReply_of_parse? hjson]
    exact rows?_capRows (Json.regular_of_parse? hjson) hitems maxRows
  have hlength : rows.length = items.length := List.length_map _
  exact ⟨hrows, hlength ▸ hasFirst_iff_of_rows? hrows⟩

/-! ## Tasks -/

/-- Two tasks, of which the first is done, as an object with an array of them. -/
def tasks : Json :=
  .obj [("value", .arr [.obj [("done", .bool true)], .obj [("done", .bool false)]])]

/-- The text of the tasks. -/
def tasksText : List Char :=
  ['\x7b', '\x22', 'v', 'a', 'l', 'u', 'e', '\x22', ':', '[',
    '\x7b', '\x22', 'd', 'o', 'n', 'e', '\x22', ':', 't', 'r', 'u', 'e', '\x7d', ',',
    '\x7b', '\x22', 'd', 'o', 'n', 'e', '\x22', ':', 'f', 'a', 'l', 's', 'e', '\x7d', ']', '\x7d']

/-- The reply with the tasks. -/
def tasksReply : List UInt8 := Text.utf8Bytes tasksText

/-- The rows of the tasks. -/
def taskRows : List Value :=
  [.record [("done", .bool true)], .record [("done", .bool false)]]

/-- The tasks are read from the reply. -/
theorem parse?_tasksReply : Json.parse? (Text.utf8DecodeLenient tasksReply) = some tasks := by
  have htext : Text.utf8DecodeLenient tasksReply = tasksText := by decide +kernel
  rw [htext]
  rfl

/-- Where a table of tasks is expected, the reply is cut to the first task. -/
theorem capped_tasksReply :
    (ofReply ⟨.binary, 0⟩ (some (.table [("done", .boolean)])) 1 tasksReply).rows? =
        some [.record [("done", .bool true)]] ∧
      (ofReply ⟨.binary, 0⟩ (some (.table [("done", .boolean)])) 1 tasksReply).HasFirst 1
        taskRows := by
  have hcapped := capped_ofReply parse?_tasksReply rfl ⟨.binary, 0⟩
    (some (.table [("done", .boolean)])) 1
  exact ⟨hcapped.1, hcapped.2.2 (Or.inl rfl)⟩

/-- A value that has both tasks has more than one row. -/
theorem not_hasFirst_of_taskRows {value : Value} (h : value.rows? = some taskRows) :
    ¬value.HasFirst 1 taskRows := by
  rintro ⟨kept, hkept, _, hlimit⟩
  rw [h] at hkept
  obtain rfl := Option.some.inj hkept
  exact absurd hlimit (by decide)

/-- Where nothing is known of the result, or a record with the tasks is expected, both tasks
come back although the limit is one. -/
theorem tasksReply_not_capped :
    (ofReply ⟨.binary, 0⟩ none 1 tasksReply).rows? = some taskRows ∧
      (ofReply ⟨.binary, 0⟩ (some (.record [("value", .table [("done", .boolean)])])) 1
        tasksReply).rows? = some taskRows ∧
      ¬(ofReply ⟨.binary, 0⟩ none 1 tasksReply).HasFirst 1 taskRows ∧
      ¬(ofReply ⟨.binary, 0⟩ (some (.record [("value", .table [("done", .boolean)])])) 1
        tasksReply).HasFirst 1 taskRows := by
  have hregular := Json.regular_of_parse? parse?_tasksReply
  have hunknown : (ofReply ⟨.binary, 0⟩ none 1 tasksReply).rows? = some taskRows := by
    rw [ofReply_of_parse? parse?_tasksReply, rows?_capRows hregular rfl]
    rfl
  have hrecord : (ofReply ⟨.binary, 0⟩ (some (.record [("value", .table [("done", .boolean)])]))
      1 tasksReply).rows? = some taskRows := by
    rw [ofReply_of_parse? parse?_tasksReply, rows?_capRows hregular rfl]
    rfl
  exact ⟨hunknown, hrecord, not_hasFirst_of_taskRows hunknown, not_hasFirst_of_taskRows hrecord⟩

end Conversion

end ApiBinding
