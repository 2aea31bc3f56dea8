import ApiBinding.Proofs.Value.Descent
import ApiBinding.Proofs.Value.RowCap
import ApiBinding.Proofs.ValueType.NumberTypes

/-!
# Numbers of values

Wherever a number stands in a value of JSON, a number stands at the same place of the JSON.
If the expected type keeps to the number policy, all of them are represented by that policy.
So under the binary policy no decimal number comes about, and under the decimal policy a binary
one only for a number that has no decimal form.

Main results:

- Theorem `numbered_capRows_ofJson`: the numbers of a value and of the JSON it is made from.
- Theorems `keepsNumbers_literal` and `keepsNumbers_ofReply`: the numbers of literals and of
  replies.
-/

namespace ApiBinding

namespace Value

/-- A value stands in another one, at any depth. -/
inductive Contains : Value → Value → Prop where
  | itself (value : Value) : Contains value value
  | field {fields : List (String × Value)} {field : String × Value} {part : Value}
      (hfield : field ∈ fields) (h : Contains field.2 part) : Contains (.record fields) part
  | row {rows : List Value} {row part : Value} (hrow : row ∈ rows) (h : Contains row part) :
      Contains (.list rows) part

/-- A value is a single number. -/
def IsNumber : Value → Prop
  | num _ | dec _ => True
  | _ => False

end Value

/-- A number has no decimal form: neither its text nor its binary64 value gives one. -/
structure JsonNumber.LacksDecimal (n : JsonNumber) : Prop where
  text : Decimal.ofText? n.text = none
  binary : Decimal.ofBinary64? n.toBinary64 = none

namespace Conversion

variable {policy : NumberPolicy} {zone : Int} {type : Option ValueType} {json item : Json}
  {value leaf : Value}

/-! ## Places -/

/-- A part of JSON and a part of its value stand at the same place: under the same name of a
record, at the same index of an array, where a single item stands in the column of its row, or
among the rows that an object holds. -/
inductive Place : Json → Value → Json → Value → Prop where
  | whole (json : Json) (value : Value) : Place json value json value
  | field {members : List (String × Json)} {fields : List (String × Value)}
      {member : String × Json} {value leaf : Value} {part : Json}
      (hmember : member ∈ Entries.ofList members) (hfield : (member.1, value) ∈ fields)
      (h : Place member.2 value part leaf) : Place (.obj members) (.record fields) part leaf
  | row {items : List Json} {rows : List Value} {index : Nat} {item part : Json}
      {value leaf : Value} (hitem : items[index]? = some item)
      (hrow : rows[index]? = some (asRow item value)) (h : Place item value part leaf) :
      Place (.arr items) (.list rows) part leaf
  | collection {members : List (String × Json)} {items : List Json} {rows : List Value}
      {part : Json} {leaf : Value} (hitems : Entries.find? "value" members = some (.arr items))
      (h : Place (.arr items) (.list rows) part leaf) : Place (.obj members) (.list rows) part leaf

/-- Every number of a value stands at the place of a number of the JSON, which a policy
represents by it. -/
def Numbered (policy : NumberPolicy) (json : Json) (value : Value) : Prop :=
  ∀ leaf : Value, leaf.IsNumber → value.Contains leaf →
    ∃ n, Place json value (.num n) leaf ∧ leaf = numberAs policy n

/-- A value that has neither parts nor numbers. -/
def IsPlain : Value → Prop
  | .null | .bool _ | .str _ | .dateTime _ => True
  | _ => False

/-- No number stands in a value without parts and numbers. -/
theorem IsPlain.not_contains (h : IsPlain value) (hnumber : leaf.IsNumber) :
    ¬value.Contains leaf := by
  intro hleaf
  cases value with
  | null | bool | str | dateTime =>
      cases hleaf
      cases hnumber
  | _ => cases h

/-- A value without parts and numbers has no numbers to place. -/
theorem IsPlain.numbered (h : IsPlain value) : Numbered policy json value :=
  fun _ hnumber hleaf => absurd hleaf (h.not_contains hnumber)

/-- A number stands at its own place. -/
theorem numbered_numberAs (policy : NumberPolicy) (n : JsonNumber) :
    Numbered policy (.num n) (numberAs policy n) := by
  intro leaf _ hleaf
  have hsame : leaf = numberAs policy n := by
    rcases numberAs_cases policy n with ⟨x, hx⟩ | ⟨d, hd⟩
    · rw [hx] at hleaf ⊢
      cases hleaf
      rfl
    · rw [hd] at hleaf ⊢
      cases hleaf
      rfl
  exact ⟨n, hsame ▸ .whole _ _, hsame⟩

/-- A text becomes no number. -/
theorem isPlain_ofText (conversion : Conversion) (type : Option ValueType) (text : String) :
    IsPlain (conversion.ofText type text) := by
  cases type with
  | none => trivial
  | some type =>
      rcases ofText_cases conversion type text with hstr | ⟨_, moment, hmoment⟩
      · rw [hstr]
        trivial
      · rw [hmoment]
        trivial

/-- The numbers of a record are those of its fields. -/
theorem numbered_record {members : List (String × Json)} {fields : List (String × Value)}
    (h : ∀ field ∈ fields, ∃ member ∈ Entries.ofList members,
      member.1 = field.1 ∧ Numbered policy member.2 field.2) :
    Numbered policy (.obj members) (.record fields) := by
  intro leaf hnumber hleaf
  cases hleaf with
  | itself => cases hnumber
  | @field _ field _ hfield hleaf =>
      obtain ⟨member, hmember, hname, hnumbered⟩ := h field hfield
      obtain ⟨n, hplace, hsame⟩ := hnumbered leaf hnumber hleaf
      exact ⟨n, .field hmember (hname ▸ hfield) hplace, hsame⟩

/-- The numbers of a row are those of its item. -/
theorem contains_of_asRow (hnumber : leaf.IsNumber) (h : (asRow item value).Contains leaf) :
    value.Contains leaf := by
  have hsingle : (Value.record [("Value", value)]).Contains leaf → value.Contains leaf := by
    intro h
    cases h with
    | itself => cases hnumber
    | field hfield hleaf =>
        obtain rfl := List.mem_singleton.1 hfield
        exact hleaf
  cases item with
  | null => exact h
  | obj members => exact h
  | _ => exact hsingle h

/-- The numbers of a list are those of its rows. -/
theorem numbered_list {items : List Json} {rows : List Value}
    (h : ∀ (index : Nat) row, rows[index]? = some row → ∃ item value, items[index]? = some item ∧
      row = asRow item value ∧ Numbered policy item value) :
    Numbered policy (.arr items) (.list rows) := by
  intro leaf hnumber hleaf
  cases hleaf with
  | itself => cases hnumber
  | @row _ row _ hrow hleaf =>
      obtain ⟨index, hindex⟩ := List.getElem?_of_mem hrow
      obtain ⟨item, value, hitem, rfl, hnumbered⟩ := h index row hindex
      obtain ⟨n, hplace, hsame⟩ := hnumbered leaf hnumber (contains_of_asRow hnumber hleaf)
      exact ⟨n, .row hitem hindex hplace, hsame⟩

/-- The numbers of the rows that an object holds are those of the array. -/
theorem numbered_collection {members : List (String × Json)} {items : List Json}
    {rows : List Value} (hitems : Entries.find? "value" members = some (.arr items))
    (h : Numbered policy (.arr items) (.list rows)) :
    Numbered policy (.obj members) (.list rows) := by
  intro leaf hnumber hleaf
  obtain ⟨n, hplace, hsame⟩ := h leaf hnumber hleaf
  exact ⟨n, .collection hitems hplace, hsame⟩

/-- What holds however many rows are kept holds of all rows. -/
theorem Numbered.of_forall_capRows (h : ∀ maxRows, Numbered policy json (capRows maxRows value)) :
    Numbered policy json value := by
  cases value with
  | list rows =>
      have hall := h rows.length
      rwa [capRows, List.take_length] at hall
  | _ => exact h 0

/-! ## Expected types -/

/-- An expected type keeps to a policy, if there is one. -/
def Keeps (policy : NumberPolicy) (type : Option ValueType) : Prop :=
  ∀ expected, type = some expected → expected.KeepsTo policy

/-- A number of a type that keeps to the policy is represented by the policy. -/
theorem policyFor_of_keeps (h : Keeps policy type) :
    (⟨policy, zone⟩ : Conversion).policyFor type = policy := by
  unfold policyFor
  split
  · exact h _ rfl .decimal (.itself _)
  · exact h _ rfl .binary (.itself _)
  · rfl

/-- The types of fields keep to the policy of the record. -/
theorem keeps_fieldType? {fields : Option (List (String × ValueType))}
    (h : ∀ found, fields = some found → ∀ field ∈ found, field.2.KeepsTo policy) (name : String) :
    Keeps policy (fieldType? fields name) := by
  intro expected hexpected
  obtain ⟨found, hfound, hfind⟩ := Option.bind_eq_some_iff.1 hexpected
  exact h found hfound _ (Entries.mem_of_find? hfind)

/-- The fields of a record keep to its policy. -/
theorem Keeps.keepsTo_field (h : Keeps policy type) :
    ∀ fields, fields? type = some fields → ∀ field ∈ fields, field.2.KeepsTo policy := by
  intro fields hfields
  unfold fields? at hfields
  split at hfields
  · obtain rfl := Option.some.inj hfields
    exact ValueType.keepsTo_record_iff.1 (h _ rfl)
  · cases hfields

/-- The columns of a table keep to its policy. -/
theorem Keeps.keepsTo_column (h : Keeps policy type) :
    ∀ columns, columns? type = some columns → ∀ column ∈ columns, column.2.KeepsTo policy := by
  intro columns hcolumns
  unfold columns? at hcolumns
  split at hcolumns
  · obtain rfl := Option.some.inj hcolumns
    exact ValueType.keepsTo_table_iff.1 (h _ rfl)
  · cases hcolumns

/-- The types of items keep to the policy of the table. -/
theorem Keeps.itemType (h : Keeps policy type) (item : Json) :
    Keeps policy (itemType? (columns? type) item) := by
  unfold itemType?
  split
  · intro expected hexpected
    obtain ⟨columns, hcolumns, rfl⟩ := Option.map_eq_some_iff.1 hexpected
    exact ValueType.keepsTo_record_iff.2 (h.keepsTo_column columns hcolumns)
  · exact keeps_fieldType? h.keepsTo_column "Value"

/-! ## Values of JSON -/

/-- Only rows of a list are left out. -/
theorem capRows_of_ne_list (h : ∀ rows, value ≠ .list rows) (maxRows : Nat) :
    capRows maxRows value = value := by
  cases value with
  | list rows => exact absurd rfl (h rows)
  | _ => rfl

/-- A single number has no rows. -/
theorem numberAs_ne_list (n : JsonNumber) (rows : List Value) : numberAs policy n ≠ .list rows := by
  rcases numberAs_cases policy n with ⟨x, hx⟩ | ⟨d, hd⟩
  · simp [hx]
  · simp [hd]

/-- A value without parts has no rows. -/
theorem IsPlain.ne_list (h : IsPlain value) (rows : List Value) : value ≠ .list rows := by
  rintro rfl
  exact h

/-- Where a type is expected that keeps to the policy, the numbers of a value are those of the
JSON in the representation of the policy, however many rows are kept. -/
theorem numbered_capRows_ofJson (zone : Int) (htype : Keeps policy type) (maxRows : Nat) :
    Numbered policy json (capRows maxRows ((⟨policy, zone⟩ : Conversion).ofJson type json)) := by
  induction type, json using descentInduction generalizing maxRows with
  | null type =>
      rw [ofJson]
      exact IsPlain.numbered trivial
  | bool type b =>
      rw [ofJson]
      exact IsPlain.numbered trivial
  | num type n =>
      rw [ofJson, policyFor_of_keeps htype, capRows_of_ne_list (numberAs_ne_list n)]
      exact numbered_numberAs policy n
  | str type s =>
      rw [ofJson, capRows_of_ne_list (isPlain_ofText _ type s).ne_list]
      exact (isPlain_ofText _ type s).numbered
  | arr type items ih =>
      rw [ofJson_items, capRows]
      refine numbered_list fun index row hrow => ?_
      rw [List.getElem?_take, Option.ite_none_right_eq_some, List.getElem?_map] at hrow
      obtain ⟨item, hitem, rfl⟩ := Option.map_eq_some_iff.1 hrow.2
      refine ⟨item, _, hitem, rfl, .of_forall_capRows ?_⟩
      exact ih item (List.mem_of_getElem? hitem) (htype.itemType item)
  | rows columns members items hfind ih =>
      have hrows := ih htype maxRows
      rw [ofJson_items, capRows] at hrows
      rw [ofJson_wrapped hfind, ofJson_items, capRows]
      exact numbered_collection hfind hrows
  | record type members hrecord ih =>
      rw [ofJson_members hrecord, capRows_of_ne_list (by simp)]
      refine numbered_record (List.forall_mem_map.2 fun member hmember => ?_)
      refine ⟨member, hmember, rfl, .of_forall_capRows ?_⟩
      exact ih member hmember (keeps_fieldType? htype.keepsTo_field member.1)

/-! ## Literals and replies -/

/-- The numbers of a value that comes from JSON, if from any, are represented by a policy. -/
structure KeepsNumbers (policy : NumberPolicy) (source : Option Json) (value : Value) : Prop where
  /-- Under the binary policy there are no decimal numbers. -/
  binary : policy = .binary → ∀ d, ¬value.Contains (.dec d)
  /-- Under the decimal policy a binary number stands for a number without decimal form. -/
  decimal : policy = .decimal → ∀ x, value.Contains (.num x) →
    ∃ json n, source = some json ∧ Place json value (.num n) (.num x) ∧ n.LacksDecimal ∧
      x = n.toBinary64

/-- Under the binary policy no number is decimal. -/
theorem numberAs_binary_ne_dec (n : JsonNumber) (d : Decimal) : numberAs .binary n ≠ .dec d := by
  simp [numberAs]

/-- Under the decimal policy a number is binary only if it has no decimal form. -/
theorem lacksDecimal_of_numberAs {n : JsonNumber} {x : Binary64}
    (h : numberAs .decimal n = .num x) : n.LacksDecimal ∧ x = n.toBinary64 := by
  rw [numberAs] at h
  split at h
  next => cases h
  next hnone =>
    obtain ⟨htext, hbinary⟩ := Option.or_eq_none_iff.1 hnone
    exact ⟨⟨htext, hbinary⟩, (Value.num.inj h).symm⟩

/-- Where numbers stand at the places of those of the JSON, they are represented by the policy. -/
theorem Numbered.keepsNumbers (h : Numbered policy json value) :
    KeepsNumbers policy (some json) value where
  binary := by
    rintro rfl d hd
    obtain ⟨n, -, hn⟩ := h (.dec d) trivial hd
    exact numberAs_binary_ne_dec n d hn.symm
  decimal := by
    rintro rfl x hx
    obtain ⟨n, hplace, hn⟩ := h (.num x) trivial hx
    obtain ⟨hlacks, hsame⟩ := lacksDecimal_of_numberAs hn.symm
    exact ⟨json, n, rfl, hplace, hlacks, hsame⟩

/-- The numbers of a literal are represented by the policy. -/
theorem keepsNumbers_literal (policy : NumberPolicy) (json : Json) :
    KeepsNumbers policy (some json) (literal policy json) := by
  refine Numbered.keepsNumbers (.of_forall_capRows fun maxRows => ?_)
  exact numbered_capRows_ofJson 0 (by simp [Keeps]) maxRows

/-- A number beyond all decimal ones stays binary under the decimal policy. -/
example : (JsonNumber.binary (Binary64.ofInt (10 ^ 30))).LacksDecimal ∧
    literal .decimal (.num (.binary (Binary64.ofInt (10 ^ 30)))) =
      .num (Binary64.ofInt (10 ^ 30)) :=
  ⟨⟨rfl, rfl⟩, rfl⟩

/-- The numbers of a reply are represented by the policy, if the expected type keeps to it. -/
theorem keepsNumbers_ofReply (zone : Int) (htype : Keeps policy type) (maxRows : Nat)
    (body : List UInt8) :
    KeepsNumbers policy (Json.parse? (Text.utf8DecodeLenient body))
      ((⟨policy, zone⟩ : Conversion).ofReply type maxRows body) := by
  cases hjson : Json.parse? (Text.utf8DecodeLenient body) with
  | some json =>
      rw [ofReply_of_parse? hjson]
      exact (numbered_capRows_ofJson zone htype maxRows).keepsNumbers
  | none =>
      have hplain : IsPlain ((⟨policy, zone⟩ : Conversion).ofReply type maxRows body) := by
        simp only [ofReply, hjson]
        split <;> trivial
      exact ⟨fun _ _ => hplain.not_contains trivial,
        fun _ _ hx => absurd hx (hplain.not_contains trivial)⟩

end Conversion

end ApiBinding
