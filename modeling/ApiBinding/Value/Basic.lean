import ApiBinding.Json.Reader
import ApiBinding.Moment.Reader
import ApiBinding.Number.Decimal
import ApiBinding.Number.Layout
import ApiBinding.ValueType.Basic

/-!
# Values

The values that are passed to functions and come back from them.  A value has a text
if it is a single one, and always a JSON form.
-/

namespace ApiBinding

/-- A value.  Fields of a record stand in the order of their names. -/
inductive Value where
  | null
  | bool (b : Bool)
  | num (x : Binary64)
  | dec (d : Decimal)
  | str (s : String)
  | dateTime (moment : Moment)
  | record (fields : List (String × Value))
  | list (rows : List Value)

namespace Value

instance : Inhabited Value := ⟨null⟩

/-- The name of a value's kind, for messages. -/
def kindName : Value → String
  | null => "Blank"
  | bool _ => "Boolean"
  | num _ => "Number"
  | dec _ => "Decimal"
  | str _ => "Text"
  | dateTime _ => "DateTime"
  | record _ => "Record"
  | list _ => "Table"

/-- Whether a value is null. -/
def isNull : Value → Bool
  | null => true
  | _ => false

/-- The text of a text value. -/
def str? : Value → Option String
  | str s => some s
  | _ => none

/-- The text of a single value in an address or a header; records and tables have
none. -/
def text? : Value → Option String
  | null => some ""
  | bool b => some (if b then "true" else "false")
  | num x => some x.plainText
  | dec d => some d.normalize.text
  | str s => some s
  | dateTime moment => some moment.text
  | record _ | list _ => none

/-- A decimal number in JSON: the number its text is read as. -/
def decimalJson (d : Decimal) : Json :=
  (Json.parse? d.normalize.text.toList).getD (.str d.text)

mutual

/-- The JSON form of a value.  A number that is not finite is null. -/
def toJson : Value → Json
  | null => .null
  | bool b => .bool b
  | num x => (JsonNumber.ofBinary64? x).elim .null .num
  | dec d => decimalJson d
  | str s => .str s
  | dateTime moment => .str moment.text
  | record fields => .obj (fieldsToJson fields)
  | list rows => .arr (rowsToJson rows)

/-- The JSON forms of fields. -/
def fieldsToJson : List (String × Value) → List (String × Json)
  | [] => []
  | (name, value) :: rest => (name, value.toJson) :: fieldsToJson rest

/-- The JSON forms of rows. -/
def rowsToJson : List Value → List Json
  | [] => []
  | row :: rest => row.toJson :: rowsToJson rest

end

end Value

namespace ValueType

mutual

/-- Whether a value is acceptable where a type is expected.  Null always is, a text
may stand for a date and time, and fields that the type does not have do not
matter. -/
def accepts (type : ValueType) : Value → Bool
  | .null => true
  | .bool _ => match type with | untyped | boolean => true | _ => false
  | .num _ | .dec _ => match type with | untyped | number | decimal => true | _ => false
  | .str _ => match type with | untyped | text | dateTime => true | _ => false
  | .dateTime _ => match type with | untyped | dateTime => true | _ => false
  | .record fields =>
    match type with
    | untyped => true
    | record expected => acceptsValues expected fields
    | _ => false
  | .list rows =>
    match type with
    | untyped => true
    | table columns => acceptsRows columns rows
    | _ => false

/-- Whether every field is acceptable for the type of its name. -/
def acceptsValues (expected : List (String × ValueType)) : List (String × Value) → Bool
  | [] => true
  | (name, value) :: rest =>
    (match Entries.find? name expected with
      | none => true
      | some type => accepts type value) && acceptsValues expected rest

/-- Whether every row is null or a record that is acceptable for the columns. -/
def acceptsRows (columns : List (String × ValueType)) : List Value → Bool
  | [] => true
  | row :: rest => accepts (record columns) row && acceptsRows columns rest

end

end ValueType

end ApiBinding
