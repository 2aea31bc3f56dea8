import ApiBinding.Text.Utf8
import ApiBinding.Value.Basic

/-!
# Values of JSON

JSON is converted to values by its shape, and by a type where one is known.  Texts
become moments where the type asks for dates and times, and numbers follow the type
or else the policy.  The rows of a table are records: what is neither an object nor
null becomes a record with a single field.  Where a table is expected, an object may
hold its rows under the name of a value.
-/

namespace ApiBinding

/-- How JSON is converted: the policy for numbers without a type, and the zone in
which moments are shown. -/
structure Conversion where
  policy : NumberPolicy
  zone : Int
deriving DecidableEq, Repr

namespace Conversion

/-- A number in a representation.  As a decimal number it is taken from its text, else
from its binary64 value; what has no decimal form stays binary. -/
def numberAs : NumberPolicy → JsonNumber → Value
  | .binary, n => .num n.toBinary64
  | .decimal, n =>
    match (Decimal.ofText? n.text).or (Decimal.ofBinary64? n.toBinary64) with
    | some d => .dec d
    | none => .num n.toBinary64

/-- The policy for a number of an expected type. -/
def policyFor (conversion : Conversion) : Option ValueType → NumberPolicy
  | some .decimal => .decimal
  | some .number => .binary
  | _ => conversion.policy

/-- A text where a type is expected. -/
def ofText (conversion : Conversion) (type : Option ValueType) (text : String) : Value :=
  match type with
  | some .dateTime => (Moment.ofText? conversion.zone text).elim (.str text) .dateTime
  | _ => .str text

/-- The columns of an expected table. -/
def columns? : Option ValueType → Option (List (String × ValueType))
  | some (.table columns) => some columns
  | _ => none

/-- The fields of an expected record. -/
def fields? : Option ValueType → Option (List (String × ValueType))
  | some (.record fields) => some fields
  | _ => none

/-- The type of a field, where fields are known. -/
def fieldType? (fields : Option (List (String × ValueType))) (name : String) : Option ValueType :=
  fields.bind (Entries.find? name)

mutual

/-- The value of JSON where a type may be expected. -/
def ofJson (conversion : Conversion) (type : Option ValueType) : Json → Value
  | .null => .null
  | .bool b => .bool b
  | .num n => numberAs (conversion.policyFor type) n
  | .str s => conversion.ofText type s
  | .arr items => .list (ofRows conversion (columns? type) items)
  | .obj members =>
    let wrapped := match columns? type with
      | some columns => ofWrappedRows conversion columns members
      | none => none
    match wrapped with
    | some rows => .list rows
    | none => .record (Entries.ofList (ofMembers conversion (fields? type) members))

/-- The rows of items. -/
def ofRows (conversion : Conversion) (columns : Option (List (String × ValueType))) :
    List Json → List Value
  | [] => []
  | item :: rest =>
    let row := match item with
      | .obj members => ofJson conversion (columns.map .record) (.obj members)
      | .null => .null
      | single =>
        .record [(("Value" : String), ofJson conversion (fieldType? columns "Value") single)]
    row :: ofRows conversion columns rest

/-- The rows under the name of a value, if an array stands there. -/
def ofWrappedRows (conversion : Conversion) (columns : List (String × ValueType)) :
    List (String × Json) → Option (List Value)
  | [] => none
  | (name, value) :: rest =>
    if name = "value" then
      match value with
      | .arr items => some (ofRows conversion (some columns) items)
      | _ => none
    else ofWrappedRows conversion columns rest

/-- The values of members, under their names. -/
def ofMembers (conversion : Conversion) (fields : Option (List (String × ValueType))) :
    List (String × Json) → List (String × Value)
  | [] => []
  | (name, value) :: rest =>
    (name, ofJson conversion (fieldType? fields name) value) :: ofMembers conversion fields rest

end

/-- The value of a JSON literal, whose moments, if any, are shown without offset. -/
def literal (policy : NumberPolicy) (json : Json) : Value :=
  ofJson ⟨policy, 0⟩ none json

/-- A value with the rows of a list beyond a number left out. -/
def capRows (maxRows : Nat) : Value → Value
  | .list rows => .list (rows.take maxRows)
  | value => value

/-- The value of a reply: null for a blank one, and its text if it is not JSON. -/
def ofReply (conversion : Conversion) (type : Option ValueType) (maxRows : Nat)
    (body : List UInt8) : Value :=
  let text := Text.utf8DecodeLenient body
  if text.all Text.isBlank then .null
  else
    match Json.parse? text with
    | none => .str (String.ofList text)
    | some json => capRows maxRows (ofJson conversion type json)

end Conversion

end ApiBinding
