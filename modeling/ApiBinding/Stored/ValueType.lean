import ApiBinding.Stored.Form
import ApiBinding.ValueType.Basic

/-!
# Stored types

The stored form of types: the name of the kind, and for records and tables their
fields.
-/

namespace ApiBinding.ValueType

mutual

/-- The stored form of a type. -/
def stored : ValueType → Json
  | blank => Stored.tag "Blank"
  | boolean => Stored.tag "Boolean"
  | number => Stored.tag "Number"
  | decimal => Stored.tag "Decimal"
  | text => Stored.tag "Text"
  | dateTime => Stored.tag "DateTime"
  | untyped => Stored.tag "Untyped"
  | record fields => Stored.tagWith "Record" (.obj [("fields", .obj (storedFields fields))])
  | table columns => Stored.tagWith "Table" (.obj [("fields", .obj (storedFields columns))])

/-- The stored forms of fields. -/
def storedFields : List (String × ValueType) → List (String × Json)
  | [] => []
  | (name, type) :: rest => (name, type.stored) :: storedFields rest

end

/-- The kinds of types without fields, by their names. -/
def plainKinds : List (String × ValueType) :=
  [("Blank", blank), ("Boolean", boolean), ("Number", number), ("Decimal", decimal),
    ("Text", text), ("DateTime", dateTime), ("Untyped", untyped)]

/-- A stored type of bounded height. -/
def readStored : Nat → Json → Option ValueType
  | 0, _ => none
  | height + 1, json => do
    let (tag, content) ← Stored.tagged? json
    let readFields := fun (content : Option Json) => do
      let fields ← content.bind (Stored.fields? ["fields"])
      fields.required? "fields" (Json.sorted? (readStored height))
    if tag = "Record" then (readFields content).map record
    else if tag = "Table" then (readFields content).map table
    else (plainKinds.lookup tag).bind fun kind => Stored.bare? kind content

/-- The type that a stored form is of. -/
def ofStored? (json : Json) : Option ValueType :=
  readStored json.height json

end ApiBinding.ValueType
