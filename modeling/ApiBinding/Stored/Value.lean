import ApiBinding.Stored.Form
import ApiBinding.Value.Basic

/-!
# Stored values

The stored form of values: the name of the kind and the content.  Decimal numbers and
moments are stored as texts, and a number that is not finite as null.
-/

namespace ApiBinding.Value

mutual

/-- The stored form of a value. -/
def stored : Value → Json
  | null => Stored.tag "Null"
  | bool b => Stored.tagWith "Bool" (.bool b)
  | num x => Stored.tagWith "Num" ((JsonNumber.ofBinary64? x).elim .null .num)
  | dec d => Stored.tagWith "Dec" (.str d.text)
  | str s => Stored.tagWith "Str" (.str s)
  | dateTime moment => Stored.tagWith "DateTime" (.str moment.zuluText)
  | record fields => Stored.tagWith "Obj" (.obj (storedFields fields))
  | list rows => Stored.tagWith "List" (.arr (storedRows rows))

/-- The stored forms of fields. -/
def storedFields : List (String × Value) → List (String × Json)
  | [] => []
  | (name, value) :: rest => (name, value.stored) :: storedFields rest

/-- The stored forms of rows. -/
def storedRows : List Value → List Json
  | [] => []
  | row :: rest => row.stored :: storedRows rest

end

/-- A decimal number in a stored form: a text, or a number by its plain digits. -/
def storedDecimal? : Json → Option Decimal
  | .str text => Decimal.ofText? text
  | .num (.whole n) => Decimal.ofPlainText? (toString n).toList
  | .num (.binary x) => Decimal.ofPlainText? (NumberLayout.plain.write x).toList
  | _ => none

/-- A stored value of bounded height. -/
def readStored : Nat → Json → Option Value
  | 0, _ => none
  | height + 1, json => do
    let (tag, content) ← Stored.tagged? json
    if tag = "Null" then Stored.bare? null content
    else
      let content ← content
      if tag = "Bool" then content.bool?.map bool
      else if tag = "Num" then (Stored.number? content).map fun n => num n.toBinary64
      else if tag = "Dec" then (storedDecimal? content).map dec
      else if tag = "Str" then content.text?.map str
      else if tag = "DateTime" then (content.text?.bind Moment.ofRelaxed?).map dateTime
      else if tag = "Obj" then (Json.sorted? (readStored height) content).map record
      else if tag = "List" then (Json.list? (readStored height) content).map list
      else none

/-- The value that a stored form is of. -/
def ofStored? (json : Json) : Option Value :=
  readStored json.height json

end ApiBinding.Value
