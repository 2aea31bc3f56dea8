import ApiBinding.Json.Basic

/-!
# Reading records

A record is written as an object with named fields, where unknown names are
ignored, or as an array that holds the fields in their declared order.  A field is
read as required, as optional or with a default.  Written as null, an optional
field is absent, while any other is read from the null.  In an array an optional
field must be there, and only those with a default may be missing.
-/

namespace ApiBinding

/-- The fields of a written record. -/
structure Fields where
  /-- The values found, under the names of their fields. -/
  entries : List (String × Json)
  /-- Whether the record is written as an array. -/
  positional : Bool

namespace Fields

/-- The fields of a record with the given names, in their declared order. -/
def ofJson? (declared : List String) : Json → Option Fields
  | .obj members => some ⟨members, false⟩
  | .arr items =>
    if items.length ≤ declared.length then some ⟨declared.zip items, true⟩ else none
  | _ => none

variable {α : Type}

/-- A field that must be there. -/
def required? (fields : Fields) (name : String) (read : Json → Option α) : Option α :=
  (Entries.find? name fields.entries).bind read

/-- A field that may be absent. -/
def optional? (fields : Fields) (name : String) (read : Json → Option α) : Option (Option α) :=
  match Entries.find? name fields.entries with
  | none => if fields.positional then none else some none
  | some .null => some none
  | some value => (read value).map some

/-- A field with a default. -/
def defaulted? (fields : Fields) (name : String) (default : α) (read : Json → Option α) :
    Option α :=
  match Entries.find? name fields.entries with
  | none => some default
  | some value => read value

end Fields

namespace Json

/-- The truth value of a boolean. -/
def bool? : Json → Option Bool
  | bool b => some b
  | _ => none

/-- The items of an array. -/
def items? : Json → Option (List Json)
  | arr items => some items
  | _ => none

/-- An array with every item read. -/
def list? {α : Type} (read : Json → Option α) (json : Json) : Option (List α) :=
  json.items?.bind fun items => items.mapM read

/-- An object with every value read, in the order of names. -/
def sorted? {α : Type} (read : Json → Option α) (json : Json) : Option (List (String × α)) := do
  let members ← json.members?
  let entries ← members.mapM fun member => (read member.2).map fun value => (member.1, value)
  return Entries.ofList entries

end Json

end ApiBinding
