import ApiBinding.Json.Fields

/-!
# Stored forms

The JSON forms in which values, types and places are stored and read back.  A value
of several kinds is stored as a tag and a content, and a word of a fixed choice as
its name.  What is read may give the parts of a record in any order or as an array,
and may have other names beside them, but no part twice.
-/

namespace ApiBinding.Stored

/-- How often a name occurs among members. -/
def occurrences (name : String) (members : List (String × Json)) : Nat :=
  (members.filter fun member => member.1 == name).length

/-- The fields of a stored record, none of them given twice. -/
def fields? (declared : List String) (json : Json) : Option Fields := do
  let fields ← Fields.ofJson? declared json
  if declared.all fun name => occurrences name fields.entries ≤ 1 then some fields else none

/-- A word of a fixed choice: its name, or an object of the name alone with null. -/
def word? : Json → Option String
  | .str name => some name
  | .obj [(name, .null)] => some name
  | _ => none

/-- The tag and the content of a stored value; the content may be missing. -/
def tagged? (json : Json) : Option (String × Option Json) := do
  let fields ← fields? ["t", "v"] json
  let tag ← fields.required? "t" word?
  let content := Entries.find? "v" fields.entries
  if fields.positional && content.isNone then none else some (tag, content)

/-- The stored form of a kind without content. -/
def tag (name : String) : Json :=
  .obj [("t", .str name)]

/-- The stored form of a kind with content. -/
def tagWith (name : String) (content : Json) : Json :=
  .obj [("t", .str name), ("v", content)]

/-- A kind without content, where none or null is given. -/
def bare? {α : Type} (value : α) : Option Json → Option α
  | none | some .null => some value
  | _ => none

/-- A natural number of at most 64 bits. -/
def natural? : Json → Option Nat
  | .num (.whole n) => if 0 ≤ n then some n.toNat else none
  | _ => none

/-- A number. -/
def number? : Json → Option JsonNumber
  | .num n => some n
  | _ => none

end ApiBinding.Stored
