import ApiBinding.Entries
import ApiBinding.Number.Layout

/-!
# JSON values

Values as they are read from documents and replies.  The members of an object
keep the order in which they were written, and names are not repeated: a later
member of the same name takes the place of the earlier one.
-/

namespace ApiBinding

/-- A number in JSON: whole if it fits 64 bits, signed or not, else of the binary64
format. -/
inductive JsonNumber where
  | whole (n : Int)
  | binary (x : Binary64)
deriving DecidableEq, Repr

namespace JsonNumber

/-- The number in the binary64 format. -/
def toBinary64 : JsonNumber → Binary64
  | whole n => Binary64.ofInt n
  | binary x => x

/-- The text of a number. -/
def text : JsonNumber → String
  | whole n => toString n
  | binary x => NumberLayout.json.write x

/-- The number that a binary64 value is written as; there is none for what is not finite. -/
def ofBinary64? (x : Binary64) : Option JsonNumber :=
  if x.isFinite then some (.binary x) else none

end JsonNumber

/-- A JSON value. -/
inductive Json where
  | null
  | bool (b : Bool)
  | num (n : JsonNumber)
  | str (s : String)
  | arr (items : List Json)
  | obj (members : List (String × Json))

namespace Json

instance : Inhabited Json := ⟨null⟩

/-! ## Views -/

/-- The members of an object. -/
def members? : Json → Option (List (String × Json))
  | obj members => some members
  | _ => none

/-- The text of a string. -/
def text? : Json → Option String
  | str s => some s
  | _ => none

/-- The value under a name of an object. -/
def member? (json : Json) (name : String) : Option Json :=
  json.members?.bind (Entries.find? name)

/-- Whether a value is null. -/
def isNull : Json → Bool
  | null => true
  | _ => false

mutual

/-- The value with the repeated names of every object merged. -/
def mergeRepeats : Json → Json
  | null => null
  | bool b => bool b
  | num n => num n
  | str s => str s
  | arr items => arr (mergeItems items)
  | obj members => obj (Entries.merge (mergeValues members))

/-- Every item with its repeated names merged. -/
def mergeItems : List Json → List Json
  | [] => []
  | item :: rest => item.mergeRepeats :: mergeItems rest

/-- Every value of a list of members with its repeated names merged. -/
def mergeValues : List (String × Json) → List (String × Json)
  | [] => []
  | (name, value) :: rest => (name, value.mergeRepeats) :: mergeValues rest

end

mutual

/-- How many arrays and objects stand inside each other, the innermost value counted. -/
def height : Json → Nat
  | arr items => itemsHeight items + 1
  | obj members => membersHeight members + 1
  | _ => 1

/-- The greatest height among items. -/
def itemsHeight : List Json → Nat
  | [] => 0
  | item :: rest => max item.height (itemsHeight rest)

/-- The greatest height among the values of members. -/
def membersHeight : List (String × Json) → Nat
  | [] => 0
  | (_, value) :: rest => max value.height (membersHeight rest)

end

end Json

end ApiBinding
