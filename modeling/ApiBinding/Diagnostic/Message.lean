import ApiBinding.Text.Blank

/-!
# Messages

A message is a key with arguments.  The keys in use have a template with places for
the arguments; any other key is shown with its arguments in brackets.
-/

namespace ApiBinding

namespace Message

/-- The key for a wrong number of arguments. -/
def badArity : String := "ErrBadArity_Min_Max"

/-- The key for an argument of a wrong type. -/
def badType : String := "ErrBadType_ExpectedType_ProvidedType"

/-- The key for a function that is not known. -/
def unknownFunction : String := "ErrUnknownFunction_Name"

/-- The key for a result type that is still pending. -/
def pendingReturnType : String := "ErrPendingReturnType_Name"

/-- The key for several operations that fetch an item. -/
def ambiguousItemFetch : String := "ErrAmbiguousItemFetch_Names"

/-- The templates of the keys in use; a place for an argument is its number in
braces. -/
def templates : List (String × String) :=
  [(badArity, "Invalid number of arguments: received \x7b0\x7d, expected \x7b1\x7d to \x7b2\x7d."),
    (badType,
      "Invalid argument type. Expecting a \x7b0\x7d value, but received a \x7b1\x7d value."),
    (unknownFunction, "'\x7b0\x7d' is an unknown or unsupported function."),
    (pendingReturnType,
      "The result type of '\x7b0\x7d' is not known until the connector is queried."),
    (ambiguousItemFetch, "More than one item-fetch operation matched: \x7b0\x7d.")]

/-- The template of a key. -/
def template? (key : String) : Option String :=
  templates.lookup key

/-- A template with its places filled; a place beyond the arguments is left empty.
A place has one digit. -/
def fill (arguments : List String) : List Char → List Char
  | '\x7b' :: digit :: '\x7d' :: rest =>
    (arguments[digit.toNat - 0x30]?.getD "").toList ++ fill arguments rest
  | c :: rest => c :: fill arguments rest
  | [] => []

/-- The text of a message. -/
def render (key : String) (arguments : List String) : String :=
  match template? key with
  | some template => String.ofList (fill arguments template.toList)
  | none =>
    if arguments.isEmpty then key else key ++ " (" ++ String.intercalate ", " arguments ++ ")"

end Message

end ApiBinding
