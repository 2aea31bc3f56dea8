import ApiBinding.Text.LetterCase

/-!
# Request methods

The methods an operation can have.  In a description they are keys of a path item,
in either case.
-/

namespace ApiBinding

/-- A method of a request. -/
inductive HttpMethod where
  | get
  | put
  | post
  | delete
  | options
  | head
  | patch
deriving DecidableEq, Repr, Inhabited

namespace HttpMethod

/-- All methods. -/
def all : List HttpMethod := [get, put, post, delete, options, head, patch]

/-- The key of a method in a path item. -/
def key : HttpMethod → String
  | get => "get"
  | put => "put"
  | post => "post"
  | delete => "delete"
  | options => "options"
  | head => "head"
  | patch => "patch"

/-- The method as a request line shows it. -/
def text : HttpMethod → String
  | get => "GET"
  | put => "PUT"
  | post => "POST"
  | delete => "DELETE"
  | options => "OPTIONS"
  | head => "HEAD"
  | patch => "PATCH"

/-- The method that a key names, in either case. -/
def ofKey? (key : String) : Option HttpMethod :=
  all.find? fun method => method.key == Text.lowerCase key

/-- A key names its method. -/
theorem ofKey?_key (method : HttpMethod) : ofKey? method.key = some method := by
  cases method <;> decide

end HttpMethod

end ApiBinding
