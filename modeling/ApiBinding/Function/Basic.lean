import ApiBinding.Schema.Typing
import ApiBinding.Value.Basic

/-!
# Connector functions

A bound operation is a function: a signature that callers see, and the slots that
say what travels where in its request.  A slot is filled from an argument, from a
value given at binding time, or from a default of the description.
-/

namespace ApiBinding

/-- Settings of a binding: the choices made for all of its functions. -/
structure BindingSettings where
  namespaceName : String
  policy : NumberPolicy := .binary
  /-- How many rows of a result are kept. -/
  maxRows : Nat := 1000
deriving DecidableEq, Repr

/-- Values given at binding time, in the order of their names. -/
abbrev GlobalValues := List (String × Value)

/-- A parameter that callers pass. -/
structure FunctionParameter where
  name : String
  type : ValueType
  required : Bool
  description : Option String

/-- Where an input travels in a request. -/
inductive Placement where
  | path
  | query
  | header
  /-- The whole body. -/
  | body
  /-- One property of the body. -/
  | bodyProperty
deriving DecidableEq, Repr

/-- The name of a place. -/
def Placement.name : Placement → String
  | path => "Path"
  | query => "Query"
  | header => "Header"
  | body => "Body"
  | bodyProperty => "BodyProperty"

/-- What an input is filled from. -/
inductive SlotSource where
  /-- The argument at a position. -/
  | argument (index : Nat)
  /-- A value given at binding time. -/
  | global (value : Value)
  /-- The default of an internal input. -/
  | default (value : Value)

/-- An input of a request. -/
structure Slot where
  name : String
  placement : Placement
  source : SlotSource

/-- A bound operation. -/
structure ConnectorFunction where
  settings : BindingSettings
  globals : GlobalValues
  name : String
  description : Option String
  deprecated : Bool
  parameters : List FunctionParameter
  returnType : ReturnType
  method : HttpMethod
  basePath : String
  /-- The path after the base path, with placeholders in braces. -/
  path : String
  slots : List Slot

namespace FunctionParameter

/-- The text of a parameter in a signature; an optional one has a question mark. -/
def display (parameter : FunctionParameter) : String :=
  parameter.name ++ (if parameter.required then "" else "?") ++ ": " ++ parameter.type.display

/-- How many parameters are required. -/
def countRequired (parameters : List FunctionParameter) : Nat :=
  (parameters.filter FunctionParameter.required).length

end FunctionParameter

namespace ConnectorFunction

/-- The name under which a function is registered. -/
def qualifiedName (function : ConnectorFunction) : String :=
  function.settings.namespaceName ++ "." ++ function.name

/-- How many arguments a call needs at least. -/
def requiredCount (function : ConnectorFunction) : Nat :=
  FunctionParameter.countRequired function.parameters

/-- The function with its result type settled. -/
def settle (function : ConnectorFunction) (type : ValueType) : ConnectorFunction :=
  { function with returnType := .resolved type }

/-- The signature of a function. -/
def display (function : ConnectorFunction) : String :=
  function.qualifiedName ++ "(" ++
    String.intercalate ", " (function.parameters.map FunctionParameter.display) ++ ") -> " ++
    function.returnType.display

end ConnectorFunction

end ApiBinding
