import ApiBinding.HttpMethod
import ApiBinding.Schema.Basic

/-!
# API descriptions

A description names a base path, schemas, and operations in their written order.
The differences between the versions of the format are gone: a body is a body,
however it was declared, and a parameter always has a schema.
-/

namespace ApiBinding

/-- The version of the format a description is written in. -/
inductive DescriptionVersion where
  | swagger2
  | openApi3
deriving DecidableEq, Repr, Inhabited

/-- Where a parameter travels in a request. -/
inductive ParameterLocation where
  | path
  | query
  | header
deriving DecidableEq, Repr, Inhabited

namespace ParameterLocation

/-- The location that a word names. -/
def ofText? (word : String) : Option ParameterLocation :=
  if word = "path" then some path
  else if word = "query" then some query
  else if word = "header" then some header
  else none

end ParameterLocation

/-- A parameter of an operation. -/
structure Parameter where
  name : String
  location : ParameterLocation
  required : Bool
  schema : Schema
  default : Option Json
  /-- Hidden from callers, and sent with its default. -/
  isInternal : Bool
  description : Option String

/-- The body of a request. -/
structure RequestBody where
  /-- The name the body has as a single input. -/
  name : String
  required : Bool
  schema : Schema

/-- An operation: one method of one path. -/
structure Operation where
  name : String
  method : HttpMethod
  path : String
  summary : Option String
  description : Option String
  deprecated : Bool
  parameters : List Parameter
  body : Option RequestBody
  /-- The schema of the reply; none if it has no body. -/
  response : Option Schema

/-- An API description. -/
structure Document where
  version : DescriptionVersion
  title : Option String
  /-- The path before every operation's path, without a slash at its end. -/
  basePath : String
  schemas : List (String × Schema)
  operations : List Operation

/-- The text after a given beginning. -/
def stripStart? (start text : List Char) : Option (List Char) :=
  if start.isPrefixOf text then some (text.drop start.length) else none

namespace Document

/-- The operation of a name. -/
def operation? (document : Document) (name : String) : Option Operation :=
  document.operations.find? fun operation => operation.name == name

/-- The schema name in a reference, in either of its two spellings. -/
def schemaName? (reference : String) : Option String :=
  let cs := reference.toList
  ((stripStart? "#/definitions/".toList cs).or
    (stripStart? "#/components/schemas/".toList cs)).map String.ofList

/-- The schema that a reference names. -/
def resolve? (document : Document) (reference : String) : Option Schema :=
  (schemaName? reference).bind fun name => Entries.find? name document.schemas

end Document

end ApiBinding
