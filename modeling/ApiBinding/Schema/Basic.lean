import ApiBinding.Json.Fields

/-!
# Schemas

A schema describes the shape of a value in an API description.  It may name
another schema, declare a type, list properties or items, be composed of parts, or
leave its shape to another operation that is asked for it later.
-/

namespace ApiBinding

/-- The type keyword: one name, or several of which `null` does not count. -/
inductive TypeKeyword where
  | single (name : String)
  | several (names : List String)
deriving DecidableEq, Repr

namespace TypeKeyword

/-- The declared type, if there is one. -/
def primary? : TypeKeyword → Option String
  | single name => some name
  | several names => names.find? fun name => name != "null"

end TypeKeyword

/-- How one parameter of an operation that describes a shape is filled. -/
inductive DynamicArgument where
  /-- With the value of the parameter of the given name. -/
  | reference (parameter : String)
  /-- With a value given under a key of its own. -/
  | literal (json : Json)
  /-- With the value itself. -/
  | bare (json : Json)

/-- A shape that another operation describes: which one, how its parameters are
filled, and where in its reply the schema stands. -/
structure DynamicShape where
  operation : String
  arguments : List (String × DynamicArgument)
  valuePath : Option String

/-- A schema.  Properties stand in the order of their names. -/
structure Schema where
  reference : Option String := none
  typeKeyword : Option TypeKeyword := none
  format : Option String := none
  properties : List (String × Schema) := []
  items : Option Schema := none
  required : List String := []
  parts : List Schema := []
  default : Option Json := none
  description : Option String := none
  visibility : Option String := none
  dynamicSchema : Option DynamicShape := none
  dynamicProperties : Option DynamicShape := none

namespace Schema

instance : Inhabited Schema := ⟨{}⟩

/-- A schema with a type and nothing else. -/
def ofType (name : String) : Schema :=
  { typeKeyword := some (.single name) }

/-- The declared type, if there is one. -/
def primaryType? (schema : Schema) : Option String :=
  schema.typeKeyword.bind TypeKeyword.primary?

/-- Whether a schema marks its value as hidden from callers. -/
def isInternal (schema : Schema) : Bool :=
  schema.visibility == some "internal"

/-- The shape that another operation describes, from either extension. -/
def dynamic? (schema : Schema) : Option DynamicShape :=
  schema.dynamicSchema.or schema.dynamicProperties

/-- Whether a schema describes an object: by its type, or by having properties. -/
def isObject (schema : Schema) : Bool :=
  schema.primaryType? == some "object" || !schema.properties.isEmpty

end Schema

end ApiBinding
