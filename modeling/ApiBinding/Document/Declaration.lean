import ApiBinding.Document.Basic
import ApiBinding.Schema.Reader

/-!
# Declarations of descriptions

A description as it is written, before the two versions of the format are brought
to one form.  Parts that are read only when they are needed stay JSON: path items,
operations, responses and media types.
-/

namespace ApiBinding

/-- A declared parameter, or a reference to a shared one.  Its schema stands under a
keyword of its own or is spread over the declaration. -/
structure ParameterDeclaration where
  reference : Option String
  name : Option String
  location : Option String
  required : Bool
  schema : Option Schema
  typeName : Option String
  format : Option String
  items : Option Schema
  default : Option Json
  description : Option String
  visibility : Option String

namespace ParameterDeclaration

/-- The keywords of a parameter, in their declared order. -/
def keywords : List String :=
  ["$ref", "name", "in", "required", "schema", "type", "format", "items", "default",
    "description", "x-ms-visibility"]

/-- A declared parameter. -/
def ofJson? (json : Json) : Option ParameterDeclaration := do
  let fields ← Fields.ofJson? keywords json
  let reference ← fields.optional? "$ref" Json.text?
  let name ← fields.optional? "name" Json.text?
  let location ← fields.optional? "in" Json.text?
  let required ← fields.defaulted? "required" false Json.bool?
  let schema ← fields.optional? "schema" Schema.ofJson?
  let typeName ← fields.optional? "type" Json.text?
  let format ← fields.optional? "format" Json.text?
  let items ← fields.optional? "items" Schema.ofJson?
  let default ← fields.optional? "default" some
  let description ← fields.optional? "description" Json.text?
  let visibility ← fields.optional? "x-ms-visibility" Json.text?
  return ⟨reference, name, location, required, schema, typeName, format, items, default,
    description, visibility⟩

/-- The schema of a parameter: its own, or the one spread over the declaration, which
is a text unless a type is given. -/
def fullSchema (declaration : ParameterDeclaration) : Schema :=
  declaration.schema.getD
    { Schema.ofType (declaration.typeName.getD "string") with
      format := declaration.format
      items := declaration.items }

/-- The parameter that is declared for a location.  One in the path is always
required. -/
def toParameter (declaration : ParameterDeclaration) (location : ParameterLocation) : Parameter :=
  let schema := declaration.fullSchema
  { name := declaration.name.getD ""
    location
    required := declaration.required || location == .path
    schema
    default := declaration.default.or schema.default
    isInternal := declaration.visibility == some "internal" || schema.isInternal
    description := declaration.description }

end ParameterDeclaration

/-- A declared request body. -/
structure BodyDeclaration where
  required : Bool
  content : List (String × Json)
  name : Option String

namespace BodyDeclaration

/-- A declared request body. -/
def ofJson? (json : Json) : Option BodyDeclaration := do
  let fields ← Fields.ofJson? ["required", "content", "x-bodyName"] json
  let required ← fields.defaulted? "required" false Json.bool?
  let content ← fields.defaulted? "content" [] Json.members?
  let name ← fields.optional? "x-bodyName" Json.text?
  return ⟨required, content, name⟩

end BodyDeclaration

/-- A declared operation. -/
structure OperationDeclaration where
  name : Option String
  summary : Option String
  description : Option String
  deprecated : Bool
  parameters : List ParameterDeclaration
  body : Option BodyDeclaration
  responses : List (String × Json)

namespace OperationDeclaration

/-- A declared operation. -/
def ofJson? (json : Json) : Option OperationDeclaration := do
  let fields ← Fields.ofJson?
    ["operationId", "summary", "description", "deprecated", "parameters", "requestBody",
      "responses"] json
  let name ← fields.optional? "operationId" Json.text?
  let summary ← fields.optional? "summary" Json.text?
  let description ← fields.optional? "description" Json.text?
  let deprecated ← fields.defaulted? "deprecated" false Json.bool?
  let parameters ← fields.defaulted? "parameters" [] (Json.list? ParameterDeclaration.ofJson?)
  let body ← fields.optional? "requestBody" BodyDeclaration.ofJson?
  let responses ← fields.defaulted? "responses" [] Json.members?
  return ⟨name, summary, description, deprecated, parameters, body, responses⟩

end OperationDeclaration

/-- A path item: parameters for all its operations, and the operations by method. -/
structure PathItem where
  parameters : List ParameterDeclaration
  methods : List (HttpMethod × Json)

namespace PathItem

/-- A path item is always an object; what stands beside the methods is left out. -/
def ofJson? (json : Json) : Option PathItem := do
  let members ← json.members?
  let parameters ← match Entries.find? "parameters" members with
    | none => some []
    | some value => Json.list? ParameterDeclaration.ofJson? value
  let methods := members.filterMap fun member =>
    (HttpMethod.ofKey? member.1).map fun method => (method, member.2)
  return ⟨parameters, methods⟩

end PathItem

/-- A description as it is written. -/
structure DocumentDeclaration where
  swagger : Option Json
  openApi : Option Json
  title : Option String
  basePath : Option String
  servers : List String
  paths : List (String × Json)
  schemas : List (String × Schema)
  parameters : List (String × ParameterDeclaration)

namespace DocumentDeclaration

/-- The title in the information about a description. -/
def infoTitle? (json : Json) : Option (Option String) := do
  let fields ← Fields.ofJson? ["title"] json
  fields.optional? "title" Json.text?

/-- The address of a server. -/
def serverAddress? (json : Json) : Option String := do
  let fields ← Fields.ofJson? ["url"] json
  fields.required? "url" Json.text?

/-- The shared schemas and parameters. -/
def components? (json : Json) :
    Option (List (String × Schema) × List (String × ParameterDeclaration)) := do
  let fields ← Fields.ofJson? ["schemas", "parameters"] json
  let schemas ← fields.defaulted? "schemas" [] (Json.sorted? Schema.ofJson?)
  let parameters ← fields.defaulted? "parameters" [] (Json.sorted? ParameterDeclaration.ofJson?)
  return (schemas, parameters)

/-- A description as it is written.  Shared declarations may stand in two places, and
the later place wins. -/
def ofJson? (json : Json) : Option DocumentDeclaration := do
  let fields ← Fields.ofJson?
    ["swagger", "openapi", "info", "basePath", "servers", "paths", "definitions", "parameters",
      "components"] json
  let swagger ← fields.optional? "swagger" some
  let openApi ← fields.optional? "openapi" some
  let title ← fields.optional? "info" infoTitle?
  let basePath ← fields.optional? "basePath" Json.text?
  let servers ← fields.defaulted? "servers" [] (Json.list? serverAddress?)
  let paths ← fields.defaulted? "paths" [] Json.members?
  let schemas ← fields.defaulted? "definitions" [] (Json.sorted? Schema.ofJson?)
  let parameters ← fields.defaulted? "parameters" [] (Json.sorted? ParameterDeclaration.ofJson?)
  let components ← fields.optional? "components" components?
  let (addedSchemas, addedParameters) := components.getD ([], [])
  return ⟨swagger, openApi, title.getD none, basePath, servers, paths,
    Entries.insertAll schemas addedSchemas, Entries.insertAll parameters addedParameters⟩

end DocumentDeclaration

end ApiBinding
