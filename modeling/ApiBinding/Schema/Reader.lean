import ApiBinding.Schema.Basic

/-!
# Reading schemas

A schema is a record whose keywords are all optional.  The list of required names
is read leniently, since some descriptions write a truth value there; every other
keyword has to have its form.
-/

namespace ApiBinding

namespace TypeKeyword

/-- A name, or a list of names. -/
def ofJson? : Json → Option TypeKeyword
  | .str name => some (single name)
  | .arr items => (items.mapM Json.text?).map several
  | _ => none

end TypeKeyword

namespace DynamicArgument

/-- An object with a parameter's name, an object with a value, or any value. -/
def ofJson (json : Json) : DynamicArgument :=
  match (json.member? "parameter").bind Json.text? with
  | some parameter => reference parameter
  | none =>
    match json.member? "value" with
    | some value => literal value
    | none => bare json

end DynamicArgument

namespace DynamicShape

/-- The path in a record, under either of its two names but not both. -/
def valuePath? (fields : Fields) : Option (Option String) :=
  match Entries.find? "value-path" fields.entries, Entries.find? "itemValuePath" fields.entries with
  | some _, some _ => none
  | none, some _ => fields.optional? "itemValuePath" Json.text?
  | _, none => fields.optional? "value-path" Json.text?

/-- A shape that another operation describes. -/
def ofJson? (json : Json) : Option DynamicShape := do
  let fields ← Fields.ofJson? ["operationId", "parameters", "value-path"] json
  let operation ← fields.required? "operationId" Json.text?
  let arguments ← fields.defaulted? "parameters" []
    (Json.sorted? fun argument => some (DynamicArgument.ofJson argument))
  let valuePath ← valuePath? fields
  return ⟨operation, arguments, valuePath⟩

end DynamicShape

namespace Schema

/-- The keywords of a schema, in their declared order. -/
def keywords : List String :=
  ["$ref", "type", "format", "properties", "items", "required", "allOf", "default",
    "description", "x-ms-visibility", "x-ms-dynamic-schema", "x-ms-dynamic-properties"]

/-- The texts in a list, or no names if there is no list. -/
def lenientNames : Json → List String
  | .arr items => items.filterMap Json.text?
  | _ => []

/-- A schema of bounded height. -/
def readWithin : Nat → Json → Option Schema
  | 0, _ => none
  | height + 1, json => do
    let fields ← Fields.ofJson? keywords json
    let reference ← fields.optional? "$ref" Json.text?
    let typeKeyword ← fields.optional? "type" TypeKeyword.ofJson?
    let format ← fields.optional? "format" Json.text?
    let properties ← fields.defaulted? "properties" [] (Json.sorted? (readWithin height))
    let items ← fields.optional? "items" (readWithin height)
    let required ← fields.defaulted? "required" [] fun json => some (lenientNames json)
    let parts ← fields.defaulted? "allOf" [] (Json.list? (readWithin height))
    let default ← fields.optional? "default" some
    let description ← fields.optional? "description" Json.text?
    let visibility ← fields.optional? "x-ms-visibility" Json.text?
    let dynamicSchema ← fields.optional? "x-ms-dynamic-schema" DynamicShape.ofJson?
    let dynamicProperties ← fields.optional? "x-ms-dynamic-properties" DynamicShape.ofJson?
    return {
      reference, typeKeyword, format, properties, items, required, parts, default,
      description, visibility, dynamicSchema, dynamicProperties }

/-- The schema that a JSON value writes. -/
def ofJson? (json : Json) : Option Schema :=
  readWithin json.height json

end Schema

end ApiBinding
