import ApiBinding.Document.Basic
import ApiBinding.ValueType.Basic

/-!
# Types of schemas

A schema is converted to a type by its keywords; a reference to another schema is
converted by following it.  While a reference is being followed it is open, and an
open reference is not followed again, so that recursive schemas end in an untyped
part.  A schema composed of parts is a record of the fields of all parts that are
records, the later ones first in rank, and of its own fields.
-/

namespace ApiBinding

/-- How a result type that a description does not pin down is found out. -/
inductive PendingReturn where
  /-- Another operation describes it. -/
  | dynamic (shape : DynamicShape)
  /-- The operation itself is called, and its reply is the sample. -/
  | sample

/-- The result type of an operation. -/
inductive ReturnType where
  | resolved (type : ValueType)
  | pending (pending : PendingReturn)

namespace ReturnType

/-- The type, if it is known. -/
def type? : ReturnType → Option ValueType
  | resolved type => some type
  | pending _ => none

/-- Whether the type is still to be found out. -/
def isPending : ReturnType → Bool
  | resolved _ => false
  | pending _ => true

/-- The text of a result type: a question mark as long as it is pending. -/
def display : ReturnType → String
  | resolved type => type.display
  | pending _ => "?"

end ReturnType

namespace ValueType

/-- The columns of a table whose items have a type: the fields of a record, none if
the items are untyped, and otherwise a single column. -/
def rowColumns : ValueType → List (String × ValueType)
  | record fields => fields
  | untyped => []
  | single => [("Value", single)]

/-- Whether a type names enough to be used without a sample. -/
def isSpecified : ValueType → Bool
  | untyped => false
  | record fields => !fields.isEmpty
  | table columns => !columns.isEmpty
  | _ => true

end ValueType

namespace Schema

/-- Whether a text format stands for dates and times. -/
def isDateFormat (format : Option String) : Bool :=
  format == some "date-time" || format == some "date" || format == some "date-no-tz"

/-- The type that the keywords of a schema say, given the types of its properties and
of its items. -/
def keywordType (policy : NumberPolicy) (primary format : Option String)
    (properties : List (String × ValueType)) (items : Option ValueType) : ValueType :=
  if primary = some "boolean" then .boolean
  else if primary = some "integer" ∨ primary = some "number" then .ofPolicy policy
  else if primary = some "string" then (if isDateFormat format then .dateTime else .text)
  else if primary = some "null" then .blank
  else if primary = some "array" then .table ((items.map ValueType.rowColumns).getD [])
  else if primary = some "object" ∨ !properties.isEmpty then .record properties
  else .untyped

mutual

/-- The type of a schema, given the types of references. -/
def convert (policy : NumberPolicy) (follow : String → ValueType) : Schema → ValueType
  | ⟨some reference, _, _, _, _, _, _, _, _, _, _, _⟩ => follow reference
  | ⟨none, keyword, format, properties, items, _, parts, _, _, _, _, _⟩ =>
    let own := keywordType policy (keyword.bind TypeKeyword.primary?) format
      (convertProperties policy follow properties) (convertItems policy follow items)
    if parts.isEmpty then own
    else .record (Entries.ofList (convertParts policy follow parts ++ own.fields?.getD []))

/-- The types of properties. -/
def convertProperties (policy : NumberPolicy) (follow : String → ValueType) :
    List (String × Schema) → List (String × ValueType)
  | [] => []
  | (name, schema) :: rest =>
    (name, convert policy follow schema) :: convertProperties policy follow rest

/-- The type of items. -/
def convertItems (policy : NumberPolicy) (follow : String → ValueType) :
    Option Schema → Option ValueType
  | none => none
  | some schema => some (convert policy follow schema)

/-- The fields of all parts that are records, in order. -/
def convertParts (policy : NumberPolicy) (follow : String → ValueType) :
    List Schema → List (String × ValueType)
  | [] => []
  | schema :: rest =>
    (convert policy follow schema).fields?.getD [] ++ convertParts policy follow rest

end

/-- The type of a reference while others are open.  The first number bounds how many
can still be opened. -/
def followWithin (document : Document) (policy : NumberPolicy) :
    Nat → List String → String → ValueType
  | 0, _, _ => .untyped
  | fuel + 1, opened, reference =>
    if opened.contains reference then .untyped
    else
      match document.resolve? reference with
      | none => .untyped
      | some target => convert policy (followWithin document policy fuel (reference :: opened)) target

/-- How many references can be open at once: each schema has two spellings. -/
def referenceBound (document : Document) : Nat :=
  2 * document.schemas.length + 1

/-- The type of a reference; without a document no reference is known. -/
def referenceType (document : Option Document) (policy : NumberPolicy) (reference : String) :
    ValueType :=
  match document with
  | none => .untyped
  | some document => followWithin document policy (referenceBound document) [] reference

/-- The type of a schema. -/
def toType (document : Option Document) (policy : NumberPolicy) (schema : Schema) : ValueType :=
  convert policy (referenceType document policy) schema

/-- The schema itself, or the one it refers to. -/
def target? (document : Option Document) (schema : Schema) : Option Schema :=
  match schema.reference with
  | none => some schema
  | some reference => document.bind fun document => document.resolve? reference

/-- The shape that another operation describes, of a schema or of its items. -/
def shapeReference? (schema : Schema) : Option DynamicShape :=
  schema.dynamic?.or (schema.items.bind dynamic?)

/-- The result type of an operation with a response schema. -/
def returnType (document : Option Document) (policy : NumberPolicy) (response : Option Schema) :
    ReturnType :=
  match response with
  | none => .resolved .blank
  | some schema =>
    match ((target? document schema).getD schema).shapeReference? with
    | some shape => .pending (.dynamic shape)
    | none =>
      let type := schema.toType document policy
      if type.isSpecified then .resolved type else .pending .sample

end Schema

end ApiBinding
