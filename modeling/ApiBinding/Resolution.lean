import ApiBinding.Exchange
import ApiBinding.Schema.Reader
import ApiBinding.Text.LetterCase
import ApiBinding.Text.Parts
import ApiBinding.ValueType.Inference

/-!
# Resolving result types

A result type that is pending is found out by asking the connector: through the
operation that describes it, whose reply holds a schema at the end of a path, or by
calling the operation itself and taking the reply for a sample.

A path follows the names of objects, and where a name is not found as it is written,
the case of its ASCII letters does not matter.
-/

namespace ApiBinding

namespace Json

/-- The member of a name: as it is written, else with the case disregarded. -/
def memberAnyCase? (json : Json) (name : String) : Option Json :=
  json.members?.bind fun members =>
    (Entries.find? name members).or
      ((members.find? fun member => Text.equalAnyCase member.1 name).map Prod.snd)

/-- The value at the end of a path of names between slashes. -/
def navigate? (json : Json) (path : String) : Option Json :=
  (Text.slashParts path.toList).foldlM
    (fun node name => node.memberAnyCase? (String.ofList name)) json

end Json

namespace Exchange

variable {ι σ : Type}

/-- Call a function and read its reply as JSON; a blank reply is null. -/
def fetchJson (transport : Transport ι σ) (function : ConnectorFunction) (context : Context ι)
    (arguments : List Value) : Exchange ι σ Json := do
  let response ← send transport function context arguments
  if response.body.all Text.isAsciiBlank then return .null
  else
    match (Text.utf8Decode? response.body).bind Json.parse? with
    | some json => return json
    | none => throw (.schema (.notJson function.qualifiedName))

/-- The value that a mapping gives to a parameter of the describing operation. -/
def mappedValue? (function : ConnectorFunction) (argument : Option DynamicArgument) :
    Option Value :=
  match argument with
  | some (.reference parameter) => Entries.find? parameter function.globals
  | some (.literal json) | some (.bare json) =>
    some (Conversion.literal function.settings.policy json)
  | none => none

/-- The argument for a parameter of the describing operation; only a required one
needs a value. -/
def mappedArgument (function target : ConnectorFunction) (shape : DynamicShape)
    (parameter : FunctionParameter) : Except SchemaFault Value :=
  match mappedValue? function (Entries.find? parameter.name shape.arguments) with
  | some value => .ok value
  | none =>
    if parameter.required then
      .error (.missingValue function.qualifiedName parameter.name target.name)
    else .ok .null

/-- A step that only finds out about a shape. -/
def ofSchema {α : Type} (result : Except SchemaFault α) : Exchange ι σ α :=
  match result with
  | .ok value => pure value
  | .error fault => throw (.schema fault)

/-- The operation that describes a shape. -/
def describingFunction (function : ConnectorFunction) (functions : List ConnectorFunction)
    (shape : DynamicShape) : Except SchemaFault ConnectorFunction :=
  match functions.find? fun candidate => candidate.name == shape.operation with
  | some target => .ok target
  | none => .error (.foreignOperation function.qualifiedName shape.operation)

/-- The type that a describing reply gives. -/
def describedType (function target : ConnectorFunction) (shape : DynamicShape) (body : Json) :
    Except SchemaFault ValueType := do
  let node ← match shape.valuePath with
    | none => .ok body
    | some path =>
      match body.navigate? path with
      | some node => .ok node
      | none => .error (.missingPath function.qualifiedName path target.name)
  match Schema.ofJson? node with
  | some schema => .ok (schema.toType none function.settings.policy)
  | none => .error (.malformedSchema function.qualifiedName)

/-- The type of a shape that another operation describes. -/
def resolveDynamic (transport : Transport ι σ) (function : ConnectorFunction)
    (functions : List ConnectorFunction) (context : Context ι) (shape : DynamicShape) :
    Exchange ι σ ValueType := do
  let target ← ofSchema (describingFunction function functions shape)
  let arguments ← ofSchema (target.parameters.mapM (mappedArgument function target shape))
  let body ← fetchJson transport target context arguments
  ofSchema (describedType function target shape body)

/-- The type of a sample: the reply of the function itself. -/
def resolveBySample (transport : Transport ι σ) (function : ConnectorFunction)
    (context : Context ι) : Exchange ι σ ValueType :=
  match function.parameters.find? FunctionParameter.required with
  | some parameter =>
    throw (.schema (.cannotSample function.qualifiedName parameter.name))
  | none => do
    let body ← fetchJson transport function context []
    return ValueType.infer function.settings.policy body

/-- The result type of a function.  What the description settles needs no request. -/
def resolveReturnType (transport : Transport ι σ) (function : ConnectorFunction)
    (functions : List ConnectorFunction) (context : Context ι) : Exchange ι σ ValueType :=
  match function.returnType with
  | .resolved type => pure type
  | .pending (.dynamic shape) => resolveDynamic transport function functions context shape
  | .pending .sample => resolveBySample transport function context

end Exchange

end ApiBinding
