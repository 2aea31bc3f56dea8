import ApiBinding.Function.Basic
import ApiBinding.Value.Conversion

/-!
# Binding operations

Every input that an operation declares is routed: one whose name is among the global
values is filled from there, an internal one is sent with its default or dropped if
it may be, and any other becomes a parameter of the function.  Required parameters
come first, each group in the order of declaration.  A body whose schema has
properties is taken apart into them.
-/

namespace ApiBinding

/-- A declared input that callers see. -/
structure VisibleInput where
  parameter : FunctionParameter
  placement : Placement

/-- What becomes of a declared input. -/
inductive Route where
  /-- It is filled without the caller. -/
  | filled (slot : Slot)
  /-- It becomes a parameter. -/
  | visible (input : VisibleInput)
  /-- It is not sent. -/
  | dropped

namespace Route

/-- The slot of an input that is filled without the caller. -/
def slot? : Route → Option Slot
  | filled slot => some slot
  | _ => none

/-- The input that callers see. -/
def input? : Route → Option VisibleInput
  | visible input => some input
  | _ => none

end Route

namespace ParameterLocation

/-- Where a parameter of a location travels. -/
def placement : ParameterLocation → Placement
  | path => .path
  | query => .query
  | header => .header

end ParameterLocation

/-- What the inputs of an operation are routed by. -/
structure Binder where
  document : Document
  settings : BindingSettings
  globals : GlobalValues

namespace Binder

/-- The type of a schema of the description. -/
def typeOf (binder : Binder) (schema : Schema) : ValueType :=
  schema.toType (some binder.document) binder.settings.policy

/-- The value of a default. -/
def defaultValue (binder : Binder) (json : Json) : Value :=
  Conversion.literal binder.settings.policy json

/-- The route of a parameter. -/
def routeParameter (binder : Binder) (parameter : Parameter) : Route :=
  let placement := parameter.location.placement
  let visible := Route.visible
    { parameter :=
        { name := parameter.name
          type := binder.typeOf parameter.schema
          required := parameter.required
          description := parameter.description }
      placement }
  match Entries.find? parameter.name binder.globals with
  | some value => .filled ⟨parameter.name, placement, .global value⟩
  | none =>
    if parameter.isInternal then
      match parameter.default with
      | some json => .filled ⟨parameter.name, placement, .default (binder.defaultValue json)⟩
      | none => if parameter.required then visible else .dropped
    else visible

/-- The route of a property of a body. -/
def routeProperty (binder : Binder) (bodyRequired : Bool) (schema : Schema)
    (property : String × Schema) : Route :=
  let visible := Route.visible
    { parameter :=
        { name := property.1
          type := binder.typeOf property.2
          required := bodyRequired && schema.required.contains property.1
          description := property.2.description }
      placement := .bodyProperty }
  match Entries.find? property.1 binder.globals with
  | some value => .filled ⟨property.1, .bodyProperty, .global value⟩
  | none =>
    if property.2.isInternal then
      match property.2.default with
      | some json => .filled ⟨property.1, .bodyProperty, .default (binder.defaultValue json)⟩
      | none => visible
    else visible

/-- The routes of a body: one for each property of its schema, or a single one. -/
def routeBody (binder : Binder) (body : RequestBody) : List Route :=
  let schema := (body.schema.target? (some binder.document)).getD body.schema
  if schema.properties.isEmpty then
    [.visible
      { parameter :=
          { name := body.name
            type := binder.typeOf body.schema
            required := body.required
            description := schema.description }
        placement := .body }]
  else schema.properties.map (binder.routeProperty body.required schema)

/-- The routes of all inputs of an operation: its parameters, then its body. -/
def routes (binder : Binder) (operation : Operation) : List Route :=
  operation.parameters.map binder.routeParameter ++
    (operation.body.map binder.routeBody).getD []

/-- Required inputs first, each group in its order. -/
def arrange (inputs : List VisibleInput) : List VisibleInput :=
  inputs.filter (fun input => input.parameter.required) ++
    inputs.filter (fun input => !input.parameter.required)

/-- The slots of visible inputs, filled from the arguments in order. -/
def argumentSlots (inputs : List VisibleInput) : List Slot :=
  inputs.mapIdx fun index input => ⟨input.parameter.name, input.placement, .argument index⟩

/-- The function of an operation. -/
def describe (binder : Binder) (operation : Operation) : ConnectorFunction :=
  let routes := binder.routes operation
  let inputs := arrange (routes.filterMap Route.input?)
  { settings := binder.settings
    globals := binder.globals
    name := operation.name
    description := operation.summary.or operation.description
    deprecated := operation.deprecated
    parameters := inputs.map VisibleInput.parameter
    returnType := Schema.returnType (some binder.document) binder.settings.policy operation.response
    method := operation.method
    basePath := binder.document.basePath
    path := operation.path
    slots := routes.filterMap Route.slot? ++ argumentSlots inputs }

/-- The functions of all operations, in their order. -/
def functions (binder : Binder) : List ConnectorFunction :=
  binder.document.operations.map binder.describe

end Binder

end ApiBinding
