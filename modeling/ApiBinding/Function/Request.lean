import ApiBinding.Function.Basic
import ApiBinding.Function.Fault
import ApiBinding.Text.Parts
import ApiBinding.Uri.Path

/-!
# Requests

A call is checked against the signature, and then every slot contributes to the
request in turn: a value for a placeholder of the path, a pair of the query, a
header, the body or one property of it.  An input that is null contributes nothing,
except in the path, where it is refused.
-/

namespace ApiBinding

/-- A request, relative to the address of its connector. -/
structure Request where
  method : HttpMethod
  pathAndQuery : String
  headers : List (String × String)
  body : Option Json

/-- What an input contributes to a request. -/
inductive Contribution where
  | pathValue (name text : String)
  | queryPair (name text : String)
  | header (name text : String)
  | wholeBody (json : Json)
  | bodyProperty (name : String) (json : Json)
  | nothing

namespace Contribution

/-- A value for a placeholder. -/
def pathValue? : Contribution → Option (String × String)
  | pathValue name text => some (name, text)
  | _ => none

/-- A pair of the query. -/
def queryPair? : Contribution → Option (String × String)
  | queryPair name text => some (name, text)
  | _ => none

/-- A header. -/
def header? : Contribution → Option (String × String)
  | header name text => some (name, text)
  | _ => none

/-- The whole body. -/
def wholeBody? : Contribution → Option Json
  | wholeBody json => some json
  | _ => none

/-- A property of the body. -/
def bodyProperty? : Contribution → Option (String × Json)
  | bodyProperty name json => some (name, json)
  | _ => none

end Contribution

/-! ## Placeholders -/

/-- What stands for a placeholder: its value, or the placeholder itself. -/
def placeholderText (values : List (String × String)) (name : List Char) : List Char :=
  match Entries.find? (String.ofList name) values with
  | some text => text.toList
  | none => '\x7b' :: name ++ ['\x7d']

/-- A segment with its placeholders replaced.  Inside a placeholder the characters of
its name so far are held back, the last first. -/
def fillFrom (values : List (String × String)) : Option (List Char) → List Char → List Char
  | none, [] => []
  | some held, [] => '\x7b' :: held.reverse
  | none, c :: rest =>
    if c = '\x7b' then fillFrom values (some []) rest else c :: fillFrom values none rest
  | some held, c :: rest =>
    if c = '\x7d' then placeholderText values held.reverse ++ fillFrom values none rest
    else fillFrom values (some (c :: held)) rest

/-- A segment of a path template with its placeholders replaced. -/
def fillSegment (values : List (String × String)) (segment : List Char) : List Char :=
  fillFrom values none segment

/-- The path and query of a request. -/
def requestPath (basePath template : String) (values query : List (String × String)) : String :=
  let base := (Text.slashParts basePath.toList).foldl Uri.push []
  let segments := (Text.slashParts template.toList).map (fillSegment values)
  let path := Uri.pathText (segments.foldl Uri.push base)
  String.ofList (path ++ (if query.isEmpty then [] else '?' :: Text.formText query))

/-! ## Arguments -/

namespace ConnectorFunction

/-- Check one argument against its parameter. -/
def checkArgument (function : ConnectorFunction) (pair : FunctionParameter × Value) :
    Except CallFault Unit :=
  if pair.1.required && pair.2.isNull then
    .error (.blankArgument function.qualifiedName pair.1.name)
  else if !pair.1.type.accepts pair.2 then
    .error (.wrongType function.qualifiedName pair.1.name pair.1.type pair.2.kindName)
  else .ok ()

/-- Check the arguments of a call.  Optional ones at the end may be left out. -/
def checkArguments (function : ConnectorFunction) (arguments : List Value) :
    Except CallFault Unit :=
  let least := function.requiredCount
  let most := function.parameters.length
  if arguments.length < least || most < arguments.length then
    .error (.argumentCount function.qualifiedName least most arguments.length)
  else (function.parameters.zip arguments).forM function.checkArgument

/-! ## Building -/

/-- The value of a slot in a call; an argument that is left out is null. -/
def slotValue (arguments : List Value) : SlotSource → Value
  | .argument index => (arguments[index]?).getD .null
  | .global value | .default value => value

/-- The text of an input. -/
def inputText (function : ConnectorFunction) (name : String) (value : Value) :
    Except CallFault String :=
  match value.text? with
  | some text => .ok text
  | none => .error (.notText function.qualifiedName name value.kindName)

/-- What a slot contributes to the request of a call. -/
def contribution (function : ConnectorFunction) (arguments : List Value) (slot : Slot) :
    Except CallFault Contribution :=
  let value := slotValue arguments slot.source
  if value.isNull then
    match slot.placement with
    | .path => .error (.missingPathValue function.qualifiedName slot.name)
    | _ => .ok .nothing
  else
    match slot.placement with
    | .path => (function.inputText slot.name value).map (.pathValue slot.name)
    | .query => (function.inputText slot.name value).map (.queryPair slot.name)
    | .header => (function.inputText slot.name value).map (.header slot.name)
    | .body => .ok (.wholeBody value.toJson)
    | .bodyProperty => .ok (.bodyProperty slot.name value.toJson)

/-- Whether the body of a function's requests is made of properties. -/
def hasBodyProperties (function : ConnectorFunction) : Bool :=
  function.slots.any fun slot => slot.placement == .bodyProperty

/-- The body of a request: the whole one, or an object of the properties. -/
def requestBody (function : ConnectorFunction) (contributions : List Contribution) : Option Json :=
  match (contributions.filterMap Contribution.wholeBody?).getLast? with
  | some json => some json
  | none =>
    if function.hasBodyProperties then
      some (.obj (Entries.merge (contributions.filterMap Contribution.bodyProperty?)))
    else none

/-- The request of contributions. -/
def assemble (function : ConnectorFunction) (contributions : List Contribution) : Request :=
  { method := function.method
    pathAndQuery := requestPath function.basePath function.path
      (contributions.filterMap Contribution.pathValue?)
      (contributions.filterMap Contribution.queryPair?)
    headers := contributions.filterMap Contribution.header?
    body := function.requestBody contributions }

/-- The request of a call. -/
def buildRequest (function : ConnectorFunction) (arguments : List Value) :
    Except CallFault Request := do
  function.checkArguments arguments
  let contributions ← function.slots.mapM (function.contribution arguments)
  return function.assemble contributions

end ConnectorFunction

end ApiBinding
