import ApiBinding.Exchange
import ApiBinding.Function.Binding
import ApiBinding.Function.CallCheck

/-!
# Registries

A registry holds functions under their qualified names: those of connectors, and
others that the host brings along.  They are kept in the order in which their names
were first registered, with an index from names to positions; a function whose name
is taken replaces the earlier one in place.

Binding a description registers every operation of it as a function, in the order of
the description.  Without a description nothing is registered.
-/

namespace ApiBinding

/-- A function of the host. -/
structure HostFunction where
  qualifiedName : String
  parameters : List FunctionParameter
  returnType : ReturnType
  call : List Value → Except ConnectorError Value

/-- A function of a registry. -/
inductive RegisteredFunction where
  | connector (function : ConnectorFunction)
  | host (function : HostFunction)

namespace RegisteredFunction

/-- The signature of a function. -/
def signature : RegisteredFunction → Signature
  | connector function => function.signature
  | host function => ⟨function.qualifiedName, function.parameters, function.returnType⟩

/-- The name under which a function is registered. -/
def qualifiedName (function : RegisteredFunction) : String :=
  function.signature.qualifiedName

end RegisteredFunction

/-- A registry of functions. -/
structure Registry where
  functions : List RegisteredFunction := []
  /-- The position of each name. -/
  positions : List (String × Nat) := []

namespace Registry

/-- The registry without functions. -/
def empty : Registry := {}

/-- The function of a name. -/
def get? (registry : Registry) (name : String) : Option RegisteredFunction :=
  (Entries.find? name registry.positions).bind fun position => registry.functions[position]?

/-- Whether a name is taken. -/
def contains (registry : Registry) (name : String) : Bool :=
  (Entries.find? name registry.positions).isSome

/-- How many functions there are. -/
def size (registry : Registry) : Nat :=
  registry.functions.length

/-- The names of the functions, in order. -/
def names (registry : Registry) : List String :=
  registry.functions.map RegisteredFunction.qualifiedName

/-- Register a function; the answer holds the one it replaced. -/
def add (registry : Registry) (function : RegisteredFunction) :
    Registry × Option RegisteredFunction :=
  match Entries.find? function.qualifiedName registry.positions with
  | some position =>
    ({ registry with functions := registry.functions.set position function },
      registry.functions[position]?)
  | none =>
    ({ functions := registry.functions ++ [function]
       positions := registry.positions ++ [(function.qualifiedName, registry.functions.length)] },
      none)

/-- Register a function without asking for the one it replaced. -/
def insert (registry : Registry) (function : RegisteredFunction) : Registry :=
  (registry.add function).1

/-- Register functions one after the other. -/
def insertAll (registry : Registry) (functions : List RegisteredFunction) : Registry :=
  functions.foldl insert registry

/-- The text of a registry as it is shown for inspection. -/
def display (registry : Registry) : String :=
  "FunctionRegistry \x7b functions: " ++ Text.quotedList registry.names ++ " \x7d"

/-- The problems of a call of a named function. -/
def checkCall (registry : Registry) (name : String) (call : SyntaxNode)
    (arguments : List TypedArgument) : List Diagnostic :=
  match registry.get? name with
  | some function => function.signature.checkCall call arguments
  | none => [.atNode call .error Message.unknownFunction [name]]

/-- Call a named function over a provider. -/
def invoke {ι σ : Type} (registry : Registry) (transport : Transport ι σ) (name : String)
    (provider : Provider ι) (arguments : List Value) : Exchange ι σ Value :=
  match registry.get? name with
  | none => throw (.call (.unknownFunction name))
  | some (.connector function) =>
    Exchange.invoke transport function (Context.ofProvider provider) arguments
  | some (.host function) =>
    match function.call arguments with
    | .ok value => pure value
    | .error error => throw error

/-! ## Binding descriptions -/

/-- The global value that holds the connection of a platform connector. -/
def connectionName : String := "connectionId"

/-- Bind a description: the registry with its functions, and the functions. -/
def bind (registry : Registry) (settings : BindingSettings) (document : Option Document)
    (globals : GlobalValues) : Except CallFault (Registry × List ConnectorFunction) :=
  match document with
  | none => .error .missingDocument
  | some document =>
    let functions := (Binder.mk document settings globals).functions
    .ok (registry.insertAll (functions.map .connector), functions)

/-- Bind a description of a platform connector, whose connection is hidden from every
signature. -/
def bindPlatform (registry : Registry) (namespaceName : String) (document : Option Document)
    (connection : String) : Except CallFault (Registry × List ConnectorFunction) :=
  registry.bind { namespaceName } document [(connectionName, .str connection)]

end Registry

end ApiBinding
