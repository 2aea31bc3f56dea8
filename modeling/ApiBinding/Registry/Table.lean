import ApiBinding.Registry.Basic
import ApiBinding.Resolution

/-!
# Tables

A connector can be used as a table.  Its row type is the result type of the one
operation that fetches a single item, which is found by its name; it is asked for
once, when the table is bound.  The functions of the connector are registered first
and stay registered if no table comes of it.
-/

namespace ApiBinding

/-- A connector used as a table. -/
structure ConnectorTable where
  name : String
  columns : List (String × ValueType)
  functions : List ConnectorFunction
  itemFetch : ConnectorFunction

namespace ConnectorTable

/-- The namespace of the table's functions. -/
def namespaceName (table : ConnectorTable) : String :=
  table.itemFetch.settings.namespaceName

/-- The type of the table. -/
def type (table : ConnectorTable) : ValueType :=
  .table table.columns

/-- The function of an operation. -/
def function? (table : ConnectorTable) (name : String) : Option ConnectorFunction :=
  table.functions.find? fun function => function.name == name

/-- Fetch an item by its key. -/
def fetchItem {ι σ : Type} (table : ConnectorTable) (transport : Transport ι σ)
    (context : Context ι) (key : List Value) : Exchange ι σ Value :=
  Exchange.invoke transport table.itemFetch context key

end ConnectorTable

/-- Whether a text stands somewhere in another. -/
def occursIn (part : List Char) : List Char → Bool
  | [] => part.isEmpty
  | c :: rest => part.isPrefixOf (c :: rest) || occursIn part rest

/-- Whether a name is that of an operation that fetches a single item. -/
def isItemFetchName (name : String) : Bool :=
  occursIn itemFetchMark.toList name.toList && !occursIn collectionFetchMark.toList name.toList

/-- The only function that fetches a single item. -/
def selectItemFetch (functions : List ConnectorFunction) : Except SchemaFault ConnectorFunction :=
  match functions.filter fun function => isItemFetchName function.name with
  | [] => .error .noItemFetch
  | [single] => .ok single
  | many => .error (.ambiguousItemFetch (many.map ConnectorFunction.name))

namespace Registry

variable {ι σ : Type}

/-- Find out the row type of bound functions. -/
def resolveTable (transport : Transport ι σ) (invoker : ι) (name : String)
    (functions : List ConnectorFunction) : Exchange ι σ ConnectorTable := do
  let itemFetch ← Exchange.ofSchema (selectItemFetch functions)
  let type ← Exchange.resolveReturnType transport itemFetch functions (.temporary invoker)
  match type with
  | .record columns =>
    let settled := itemFetch.settle (.record columns)
    return {
      name
      columns
      functions := functions.map fun function =>
        if function.name = settled.name then settled else function
      itemFetch := settled }
  | other => throw (.schema (.notRecord itemFetch.qualifiedName other))

/-- Bind a description as a table.  The registry afterwards does not depend on the
success of the exchange alone: the functions stay registered if it fails. -/
def bindTable (registry : Registry) (transport : Transport ι σ) (settings : BindingSettings)
    (name : String) (document : Option Document) (globals : GlobalValues) (invoker : ι)
    (state : ExchangeState ι σ) :
    (Except ConnectorError ConnectorTable × ExchangeState ι σ) × Registry :=
  match registry.bind settings document globals with
  | .error fault => ((.error (.call fault), state), registry)
  | .ok (bound, functions) =>
    match (resolveTable transport invoker name functions).run state with
    | (.ok table, state) => ((.ok table, state), bound.insert (.connector table.itemFetch))
    | (.error error, state) => ((.error error, state), bound)

/-- The namespace for a table that is bound by its name alone. -/
def tableNamespace (name : String) : String :=
  "_tbl_" ++ name

end Registry

end ApiBinding
