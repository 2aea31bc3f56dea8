import ApiBinding.Capability
import ApiBinding.Diagnostic.Message
import ApiBinding.Document.Fault
import ApiBinding.Function.Fault

/-!
# Errors

The errors of binding, resolving and calling.  An error keeps its cause, and its
message is made from the cause.
-/

namespace ApiBinding

/-- Why the shape of a result could not be found out. -/
inductive SchemaFault where
  | noItemFetch
  | ambiguousItemFetch (names : List String)
  | foreignOperation (function operation : String)
  | missingValue (function parameter operation : String)
  | missingPath (function path operation : String)
  | malformedSchema (function : String)
  | notJson (function : String)
  | cannotSample (function parameter : String)
  | notRecord (function : String) (type : ValueType)

/-- The part of a name that fetches a single item. -/
def itemFetchMark : String := "GetItem"

/-- The part of a name that fetches a collection. -/
def collectionFetchMark : String := "GetItems"

namespace SchemaFault

/-- The fault in words. -/
def message : SchemaFault → String
  | noItemFetch =>
    "no item-fetch operation: expected a name containing '" ++ itemFetchMark ++ "' but not '" ++
      collectionFetchMark ++ "'"
  | ambiguousItemFetch names =>
    Message.render Message.ambiguousItemFetch [String.intercalate ", " names]
  | foreignOperation function operation =>
    function ++ ": schema operation '" ++ operation ++ "' is not part of the connector"
  | missingValue function parameter operation =>
    function ++ ": no value for parameter '" ++ parameter ++ "' of schema operation '" ++
      operation ++ "'"
  | missingPath function path operation =>
    function ++ ": '" ++ path ++ "' not found in the response of '" ++ operation ++ "'"
  | malformedSchema function => function ++ ": malformed dynamic schema"
  | notJson function => function ++ ": response is not JSON"
  | cannotSample function parameter =>
    function ++ ": cannot sample without a value for required parameter '" ++ parameter ++ "'"
  | notRecord function type =>
    function ++ ": expected a record, resolved " ++ type.display

end SchemaFault

/-- The kinds of errors. -/
inductive ErrorKind where
  | invalidArgument
  | schemaResolution
  | kindMismatch
  | transport
  | cancelled
deriving DecidableEq, Repr

/-- An error with its cause. -/
inductive ConnectorError where
  | document (fault : DocumentFault)
  | call (fault : CallFault)
  | schema (fault : SchemaFault)
  | mismatch (mismatch : KindMismatch)
  | transport (status : Option Nat) (message : String)
  | cancelled

namespace ConnectorError

/-- The kind of an error: descriptions and calls that are refused are invalid
arguments. -/
def kind : ConnectorError → ErrorKind
  | document _ | call _ => .invalidArgument
  | schema _ => .schemaResolution
  | mismatch _ => .kindMismatch
  | transport _ _ => .transport
  | cancelled => .cancelled

/-- The error in words. -/
def message : ConnectorError → String
  | document fault => "invalid argument: " ++ fault.message
  | call fault => "invalid argument: " ++ fault.message
  | schema fault => "schema resolution failed: " ++ fault.message
  | mismatch kinds =>
    "capability type mismatch: expected " ++ kinds.expected.name ++ ", got " ++ kinds.actual.name
  | transport _ message => "transport failure: " ++ message
  | cancelled => "operation cancelled"

/-- The status of the reply behind an error, if there was one. -/
def status? : ConnectorError → Option Nat
  | transport status _ => status
  | _ => none

end ConnectorError

end ApiBinding
