import ApiBinding.ValueType.Basic

/-!
# Faults of calls

Why a call is refused before anything is sent.
-/

namespace ApiBinding

/-- A reason to refuse a call. -/
inductive CallFault where
  | missingDocument
  | unknownFunction (name : String)
  | argumentCount (function : String) (least most given : Nat)
  | blankArgument (function parameter : String)
  | wrongType (function parameter : String) (expected : ValueType) (givenKind : String)
  | missingPathValue (function parameter : String)
  | notText (function parameter givenKind : String)
  | missingInvoker (namespaceName : String)

namespace CallFault

/-- The fault in words. -/
def message : CallFault → String
  | missingDocument => "API document is required"
  | unknownFunction name => "unknown function '" ++ name ++ "'"
  | argumentCount function least most given =>
    function ++ " expects " ++ toString least ++ " to " ++ toString most ++ " arguments, got " ++
      toString given
  | blankArgument function parameter =>
    function ++ ": required parameter '" ++ parameter ++ "' is blank"
  | wrongType function parameter expected givenKind =>
    function ++ ": parameter '" ++ parameter ++ "' expects " ++ expected.display ++ ", got " ++
      givenKind
  | missingPathValue function parameter =>
    function ++ ": no value for path parameter '" ++ parameter ++ "'"
  | notText function parameter givenKind =>
    function ++ ": parameter '" ++ parameter ++ "' cannot be sent as text (" ++ givenKind ++ ")"
  | missingInvoker namespaceName =>
    "no invoker registered for namespace '" ++ namespaceName ++ "'"

end CallFault

end ApiBinding
