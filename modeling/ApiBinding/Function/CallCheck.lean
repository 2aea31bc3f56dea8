import ApiBinding.Diagnostic.Basic
import ApiBinding.Function.Basic

/-!
# Checking call sites

A call in an expression is checked against a signature before it is made: the number
of its arguments, and the type of each.  A result type that is pending is worth a
warning.
-/

namespace ApiBinding

/-- An argument of a call site, with the type it was given. -/
structure TypedArgument where
  node : SyntaxNode
  type : ValueType

/-- What a call site is checked against. -/
structure Signature where
  qualifiedName : String
  parameters : List FunctionParameter
  returnType : ReturnType

namespace ConnectorFunction

/-- The signature of a function. -/
def signature (function : ConnectorFunction) : Signature :=
  ⟨function.qualifiedName, function.parameters, function.returnType⟩

end ConnectorFunction

namespace Signature

/-- The problem with the number of arguments, if there is one. -/
def checkCount (signature : Signature) (call : SyntaxNode) (given : Nat) : List Diagnostic :=
  let least := FunctionParameter.countRequired signature.parameters
  let most := signature.parameters.length
  if given < least ∨ most < given then
    [.atNode call .error Message.badArity [toString given, toString least, toString most]]
  else []

/-- The problem with the type of an argument, if there is one. -/
def checkType (pair : FunctionParameter × TypedArgument) : Option Diagnostic :=
  if pair.1.type.acceptsType pair.2.type then none
  else
    some (.atNode pair.2.node .error Message.badType [pair.1.type.display, pair.2.type.display])

/-- The problems of a call. -/
def checkCall (signature : Signature) (call : SyntaxNode) (arguments : List TypedArgument) :
    List Diagnostic :=
  signature.checkCount call arguments.length ++
    (signature.parameters.zip arguments).filterMap checkType ++
    (if signature.returnType.isPending then
      [.atNode call .warning Message.pendingReturnType [signature.qualifiedName]]
    else [])

end Signature

end ApiBinding
