import ApiBinding.Diagnostic.Message
import ApiBinding.Diagnostic.Span

/-!
# Diagnostics

A problem found in an expression: how severe it is, where it was found, and a message
that is made when it is shown.  The same diagnostic can be reported at another place,
and can be marked once with each sink it affects.
-/

namespace ApiBinding

/-- How severe a problem is. -/
inductive Severity where
  | error
  | warning
  | hint
deriving DecidableEq, Repr

/-- A problem found in an expression. -/
structure Diagnostic where
  severity : Severity
  key : String
  arguments : List String
  token : SourceToken
  /-- The text of the node, if the problem was found at one. -/
  node : Option String
  span : Span
  /-- The sinks that the problem affects. -/
  sinks : List String
deriving DecidableEq, Repr

/-- Why a sink cannot be marked. -/
inductive SinkFault where
  | unnamed
  | repeated (name : String)
deriving DecidableEq, Repr

namespace SinkFault

/-- The fault in words. -/
def message : SinkFault → String
  | unnamed => "sink type name must not be empty"
  | repeated name => "sink type '" ++ name ++ "' already recorded on this diagnostic"

end SinkFault

namespace Diagnostic

/-- A problem at a token. -/
def atToken (token : SourceToken) (severity : Severity) (key : String)
    (arguments : List String) : Diagnostic :=
  ⟨severity, key, arguments, token, none, token.span, []⟩

/-- A problem at a node. -/
def atNode (node : SyntaxNode) (severity : Severity) (key : String)
    (arguments : List String) : Diagnostic :=
  ⟨severity, key, arguments, node.token, some node.shown, node.span, []⟩

/-- The same problem at another place, not marked with any sink. -/
def moveTo (diagnostic : Diagnostic) (span : Span) : Diagnostic :=
  { diagnostic with token := { diagnostic.token with span }, span, sinks := [] }

/-- Mark a sink. -/
def markSink (diagnostic : Diagnostic) (name : String) : Except SinkFault Diagnostic :=
  if name = "" then .error .unnamed
  else if diagnostic.sinks.contains name then .error (.repeated name)
  else .ok { diagnostic with sinks := diagnostic.sinks ++ [name] }

/-- Whether the problem is an error. -/
def isError (diagnostic : Diagnostic) : Bool :=
  diagnostic.severity == .error

/-- The message without the place. -/
def message (diagnostic : Diagnostic) : String :=
  Message.render diagnostic.key diagnostic.arguments

/-- The text of a diagnostic: its place, what stands there, and the message. -/
def display (diagnostic : Diagnostic) : String :=
  diagnostic.token.span.display ++ " " ++ diagnostic.node.getD diagnostic.token.text ++ " : " ++
    diagnostic.message

/-- Whether there is an error among diagnostics. -/
def anyError (diagnostics : List Diagnostic) : Bool :=
  diagnostics.any isError

end Diagnostic

end ApiBinding
