import ApiBinding.Error
import ApiBinding.Function.Request
import ApiBinding.Value.Conversion

/-!
# Exchanges

Requests are sent by invokers, which belong to the host; here an invoker is known by
its name, and a transport says how it replies.  A call may be cancelled by a token
that all steps of the call share: nothing is sent once the token has fired, and a
reply that is not ready when it fires is not waited for.  A reply that is ready at
once counts even if it was sent together with the cancellation.

The state of an exchange keeps the requests that were sent, in order.
-/

namespace ApiBinding

/-- A reply of an invoker. -/
structure Response where
  status : Nat
  body : List UInt8
deriving DecidableEq, Repr

namespace Response

/-- Whether a reply reports success. -/
def isSuccess (response : Response) : Bool :=
  200 ≤ response.status && response.status < 300

end Response

/-- A failure reported by an invoker. -/
inductive TransportFailure where
  /-- The invoker saw the cancellation and gave up. -/
  | gaveUp
  | failed (message : String)
deriving DecidableEq, Repr

namespace TransportFailure

/-- The failure in words. -/
def message : TransportFailure → String
  | gaveUp => "request cancelled"
  | failed message => message

end TransportFailure

/-- What becomes of a request. -/
inductive Outcome where
  | ready (response : Response)
  | failure (failure : TransportFailure)
  /-- There is no reply until the call is cancelled. -/
  | waits
deriving DecidableEq, Repr

/-- How invokers of a type reply: the outcome of a request, whether the invoker
cancels the call meanwhile, and the state of the invokers afterwards. -/
structure Transport (ι σ : Type) where
  perform : ι → Request → σ → Outcome × Bool × σ

/-- The state of an exchange. -/
structure ExchangeState (ι σ : Type) where
  /-- Whether the token has fired. -/
  cancelled : Bool
  /-- The requests sent, with their invokers. -/
  sent : List (ι × Request)
  /-- The state of the invokers. -/
  invokers : σ

/-- A step of an exchange, which may fail. -/
abbrev Exchange (ι σ α : Type) := ExceptT ConnectorError (StateM (ExchangeState ι σ)) α

namespace Exchange

variable {ι σ : Type}

/-- A step that only checks something. -/
def ofCall {α : Type} (result : Except CallFault α) : Exchange ι σ α :=
  match result with
  | .ok value => pure value
  | .error fault => throw (.call fault)

/-- How much of a failed reply is quoted. -/
def previewLength : Nat := 256

/-- The message for a reply that reports no success. -/
def failedReplyMessage (function : ConnectorFunction) (response : Response) : String :=
  function.qualifiedName ++ " returned " ++ toString response.status ++ ": " ++
    String.ofList ((Text.utf8DecodeLenient response.body).take previewLength)

/-- The result of an outcome.  Waiting ends with the cancellation. -/
def settle (function : ConnectorFunction) : Outcome → Except ConnectorError Response
  | .ready response =>
    if response.isSuccess then .ok response
    else .error (.transport (some response.status) (failedReplyMessage function response))
  | .failure .gaveUp => .error .cancelled
  | .failure (.failed message) => .error (.transport none message)
  | .waits => .error .cancelled

/-- Send a request, unless the call is cancelled. -/
def transmit (transport : Transport ι σ) (function : ConnectorFunction) (invoker : ι)
    (request : Request) : Exchange ι σ Response := do
  let state ← get
  if state.cancelled then throw .cancelled
  else
    let (outcome, cancels, invokers) := transport.perform invoker request state.invokers
    set ({
      cancelled := cancels || outcome == .waits
      sent := state.sent ++ [(invoker, request)]
      invokers } : ExchangeState ι σ)
    match settle function outcome with
    | .ok response => return response
    | .error error => throw error

/-- Call a function and give the reply as it is. -/
def send (transport : Transport ι σ) (function : ConnectorFunction) (context : Context ι)
    (arguments : List Value) : Exchange ι σ Response := do
  let request ← ofCall (function.buildRequest arguments)
  match context.invoker? function.settings.namespaceName with
  | none => throw (.call (.missingInvoker function.settings.namespaceName))
  | some invoker => transmit transport function invoker request

/-- How the replies of a function are converted in a context. -/
def conversion (function : ConnectorFunction) (context : Context ι) : Conversion :=
  ⟨function.settings.policy, context.timeZone⟩

/-- The value of a reply. -/
def replyValue (function : ConnectorFunction) (context : Context ι) (body : List UInt8) : Value :=
  (conversion function context).ofReply function.returnType.type? function.settings.maxRows body

/-- Call a function and give the value of its reply. -/
def invoke (transport : Transport ι σ) (function : ConnectorFunction) (context : Context ι)
    (arguments : List Value) : Exchange ι σ Value := do
  let response ← send transport function context arguments
  return replyValue function context response.body

end Exchange

end ApiBinding
