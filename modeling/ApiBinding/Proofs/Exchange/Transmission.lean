import ApiBinding.Exchange
import ApiBinding.Proofs.Function.Call

/-!
# What an exchange sends

An exchange is run from a state to a result and a state.  Most of its steps only check
something and leave the state as it is.  A single step may send a request, and only while
the token has not fired, so the state after an exchange is the one before or the one that
a single request leads to.

Main results:

- Theorem `run_send`: the result and the state of every call.
- Theorems `Brief.after_quiet` and `Brief.before_quiet`: steps that send nothing may stand
  before and after the one that sends a request.
- Theorem `sends_send`: a call sends a request exactly when it should, and its result is
  that of the reply.
-/

namespace ApiBinding

variable {ι σ α β : Type}

/-- The state after a request was sent.  The token has fired if the invoker cancelled the
call, or if there was no reply before it fired. -/
def ExchangeState.transmitted (transport : Transport ι σ) (invoker : ι) (request : Request)
    (state : ExchangeState ι σ) : ExchangeState ι σ :=
  let (outcome, cancels, invokers) := transport.perform invoker request state.invokers
  { cancelled := cancels || outcome == .waits
    sent := state.sent ++ [(invoker, request)]
    invokers }

/-- Transmitting a request puts it behind those that were sent. -/
@[simp]
theorem ExchangeState.sent_transmitted (transport : Transport ι σ) (invoker : ι)
    (request : Request) (state : ExchangeState ι σ) :
    (state.transmitted transport invoker request).sent = state.sent ++ [(invoker, request)] :=
  rfl

namespace Exchange

variable {transport : Transport ι σ} {function : ConnectorFunction} {context : Context ι}
  {arguments : List Value} {state after : ExchangeState ι σ}

/-! ## Running -/

/-- A step after another one is run from the state that the first one leaves, unless that
one failed. -/
theorem run_bind (first : Exchange ι σ α) (next : α → Exchange ι σ β)
    (state : ExchangeState ι σ) :
    (first >>= next).run state =
      match first.run state with
      | (.ok value, after) => (next value).run after
      | (.error error, after) => (.error error, after) := by
  simp only [bind, ExceptT.bind, ExceptT.run, ExceptT.mk, StateT.bind, ExceptT.bindCont]
  rcases first state with ⟨result, after⟩
  cases result <;> rfl

/-- A value alone is given without a step. -/
@[simp]
theorem run_pure (value : α) (state : ExchangeState ι σ) :
    (pure value : Exchange ι σ α).run state = (.ok value, state) :=
  rfl

/-- Looking at the state gives it and leaves it. -/
@[simp]
theorem run_get (state : ExchangeState ι σ) :
    (get : Exchange ι σ (ExchangeState ι σ)).run state = (.ok state, state) :=
  rfl

/-- Setting the state leaves the new one. -/
@[simp]
theorem run_set (state after : ExchangeState ι σ) :
    (set after : Exchange ι σ PUnit).run state = (.ok ⟨⟩, after) :=
  rfl

/-- Two steps give a result only if the first one does. -/
theorem exists_of_run_bind_eq_ok {first : Exchange ι σ α} {next : α → Exchange ι σ β}
    {result : β} (h : (first >>= next).run state = (.ok result, after)) :
    ∃ value between, first.run state = (.ok value, between) ∧
      (next value).run between = (.ok result, after) := by
  rw [run_bind] at h
  rcases hfirst : first.run state with ⟨given, between⟩
  rw [hfirst] at h
  cases given with
  | error error => cases h
  | ok value => exact ⟨value, between, rfl, h⟩

/-- A check has its own result. -/
theorem run_ofCall (result : Except CallFault α) (state : ExchangeState ι σ) :
    (ofCall result : Exchange ι σ α).run state = (result.mapError .call, state) := by
  cases result <;> rfl

/-! ## Calls -/

/-- Nothing is transmitted once the token has fired, and otherwise the outcome settles the
result. -/
theorem run_transmit (transport : Transport ι σ) (function : ConnectorFunction) (invoker : ι)
    (request : Request) (state : ExchangeState ι σ) :
    (transmit transport function invoker request).run state =
      if state.cancelled then (.error .cancelled, state)
      else
        (settle function (transport.perform invoker request state.invokers).1,
          state.transmitted transport invoker request) := by
  simp only [transmit, run_bind, run_get]
  split
  · rfl
  · simp only [run_bind, run_set]
    cases settle function (transport.perform invoker request state.invokers).1 <;> rfl

/-- The result and the state of a call: the request, the invoker and the token are looked
at in this order before anything is sent. -/
theorem run_send (transport : Transport ι σ) (function : ConnectorFunction) (context : Context ι)
    (arguments : List Value) (state : ExchangeState ι σ) :
    (send transport function context arguments).run state =
      match function.buildRequest arguments, context.invoker? function.settings.namespaceName with
      | .error fault, _ => (.error (.call fault), state)
      | .ok _, none => (.error (.call (.missingInvoker function.settings.namespaceName)), state)
      | .ok request, some invoker =>
        if state.cancelled then (.error .cancelled, state)
        else
          (settle function (transport.perform invoker request state.invokers).1,
            state.transmitted transport invoker request) := by
  simp only [send, run_bind, run_ofCall]
  cases function.buildRequest arguments with
  | error fault => rfl
  | ok request =>
      simp only [Except.mapError]
      cases context.invoker? function.settings.namespaceName with
      | none => rfl
      | some invoker => exact run_transmit transport function invoker request state

/-- A call that gives a value converts the reply of its request, and it sends nothing else. -/
theorem run_invoke (transport : Transport ι σ) (function : ConnectorFunction)
    (context : Context ι) (arguments : List Value) (state : ExchangeState ι σ) :
    (invoke transport function context arguments).run state =
      (((send transport function context arguments).run state).1.map
          fun response => replyValue function context response.body,
        ((send transport function context arguments).run state).2) := by
  rw [invoke, run_bind]
  rcases (send transport function context arguments).run state with ⟨result, after⟩
  cases result <;> rfl

/-! ## At most one request -/

/-- An exchange that leaves every state as it is. -/
def Quiet (exchange : Exchange ι σ α) : Prop :=
  ∀ state, (exchange.run state).2 = state

/-- An exchange that leaves every state as it is, or sends one request while the token has
not fired. -/
def Brief (transport : Transport ι σ) (exchange : Exchange ι σ α) : Prop :=
  ∀ state, (exchange.run state).2 = state ∨
    state.cancelled = false ∧
      ∃ invoker request, (exchange.run state).2 = state.transmitted transport invoker request

/-- A value alone sends nothing. -/
theorem quiet_pure (value : α) : Quiet (pure value : Exchange ι σ α) :=
  fun _ => rfl

/-- A failure alone sends nothing. -/
theorem quiet_throw (error : ConnectorError) : Quiet (throw error : Exchange ι σ α) :=
  fun _ => rfl

/-- What sends nothing sends at most one request. -/
theorem Quiet.brief {exchange : Exchange ι σ α} (h : Quiet exchange) : Brief transport exchange :=
  fun state => Or.inl (h state)

/-- After a step that sends nothing the state is the one before it. -/
theorem snd_run_bind_of_quiet (first : Exchange ι σ α) {next : α → Exchange ι σ β}
    (hnext : ∀ value, Quiet (next value)) (state : ExchangeState ι σ) :
    ((first >>= next).run state).2 = (first.run state).2 := by
  rw [run_bind]
  rcases first.run state with ⟨result, after⟩
  cases result with
  | error error => rfl
  | ok value => exact hnext value after

/-- Steps that send nothing may stand before one that sends a request. -/
theorem Brief.after_quiet {first : Exchange ι σ α} {next : α → Exchange ι σ β}
    (hfirst : Quiet first) (hnext : ∀ value, Brief transport (next value)) :
    Brief transport (first >>= next) := by
  intro state
  have hstate := hfirst state
  rw [run_bind]
  rcases hrun : first.run state with ⟨result, after⟩
  rw [hrun] at hstate
  obtain rfl : after = state := hstate
  cases result with
  | error error => exact Or.inl rfl
  | ok value => exact hnext value after

/-- Steps that send nothing may stand after one that sends a request. -/
theorem Brief.before_quiet {first : Exchange ι σ α} {next : α → Exchange ι σ β}
    (hfirst : Brief transport first) (hnext : ∀ value, Quiet (next value)) :
    Brief transport (first >>= next) := by
  intro state
  rw [snd_run_bind_of_quiet first hnext]
  exact hfirst state

/-- After a step that sends nothing the next one is run from the same state. -/
theorem Quiet.exists_of_run_bind {first : Exchange ι σ α} {next : α → Exchange ι σ β}
    (hfirst : Quiet first) {result : β} (h : (first >>= next).run state = (.ok result, after)) :
    ∃ value, first.run state = (.ok value, state) ∧
      (next value).run state = (.ok result, after) := by
  obtain ⟨value, between, hvalue, hnext⟩ := exists_of_run_bind_eq_ok h
  have hstate := hfirst state
  rw [hvalue] at hstate
  obtain rfl : between = state := hstate
  exact ⟨value, hvalue, hnext⟩

/-- Before a step that sends nothing the state is the last one already. -/
theorem exists_of_run_bind_quiet {first : Exchange ι σ α} {next : α → Exchange ι σ β}
    (hnext : ∀ value, Quiet (next value)) {result : β}
    (h : (first >>= next).run state = (.ok result, after)) :
    ∃ value, first.run state = (.ok value, after) := by
  obtain ⟨value, between, hvalue, hresult⟩ := exists_of_run_bind_eq_ok h
  have hstate := hnext value between
  rw [hresult] at hstate
  obtain rfl : after = between := hstate
  exact ⟨value, hvalue⟩

/-- At most one request is added to those that were sent. -/
theorem Brief.sent_cases {exchange : Exchange ι σ α} (h : Brief transport exchange)
    (state : ExchangeState ι σ) :
    (exchange.run state).2.sent = state.sent ∨
      ∃ request, (exchange.run state).2.sent = state.sent ++ [request] := by
  rcases h state with hsame | ⟨_, invoker, request, hafter⟩
  · exact Or.inl (congrArg ExchangeState.sent hsame)
  · exact Or.inr ⟨(invoker, request), by rw [hafter, ExchangeState.sent_transmitted]⟩

/-- Once the token has fired the state stays as it is. -/
theorem Brief.eq_of_cancelled {exchange : Exchange ι σ α} (h : Brief transport exchange)
    (hfired : state.cancelled = true) : (exchange.run state).2 = state := by
  rcases h state with hsame | ⟨hopen, _⟩
  · exact hsame
  · rw [hfired] at hopen
    cases hopen

/-- A call sends at most one request. -/
theorem brief_send (transport : Transport ι σ) (function : ConnectorFunction)
    (context : Context ι) (arguments : List Value) :
    Brief transport (send transport function context arguments) := by
  intro state
  rw [run_send]
  cases function.buildRequest arguments with
  | error fault => exact Or.inl rfl
  | ok request =>
      cases context.invoker? function.settings.namespaceName with
      | none => exact Or.inl rfl
      | some invoker =>
          cases hfired : state.cancelled with
          | true => exact Or.inl rfl
          | false => exact Or.inr ⟨rfl, invoker, request, rfl⟩

/-! ## Results -/

/-- The result of a request that was sent: the reply if it is ready and reports success, its
status if it reports none, no status for a reported failure, and the cancellation if the
invoker gave up or there was no reply. -/
structure Answers (outcome : Outcome) (result : Except ConnectorError Response) : Prop where
  ok_iff : ∀ response, result = .ok response ↔
    outcome = .ready response ∧ 200 ≤ response.status ∧ response.status < 300
  refused_iff : ∀ status, (∃ message, result = .error (.transport (some status) message)) ↔
    ∃ response, outcome = .ready response ∧ response.status = status ∧
      ¬(200 ≤ status ∧ status < 300)
  failed_iff : ∀ message, result = .error (.transport none message) ↔
    outcome = .failure (.failed message)
  cancelled_iff : result = .error .cancelled ↔ outcome = .failure .gaveUp ∨ outcome = .waits

/-- A reply reports success by its status. -/
theorem isSuccess_iff {response : Response} :
    response.isSuccess = true ↔ 200 ≤ response.status ∧ response.status < 300 := by
  simp [Response.isSuccess]

/-- The outcome of a request settles its result. -/
theorem answers_settle (function : ConnectorFunction) (outcome : Outcome) :
    Answers outcome (settle function outcome) := by
  cases outcome with
  | ready response =>
      by_cases hsuccess : response.isSuccess = true
      · have hresult : settle function (.ready response) = .ok response := by
          simp [settle, hsuccess]
        rw [hresult]
        constructor <;> simp [isSuccess_iff.1 hsuccess]
      · have hstatus := mt isSuccess_iff.2 hsuccess
        have hresult : settle function (.ready response) =
            .error (.transport (some response.status) (failedReplyMessage function response)) := by
          simp [settle, hsuccess]
        rw [hresult]
        constructor <;> simp
        all_goals omega
  | failure failure => cases failure <;> constructor <;> simp [settle, eq_comm]
  | waits => constructor <;> simp [settle]

/-- What a call does that is run from a state.  Its faults are invalid arguments. -/
structure Sends (transport : Transport ι σ) (function : ConnectorFunction) (context : Context ι)
    (arguments : List Value) (state : ExchangeState ι σ)
    (run : Except ConnectorError Response × ExchangeState ι σ) : Prop where
  /-- At most one request is sent. -/
  sent_cases : run.2.sent = state.sent ∨ ∃ request, run.2.sent = state.sent ++ [request]
  /-- A request is sent exactly if it is that of the call, the context has an invoker for the
  namespace, and the token has not fired. -/
  sent_iff : ∀ invoker request, run.2.sent = state.sent ++ [(invoker, request)] ↔
    function.buildRequest arguments = .ok request ∧
      context.invoker? function.settings.namespaceName = some invoker ∧ state.cancelled = false
  /-- Without a request the call ends with the fault of its arguments. -/
  refused : ∀ fault, function.buildRequest arguments = .error fault → run.1 = .error (.call fault)
  /-- With a request and without an invoker it ends with the missing invoker. -/
  uninvoked : ∀ request, function.buildRequest arguments = .ok request →
    context.invoker? function.settings.namespaceName = none →
      run.1 = .error (.call (.missingInvoker function.settings.namespaceName))
  /-- With both it ends with the cancellation once the token has fired. -/
  fired : ∀ request invoker, function.buildRequest arguments = .ok request →
    context.invoker? function.settings.namespaceName = some invoker → state.cancelled = true →
      run.1 = .error .cancelled
  /-- After a request was sent its outcome gives the result. -/
  answered : ∀ invoker request, run.2.sent = state.sent ++ [(invoker, request)] →
    Answers (transport.perform invoker request state.invokers).1 run.1

/-- A call sends a request exactly when it should, and its result is that of the reply. -/
theorem sends_send (transport : Transport ι σ) (function : ConnectorFunction)
    (context : Context ι) (arguments : List Value) (state : ExchangeState ι σ) :
    Sends transport function context arguments state
      ((send transport function context arguments).run state) := by
  rw [run_send]
  cases hbuild : function.buildRequest arguments with
  | error fault => constructor <;> simp [hbuild]
  | ok request =>
      cases hinvoker : context.invoker? function.settings.namespaceName with
      | none => constructor <;> simp [hbuild, hinvoker]
      | some invoker =>
          cases hfired : state.cancelled with
          | true => constructor <;> simp [hbuild, hinvoker, hfired]
          | false =>
              constructor <;> simp [hbuild, hinvoker, hfired]
              · exact fun _ _ => and_comm
              · exact answers_settle function _

/-- A call that gives a reply has sent its request. -/
theorem exists_sent_of_send_eq_ok {response : Response}
    (h : (send transport function context arguments).run state = (.ok response, after)) :
    ∃ invoker request, after.sent = state.sent ++ [(invoker, request)] := by
  rw [run_send] at h
  split at h
  · cases h
  · cases h
  · split at h
    · cases h
    · rename_i request invoker _ _ _
      have hafter := congrArg Prod.snd h
      dsimp only at hafter
      exact ⟨invoker, request, by rw [← hafter, ExchangeState.sent_transmitted]⟩

end Exchange

end ApiBinding
