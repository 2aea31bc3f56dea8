import ApiBinding.Proofs.Exchange.Transmission
import ApiBinding.Resolution

/-!
# What resolving a result type sends

A result type that is known is given without a request.  One that is pending is learned
from a single reply: that of the function itself, or of the operation that describes it.
All else that may go wrong is found out before or after that request.

Main results:

- Theorem `brief_resolveReturnType`: resolving sends at most one request.
- Theorem `exists_reply_of_resolveReturnType`: a pending type is learned from the reply of a
  call.
- Theorem `sends_invokes_resolves`: what calls and resolving send, and when they give a
  result.
-/

namespace ApiBinding.Exchange

variable {ι σ α : Type} {transport : Transport ι σ} {function : ConnectorFunction}
  {functions : List ConnectorFunction} {context : Context ι} {arguments : List Value}
  {state after : ExchangeState ι σ}

/-! ## At most one request -/

/-- What is found out about a shape sends nothing. -/
theorem quiet_ofSchema (result : Except SchemaFault α) :
    Quiet (ofSchema result : Exchange ι σ α) := by
  cases result with
  | error fault => exact quiet_throw _
  | ok value => exact quiet_pure value

/-- What is found out about a shape has its own result. -/
theorem run_ofSchema (result : Except SchemaFault α) (state : ExchangeState ι σ) :
    (ofSchema result : Exchange ι σ α).run state = (result.mapError .schema, state) := by
  cases result <;> rfl

/-- A shape of which something is found out has that. -/
theorem eq_ok_of_run_ofSchema {result : Except SchemaFault α} {value : α}
    (h : (ofSchema result : Exchange ι σ α).run state = (.ok value, after)) :
    result = .ok value := by
  cases result with
  | error fault => cases h
  | ok given => cases h; rfl

/-- Reading a reply sends nothing. -/
theorem quiet_readReply (function : ConnectorFunction) (response : Response) :
    Quiet (if response.body.all Text.isAsciiBlank then (return .null : Exchange ι σ Json)
      else
        match (Text.utf8Decode? response.body).bind Json.parse? with
        | some json => return json
        | none => throw (.schema (.notJson function.qualifiedName))) := by
  split
  · exact quiet_pure _
  · split
    · exact quiet_pure _
    · exact quiet_throw _

/-- Reading the reply of a call sends nothing beside the call. -/
theorem brief_fetchJson (transport : Transport ι σ) (function : ConnectorFunction)
    (context : Context ι) (arguments : List Value) :
    Brief transport (fetchJson transport function context arguments) :=
  (brief_send transport function context arguments).before_quiet (quiet_readReply function)

/-- Asking the operation that describes a shape sends at most one request. -/
theorem brief_resolveDynamic (transport : Transport ι σ) (function : ConnectorFunction)
    (functions : List ConnectorFunction) (context : Context ι) (shape : DynamicShape) :
    Brief transport (resolveDynamic transport function functions context shape) := by
  refine .after_quiet (quiet_ofSchema _) fun target => ?_
  refine .after_quiet (quiet_ofSchema _) fun arguments => ?_
  exact (brief_fetchJson transport target context arguments).before_quiet fun _ =>
    quiet_ofSchema _

/-- Sampling sends at most one request. -/
theorem brief_resolveBySample (transport : Transport ι σ) (function : ConnectorFunction)
    (context : Context ι) : Brief transport (resolveBySample transport function context) := by
  unfold resolveBySample
  cases function.parameters.find? FunctionParameter.required with
  | some parameter => exact (quiet_throw _).brief
  | none =>
      exact (brief_fetchJson transport function context []).before_quiet fun _ => quiet_pure _

/-- Resolving a result type sends at most one request. -/
theorem brief_resolveReturnType (transport : Transport ι σ) (function : ConnectorFunction)
    (functions : List ConnectorFunction) (context : Context ι) :
    Brief transport (resolveReturnType transport function functions context) := by
  unfold resolveReturnType
  cases function.returnType with
  | resolved type => exact (quiet_pure type).brief
  | pending pending =>
      cases pending with
      | dynamic shape => exact brief_resolveDynamic transport function functions context shape
      | sample => exact brief_resolveBySample transport function context

/-! ## Replies -/

/-- JSON is read from a reply that reports success. -/
theorem exists_reply_of_fetchJson {json : Json}
    (h : (fetchJson transport function context arguments).run state = (.ok json, after)) :
    ∃ response, (send transport function context arguments).run state = (.ok response, after) :=
  exists_of_run_bind_quiet (quiet_readReply function) h

/-- The function that describes a shape has the name that the shape gives. -/
theorem mem_of_describingFunction {shape : DynamicShape} {target : ConnectorFunction}
    (h : describingFunction function functions shape = .ok target) :
    target ∈ functions ∧ target.name = shape.operation := by
  unfold describingFunction at h
  split at h
  next found hfind =>
    obtain rfl := Except.ok.inj h
    exact ⟨List.mem_of_find?_eq_some hfind, by simpa using List.find?_some hfind⟩
  next => cases h

/-- A shape is learned from a reply of the operation that describes it. -/
theorem exists_reply_of_resolveDynamic {shape : DynamicShape} {type : ValueType}
    (h : (resolveDynamic transport function functions context shape).run state =
      (.ok type, after)) :
    ∃ target ∈ functions, target.name = shape.operation ∧ ∃ arguments response,
      (send transport target context arguments).run state = (.ok response, after) := by
  obtain ⟨target, hfound, hrest⟩ := (quiet_ofSchema _).exists_of_run_bind h
  obtain ⟨arguments, _, hrest⟩ := (quiet_ofSchema _).exists_of_run_bind hrest
  obtain ⟨json, hfetch⟩ := exists_of_run_bind_quiet (fun _ => quiet_ofSchema _) hrest
  obtain ⟨response, hsend⟩ := exists_reply_of_fetchJson hfetch
  obtain ⟨hmem, hname⟩ := mem_of_describingFunction (eq_ok_of_run_ofSchema hfound)
  exact ⟨target, hmem, hname, arguments, response, hsend⟩

/-- A sample is a reply of the function itself. -/
theorem exists_reply_of_resolveBySample {type : ValueType}
    (h : (resolveBySample transport function context).run state = (.ok type, after)) :
    ∃ response, (send transport function context []).run state = (.ok response, after) := by
  unfold resolveBySample at h
  cases hfind : function.parameters.find? FunctionParameter.required with
  | some parameter => rw [hfind] at h; cases h
  | none =>
      rw [hfind] at h
      obtain ⟨json, hfetch⟩ := exists_of_run_bind_quiet (fun _ => quiet_pure _) h
      exact exists_reply_of_fetchJson hfetch

/-- A pending type is learned from the reply of a call. -/
theorem exists_reply_of_resolveReturnType {type : ValueType}
    (hpending : function.returnType.isPending = true)
    (h : (resolveReturnType transport function functions context).run state = (.ok type, after)) :
    ∃ target ∈ function :: functions, ∃ arguments response,
      (send transport target context arguments).run state = (.ok response, after) := by
  unfold resolveReturnType at h
  cases hreturn : function.returnType with
  | resolved known => rw [hreturn] at hpending; cases hpending
  | pending pending =>
      rw [hreturn] at h
      cases pending with
      | dynamic shape =>
          obtain ⟨target, htarget, _, arguments, response, hsend⟩ :=
            exists_reply_of_resolveDynamic h
          exact ⟨target, List.mem_cons_of_mem _ htarget, arguments, response, hsend⟩
      | sample =>
          obtain ⟨response, hsend⟩ := exists_reply_of_resolveBySample h
          exact ⟨function, List.mem_cons_self, [], response, hsend⟩

/-- What resolving a result type does that is run from a state. -/
structure Resolves (transport : Transport ι σ) (function : ConnectorFunction)
    (functions : List ConnectorFunction) (context : Context ι) (state : ExchangeState ι σ)
    (run : Except ConnectorError ValueType × ExchangeState ι σ) : Prop where
  /-- A type that is known is given without a request. -/
  known : ∀ type, function.returnType = .resolved type → run = (.ok type, state)
  /-- At most one request is sent. -/
  sent_cases : run.2.sent = state.sent ∨ ∃ request, run.2.sent = state.sent ++ [request]
  /-- Nothing is sent once the token has fired. -/
  fired : state.cancelled = true → run.2 = state
  /-- A pending type is given only if a call has, with the one request that was sent. -/
  learned : function.returnType.isPending = true → ∀ type, run.1 = .ok type →
    ∃ target ∈ function :: functions, ∃ arguments invoker request response,
      run.2.sent = state.sent ++ [(invoker, request)] ∧
        (send transport target context arguments).run state = (.ok response, run.2)

/-- Resolving a result type sends a request only where it has to, and learns from it. -/
theorem resolves_resolveReturnType (transport : Transport ι σ) (function : ConnectorFunction)
    (functions : List ConnectorFunction) (context : Context ι) (state : ExchangeState ι σ) :
    Resolves transport function functions context state
      ((resolveReturnType transport function functions context).run state) := by
  have hbrief := brief_resolveReturnType transport function functions context
  refine ⟨?_, hbrief.sent_cases state, hbrief.eq_of_cancelled, ?_⟩
  · intro type htype
    rw [resolveReturnType, htype, run_pure]
  · intro hpending type htype
    obtain ⟨target, htarget, arguments, response, hsend⟩ :=
      exists_reply_of_resolveReturnType hpending (Prod.ext htype rfl)
    obtain ⟨invoker, request, hsent⟩ := exists_sent_of_send_eq_ok hsend
    exact ⟨target, htarget, arguments, invoker, request, response, hsent, hsend⟩

/-- A call sends a request exactly when it should and its result is that of the reply; its
value is that of a reply that reports success; and resolving a result type sends at most
one request, and none for a type that is known. -/
theorem sends_invokes_resolves (transport : Transport ι σ) (function : ConnectorFunction)
    (functions : List ConnectorFunction) (context : Context ι) (arguments : List Value)
    (state : ExchangeState ι σ) :
    Sends transport function context arguments state
        ((send transport function context arguments).run state) ∧
      (invoke transport function context arguments).run state =
        (((send transport function context arguments).run state).1.map
            fun response => replyValue function context response.body,
          ((send transport function context arguments).run state).2) ∧
      Resolves transport function functions context state
        ((resolveReturnType transport function functions context).run state) :=
  ⟨sends_send transport function context arguments state,
    run_invoke transport function context arguments state,
    resolves_resolveReturnType transport function functions context state⟩

end ApiBinding.Exchange
