import ApiBinding.Proofs.Exchange.Resolution
import ApiBinding.Proofs.Function.Inputs
import ApiBinding.Proofs.Value.Numbers

/-!
# One number policy for a function

The number policy that a function is bound with decides about all numbers of the function: in
the types of its parameters and of its result, in the types that are learned for it, in its
defaults and in the values of its replies.

Main results:

- Theorem `keepsTo_of_resolvesTo`: the result types that are found out.
- Theorem `repliesKeep_of_keeps`: the values of calls.
- Theorem `exists_default_of_slot`: what a slot has a default from.
- Theorem `keepsPolicy_describe`: a bound function has one number policy throughout.
-/

namespace ApiBinding

namespace Binder

variable {binder : Binder} {operation : Operation}

/-! ## Inputs -/

/-- The types of inputs keep to the policy of the binder. -/
theorem keepsTo_of_mem_declaredInputs {input : DeclaredInput}
    (h : input ∈ binder.declaredInputs operation) :
    input.parameter.type.KeepsTo binder.settings.policy := by
  have hschema : ∀ schema, (binder.typeOf schema).KeepsTo binder.settings.policy :=
    Schema.keepsTo_toType (some binder.document) binder.settings.policy
  rcases List.mem_append.1 h with hparameter | hbody
  · obtain ⟨parameter, -, rfl⟩ := List.mem_map.1 hparameter
    exact hschema parameter.schema
  · cases hsome : operation.body with
    | none =>
        rw [hsome] at hbody
        cases hbody
    | some body =>
        rw [hsome] at hbody
        change input ∈ binder.bodyInputs body at hbody
        unfold bodyInputs at hbody
        split at hbody
        · obtain ⟨property, -, rfl⟩ := List.mem_map.1 hbody
          exact hschema property.2
        · obtain rfl := List.mem_singleton.1 hbody
          exact hschema body.schema

/-- The types of parameters keep to the policy of the binder. -/
theorem keepsTo_of_mem_parameters {parameter : FunctionParameter}
    (h : parameter ∈ (binder.describe operation).parameters) :
    parameter.type.KeepsTo binder.settings.policy := by
  rw [parameters_describe] at h
  obtain ⟨input, hinput, rfl⟩ := List.mem_map.1 h
  exact keepsTo_of_mem_declaredInputs (List.mem_filter.1 (perm_signatureInputs.mem_iff.1 hinput)).1

/-- A preset value is the default of the input. -/
theorem exists_default_of_preset {input : DeclaredInput} {value : Value}
    (h : binder.supply input = .preset value) :
    ∃ json, input.default = some json ∧ binder.defaultValue json = value := by
  have hpreset : binder.presetValue? input = some value := by
    unfold supply at h
    split at h
    next => cases h
    next hpreset =>
      obtain rfl := Supply.preset.inj h
      exact hpreset
    next => split at h <;> cases h
  rw [presetValue?, Option.ite_none_right_eq_some] at hpreset
  exact Option.map_eq_some_iff.1 hpreset.2

/-- A default in a slot is that of the declared input of its name. -/
theorem exists_default_of_slot {slot : Slot} {value : Value}
    (hslot : slot ∈ (binder.describe operation).slots) (hsource : slot.source = .default value) :
    ∃ input ∈ binder.declaredInputs operation, input.parameter.name = slot.name ∧
      ∃ json, input.default = some json ∧ binder.defaultValue json = value := by
  rcases List.mem_append.1 hslot with hfilled | hargument
  · obtain ⟨route, hroute, hfound⟩ := List.mem_filterMap.1 hfilled
    rw [routes_eq] at hroute
    obtain ⟨input, hinput, rfl⟩ := List.mem_map.1 hroute
    refine ⟨input, hinput, ?_⟩
    cases hsupply : binder.supply input with
    | preset preset =>
        simp only [routeOf, hsupply, Route.slot?, Option.some.injEq] at hfound
        subst hfound
        obtain rfl := SlotSource.default.inj hsource
        exact ⟨rfl, exists_default_of_preset hsupply⟩
    | bound bound =>
        simp only [routeOf, hsupply, Route.slot?, Option.some.injEq] at hfound
        subst hfound
        cases hsource
    | withheld | caller =>
        simp only [routeOf, hsupply, Route.slot?] at hfound
        cases hfound
  · obtain ⟨index, _, hindex⟩ := List.mem_mapIdx.1 hargument
    rw [← hindex] at hsource
    cases hsource

end Binder

namespace Exchange

open Conversion (Keeps KeepsNumbers keepsNumbers_literal keepsNumbers_ofReply)

variable {ι σ : Type} {transport : Transport ι σ} {function : ConnectorFunction}
  {functions : List ConnectorFunction} {context : Context ι} {state after : ExchangeState ι σ}
  {policy : NumberPolicy} {type : ValueType}

/-! ## Result types -/

/-- Resolving the result type of a function can give a type: with some invokers, some functions
to ask, and some state of the exchange. -/
def ResolvesTo (function : ConnectorFunction) (type : ValueType) : Prop :=
  ∃ (ι σ : Type) (transport : Transport ι σ) (functions : List ConnectorFunction)
    (context : Context ι) (state after : ExchangeState ι σ),
    (resolveReturnType transport function functions context).run state = (.ok type, after)

/-- The type that a description gives keeps to the policy of the function. -/
theorem keepsTo_of_describedType {target : ConnectorFunction} {shape : DynamicShape} {body : Json}
    (h : describedType function target shape body = .ok type) :
    type.KeepsTo function.settings.policy := by
  have hschema : ∀ schema : Schema,
      Except.ok (schema.toType none function.settings.policy) =
        (Except.ok type : Except SchemaFault ValueType) →
          type.KeepsTo function.settings.policy := by
    intro schema htype
    obtain rfl := Except.ok.inj htype
    exact Schema.keepsTo_toType none function.settings.policy schema
  unfold describedType at h
  dsimp only at h
  split at h
  next =>
    obtain ⟨node, _, hnode⟩ := Traversal.bind_eq_ok_iff.1 h
    split at hnode
    next schema _ => exact hschema schema hnode
    next => cases hnode
  next =>
    split at h
    next =>
      obtain ⟨node, _, hnode⟩ := Traversal.bind_eq_ok_iff.1 h
      split at hnode
      next schema _ => exact hschema schema hnode
      next => cases hnode
    next => cases h

/-- The type that is learned from another operation keeps to the policy of the function. -/
theorem keepsTo_of_resolveDynamic {shape : DynamicShape}
    (h : (resolveDynamic transport function functions context shape).run state =
      (.ok type, after)) : type.KeepsTo function.settings.policy := by
  obtain ⟨target, _, hrest⟩ := (quiet_ofSchema _).exists_of_run_bind h
  obtain ⟨arguments, _, hrest⟩ := (quiet_ofSchema _).exists_of_run_bind hrest
  obtain ⟨body, between, _, hdescribed⟩ := exists_of_run_bind_eq_ok hrest
  exact keepsTo_of_describedType (eq_ok_of_run_ofSchema hdescribed)

/-- The type that is learned from a sample keeps to the policy of the function. -/
theorem keepsTo_of_resolveBySample
    (h : (resolveBySample transport function context).run state = (.ok type, after)) :
    type.KeepsTo function.settings.policy := by
  unfold resolveBySample at h
  split at h
  · cases h
  · obtain ⟨body, between, -, hinferred⟩ := exists_of_run_bind_eq_ok h
    obtain rfl : ValueType.infer function.settings.policy body = type :=
      Except.ok.inj (congrArg Prod.fst hinferred)
    exact ValueType.keepsTo_infer _ body

/-- The result type of a function keeps to its policy, whether it is known or learned. -/
theorem keepsTo_of_resolvesTo
    (hresult : Keeps function.settings.policy function.returnType.type?)
    (h : ResolvesTo function type) : type.KeepsTo function.settings.policy := by
  obtain ⟨ι, σ, transport, functions, context, state, after, h⟩ := h
  unfold resolveReturnType at h
  split at h
  next known hknown =>
    obtain rfl : known = type := Except.ok.inj (congrArg Prod.fst h)
    exact hresult known (by rw [hknown, ReturnType.type?])
  next => exact keepsTo_of_resolveDynamic h
  next => exact keepsTo_of_resolveBySample h

/-! ## Replies -/

/-- In the values of all calls of a function, the numbers of the replies are represented by a
policy. -/
def RepliesKeep (policy : NumberPolicy) (function : ConnectorFunction) : Prop :=
  ∀ (ι σ : Type) (transport : Transport ι σ) (context : Context ι) (arguments : List Value)
    (state after : ExchangeState ι σ) (value : Value),
    (invoke transport function context arguments).run state = (.ok value, after) →
      ∃ response, (send transport function context arguments).run state = (.ok response, after) ∧
        KeepsNumbers policy (Json.parse? (Text.utf8DecodeLenient response.body)) value

/-- Replies are converted under the policy of the function, if its result type keeps to it. -/
theorem repliesKeep_of_keeps (h : Keeps function.settings.policy function.returnType.type?) :
    RepliesKeep function.settings.policy function := by
  intro ι σ transport context arguments state after value hinvoke
  rw [run_invoke] at hinvoke
  obtain ⟨hvalue, hafter⟩ := Prod.mk.inj hinvoke
  cases hsend : ((send transport function context arguments).run state).1 with
  | error error =>
      rw [hsend] at hvalue
      cases hvalue
  | ok response =>
      rw [hsend] at hvalue
      obtain rfl := Except.ok.inj hvalue
      refine ⟨response, Prod.ext hsend hafter, ?_⟩
      exact keepsNumbers_ofReply context.timeZone h function.settings.maxRows response.body

/-! ## Bound functions -/

/-- What a bound function does with numbers. -/
structure KeepsPolicy (binder : Binder) (operation : Operation) : Prop where
  /-- The types of parameters keep to the policy. -/
  parameters : ∀ parameter ∈ (binder.describe operation).parameters,
    parameter.type.KeepsTo binder.settings.policy
  /-- So does a result type that is known. -/
  known : ∀ type, (binder.describe operation).returnType = .resolved type →
    type.KeepsTo binder.settings.policy
  /-- So does every result type that is found out. -/
  resolved : ∀ type, ResolvesTo (binder.describe operation) type →
    type.KeepsTo binder.settings.policy
  /-- The numbers of a default are represented by the policy. -/
  defaults : ∀ slot ∈ (binder.describe operation).slots, ∀ value, slot.source = .default value →
    ∃ input ∈ binder.declaredInputs operation, input.parameter.name = slot.name ∧
      ∃ json, input.default = some json ∧ KeepsNumbers binder.settings.policy (some json) value
  /-- So are those of replies. -/
  replies : RepliesKeep binder.settings.policy (binder.describe operation)
  /-- So are those of replies once a result type that was found out is settled. -/
  settled : ∀ type, ResolvesTo (binder.describe operation) type →
    RepliesKeep binder.settings.policy ((binder.describe operation).settle type)

/-- A known result type of a bound function keeps to the policy of the binder. -/
theorem keeps_returnType_describe (binder : Binder) (operation : Operation) :
    Keeps binder.settings.policy (binder.describe operation).returnType.type? := by
  intro type htype
  cases hreturn : (binder.describe operation).returnType with
  | pending pending =>
      rw [hreturn] at htype
      cases htype
  | resolved known =>
      rw [hreturn] at htype
      obtain rfl := Option.some.inj htype
      exact Schema.keepsTo_returnType _ _ _ hreturn

/-- A bound function has one number policy: in the types of its parameters and results, in its
defaults, and in the values of its replies. -/
theorem keepsPolicy_describe (binder : Binder) (operation : Operation) :
    KeepsPolicy binder operation where
  parameters _ := Binder.keepsTo_of_mem_parameters
  known type htype := by
    refine keeps_returnType_describe binder operation type ?_
    rw [htype, ReturnType.type?]
  resolved _ := keepsTo_of_resolvesTo (keeps_returnType_describe binder operation)
  defaults slot hslot value hsource := by
    obtain ⟨input, hinput, hname, json, hdefault, rfl⟩ :=
      Binder.exists_default_of_slot hslot hsource
    exact ⟨input, hinput, hname, json, hdefault, keepsNumbers_literal _ json⟩
  replies := repliesKeep_of_keeps (keeps_returnType_describe binder operation)
  settled type hresolves := by
    have hsettled : Keeps binder.settings.policy
        ((binder.describe operation).settle type).returnType.type? := by
      intro expected hexpected
      obtain rfl := Option.some.inj hexpected
      exact keepsTo_of_resolvesTo (keeps_returnType_describe binder operation) hresolves
    exact repliesKeep_of_keeps hsettled

end Exchange

end ApiBinding
