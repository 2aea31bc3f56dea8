import ApiBinding.Proofs.Function.Inputs
import ApiBinding.Proofs.Schema.ReferenceStack

/-!
# Typing the inputs of an operation

Binding an operation types the schemas of the inputs that callers see and then the one of
the reply, all on one stack of open references.  Since every schema leaves the stack as it
found it, each type is the one that the schema has by itself, and these are the types of
the bound function.

Main results:

- Theorem `map_typeOf_typedInputs`: the schemas of visible inputs have the types that
  callers see.
- Theorem `typedInTurn`: the types of a bound function are those of a single run.
- Theorem `leavesNoTrace_typedInTurn`: typing schemas in turn comes to an end, and no schema
  makes a difference to the next one.
-/

namespace ApiBinding

namespace Schema

/-- Typing schemas in turn comes to an end, whichever references are open and wherever they
lead, and no schema makes a difference to the next one. -/
structure LeavesNoTrace (document : Option Document) (policy : NumberPolicy) : Prop where
  ends : ∀ opened schemas, ∃ types left, TypesInTurn document policy opened schemas types left
  restores : ∀ opened schemas types left,
    TypesInTurn document policy opened schemas types left → left = opened
  /-- Every schema has the one type that it gets where it is typed alone. -/
  alone : ∀ opened schemas types left, TypesInTurn document policy opened schemas types left →
    List.Forall₂ (fun schema type => ∀ other after,
      TypesInTurn document policy opened [schema] [other] after ↔ other = type ∧ after = opened)
      schemas types
  /-- Where no reference is open at first it is the type of the schema. -/
  fresh : ∀ schemas types left, TypesInTurn document policy [] schemas types left →
    types = schemas.map (toType document policy)

/-- Whatever the references of a description lead to, typing leaves no trace. -/
theorem leavesNoTrace (document : Option Document) (policy : NumberPolicy) :
    LeavesNoTrace document policy where
  ends opened schemas := exists_typesInTurn document policy opened schemas
  restores _ _ _ _ h := h.left_eq
  alone opened schemas types left h := by
    obtain ⟨rfl, _⟩ := typesInTurn_iff.1 h
    rw [List.forall₂_map_right_iff, List.forall₂_same]
    intro schema _ other after
    rw [typesInTurn_iff, List.map_singleton, List.singleton_inj]
  fresh schemas types left h := by
    obtain ⟨rfl, _⟩ := typesInTurn_iff.1 h
    exact List.map_congr_left fun schema _ => typeBeside_nil schema

end Schema

namespace Binder

variable {binder : Binder} {operation : Operation}

/-! ## Schemas that are typed -/

/-- The schemas of the parameters that callers see. -/
def parameterSchemas (binder : Binder) (operation : Operation) : List Schema :=
  (operation.parameters.filter fun parameter =>
    binder.isVisible (binder.ofParameter parameter)).map Parameter.schema

/-- The schemas of the properties of a flattened body that callers see, or that of the whole
body. -/
def bodySchemas (binder : Binder) (body : RequestBody) : List Schema :=
  if binder.isFlattened body then
    ((binder.bodySchema body).properties.filter fun property =>
      binder.isVisible (binder.ofProperty body property)).map Prod.snd
  else [body.schema]

/-- The schema of the reply, unless another operation describes it. -/
def replySchemas (binder : Binder) (operation : Operation) : List Schema :=
  operation.response.toList.filter fun response =>
    ((response.target? (some binder.document)).getD response).shapeReference?.isNone

/-- The schemas that binding an operation types, in their order. -/
def typedSchemas (binder : Binder) (operation : Operation) : List Schema :=
  binder.parameterSchemas operation ++
    (operation.body.map binder.bodySchemas).getD [] ++ binder.replySchemas operation

/-- The types of the inputs that callers see, in the order in which they are declared. -/
def inputTypes (binder : Binder) (operation : Operation) : List ValueType :=
  ((binder.declaredInputs operation).filter binder.isVisible).map fun input => input.parameter.type

/-! ## Types of inputs and replies -/

/-- The schemas of parameters have the types of the inputs that they declare. -/
theorem map_typeOf_parameterSchemas (binder : Binder) (operation : Operation) :
    (binder.parameterSchemas operation).map binder.typeOf =
      ((operation.parameters.map binder.ofParameter).filter binder.isVisible).map
        fun input => input.parameter.type := by
  rw [parameterSchemas, List.map_map, List.filter_map, List.map_map]
  rfl

/-- The schemas of a body have the types of the inputs of the body. -/
theorem map_typeOf_bodySchemas (binder : Binder) (body : RequestBody) :
    (binder.bodySchemas body).map binder.typeOf =
      ((binder.bodyInputs body).filter binder.isVisible).map fun input => input.parameter.type := by
  unfold bodySchemas bodyInputs
  by_cases hflat : binder.isFlattened body = true
  · rw [if_pos hflat, if_pos hflat, List.map_map, List.filter_map, List.map_map]
    rfl
  · rw [if_neg hflat, if_neg hflat, List.filter_singleton, isVisible_ofWholeBody]
    rfl

/-- The schemas of visible inputs have the types that callers see. -/
theorem map_typeOf_typedInputs (binder : Binder) (operation : Operation) :
    (binder.parameterSchemas operation ++
      (operation.body.map binder.bodySchemas).getD []).map binder.typeOf =
        binder.inputTypes operation := by
  rw [inputTypes, declaredInputs, List.map_append, List.filter_append, List.map_append,
    map_typeOf_parameterSchemas]
  congr 1
  cases operation.body with
  | none => rfl
  | some body => exact map_typeOf_bodySchemas binder body

/-- The parameters of a bound function have the types of the visible inputs, in the order of
the signature. -/
theorem perm_parameterTypes (binder : Binder) (operation : Operation) :
    ((binder.describe operation).parameters.map FunctionParameter.type).Perm
      (binder.inputTypes operation) := by
  rw [parameters_describe, List.map_map]
  exact perm_signatureInputs.map _

/-- A result type that the description settles is that of the schema of the reply, or blank
without one. -/
theorem map_typeOf_replySchemas {type : ValueType}
    (hsettled : (binder.describe operation).returnType = .resolved type) :
    (operation.response = none → type = .blank) ∧
      (operation.response.isSome = true →
        (binder.replySchemas operation).map binder.typeOf = [type]) := by
  simp only [describe, Schema.returnType] at hsettled
  unfold replySchemas
  cases hresponse : operation.response with
  | none =>
      rw [hresponse] at hsettled
      exact ⟨fun _ => (ReturnType.resolved.inj hsettled).symm, fun h => absurd h (by simp)⟩
  | some response =>
      rw [hresponse] at hsettled
      refine ⟨fun h => absurd h (by simp), fun _ => ?_⟩
      dsimp only at hsettled
      split at hsettled
      · cases hsettled
      · rename_i hshape
        split at hsettled
        · obtain rfl := ReturnType.resolved.inj hsettled
          rw [Option.toList_some, List.filter_singleton, hshape]
          rfl
        · cases hsettled

/-! ## One run -/

/-- The types of a bound function are those that its schemas get on one stack. -/
structure TypedInTurn (binder : Binder) (operation : Operation) (types : List ValueType)
    (left : List String) : Prop where
  left_eq : left = []
  types_eq : types =
    binder.inputTypes operation ++ (binder.replySchemas operation).map binder.typeOf
  /-- The parameters have the types of the inputs, required ones first. -/
  parameters : ((binder.describe operation).parameters.map FunctionParameter.type).Perm
    (binder.inputTypes operation)
  /-- The result type, if it is settled, is that of the reply. -/
  result : ∀ type, (binder.describe operation).returnType = .resolved type →
    (operation.response = none → type = .blank) ∧
      (operation.response.isSome = true →
        (binder.replySchemas operation).map binder.typeOf = [type])

/-- The types of a bound function are those of a single run over its schemas. -/
theorem typedInTurn {types : List ValueType} {left : List String}
    (h : Schema.TypesInTurn (some binder.document) binder.settings.policy []
      (binder.typedSchemas operation) types left) : TypedInTurn binder operation types left where
  left_eq := h.left_eq
  types_eq := by
    have hfresh := (Schema.leavesNoTrace _ _).fresh _ _ _ h
    rw [hfresh, typedSchemas, List.map_append, ← map_typeOf_typedInputs]
    rfl
  parameters := perm_parameterTypes binder operation
  result _ hsettled := map_typeOf_replySchemas hsettled

/-- Typing schemas in turn comes to an end, leaves the open references as they were and gives
every schema the type that it has by itself; and the types of a bound function are those
that its schemas get in turn. -/
theorem leavesNoTrace_typedInTurn (document : Option Document) (policy : NumberPolicy)
    (binder : Binder) (operation : Operation) :
    Schema.LeavesNoTrace document policy ∧
      ∃ types left, Schema.TypesInTurn (some binder.document) binder.settings.policy []
        (binder.typedSchemas operation) types left ∧ TypedInTurn binder operation types left := by
  refine ⟨Schema.leavesNoTrace document policy, ?_⟩
  obtain ⟨types, left, hrun⟩ := Schema.exists_typesInTurn (some binder.document)
    binder.settings.policy [] (binder.typedSchemas operation)
  exact ⟨types, left, hrun, typedInTurn hrun⟩

end Binder

end ApiBinding
