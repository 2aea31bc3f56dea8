import ApiBinding.Error
import ApiBinding.Proofs.Function.BoundInputs

/-!
# Refused calls

A call is refused by its number of arguments, by an argument, or by the value of a slot: a
required argument is null, an argument is not acceptable for its parameter, or what travels
as text is a record or a table.  Beyond that only a null value that was given at binding time
is refused, if it is for a parameter in the path: such a parameter is always required, and no
default is null, so that neither an argument nor a default leaves its place empty.  The path
and the query are made of what is left, and that always succeeds.

Main results:

- Theorem `exists_bound_of_null_in_path`: what is null in the path of a call whose arguments
  pass was given at binding time.
- Theorem `refusedFor_of_buildRequest`: every refused call is refused for the reason that its
  fault names.
- Theorem `not_refusedFor_of_buildRequest`: there is no reason to refuse an accepted call.
- Theorem `refusesExactly_of_isParsed`: when calls are refused.
-/

namespace ApiBinding

/-- A value of several parts, which has no text: a record or a table. -/
def Value.IsComposite (value : Value) : Prop :=
  (∃ fields, value = .record fields) ∨ ∃ rows, value = .list rows

/-- Only records and tables have no text. -/
theorem Value.text?_eq_none_iff {value : Value} : value.text? = none ↔ value.IsComposite := by
  cases value <;> simp [text?, IsComposite]

namespace Binder

variable {binder : Binder} {operation : Operation} {arguments : List Value}

/-! ## Reasons -/

/-- A call of a bound function is refused for a reason, and with the fault that names it. -/
inductive RefusedFor (binder : Binder) (operation : Operation) (arguments : List Value) :
    CallFault → Prop where
  /-- There are too few or too many arguments. -/
  | count (h : arguments.length < (binder.describe operation).requiredCount ∨
      (binder.describe operation).parameters.length < arguments.length) :
    RefusedFor binder operation arguments
      (.argumentCount (binder.describe operation).qualifiedName
        (binder.describe operation).requiredCount (binder.describe operation).parameters.length
        arguments.length)
  /-- The argument of a required parameter is null. -/
  | blank {parameter : FunctionParameter}
    (h : (parameter, Value.null) ∈ (binder.describe operation).parameters.zip arguments)
    (hrequired : parameter.required = true) :
    RefusedFor binder operation arguments
      (.blankArgument (binder.describe operation).qualifiedName parameter.name)
  /-- An argument is not acceptable for the type of its parameter. -/
  | unacceptable {parameter : FunctionParameter} {value : Value}
    (h : (parameter, value) ∈ (binder.describe operation).parameters.zip arguments)
    (haccepts : parameter.type.accepts value = false) :
    RefusedFor binder operation arguments
      (.wrongType (binder.describe operation).qualifiedName parameter.name parameter.type
        value.kindName)
  /-- The value given at binding time for a parameter in the path is null. -/
  | boundToNull {parameter : Parameter} (h : parameter ∈ operation.parameters)
    (hplace : parameter.location = .path)
    (hbound : Entries.find? parameter.name binder.globals = some .null) :
    RefusedFor binder operation arguments
      (.missingPathValue (binder.describe operation).qualifiedName parameter.name)
  /-- The value of a slot in the path, the query or a header is a record or a table. -/
  | composite {slot : Slot} (h : slot ∈ (binder.describe operation).slots)
    (hplace : slot.placement = .path ∨ slot.placement = .query ∨ slot.placement = .header)
    (hvalue : (ConnectorFunction.slotValue arguments slot.source).IsComposite) :
    RefusedFor binder operation arguments
      (.notText (binder.describe operation).qualifiedName slot.name
        (ConnectorFunction.slotValue arguments slot.source).kindName)

/-- When calls of a bound function are refused. -/
structure RefusesExactly (binder : Binder) (operation : Operation) : Prop where
  /-- A call is refused exactly if there is a reason to. -/
  refused_iff : ∀ arguments,
    (∃ fault, (binder.describe operation).buildRequest arguments = .error fault) ↔
      ∃ fault, RefusedFor binder operation arguments fault
  /-- The fault names a reason, and it is one of invalid arguments. -/
  cause : ∀ arguments fault,
    (binder.describe operation).buildRequest arguments = .error fault →
      RefusedFor binder operation arguments fault ∧
        (ConnectorError.call fault).kind = .invalidArgument
  /-- Without a reason the path and the query are made of what travels there. -/
  rendered : ∀ arguments, (∀ fault, ¬RefusedFor binder operation arguments fault) →
    ∃ request, (binder.describe operation).buildRequest arguments = .ok request ∧
      request.pathAndQuery = requestPath binder.document.basePath operation.path
        (Delivery.textsAt .path (binder.inputDeliveries operation arguments))
        (Delivery.textsAt .query (binder.inputDeliveries operation arguments))

/-! ## Arguments -/

/-- Arguments that do not pass are a reason to refuse the call. -/
theorem refusedFor_of_checkArguments {fault : CallFault}
    (h : (binder.describe operation).checkArguments arguments = .error fault) :
    RefusedFor binder operation arguments fault := by
  unfold ConnectorFunction.checkArguments at h
  dsimp only at h
  split at h
  next hcount =>
    obtain rfl := Except.error.inj h
    exact .count (by simpa using hcount)
  next =>
    obtain ⟨⟨parameter, value⟩, hpair, hfault⟩ := Traversal.exists_of_forM_eq_error h
    unfold ConnectorFunction.checkArgument at hfault
    split at hfault
    next hblank =>
      obtain rfl := Except.error.inj hfault
      rw [Bool.and_eq_true] at hblank
      obtain rfl : value = .null := by
        cases value <;> first | rfl | cases hblank.2
      exact .blank hpair hblank.1
    next =>
      split at hfault
      next haccepts =>
        obtain rfl := Except.error.inj hfault
        exact .unacceptable hpair (by simpa using haccepts)
      next => cases hfault

/-! ## Slots -/

/-- What a slot delivers in a call is what some declared input is filled with. -/
theorem exists_filling_of_slot (arguments : List Value) {slot : Slot}
    (h : slot ∈ (binder.describe operation).slots) :
    ∃ filling ∈ binder.fillings operation arguments,
      filling.delivery = slot.delivery arguments := by
  have hdelivery : slot.delivery arguments ∈ binder.inputDeliveries operation arguments := by
    rw [← deliveries_describe]
    exact List.mem_map_of_mem h
  exact List.mem_map.1 hdelivery

/-- An input in the path is a parameter in the path. -/
theorem exists_parameter_of_placement {input : DeclaredInput}
    (hinput : input ∈ binder.declaredInputs operation) (hplace : input.placement = .path) :
    ∃ parameter ∈ operation.parameters, parameter.location = .path ∧
      input = binder.ofParameter parameter := by
  obtain ⟨parameter, hmem, rfl⟩ := exists_parameter_of_isParameter hinput (by rw [hplace]; rfl)
  refine ⟨parameter, hmem, ?_, rfl⟩
  cases hlocation : parameter.location <;>
    simp_all [ofParameter, ParameterLocation.placement]

/-- What is null in the path, although the arguments pass, was given at binding time. -/
theorem exists_bound_of_null_in_path (hparsed : binder.document.IsParsed)
    (hoperation : operation ∈ binder.document.operations)
    (hcheck : (binder.describe operation).checkArguments arguments = .ok ())
    {filling : Filling} (hfilling : filling ∈ binder.fillings operation arguments)
    (hplace : filling.input.placement = .path) (hnull : filling.value.isNull = true) :
    ∃ parameter ∈ operation.parameters, parameter.location = .path ∧
      parameter.name = filling.input.parameter.name ∧
      Entries.find? parameter.name binder.globals = some .null := by
  have hinput := (input_of_mem_fillings hfilling).1
  obtain ⟨parameter, hparameter, hlocation, hsame⟩ := exists_parameter_of_placement hinput hplace
  have hwell := (Document.wellFormed_of_isParsed hparsed).operations operation hoperation
  have hrequired := (hwell.parameters parameter hparameter).required_of_path hlocation
  refine ⟨parameter, hparameter, hlocation, by rw [hsame]; rfl, ?_⟩
  rcases List.mem_append.1 hfilling with hhidden | hvisible
  · obtain ⟨input, hdeclared, hfilled⟩ := List.mem_filterMap.1 hhidden
    obtain ⟨value, hvalue, rfl⟩ := Option.map_eq_some_iff.1 hfilled
    -- defaults are never null, so the value was bound
    have hbound := boundValue?_of_isNull
      (default_ne_null hparsed hoperation input hdeclared) hnull hvalue
    obtain rfl : value = .null := by
      cases value <;> first | rfl | cases hnull
    dsimp only at hsame hplace
    rw [boundValue?, hplace, if_neg (by decide), hsame] at hbound
    exact hbound
  · -- a parameter in the path is required, so its argument is not null
    obtain ⟨index, hindex⟩ := List.getElem?_of_mem hvisible
    rw [List.getElem?_mapIdx] at hindex
    obtain ⟨input, hsignature, rfl⟩ := Option.map_eq_some_iff.1 hindex
    dsimp only at hsame hnull
    have hgiven := isNull_argument hcheck hsignature (by rw [hsame]; exact hrequired)
    rw [hgiven] at hnull
    cases hnull

/-- A slot that cannot be sent is a reason to refuse the call. -/
theorem refusedFor_of_contribution (hparsed : binder.document.IsParsed)
    (hoperation : operation ∈ binder.document.operations)
    (hcheck : (binder.describe operation).checkArguments arguments = .ok ())
    {slot : Slot} (hslot : slot ∈ (binder.describe operation).slots) {fault : CallFault}
    (h : (binder.describe operation).contribution arguments slot = .error fault) :
    RefusedFor binder operation arguments fault := by
  obtain ⟨filling, hfilling, hdelivery⟩ := exists_filling_of_slot arguments hslot
  have hname := congrArg Delivery.name hdelivery
  have hplacement := congrArg Delivery.placement hdelivery
  have hvalue := congrArg Delivery.value hdelivery
  simp only [Filling.delivery, Slot.delivery] at hname hplacement hvalue
  have htext : ∀ {make : String → Contribution},
      ((binder.describe operation).inputText slot.name
        (ConnectorFunction.slotValue arguments slot.source)).map make = .error fault →
      (slot.placement = .path ∨ slot.placement = .query ∨ slot.placement = .header) →
        RefusedFor binder operation arguments fault := by
    intro make hmake hplace
    unfold ConnectorFunction.inputText at hmake
    split at hmake
    next => cases hmake
    next hnone =>
      obtain rfl := Except.error.inj hmake
      exact .composite hslot hplace (Value.text?_eq_none_iff.1 hnone)
  unfold ConnectorFunction.contribution at h
  dsimp only at h
  split at h
  next hnull =>
    split at h
    next hplace =>
      obtain rfl := Except.error.inj h
      obtain ⟨parameter, hparameter, hlocation, hsame, hbound⟩ :=
        exists_bound_of_null_in_path hparsed hoperation hcheck hfilling
          (hplacement.trans hplace) (hvalue ▸ hnull)
      rw [← hname, ← hsame]
      exact .boundToNull hparameter hlocation hbound
    next => cases h
  next =>
    split at h
    next hplace => exact htext h (Or.inl hplace)
    next hplace => exact htext h (Or.inr (Or.inl hplace))
    next hplace => exact htext h (Or.inr (Or.inr hplace))
    next => cases h
    next => cases h

/-! ## Calls -/

/-- A refused call is refused for the reason that its fault names. -/
theorem refusedFor_of_buildRequest (hparsed : binder.document.IsParsed)
    (hoperation : operation ∈ binder.document.operations) {fault : CallFault}
    (h : (binder.describe operation).buildRequest arguments = .error fault) :
    RefusedFor binder operation arguments fault := by
  unfold ConnectorFunction.buildRequest at h
  cases hcheck : (binder.describe operation).checkArguments arguments with
  | error other =>
      rw [hcheck] at h
      obtain rfl := Except.error.inj h
      exact refusedFor_of_checkArguments hcheck
  | ok _ =>
      rw [hcheck] at h
      cases hslots : (binder.describe operation).slots.mapM
          ((binder.describe operation).contribution arguments) with
      | error other =>
          obtain rfl : other = fault := by
            have hsame := h
            dsimp only [bind, Except.bind] at hsame
            rw [hslots] at hsame
            exact Except.error.inj hsame
          obtain ⟨slot, hslot, hfault⟩ := Traversal.exists_of_mapM_eq_error hslots
          exact refusedFor_of_contribution hparsed hoperation hcheck hslot hfault
      | ok contributions =>
          dsimp only [bind, Except.bind] at h
          rw [hslots] at h
          cases h

/-- There is no reason to refuse a call that is accepted. -/
theorem not_refusedFor_of_buildRequest {request : Request}
    (h : (binder.describe operation).buildRequest arguments = .ok request) (fault : CallFault) :
    ¬RefusedFor binder operation arguments fault := by
  obtain ⟨hcheck, hsendable, _⟩ := buildRequest_describe_eq_ok_iff.1 h
  obtain ⟨hcount, hpass⟩ := ConnectorFunction.checkArguments_eq_ok_iff.1 hcheck
  rintro (hwrong | ⟨hpair, hrequired⟩ | ⟨hpair, haccepts⟩ | ⟨hparameter, hlocation, hbound⟩ |
    ⟨hslot, hplace, hvalue⟩)
  · omega
  · have hgiven := (hpass _ hpair).1 hrequired
    cases hgiven
  · rw [(hpass _ hpair).2] at haccepts
    cases haccepts
  · rename_i parameter
    have hhidden := hiddenValue?_of_bound (placement_ofParameter_ne_body binder parameter) hbound
    have hinput : binder.ofParameter parameter ∈ binder.declaredInputs operation :=
      List.mem_append_left _ (List.mem_map_of_mem hparameter)
    have hsend := hsendable _ (List.mem_map_of_mem (f := Filling.delivery)
      (filling_of_hidden arguments hinput hhidden))
    have hplace : (binder.ofParameter parameter).placement = .path := by
      rw [ofParameter, hlocation]
      rfl
    have hgiven := hsend.1 hplace
    cases hgiven
  · obtain ⟨filling, hfilling, hdelivery⟩ := exists_filling_of_slot arguments hslot
    have hsend := hsendable _ (List.mem_map_of_mem (f := Filling.delivery) hfilling)
    rw [hdelivery] at hsend
    have htext := hsend.2 (by
      rcases hplace with hplace | hplace | hplace <;>
        simp [Slot.delivery, hplace, Placement.isText])
    rw [Slot.delivery, Value.text?_eq_none_iff.2 hvalue] at htext
    cases htext

/-- Calls of a bound function are refused for their arguments, for a null value bound to a
parameter in the path, and for records and tables that would travel as text, and for nothing
else. -/
theorem refusesExactly_of_isParsed (hparsed : binder.document.IsParsed)
    (hoperation : operation ∈ binder.document.operations) : RefusesExactly binder operation where
  refused_iff arguments := by
    constructor
    · rintro ⟨fault, hfault⟩
      exact ⟨fault, refusedFor_of_buildRequest hparsed hoperation hfault⟩
    · rintro ⟨reason, hreason⟩
      cases hbuild : (binder.describe operation).buildRequest arguments with
      | error fault => exact ⟨fault, rfl⟩
      | ok request => exact absurd hreason (not_refusedFor_of_buildRequest hbuild reason)
  cause _ _ hfault := ⟨refusedFor_of_buildRequest hparsed hoperation hfault, rfl⟩
  rendered arguments hnone := by
    cases hbuild : (binder.describe operation).buildRequest arguments with
    | error fault =>
        exact absurd (refusedFor_of_buildRequest hparsed hoperation hbuild) (hnone fault)
    | ok request =>
        obtain ⟨_, _, rfl⟩ := buildRequest_describe_eq_ok_iff.1 hbuild
        exact ⟨_, rfl, rfl⟩

/-! ## A store without names -/

/-- A connector of the store, where the name of an item is bound to null. -/
def namelessBinder : Binder :=
  { storeBinder with globals := [("connectionId", .str "c"), ("id", .null)] }

/-- Every call of it is refused, since nothing can stand for the name in the path, and the fault
names it. -/
theorem refusesExactly_nameless :
    namelessBinder.document.IsParsed ∧ storeOperation ∈ namelessBinder.document.operations ∧
      RefusesExactly namelessBinder storeOperation ∧
      (namelessBinder.describe storeOperation).buildRequest [] =
        .error (.missingPathValue "Shop.Store" "id") ∧
      RefusedFor namelessBinder storeOperation [] (.missingPathValue "Shop.Store" "id") := by
  have hparsed : namelessBinder.document.IsParsed := isParsed_storeDocument
  have hoperation : storeOperation ∈ namelessBinder.document.operations := List.mem_cons_self
  have hrefuses := refusesExactly_of_isParsed hparsed hoperation
  exact ⟨hparsed, hoperation, hrefuses, rfl, (hrefuses.cause _ _ rfl).1⟩

end Binder

end ApiBinding
