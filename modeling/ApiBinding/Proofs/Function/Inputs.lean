import ApiBinding.Function.Binding
import ApiBinding.Proofs.Function.Call

/-!
# Declared inputs

The inputs of an operation as it declares them, and who fills each of them: a value
given at binding time, a default, the caller, or nobody.  The signature is a stable
sort of the inputs that callers see, and the deliveries of a call are the inputs
filled without the caller, followed by the signature with its arguments.  The slots of
the bound function deliver exactly that.

Main results:

- Theorem `mergeSort_kindFirst`: sorting so that a kind comes first keeps the order
  inside both kinds.
- Theorem `parameters_describe`: the parameters of a bound function are its signature.
- Theorem `deliveries_describe`: in every call the slots of a bound function deliver
  what the declared inputs are to be filled with.
- Theorem `perm_fillings`: every declared input that is sent is filled exactly once.
-/

namespace ApiBinding

/-- Whether an input of a place is a parameter, and no part of a body. -/
def Placement.isParameter : Placement → Bool
  | path | query | header => true
  | body | bodyProperty => false

/-- An input as an operation declares it. -/
structure DeclaredInput where
  /-- What callers see of it, if they see it. -/
  parameter : FunctionParameter
  placement : Placement
  isInternal : Bool
  default : Option Json

/-- Who fills a declared input. -/
inductive Supply where
  /-- A value given at binding time under the name of the input. -/
  | bound (value : Value)
  /-- The default of an internal input. -/
  | preset (value : Value)
  /-- Nobody: it is not sent. -/
  | withheld
  /-- The caller. -/
  | caller

/-- A declared input with the value that it is filled with in a call. -/
structure Filling where
  input : DeclaredInput
  value : Value

/-- What a filled input delivers: its value, under its own name and at its own place. -/
def Filling.delivery (filling : Filling) : Delivery :=
  ⟨filling.input.parameter.name, filling.input.placement, filling.value⟩

namespace Binder

/-! ## Inputs -/

/-- A parameter as a declared input. -/
def ofParameter (binder : Binder) (parameter : Parameter) : DeclaredInput where
  parameter :=
    { name := parameter.name
      type := binder.typeOf parameter.schema
      required := parameter.required
      description := parameter.description }
  placement := parameter.location.placement
  isInternal := parameter.isInternal
  default := parameter.default

/-- The schema that a body stands for. -/
def bodySchema (binder : Binder) (body : RequestBody) : Schema :=
  (body.schema.target? (some binder.document)).getD body.schema

/-- A property of a body as a declared input.  It is required if the body and its schema
both say so. -/
def ofProperty (binder : Binder) (body : RequestBody) (property : String × Schema) :
    DeclaredInput where
  parameter :=
    { name := property.1
      type := binder.typeOf property.2
      required := body.required && (binder.bodySchema body).required.contains property.1
      description := property.2.description }
  placement := .bodyProperty
  isInternal := property.2.isInternal
  default := property.2.default

/-- A whole body as a declared input; it is never internal. -/
def ofWholeBody (binder : Binder) (body : RequestBody) : DeclaredInput where
  parameter :=
    { name := body.name
      type := binder.typeOf body.schema
      required := body.required
      description := (binder.bodySchema body).description }
  placement := .body
  isInternal := false
  default := none

/-- Whether a body is taken apart into its properties. -/
def isFlattened (binder : Binder) (body : RequestBody) : Bool :=
  !(binder.bodySchema body).properties.isEmpty

/-- The inputs of a body: its properties, or else the whole body. -/
def bodyInputs (binder : Binder) (body : RequestBody) : List DeclaredInput :=
  if binder.isFlattened body then
    (binder.bodySchema body).properties.map (binder.ofProperty body)
  else [binder.ofWholeBody body]

/-- The inputs of an operation: its parameters, then those of its body. -/
def declaredInputs (binder : Binder) (operation : Operation) : List DeclaredInput :=
  operation.parameters.map binder.ofParameter ++
    (operation.body.map binder.bodyInputs).getD []

/-! ## Who fills an input -/

/-- The value given at binding time for an input; a whole body is not looked up. -/
def boundValue? (binder : Binder) (input : DeclaredInput) : Option Value :=
  if input.placement = .body then none
  else Entries.find? input.parameter.name binder.globals

/-- The default of an input, if it is internal. -/
def presetValue? (binder : Binder) (input : DeclaredInput) : Option Value :=
  if input.isInternal then input.default.map binder.defaultValue else none

/-- Who fills an input. -/
def supply (binder : Binder) (input : DeclaredInput) : Supply :=
  match binder.boundValue? input, binder.presetValue? input with
  | some value, _ => .bound value
  | none, some value => .preset value
  | none, none =>
    if input.isInternal && !input.parameter.required && input.placement.isParameter then
      .withheld
    else .caller

/-- The value that an input is filled with whatever the caller passes. -/
def hiddenValue? (binder : Binder) (input : DeclaredInput) : Option Value :=
  match binder.supply input with
  | .bound value | .preset value => some value
  | .withheld | .caller => none

/-- Whether callers see an input. -/
def isVisible (binder : Binder) (input : DeclaredInput) : Bool :=
  match binder.supply input with
  | .caller => true
  | .bound _ | .preset _ | .withheld => false

/-- Whether an input is filled by anyone. -/
def isFilled (binder : Binder) (input : DeclaredInput) : Bool :=
  match binder.supply input with
  | .withheld => false
  | .bound _ | .preset _ | .caller => true

/-! ## The signature -/

/-- Whether an input may stand before another one in a signature. -/
def requiredFirst (first second : DeclaredInput) : Bool :=
  first.parameter.required || !second.parameter.required

/-- The inputs that callers see, stably sorted so that the required ones come first. -/
def signatureInputs (binder : Binder) (operation : Operation) : List DeclaredInput :=
  ((binder.declaredInputs operation).filter binder.isVisible).mergeSort requiredFirst

/-- The inputs of an operation with their values in a call: first those filled without
the caller, then the signature, in which each input takes the argument at its place and
one without argument is null. -/
def fillings (binder : Binder) (operation : Operation) (arguments : List Value) :
    List Filling :=
  (binder.declaredInputs operation).filterMap
      (fun input => (binder.hiddenValue? input).map (Filling.mk input)) ++
    (binder.signatureInputs operation).mapIdx
      fun index input => ⟨input, (arguments[index]?).getD .null⟩

/-- What the inputs of an operation deliver in a call. -/
def inputDeliveries (binder : Binder) (operation : Operation) (arguments : List Value) :
    List Delivery :=
  (binder.fillings operation arguments).map Filling.delivery

/-! ## Sorting by being required -/

/-- A list in which a kind comes first is cut into the kind and the rest. -/
theorem filter_append_of_kinds {α : Type} {kind : α → Bool} {first second : List α}
    (hfirst : ∀ x ∈ first, kind x = true) (hsecond : ∀ x ∈ second, kind x = false) :
    (first ++ second).filter kind = first ∧
      (first ++ second).filter (fun x => !kind x) = second := by
  have hnone : second.filter kind = [] := by
    rw [List.filter_eq_nil_iff]
    intro x hx
    simp [hsecond x hx]
  have hrest : first.filter (fun x => !kind x) = [] := by
    rw [List.filter_eq_nil_iff]
    intro x hx
    simp [hfirst x hx]
  have hall : first.filter kind = first := List.filter_eq_self.2 hfirst
  have hkept : second.filter (fun x => !kind x) = second := by
    rw [List.filter_eq_self]
    intro x hx
    simp [hsecond x hx]
  rw [List.filter_append, List.filter_append, hnone, hrest, hall, hkept]
  simp

/-- Sorting so that a kind comes first keeps the order inside both kinds. -/
theorem mergeSort_kindFirst {α : Type} (kind : α → Bool) (xs : List α) :
    xs.mergeSort (fun first second => kind first || !kind second) =
      xs.filter kind ++ xs.filter fun x => !kind x := by
  have htrans : ∀ a b c : α, (kind a || !kind b) = true → (kind b || !kind c) = true →
      (kind a || !kind c) = true := by
    intro a b c hab hbc
    cases ha : kind a <;> cases hb : kind b <;> cases hc : kind c <;> simp_all
  have htotal : ∀ a b : α, ((kind a || !kind b) || (kind b || !kind a)) = true := by
    intro a b
    cases kind a <;> cases kind b <;> rfl
  induction xs with
  | nil => simp
  | cons x xs ih =>
      obtain ⟨before, after, hsorted, hrest, hbefore⟩ := List.mergeSort_cons htrans htotal x xs
      have hpairs := List.pairwise_mergeSort htrans htotal (x :: xs)
      rw [hsorted] at hpairs ⊢
      rw [ih] at hrest
      cases hx : kind x with
      | true =>
          -- nothing that was there stands before an element of the kind
          have hnil : before = [] := by
            rw [List.eq_nil_iff_forall_not_mem]
            intro y hy
            simpa [hx] using hbefore y hy
          subst hnil
          rw [List.nil_append] at hrest
          simp [hx, ← hrest]
      | false =>
          have hfirst : ∀ y ∈ before, kind y = true := by
            intro y hy
            simpa [hx] using hbefore y hy
          have hsecond : ∀ y ∈ after, kind y = false := by
            intro y hy
            have hle := (List.pairwise_cons.1 (List.pairwise_append.1 hpairs).2.1).1 y hy
            simpa [hx] using hle
          obtain ⟨hkind, hother⟩ := filter_append_of_kinds hfirst hsecond
          have hfilter : xs.filter kind = before := by
            rw [← hkind, ← hrest, List.filter_append, List.filter_filter, List.filter_filter]
            simp
          have hfilterNot : xs.filter (fun y => !kind y) = after := by
            rw [← hother, ← hrest, List.filter_append, List.filter_filter, List.filter_filter]
            simp
          simp [hx, hfilter, hfilterNot]

/-- The stable sort of inputs is the required ones and then the others. -/
theorem mergeSort_requiredFirst (inputs : List DeclaredInput) :
    inputs.mergeSort requiredFirst =
      inputs.filter (fun input => input.parameter.required) ++
        inputs.filter fun input => !input.parameter.required :=
  mergeSort_kindFirst (fun input : DeclaredInput => input.parameter.required) inputs

/-- Required inputs first, each group in its order: a stable sort. -/
theorem arrange_eq_mergeSort (inputs : List DeclaredInput) :
    arrange (inputs.map fun input => ⟨input.parameter, input.placement⟩) =
      (inputs.mergeSort requiredFirst).map fun input => ⟨input.parameter, input.placement⟩ := by
  rw [mergeSort_requiredFirst, arrange, List.filter_map, List.filter_map, List.map_append]
  rfl

/-! ## Routes -/

/-- A declared input as callers see it. -/
def asVisible (input : DeclaredInput) : VisibleInput :=
  ⟨input.parameter, input.placement⟩

/-- The route that follows from who fills an input. -/
def routeOf (binder : Binder) (input : DeclaredInput) : Route :=
  match binder.supply input with
  | .bound value => .filled ⟨input.parameter.name, input.placement, .global value⟩
  | .preset value => .filled ⟨input.parameter.name, input.placement, .default value⟩
  | .withheld => .dropped
  | .caller => .visible (asVisible input)

variable {binder : Binder} {operation : Operation} {arguments : List Value}

/-- A parameter is routed by who fills it. -/
theorem routeParameter_eq (parameter : Parameter) :
    binder.routeParameter parameter = binder.routeOf (binder.ofParameter parameter) := by
  have hplace : (binder.ofParameter parameter).placement ≠ .body ∧
      (binder.ofParameter parameter).placement.isParameter = true := by
    cases hlocation : parameter.location <;>
      simp [ofParameter, ParameterLocation.placement, Placement.isParameter, hlocation]
  unfold routeParameter routeOf supply boundValue? presetValue?
  rw [if_neg hplace.1, hplace.2]
  simp only [ofParameter]
  cases Entries.find? parameter.name binder.globals with
  | some value => rfl
  | none =>
      by_cases hinternal : parameter.isInternal = true
      · cases hdefault : parameter.default with
        | some json => simp [hinternal]
        | none =>
            by_cases hrequired : parameter.required = true <;>
              simp [hinternal, hrequired, asVisible]
      · simp [hinternal, asVisible]

/-- A property of a body is routed by who fills it. -/
theorem routeProperty_eq (body : RequestBody) (property : String × Schema) :
    binder.routeProperty body.required (binder.bodySchema body) property =
      binder.routeOf (binder.ofProperty body property) := by
  have hplace : (binder.ofProperty body property).placement ≠ .body := by
    simp [ofProperty]
  unfold routeProperty routeOf supply boundValue? presetValue?
  rw [if_neg hplace]
  simp only [ofProperty, Placement.isParameter, Bool.and_false]
  cases Entries.find? property.1 binder.globals with
  | some value => rfl
  | none =>
      by_cases hinternal : property.2.isInternal = true
      · cases hdefault : property.2.default with
        | some json => simp [hinternal]
        | none => simp [hinternal, asVisible]
      · simp [hinternal, asVisible]

/-- The routes of an operation are those of its declared inputs, in their order. -/
theorem routes_eq :
    binder.routes operation = (binder.declaredInputs operation).map binder.routeOf := by
  have hparameters : operation.parameters.map binder.routeParameter =
      (operation.parameters.map binder.ofParameter).map binder.routeOf := by
    rw [List.map_map]
    exact List.map_congr_left fun parameter _ => routeParameter_eq parameter
  rw [routes, declaredInputs, List.map_append, hparameters]
  congr 1
  cases operation.body with
  | none => rfl
  | some body =>
      simp only [Option.map_some, Option.getD_some]
      unfold routeBody bodyInputs isFlattened
      rw [← bodySchema]
      by_cases hempty : (binder.bodySchema body).properties.isEmpty = true
      · simp [hempty, routeOf, supply, boundValue?, presetValue?, ofWholeBody, asVisible]
      · simp only [hempty, Bool.not_false, if_true, if_false, Bool.false_eq_true, List.map_map]
        exact List.map_congr_left fun property _ => routeProperty_eq body property

/-! ## The bound function -/

/-- The inputs that callers see are those that no one else fills, in declared order. -/
theorem filterMap_input?_routes :
    (binder.routes operation).filterMap Route.input? =
      ((binder.declaredInputs operation).filter binder.isVisible).map asVisible := by
  rw [routes_eq, List.filterMap_map, ← List.filterMap_eq_map, List.filterMap_filter]
  refine List.filterMap_congr fun input _ => ?_
  cases hsupply : binder.supply input <;> simp [routeOf, isVisible, hsupply, Route.input?]

/-- The inputs in the order in which a bound function takes them are its signature. -/
theorem arrange_routes :
    arrange ((binder.routes operation).filterMap Route.input?) =
      (binder.signatureInputs operation).map asVisible := by
  rw [filterMap_input?_routes, signatureInputs]
  exact arrange_eq_mergeSort _

/-- The parameters of a bound function are its signature. -/
theorem parameters_describe :
    (binder.describe operation).parameters =
      (binder.signatureInputs operation).map DeclaredInput.parameter := by
  simp only [describe]
  rw [arrange_routes, List.map_map]
  rfl

/-- The slots that are filled without the caller deliver the hidden values. -/
theorem deliveries_slot?_routes :
    ((binder.routes operation).filterMap Route.slot?).map (Slot.delivery arguments) =
      ((binder.declaredInputs operation).filterMap fun input =>
        (binder.hiddenValue? input).map (Filling.mk input)).map Filling.delivery := by
  rw [routes_eq, List.filterMap_map, List.map_filterMap, List.map_filterMap]
  refine List.filterMap_congr fun input _ => ?_
  simp only [Function.comp_apply, routeOf, hiddenValue?]
  cases binder.supply input <;>
    simp [Route.slot?, Slot.delivery, Filling.delivery, ConnectorFunction.slotValue]

/-- The slots of visible inputs deliver the arguments at their places. -/
theorem deliveries_argumentSlots (inputs : List DeclaredInput) :
    (argumentSlots (inputs.map asVisible)).map (Slot.delivery arguments) =
      (inputs.mapIdx fun index input =>
        (⟨input, (arguments[index]?).getD .null⟩ : Filling)).map Filling.delivery := by
  rw [argumentSlots]
  apply List.ext_getElem?
  intro index
  simp only [List.getElem?_map, List.getElem?_mapIdx, Option.map_map]
  rfl

/-- In every call the slots of a bound function deliver what the declared inputs are
filled with. -/
theorem deliveries_describe :
    (binder.describe operation).deliveries arguments =
      binder.inputDeliveries operation arguments := by
  have hslots : (binder.describe operation).slots =
      (binder.routes operation).filterMap Route.slot? ++
        argumentSlots ((binder.signatureInputs operation).map asVisible) := by
    simp only [describe]
    rw [arrange_routes]
  rw [ConnectorFunction.deliveries, hslots, List.map_append, deliveries_slot?_routes,
    deliveries_argumentSlots, inputDeliveries, fillings, List.map_append]

/-! ## Every input once -/

/-- The signature holds the visible inputs, each once. -/
theorem perm_signatureInputs :
    (binder.signatureInputs operation).Perm
      ((binder.declaredInputs operation).filter binder.isVisible) :=
  List.mergeSort_perm _ _

/-- An input is filled without the caller, or callers see it, or it is not filled. -/
theorem isFilled_eq (input : DeclaredInput) :
    binder.isFilled input = ((binder.hiddenValue? input).isSome || binder.isVisible input) := by
  cases hsupply : binder.supply input <;>
    simp [isFilled, hiddenValue?, isVisible, hsupply]

/-- Callers see a whole body. -/
theorem isVisible_ofWholeBody (binder : Binder) (body : RequestBody) :
    binder.isVisible (binder.ofWholeBody body) = true := by
  simp [isVisible, supply, boundValue?, presetValue?, ofWholeBody]

/-- No input is both filled without the caller and seen by callers. -/
theorem hiddenValue?_of_isVisible {input : DeclaredInput} (h : binder.isVisible input = true) :
    binder.hiddenValue? input = none := by
  unfold isVisible at h
  unfold hiddenValue?
  split at h <;> simp_all

/-- The inputs of the fillings: those filled without the caller, then the signature. -/
theorem map_input_fillings :
    (binder.fillings operation arguments).map Filling.input =
      (binder.declaredInputs operation).filter (fun input => (binder.hiddenValue? input).isSome) ++
        binder.signatureInputs operation := by
  rw [fillings, List.map_append]
  congr 1
  · rw [List.map_filterMap, ← List.filterMap_eq_filter]
    refine List.filterMap_congr fun input _ => ?_
    cases hvalue : binder.hiddenValue? input <;> simp [Option.guard, hvalue]
  · apply List.ext_getElem?
    intro index
    simp [List.getElem?_mapIdx, Function.comp_def]

/-- Every declared input that anyone fills is filled exactly once, and no other one is. -/
theorem perm_fillings (binder : Binder) (operation : Operation) (arguments : List Value) :
    ((binder.fillings operation arguments).map Filling.input).Perm
      ((binder.declaredInputs operation).filter binder.isFilled) := by
  rw [map_input_fillings]
  refine (List.Perm.append_left _ perm_signatureInputs).trans ?_
  have hcut := List.filter_append_perm (fun input => (binder.hiddenValue? input).isSome)
    ((binder.declaredInputs operation).filter binder.isFilled)
  rw [List.filter_filter, List.filter_filter] at hcut
  have hhidden : (binder.declaredInputs operation).filter
      (fun input => (binder.hiddenValue? input).isSome && binder.isFilled input) =
      (binder.declaredInputs operation).filter
        (fun input => (binder.hiddenValue? input).isSome) := by
    refine List.filter_congr fun input _ => ?_
    rw [isFilled_eq]
    cases (binder.hiddenValue? input).isSome <;> simp
  have hvisible : (binder.declaredInputs operation).filter
      (fun input => !(binder.hiddenValue? input).isSome && binder.isFilled input) =
      (binder.declaredInputs operation).filter binder.isVisible := by
    refine List.filter_congr fun input _ => ?_
    rw [isFilled_eq]
    cases hvisible : binder.isVisible input with
    | false => cases (binder.hiddenValue? input).isSome <;> rfl
    | true => rw [hiddenValue?_of_isVisible hvisible]; rfl
  rwa [hhidden, hvisible] at hcut

end Binder

end ApiBinding
