import ApiBinding.Proofs.Function.BoundInputs
import ApiBinding.Proofs.Function.Defaults

/-!
# Carried inputs

A request carries an input with a value if it has the form of the value at the place of the
input: its text wherever the path has the placeholder of its name, in the query or as a header,
its JSON as the body or as a member of it.  Whoever fills an input with a value that is not
null, be it the caller, a value given at binding time or a default, every request that is
accepted carries it.

Main results:

- Theorem `carries_of_filling`: a request carries what its inputs are filled with.
- Theorem `carries_of_hidden`: a request carries what is filled in without the caller.
-/

namespace ApiBinding

namespace Binder

variable {binder : Binder} {operation : Operation} {arguments : List Value} {request : Request}

/-- The request of a call carries an input with a value: under the name of the input and at
its place it has the form of the value. -/
def Carries (binder : Binder) (operation : Operation) (arguments : List Value)
    (request : Request) (input : DeclaredInput) (value : Value) : Prop :=
  let deliveries := binder.inputDeliveries operation arguments
  let sentPath := request.pathAndQuery = requestPath binder.document.basePath operation.path
    (Delivery.textsAt .path deliveries) (Delivery.textsAt .query deliveries)
  match input.placement with
  | .path => sentPath ∧ ∃ text, value.text? = some text ∧
      (input.parameter.name, text) ∈ Delivery.textsAt .path deliveries ∧
        ((input.parameter.name = "" → IsOnly binder operation input) →
          StandsInPath binder operation arguments request input.parameter.name text)
  | .query => sentPath ∧ ∃ text, value.text? = some text ∧
      (input.parameter.name, text) ∈ Delivery.textsAt .query deliveries ∧
        (input.parameter.name, text) ∈ request.queryPairs
  | .header => ∃ text, value.text? = some text ∧ (input.parameter.name, text) ∈ request.headers
  | .body => request.body = some value.toJson
  | .bodyProperty => request.bodyMember? input.parameter.name = some value.toJson

/-- Every request that is accepted carries what its inputs are filled with. -/
theorem carries_of_filling (hparsed : binder.document.IsParsed)
    (hoperation : operation ∈ binder.document.operations)
    (hbuild : (binder.describe operation).buildRequest arguments = .ok request)
    {filling : Filling} (hfilling : filling ∈ binder.fillings operation arguments)
    (hnull : filling.value.isNull = false) :
    Carries binder operation arguments request filling.input filling.value := by
  have hrouted := routed_of_buildRequest hparsed hoperation hbuild
  have hsent := exists_text_of_filling hrouted.sendable hfilling hnull
  unfold Carries
  cases hplace : filling.input.placement with
  | path =>
      rw [hplace] at hsent
      obtain ⟨text, htext, hmem⟩ := hsent rfl
      exact ⟨hrouted.pathAndQuery, text, htext, hmem, fun hnameless =>
        standsInPath_of_filling hparsed hoperation hbuild hfilling hplace hnull hnameless htext⟩
  | query =>
      rw [hplace] at hsent
      obtain ⟨text, htext, hmem⟩ := hsent rfl
      exact ⟨hrouted.pathAndQuery, text, htext, hmem, queryPairs_eq hbuild ▸ hmem⟩
  | header =>
      rw [hplace, ← hrouted.headers] at hsent
      exact hsent rfl
  | body =>
      have hinput := input_of_mem_fillings hfilling
      obtain ⟨body, hbody, hwhole, heq⟩ := exists_wholeBody_of_placement hinput.1 hplace
      have hwholeFilling : ⟨binder.ofWholeBody body, filling.value⟩ ∈
          binder.fillings operation arguments := by
        rw [← heq]
        exact hfilling
      rw [hrouted.body, body_of_wholeBody hbody hwhole hwholeFilling]
      simp [hnull]
  | bodyProperty => exact bodyMember?_of_filling hparsed hoperation hbuild hfilling hplace hnull

/-- Every request that is accepted carries what is filled in without the caller. -/
theorem carries_of_hidden (hparsed : binder.document.IsParsed)
    (hoperation : operation ∈ binder.document.operations)
    (hbuild : (binder.describe operation).buildRequest arguments = .ok request)
    {input : DeclaredInput} (hinput : input ∈ binder.declaredInputs operation) {value : Value}
    (hhidden : binder.hiddenValue? input = some value) (hnull : value.isNull = false) :
    Carries binder operation arguments request input value :=
  carries_of_filling hparsed hoperation hbuild (filling_of_hidden arguments hinput hhidden) hnull

end Binder

end ApiBinding
