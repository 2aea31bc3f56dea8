import ApiBinding.Proofs.Function.RequiredInputs

/-!
# Hidden inputs

An input that is filled without the caller has the same value in every call, whatever
the arguments are.  What travels under its name at its place is therefore known before
any call is made: the text or the JSON of that value, and nothing at all if it is null.

Main results:

- Theorem `value_of_hidden`: a hidden input is filled with its hidden value in every call.
- Theorems `filling_of_hidden` and `filling_of_signature`: in every call a hidden input is
  filled, and one of the signature is filled with the argument at its place.
- Theorem `mem_jsonsAt_iff`: what travels at a place of the body stems from the inputs of that
  place.
- Theorem `sent_hiddenProperty`: what is sent under the name of a hidden property.
-/

namespace ApiBinding

namespace Binder

variable {binder : Binder} {operation : Operation} {arguments : List Value}

/-! ## Fillings -/

/-- An input of the signature is not filled without the caller. -/
theorem hiddenValue?_of_mem_signature {input : DeclaredInput}
    (h : input ∈ binder.signatureInputs operation) : binder.hiddenValue? input = none := by
  have hvisible := (List.mem_filter.1 (perm_signatureInputs.mem_iff.1 h)).2
  exact hiddenValue?_of_isVisible hvisible

/-- A hidden input is filled with its hidden value, whatever the caller passes. -/
theorem value_of_hidden {filling : Filling} {value : Value}
    (hfilling : filling ∈ binder.fillings operation arguments)
    (hhidden : binder.hiddenValue? filling.input = some value) : filling.value = value := by
  rcases List.mem_append.1 hfilling with hpreset | hvisible
  · obtain ⟨input, _, hfilled⟩ := List.mem_filterMap.1 hpreset
    obtain ⟨found, hfound, rfl⟩ := Option.map_eq_some_iff.1 hfilled
    rw [hfound] at hhidden
    exact Option.some.inj hhidden
  · obtain ⟨index, hindex⟩ := List.getElem?_of_mem hvisible
    rw [List.getElem?_mapIdx] at hindex
    obtain ⟨input, hinput, rfl⟩ := Option.map_eq_some_iff.1 hindex
    rw [hiddenValue?_of_mem_signature (List.mem_of_getElem? hinput)] at hhidden
    cases hhidden

/-- A hidden input is filled in every call. -/
theorem filling_of_hidden (arguments : List Value) {input : DeclaredInput} {value : Value}
    (hinput : input ∈ binder.declaredInputs operation)
    (hhidden : binder.hiddenValue? input = some value) :
    ⟨input, value⟩ ∈ binder.fillings operation arguments := by
  refine List.mem_append_left _ (List.mem_filterMap.2 ⟨input, hinput, ?_⟩)
  rw [hhidden, Option.map_some]

/-- An input of the signature is filled with the argument at its place. -/
theorem filling_of_signature (arguments : List Value) {index : Nat} {input : DeclaredInput}
    (hinput : (binder.signatureInputs operation)[index]? = some input) :
    ⟨input, (arguments[index]?).getD .null⟩ ∈ binder.fillings operation arguments := by
  refine List.mem_append_right _ (List.mem_of_getElem? (i := index) ?_)
  rw [List.getElem?_mapIdx, hinput, Option.map_some]

/-! ## What travels at a place -/

/-- JSON travels at a place if it is that of a filling which is not null. -/
theorem mem_jsonsAt_iff {place : Placement} {name : String} {json : Json} :
    (name, json) ∈ Delivery.jsonsAt place (binder.inputDeliveries operation arguments) ↔
      ∃ filling ∈ binder.fillings operation arguments,
        filling.input.placement = place ∧ filling.input.parameter.name = name ∧
          filling.value.isNull = false ∧ filling.value.toJson = json := by
  constructor
  · intro hmem
    obtain ⟨filling, hfilling, hplace, hnull, heq⟩ := exists_filling_of_mem_jsonsAt hmem
    obtain ⟨rfl, rfl⟩ := Prod.mk.inj heq
    exact ⟨filling, hfilling, hplace, rfl, hnull, rfl⟩
  · rintro ⟨filling, hfilling, rfl, rfl, hnull, rfl⟩
    exact mem_jsonsAt hfilling hnull

/-! ## Properties of a body -/

/-- A property that is hidden is sent with its hidden value, and with nothing else. -/
theorem sent_hiddenProperty (arguments : List Value) (hparsed : binder.document.IsParsed)
    (hoperation : operation ∈ binder.document.operations) {body : RequestBody}
    (hbody : operation.body = some body) (hflat : binder.isFlattened body = true)
    {property : String × Schema} (hproperty : property ∈ (binder.bodySchema body).properties)
    {value : Value} (hhidden : binder.hiddenValue? (binder.ofProperty body property) = some value)
    (json : Json) :
    (property.1, json) ∈
        Delivery.jsonsAt .bodyProperty (binder.inputDeliveries operation arguments) ↔
      value.isNull = false ∧ value.toJson = json := by
  rw [mem_jsonsAt_iff]
  constructor
  · rintro ⟨filling, hfilling, hplace, hname, hnull, hsent⟩
    have hinput := input_of_mem_fillings hfilling
    obtain ⟨_, hsome, _, other, hother, heq⟩ := exists_property_of_placement hinput.1 hplace
    obtain rfl := Option.some.inj (hbody.symm.trans hsome)
    -- no other property has the name
    have hnodup := Entries.nodup_names_of_sorted
      (sorted_properties_bodySchema hparsed hoperation hbody)
    obtain rfl : other = property := by
      refine List.inj_on_of_nodup_map hnodup hother hproperty ?_
      rw [← hname, heq]
      rfl
    obtain rfl := value_of_hidden hfilling (heq ▸ hhidden)
    exact ⟨hnull, hsent⟩
  · rintro ⟨hnull, hsent⟩
    have hinput := ofProperty_mem_declaredInputs hbody hflat hproperty
    exact ⟨_, filling_of_hidden arguments hinput hhidden, rfl, rfl, hnull, hsent⟩

end Binder

end ApiBinding
