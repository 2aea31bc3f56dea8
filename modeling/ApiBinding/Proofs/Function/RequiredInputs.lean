import ApiBinding.Proofs.Function.SentTexts
import ApiBinding.Proofs.Value.Landing

/-!
# Required inputs

A call checks how many arguments it gets and whether those for required parameters are
there, and it never looks at what an operation requires.  The two meet in the order of
the signature: its required inputs stand before the others, so that an accepted call
has an argument for each of them.  A required input that callers do not see is filled
with a value given at binding time or with a default, and neither is null.

What is sent in the query or as a header is read back from the request.  What is sent in the path
stands there only where the template has its placeholder: nothing checks that there is one.

Main results:

- Theorem `required_iff_lt_requiredCount`: the parameters that a call must have an
  argument for are those that are required.
- Theorem `requiredFilled_of_checkArguments`: in an accepted call no required input is
  null.
- Theorem `requiredSent_of_buildRequest`: every request carries the required inputs.
- Theorem `bareItem_nowhere`: without a placeholder a required text of the path is not sent.
-/

namespace ApiBinding

namespace Binder

variable {binder : Binder} {operation : Operation} {arguments : List Value}

/-- No required input is filled with null. -/
def RequiredFilled (binder : Binder) (operation : Operation) (arguments : List Value) : Prop :=
  ∀ filling ∈ binder.fillings operation arguments,
    filling.input.parameter.required = true → filling.value.isNull = false

/-- The request of a call carries everything that its operation requires. -/
structure RequiredSent (binder : Binder) (operation : Operation) (arguments : List Value)
    (request : Request) : Prop where
  /-- The parameters that a call must have an argument for are those that are required. -/
  leading : ∀ index parameter, (binder.describe operation).parameters[index]? = some parameter →
    (parameter.required = true ↔ index < (binder.describe operation).requiredCount)
  count : (binder.describe operation).requiredCount ≤ arguments.length
  /-- A required parameter has the text of a value that is not null at its location. -/
  parameters : ∀ parameter ∈ operation.parameters, parameter.required = true →
    ∃ filling ∈ binder.fillings operation arguments,
      filling.input = binder.ofParameter parameter ∧ filling.value.isNull = false ∧
        ∃ text, filling.value.text? = some text ∧
          HoldsText binder operation arguments request parameter text
  wholeBody : ∀ body, operation.body = some body → body.required = true →
    binder.isFlattened body = false →
      ∃ filling ∈ binder.fillings operation arguments,
        filling.input = binder.ofWholeBody body ∧ filling.value.isNull = false ∧
          request.body = some filling.value.toJson
  /-- A required body that is flattened has every declared property that it requires. -/
  properties : ∀ body, operation.body = some body → body.required = true →
    binder.isFlattened body = true →
      ∃ members, request.body = some (.obj members) ∧
        ∀ name ∈ (binder.bodySchema body).required,
          name ∈ Entries.names (binder.bodySchema body).properties → name ∈ Entries.names members

/-! ## The order of the signature -/

/-- The signature holds the required inputs before the others. -/
theorem signatureInputs_eq :
    binder.signatureInputs operation =
      ((binder.declaredInputs operation).filter binder.isVisible).filter
          (fun input => input.parameter.required) ++
        ((binder.declaredInputs operation).filter binder.isVisible).filter
          fun input => !input.parameter.required := by
  rw [signatureInputs, mergeSort_requiredFirst]

/-- As many arguments are needed as there are required inputs in the signature. -/
theorem requiredCount_describe :
    (binder.describe operation).requiredCount =
      ((binder.signatureInputs operation).filter fun input => input.parameter.required).length := by
  rw [ConnectorFunction.requiredCount, FunctionParameter.countRequired, parameters_describe,
    List.filter_map, List.length_map]
  rfl

/-- In a list with a kind before the rest, the places of the kind are the first ones. -/
theorem kind_iff_lt_length {α : Type} (kind : α → Bool) {first second : List α}
    (hfirst : ∀ x ∈ first, kind x = true) (hsecond : ∀ x ∈ second, kind x = false)
    {index : Nat} {x : α} (h : (first ++ second)[index]? = some x) :
    kind x = true ↔ index < first.length := by
  by_cases hindex : index < first.length
  · rw [List.getElem?_append_left hindex] at h
    simp [hindex, hfirst x (List.mem_of_getElem? h)]
  · rw [List.getElem?_append_right (by omega)] at h
    simp [hindex, hsecond x (List.mem_of_getElem? h)]

/-- An input of the signature is required exactly if it is one of those that a call must
have an argument for. -/
theorem required_iff_lt_requiredCount {index : Nat} {input : DeclaredInput}
    (h : (binder.signatureInputs operation)[index]? = some input) :
    input.parameter.required = true ↔ index < (binder.describe operation).requiredCount := by
  have hfirst : ∀ input ∈ ((binder.declaredInputs operation).filter binder.isVisible).filter
      (fun input => input.parameter.required), input.parameter.required = true :=
    fun input hinput => (List.mem_filter.1 hinput).2
  have hsecond : ∀ input ∈ ((binder.declaredInputs operation).filter binder.isVisible).filter
      (fun input => !input.parameter.required), input.parameter.required = false :=
    fun input hinput => by simpa using (List.mem_filter.1 hinput).2
  rw [requiredCount_describe, signatureInputs_eq, (filter_append_of_kinds hfirst hsecond).1]
  rw [signatureInputs_eq] at h
  exact kind_iff_lt_length (fun input : DeclaredInput => input.parameter.required) hfirst
    hsecond h

/-! ## Values of required inputs -/

/-- No declared input of a description that was read has a null default. -/
theorem default_ne_null (hparsed : binder.document.IsParsed)
    (hoperation : operation ∈ binder.document.operations) :
    ∀ input ∈ binder.declaredInputs operation, input.default ≠ some .null := by
  have hdocument := Document.wellFormed_of_isParsed hparsed
  have hwell := hdocument.operations operation hoperation
  intro input hinput
  rcases List.mem_append.1 hinput with hparameter | hbody
  · obtain ⟨parameter, hmem, rfl⟩ := List.mem_map.1 hparameter
    exact (hwell.parameters parameter hmem).default_ne_null
  · cases hdeclared : operation.body with
    | none => simp [hdeclared] at hbody
    | some body =>
        simp only [hdeclared, Option.map_some, Option.getD_some, bodyInputs] at hbody
        split at hbody
        · obtain ⟨property, hproperty, rfl⟩ := List.mem_map.1 hbody
          have hschema := hdocument.target (hwell.body body hdeclared)
          exact (hschema.property property hproperty).default_ne_null
        · obtain rfl := List.mem_singleton.1 hbody
          simp [ofWholeBody]

/-- What fills an input without the caller is a value given at binding time or else a
default. -/
theorem hiddenValue?_eq (input : DeclaredInput) :
    binder.hiddenValue? input = (binder.boundValue? input).or (binder.presetValue? input) := by
  unfold hiddenValue? supply
  cases binder.boundValue? input with
  | some value => rfl
  | none =>
      cases binder.presetValue? input with
      | some value => rfl
      | none => by_cases hwithheld :
          (input.isInternal && !input.parameter.required && input.placement.isParameter) = true <;>
        simp [hwithheld]

/-- What fills an input without the caller is not null unless it is given at binding time. -/
theorem boundValue?_of_isNull {input : DeclaredInput} {value : Value}
    (hdefault : input.default ≠ some .null) (hnull : value.isNull = true)
    (h : binder.hiddenValue? input = some value) : binder.boundValue? input = some value := by
  rw [hiddenValue?_eq] at h
  rcases Option.or_eq_some_iff.1 h with hbound | ⟨_, hpreset⟩
  · exact hbound
  · unfold presetValue? at hpreset
    split at hpreset
    · obtain ⟨json, hjson, rfl⟩ := Option.map_eq_some_iff.1 hpreset
      have hgiven : json ≠ .null := fun hnone => hdefault (hnone ▸ hjson)
      rw [defaultValue, Conversion.literal, Conversion.isNull_ofJson hgiven] at hnull
      cases hnull
    · cases hpreset

/-- What fills an input without the caller is not null. -/
theorem isNull_of_hiddenValue? {input : DeclaredInput} {value : Value}
    (hglobals : ∀ entry ∈ binder.globals, entry.2.isNull = false)
    (hdefault : input.default ≠ some .null) (h : binder.hiddenValue? input = some value) :
    value.isNull = false := by
  rw [Bool.eq_false_iff]
  intro hnull
  have hbound := boundValue?_of_isNull hdefault hnull h
  unfold boundValue? at hbound
  split at hbound
  · cases hbound
  · rw [hglobals _ (Entries.mem_of_find? hbound)] at hnull
    cases hnull

/-- A required input is always filled by someone. -/
theorem isFilled_of_required {input : DeclaredInput} (h : input.parameter.required = true) :
    binder.isFilled input = true := by
  unfold isFilled supply
  cases binder.boundValue? input <;> cases binder.presetValue? input <;> simp [h]

/-- In a call with arguments that pass, a required input of the signature gets a value. -/
theorem isNull_argument
    (hcheck : (binder.describe operation).checkArguments arguments = .ok ())
    {index : Nat} {input : DeclaredInput}
    (hinput : (binder.signatureInputs operation)[index]? = some input)
    (hrequired : input.parameter.required = true) :
    ((arguments[index]?).getD .null).isNull = false := by
  obtain ⟨⟨hcount, _⟩, hpass⟩ := ConnectorFunction.checkArguments_eq_ok_iff.1 hcheck
  have hindex := (required_iff_lt_requiredCount hinput).1 hrequired
  have hargument : arguments[index]? = some arguments[index] :=
    List.getElem?_eq_getElem (by omega)
  have hparameter : (binder.describe operation).parameters[index]? = some input.parameter := by
    rw [parameters_describe, List.getElem?_map, hinput, Option.map_some]
  have hpair : (input.parameter, arguments[index]) ∈
      (binder.describe operation).parameters.zip arguments := by
    refine List.mem_of_getElem? (i := index) ?_
    rw [List.getElem?_zip_eq_some]
    exact ⟨hparameter, hargument⟩
  rw [hargument, Option.getD_some]
  exact (hpass _ hpair).1 hrequired

/-- In a call with arguments that pass, no required input is filled with null. -/
theorem requiredFilled_of_checkArguments (hparsed : binder.document.IsParsed)
    (hoperation : operation ∈ binder.document.operations)
    (hglobals : ∀ entry ∈ binder.globals, entry.2.isNull = false)
    (hcheck : (binder.describe operation).checkArguments arguments = .ok ()) :
    binder.RequiredFilled operation arguments := by
  intro filling hfilling hrequired
  rcases List.mem_append.1 hfilling with hhidden | hvisible
  · obtain ⟨input, hinput, hfilled⟩ := List.mem_filterMap.1 hhidden
    obtain ⟨value, hvalue, rfl⟩ := Option.map_eq_some_iff.1 hfilled
    exact isNull_of_hiddenValue? hglobals (default_ne_null hparsed hoperation input hinput) hvalue
  · obtain ⟨index, hindex⟩ := List.getElem?_of_mem hvisible
    rw [List.getElem?_mapIdx] at hindex
    obtain ⟨input, hinput, rfl⟩ := Option.map_eq_some_iff.1 hindex
    exact isNull_argument hcheck hinput hrequired

/-! ## What is sent -/

/-- What an input that travels as text is filled with has a text, and this is sent. -/
theorem exists_text_of_filling
    (hsendable : ∀ delivery ∈ binder.inputDeliveries operation arguments, delivery.Sendable)
    {filling : Filling} (hfilling : filling ∈ binder.fillings operation arguments)
    (hnull : filling.value.isNull = false) (htext : filling.input.placement.isText = true) :
    ∃ text, filling.value.text? = some text ∧
      (filling.input.parameter.name, text) ∈ Delivery.textsAt filling.input.placement
        (binder.inputDeliveries operation arguments) := by
  have hsend := hsendable _ (List.mem_map_of_mem (f := Filling.delivery) hfilling)
  obtain ⟨text, hsome⟩ := Option.isSome_iff_exists.1 (hsend.2 htext)
  exact ⟨text, hsome, mem_textsAt hfilling hnull hsome⟩

/-- A parameter travels as text. -/
theorem isText_ofParameter (binder : Binder) (parameter : Parameter) :
    (binder.ofParameter parameter).placement.isText = true := by
  cases hlocation : parameter.location <;>
    simp [ofParameter, ParameterLocation.placement, Placement.isText, hlocation]

/-- The JSON of a filling that is not null is sent to its place. -/
theorem mem_jsonsAt {filling : Filling}
    (hfilling : filling ∈ binder.fillings operation arguments)
    (hnull : filling.value.isNull = false) :
    (filling.input.parameter.name, filling.value.toJson) ∈
      Delivery.jsonsAt filling.input.placement (binder.inputDeliveries operation arguments) := by
  refine List.mem_filterMap.2 ⟨filling.delivery, List.mem_map_of_mem hfilling, ?_⟩
  simp [Delivery.jsonAt?, Filling.delivery, hnull]

/-- What is sent to a place as JSON is that of a filling which is not null. -/
theorem exists_filling_of_mem_jsonsAt {place : Placement} {entry : String × Json}
    (h : entry ∈ Delivery.jsonsAt place (binder.inputDeliveries operation arguments)) :
    ∃ filling ∈ binder.fillings operation arguments,
      filling.input.placement = place ∧ filling.value.isNull = false ∧
        entry = (filling.input.parameter.name, filling.value.toJson) := by
  obtain ⟨delivery, hdelivery, hsent⟩ := List.mem_filterMap.1 h
  obtain ⟨filling, hfilling, rfl⟩ := List.mem_map.1 hdelivery
  unfold Delivery.jsonAt? at hsent
  split at hsent
  next hplace => exact ⟨filling, hfilling, hplace.1, hplace.2, (Option.some.inj hsent).symm⟩
  next => simp at hsent

/-- Every required input is filled with a value that is not null. -/
theorem exists_filling_of_required (hvalues : binder.RequiredFilled operation arguments)
    {input : DeclaredInput} (hinput : input ∈ binder.declaredInputs operation)
    (hrequired : input.parameter.required = true) :
    ∃ filling ∈ binder.fillings operation arguments,
      filling.input = input ∧ filling.value.isNull = false := by
  have hmem : input ∈ (binder.fillings operation arguments).map Filling.input :=
    mem_map_input_fillings.2 ⟨hinput, isFilled_of_required hrequired⟩
  obtain ⟨filling, hfilling, rfl⟩ := List.mem_map.1 hmem
  exact ⟨filling, hfilling, rfl, hvalues filling hfilling hrequired⟩

/-- A required parameter has its text in the request. -/
theorem sent_parameter (hparsed : binder.document.IsParsed)
    (hoperation : operation ∈ binder.document.operations)
    (hvalues : binder.RequiredFilled operation arguments) {request : Request}
    (hbuild : (binder.describe operation).buildRequest arguments = .ok request)
    {parameter : Parameter} (hparameter : parameter ∈ operation.parameters)
    (hrequired : parameter.required = true) :
    ∃ filling ∈ binder.fillings operation arguments,
      filling.input = binder.ofParameter parameter ∧ filling.value.isNull = false ∧
        ∃ text, filling.value.text? = some text ∧
          HoldsText binder operation arguments request parameter text := by
  obtain ⟨_, hsendable, _⟩ := buildRequest_describe_eq_ok_iff.1 hbuild
  have hinput : binder.ofParameter parameter ∈ binder.declaredInputs operation :=
    List.mem_append_left _ (List.mem_map_of_mem hparameter)
  obtain ⟨⟨_, value⟩, hfilling, rfl, hnull⟩ :=
    exists_filling_of_required hvalues hinput hrequired
  have hplace := isText_ofParameter binder parameter
  obtain ⟨text, htext, -⟩ := exists_text_of_filling hsendable hfilling hnull hplace
  exact ⟨_, hfilling, rfl, hnull, text, htext,
    holdsText_of_filling hparsed hoperation hbuild hfilling hnull htext⟩

/-- A required whole body is sent. -/
theorem sent_wholeBody (hvalues : binder.RequiredFilled operation arguments)
    {body : RequestBody} (hbody : operation.body = some body) (hrequired : body.required = true)
    (hwhole : binder.isFlattened body = false) :
    ∃ filling ∈ binder.fillings operation arguments,
      filling.input = binder.ofWholeBody body ∧ filling.value.isNull = false ∧
        binder.sentBody operation (binder.inputDeliveries operation arguments) =
          some filling.value.toJson := by
  have hinput := ofWholeBody_mem_declaredInputs hbody hwhole
  obtain ⟨given, hgiven, heq, hnull⟩ := exists_filling_of_required hvalues hinput hrequired
  have hmem := mem_jsonsAt hgiven hnull
  rw [heq, show (binder.ofWholeBody body).placement = .body from rfl] at hmem
  -- whatever is sent first to the place of the body, it fills the only input of that place
  obtain ⟨entry, rest, hsent⟩ := List.exists_cons_of_ne_nil (List.ne_nil_of_mem hmem)
  obtain ⟨filling, hfilling, hplace, hvalue, rfl⟩ :=
    exists_filling_of_mem_jsonsAt (hsent ▸ List.mem_cons_self :
      entry ∈ Delivery.jsonsAt .body (binder.inputDeliveries operation arguments))
  have hdeclared := (input_of_mem_fillings hfilling).1
  obtain ⟨_, hsome, _, honly⟩ := exists_wholeBody_of_placement hdeclared hplace
  obtain rfl := Option.some.inj (hbody.symm.trans hsome)
  refine ⟨filling, hfilling, honly, hvalue, ?_⟩
  simp [sentBody, hbody, hwhole, hsent]

/-- A required body that is flattened is sent with every property that it requires. -/
theorem sent_properties (hvalues : binder.RequiredFilled operation arguments)
    {body : RequestBody} (hbody : operation.body = some body) (hrequired : body.required = true)
    (hflat : binder.isFlattened body = true) :
    ∃ members,
      binder.sentBody operation (binder.inputDeliveries operation arguments) =
          some (.obj members) ∧
        ∀ name ∈ (binder.bodySchema body).required,
          name ∈ Entries.names (binder.bodySchema body).properties →
            name ∈ Entries.names members := by
  refine ⟨Delivery.jsonsAt .bodyProperty (binder.inputDeliveries operation arguments),
    by simp [sentBody, hbody, hflat], ?_⟩
  intro name hname hproperty
  obtain ⟨property, hmem, rfl⟩ := List.mem_map.1 hproperty
  have hinput := ofProperty_mem_declaredInputs hbody hflat hmem
  have hneeded : (binder.ofProperty body property).parameter.required = true := by
    simpa [ofProperty, hrequired] using hname
  obtain ⟨filling, hfilling, heq, hnull⟩ := exists_filling_of_required hvalues hinput hneeded
  have hsent := mem_jsonsAt hfilling hnull
  rw [heq] at hsent
  exact List.mem_map_of_mem (f := Prod.fst) hsent

/-- In every call of a bound function that is accepted, the request carries everything
that the operation requires. -/
theorem requiredSent_of_buildRequest (hparsed : binder.document.IsParsed)
    (hoperation : operation ∈ binder.document.operations)
    (hglobals : ∀ entry ∈ binder.globals, entry.2.isNull = false) {request : Request}
    (hbuild : (binder.describe operation).buildRequest arguments = .ok request) :
    RequiredSent binder operation arguments request := by
  obtain ⟨hcheck, _, heq⟩ := buildRequest_describe_eq_ok_iff.1 hbuild
  have hvalues := requiredFilled_of_checkArguments hparsed hoperation hglobals hcheck
  have hbodySent := body_requestOf arguments fun _ hbody =>
    sorted_properties_bodySchema hparsed hoperation hbody
  have hleading : ∀ index parameter,
      (binder.describe operation).parameters[index]? = some parameter →
        (parameter.required = true ↔ index < (binder.describe operation).requiredCount) := by
    intro index parameter hparameter
    rw [parameters_describe, List.getElem?_map] at hparameter
    obtain ⟨input, hinput, rfl⟩ := Option.map_eq_some_iff.1 hparameter
    exact required_iff_lt_requiredCount hinput
  exact
    { leading := hleading
      count := (ConnectorFunction.checkArguments_eq_ok_iff.1 hcheck).1.1
      parameters := fun _ hparameter hrequired =>
        sent_parameter hparsed hoperation hvalues hbuild hparameter hrequired
      wholeBody := fun _ hbody hrequired hwhole => by
        rw [heq, hbodySent]
        exact sent_wholeBody hvalues hbody hrequired hwhole
      properties := fun _ hbody hrequired hflat => by
        rw [heq, hbodySent]
        exact sent_properties hvalues hbody hrequired hflat }

/-- Storing an item sends the two required inputs called `id`: the one of the path is the last
segment that is read back. -/
theorem requiredSent_store : ∃ request : Request,
    request =
        { method := .post
          pathAndQuery := "/v1/items/a%2Fb?version=2"
          headers := [("connectionId", "c")]
          body := some (.obj [("id", .str "x")]) } ∧
      request.pathPieces = ["v1", "items", "a/b"].map (fun text => Text.utf8Bytes text.toList) ∧
      (storeBinder.describe storeOperation).buildRequest [.str "a/b", .str "x"] = .ok request ∧
      RequiredSent storeBinder storeOperation [.str "a/b", .str "x"] request :=
  ⟨_, rfl, rfl, rfl, requiredSent_of_buildRequest isParsed_storeDocument List.mem_cons_self
    (by decide) rfl⟩

/-! ## A path without placeholder -/

/-- A description of a store that requires an item in the path, which has no placeholder. -/
def bareDescription : Json :=
  .obj
    [("swagger", .str "2.0"), ("basePath", .str "/v1"),
      ("paths", .obj [("/items", .obj [("get", .obj
        [("operationId", .str "GetItem"),
          ("parameters", .arr [.obj
            [("name", .str "id"), ("in", .str "path"), ("required", .bool true),
              ("type", .str "string")]])])])])]

/-- The operation that gets the item. -/
def bareOperation : Operation where
  name := "GetItem"
  method := .get
  path := "/items"
  summary := none
  description := none
  deprecated := false
  parameters := [{ storeParameter "id" .path with required := true }]
  body := none
  response := none

/-- A connector of that store. -/
def bareBinder : Binder where
  document := { storeDocument with operations := [bareOperation] }
  settings := { namespaceName := "N" }
  globals := []

/-- The item is required in the path, and a call with its name is accepted, but the name is
nowhere in the request: nothing checks that the template has its placeholder. -/
theorem bareItem_nowhere :
    bareBinder.document.IsParsed ∧ bareOperation ∈ bareBinder.document.operations ∧
      (∀ entry ∈ bareBinder.globals, entry.2.isNull = false) ∧
      (∃ parameter ∈ bareOperation.parameters,
        parameter.location = .path ∧ parameter.required = true) ∧
      ∃ request : Request, request =
          { method := .get, pathAndQuery := "/v1/items", headers := [], body := none } ∧
        (bareBinder.describe bareOperation).buildRequest [.str "7"] = .ok request ∧
        '7' ∉ request.pathAndQuery.toList := by
  refine ⟨⟨bareDescription, rfl⟩, List.mem_cons_self, by decide, ⟨_, List.mem_cons_self, rfl, rfl⟩,
    _, rfl, rfl, by decide⟩

end Binder

end ApiBinding
