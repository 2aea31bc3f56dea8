import ApiBinding.Proofs.Function.HiddenInputs

/-!
# Bound inputs

A value given at binding time fills every parameter and every property of a flattened
body that has its name, at each place where the name occurs, and callers do not see such
an input.  A body that is sent as a whole is not looked up: callers see it even if its
name has a value, and what they pass is what is sent.

Main results:

- Theorem `hiddenValue?_of_bound`: an input with a bound name is filled without the
  caller, unless it is a whole body.
- Theorem `mem_signatureInputs_wholeBody`: callers see a whole body, whatever its name is.
- Theorem `body_of_wholeBody`: a whole body is what the caller passes.
- Theorem `boundFilled_of_isParsed`: in every request bound values fill all inputs of their
  names but a whole body.
- Theorem `boundNote_not_filled`: a whole body is not filled from its bound value.
-/

namespace ApiBinding

namespace Binder

variable {binder : Binder} {operation : Operation} {arguments : List Value} {request : Request}

/-! ## What requests carry -/

/-- Bound values travel in a request as their inputs say, and a whole body is what the
caller passes. -/
structure BoundSent (binder : Binder) (operation : Operation) (arguments : List Value)
    (request : Request) : Prop where
  pathAndQuery : request.pathAndQuery =
    requestPath binder.document.basePath operation.path
      (Delivery.textsAt .path (binder.inputDeliveries operation arguments))
      (Delivery.textsAt .query (binder.inputDeliveries operation arguments))
  headers : request.headers =
    Delivery.textsAt .header (binder.inputDeliveries operation arguments)
  /-- Under the name of a bound parameter its location has the text of the value and nothing
  else, and nothing at all if the value is null, which it is not in the path. -/
  parameters : ∀ parameter ∈ operation.parameters, ∀ value,
    Entries.find? parameter.name binder.globals = some value →
      (parameter.location = .path → value.isNull = false) ∧ value.text?.isSome = true ∧
        ∀ text, (parameter.name, text) ∈ Delivery.textsAt parameter.location.placement
            (binder.inputDeliveries operation arguments) ↔
          value.isNull = false ∧ value.text? = some text
  /-- The texts of the query are read back from the request. -/
  query : request.queryPairs =
    Delivery.textsAt .query (binder.inputDeliveries operation arguments)
  /-- The text of a bound parameter of the path stands wherever the template has its
  placeholder. -/
  path : ∀ parameter ∈ operation.parameters, parameter.location = .path → ∀ value,
    Entries.find? parameter.name binder.globals = some value →
      ∃ text, value.text? = some text ∧
        StandsInPath binder operation arguments request parameter.name text
  /-- Under the name of a bound property the body has the JSON of the value and nothing
  else, and nothing at all if the value is null. -/
  properties : ∀ body, operation.body = some body → binder.isFlattened body = true →
    ∃ members, request.body = some (.obj members) ∧
      ∀ name ∈ Entries.names (binder.bodySchema body).properties, ∀ value,
        Entries.find? name binder.globals = some value →
          ∀ json, (name, json) ∈ members ↔ value.isNull = false ∧ value.toJson = json
  /-- A whole body is the argument at its place in the signature. -/
  wholeBody : ∀ body, operation.body = some body → binder.isFlattened body = false →
    ∃ (index : Nat) (value : Value), (binder.describe operation).parameters[index]? =
        some (binder.ofWholeBody body).parameter ∧
      (arguments[index]?).getD .null = value ∧
      request.body = if value.isNull then none else some value.toJson

/-- Bound values fill all inputs of their names but a whole body. -/
structure BoundFilled (binder : Binder) (operation : Operation) : Prop where
  /-- No parameter of the signature has a bound name, unless it is a whole body. -/
  hidden : ∀ parameter ∈ (binder.describe operation).parameters,
    parameter.name ∈ Entries.names binder.globals →
      ∃ body, operation.body = some body ∧ binder.isFlattened body = false ∧
        parameter = (binder.ofWholeBody body).parameter
  /-- A whole body is a parameter of the signature, whatever its name is. -/
  exposed : ∀ body, operation.body = some body → binder.isFlattened body = false →
    (binder.ofWholeBody body).parameter ∈ (binder.describe operation).parameters
  sent : ∀ arguments request, (binder.describe operation).buildRequest arguments = .ok request →
    BoundSent binder operation arguments request

/-! ## Inputs with bound names -/

/-- An input with a bound name is filled without the caller, unless it is a whole body. -/
theorem hiddenValue?_of_bound {input : DeclaredInput} {value : Value}
    (hplace : input.placement ≠ .body)
    (hbound : Entries.find? input.parameter.name binder.globals = some value) :
    binder.hiddenValue? input = some value := by
  rw [hiddenValue?_eq, boundValue?, if_neg hplace, hbound, Option.some_or]

/-- A parameter stands at no place of the body. -/
theorem placement_ofParameter_ne_body (binder : Binder) (parameter : Parameter) :
    (binder.ofParameter parameter).placement ≠ .body := by
  cases hlocation : parameter.location <;>
    simp [ofParameter, ParameterLocation.placement, hlocation]

/-- The fillings under a bound name, of whatever input, have the bound value. -/
theorem value_of_bound {filling : Filling} {name : String} {value : Value}
    (hfilling : filling ∈ binder.fillings operation arguments)
    (hplace : filling.input.placement ≠ .body) (hname : filling.input.parameter.name = name)
    (hbound : Entries.find? name binder.globals = some value) : filling.value = value := by
  have hhidden : binder.hiddenValue? filling.input = some value :=
    hiddenValue?_of_bound hplace (hname ▸ hbound)
  exact value_of_hidden hfilling hhidden

/-- No input of the signature has a bound name, unless it is a whole body. -/
theorem placement_of_mem_signature {input : DeclaredInput}
    (hinput : input ∈ binder.signatureInputs operation)
    (hname : input.parameter.name ∈ Entries.names binder.globals) : input.placement = .body := by
  by_contra hplace
  obtain ⟨value, hvalue⟩ := Option.isSome_iff_exists.1 (Entries.isSome_find?_iff.2 hname)
  have hhidden := hiddenValue?_of_bound hplace hvalue
  rw [hiddenValue?_of_mem_signature hinput] at hhidden
  cases hhidden

/-! ## A whole body -/

/-- Callers see a whole body, whatever its name is. -/
theorem mem_signatureInputs_wholeBody {body : RequestBody} (hbody : operation.body = some body)
    (hwhole : binder.isFlattened body = false) :
    binder.ofWholeBody body ∈ binder.signatureInputs operation := by
  refine perm_signatureInputs.mem_iff.2 (List.mem_filter.2 ⟨?_, isVisible_ofWholeBody binder body⟩)
  exact ofWholeBody_mem_declaredInputs hbody hwhole

/-- At most one input is filled at the place of a whole body. -/
theorem filling_eq_of_placement {first second : Filling}
    (hfirst : first ∈ binder.fillings operation arguments)
    (hsecond : second ∈ binder.fillings operation arguments)
    (hplace : first.input.placement = .body) (hother : second.input.placement = .body) :
    first = second := by
  have hinput := input_of_mem_fillings hfirst
  obtain ⟨body, hbody, hwhole, _⟩ := exists_wholeBody_of_placement hinput.1 hplace
  have hdeclared := filter_placement_bodyInputs binder .body hbody rfl
  simp only [bodyPlacement, bodyInputs, hwhole, Bool.false_eq_true, if_false, if_true] at hdeclared
  exact filling_eq_of_kind hdeclared hfirst hsecond (by simp [hplace]) (by simp [hother])

/-- A whole body is sent as the caller passes it. -/
theorem body_of_wholeBody {body : RequestBody} (hbody : operation.body = some body)
    (hwhole : binder.isFlattened body = false) {value : Value}
    (hfilling : ⟨binder.ofWholeBody body, value⟩ ∈ binder.fillings operation arguments) :
    binder.sentBody operation (binder.inputDeliveries operation arguments) =
      if value.isNull then none else some value.toJson := by
  have hentry : ∀ entry ∈ Delivery.jsonsAt .body (binder.inputDeliveries operation arguments),
      value.isNull = false ∧ entry.2 = value.toJson := by
    intro entry hentry
    obtain ⟨filling, hmem, hplace, _, hnull, hjson⟩ := mem_jsonsAt_iff.1 hentry
    obtain rfl := filling_eq_of_placement hmem hfilling hplace rfl
    exact ⟨hnull, hjson.symm⟩
  rw [sentBody, hbody]
  simp only [hwhole, Bool.false_eq_true, if_false]
  cases hsent : Delivery.jsonsAt .body (binder.inputDeliveries operation arguments) with
  | nil =>
      cases hnull : value.isNull with
      | true => rfl
      | false =>
          have hmem := mem_jsonsAt hfilling hnull
          rw [show (binder.ofWholeBody body).placement = .body from rfl, hsent] at hmem
          exact absurd hmem List.not_mem_nil
  | cons entry rest =>
      obtain ⟨hnull, hjson⟩ := hentry entry (hsent ▸ List.mem_cons_self)
      simp [hnull, hjson]

/-! ## What is sent -/

/-- A bound parameter is sent with its value, and with nothing else. -/
theorem sent_boundParameter
    (hsendable : ∀ delivery ∈ binder.inputDeliveries operation arguments, delivery.Sendable)
    {parameter : Parameter} (hparameter : parameter ∈ operation.parameters) {value : Value}
    (hbound : Entries.find? parameter.name binder.globals = some value) :
    (parameter.location = .path → value.isNull = false) ∧ value.text?.isSome = true ∧
      ∀ text, (parameter.name, text) ∈ Delivery.textsAt parameter.location.placement
          (binder.inputDeliveries operation arguments) ↔
        value.isNull = false ∧ value.text? = some text := by
  have hinput : binder.ofParameter parameter ∈ binder.declaredInputs operation :=
    List.mem_append_left _ (List.mem_map_of_mem hparameter)
  have hplace := placement_ofParameter_ne_body binder parameter
  have hfilling := filling_of_hidden arguments hinput (hiddenValue?_of_bound hplace hbound)
  obtain ⟨hpath, htext⟩ := hsendable _ (List.mem_map_of_mem (f := Filling.delivery) hfilling)
  refine ⟨fun hlocation => hpath ?_, htext ?_, fun text => ?_⟩
  · simp [Filling.delivery, ofParameter, ParameterLocation.placement, hlocation]
  · exact isText_ofParameter binder parameter
  · rw [mem_textsAt_iff]
    constructor
    · rintro ⟨filling, hmem, hother, hname, hnull, hsent⟩
      obtain rfl := value_of_bound hmem (hother ▸ hplace) hname hbound
      exact ⟨hnull, hsent⟩
    · rintro ⟨hnull, hsent⟩
      exact ⟨_, hfilling, rfl, rfl, hnull, hsent⟩

/-- The text of a bound parameter of the path stands there. -/
theorem standsInPath_of_bound
    (hbuild : (binder.describe operation).buildRequest arguments = .ok request)
    {parameter : Parameter} (hparameter : parameter ∈ operation.parameters)
    (hlocation : parameter.location = .path) {value : Value}
    (hbound : Entries.find? parameter.name binder.globals = some value) :
    ∃ text, value.text? = some text ∧
      StandsInPath binder operation arguments request parameter.name text := by
  obtain ⟨_, hsendable, _⟩ := buildRequest_describe_eq_ok_iff.1 hbuild
  obtain ⟨hpath, htext, hsent⟩ := sent_boundParameter hsendable hparameter hbound
  obtain ⟨text, hsome⟩ := Option.isSome_iff_exists.1 htext
  rw [hlocation, ParameterLocation.placement] at hsent
  refine ⟨text, hsome, standsInPath_of_find? hbuild (find?_textsAt ?_ fun other hother => ?_)⟩
  · exact (hsent text).2 ⟨hpath hlocation, hsome⟩
  · exact Option.some.inj (((hsent other).1 hother).2.symm.trans hsome)

/-- A whole body stands somewhere in the signature, and the argument there is sent. -/
theorem sent_argument {body : RequestBody} (hbody : operation.body = some body)
    (hwhole : binder.isFlattened body = false) :
    ∃ (index : Nat) (value : Value), (binder.describe operation).parameters[index]? =
        some (binder.ofWholeBody body).parameter ∧
      (arguments[index]?).getD .null = value ∧
      binder.sentBody operation (binder.inputDeliveries operation arguments) =
        if value.isNull then none else some value.toJson := by
  obtain ⟨index, hindex⟩ := List.getElem?_of_mem (mem_signatureInputs_wholeBody hbody hwhole)
  refine ⟨index, _, ?_, rfl,
    body_of_wholeBody hbody hwhole (filling_of_signature arguments hindex)⟩
  rw [parameters_describe, List.getElem?_map, hindex, Option.map_some]

/-- Every request that is accepted carries the bound values. -/
theorem boundSent_of_buildRequest (hparsed : binder.document.IsParsed)
    (hoperation : operation ∈ binder.document.operations)
    (hbuild : (binder.describe operation).buildRequest arguments = .ok request) :
    BoundSent binder operation arguments request := by
  have hrouted := routed_of_buildRequest hparsed hoperation hbuild
  refine
    { pathAndQuery := hrouted.pathAndQuery
      headers := hrouted.headers
      parameters := fun _ hparameter _ hbound =>
        sent_boundParameter hrouted.sendable hparameter hbound
      query := queryPairs_eq hbuild
      path := fun _ hparameter hlocation _ hbound =>
        standsInPath_of_bound hbuild hparameter hlocation hbound
      properties := fun body hbody hflat => ?_
      wholeBody := fun body hbody hwhole => ?_ }
  · refine ⟨Delivery.jsonsAt .bodyProperty (binder.inputDeliveries operation arguments), ?_, ?_⟩
    · rw [hrouted.body, sentBody, hbody]
      simp [hflat]
    · intro name hname value hbound
      obtain ⟨property, hproperty, rfl⟩ := List.mem_map.1 hname
      have hhidden : binder.hiddenValue? (binder.ofProperty body property) = some value :=
        hiddenValue?_of_bound (by simp [ofProperty]) hbound
      exact sent_hiddenProperty arguments hparsed hoperation hbody hflat hproperty hhidden
  · rw [hrouted.body]
    exact sent_argument hbody hwhole

/-- A value given at binding time hides every parameter and every property of a flattened
body that has its name, and fills them in every request; a whole body it neither hides nor
fills. -/
theorem boundFilled_of_isParsed (hparsed : binder.document.IsParsed)
    (hoperation : operation ∈ binder.document.operations) : BoundFilled binder operation where
  hidden parameter hparameter hname := by
    rw [parameters_describe] at hparameter
    obtain ⟨input, hinput, rfl⟩ := List.mem_map.1 hparameter
    have hdeclared := (List.mem_filter.1 (perm_signatureInputs.mem_iff.1 hinput)).1
    have hplace := placement_of_mem_signature hinput hname
    obtain ⟨body, hbody, hwhole, rfl⟩ := exists_wholeBody_of_placement hdeclared hplace
    exact ⟨body, hbody, hwhole, rfl⟩
  exposed body hbody hwhole := by
    rw [parameters_describe]
    exact List.mem_map_of_mem (mem_signatureInputs_wholeBody hbody hwhole)
  sent _ _ hbuild := boundSent_of_buildRequest hparsed hoperation hbuild

/-- A connector of the store with values for its connection and for everything called `id`. -/
def boundStore : Binder :=
  { storeBinder with globals := [("connectionId", .str "c"), ("id", .str "a/b")] }

/-- The two inputs called `id` are hidden, and each gets the bound value at its place. -/
theorem boundFilled_store :
    boundStore.document.IsParsed ∧ storeOperation ∈ boundStore.document.operations ∧
      (boundStore.describe storeOperation).parameters.map FunctionParameter.name =
        ["note", "size"] ∧
      (boundStore.describe storeOperation).buildRequest [] =
        .ok { method := .post
              pathAndQuery := "/v1/items/a%2Fb?version=2"
              headers := [("connectionId", "c")]
              body := some (.obj [("id", .str "a/b")]) } ∧
      BoundFilled boundStore storeOperation :=
  ⟨isParsed_storeDocument, List.mem_cons_self, rfl, rfl,
    boundFilled_of_isParsed isParsed_storeDocument List.mem_cons_self⟩

/-! ## A note -/

/-- A description with a single operation, which writes a note. -/
def noteDescription : Json :=
  .obj
    [("swagger", .str "2.0"), ("basePath", .str "/v1"),
      ("paths", .obj [("/notes", .obj [("post", .obj
        [("operationId", .str "PutNote"),
          ("parameters", .arr
            [.obj [("name", .str "author"), ("in", .str "query"), ("type", .str "string")],
              .obj [("name", .str "note"), ("in", .str "body"), ("required", .bool true),
                ("schema", .obj [("type", .str "string")])]])])])])]

/-- The operation that writes a note. -/
def noteOperation : Operation where
  name := "PutNote"
  method := .post
  path := "/notes"
  summary := none
  description := none
  deprecated := false
  parameters := [storeParameter "author" .query]
  body := some { name := "note", required := true, schema := .ofType "string" }
  response := none

/-- The description of notes as it is read. -/
def noteDocument : Document where
  version := .swagger2
  title := none
  basePath := "/v1"
  schemas := []
  operations := [noteOperation]

/-- A connector of notes, with values for both inputs of its operation. -/
def noteBinder : Binder where
  document := noteDocument
  settings := { namespaceName := "N" }
  globals := [("author", .str "me"), ("note", .str "bound")]

/-- A note is a whole body, so callers must pass it although its name has a value, and that
value is not sent. -/
theorem boundNote_not_filled :
    noteBinder.document.IsParsed ∧ noteOperation ∈ noteBinder.document.operations ∧
      Entries.find? "note" noteBinder.globals = some (.str "bound") ∧
      (noteBinder.describe noteOperation).parameters.map FunctionParameter.name = ["note"] ∧
      (noteBinder.describe noteOperation).buildRequest [] =
        .error (.argumentCount "N.PutNote" 1 1 0) ∧
      (noteBinder.describe noteOperation).buildRequest [.str "mine"] =
        .ok { method := .post
              pathAndQuery := "/v1/notes?author=me"
              headers := []
              body := some (.str "mine") } :=
  ⟨⟨noteDescription, rfl⟩, List.mem_cons_self, rfl, rfl, rfl, rfl⟩

end Binder

end ApiBinding
