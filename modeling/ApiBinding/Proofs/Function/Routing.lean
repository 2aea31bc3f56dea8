import ApiBinding.Proofs.Document.WellFormed
import ApiBinding.Proofs.Function.Inputs
import Mathlib.Data.List.Perm.Subperm

/-!
# Routing of inputs

The request of a call carries what the declared inputs of the operation are filled
with, each under its own name and at its own place, and nothing else.  Which input
takes which argument is fixed by the signature, which is a stable sort of the inputs
that callers see.

Main results:

- Theorem `subperm_names_jsonsAt`: what is sent to a place as JSON stems from declared
  inputs of that place, each at most once.
- Theorem `body_requestOf`: the body is an object of the properties of a flattened
  body, or else the whole body.
- Theorem `routed_of_buildRequest`: every request of a bound function is routed.
-/

namespace ApiBinding

namespace Binder

variable {binder : Binder} {operation : Operation} {arguments : List Value}

/-- The JSON body that the declared inputs of an operation make up in a call: an object
of its properties if it is flattened, even if none has a value, else the whole body. -/
def sentBody (binder : Binder) (operation : Operation) (deliveries : List Delivery) :
    Option Json :=
  match operation.body with
  | none => none
  | some body =>
    if binder.isFlattened body then some (.obj (Delivery.jsonsAt .bodyProperty deliveries))
    else (Delivery.jsonsAt .body deliveries).head?.map Prod.snd

/-- The request of a call carries exactly what the declared inputs are filled with. -/
structure Routed (binder : Binder) (operation : Operation) (arguments : List Value)
    (request : Request) : Prop where
  /-- The signature is the stable sort of the visible inputs. -/
  signature : (binder.describe operation).parameters =
    (binder.signatureInputs operation).map DeclaredInput.parameter
  /-- A flattened body lists its properties in the order of their names. -/
  propertyOrder : ∀ body, operation.body = some body →
    Entries.Sorted (binder.bodySchema body).properties
  /-- Every declared input that anyone fills is filled once, and no other one is. -/
  once : ((binder.fillings operation arguments).map Filling.input).Perm
    ((binder.declaredInputs operation).filter binder.isFilled)
  /-- No value is lost on the way to its place. -/
  sendable : ∀ delivery ∈ binder.inputDeliveries operation arguments, delivery.Sendable
  method : request.method = operation.method
  /-- The path is filled, and the query made, from the texts of the inputs placed there. -/
  pathAndQuery : request.pathAndQuery =
    requestPath binder.document.basePath operation.path
      (Delivery.textsAt .path (binder.inputDeliveries operation arguments))
      (Delivery.textsAt .query (binder.inputDeliveries operation arguments))
  headers : request.headers =
    Delivery.textsAt .header (binder.inputDeliveries operation arguments)
  body : request.body =
    binder.sentBody operation (binder.inputDeliveries operation arguments)

/-! ## Inputs of the body -/

/-- The inputs of an operation at a place of the body are those of its body. -/
theorem filter_placement_declaredInputs {place : Placement} (hplace : place.isParameter = false) :
    (binder.declaredInputs operation).filter (fun input => input.placement == place) =
      ((operation.body.map binder.bodyInputs).getD []).filter
        fun input => input.placement == place := by
  have hparameters : (operation.parameters.map binder.ofParameter).filter
      (fun input => input.placement == place) = [] := by
    rw [List.filter_eq_nil_iff]
    intro input hinput
    obtain ⟨parameter, _, rfl⟩ := List.mem_map.1 hinput
    cases hlocation : parameter.location <;> cases place <;>
      simp_all [ofParameter, ParameterLocation.placement, Placement.isParameter]
  rw [declaredInputs, List.filter_append, hparameters, List.nil_append]

/-- The place of all inputs of a body. -/
def bodyPlacement (binder : Binder) (body : RequestBody) : Placement :=
  if binder.isFlattened body then .bodyProperty else .body

/-- The inputs of a body are its properties, or the whole body alone. -/
theorem placement_of_mem_bodyInputs {body : RequestBody} {input : DeclaredInput}
    (h : input ∈ binder.bodyInputs body) : input.placement = binder.bodyPlacement body := by
  unfold bodyInputs at h
  unfold bodyPlacement
  split at h
  · obtain ⟨property, _, rfl⟩ := List.mem_map.1 h
    simp [*, ofProperty]
  · obtain rfl := List.mem_singleton.1 h
    simp [*, ofWholeBody]

/-- No input of a body is a parameter. -/
theorem isParameter_of_mem_bodyInputs {body : RequestBody} {input : DeclaredInput}
    (h : input ∈ binder.bodyInputs body) : input.placement.isParameter = false := by
  rw [placement_of_mem_bodyInputs h, bodyPlacement]
  split <;> rfl

/-- The properties of a flattened body are declared inputs. -/
theorem ofProperty_mem_declaredInputs {body : RequestBody} (hbody : operation.body = some body)
    (hflat : binder.isFlattened body = true) {property : String × Schema}
    (hproperty : property ∈ (binder.bodySchema body).properties) :
    binder.ofProperty body property ∈ binder.declaredInputs operation := by
  refine List.mem_append_right _ ?_
  simp only [hbody, Option.map_some, Option.getD_some, bodyInputs, hflat, if_true]
  exact List.mem_map_of_mem hproperty

/-- A whole body is a declared input. -/
theorem ofWholeBody_mem_declaredInputs {body : RequestBody} (hbody : operation.body = some body)
    (hwhole : binder.isFlattened body = false) :
    binder.ofWholeBody body ∈ binder.declaredInputs operation := by
  refine List.mem_append_right _ ?_
  simp [hbody, bodyInputs, hwhole]

/-- An input at a place of parameters is one of them. -/
theorem exists_parameter_of_isParameter {input : DeclaredInput}
    (hinput : input ∈ binder.declaredInputs operation)
    (hplace : input.placement.isParameter = true) :
    ∃ parameter ∈ operation.parameters, input = binder.ofParameter parameter := by
  rcases List.mem_append.1 hinput with hparameter | hbody
  · obtain ⟨parameter, hmem, heq⟩ := List.mem_map.1 hparameter
    exact ⟨parameter, hmem, heq.symm⟩
  · cases hdeclared : operation.body with
    | none => simp [hdeclared] at hbody
    | some body =>
        rw [hdeclared, Option.map_some, Option.getD_some] at hbody
        rw [isParameter_of_mem_bodyInputs hbody] at hplace
        cases hplace

/-- An input that is no parameter is one of the inputs of the body. -/
theorem exists_body_of_placement {input : DeclaredInput}
    (hinput : input ∈ binder.declaredInputs operation)
    (hplace : input.placement.isParameter = false) :
    ∃ body, operation.body = some body ∧ input ∈ binder.bodyInputs body := by
  have hmem : input ∈ (binder.declaredInputs operation).filter
      (fun other => other.placement == input.placement) :=
    List.mem_filter.2 ⟨hinput, beq_self_eq_true _⟩
  rw [filter_placement_declaredInputs hplace] at hmem
  have hinside := List.mem_of_mem_filter hmem
  cases hbody : operation.body with
  | none =>
      rw [hbody] at hinside
      exact absurd hinside List.not_mem_nil
  | some body =>
      rw [hbody] at hinside
      exact ⟨body, rfl, hinside⟩

/-- An input at the place of a whole body is the whole body. -/
theorem exists_wholeBody_of_placement {input : DeclaredInput}
    (hinput : input ∈ binder.declaredInputs operation) (hplace : input.placement = .body) :
    ∃ body, operation.body = some body ∧ binder.isFlattened body = false ∧
      input = binder.ofWholeBody body := by
  obtain ⟨body, hbody, hmem⟩ := exists_body_of_placement hinput (by rw [hplace]; rfl)
  have hbodyPlace := placement_of_mem_bodyInputs hmem
  cases hflat : binder.isFlattened body with
  | true => simp [bodyPlacement, hflat, hplace] at hbodyPlace
  | false =>
      have honly : input = binder.ofWholeBody body := by
        simpa [bodyInputs, hflat] using hmem
      exact ⟨body, hbody, hflat, honly⟩

/-- An input at the place of a property is a property of a flattened body. -/
theorem exists_property_of_placement {input : DeclaredInput}
    (hinput : input ∈ binder.declaredInputs operation) (hplace : input.placement = .bodyProperty) :
    ∃ body, operation.body = some body ∧ binder.isFlattened body = true ∧
      ∃ property ∈ (binder.bodySchema body).properties,
        input = binder.ofProperty body property := by
  obtain ⟨body, hbody, hmem⟩ := exists_body_of_placement hinput (by rw [hplace]; rfl)
  have hbodyPlace := placement_of_mem_bodyInputs hmem
  cases hflat : binder.isFlattened body with
  | false => simp [bodyPlacement, hflat, hplace] at hbodyPlace
  | true =>
      rw [bodyInputs, if_pos hflat] at hmem
      obtain ⟨property, hproperty, rfl⟩ := List.mem_map.1 hmem
      exact ⟨body, hbody, hflat, property, hproperty, rfl⟩

/-- A property of a body is always filled by someone. -/
theorem isFilled_of_bodyProperty {input : DeclaredInput} (h : input.placement = .bodyProperty) :
    binder.isFilled input = true := by
  unfold isFilled supply
  rw [h]
  cases binder.boundValue? input <;> cases binder.presetValue? input <;>
    simp [Placement.isParameter]

/-! ## What is sent to a place -/

/-- The names of what is sent to a place are names of deliveries to it. -/
theorem sublist_names_jsonsAt (place : Placement) (deliveries : List Delivery) :
    (Entries.names (Delivery.jsonsAt place deliveries)).Sublist
      ((deliveries.filter fun delivery => delivery.placement == place).map Delivery.name) := by
  induction deliveries with
  | nil => exact List.Sublist.refl _
  | cons delivery rest ih =>
      simp only [Delivery.jsonsAt, Entries.names, List.filterMap_cons] at ih ⊢
      by_cases hplace : delivery.placement = place
      · cases hnull : delivery.value.isNull with
        | true => simpa [Delivery.jsonAt?, hplace, hnull] using ih.cons delivery.name
        | false => simpa [Delivery.jsonAt?, hplace, hnull] using ih
      · simpa [Delivery.jsonAt?, hplace] using ih

/-- The deliveries to a place have the names of the inputs that are filled there. -/
theorem names_inputDeliveries (binder : Binder) (operation : Operation) (arguments : List Value)
    (place : Placement) :
    ((binder.inputDeliveries operation arguments).filter
        (fun delivery => delivery.placement == place)).map Delivery.name =
      (((binder.fillings operation arguments).map Filling.input).filter
        (fun input => input.placement == place)).map fun input => input.parameter.name := by
  rw [inputDeliveries, List.filter_map, List.filter_map, List.map_map, List.map_map]
  rfl

/-- What is sent to a place stems from declared inputs of that place, each at most once. -/
theorem subperm_names_jsonsAt (binder : Binder) (operation : Operation) (arguments : List Value)
    (place : Placement) :
    (Entries.names (Delivery.jsonsAt place (binder.inputDeliveries operation arguments))).Subperm
      (((binder.declaredInputs operation).filter fun input => input.placement == place).map
        fun input => input.parameter.name) := by
  have hsent := sublist_names_jsonsAt place (binder.inputDeliveries operation arguments)
  have hperm := ((perm_fillings binder operation arguments).filter
    fun input => input.placement == place).map fun input => input.parameter.name
  rw [names_inputDeliveries] at hsent
  refine hsent.subperm.trans (hperm.subperm.trans ?_)
  refine (List.Sublist.map _ ?_).subperm
  exact List.filter_sublist.filter _

/-- What is filled is what is declared and not withheld. -/
theorem mem_map_input_fillings {input : DeclaredInput} :
    input ∈ (binder.fillings operation arguments).map Filling.input ↔
      input ∈ binder.declaredInputs operation ∧ binder.isFilled input = true := by
  rw [(perm_fillings binder operation arguments).mem_iff, List.mem_filter]

/-- What is filled is a declared input that someone fills. -/
theorem input_of_mem_fillings {filling : Filling}
    (h : filling ∈ binder.fillings operation arguments) :
    filling.input ∈ binder.declaredInputs operation ∧ binder.isFilled filling.input = true :=
  mem_map_input_fillings.1 (List.mem_map_of_mem h)

/-- A delivery goes to the place of a declared input. -/
theorem exists_input_of_delivery {delivery : Delivery}
    (h : delivery ∈ binder.inputDeliveries operation arguments) :
    ∃ input ∈ binder.declaredInputs operation, input.placement = delivery.placement := by
  obtain ⟨filling, hfilling, rfl⟩ := List.mem_map.1 h
  have hinput := input_of_mem_fillings hfilling
  exact ⟨filling.input, hinput.1, rfl⟩

/-- A declared input that anyone fills is delivered. -/
theorem exists_delivery_of_input (arguments : List Value) {input : DeclaredInput}
    (h : input ∈ binder.declaredInputs operation) (hfilled : binder.isFilled input = true) :
    ∃ delivery ∈ binder.inputDeliveries operation arguments,
      delivery.placement = input.placement := by
  have hinput : input ∈ (binder.fillings operation arguments).map Filling.input :=
    mem_map_input_fillings.2 ⟨h, hfilled⟩
  obtain ⟨filling, hfilling, rfl⟩ := List.mem_map.1 hinput
  exact ⟨filling.delivery, List.mem_map_of_mem hfilling, rfl⟩

/-! ## The body -/

/-- Nothing is sent to a place where no input is declared. -/
theorem jsonsAt_eq_nil {place : Placement}
    (h : (binder.declaredInputs operation).filter (fun input => input.placement == place) = []) :
    Delivery.jsonsAt place (binder.inputDeliveries operation arguments) = [] := by
  have hnames := subperm_names_jsonsAt binder operation arguments place
  rw [h, List.map_nil, List.subperm_nil] at hnames
  exact List.map_eq_nil_iff.1 hnames

/-- Nothing goes to a place where no input is declared. -/
theorem any_placement_eq_false {place : Placement}
    (h : (binder.declaredInputs operation).filter (fun input => input.placement == place) = []) :
    (binder.inputDeliveries operation arguments).any
      (fun delivery => delivery.placement == place) = false := by
  rw [List.any_eq_false]
  intro delivery hdelivery hplace
  obtain ⟨input, hinput, heq⟩ := exists_input_of_delivery hdelivery
  rw [List.filter_eq_nil_iff] at h
  exact h input hinput (by rw [heq]; exact hplace)

/-- The inputs of a body all stand at one place. -/
theorem filter_placement_bodyInputs (binder : Binder) (place : Placement) {body : RequestBody}
    (hbody : operation.body = some body) (hplace : place.isParameter = false) :
    (binder.declaredInputs operation).filter (fun input => input.placement == place) =
      if place = binder.bodyPlacement body then binder.bodyInputs body else [] := by
  rw [filter_placement_declaredInputs hplace, hbody, Option.map_some, Option.getD_some]
  split
  next heq =>
    rw [List.filter_eq_self]
    intro input hinput
    simp [placement_of_mem_bodyInputs hinput, heq]
  next hne =>
    rw [List.filter_eq_nil_iff]
    intro input hinput heq
    rw [placement_of_mem_bodyInputs hinput, beq_iff_eq] at heq
    exact hne heq.symm

/-- A request of an operation without body has none. -/
theorem body_requestOf_of_none (hbody : operation.body = none) :
    ((binder.describe operation).requestOf (binder.inputDeliveries operation arguments)).body =
      none := by
  have hnone : ∀ place : Placement, place.isParameter = false →
      (binder.declaredInputs operation).filter (fun input => input.placement == place) = [] := by
    intro place hplace
    rw [filter_placement_declaredInputs hplace, hbody]
    rfl
  simp only [ConnectorFunction.requestOf]
  rw [jsonsAt_eq_nil (hnone .body rfl), any_placement_eq_false (hnone .bodyProperty rfl)]
  rfl

/-- A whole body is sent as it is, if it is not null. -/
theorem body_requestOf_of_whole {body : RequestBody} (hbody : operation.body = some body)
    (hwhole : binder.isFlattened body = false) :
    ((binder.describe operation).requestOf (binder.inputDeliveries operation arguments)).body =
      (Delivery.jsonsAt .body (binder.inputDeliveries operation arguments)).head?.map
        Prod.snd := by
  have hplace := filter_placement_bodyInputs binder .body hbody rfl
  have hother := filter_placement_bodyInputs binder .bodyProperty hbody rfl
  simp only [bodyPlacement, hwhole, Bool.false_eq_true, if_false, if_true, reduceCtorEq]
    at hplace hother
  have hlength := (subperm_names_jsonsAt binder operation arguments .body).length_le
  rw [hplace, List.length_map, Entries.names, List.length_map, bodyInputs, hwhole] at hlength
  simp only [ConnectorFunction.requestOf]
  rw [any_placement_eq_false hother]
  -- there is one whole body at most, so the last one is the first one
  rcases hsent : Delivery.jsonsAt .body (binder.inputDeliveries operation arguments) with
    _ | ⟨whole, _ | ⟨second, rest⟩⟩
  · rfl
  · rfl
  · simp [hsent] at hlength

/-- No two properties of a flattened body are sent under one name. -/
theorem nodup_names_jsonsAt (arguments : List Value) {body : RequestBody}
    (hbody : operation.body = some body)
    (hflat : binder.isFlattened body = true)
    (hsorted : Entries.Sorted (binder.bodySchema body).properties) :
    (Entries.names (Delivery.jsonsAt .bodyProperty
      (binder.inputDeliveries operation arguments))).Nodup := by
  have hplace := filter_placement_bodyInputs binder .bodyProperty hbody rfl
  simp only [bodyPlacement, hflat, if_true] at hplace
  obtain ⟨names, hperm, hsublist⟩ :=
    subperm_names_jsonsAt binder operation arguments .bodyProperty
  rw [hplace, bodyInputs, if_pos hflat, List.map_map] at hsublist
  exact hperm.nodup_iff.1 ((Entries.nodup_names_of_sorted hsorted).sublist hsublist)

/-- A flattened body is sent as an object of its properties, even if none has a value. -/
theorem body_requestOf_of_flattened {body : RequestBody} (hbody : operation.body = some body)
    (hflat : binder.isFlattened body = true)
    (hsorted : Entries.Sorted (binder.bodySchema body).properties) :
    ((binder.describe operation).requestOf (binder.inputDeliveries operation arguments)).body =
      some (.obj (Delivery.jsonsAt .bodyProperty
        (binder.inputDeliveries operation arguments))) := by
  have hother := filter_placement_bodyInputs binder .body hbody rfl
  simp only [bodyPlacement, hflat, if_false, if_true, reduceCtorEq] at hother
  have hany : (binder.inputDeliveries operation arguments).any
      (fun delivery => delivery.placement == .bodyProperty) = true := by
    obtain ⟨property, rest, hproperties⟩ := List.exists_cons_of_ne_nil
      (by simpa [isFlattened] using hflat : (binder.bodySchema body).properties ≠ [])
    have hinput := ofProperty_mem_declaredInputs hbody hflat
      (hproperties ▸ List.mem_cons_self : property ∈ (binder.bodySchema body).properties)
    obtain ⟨delivery, hdelivery, heq⟩ :=
      exists_delivery_of_input arguments hinput (isFilled_of_bodyProperty rfl)
    rw [List.any_eq_true]
    exact ⟨delivery, hdelivery, by simp [heq, ofProperty]⟩
  simp only [ConnectorFunction.requestOf]
  rw [jsonsAt_eq_nil hother, hany,
    Entries.merge_eq_self (nodup_names_jsonsAt arguments hbody hflat hsorted)]
  rfl

/-- The body of a request is the one that the declared inputs make up. -/
theorem body_requestOf (arguments : List Value)
    (hsorted : ∀ body, operation.body = some body →
      Entries.Sorted (binder.bodySchema body).properties) :
    ((binder.describe operation).requestOf (binder.inputDeliveries operation arguments)).body =
      binder.sentBody operation (binder.inputDeliveries operation arguments) := by
  unfold sentBody
  cases hbody : operation.body with
  | none => exact body_requestOf_of_none hbody
  | some body =>
      cases hflat : binder.isFlattened body with
      | true =>
          simpa [hflat] using body_requestOf_of_flattened hbody hflat (hsorted body hbody)
      | false => simpa [hflat] using body_requestOf_of_whole hbody hflat

/-! ## The request -/

/-- A flattened body of an operation that was read lists its properties by name. -/
theorem sorted_properties_bodySchema (hparsed : binder.document.IsParsed)
    (hoperation : operation ∈ binder.document.operations) {body : RequestBody}
    (hbody : operation.body = some body) :
    Entries.Sorted (binder.bodySchema body).properties := by
  have hdocument := Document.wellFormed_of_isParsed hparsed
  have hschema := (hdocument.operations operation hoperation).body body hbody
  exact (hdocument.target hschema).sorted

/-- A call of a bound function is accepted if its arguments pass and what fills the
inputs can be sent, and then its request is made of that. -/
theorem buildRequest_describe_eq_ok_iff {request : Request} :
    (binder.describe operation).buildRequest arguments = .ok request ↔
      (binder.describe operation).checkArguments arguments = .ok () ∧
        (∀ delivery ∈ binder.inputDeliveries operation arguments, delivery.Sendable) ∧
        request = (binder.describe operation).requestOf
          (binder.inputDeliveries operation arguments) := by
  rw [ConnectorFunction.buildRequest_eq_ok_iff, deliveries_describe]

/-- In every call of a bound function that is accepted, the request carries exactly what
the declared inputs of the operation are filled with. -/
theorem routed_of_buildRequest (hparsed : binder.document.IsParsed)
    (hoperation : operation ∈ binder.document.operations) {request : Request}
    (hbuild : (binder.describe operation).buildRequest arguments = .ok request) :
    Routed binder operation arguments request := by
  obtain ⟨_, hsendable, rfl⟩ := buildRequest_describe_eq_ok_iff.1 hbuild
  have hsorted : ∀ body, operation.body = some body →
      Entries.Sorted (binder.bodySchema body).properties := fun _ hbody =>
    sorted_properties_bodySchema hparsed hoperation hbody
  exact
    { signature := parameters_describe
      propertyOrder := hsorted
      once := perm_fillings binder operation arguments
      sendable := hsendable
      method := rfl
      pathAndQuery := rfl
      headers := rfl
      body := body_requestOf arguments hsorted }

/-! ## A store -/

/-- A description of a store, whose only operation has inputs of every kind. -/
def storeDescription : Json :=
  .obj
    [("swagger", .str "2.0"), ("basePath", .str "/v1"),
      ("paths", .obj [("/items/\x7bid\x7d", .obj [("post", .obj
        [("operationId", .str "Store"),
          ("parameters", .arr
            [.obj [("name", .str "note"), ("in", .str "query"), ("type", .str "string")],
              .obj [("name", .str "version"), ("in", .str "query"), ("type", .str "string"),
                ("default", .str "2"), ("x-ms-visibility", .str "internal")],
              .obj [("name", .str "connectionId"), ("in", .str "header"),
                ("type", .str "string")],
              .obj [("name", .str "id"), ("in", .str "path"), ("type", .str "string")],
              .obj [("name", .str "item"), ("in", .str "body"), ("required", .bool true),
                ("schema", .obj
                  [("required", .arr [.str "id"]),
                    ("properties", .obj
                      [("size", .obj [("type", .str "string")]),
                        ("id", .obj [("type", .str "string")])])])]])])])])]

/-- An item of the store: its name, which it must have, and its size. -/
def storeItem : Schema where
  properties := [("id", .ofType "string"), ("size", .ofType "string")]
  required := ["id"]

/-- A parameter of the store, an optional text that callers see. -/
def storeParameter (name : String) (location : ParameterLocation) : Parameter where
  name := name
  location := location
  required := false
  schema := .ofType "string"
  default := none
  isInternal := false
  description := none

/-- The operation that stores an item. -/
def storeOperation : Operation where
  name := "Store"
  method := .post
  path := "/items/\x7bid\x7d"
  summary := none
  description := none
  deprecated := false
  parameters :=
    [storeParameter "note" .query,
      { storeParameter "version" .query with default := some (.str "2"), isInternal := true },
      storeParameter "connectionId" .header,
      { storeParameter "id" .path with required := true }]
  body := some { name := "item", required := true, schema := storeItem }
  response := none

/-- The store as it is read. -/
def storeDocument : Document where
  version := .swagger2
  title := none
  basePath := "/v1"
  schemas := []
  operations := [storeOperation]

/-- The description of the store is read as the store. -/
theorem isParsed_storeDocument : storeDocument.IsParsed :=
  ⟨storeDescription, rfl⟩

/-- A connector of the store, whose connection is given at binding time. -/
def storeBinder : Binder where
  document := storeDocument
  settings := { namespaceName := "Shop" }
  globals := [("connectionId", .str "c")]

/-- Storing an item without a note routes the two required inputs called `id` to their
places, beside the connection and the internal version. -/
theorem routed_store : ∃ request : Request,
    request =
        { method := .post
          pathAndQuery := "/v1/items/a%2Fb?version=2"
          headers := [("connectionId", "c")]
          body := some (.obj [("id", .str "x"), ("size", .str "big")]) } ∧
      (storeBinder.describe storeOperation).buildRequest
        [.str "a/b", .str "x", .null, .str "big"] = .ok request ∧
      Routed storeBinder storeOperation [.str "a/b", .str "x", .null, .str "big"] request :=
  ⟨_, rfl, rfl, routed_of_buildRequest isParsed_storeDocument List.mem_cons_self rfl⟩

end Binder

end ApiBinding
