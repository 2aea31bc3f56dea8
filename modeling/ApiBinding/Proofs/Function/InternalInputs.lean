import ApiBinding.Proofs.Function.CarriedInputs

/-!
# Internal inputs

An internal input without a value given at binding time is sent with its default if it has
one.  Without a default a parameter is shown to callers if it is required, and is left out
of every request otherwise; a property of a flattened body is shown either way.

Main results:

- Theorem `supply_of_internal`: who fills an internal input.
- Theorem `not_mem_textsAt_of_isAlone`: no text travels for what nobody fills.
- Theorem `internalRule_of_isParsed`: when an internal input is shown, and what is sent of it.
- Theorem `diaryTrail_shown`: an internal property that is not required and has no default
  is shown, and it is sent if the caller passes it.
-/

namespace ApiBinding

namespace Binder

variable {binder : Binder} {operation : Operation} {arguments : List Value} {request : Request}
  {input : DeclaredInput}

/-- When an internal input is shown to callers, and what is sent of it. -/
structure InternalRule (binder : Binder) (operation : Operation) (input : DeclaredInput) :
    Prop where
  signature : (binder.describe operation).parameters =
    (binder.signatureInputs operation).map DeclaredInput.parameter
  /-- It is shown if it has no default and is required, or is a property of the body. -/
  shown_iff : input ∈ binder.signatureInputs operation ↔
    input.default = none ∧ (input.parameter.required = true ∨ input.placement = .bodyProperty)
  /-- With a default every request carries it with that. -/
  preset : ∀ json, input.default = some json → ∀ arguments request,
    (binder.describe operation).buildRequest arguments = .ok request →
      Carries binder operation arguments request input (binder.defaultValue json)
  /-- A parameter that has no default and is not required is filled by nobody: under its name
  its location has nothing, and no request carries it with any value.  Only a parameter without
  name could be mistaken for another one there. -/
  withheld : input.default = none → input.parameter.required = false →
    input.placement ≠ .bodyProperty → ∀ arguments request,
      (binder.describe operation).buildRequest arguments = .ok request →
        (∀ filling ∈ binder.fillings operation arguments, filling.input ≠ input) ∧
          ((input.parameter.name = "" → IsAlone binder operation input) →
            (∀ text, (input.parameter.name, text) ∉ Delivery.textsAt input.placement
                (binder.inputDeliveries operation arguments)) ∧
              ∀ value, ¬Carries binder operation arguments request input value)

/-! ## Who fills an internal input -/

/-- Without a value given at binding time an internal input is filled with its default, and
without one by the caller, unless it is a parameter that is not required. -/
theorem supply_of_internal (hinternal : input.isInternal = true)
    (hfree : Entries.find? input.parameter.name binder.globals = none) :
    binder.supply input =
      match input.default with
      | some json => .preset (binder.defaultValue json)
      | none =>
        if !input.parameter.required && input.placement.isParameter then .withheld
        else .caller := by
  have hbound : binder.boundValue? input = none := by
    unfold boundValue?
    split
    · rfl
    · exact hfree
  cases hdefault : input.default <;> simp [supply, hbound, presetValue?, hinternal, hdefault]

/-- No internal input is a whole body. -/
theorem placement_ne_body_of_internal (hinput : input ∈ binder.declaredInputs operation)
    (hinternal : input.isInternal = true) : input.placement ≠ .body := by
  intro hplace
  obtain ⟨body, _, _, rfl⟩ := exists_wholeBody_of_placement hinput hplace
  cases hinternal

/-- No text travels for what nobody fills, if no other input has its name and its place. -/
theorem not_mem_textsAt_of_isAlone (halone : IsAlone binder operation input)
    (hunfilled : ∀ filling ∈ binder.fillings operation arguments, filling.input ≠ input)
    (text : String) : (input.parameter.name, text) ∉ Delivery.textsAt input.placement
      (binder.inputDeliveries operation arguments) := by
  intro hsent
  obtain ⟨filling, hfilling, hplace, hname, _⟩ := mem_textsAt_iff.1 hsent
  have hinput := input_of_mem_fillings hfilling
  exact hunfilled filling hfilling (halone filling.input hinput.1 hplace hname)

/-- No request carries an input for which no text travels. -/
theorem not_carries_of_not_mem_textsAt (hrouted : Routed binder operation arguments request)
    (htext : input.placement.isText = true)
    (hnothing : ∀ text, (input.parameter.name, text) ∉ Delivery.textsAt input.placement
      (binder.inputDeliveries operation arguments))
    (value : Value) : ¬Carries binder operation arguments request input value := by
  unfold Carries
  cases hplace : input.placement with
  | path | query =>
      rintro ⟨_, text, _, hsent, _⟩
      exact hnothing text (hplace ▸ hsent)
  | header =>
      rintro ⟨text, _, hsent⟩
      rw [hrouted.headers] at hsent
      exact hnothing text (hplace ▸ hsent)
  | body | bodyProperty =>
      rw [hplace] at htext
      cases htext

/-! ## The rule -/

/-- An internal input is shown to callers if it has no default and is required, or is a
property of the body. -/
theorem mem_signatureInputs_iff_of_internal (hinput : input ∈ binder.declaredInputs operation)
    (hinternal : input.isInternal = true)
    (hfree : Entries.find? input.parameter.name binder.globals = none) :
    input ∈ binder.signatureInputs operation ↔ input.default = none ∧
      (input.parameter.required = true ∨ input.placement = .bodyProperty) := by
  have hplace := placement_ne_body_of_internal hinput hinternal
  have hparameter : input.placement.isParameter = false ↔ input.placement = .bodyProperty := by
    cases hcase : input.placement <;> simp_all [Placement.isParameter]
  rw [perm_signatureInputs.mem_iff, List.mem_filter, isVisible,
    supply_of_internal hinternal hfree]
  cases hdefault : input.default with
  | some json => simp
  | none =>
      cases hrequired : input.parameter.required with
      | true => simp [hinput]
      | false =>
          rw [← hparameter]
          cases input.placement.isParameter <;> simp [hinput]

/-- Internal inputs of a description that is read follow the rule, under every binding that
gives them no value. -/
theorem internalRule_of_isParsed (hparsed : binder.document.IsParsed)
    (hoperation : operation ∈ binder.document.operations)
    (hinput : input ∈ binder.declaredInputs operation) (hinternal : input.isInternal = true)
    (hfree : Entries.find? input.parameter.name binder.globals = none) :
    InternalRule binder operation input where
  signature := parameters_describe
  shown_iff := mem_signatureInputs_iff_of_internal hinput hinternal hfree
  preset json hdefault arguments request hbuild := by
    have hhidden : binder.hiddenValue? input = some (binder.defaultValue json) := by
      rw [hiddenValue?, supply_of_internal hinternal hfree, hdefault]
    have hnull := isNull_defaultValue hparsed hoperation hinput hdefault
    exact carries_of_hidden hparsed hoperation hbuild hinput hhidden hnull
  withheld hdefault hrequired hproperty arguments request hbuild := by
    have hbody := placement_ne_body_of_internal hinput hinternal
    have hparameter : input.placement.isParameter = true ∧ input.placement.isText = true := by
      cases hplace : input.placement <;>
        simp_all [Placement.isParameter, Placement.isText]
    have hunfilled : ∀ filling ∈ binder.fillings operation arguments, filling.input ≠ input := by
      rintro filling hfilling rfl
      have hfilled := (input_of_mem_fillings hfilling).2
      rw [isFilled, supply_of_internal hinternal hfree] at hfilled
      simp [hdefault, hrequired, hparameter.1] at hfilled
    have hrouted := routed_of_buildRequest hparsed hoperation hbuild
    refine ⟨hunfilled, fun hnameless => ?_⟩
    have halone : IsAlone binder operation input := by
      by_cases hnamed : input.parameter.name = ""
      · exact hnameless hnamed
      · exact (isOnly_of_isParameter hparsed hoperation hinput hparameter.1
          fun h => absurd h hnamed).isAlone
    have hnothing := not_mem_textsAt_of_isAlone halone hunfilled
    exact ⟨hnothing, not_carries_of_not_mem_textsAt hrouted hparameter.2 hnothing⟩

/-! ## A diary -/

/-- How an internal text is declared. -/
def internalTextWith (fields : List (String × Json)) : Json :=
  .obj ([("type", .str "string"), ("x-ms-visibility", .str "internal")] ++ fields)

/-- A description with a single operation, which writes into a diary and has internal inputs
of all kinds. -/
def diaryDescription : Json :=
  .obj
    [("swagger", .str "2.0"), ("basePath", .str "/v1"),
      ("paths", .obj [("/entries", .obj [("post", .obj
        [("operationId", .str "Write"),
          ("parameters", .arr
            [internalTextWith
                [("name", .str "version"), ("in", .str "query"), ("default", .str "2")],
              internalTextWith [("name", .str "trace"), ("in", .str "header")],
              internalTextWith
                [("name", .str "tenant"), ("in", .str "query"), ("required", .bool true)],
              .obj [("name", .str "entry"), ("in", .str "body"),
                ("schema", .obj
                  [("properties", .obj
                    [("kind", internalTextWith [("default", .str "plain")]),
                      ("text", .obj [("type", .str "string")]),
                      ("trail", internalTextWith [])])])]])])])])]

/-- The version of the diary, which has a default. -/
def diaryVersion : Parameter :=
  { storeParameter "version" .query with default := some (.str "2"), isInternal := true }

/-- The trace of a call, which need not be there. -/
def diaryTrace : Parameter :=
  { storeParameter "trace" .header with isInternal := true }

/-- The tenant, which must be there. -/
def diaryTenant : Parameter :=
  { storeParameter "tenant" .query with required := true, isInternal := true }

/-- The kind of an entry, which has a default. -/
def diaryKind : String × Schema :=
  ("kind", { Schema.ofType "string" with
    default := some (.str "plain"), visibility := some "internal" })

/-- The trail of an entry, which need not be there. -/
def diaryTrail : String × Schema :=
  ("trail", { Schema.ofType "string" with visibility := some "internal" })

/-- An entry of the diary. -/
def diaryEntry : RequestBody where
  name := "entry"
  required := false
  schema := { properties := [diaryKind, ("text", .ofType "string"), diaryTrail] }

/-- The operation that writes into the diary. -/
def diaryOperation : Operation where
  name := "Write"
  method := .post
  path := "/entries"
  summary := none
  description := none
  deprecated := false
  parameters := [diaryVersion, diaryTrace, diaryTenant]
  body := some diaryEntry
  response := none

/-- A connector of the diary. -/
def diaryBinder : Binder where
  document :=
    { version := .swagger2
      title := none
      basePath := "/v1"
      schemas := []
      operations := [diaryOperation] }
  settings := { namespaceName := "N" }
  globals := []

/-- The request that writes an entry without a text. -/
def diaryRequest : Request where
  method := .post
  pathAndQuery := "/v1/entries?version=2&tenant=t"
  headers := []
  body := some (.obj [("kind", .str "plain")])

/-- Of the internal inputs of the diary the tenant is shown, the kind is sent with its
default, and the trace is not sent. -/
theorem internalRule_diary :
    diaryBinder.document.IsParsed ∧ diaryOperation ∈ diaryBinder.document.operations ∧
      (diaryBinder.describe diaryOperation).buildRequest [.str "t"] = .ok diaryRequest ∧
      diaryBinder.ofParameter diaryTenant ∈ diaryBinder.signatureInputs diaryOperation ∧
      diaryRequest.bodyMember? "kind" = some (.str "plain") ∧
      (∀ filling ∈ diaryBinder.fillings diaryOperation [.str "t"],
        filling.input ≠ diaryBinder.ofParameter diaryTrace) ∧
      InternalRule diaryBinder diaryOperation (diaryBinder.ofParameter diaryTenant) ∧
      InternalRule diaryBinder diaryOperation (diaryBinder.ofProperty diaryEntry diaryKind) ∧
      InternalRule diaryBinder diaryOperation (diaryBinder.ofParameter diaryTrace) := by
  have hparsed : diaryBinder.document.IsParsed := ⟨diaryDescription, rfl⟩
  have hrequest : (diaryBinder.describe diaryOperation).buildRequest [.str "t"] =
      .ok diaryRequest := rfl
  have hparameter : ∀ parameter ∈ diaryOperation.parameters,
      diaryBinder.ofParameter parameter ∈ diaryBinder.declaredInputs diaryOperation :=
    fun _ h => List.mem_append_left _ (List.mem_map_of_mem h)
  have htenant := internalRule_of_isParsed hparsed List.mem_cons_self
    (hparameter diaryTenant (by simp [diaryOperation])) rfl rfl
  have hproperty : diaryBinder.ofProperty diaryEntry diaryKind ∈
      diaryBinder.declaredInputs diaryOperation :=
    ofProperty_mem_declaredInputs rfl rfl List.mem_cons_self
  have hkind := internalRule_of_isParsed hparsed List.mem_cons_self hproperty rfl rfl
  have htrace := internalRule_of_isParsed hparsed List.mem_cons_self
    (hparameter diaryTrace (by simp [diaryOperation])) rfl rfl
  exact ⟨hparsed, List.mem_cons_self, hrequest, htenant.shown_iff.2 ⟨rfl, .inl rfl⟩,
    hkind.preset _ rfl _ _ hrequest,
    (htrace.withheld rfl rfl (by decide) _ _ hrequest).1, htenant, hkind, htrace⟩

/-- The trail is internal, has no default and is not required, and yet it is shown, and it is
sent if the caller passes it; the trace, of which the same is true, is not shown. -/
theorem diaryTrail_shown :
    diaryBinder.document.IsParsed ∧ diaryOperation ∈ diaryBinder.document.operations ∧
      diaryBinder.ofProperty diaryEntry diaryTrail ∈ diaryBinder.declaredInputs diaryOperation ∧
      diaryTrail.2.isInternal = true ∧ diaryTrail.2.default = none ∧
      (diaryBinder.ofProperty diaryEntry diaryTrail).parameter.required = false ∧
      Entries.find? diaryTrail.1 diaryBinder.globals = none ∧
      (diaryBinder.describe diaryOperation).parameters.map FunctionParameter.name =
        ["tenant", "text", "trail"] ∧
      (diaryBinder.describe diaryOperation).buildRequest [.str "t", .null, .str "x"] =
        .ok { diaryRequest with
              body := some (.obj [("kind", .str "plain"), ("trail", .str "x")]) } := by
  refine ⟨⟨diaryDescription, rfl⟩, List.mem_cons_self, ?_, rfl, rfl, rfl, rfl, rfl, rfl⟩
  refine ofProperty_mem_declaredInputs rfl rfl ?_
  simp [bodySchema, diaryEntry, Schema.target?]

end Binder

end ApiBinding
