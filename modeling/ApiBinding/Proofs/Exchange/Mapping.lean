import ApiBinding.Proofs.Exchange.Resolution
import ApiBinding.Proofs.Function.CarriedInputs

/-!
# Mapped parameters

A shape that another operation describes says how the parameters of that operation are
filled: with a literal, or with the value given at binding time under some name.  The
operation is called as any caller would call it.  So the mapping fills what callers see of
the operation, and not what is filled without them: an input with a bound name or with an
internal default keeps that value, whatever the mapping says.

Main results:

- Theorem `mapM_mappedArgument_eq_ok_iff`: the arguments that a mapping gives.
- Theorems `run_resolveDynamic_of_error` and `snd_run_resolveDynamic`: asking for a shape
  fails at a required parameter without a value, and otherwise calls the operation.
- Theorem `exists_call_of_sent`: a request for a shape is that of such a call.
- Theorem `carriesMapped_of_buildRequest`: the request carries what is mapped.
- Theorem `asksAsMapped_resolveReturnType`: when a shape is asked for, and with which request.
- Theorem `mapping_overruled`: a mapping for inputs that are hidden has no effect.
-/

namespace ApiBinding

namespace Exchange

variable {ι σ : Type} {transport : Transport ι σ} {function target : ConnectorFunction}
  {functions : List ConnectorFunction} {context : Context ι} {shape : DynamicShape}
  {state : ExchangeState ι σ} {name : String} {value : Value} {parameter : FunctionParameter}

/-- A mapping gives a value to a parameter: a literal as it is read, or the value given at
binding time under the name that it refers to. -/
inductive Maps (function : ConnectorFunction) (shape : DynamicShape) (name : String) :
    Value → Prop where
  | literal {json : Json} : Entries.find? name shape.arguments = some (.literal json) →
      Maps function shape name (Conversion.literal function.settings.policy json)
  | bare {json : Json} : Entries.find? name shape.arguments = some (.bare json) →
      Maps function shape name (Conversion.literal function.settings.policy json)
  | bound {source : String} {value : Value} :
      Entries.find? name shape.arguments = some (.reference source) →
        Entries.find? source function.globals = some value → Maps function shape name value

/-- The argument for a parameter of the describing operation: the mapped value, or null for
one that is not required and has none. -/
inductive Fills (function : ConnectorFunction) (shape : DynamicShape)
    (parameter : FunctionParameter) : Value → Prop where
  | mapped {value : Value} : Maps function shape parameter.name value →
      Fills function shape parameter value
  | omitted : parameter.required = false → (∀ value, ¬Maps function shape parameter.name value) →
      Fills function shape parameter .null

/-! ## Arguments -/

/-- The mapped value is what the mapping gives. -/
theorem mappedValue?_eq_some_iff :
    mappedValue? function (Entries.find? name shape.arguments) = some value ↔
      Maps function shape name value := by
  constructor
  · intro h
    cases hfind : Entries.find? name shape.arguments with
    | none => simp [hfind, mappedValue?] at h
    | some argument =>
        rw [hfind] at h
        cases argument with
        | reference source => exact .bound hfind h
        | literal json => exact Option.some.inj h ▸ .literal hfind
        | bare json => exact Option.some.inj h ▸ .bare hfind
  · rintro (hfind | hfind | ⟨hfind, hbound⟩)
    · rw [hfind, mappedValue?]
    · rw [hfind, mappedValue?]
    · rw [hfind, mappedValue?, hbound]

/-- A mapping gives one value at most. -/
theorem Maps.unique {other : Value} (h : Maps function shape name value)
    (hother : Maps function shape name other) : value = other := by
  rw [← mappedValue?_eq_some_iff] at h hother
  exact Option.some.inj (h.symm.trans hother)

/-- Without a mapped value there is none. -/
theorem mappedValue?_eq_none_iff :
    mappedValue? function (Entries.find? name shape.arguments) = none ↔
      ∀ value, ¬Maps function shape name value := by
  simp only [Option.eq_none_iff_forall_ne_some, ne_eq, mappedValue?_eq_some_iff]

/-- A parameter gets what fills it. -/
theorem mappedArgument_eq_ok_iff :
    mappedArgument function target shape parameter = .ok value ↔
      Fills function shape parameter value := by
  unfold mappedArgument
  cases hmapped : mappedValue? function (Entries.find? parameter.name shape.arguments) with
  | some found =>
      have hmaps := mappedValue?_eq_some_iff.1 hmapped
      constructor
      · intro h
        exact Except.ok.inj h ▸ .mapped hmaps
      · rintro (hvalue | ⟨_, hnone⟩)
        · rw [hmaps.unique hvalue]
        · exact absurd hmaps (hnone found)
  | none =>
      have hnone := mappedValue?_eq_none_iff.1 hmapped
      cases hrequired : parameter.required with
      | true =>
          simp only [if_true, reduceCtorEq, false_iff]
          rintro (hvalue | ⟨hoptional, _⟩)
          · exact hnone value hvalue
          · rw [hrequired] at hoptional
            cases hoptional
      | false =>
          simp only [Bool.false_eq_true, if_false, Except.ok.injEq]
          constructor
          · rintro rfl
            exact .omitted hrequired hnone
          · rintro (hvalue | _)
            · exact absurd hvalue (hnone value)
            · rfl

/-- Only a required parameter without a mapped value is missed. -/
theorem mappedArgument_eq_error_iff {fault : SchemaFault} :
    mappedArgument function target shape parameter = .error fault ↔
      parameter.required = true ∧ (∀ value, ¬Maps function shape parameter.name value) ∧
        fault = .missingValue function.qualifiedName parameter.name target.name := by
  rw [← mappedValue?_eq_none_iff]
  unfold mappedArgument
  cases mappedValue? function (Entries.find? parameter.name shape.arguments) <;>
    cases parameter.required <;> simp [eq_comm]

/-- The arguments of the describing operation are what fills its parameters. -/
theorem mapM_mappedArgument_eq_ok_iff {parameters : List FunctionParameter}
    {arguments : List Value} :
    parameters.mapM (mappedArgument function target shape) = .ok arguments ↔
      List.Forall₂ (Fills function shape) parameters arguments := by
  simp only [Traversal.mapM_eq_ok_iff, mappedArgument_eq_ok_iff]

/-- If a required parameter has no mapped value, then one such parameter is missed. -/
theorem exists_missing_of_unmapped {parameters : List FunctionParameter}
    (hparameter : parameter ∈ parameters) (hrequired : parameter.required = true)
    (hunmapped : ∀ value, ¬Maps function shape parameter.name value) :
    ∃ missing ∈ parameters, missing.required = true ∧
      (∀ value, ¬Maps function shape missing.name value) ∧
        parameters.mapM (mappedArgument function target shape) =
          .error (.missingValue function.qualifiedName missing.name target.name) := by
  obtain ⟨missing, hmissing, fault, hfault, hmap⟩ := Traversal.exists_mapM_eq_error
    ⟨parameter, hparameter, _, mappedArgument_eq_error_iff.2 ⟨hrequired, hunmapped, rfl⟩⟩
  obtain ⟨hneeded, hnone, rfl⟩ := mappedArgument_eq_error_iff.1 hfault
  exact ⟨missing, hmissing, hneeded, hnone, hmap⟩

/-- If every required parameter has a mapped value, then all are filled. -/
theorem exists_fills_of_mapped {parameters : List FunctionParameter}
    (hmapped : ∀ parameter ∈ parameters, parameter.required = true →
      ∃ value, Maps function shape parameter.name value) :
    ∃ arguments, List.Forall₂ (Fills function shape) parameters arguments := by
  refine Traversal.exists_forall₂ fun parameter hparameter => ?_
  by_cases hsome : ∃ value, Maps function shape parameter.name value
  · obtain ⟨value, hvalue⟩ := hsome
    exact ⟨value, .mapped hvalue⟩
  · have hoptional : parameter.required = false :=
      Bool.eq_false_iff.2 fun h => hsome (hmapped parameter hparameter h)
    exact ⟨.null, .omitted hoptional (not_exists.1 hsome)⟩

/-! ## Asking for a shape -/

/-- Reading the reply of a call leaves the state as the call does. -/
theorem snd_run_fetchJson (transport : Transport ι σ) (function : ConnectorFunction)
    (context : Context ι) (arguments : List Value) (state : ExchangeState ι σ) :
    ((fetchJson transport function context arguments).run state).2 =
      ((send transport function context arguments).run state).2 :=
  snd_run_bind_of_quiet _ (quiet_readReply function) state

/-- Without the describing operation nothing is sent. -/
theorem run_resolveDynamic_of_foreign {fault : SchemaFault}
    (hfault : describingFunction function functions shape = .error fault) :
    (resolveDynamic transport function functions context shape).run state =
      (.error (.schema fault), state) := by
  rw [resolveDynamic, run_bind, run_ofSchema, hfault]
  rfl

/-- Without an argument for a parameter nothing is sent. -/
theorem run_resolveDynamic_of_error {fault : SchemaFault}
    (htarget : describingFunction function functions shape = .ok target)
    (hfault : target.parameters.mapM (mappedArgument function target shape) = .error fault) :
    (resolveDynamic transport function functions context shape).run state =
      (.error (.schema fault), state) := by
  rw [resolveDynamic, run_bind, run_ofSchema, htarget]
  simp only [Except.mapError]
  rw [run_bind, run_ofSchema, hfault]
  rfl

/-- With all arguments the describing operation is called, and nothing else is sent. -/
theorem snd_run_resolveDynamic {arguments : List Value}
    (htarget : describingFunction function functions shape = .ok target)
    (hfills : List.Forall₂ (Fills function shape) target.parameters arguments) :
    ((resolveDynamic transport function functions context shape).run state).2 =
      ((send transport target context arguments).run state).2 := by
  rw [resolveDynamic, run_bind, run_ofSchema, htarget]
  simp only [Except.mapError]
  rw [run_bind, run_ofSchema, mapM_mappedArgument_eq_ok_iff.2 hfills]
  simp only [Except.mapError]
  rw [snd_run_bind_of_quiet _ fun _ => quiet_ofSchema _, snd_run_fetchJson]

/-- A request that is sent for a shape is that of a call of the describing operation with
what fills its parameters. -/
theorem exists_call_of_sent {invoker : ι} {request : Request}
    (hsent : ((resolveDynamic transport function functions context shape).run state).2.sent =
      state.sent ++ [(invoker, request)]) :
    ∃ target arguments, describingFunction function functions shape = .ok target ∧
      List.Forall₂ (Fills function shape) target.parameters arguments ∧
        target.buildRequest arguments = .ok request ∧
          context.invoker? target.settings.namespaceName = some invoker := by
  cases hfound : describingFunction function functions shape with
  | error fault =>
      rw [run_resolveDynamic_of_foreign hfound] at hsent
      simp at hsent
  | ok target =>
      cases hmap : target.parameters.mapM (mappedArgument function target shape) with
      | error fault =>
          rw [run_resolveDynamic_of_error hfound hmap] at hsent
          simp at hsent
      | ok arguments =>
          have hfills := mapM_mappedArgument_eq_ok_iff.1 hmap
          rw [snd_run_resolveDynamic hfound hfills] at hsent
          obtain ⟨hbuild, hinvoker, _⟩ :=
            ((sends_send _ _ _ _ state).sent_iff invoker request).1 hsent
          exact ⟨target, arguments, rfl, hfills, hbuild, hinvoker⟩

end Exchange

namespace Binder

open Exchange

variable {ι σ : Type} {binder : Binder} {target : Operation}
  {function : ConnectorFunction} {shape : DynamicShape} {arguments : List Value}
  {request : Request}

/-- The request for a shape carries what callers see of the describing operation as it is
mapped, and what they do not see as it is filled without them. -/
structure CarriesMapped (binder : Binder) (function : ConnectorFunction) (shape : DynamicShape)
    (target : Operation) (arguments : List Value) (request : Request) : Prop where
  routed : Routed binder target arguments request
  seen : ∀ input ∈ binder.signatureInputs target, ∀ value,
    Maps function shape input.parameter.name value → value.isNull = false →
      Carries binder target arguments request input value
  /-- Bound values and internal defaults travel whatever the mapping says. -/
  hidden : ∀ input ∈ binder.declaredInputs target, ∀ value,
    binder.hiddenValue? input = some value → value.isNull = false →
      Carries binder target arguments request input value

/-- What resolving the result type of an operation does from a state if another operation
describes its shape. -/
structure AsksAsMapped (transport : Transport ι σ) (binder : Binder)
    (function : ConnectorFunction) (shape : DynamicShape) (context : Context ι)
    (state : ExchangeState ι σ) (run : Except ConnectorError ValueType × ExchangeState ι σ) :
    Prop where
  /-- At most one request is sent. -/
  sent_cases : run.2.sent = state.sent ∨ ∃ request, run.2.sent = state.sent ++ [request]
  /-- If a required parameter of the describing operation has no mapped value, the failure
  names such a parameter, and nothing is sent. -/
  refused : ∀ target ∈ binder.document.operations, target.name = shape.operation →
    ∀ parameter ∈ (binder.describe target).parameters, parameter.required = true →
      (∀ value, ¬Maps function shape parameter.name value) →
        ∃ missing ∈ (binder.describe target).parameters, missing.required = true ∧
          (∀ value, ¬Maps function shape missing.name value) ∧
            run = (.error (.schema (.missingValue function.qualifiedName missing.name
              target.name)), state)
  /-- Otherwise the describing operation is called with what the mapping gives. -/
  called : ∀ target ∈ binder.document.operations, target.name = shape.operation →
    (∀ parameter ∈ (binder.describe target).parameters, parameter.required = true →
      ∃ value, Maps function shape parameter.name value) →
        ∃ arguments, List.Forall₂ (Fills function shape) (binder.describe target).parameters
            arguments ∧
          run.2 = ((send transport (binder.describe target) context arguments).run state).2
  /-- A request that is sent is one of the describing operation, and carries what is mapped. -/
  sent : ∀ invoker request, run.2.sent = state.sent ++ [(invoker, request)] →
    context.invoker? binder.settings.namespaceName = some invoker ∧
      ∃ target ∈ binder.document.operations, target.name = shape.operation ∧
        ∃ arguments, (binder.describe target).buildRequest arguments = .ok request ∧
          CarriesMapped binder function shape target arguments request

/-! ## The describing operation -/

/-- The function that describes a shape is that of the operation with its name. -/
theorem describingFunction_functions (function : ConnectorFunction)
    (hparsed : binder.document.IsParsed)
    (htarget : target ∈ binder.document.operations) (hname : target.name = shape.operation) :
    describingFunction function binder.functions shape = .ok (binder.describe target) := by
  unfold describingFunction
  cases hfind : binder.functions.find? fun candidate => candidate.name == shape.operation with
  | none =>
      rw [List.find?_eq_none] at hfind
      have hmem : binder.describe target ∈ binder.functions := List.mem_map_of_mem htarget
      exact absurd (beq_iff_eq.2 hname) (hfind _ hmem)
  | some found =>
      obtain ⟨other, hother, rfl⟩ := List.mem_map.1 (List.mem_of_find?_eq_some hfind)
      have hsame : (binder.describe other).name = shape.operation := by
        simpa using List.find?_some hfind
      have hnodup := Document.nodup_names_of_isParsed hparsed
      rw [List.inj_on_of_nodup_map hnodup hother htarget (hsame.trans hname.symm)]

/-- Every request for a shape carries what is mapped. -/
theorem carriesMapped_of_buildRequest (hparsed : binder.document.IsParsed)
    (htarget : target ∈ binder.document.operations)
    (hfills : List.Forall₂ (Fills function shape) (binder.describe target).parameters arguments)
    (hbuild : (binder.describe target).buildRequest arguments = .ok request) :
    CarriesMapped binder function shape target arguments request where
  routed := routed_of_buildRequest hparsed htarget hbuild
  seen input hinput value hmaps hnull := by
    obtain ⟨index, hindex⟩ := List.getElem?_of_mem hinput
    rw [parameters_describe, List.forall₂_map_left_iff] at hfills
    obtain ⟨argument, hargument, hfill⟩ := Traversal.exists_getElem?_right hfills hindex
    have hfilling := filling_of_signature arguments hindex
    rw [hargument, Option.getD_some] at hfilling
    cases hfill with
    | mapped hother =>
        obtain rfl := hmaps.unique hother
        exact carries_of_filling hparsed htarget hbuild hfilling hnull
    | omitted _ hnone => exact absurd hmaps (hnone value)
  hidden input hinput value hhidden hnull :=
    carries_of_hidden hparsed htarget hbuild hinput hhidden hnull

/-! ## Asking as mapped -/

/-- A shape that another operation describes is asked for exactly as the mapping says, as far
as the describing operation shows its inputs to callers. -/
theorem asksAsMapped_resolveReturnType (transport : Transport ι σ) (context : Context ι)
    (state : ExchangeState ι σ) (hparsed : binder.document.IsParsed)
    (hreturn : function.returnType = .pending (.dynamic shape)) :
    AsksAsMapped transport binder function shape context state
      ((resolveReturnType transport function binder.functions context).run state) := by
  rw [resolveReturnType, hreturn]
  refine
    { sent_cases := (brief_resolveDynamic _ _ _ _ _).sent_cases state
      refused := ?_
      called := ?_
      sent := ?_ }
  · intro target htarget hname parameter hparameter hrequired hunmapped
    have hfound := describingFunction_functions function hparsed htarget hname
    obtain ⟨missing, hmissing, hneeded, hnone, hmap⟩ :=
      exists_missing_of_unmapped hparameter hrequired hunmapped
    exact ⟨missing, hmissing, hneeded, hnone, run_resolveDynamic_of_error hfound hmap⟩
  · intro target htarget hname hmapped
    have hfound := describingFunction_functions function hparsed htarget hname
    obtain ⟨arguments, hfills⟩ := exists_fills_of_mapped hmapped
    exact ⟨arguments, hfills, snd_run_resolveDynamic hfound hfills⟩
  · intro invoker request hsent
    obtain ⟨found, arguments, hfound, hfills, hbuild, hinvoker⟩ := exists_call_of_sent hsent
    obtain ⟨hmem, hname⟩ := mem_of_describingFunction hfound
    obtain ⟨target, htarget, rfl⟩ := List.mem_map.1 hmem
    exact ⟨hinvoker, target, htarget, hname, arguments, hbuild,
      carriesMapped_of_buildRequest hparsed htarget hfills hbuild⟩

/-! ## A directory -/

/-- The shape of what the directory lists: another operation describes it, and is told the
table, its version and its region. -/
def directoryShape : DynamicShape where
  operation := "GetSchema"
  arguments :=
    [("region", .literal (.str "us")), ("table", .reference "source"),
      ("version", .literal (.str "2"))]
  valuePath := none

/-- A description of a directory, whose items have a shape of their own in every table. -/
def directoryDescription : Json :=
  .obj
    [("swagger", .str "2.0"), ("basePath", .str "/v1"),
      ("paths", .obj
        [("/schema", .obj [("get", .obj
          [("operationId", .str "GetSchema"),
            ("parameters", .arr
              [.obj [("name", .str "table"), ("in", .str "query"), ("required", .bool true),
                  ("type", .str "string")],
                .obj [("name", .str "version"), ("in", .str "query"), ("type", .str "string"),
                  ("default", .str "1"), ("x-ms-visibility", .str "internal")],
                .obj [("name", .str "region"), ("in", .str "query"), ("type", .str "string")]])])]),
          ("/items", .obj [("get", .obj
            [("operationId", .str "ListItems"),
              ("responses", .obj [("200", .obj [("schema", .obj
                [("x-ms-dynamic-schema", .obj
                  [("operationId", .str "GetSchema"),
                    ("parameters", .obj
                      [("region", .obj [("value", .str "us")]),
                        ("table", .obj [("parameter", .str "source")]),
                        ("version", .obj [("value", .str "2")])])])])])])])])])]

/-- The version of the directory, which is internal and has a default. -/
def directoryVersion : Parameter :=
  { storeParameter "version" .query with default := some (.str "1"), isInternal := true }

/-- The operation that describes the shape of a table. -/
def schemaOperation : Operation where
  name := "GetSchema"
  method := .get
  path := "/schema"
  summary := none
  description := none
  deprecated := false
  parameters :=
    [{ storeParameter "table" .query with required := true }, directoryVersion,
      storeParameter "region" .query]
  body := none
  response := none

/-- The operation that lists the items of a table. -/
def itemsOperation : Operation where
  name := "ListItems"
  method := .get
  path := "/items"
  summary := none
  description := none
  deprecated := false
  parameters := []
  body := none
  response := some { dynamicSchema := some directoryShape }

/-- A connector of the directory, with its region and a table given at binding time. -/
def directoryBinder : Binder where
  document :=
    { version := .swagger2
      title := none
      basePath := "/v1"
      schemas := []
      operations := [schemaOperation, itemsOperation] }
  settings := { namespaceName := "N" }
  globals := [("region", .str "eu"), ("source", .str "people")]

/-- An invoker without a connection. -/
def offlineTransport : Transport Unit Unit where
  perform _ _ _ := (.failure .gaveUp, false, ())

/-- The request for the shape of the items. -/
def schemaRequest : Request where
  method := .get
  pathAndQuery := "/v1/schema?version=1&region=eu&table=people"
  headers := []
  body := none

/-- The function that lists the items of a table. -/
def itemsFunction : ConnectorFunction := directoryBinder.describe itemsOperation

/-- Resolving the type of the items, by an invoker that has not sent anything. -/
def resolvedItems : Except ConnectorError ValueType × ExchangeState Unit Unit :=
  (resolveReturnType offlineTransport itemsFunction directoryBinder.functions
    (.temporary ())).run ⟨false, [], ()⟩

/-- The shape of the items is asked for with the table that is given at binding time. -/
theorem asksAsMapped_directory :
    directoryBinder.document.IsParsed ∧
      itemsFunction.returnType = .pending (.dynamic directoryShape) ∧
      Maps itemsFunction directoryShape "table" (.str "people") ∧
      resolvedItems.2.sent = [((), schemaRequest)] ∧
      AsksAsMapped offlineTransport directoryBinder itemsFunction directoryShape (.temporary ())
        ⟨false, [], ()⟩ resolvedItems := by
  have hparsed : directoryBinder.document.IsParsed := ⟨directoryDescription, rfl⟩
  exact ⟨hparsed, rfl, .bound rfl rfl, rfl,
    asksAsMapped_resolveReturnType offlineTransport (.temporary ()) ⟨false, [], ()⟩ hparsed rfl⟩

/-- The version and the region are mapped too, and yet the request has the default of the one
and the bound value of the other. -/
theorem mapping_overruled :
    directoryBinder.document.IsParsed ∧ itemsFunction ∈ directoryBinder.functions ∧
      itemsFunction.returnType = .pending (.dynamic directoryShape) ∧
      schemaOperation ∈ directoryBinder.document.operations ∧
      schemaOperation.name = directoryShape.operation ∧
      resolvedItems.2.sent = [((), schemaRequest)] ∧
      schemaRequest.pathAndQuery = "/v1/schema?version=1&region=eu&table=people" ∧
      (directoryBinder.describe schemaOperation).buildRequest [.str "people"] =
        .ok schemaRequest ∧
      Maps itemsFunction directoryShape "region" (.str "us") ∧
      Maps itemsFunction directoryShape "version" (.str "2") ∧
      directoryBinder.ofParameter directoryVersion ∈
        directoryBinder.declaredInputs schemaOperation ∧
      ¬Carries directoryBinder schemaOperation [.str "people"] schemaRequest
        (directoryBinder.ofParameter directoryVersion) (.str "2") := by
  have hdeclared : directoryBinder.ofParameter directoryVersion ∈
      directoryBinder.declaredInputs schemaOperation :=
    List.mem_append_left _ (List.mem_map_of_mem (by simp [schemaOperation]))
  refine ⟨⟨directoryDescription, rfl⟩, by simp [itemsFunction, functions, directoryBinder], rfl,
    List.mem_cons_self, rfl, rfl, rfl, rfl, mappedValue?_eq_some_iff.1 rfl,
    mappedValue?_eq_some_iff.1 rfl, hdeclared, ?_⟩
  rintro ⟨_, text, htext, hsent, _⟩
  obtain rfl : "2" = text := Option.some.inj htext
  have htexts : Delivery.textsAt .query
      (directoryBinder.inputDeliveries schemaOperation [.str "people"]) =
        [("version", "1"), ("region", "eu"), ("table", "people")] := by
    rw [← deliveries_describe]
    rfl
  rw [htexts] at hsent
  simp [ofParameter, directoryVersion, storeParameter] at hsent

end Binder

end ApiBinding
