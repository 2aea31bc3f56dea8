import ApiBinding.Proofs.Registry.TableBinding

/-!
# Registrations

A registry grows by registrations: a single function, the functions of a description, or
those of a description that is bound as a table.  Each of them comes down to functions that
are registered one after the other; a table that comes of it registers once more the
function that fetches its items.

Main results:

- Theorem `register_eq_insertAll`: which functions a registration registers.
- Theorem `registerAll_eq_insertAll`: so a run of registrations registers those of all of them.
- Theorem `exists_of_mem_added`: a binding registers functions of its operations alone.
-/

namespace ApiBinding

/-- What can be registered. -/
inductive Registration (ι σ : Type) where
  /-- A single function, of the host or of a connector. -/
  | single (function : RegisteredFunction)
  /-- The functions of a description. -/
  | description (settings : BindingSettings) (document : Option Document) (globals : GlobalValues)
  /-- The functions of a description that is bound as a table. -/
  | table (transport : Transport ι σ) (settings : BindingSettings) (name : String)
      (document : Option Document) (globals : GlobalValues) (invoker : ι)
      (state : ExchangeState ι σ)

namespace Registration

/-- The functions of a description; without one there is none. -/
def boundFunctions (settings : BindingSettings) (document : Option Document)
    (globals : GlobalValues) : List ConnectorFunction :=
  (document.map fun document => (Binder.mk document settings globals).functions).getD []

variable {ι σ : Type}

/-- The functions that a registration registers, in order. -/
def added : Registration ι σ → List RegisteredFunction
  | single function => [function]
  | description settings document globals =>
    (boundFunctions settings document globals).map .connector
  | table transport settings name document globals invoker state =>
    let functions := boundFunctions settings document globals
    let outcome := ((Registry.resolveTable transport invoker name functions).run state).1
    functions.map .connector ++
      (outcome.toOption.map fun table => RegisteredFunction.connector table.itemFetch).toList

/-- A registration binds a description under settings, for its functions or as a table. -/
inductive Binds : Registration ι σ → BindingSettings → Document → Prop where
  | description (settings : BindingSettings) (document : Document) (globals : GlobalValues) :
      Binds (description settings (some document) globals) settings document
  | table (transport : Transport ι σ) (settings : BindingSettings) (name : String)
      (document : Document) (globals : GlobalValues) (invoker : ι) (state : ExchangeState ι σ) :
      Binds (table transport settings name (some document) globals invoker state) settings document

end Registration

namespace Registry

variable {ι σ : Type}

/-- The registry after a registration; one that fails may leave functions behind. -/
def register (registry : Registry) : Registration ι σ → Registry
  | .single function => registry.insert function
  | .description settings document globals =>
    match registry.bind settings document globals with
    | .ok (bound, _) => bound
    | .error _ => registry
  | .table transport settings name document globals invoker state =>
    (registry.bindTable transport settings name document globals invoker state).2

/-- The registry after several registrations. -/
def registerAll (registry : Registry) (registrations : List (Registration ι σ)) : Registry :=
  registrations.foldl register registry

/-! ## Functions one after the other -/

/-- Registering nothing leaves a registry as it is. -/
@[simp]
theorem insertAll_nil (registry : Registry) : registry.insertAll [] = registry :=
  rfl

/-- Several functions are registered from the first one on. -/
@[simp]
theorem insertAll_cons (registry : Registry) (function : RegisteredFunction)
    (rest : List RegisteredFunction) :
    registry.insertAll (function :: rest) = (registry.insert function).insertAll rest :=
  rfl

/-- Functions can be registered in two turns. -/
@[simp]
theorem insertAll_append (registry : Registry) (first rest : List RegisteredFunction) :
    registry.insertAll (first ++ rest) = (registry.insertAll first).insertAll rest :=
  List.foldl_append

/-- Without functions no table comes of a description. -/
theorem resolveTable_nil (transport : Transport ι σ) (invoker : ι) (name : String)
    (state : ExchangeState ι σ) :
    ((resolveTable transport invoker name []).run state).1.toOption = none :=
  rfl

/-- A registration registers its functions one after the other. -/
theorem register_eq_insertAll (registry : Registry) (registration : Registration ι σ) :
    registry.register registration = registry.insertAll registration.added := by
  cases registration with
  | single function => rfl
  | description settings document globals => cases document <;> rfl
  | table transport settings name document globals invoker state =>
      cases document with
      | none =>
          have hnone : (Registration.table transport settings name none globals invoker
              state).added = [] := by
            simp [Registration.added, Registration.boundFunctions, resolveTable_nil]
          rw [hnone]
          rfl
      | some document =>
          simp only [register, bindTable, bind, Registration.added, Registration.boundFunctions,
            Option.map_some, Option.getD_some, insertAll_append]
          generalize (Binder.mk document settings globals).functions = functions
          rcases (resolveTable transport invoker name functions).run state with ⟨result, after⟩
          cases result with
          | error error => rfl
          | ok table => rfl

/-- Registrations one after the other register the functions of all of them. -/
theorem registerAll_eq_insertAll (registry : Registry)
    (registrations : List (Registration ι σ)) :
    registry.registerAll registrations =
      registry.insertAll (registrations.flatMap Registration.added) := by
  induction registrations generalizing registry with
  | nil => rfl
  | cons registration rest ih =>
      have hstep : registry.registerAll (registration :: rest) =
          (registry.register registration).registerAll rest := rfl
      rw [hstep, ih, register_eq_insertAll, List.flatMap_cons, insertAll_append]

/-- A registry that grew from the one without functions is built. -/
theorem isBuilt_registerAll (registrations : List (Registration ι σ)) :
    (empty.registerAll registrations).IsBuilt :=
  ⟨_, registerAll_eq_insertAll empty registrations⟩

/-! ## Bindings -/

/-- The operations of a description are bound. -/
theorem mem_added_of_binds {registration : Registration ι σ} {settings : BindingSettings}
    {document : Document} (h : registration.Binds settings document) {operation : Operation}
    (hoperation : operation ∈ document.operations) :
    ∃ function, .connector function ∈ registration.added ∧
      function.qualifiedName = settings.namespaceName ++ "." ++ operation.name := by
  cases h with
  | description _ _ globals =>
      refine ⟨(Binder.mk document settings globals).describe operation, ?_, rfl⟩
      exact List.mem_map_of_mem (List.mem_map_of_mem hoperation)
  | table transport _ name _ globals invoker state =>
      refine ⟨(Binder.mk document settings globals).describe operation, ?_, rfl⟩
      exact List.mem_append_left _ (List.mem_map_of_mem (List.mem_map_of_mem hoperation))

/-- A binding registers functions of its operations alone, under its own settings. -/
theorem exists_of_mem_added {registration : Registration ι σ} {settings : BindingSettings}
    {document : Document} (h : registration.Binds settings document)
    {registered : RegisteredFunction} (hmem : registered ∈ registration.added) :
    ∃ function, registered = .connector function ∧ function.settings = settings ∧
      ∃ operation ∈ document.operations,
        function.qualifiedName = settings.namespaceName ++ "." ++ operation.name := by
  have hbound : ∀ (globals : GlobalValues) (function : ConnectorFunction),
      function ∈ (Binder.mk document settings globals).functions →
        function.settings = settings ∧ ∃ operation ∈ document.operations,
          function.qualifiedName = settings.namespaceName ++ "." ++ operation.name := by
    intro globals function hfunction
    obtain ⟨operation, hoperation, rfl⟩ := List.mem_map.1 hfunction
    exact ⟨rfl, operation, hoperation, rfl⟩
  cases h with
  | description _ _ globals =>
      obtain ⟨function, hfunction, rfl⟩ := List.mem_map.1 hmem
      exact ⟨function, rfl, hbound globals function hfunction⟩
  | table transport _ name _ globals invoker state =>
      rcases List.mem_append.1 hmem with hmem | hmem
      · obtain ⟨function, hfunction, rfl⟩ := List.mem_map.1 hmem
        exact ⟨function, rfl, hbound globals function hfunction⟩
      · -- the function that fetches items is one of those that were bound
        obtain ⟨table, houtcome, rfl⟩ := Option.map_eq_some_iff.1 (Option.mem_toList.1 hmem)
        refine ⟨table.itemFetch, rfl, ?_⟩
        rcases hrun : (resolveTable transport invoker name
          (Registration.boundFunctions settings (some document) globals)).run state
            with ⟨result, after⟩
        rw [hrun] at houtcome
        cases result with
        | error error => cases houtcome
        | ok found =>
            obtain rfl := Option.some.inj houtcome
            obtain ⟨itemFetch, _, hitem, _, rfl⟩ := run_resolveTable_eq_ok_iff.1 hrun
            exact hbound globals itemFetch hitem.mem

end Registry

end ApiBinding
