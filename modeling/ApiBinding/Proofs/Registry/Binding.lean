import ApiBinding.Error
import ApiBinding.Proofs.Document.Operations
import ApiBinding.Proofs.Registry.Index
import ApiBinding.Registry.Basic

/-!
# What binding a description leaves

Binding a description registers one function for each of its operations, under the namespace
and the name of the operation.  Names that are taken keep their places, so that binding the
same description again changes the order of nothing.

Main results:

- Theorem `nodup_qualifiedNames`: the bound functions have different names.
- Theorem `get?_insertAll`: every bound function is found under its name.
- Theorem `get?_insertAll_of_not_mem`: what other names give stays as it is.
- Theorem `binds_of_isBuilt`: the registry that is left, and the functions that are given.
-/

namespace ApiBinding.Registry

variable {registry : Registry} {document : Document} {settings : BindingSettings}
  {globals : GlobalValues} {functions : List ConnectorFunction}

/-! ## Bound functions -/

/-- A bound function is called by its namespace and the name of its operation. -/
theorem qualifiedName_of_mem_functions {binder : Binder} {function : ConnectorFunction}
    (h : function ∈ binder.functions) :
    function.qualifiedName = binder.settings.namespaceName ++ "." ++ function.name := by
  obtain ⟨operation, _, rfl⟩ := List.mem_map.1 h
  rfl

/-- The bound functions have different names. -/
theorem nodup_qualifiedNames (hparsed : document.IsParsed) :
    (((Binder.mk document settings globals).functions.map RegisteredFunction.connector).map
      RegisteredFunction.qualifiedName).Nodup := by
  have hnames : ((Binder.mk document settings globals).functions.map
      RegisteredFunction.connector).map RegisteredFunction.qualifiedName =
        (document.operations.map Operation.name).map
          fun name => settings.namespaceName ++ "." ++ name := by
    simp only [Binder.functions, List.map_map]
    rfl
  rw [hnames]
  refine (Document.nodup_names_of_isParsed hparsed).map fun first second heq => ?_
  exact (String.append_right_inj _).1 heq

/-- Every bound function is found under its name. -/
theorem get?_insertAll (hindexed : registry.IsIndexed) (hparsed : document.IsParsed)
    {function : ConnectorFunction}
    (hfunction : function ∈ (Binder.mk document settings globals).functions) :
    (registry.insertAll ((Binder.mk document settings globals).functions.map .connector)).get?
      function.qualifiedName = some (.connector function) := by
  refine (hindexed.insertAll _).get?_eq_some_iff.2 ⟨?_, rfl⟩
  exact (hindexed.mem_insertAll (nodup_qualifiedNames hparsed)).2
    (Or.inl (List.mem_map_of_mem hfunction))

/-- A function that is not bound stays where it is. -/
theorem getElem?_insertAll_connector (hindexed : registry.IsIndexed) {position : Nat}
    {other : RegisteredFunction} (hother : registry.functions[position]? = some other)
    (hne : other.qualifiedName ∉ functions.map ConnectorFunction.qualifiedName) :
    (registry.insertAll (functions.map .connector)).functions[position]? = some other :=
  hindexed.getElem?_insertAll hother (by rwa [List.map_map])

/-- A name that no bound function has gives what it gave before. -/
theorem get?_insertAll_of_not_mem (hindexed : registry.IsIndexed) (hparsed : document.IsParsed)
    {name : String}
    (hname : name ∉ (Binder.mk document settings globals).functions.map
      ConnectorFunction.qualifiedName) :
    (registry.insertAll ((Binder.mk document settings globals).functions.map .connector)).get?
      name = registry.get? name := by
  apply Option.ext
  intro other
  rw [(hindexed.insertAll _).get?_eq_some_iff, hindexed.get?_eq_some_iff,
    hindexed.mem_insertAll (nodup_qualifiedNames hparsed), List.map_map]
  constructor
  · rintro ⟨hbound | ⟨hthere, _⟩, rfl⟩
    · obtain ⟨function, hfunction, rfl⟩ := List.mem_map.1 hbound
      exact absurd (List.mem_map_of_mem (f := ConnectorFunction.qualifiedName) hfunction) hname
    · exact ⟨hthere, rfl⟩
  · rintro ⟨hthere, rfl⟩
    exact ⟨Or.inr ⟨hthere, hname⟩, rfl⟩

/-! ## The registry that is left -/

/-- What binding a description leaves: `bound` is the registry afterwards, and `functions` are
the functions that binding gives. -/
structure Binds (registry : Registry) (json : Json) (document : Document)
    (settings : BindingSettings) (globals : GlobalValues) (bound : Registry)
    (functions : List ConnectorFunction) : Prop where
  /-- There is one operation for each written method, in order. -/
  written : List.Forall₂ WrittenMethod.ReadAs (Document.writtenMethods json)
    document.operations
  /-- There is one function for each operation, in order. -/
  described : functions = document.operations.map (Binder.mk document settings globals).describe
  names : functions.map ConnectorFunction.qualifiedName =
    document.operations.map fun operation => settings.namespaceName ++ "." ++ operation.name
  nodup : (functions.map ConnectorFunction.qualifiedName).Nodup
  found : ∀ function ∈ functions,
    bound.get? function.qualifiedName = some (.connector function)
  /-- What other names give stays as it is. -/
  kept : ∀ name, name ∉ functions.map ConnectorFunction.qualifiedName →
    bound.get? name = registry.get? name
  /-- The earlier names are followed by those that were not taken. -/
  order : bound.names = registry.names ++
    (functions.map ConnectorFunction.qualifiedName).filter fun name => name ∉ registry.names
  /-- Binding the description again gives the same functions, and no name moves. -/
  again : ∃ rebound, bound.bind settings (some document) globals = .ok (rebound, functions) ∧
    rebound.names = bound.names

/-- Binding a description that is read registers its operations and leaves everything else as
it is; without a description nothing is registered. -/
theorem binds_of_isBuilt {json : Json} (settings : BindingSettings) (globals : GlobalValues)
    (hbuilt : registry.IsBuilt) (hread : Document.ofJson json = .ok document) :
    (registry.bind settings none globals = .error .missingDocument ∧
        (ConnectorError.call .missingDocument).kind = .invalidArgument) ∧
      ∃ bound functions,
        registry.bind settings (some document) globals = .ok (bound, functions) ∧
          Binds registry json document settings globals bound functions := by
  have hindexed := isIndexed_of_isBuilt hbuilt
  have hparsed : document.IsParsed := ⟨json, hread⟩
  have hnodup : (((Binder.mk document settings globals).functions.map
      RegisteredFunction.connector).map RegisteredFunction.qualifiedName).Nodup :=
    nodup_qualifiedNames hparsed
  have hnames := hindexed.names_insertAll hnodup
  refine ⟨⟨rfl, rfl⟩, _, _, rfl, ?_⟩
  refine
    { written := Document.readAs_of_ofJson hread
      described := rfl
      names := ?_
      nodup := by rwa [List.map_map] at hnodup
      found := fun _ => get?_insertAll hindexed hparsed
      kept := fun _ => get?_insertAll_of_not_mem hindexed hparsed
      order := by rwa [List.map_map] at hnames
      again := ⟨_, rfl, hindexed.names_insertAll_again hnodup⟩ }
  rw [Binder.functions, List.map_map]
  rfl

/-! ## A catalogue -/

/-- A description of a catalogue, with an extension among its paths, a summary beside the
methods of one, and operations without names. -/
def catalogueDescription : Json :=
  .obj
    [("swagger", .str "2.0"),
      ("paths", .obj
        [("x-notes", .obj [("get", .obj [])]),
          ("/items/\x7bid\x7d", .obj
            [("delete", .obj []), ("summary", .str "An item"),
              ("GET", .obj [("operationId", .str "GetItem")])]),
          ("/items", .obj [("get", .obj [])])])]

/-- An operation of the catalogue, which takes nothing. -/
def catalogueOperation (name : String) (method : HttpMethod) (path : String) : Operation where
  name := name
  method := method
  path := path
  summary := none
  description := none
  deprecated := false
  parameters := []
  body := none
  response := none

/-- The catalogue as it is read. -/
def catalogueDocument : Document where
  version := .swagger2
  title := none
  basePath := ""
  schemas := []
  operations :=
    [catalogueOperation "delete_items_id" .delete "/items/\x7bid\x7d",
      catalogueOperation "GetItem" .get "/items/\x7bid\x7d",
      catalogueOperation "get_items" .get "/items"]

/-- A registry with functions of the host, one of which has a name that the catalogue needs. -/
def hostFunctions : Registry :=
  empty.insertAll <| ["Len", "Shop.get_items"].map fun name =>
    .host ⟨name, [], .resolved .blank, fun _ => .ok .null⟩

/-- The catalogue takes the place of the host's function and adds two others. -/
theorem binds_catalogue : hostFunctions.IsBuilt ∧
    Document.ofJson catalogueDescription = .ok catalogueDocument ∧ ∃ bound functions,
      hostFunctions.bind { namespaceName := "Shop" } (some catalogueDocument) [] =
          .ok (bound, functions) ∧
        bound.names = ["Len", "Shop.get_items", "Shop.delete_items_id", "Shop.GetItem"] ∧
        Binds hostFunctions catalogueDescription catalogueDocument { namespaceName := "Shop" } []
          bound functions := by
  have hbuilt : hostFunctions.IsBuilt := ⟨_, rfl⟩
  have hread : Document.ofJson catalogueDescription = .ok catalogueDocument := rfl
  obtain ⟨bound, functions, hbind, hbinds⟩ :=
    (binds_of_isBuilt { namespaceName := "Shop" } [] hbuilt hread).2
  refine ⟨hbuilt, hread, bound, functions, hbind, ?_, hbinds⟩
  cases hbind
  decide +kernel

end ApiBinding.Registry
