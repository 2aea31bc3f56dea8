import ApiBinding.Proofs.Registry.OrderedMap

/-!
# Namespaces side by side

Functions of all namespaces are kept under one kind of name, the namespace and the name of
the operation with a dot between them.  Either part may hold dots itself, so two functions
of different namespaces can have one name, but only if one of the namespaces is the other
one followed by a dot and the beginning of an operation's name.  Binding a description
leaves the functions of other namespaces alone, unless one of its operations is called so.

Main results:

- Theorem `clash_iff`: when two namespaces give one name to functions of theirs.
- Theorem `get?_register_of_mem`: a name that a binding uses gives a function of that binding.
- Theorem `isolates_of_binds`: which functions of other namespaces a binding leaves alone.
-/

namespace ApiBinding

/-- A function of one namespace and one of another have one name: one namespace is the other
one, a dot and some text, with which the operation of the other one begins. -/
def Clash (space name otherSpace otherName : String) : Prop :=
  (∃ between, space = otherSpace ++ "." ++ between ∧ otherName = between ++ "." ++ name) ∨
    ∃ between, otherSpace = space ++ "." ++ between ∧ name = between ++ "." ++ otherName

/-! ## Names with dots -/

/-- What follows where one part of a name is longer than the other one. -/
theorem exists_between {first rest other last : List Char}
    (h : first ++ '.' :: rest = other ++ '.' :: last) :
    first = other ∨ (∃ between, first = other ++ '.' :: between ∧ last = between ++ '.' :: rest) ∨
      ∃ between, other = first ++ '.' :: between ∧ rest = between ++ '.' :: last := by
  rcases List.append_eq_append_iff.1 h with ⟨more, hother, hrest⟩ | ⟨more, hfirst, hlast⟩
  · cases more with
    | nil =>
        left
        simpa using hother.symm
    | cons c between =>
        right
        right
        obtain ⟨rfl, hbetween⟩ := List.cons.inj hrest
        exact ⟨between, hother, hbetween⟩
  · cases more with
    | nil =>
        left
        simpa using hfirst
    | cons c between =>
        right
        left
        obtain ⟨rfl, hbetween⟩ := List.cons.inj hlast
        exact ⟨between, hfirst, hbetween⟩

/-- Functions of different namespaces have one name exactly if they clash. -/
theorem clash_iff {space name otherSpace otherName : String} (hne : otherSpace ≠ space) :
    Clash space name otherSpace otherName ↔
      space ++ "." ++ name = otherSpace ++ "." ++ otherName := by
  constructor
  · rintro (⟨between, rfl, rfl⟩ | ⟨between, rfl, rfl⟩)
    · simp only [String.append_assoc]
    · simp only [String.append_assoc]
  · intro heq
    have hchars : space.toList ++ '.' :: name.toList =
        otherSpace.toList ++ '.' :: otherName.toList := by
      have htext := congrArg String.toList heq
      simpa [String.toList_append] using htext
    rcases exists_between hchars with hsame | ⟨between, hspace, hlast⟩ | ⟨between, hspace, hlast⟩
    · exact absurd (String.toList_inj.1 hsame).symm hne
    · refine Or.inl ⟨String.ofList between, ?_, ?_⟩
      · apply String.toList_inj.1
        simp [String.toList_append, hspace]
      · apply String.toList_inj.1
        simp [String.toList_append, hlast]
    · refine Or.inr ⟨String.ofList between, ?_, ?_⟩
      · apply String.toList_inj.1
        simp [String.toList_append, hspace]
      · apply String.toList_inj.1
        simp [String.toList_append, hlast]

namespace Registry

variable {ι σ : Type} {registry : Registry} {binding : Registration ι σ}
  {settings : BindingSettings} {document : Document}

/-! ## What a binding leaves alone -/

/-- A name that no operation of a binding has gives what it gave before. -/
theorem get?_register_of_not_mem (h : registry.IsIndexed) (hbinds : binding.Binds settings document)
    {name : String}
    (hname : ∀ operation ∈ document.operations,
      settings.namespaceName ++ "." ++ operation.name ≠ name) :
    (registry.register binding).get? name = registry.get? name := by
  have hnone : binding.added.reverse.find? (fun function => function.qualifiedName = name) =
      none := by
    rw [List.find?_eq_none]
    intro registered hmem
    obtain ⟨function, rfl, _, operation, hoperation, hqualified⟩ :=
      exists_of_mem_added hbinds (List.mem_reverse.1 hmem)
    have hfunction : RegisteredFunction.qualifiedName (.connector function) =
        settings.namespaceName ++ "." ++ operation.name := hqualified
    rw [decide_eq_true_eq, hfunction]
    exact hname operation hoperation
  rw [register_eq_insertAll, h.get?_insertAll_eq_find?, hnone, Option.none_or]

/-- A name that an operation of a binding has gives a function of the binding. -/
theorem get?_register_of_mem (h : registry.IsIndexed) (hbinds : binding.Binds settings document)
    {operation : Operation} (hoperation : operation ∈ document.operations) :
    ∃ function,
      (registry.register binding).get? (settings.namespaceName ++ "." ++ operation.name) =
          some (.connector function) ∧ function.settings = settings := by
  obtain ⟨bound, hbound, hname⟩ := mem_added_of_binds hbinds hoperation
  rw [register_eq_insertAll, h.get?_insertAll_eq_find?]
  cases hfind : binding.added.reverse.find? fun function =>
      function.qualifiedName = settings.namespaceName ++ "." ++ operation.name with
  | none =>
      -- the operation itself was bound under that name
      have hregistered : RegisteredFunction.qualifiedName (.connector bound) =
          settings.namespaceName ++ "." ++ operation.name := hname
      have hmissing := List.find?_eq_none.1 hfind _ (List.mem_reverse.2 hbound)
      exact absurd (decide_eq_true hregistered) hmissing
  | some registered =>
      have hmem := List.mem_reverse.1 (List.mem_of_find?_eq_some hfind)
      obtain ⟨function, rfl, hsettings, _⟩ := exists_of_mem_added hbinds hmem
      exact ⟨function, rfl, hsettings⟩

/-- What a binding under settings does to a function of another namespace: `left` is the
registry afterwards. -/
structure Isolates (left : Registry) (settings : BindingSettings) (document : Document)
    (function : ConnectorFunction) : Prop where
  /-- The function is found as before exactly if no operation clashes with it. -/
  kept_iff : left.get? function.qualifiedName = some (.connector function) ↔
    ∀ operation ∈ document.operations, ¬Clash settings.namespaceName operation.name
      function.settings.namespaceName function.name
  /-- So it is if neither namespace goes on where the other one ends. -/
  kept : (∀ between, settings.namespaceName ≠
        function.settings.namespaceName ++ "." ++ between) →
      (∀ between, function.settings.namespaceName ≠
        settings.namespaceName ++ "." ++ between) →
    left.get? function.qualifiedName = some (.connector function)
  /-- Otherwise a function of the binding has taken its place. -/
  replaced : left.get? function.qualifiedName ≠ some (.connector function) →
    ∃ other, left.get? function.qualifiedName = some (.connector other) ∧
      other.settings = settings

/-- A binding leaves a function of another namespace alone exactly if no operation of its
description is called like that function. -/
theorem isolates_of_binds (registrations : List (Registration ι σ))
    (hbinds : binding.Binds settings document) {function : ConnectorFunction}
    (hfound : (empty.registerAll registrations).get? function.qualifiedName =
      some (.connector function))
    (hne : function.settings.namespaceName ≠ settings.namespaceName) :
    Isolates ((empty.registerAll registrations).register binding) settings document function := by
  have hindexed := isIndexed_of_isBuilt (isBuilt_registerAll registrations)
  generalize empty.registerAll registrations = registry at hfound hindexed
  have hclash : ∀ operation : Operation,
      Clash settings.namespaceName operation.name function.settings.namespaceName function.name ↔
        settings.namespaceName ++ "." ++ operation.name = function.qualifiedName :=
    fun operation => clash_iff hne
  have hkept : (∀ operation ∈ document.operations, ¬Clash settings.namespaceName operation.name
        function.settings.namespaceName function.name) →
      (registry.register binding).get? function.qualifiedName = some (.connector function) := by
    intro hnone
    rw [get?_register_of_not_mem hindexed hbinds, hfound]
    intro operation hoperation heq
    exact hnone operation hoperation ((hclash operation).2 heq)
  have htaken : ∀ operation ∈ document.operations,
      Clash settings.namespaceName operation.name function.settings.namespaceName function.name →
        ∃ other, (registry.register binding).get? function.qualifiedName =
            some (.connector other) ∧ other.settings = settings := by
    intro operation hoperation hboth
    rw [← (hclash operation).1 hboth]
    exact get?_register_of_mem hindexed hbinds hoperation
  refine ⟨⟨?_, hkept⟩, ?_, ?_⟩
  · intro hsame operation hoperation hboth
    obtain ⟨other, hother, hsettings⟩ := htaken operation hoperation hboth
    rw [hsame] at hother
    obtain rfl : function = other := by simpa using hother
    exact hne (congrArg BindingSettings.namespaceName hsettings)
  · intro hbefore hafter
    refine hkept fun operation _ hboth => ?_
    rcases hboth with ⟨between, hspace, _⟩ | ⟨between, hspace, _⟩
    · exact hbefore between hspace
    · exact hafter between hspace
  · intro hlost
    by_contra hnone
    exact hlost (hkept fun operation hoperation hboth =>
      hnone (htaken operation hoperation hboth))

/-! ## Tables of one schema -/

/-- A description of items with a single operation, which fetches one. -/
def itemDescription (operation : String) : Json :=
  .obj
    [("swagger", .str "2.0"),
      ("paths", .obj
        [("/item", .obj [("get", .obj [("operationId", .str operation)])])])]

/-- Items as they are read. -/
def itemDocument (operation : String) : Document where
  version := .swagger2
  title := none
  basePath := ""
  schemas := []
  operations := [catalogueOperation operation .get "/item"]

/-- The functions of the table `dbo.People`, bound by its name. -/
def peopleBinding : Registration Unit Unit :=
  .description { namespaceName := tableNamespace "dbo.People" } (some (itemDocument "GetItem")) []

/-- The functions of the table `dbo`, of which the operation is called otherwise. -/
def schemaBinding (operation : String) : Registration Unit Unit :=
  .description { namespaceName := tableNamespace "dbo" } (some (itemDocument operation)) []

/-- The function that fetches an item of the table `dbo.People`. -/
def peopleFunction : ConnectorFunction :=
  (Binder.mk (itemDocument "GetItem") { namespaceName := tableNamespace "dbo.People" } []).describe
    (catalogueOperation "GetItem" .get "/item")

/-- The table `dbo.People` is left alone by an operation of the table `dbo` that has the name
of another table before its own. -/
theorem isolates_people : (schemaBinding "Places.GetItem").Binds
      { namespaceName := tableNamespace "dbo" } (itemDocument "Places.GetItem") ∧
    (empty.registerAll [peopleBinding]).get? peopleFunction.qualifiedName =
      some (.connector peopleFunction) ∧
    peopleFunction.settings.namespaceName ≠ tableNamespace "dbo" ∧
    Isolates ((empty.registerAll [peopleBinding]).register (schemaBinding "Places.GetItem"))
      { namespaceName := tableNamespace "dbo" } (itemDocument "Places.GetItem") peopleFunction ∧
    ((empty.registerAll [peopleBinding]).register (schemaBinding "Places.GetItem")).get?
      peopleFunction.qualifiedName = some (.connector peopleFunction) := by
  have hbinds : (schemaBinding "Places.GetItem").Binds { namespaceName := tableNamespace "dbo" }
      (itemDocument "Places.GetItem") := .description _ _ _
  have hfound : (empty.registerAll [peopleBinding]).get? peopleFunction.qualifiedName =
      some (.connector peopleFunction) := rfl
  have hne : peopleFunction.settings.namespaceName ≠ tableNamespace "dbo" := by decide
  have hisolates := isolates_of_binds [peopleBinding] hbinds hfound hne
  refine ⟨hbinds, hfound, hne, hisolates, hisolates.kept_iff.2 fun operation hoperation => ?_⟩
  obtain rfl := List.mem_singleton.1 hoperation
  rw [clash_iff hne]
  decide

/-- The table `dbo.People` loses its function to an operation of the table `dbo` that has the
name `People` before its own. -/
theorem people_not_kept :
    Document.ofJson (itemDescription "GetItem") = .ok (itemDocument "GetItem") ∧
    Document.ofJson (itemDescription "People.GetItem") = .ok (itemDocument "People.GetItem") ∧
    (schemaBinding "People.GetItem").Binds { namespaceName := tableNamespace "dbo" }
      (itemDocument "People.GetItem") ∧
    (empty.registerAll [peopleBinding]).get? peopleFunction.qualifiedName =
      some (.connector peopleFunction) ∧
    peopleFunction.settings.namespaceName ≠ tableNamespace "dbo" ∧
    ((empty.registerAll [peopleBinding]).register (schemaBinding "People.GetItem")).get?
      peopleFunction.qualifiedName ≠ some (.connector peopleFunction) := by
  refine ⟨rfl, rfl, .description _ _ _, rfl, by decide, fun hsame => ?_⟩
  obtain ⟨other, hother, hname⟩ : ∃ other : ConnectorFunction,
      ((empty.registerAll [peopleBinding]).register (schemaBinding "People.GetItem")).get?
        peopleFunction.qualifiedName = some (.connector other) ∧ other.name = "People.GetItem" :=
    ⟨_, rfl, rfl⟩
  rw [hother] at hsame
  obtain rfl := RegisteredFunction.connector.inj (Option.some.inj hsame)
  have hitem : peopleFunction.name = "GetItem" := rfl
  rw [hitem] at hname
  simp at hname

end Registry

end ApiBinding
