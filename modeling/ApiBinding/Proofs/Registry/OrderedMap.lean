import ApiBinding.Proofs.Registry.Registration

/-!
# Registries as ordered maps

A registry is kept in two parts, the functions in their order and the index of their names.
Together they are one map from names to functions, in the order in which the names were
first registered: a name that is registered again keeps its place and gets the new function.
This holds after every run of registrations, however new names and taken ones alternate.

Main results:

- Theorem `positions_insertAll`: the index lists the names with their positions.
- Theorem `toEntries_insert`: registering a function sets its name in the map.
- Theorem `get?_insertAll_eq_find?`: a name gives the function that was registered last.
- Theorem `names_insertAll_eq_eraseDups`: the names stand in the order of their first
  registration.
- Theorem `represents_registerAll`: what a registry represents after a run of registrations.
-/

namespace ApiBinding.Registry

variable {ι σ : Type} {registry : Registry} {function : RegisteredFunction}

/-- A function under its name. -/
def entryOf (function : RegisteredFunction) : String × RegisteredFunction :=
  (function.qualifiedName, function)

/-- The map from names to functions, in the order of the registry. -/
def toEntries (registry : Registry) : List (String × RegisteredFunction) :=
  registry.functions.map entryOf

/-- The names of the map are those of the registry. -/
theorem names_toEntries (registry : Registry) :
    Entries.names registry.toEntries = registry.names := by
  rw [Entries.names, toEntries, List.map_map]
  rfl

/-! ## One registration -/

/-- Registering a function sets its name in the map. -/
theorem IsIndexed.toEntries_insert (h : registry.IsIndexed) (function : RegisteredFunction) :
    (registry.insert function).toEntries =
      Entries.set function.qualifiedName function registry.toEntries := by
  rcases h.insert_cases function with ⟨before, old, after, hsplit, hname, heq⟩ | ⟨hname, heq⟩
  · have hnodup := h.nodup_names
    rw [names, hsplit, List.map_append, List.map_cons, hname] at hnodup
    -- the name stands at one place only, so nothing before it has it
    have hfree : function.qualifiedName ∉ Entries.names (before.map entryOf) := by
      intro hmem
      rw [Entries.names, List.map_map] at hmem
      exact List.disjoint_of_nodup_append hnodup hmem List.mem_cons_self
    have hold : entryOf old = (function.qualifiedName, old) := by rw [entryOf, hname]
    rw [heq, toEntries, toEntries, hsplit, List.map_append, List.map_append, List.map_cons,
      List.map_cons, hold, Entries.set_append_cons hfree]
    rfl
  · have hfree : function.qualifiedName ∉ Entries.names registry.toEntries := by
      rw [names_toEntries]
      exact hname
    rw [heq, Entries.set_of_not_mem hfree, toEntries, List.map_append]
    rfl

/-- The name of a function gives it once it is registered, and other names what they gave. -/
theorem IsIndexed.get?_insert (h : registry.IsIndexed) (function : RegisteredFunction)
    (name : String) :
    (registry.insert function).get? name =
      if function.qualifiedName = name then some function else registry.get? name := by
  apply Option.ext
  intro other
  rw [(h.insert function).get?_eq_some_iff, h.mem_insert]
  by_cases hname : function.qualifiedName = name
  · rw [if_pos hname, Option.some.injEq]
    constructor
    · rintro ⟨rfl | ⟨_, hne⟩, hother⟩
      · rfl
      · exact absurd (hother.trans hname.symm) hne
    · rintro rfl
      exact ⟨Or.inl rfl, hname⟩
  · rw [if_neg hname, h.get?_eq_some_iff]
    constructor
    · rintro ⟨rfl | ⟨hmem, _⟩, hother⟩
      · exact absurd hother hname
      · exact ⟨hmem, hother⟩
    · rintro ⟨hmem, hother⟩
      exact ⟨Or.inr ⟨hmem, fun hsame => hname (hsame.symm.trans hother)⟩, hother⟩

/-- Registering a function keeps the index a list of the names with their positions. -/
theorem IsIndexed.positions_insert (h : registry.IsIndexed)
    (hpositions : registry.positions = registry.names.zipIdx) (function : RegisteredFunction) :
    (registry.insert function).positions = (registry.insert function).names.zipIdx := by
  rcases h.insert_cases function with ⟨before, old, after, hsplit, hname, heq⟩ | ⟨_, heq⟩
  · rw [heq, names_replace hsplit hname]
    exact hpositions
  · have hlength : registry.names.length = registry.functions.length := List.length_map _
    rw [heq]
    simp only [names, List.map_append, List.map_cons, List.map_nil, List.zipIdx_append] at *
    rw [hpositions, hlength, Nat.zero_add]
    rfl

/-- What registering a function replaces is what its name gave. -/
theorem add_eq_get? (registry : Registry) (function : RegisteredFunction) :
    (registry.add function).2 = registry.get? function.qualifiedName := by
  unfold add get?
  cases Entries.find? function.qualifiedName registry.positions with
  | none => rfl
  | some position => rfl

/-- What registering a function replaces is the function in whose place it is put. -/
theorem IsIndexed.add_eq_some_iff (h : registry.IsIndexed) {old : RegisteredFunction} :
    (registry.add function).2 = some old ↔
      ∃ before after, registry.functions = before ++ old :: after ∧
        old.qualifiedName = function.qualifiedName ∧
        (registry.add function).1.functions = before ++ function :: after := by
  have hinsert : (registry.add function).1 = registry.insert function := rfl
  rw [add_eq_get?, h.get?_eq_some_iff, hinsert]
  constructor
  · rintro ⟨hmem, hname⟩
    obtain ⟨before, after, hsplit⟩ := List.append_of_mem hmem
    exact ⟨before, after, hsplit, hname, by rw [h.functions_insert hsplit hname.symm]⟩
  · rintro ⟨before, after, hsplit, hname, _⟩
    exact ⟨by simp [hsplit], hname⟩

/-- Registering a function replaces nothing if it is put at the end. -/
theorem IsIndexed.add_eq_none_iff (h : registry.IsIndexed) :
    (registry.add function).2 = none ↔
      (registry.add function).1.functions = registry.functions ++ [function] := by
  have hinsert : (registry.add function).1 = registry.insert function := rfl
  rw [hinsert]
  constructor
  · intro hnone
    have hfree : function.qualifiedName ∉ registry.names := by
      intro hmem
      obtain ⟨old, hold, hname⟩ := List.mem_map.1 hmem
      rw [add_eq_get?, h.get?_eq_some_iff.2 ⟨hold, hname⟩] at hnone
      cases hnone
    rw [h.insert_of_not_mem hfree]
  · intro hend
    cases hadd : (registry.add function).2 with
    | none => rfl
    | some old =>
        -- a replacement would not make the registry longer
        obtain ⟨before, after, hsplit, _, hplace⟩ := h.add_eq_some_iff.1 hadd
        have hlength := congrArg List.length (hplace.symm.trans hend)
        rw [hsplit] at hlength
        simp at hlength

/-! ## Runs of registrations -/

/-- In a registry that is built the index lists the names with their positions. -/
theorem positions_insertAll (added : List RegisteredFunction) :
    (empty.insertAll added).positions = (empty.insertAll added).names.zipIdx := by
  induction added using List.reverseRecOn with
  | nil => rfl
  | append_singleton rest last ih =>
      rw [insertAll_append, insertAll_cons, insertAll_nil]
      exact (isIndexed_empty.insertAll rest).positions_insert ih last

/-- The map of a registry that is built sets the names one after the other. -/
theorem toEntries_insertAll (added : List RegisteredFunction) :
    (empty.insertAll added).toEntries = Entries.merge (added.map entryOf) := by
  induction added using List.reverseRecOn with
  | nil => rfl
  | append_singleton rest last ih =>
      rw [insertAll_append, insertAll_cons, insertAll_nil,
        (isIndexed_empty.insertAll rest).toEntries_insert, ih, List.map_append,
        List.map_singleton, Entries.merge_append_singleton]
      rfl

/-- A name gives the function that was registered last under it, or what it gave before. -/
theorem IsIndexed.get?_insertAll_eq_find? (h : registry.IsIndexed)
    (added : List RegisteredFunction) (name : String) :
    (registry.insertAll added).get? name =
      (added.reverse.find? fun function => function.qualifiedName = name).or
        (registry.get? name) := by
  induction added generalizing registry with
  | nil => rfl
  | cons function rest ih =>
      rw [insertAll_cons, ih (h.insert function), h.get?_insert, List.reverse_cons,
        List.find?_append, Option.or_assoc]
      by_cases hname : function.qualifiedName = name
      · simp [hname]
      · simp [hname]

/-- A name that is added to a list stays if it is new. -/
theorem eraseDups_append_singleton (names : List String) (name : String) :
    (names ++ [name]).eraseDups =
      names.eraseDups ++ [name].filter fun other => other ∉ names.eraseDups := by
  rw [List.eraseDups_append, List.removeAll]
  by_cases hmem : name ∈ names
  · simp [hmem]
  · simp only [List.elem_eq_mem, hmem, List.mem_eraseDups, List.filter_singleton]
    rfl

/-- The names of a registry that is built stand in the order of their first registration. -/
theorem names_insertAll_eq_eraseDups (added : List RegisteredFunction) :
    (empty.insertAll added).names = (added.map RegisteredFunction.qualifiedName).eraseDups := by
  induction added using List.reverseRecOn with
  | nil => rfl
  | append_singleton rest last ih =>
      have hnames := (isIndexed_empty.insertAll rest).names_insert last
      rw [insertAll_append, insertAll_cons, insertAll_nil, hnames, ih, List.map_append,
        List.map_singleton, eraseDups_append_singleton]

/-! ## The map that is represented -/

/-- What a registry represents to which functions were added one after the other. -/
structure Represents (registry : Registry) (added : List RegisteredFunction) : Prop where
  /-- Every entry of the index points at a function of its name. -/
  pointed : ∀ entry ∈ registry.positions, ∃ function,
    registry.functions[entry.2]? = some function ∧ function.qualifiedName = entry.1
  /-- The index has an entry for every function. -/
  listed : ∀ (position : Nat) (function : RegisteredFunction),
    registry.functions[position]? = some function →
      (function.qualifiedName, position) ∈ registry.positions
  nodup : registry.names.Nodup
  /-- A name gives the function that was added last under it, and no other name gives one. -/
  last : ∀ name, registry.get? name =
    added.reverse.find? fun function => function.qualifiedName = name
  /-- The names stand in the order in which they were first added. -/
  order : registry.names = (added.map RegisteredFunction.qualifiedName).eraseDups
  /-- The registry is the map in which the names were set one after the other. -/
  entries : registry.toEntries = Entries.merge (added.map entryOf)
  /-- Adding a function sets its name in the map, and gives what stood there. -/
  step : ∀ function : RegisteredFunction,
    (registry.add function).1.toEntries =
        Entries.set function.qualifiedName function registry.toEntries ∧
      (registry.add function).2 = registry.get? function.qualifiedName
  /-- What adding a function gives is the function that it took the place of. -/
  displaced : ∀ function old, (registry.add function).2 = some old ↔
    ∃ before after, registry.functions = before ++ old :: after ∧
      old.qualifiedName = function.qualifiedName ∧
      (registry.add function).1.functions = before ++ function :: after
  /-- It gives nothing if the function was put at the end. -/
  fresh : ∀ function, (registry.add function).2 = none ↔
    (registry.add function).1.functions = registry.functions ++ [function]

/-- A registry that is built represents the map of the functions that were added to it. -/
theorem represents_insertAll (added : List RegisteredFunction) :
    Represents (empty.insertAll added) added := by
  have hindexed : (empty.insertAll added).IsIndexed := isIndexed_empty.insertAll added
  have hpositions := positions_insertAll added
  have hname : ∀ position, (empty.insertAll added).names[position]? =
      (empty.insertAll added).functions[position]?.map RegisteredFunction.qualifiedName :=
    fun _ => List.getElem?_map
  refine
    { pointed := ?_
      listed := ?_
      nodup := hindexed.nodup_names
      last := ?_
      order := names_insertAll_eq_eraseDups added
      entries := toEntries_insertAll added
      step := fun function => ⟨hindexed.toEntries_insert function, add_eq_get? _ function⟩
      displaced := fun _ _ => hindexed.add_eq_some_iff
      fresh := fun _ => hindexed.add_eq_none_iff }
  · intro entry hentry
    rw [hpositions, List.mem_zipIdx_iff_getElem?, hname] at hentry
    exact Option.map_eq_some_iff.1 hentry
  · intro position function hfunction
    rw [hpositions, List.mk_mem_zipIdx_iff_getElem?, hname, hfunction]
    rfl
  · intro name
    rw [isIndexed_empty.get?_insertAll_eq_find?]
    exact Option.or_none

/-- After every run of registrations a registry represents the map of the functions that they
registered. -/
theorem represents_registerAll (registrations : List (Registration ι σ)) :
    Represents (empty.registerAll registrations)
      (registrations.flatMap Registration.added) := by
  rw [registerAll_eq_insertAll]
  exact represents_insertAll _

end ApiBinding.Registry
