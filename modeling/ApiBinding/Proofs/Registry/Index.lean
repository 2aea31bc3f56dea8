import ApiBinding.Proofs.Entries.Order
import ApiBinding.Registry.Basic

/-!
# The index of a registry

A registry is built by registering functions one after the other, and in every registry
that is built the index says where each name stands.  So a name is taken by one function
at most, and looking a name up gives the function of that name.  Registering a function
replaces the one of its name in place, or adds it at the end; all others stay where they
are.

Main results:

- Theorem `isIndexed_of_isBuilt`: the index is right in every registry that is built.
- Theorem `IsIndexed.get?_eq_some_iff`: what looking a name up gives.
- Theorem `IsIndexed.functions_insert`: a function takes the place of the one of its name.
- Theorems `IsIndexed.getElem?_insertAll`, `IsIndexed.mem_insertAll` and
  `IsIndexed.names_insertAll`: what registering several functions leaves and what it adds.
-/

namespace ApiBinding.Registry

variable {registry : Registry} {function : RegisteredFunction}

/-- A registry to which functions were registered one after the other. -/
def IsBuilt (registry : Registry) : Prop :=
  ∃ functions, registry = empty.insertAll functions

/-- The index gives exactly the positions of the names. -/
def IsIndexed (registry : Registry) : Prop :=
  ∀ name position, Entries.find? name registry.positions = some position ↔
    registry.names[position]? = some name

/-! ## Registering a function -/

/-- A function whose name is taken stands where the earlier one stood. -/
theorem IsIndexed.functions_insert (h : registry.IsIndexed) {old : RegisteredFunction}
    {before after : List RegisteredFunction} (hsplit : registry.functions = before ++ old :: after)
    (hname : function.qualifiedName = old.qualifiedName) :
    registry.insert function =
      { registry with functions := before ++ function :: after } := by
  have hposition : Entries.find? function.qualifiedName registry.positions =
      some before.length := by
    rw [h, names, hsplit, List.map_append, List.map_cons, hname]
    simp
  unfold insert add
  rw [hposition]
  simp [hsplit]

/-- A function whose name is free is added at the end. -/
theorem IsIndexed.insert_of_not_mem (h : registry.IsIndexed)
    (hname : function.qualifiedName ∉ registry.names) :
    registry.insert function =
      { functions := registry.functions ++ [function]
        positions := registry.positions ++
          [(function.qualifiedName, registry.functions.length)] } := by
  have hposition : Entries.find? function.qualifiedName registry.positions = none := by
    cases hfind : Entries.find? function.qualifiedName registry.positions with
    | none => rfl
    | some position => exact absurd (List.mem_of_getElem? ((h _ _).1 hfind)) hname
  unfold insert add
  rw [hposition]

/-- What registering a function does to a registry. -/
theorem IsIndexed.insert_cases (h : registry.IsIndexed) (function : RegisteredFunction) :
    (∃ before old after, registry.functions = before ++ old :: after ∧
        old.qualifiedName = function.qualifiedName ∧
        registry.insert function = { registry with functions := before ++ function :: after }) ∨
      function.qualifiedName ∉ registry.names ∧
        registry.insert function =
          { functions := registry.functions ++ [function]
            positions := registry.positions ++
              [(function.qualifiedName, registry.functions.length)] } := by
  by_cases hname : function.qualifiedName ∈ registry.names
  · obtain ⟨old, hold, heq⟩ := List.mem_map.1 hname
    obtain ⟨before, after, hsplit⟩ := List.append_of_mem hold
    exact Or.inl ⟨before, old, after, hsplit, heq, h.functions_insert hsplit heq.symm⟩
  · exact Or.inr ⟨hname, h.insert_of_not_mem hname⟩

/-- A function in the place of another one of its name keeps the names. -/
theorem names_replace {old : RegisteredFunction} {before after : List RegisteredFunction}
    (hsplit : registry.functions = before ++ old :: after)
    (hname : old.qualifiedName = function.qualifiedName) :
    names { registry with functions := before ++ function :: after } = registry.names := by
  simp [names, hsplit, hname]

/-- Registering a function keeps the index right. -/
theorem IsIndexed.insert (h : registry.IsIndexed) (function : RegisteredFunction) :
    (registry.insert function).IsIndexed := by
  rcases h.insert_cases function with ⟨before, old, after, hsplit, hname, heq⟩ | ⟨hname, heq⟩
  · intro name position
    rw [heq, names_replace hsplit hname]
    exact h name position
  · intro name position
    have hnames : names { functions := registry.functions ++ [function]
                          positions := registry.positions ++
                            [(function.qualifiedName, registry.functions.length)] } =
        registry.names ++ [function.qualifiedName] := by
      simp [names]
    have hlength : registry.names.length = registry.functions.length := by simp [names]
    rw [heq, hnames, Entries.find?_append, List.getElem?_append]
    cases hfind : Entries.find? name registry.positions with
    | some found =>
        -- the name was there before, so it is not the new one
        have hfound := (h name found).1 hfind
        have hne : function.qualifiedName ≠ name := fun heq =>
          hname (heq ▸ List.mem_of_getElem? hfound)
        rw [Option.some_or, ← hfind, h]
        split
        · rfl
        · rename_i hbeyond
          rw [List.getElem?_eq_none (Nat.le_of_not_lt hbeyond)]
          simp [List.getElem?_singleton, hne]
    | none =>
        have hfree : registry.names[position]? ≠ some name := fun hthere => by
          rw [← h, hfind] at hthere
          cases hthere
        have hnew : Entries.find? name
            [(function.qualifiedName, registry.functions.length)] = some position ↔
              function.qualifiedName = name ∧ registry.names.length = position := by
          simp [Entries.find?, hlength]
        rw [Option.none_or, hnew]
        split
        · rename_i hwithin
          constructor
          · rintro ⟨_, rfl⟩
            exact absurd hwithin (Nat.lt_irrefl _)
          · exact fun hthere => absurd hthere hfree
        · rename_i hbeyond
          rw [List.getElem?_singleton]
          constructor
          · rintro ⟨rfl, rfl⟩
            simp
          · intro hthere
            split at hthere
            · exact ⟨Option.some.inj hthere, by omega⟩
            · cases hthere

/-- The index of the registry without functions is right. -/
theorem isIndexed_empty : empty.IsIndexed := by
  intro name position
  simp [empty, names, Entries.find?]

/-- Registering several functions keeps the index right. -/
theorem IsIndexed.insertAll (h : registry.IsIndexed) (functions : List RegisteredFunction) :
    (registry.insertAll functions).IsIndexed := by
  induction functions generalizing registry with
  | nil => exact h
  | cons function rest ih => exact ih (h.insert function)

/-- The index is right in every registry that is built. -/
theorem isIndexed_of_isBuilt (h : registry.IsBuilt) : registry.IsIndexed := by
  obtain ⟨functions, rfl⟩ := h
  exact isIndexed_empty.insertAll functions

/-! ## Looking up -/

/-- No two functions of a registry have one name. -/
theorem IsIndexed.nodup_names (h : registry.IsIndexed) : registry.names.Nodup := by
  rw [List.nodup_iff_getElem?_ne_getElem?]
  intro first second hlt hlength heq
  obtain ⟨name, hname⟩ : ∃ name, registry.names[first]? = some name :=
    ⟨_, List.getElem?_eq_getElem (by omega)⟩
  have hfirst := (h name first).2 hname
  have hsecond := (h name second).2 (heq ▸ hname)
  rw [hfirst] at hsecond
  exact Nat.ne_of_lt hlt (Option.some.inj hsecond)

/-- Looking a name up gives the function of that name. -/
theorem IsIndexed.get?_eq_some_iff (h : registry.IsIndexed) {name : String} :
    registry.get? name = some function ↔
      function ∈ registry.functions ∧ function.qualifiedName = name := by
  have hnames : ∀ position, registry.names[position]? =
      registry.functions[position]?.map RegisteredFunction.qualifiedName := fun _ =>
    List.getElem?_map
  constructor
  · intro hget
    obtain ⟨position, hposition, hfunction⟩ := Option.bind_eq_some_iff.1 hget
    have hname := (h name position).1 hposition
    rw [hnames, hfunction, Option.map_some] at hname
    exact ⟨List.mem_of_getElem? hfunction, Option.some.inj hname⟩
  · rintro ⟨hmem, rfl⟩
    obtain ⟨position, hfunction⟩ := List.getElem?_of_mem hmem
    have hposition : Entries.find? function.qualifiedName registry.positions = some position := by
      rw [h, hnames, hfunction, Option.map_some]
    rw [get?, hposition, Option.bind_some, hfunction]

/-- After a function is registered the functions are that one and those of other names. -/
theorem IsIndexed.mem_insert (h : registry.IsIndexed) {other : RegisteredFunction} :
    other ∈ (registry.insert function).functions ↔
      other = function ∨
        other ∈ registry.functions ∧ other.qualifiedName ≠ function.qualifiedName := by
  rcases h.insert_cases function with ⟨before, old, after, hsplit, hname, heq⟩ | ⟨hname, heq⟩
  · have hnodup := h.nodup_names
    rw [names, hsplit, List.map_append, List.map_cons, List.nodup_middle, List.nodup_cons,
      ← List.map_append] at hnodup
    have hothers : other ∈ before ++ after → other.qualifiedName ≠ function.qualifiedName := by
      intro hmem hsame
      exact hnodup.1 (List.mem_map.2 ⟨other, hmem, hsame.trans hname.symm⟩)
    rw [heq, hsplit]
    simp only [List.mem_append, List.mem_cons] at hothers ⊢
    constructor
    · rintro (hmem | rfl | hmem)
      · exact Or.inr ⟨Or.inl hmem, hothers (Or.inl hmem)⟩
      · exact Or.inl rfl
      · exact Or.inr ⟨Or.inr (Or.inr hmem), hothers (Or.inr hmem)⟩
    · rintro (rfl | ⟨hmem | rfl | hmem, hne⟩)
      · exact Or.inr (Or.inl rfl)
      · exact Or.inl hmem
      · exact absurd hname hne
      · exact Or.inr (Or.inr hmem)
  · rw [heq, List.mem_append, List.mem_singleton, or_comm]
    refine or_congr_right ⟨fun hmem => ⟨hmem, fun hsame => hname ?_⟩, And.left⟩
    exact List.mem_map.2 ⟨other, hmem, hsame⟩

/-- A function of another name stays where it is when a function is registered. -/
theorem IsIndexed.getElem?_insert (h : registry.IsIndexed) {other : RegisteredFunction}
    {position : Nat} (hother : registry.functions[position]? = some other)
    (hne : other.qualifiedName ≠ function.qualifiedName) :
    (registry.insert function).functions[position]? = some other := by
  rcases h.insert_cases function with ⟨before, old, after, hsplit, hname, heq⟩ | ⟨_, heq⟩
  · rw [hsplit, List.getElem?_append] at hother
    rw [heq, List.getElem?_append]
    split at hother
    · rw [if_pos ‹_›]
      exact hother
    · rw [if_neg ‹_›]
      cases hoffset : position - before.length with
      | zero =>
          rw [hoffset, List.getElem?_cons_zero] at hother
          exact absurd (Option.some.inj hother ▸ hname) hne
      | succ offset =>
          rw [hoffset] at hother
          exact hother
  · rw [heq, List.getElem?_append_left (List.getElem?_eq_some_iff.1 hother).1]
    exact hother

/-! ## Registering several functions -/

/-- After functions of different names are registered the functions are those and the
earlier ones of other names. -/
theorem IsIndexed.mem_insertAll (h : registry.IsIndexed) {functions : List RegisteredFunction}
    (hnodup : (functions.map RegisteredFunction.qualifiedName).Nodup)
    {other : RegisteredFunction} :
    other ∈ (registry.insertAll functions).functions ↔
      other ∈ functions ∨ other ∈ registry.functions ∧
        other.qualifiedName ∉ functions.map RegisteredFunction.qualifiedName := by
  induction functions generalizing registry with
  | nil => simp [Registry.insertAll]
  | cons function rest ih =>
      rw [List.map_cons, List.nodup_cons] at hnodup
      have hstep : registry.insertAll (function :: rest) =
          (registry.insert function).insertAll rest := rfl
      rw [hstep, ih (h.insert function) hnodup.2, h.mem_insert]
      have hfirst : other = function →
          other.qualifiedName ∉ rest.map RegisteredFunction.qualifiedName := by
        rintro rfl
        exact hnodup.1
      simp only [List.mem_cons, List.map_cons, not_or]
      tauto

/-- A function of another name stays where it is when functions are registered. -/
theorem IsIndexed.getElem?_insertAll (h : registry.IsIndexed)
    {functions : List RegisteredFunction} {other : RegisteredFunction} {position : Nat}
    (hother : registry.functions[position]? = some other)
    (hne : other.qualifiedName ∉ functions.map RegisteredFunction.qualifiedName) :
    (registry.insertAll functions).functions[position]? = some other := by
  induction functions generalizing registry with
  | nil => exact hother
  | cons function rest ih =>
      rw [List.map_cons, List.mem_cons, not_or] at hne
      exact ih (h.insert function) (h.getElem?_insert hother hne.1) hne.2

/-- A name that is registered keeps its place if it is taken, and else follows the others. -/
theorem IsIndexed.names_insert (h : registry.IsIndexed) (function : RegisteredFunction) :
    (registry.insert function).names =
      registry.names ++ [function.qualifiedName].filter fun name => name ∉ registry.names := by
  rcases h.insert_cases function with ⟨before, old, after, hsplit, hname, heq⟩ | ⟨hname, heq⟩
  · have htaken : function.qualifiedName ∈ registry.names := by
      rw [names, hsplit, ← hname]
      simp
    rw [heq, names_replace hsplit hname]
    simp [htaken]
  · rw [heq]
    simp only [hname, not_false_eq_true, decide_true, List.filter_cons_of_pos, List.filter_nil]
    simp [names]

/-- After functions of different names are registered the earlier names are followed by those
that were not taken, in the order of the functions. -/
theorem IsIndexed.names_insertAll (h : registry.IsIndexed) {functions : List RegisteredFunction}
    (hnodup : (functions.map RegisteredFunction.qualifiedName).Nodup) :
    (registry.insertAll functions).names =
      registry.names ++ (functions.map RegisteredFunction.qualifiedName).filter
        fun name => name ∉ registry.names := by
  induction functions generalizing registry with
  | nil => simp [Registry.insertAll]
  | cons function rest ih =>
      rw [List.map_cons, List.nodup_cons] at hnodup
      have hstep : registry.insertAll (function :: rest) =
          (registry.insert function).insertAll rest := rfl
      -- no name of the rest is the one that was just registered
      have hfilter : (rest.map RegisteredFunction.qualifiedName).filter
            (fun name => name ∉ (registry.insert function).names) =
          (rest.map RegisteredFunction.qualifiedName).filter
            fun name => name ∉ registry.names := by
        refine List.filter_congr fun name hname => ?_
        have hne : name ≠ function.qualifiedName := fun heq => hnodup.1 (heq ▸ hname)
        rw [decide_eq_decide, h.names_insert, List.mem_append, List.mem_filter,
          List.mem_singleton]
        tauto
      rw [hstep, ih (h.insert function) hnodup.2, hfilter, h.names_insert, List.append_assoc,
        ← List.filter_append]
      rfl

/-- Functions that are registered once more move no name. -/
theorem IsIndexed.names_insertAll_again (h : registry.IsIndexed)
    {functions : List RegisteredFunction}
    (hnodup : (functions.map RegisteredFunction.qualifiedName).Nodup) :
    ((registry.insertAll functions).insertAll functions).names =
      (registry.insertAll functions).names := by
  have htaken : ∀ name ∈ functions.map RegisteredFunction.qualifiedName,
      name ∈ (registry.insertAll functions).names := by
    intro name hname
    rw [h.names_insertAll hnodup, List.mem_append, List.mem_filter]
    by_cases hthere : name ∈ registry.names
    · exact Or.inl hthere
    · exact Or.inr ⟨hname, by simpa using hthere⟩
  have hnone : (functions.map RegisteredFunction.qualifiedName).filter
      (fun name => name ∉ (registry.insertAll functions).names) = [] := by
    rw [List.filter_eq_nil_iff]
    intro name hname
    simpa using htaken name hname
  rw [(h.insertAll functions).names_insertAll hnodup, hnone, List.append_nil]

/-- The names of a registry stay at the front when functions are registered. -/
theorem IsIndexed.prefix_names_insertAll (h : registry.IsIndexed)
    (functions : List RegisteredFunction) :
    registry.names <+: (registry.insertAll functions).names := by
  induction functions generalizing registry with
  | nil => exact List.prefix_rfl
  | cons function rest ih =>
      have hfirst : registry.names <+: (registry.insert function).names := by
        rw [h.names_insert]
        exact List.prefix_append _ _
      exact hfirst.trans (ih (h.insert function))

end ApiBinding.Registry
