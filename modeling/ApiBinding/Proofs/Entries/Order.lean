import ApiBinding.Entries
import Mathlib.Data.List.Induction
import Mathlib.Data.List.Nodup
import Mathlib.Data.List.Sort

/-!
# Orders of entries

Looking a name up gives an entry of the list, collecting entries adds none, and in a
list without repeated names the order of writing is kept as it is.

Main results:

- Theorem `mem_of_find?`: what a look-up gives stands in the list.
- Theorem `isSome_find?_iff`: a look-up gives something for the names of the list.
- Theorem `ofList_map`: changing the values of entries does not change their order.
- Theorem `mem_ofList`: entries in the order of names are entries that were given.
- Theorem `nodup_names_of_sorted`: in the order of names no name occurs twice.
- Theorems `ofList_perm` and `find?_ofList`: where no name is repeated, the order of names
  holds the same entries.
- Theorem `eq_of_find?_eq`: in the order of names entries are known by looking them up.
- Theorem `find?_ofList_flatMap`: of several lists of entries the last one wins.
- Theorem `merge_spec`: merging adds no entry and repeats no name.
- Theorem `merge_eq_self`: merging changes nothing where no name is repeated.
-/

namespace ApiBinding.Entries

variable {α β : Type}

/-- What stands under a name is one of the entries. -/
theorem mem_of_find? {name : String} {value : α} {entries : List (String × α)}
    (h : find? name entries = some value) : (name, value) ∈ entries := by
  induction entries with
  | nil => simp [find?] at h
  | cons entry rest ih =>
      obtain ⟨key, first⟩ := entry
      by_cases hkey : key = name
      · simp only [find?, hkey, if_true, Option.some.injEq] at h
        simp [hkey, h]
      · simp only [find?, hkey, if_false] at h
        exact List.mem_cons_of_mem _ (ih h)

/-- Where no name is repeated, what stands under a name is what is found. -/
theorem find?_eq_some_iff {name : String} {value : α} {entries : List (String × α)}
    (h : (names entries).Nodup) : find? name entries = some value ↔ (name, value) ∈ entries := by
  refine ⟨mem_of_find?, fun hmem => ?_⟩
  induction entries with
  | nil => simp at hmem
  | cons entry rest ih =>
      obtain ⟨key, first⟩ := entry
      rw [names, List.map_cons, List.nodup_cons] at h
      rcases List.mem_cons.1 hmem with heq | hrest
      · obtain ⟨rfl, rfl⟩ := Prod.mk.inj heq
        simp [find?]
      · have hname : name ∈ rest.map Prod.fst := List.mem_map_of_mem hrest
        have hne : key ≠ name := fun heq => h.1 (heq ▸ hname)
        rw [find?, if_neg hne]
        exact ih h.2 hrest

/-- A name is found if it is one of the names. -/
theorem isSome_find?_iff {name : String} {entries : List (String × α)} :
    (find? name entries).isSome = true ↔ name ∈ names entries := by
  induction entries with
  | nil => simp [find?, names]
  | cons entry rest ih =>
      obtain ⟨key, first⟩ := entry
      rw [names] at ih ⊢
      rw [List.map_cons, List.mem_cons, ← ih]
      by_cases hkey : key = name
      · simp [find?, hkey]
      · simp [find?, hkey, Ne.symm hkey]

/-- In two lists of entries the first one comes first. -/
theorem find?_append (name : String) (first rest : List (String × α)) :
    find? name (first ++ rest) = (find? name first).or (find? name rest) := by
  induction first with
  | nil => rfl
  | cons entry first ih =>
      obtain ⟨key, value⟩ := entry
      by_cases hkey : key = name <;> simp [find?, hkey, ih]

/-- Changing the values of entries changes what is found. -/
theorem find?_map (change : String → α → β) (name : String) (entries : List (String × α)) :
    find? name (entries.map fun entry => (entry.1, change entry.1 entry.2)) =
      (find? name entries).map (change name) := by
  induction entries with
  | nil => rfl
  | cons entry rest ih =>
      by_cases hkey : entry.1 = name
      · simp [find?, hkey]
      · simp [find?, hkey, ih]

/-! ## The order of names -/

/-- Changing the values of entries does not change where one is inserted. -/
theorem insert_map (change : String → α → β) (name : String) (value : α)
    (entries : List (String × α)) :
    insert name (change name value)
        (entries.map fun entry => (entry.1, change entry.1 entry.2)) =
      (insert name value entries).map fun entry => (entry.1, change entry.1 entry.2) := by
  induction entries with
  | nil => rfl
  | cons entry rest ih =>
      rw [List.map_cons, insert, insert, ih]
      split
      · rfl
      · split <;> rfl

/-- The last of several entries is inserted last. -/
theorem ofList_append_singleton (entries : List (String × α)) (last : String × α) :
    ofList (entries ++ [last]) = insert last.1 last.2 (ofList entries) := by
  simp [ofList, insertAll]

/-- Changing the values of entries does not change their order. -/
theorem ofList_map (change : String → α → β) (entries : List (String × α)) :
    ofList (entries.map fun entry => (entry.1, change entry.1 entry.2)) =
      (ofList entries).map fun entry => (entry.1, change entry.1 entry.2) := by
  induction entries using List.reverseRecOn with
  | nil => rfl
  | append_singleton rest last ih =>
      rw [List.map_append, List.map_singleton, ofList_append_singleton, ofList_append_singleton,
        ih, insert_map]

/-- Inserting several entries adds only entries that were given. -/
theorem mem_insertAll {entries added : List (String × α)} {entry : String × α}
    (h : entry ∈ insertAll entries added) : entry ∈ entries ∨ entry ∈ added := by
  induction added generalizing entries with
  | nil => exact Or.inl h
  | cons first rest ih =>
      rcases @ih (insert first.1 first.2 entries) h with hentry | hentry
      · rcases mem_insert hentry with rfl | hentry
        · exact Or.inr List.mem_cons_self
        · exact Or.inl hentry
      · exact Or.inr (List.mem_cons_of_mem _ hentry)

/-- Entries in the order of names are entries that were given. -/
theorem mem_ofList {entries : List (String × α)} {entry : String × α}
    (h : entry ∈ ofList entries) : entry ∈ entries := by
  rcases mem_insertAll h with hnil | hentry
  · simp at hnil
  · exact hentry

/-- Inserting an entry adds its name. -/
theorem mem_names_insert_iff {name other : String} {value : α} {entries : List (String × α)} :
    other ∈ names (insert name value entries) ↔ other = name ∨ other ∈ names entries := by
  rw [← isSome_find?_iff, ← isSome_find?_iff]
  by_cases hother : name = other
  · subst hother
    simp
  · rw [find?_insert_of_ne hother]
    simp [Ne.symm hother]

/-- In the order of names the names are those that were given. -/
theorem mem_names_ofList_iff {name : String} {entries : List (String × α)} :
    name ∈ names (ofList entries) ↔ name ∈ names entries := by
  induction entries using List.reverseRecOn with
  | nil => rfl
  | append_singleton rest last ih =>
      rw [ofList_append_singleton, mem_names_insert_iff, ih]
      simp [names, or_comm]

/-- In the order of names no name occurs twice. -/
theorem nodup_names_of_sorted {entries : List (String × α)} (h : Sorted entries) :
    (names entries).Nodup := by
  rw [names, List.Nodup, List.pairwise_map]
  refine List.Pairwise.imp ?_ h
  intro first second hlt heq
  exact String.lt_irrefl _ (heq ▸ hlt)

/-- A name that does not occur is inserted somewhere. -/
theorem insert_perm {name : String} {entries : List (String × α)} (h : name ∉ names entries)
    (value : α) : (insert name value entries).Perm ((name, value) :: entries) := by
  induction entries with
  | nil => exact List.Perm.refl _
  | cons entry rest ih =>
      obtain ⟨key, old⟩ := entry
      simp only [names, List.map_cons, List.mem_cons, not_or] at h
      rw [insert, if_neg (Ne.symm h.1)]
      split
      · exact List.Perm.refl _
      · exact ((ih h.2).cons _).trans (List.Perm.swap _ _ _)

/-- Where no name is repeated, the order of names holds all entries. -/
theorem ofList_perm {entries : List (String × α)} (h : (names entries).Nodup) :
    (ofList entries).Perm entries := by
  induction entries using List.reverseRecOn with
  | nil => exact List.Perm.refl _
  | append_singleton rest last ih =>
      simp only [names, List.map_append, List.map_cons, List.map_nil] at h
      have hrest := ih (List.Nodup.of_append_left h)
      have hlast : last.1 ∉ names (ofList rest) := by
        rw [names, (hrest.map Prod.fst).mem_iff]
        exact fun hmem => List.disjoint_of_nodup_append h hmem List.mem_cons_self
      rw [ofList_append_singleton]
      exact (insert_perm hlast last.2).trans
        ((hrest.cons last).trans (List.perm_append_singleton last rest).symm)

/-- Where no name is repeated, looking up does not depend on the order. -/
theorem find?_ofList {entries : List (String × α)} (h : (names entries).Nodup) (name : String) :
    find? name (ofList entries) = find? name entries := by
  apply Option.ext
  intro value
  rw [find?_eq_some_iff h, find?_eq_some_iff (nodup_names_of_sorted (sorted_ofList entries)),
    (ofList_perm h).mem_iff]

/-- In the order of names entries are known by what is found under each name. -/
theorem eq_of_find?_eq {first second : List (String × α)} (hfirst : Sorted first)
    (hsecond : Sorted second) (h : ∀ name, find? name first = find? name second) :
    first = second := by
  have : Std.Antisymm fun a b : String × α => a.1 < b.1 :=
    ⟨fun _ _ hab hba => absurd (String.lt_trans hab hba) (String.lt_irrefl _)⟩
  have : Std.Irrefl fun a b : String × α => a.1 < b.1 := ⟨fun _ => String.lt_irrefl _⟩
  refine List.Pairwise.eq_of_mem_iff hfirst hsecond fun entry => ?_
  rw [← find?_eq_some_iff (nodup_names_of_sorted hfirst), h,
    find?_eq_some_iff (nodup_names_of_sorted hsecond)]

/-- Entries that stand in the order of names stay as they are. -/
theorem ofList_eq_self {entries : List (String × α)} (h : Sorted entries) :
    ofList entries = entries :=
  eq_of_find?_eq (sorted_ofList entries) h (find?_ofList (nodup_names_of_sorted h))

/-- Of two lists of entries the second one wins. -/
theorem find?_ofList_append (name : String) (first second : List (String × α)) :
    find? name (ofList (first ++ second)) =
      (find? name (ofList second)).or (find? name (ofList first)) := by
  induction second using List.reverseRecOn with
  | nil => rw [List.append_nil]; rfl
  | append_singleton rest last ih =>
      rw [← List.append_assoc, ofList_append_singleton, ofList_append_singleton]
      by_cases hname : last.1 = name
      · subst hname
        rw [find?_insert_self, find?_insert_self, Option.some_or]
      · rw [find?_insert_of_ne hname, find?_insert_of_ne hname, ih]

/-- Of several lists of entries the last one wins that has a name. -/
theorem find?_ofList_flatMap (name : String) (entries : β → List (String × α)) (lists : List β) :
    find? name (ofList (lists.flatMap entries)) =
      (lists.filterMap fun list => find? name (ofList (entries list))).getLast? := by
  induction lists with
  | nil => rfl
  | cons list rest ih =>
      rw [List.flatMap_cons, find?_ofList_append, ih, List.filterMap_cons]
      cases find? name (ofList (entries list)) with
      | none => rw [Option.or_none]
      | some value =>
          dsimp only
          rw [List.getLast?_cons]
          cases (rest.filterMap fun list => find? name (ofList (entries list))).getLast? <;> rfl

/-! ## The order of writing -/

/-- Setting a name adds no other entry. -/
theorem mem_set {name : String} {value : α} {entries : List (String × α)} {entry : String × α}
    (h : entry ∈ set name value entries) : entry = (name, value) ∨ entry ∈ entries := by
  induction entries with
  | nil => exact Or.inl (List.mem_singleton.1 h)
  | cons first rest ih =>
      obtain ⟨key, old⟩ := first
      rw [set] at h
      split at h
      · rename_i hkey
        subst hkey
        rcases List.mem_cons.1 h with heq | hrest
        · exact Or.inl heq
        · exact Or.inr (List.mem_cons_of_mem _ hrest)
      · rcases List.mem_cons.1 h with heq | hrest
        · exact Or.inr (heq ▸ List.mem_cons_self)
        · exact (ih hrest).imp id (List.mem_cons_of_mem _)

/-- Setting a name repeats none. -/
theorem nodup_names_set {entries : List (String × α)} (h : (names entries).Nodup) (name : String)
    (value : α) : (names (set name value entries)).Nodup := by
  induction entries with
  | nil => simp [set, names]
  | cons first rest ih =>
      obtain ⟨key, old⟩ := first
      simp only [names, List.map_cons, List.nodup_cons] at h
      rw [set]
      split
      · simpa [names] using h
      · rename_i hkey
        simp only [names, List.map_cons, List.nodup_cons]
        refine ⟨fun hmem => ?_, ih h.2⟩
        obtain ⟨entry, hentry, heq⟩ := List.mem_map.1 hmem
        rcases mem_set hentry with rfl | hrest
        · exact hkey heq.symm
        · exact h.1 (List.mem_map.2 ⟨entry, hrest, heq⟩)

/-- The last of several entries is set last. -/
theorem merge_append_singleton (entries : List (String × α)) (last : String × α) :
    merge (entries ++ [last]) = set last.1 last.2 (merge entries) := by
  simp [merge]

/-- Merging adds no entry and repeats no name. -/
theorem merge_spec (entries : List (String × α)) :
    (names (merge entries)).Nodup ∧ ∀ entry ∈ merge entries, entry ∈ entries := by
  induction entries using List.reverseRecOn with
  | nil => exact ⟨List.nodup_nil, fun _ hentry => hentry⟩
  | append_singleton rest last ih =>
      obtain ⟨hnodup, hmem⟩ := ih
      rw [merge_append_singleton]
      refine ⟨nodup_names_set hnodup _ _, fun entry hentry => ?_⟩
      rcases mem_set hentry with rfl | hrest
      · exact List.mem_append_right _ List.mem_cons_self
      · exact List.mem_append_left _ (hmem entry hrest)

/-- A name that does not occur is set at the end. -/
theorem set_of_not_mem {name : String} {entries : List (String × α)}
    (h : name ∉ names entries) (value : α) :
    set name value entries = entries ++ [(name, value)] := by
  induction entries with
  | nil => rfl
  | cons entry rest ih =>
      obtain ⟨key, first⟩ := entry
      simp only [names, List.map_cons, List.mem_cons, not_or] at h
      rw [set, if_neg (Ne.symm h.1), ih h.2, List.cons_append]

/-- A name that occurs is set in place, at its first occurrence. -/
theorem set_append_cons {name : String} {before : List (String × α)}
    (h : name ∉ names before) (old value : α) (after : List (String × α)) :
    set name value (before ++ (name, old) :: after) = before ++ (name, value) :: after := by
  induction before with
  | nil => simp [set]
  | cons entry rest ih =>
      obtain ⟨key, first⟩ := entry
      simp only [names, List.map_cons, List.mem_cons, not_or] at h
      rw [List.cons_append, set, if_neg (Ne.symm h.1), ih h.2, List.cons_append]

/-- Merging changes nothing where no name is repeated. -/
theorem merge_eq_self {entries : List (String × α)} (h : (names entries).Nodup) :
    merge entries = entries := by
  induction entries using List.reverseRecOn with
  | nil => rfl
  | append_singleton rest last ih =>
      simp only [names, List.map_append, List.map_cons, List.map_nil] at h
      have hrest := List.Nodup.of_append_left h
      have hlast : last.1 ∉ names rest := fun hmem =>
        List.disjoint_of_nodup_append h hmem List.mem_cons_self
      calc
        merge (rest ++ [last]) = set last.1 last.2 (merge rest) := merge_append_singleton rest last
        _ = rest ++ [last] := by rw [ih hrest, set_of_not_mem hlast]

end ApiBinding.Entries
