/-!
# Named entries

A list of entries, each a name with a value, is kept in one of two orders.  In the
order of writing, setting a name that is there keeps its place.  In the order of
names, which is that of their code points, every entry is inserted where it
belongs.  Looking up is the same for both.

Main results:

- Theorem `find?_insert_self`: a name that was inserted has the new value.
- Theorem `find?_insert_of_ne`: all other names have what they had before.
- Theorem `sorted_insert`: inserting keeps the order of names, so no name occurs twice.
-/

namespace ApiBinding.Entries

variable {α β : Type}

/-- The value under a name. -/
def find? (name : String) : List (String × α) → Option α
  | [] => none
  | (key, value) :: rest => if key = name then some value else find? name rest

/-- The names of the entries. -/
def names (entries : List (String × α)) : List String :=
  entries.map Prod.fst

/-! ## The order of writing -/

/-- Set a name: in place if it is there, else at the end. -/
def set (name : String) (value : α) : List (String × α) → List (String × α)
  | [] => [(name, value)]
  | (key, old) :: rest =>
    if key = name then (key, value) :: rest else (key, old) :: set name value rest

/-- The entries without repetition: each name at its first place with its last value. -/
def merge (entries : List (String × α)) : List (String × α) :=
  entries.foldl (fun merged entry => set entry.1 entry.2 merged) []

/-- A name that was set has the new value. -/
@[simp]
theorem find?_set_self (name : String) (value : α) (entries : List (String × α)) :
    find? name (set name value entries) = some value := by
  induction entries with
  | nil => simp [set, find?]
  | cons entry rest ih =>
    obtain ⟨key, old⟩ := entry
    by_cases h : key = name <;> simp [set, find?, h, ih]

/-- Setting a name leaves what other names have. -/
theorem find?_set_of_ne {name other : String} (h : name ≠ other) (value : α)
    (entries : List (String × α)) :
    find? other (set name value entries) = find? other entries := by
  induction entries with
  | nil => simp [set, find?, h]
  | cons entry rest ih =>
    obtain ⟨key, old⟩ := entry
    by_cases hk : key = name
    · subst hk
      simp [set, find?, h]
    · by_cases ho : key = other
      · subst ho
        simp [set, find?, hk]
      · simp [set, find?, hk, ho, ih]

/-! ## The order of names -/

/-- Insert an entry before the first greater name, replacing an entry of the same name. -/
def insert (name : String) (value : α) : List (String × α) → List (String × α)
  | [] => [(name, value)]
  | (key, old) :: rest =>
    if key = name then (name, value) :: rest
    else if name < key then (name, value) :: (key, old) :: rest
    else (key, old) :: insert name value rest

/-- Insert several entries one after the other, so that the last of a name wins. -/
def insertAll (entries added : List (String × α)) : List (String × α) :=
  added.foldl (fun sorted entry => insert entry.1 entry.2 sorted) entries

/-- The entries in the order of names, the last of each name. -/
def ofList (entries : List (String × α)) : List (String × α) :=
  insertAll [] entries

/-- The names stand in strictly increasing order. -/
def Sorted (entries : List (String × α)) : Prop :=
  entries.Pairwise fun a b => a.1 < b.1

/-- A name that was inserted has the new value. -/
@[simp]
theorem find?_insert_self (name : String) (value : α) (entries : List (String × α)) :
    find? name (insert name value entries) = some value := by
  induction entries with
  | nil => simp [insert, find?]
  | cons entry rest ih =>
    obtain ⟨key, old⟩ := entry
    by_cases h : key = name
    · simp [insert, find?, h]
    · by_cases hlt : name < key <;> simp [insert, find?, h, hlt, ih]

/-- Inserting a name leaves what other names have. -/
theorem find?_insert_of_ne {name other : String} (h : name ≠ other) (value : α)
    (entries : List (String × α)) :
    find? other (insert name value entries) = find? other entries := by
  induction entries with
  | nil => simp [insert, find?, h]
  | cons entry rest ih =>
    obtain ⟨key, old⟩ := entry
    by_cases hk : key = name
    · subst hk
      simp [insert, find?, h]
    · by_cases hlt : name < key
      · simp [insert, find?, hk, hlt, h]
      · by_cases ho : key = other
        · subst ho
          simp [insert, find?, hk, hlt]
        · simp [insert, find?, hk, hlt, ho, ih]

/-- After an insertion every entry is the new one or was there before. -/
theorem mem_insert {name : String} {value : α} {entries : List (String × α)}
    {entry : String × α} (h : entry ∈ insert name value entries) :
    entry = (name, value) ∨ entry ∈ entries := by
  induction entries with
  | nil => simpa [insert] using h
  | cons first rest ih =>
    obtain ⟨key, old⟩ := first
    unfold insert at h
    split at h
    · rcases List.mem_cons.1 h with h | h
      · exact .inl h
      · exact .inr (List.mem_cons_of_mem _ h)
    · split at h
      · rcases List.mem_cons.1 h with h | h
        · exact .inl h
        · exact .inr h
      · rcases List.mem_cons.1 h with h | h
        · exact .inr (h ▸ List.mem_cons_self)
        · rcases ih h with h | h
          · exact .inl h
          · exact .inr (List.mem_cons_of_mem _ h)

/-- Inserting a name keeps the order of names. -/
theorem sorted_insert {entries : List (String × α)} (h : Sorted entries) (name : String)
    (value : α) : Sorted (insert name value entries) := by
  induction entries with
  | nil => simp [insert, Sorted]
  | cons entry rest ih =>
    obtain ⟨key, old⟩ := entry
    have head := (List.pairwise_cons.1 h).1
    have tail := (List.pairwise_cons.1 h).2
    unfold insert
    split
    next hk =>
      subst hk
      exact List.pairwise_cons.2 ⟨head, tail⟩
    next hk =>
      split
      next hlt =>
        refine List.pairwise_cons.2 ⟨fun b hb => ?_, h⟩
        rcases List.mem_cons.1 hb with rfl | hb
        · exact hlt
        · exact String.lt_trans hlt (head b hb)
      next hlt =>
        refine List.pairwise_cons.2 ⟨fun b hb => ?_, ih tail⟩
        rcases mem_insert hb with rfl | hb
        · exact Classical.byContradiction fun hn =>
            hk (String.le_antisymm (String.not_lt.1 hlt) (String.not_lt.1 hn))
        · exact head b hb

/-- So does inserting several names. -/
theorem sorted_insertAll {entries : List (String × α)} (h : Sorted entries)
    (added : List (String × α)) : Sorted (insertAll entries added) := by
  induction added generalizing entries with
  | nil => exact h
  | cons entry rest ih => exact ih (sorted_insert h entry.1 entry.2)

/-- Entries that are inserted one after the other are in the order of their names. -/
theorem sorted_ofList (entries : List (String × α)) : Sorted (ofList entries) :=
  sorted_insertAll List.Pairwise.nil entries

end ApiBinding.Entries
