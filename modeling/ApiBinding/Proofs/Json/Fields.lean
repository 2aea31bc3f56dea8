import ApiBinding.Json.Fields
import ApiBinding.Proofs.Entries.Order
import ApiBinding.Proofs.Traversal

/-!
# What is read from records

Whatever is found in a field was read from some JSON value, unless it is the field's
default.  A property of everything that a reader can give is therefore a property of
what stands in a field.

Main results:

- Theorem `forall_of_optional?`: a field that is there was read.
- Theorem `optional?_ne_null`: a field that is read as it stands is never null.
- Theorems `defaulted?_cases` and `eq_of_defaulted?`: a field with a default was read or has
  the default.
- Theorems `forall_of_list?` and `forall_of_sorted?`: every item and every entry was read.
-/

namespace ApiBinding

namespace Fields

variable {α : Type} {fields : Fields} {name : String} {read : Json → Option α}

/-- What all values read satisfy, an optional field satisfies where it is present. -/
theorem forall_of_optional? {P : α → Prop} (hread : ∀ json value, read json = some value → P value)
    {found : Option α} (h : fields.optional? name read = some found) :
    ∀ value, found = some value → P value := by
  rintro value rfl
  unfold optional? at h
  split at h
  · split at h <;> simp at h
  · simp at h
  · obtain ⟨_, hvalue, hsome⟩ := Option.map_eq_some_iff.1 h
    exact hread _ _ (Option.some.inj hsome ▸ hvalue)

/-- A field that is read as it stands is absent where null is written. -/
theorem optional?_ne_null {found : Option Json} (h : fields.optional? name some = some found) :
    found ≠ some .null := by
  rintro rfl
  unfold optional? at h
  split at h
  · split at h <;> simp at h
  · simp at h
  · rename_i hnull _
    simp only [Option.map_some, Option.some.injEq] at h
    exact hnull h

/-- A field with a default has the default or was read. -/
theorem defaulted?_cases {default found : α}
    (h : fields.defaulted? name default read = some found) :
    found = default ∨ ∃ json, read json = some found := by
  unfold defaulted? at h
  split at h
  · exact Or.inl (Option.some.inj h).symm
  · exact Or.inr ⟨_, h⟩

/-- A field with a default is what was read from its value, if it has one. -/
theorem eq_of_defaulted? {default found : α}
    (h : fields.defaulted? name default read = some found) :
    found = ((Entries.find? name fields.entries).bind read).getD default := by
  unfold defaulted? at h
  split at h
  · rename_i hfind
    rw [hfind, Option.bind_none, Option.getD_none]
    exact (Option.some.inj h).symm
  · rename_i value hfind
    rw [hfind, Option.bind_some, h, Option.getD_some]

end Fields

namespace Json

variable {α : Type} {read : Json → Option α} {json : Json}

/-- What all values read satisfy, every item of an array satisfies. -/
theorem forall_of_list? {P : α → Prop} (hread : ∀ json value, read json = some value → P value)
    {values : List α} (h : list? read json = some values) : ∀ value ∈ values, P value := by
  obtain ⟨items, _, hitems⟩ := Option.bind_eq_some_iff.1 h
  intro value hvalue
  obtain ⟨item, _, hitem⟩ :=
    Traversal.exists_of_mem_right (Traversal.mapM_eq_some_iff.1 hitems) hvalue
  exact hread item value hitem

/-- An object read in the order of names is in that order. -/
theorem sorted_of_sorted? {entries : List (String × α)} (h : sorted? read json = some entries) :
    Entries.Sorted entries := by
  simp only [sorted?, Option.bind_eq_bind, Option.bind_eq_some_iff, Option.pure_def,
    Option.some.injEq] at h
  obtain ⟨_, _, given, _, rfl⟩ := h
  exact Entries.sorted_ofList given

/-- What all values read satisfy, every entry of an object satisfies. -/
theorem forall_of_sorted? {P : α → Prop}
    (hread : ∀ json value, read json = some value → P value) {entries : List (String × α)}
    (h : sorted? read json = some entries) : ∀ entry ∈ entries, P entry.2 := by
  simp only [sorted?, Option.bind_eq_bind, Option.bind_eq_some_iff, Option.pure_def,
    Option.some.injEq] at h
  obtain ⟨_, _, given, hgiven, rfl⟩ := h
  intro entry hentry
  obtain ⟨member, _, hmember⟩ :=
    Traversal.exists_of_mem_right (Traversal.mapM_eq_some_iff.1 hgiven) (Entries.mem_ofList hentry)
  obtain ⟨value, hvalue, rfl⟩ := Option.map_eq_some_iff.1 hmember
  exact hread member.2 value hvalue

end Json

end ApiBinding
