/-!
# Parts between slashes

A path of any kind is cut at its slashes.  The parts that are empty, before a first
slash, after a last one and between two in a row, lead nowhere and are left out.

Main results:

- Theorem `slash_not_mem_of_mem_slashParts`: a part holds no slash.
- Theorem `slashParts_append`: the parts of two paths joined by a slash are those of the first
  and then those of the second.
-/

namespace ApiBinding.Text

/-- The parts of a text between slashes that are not empty. -/
def slashParts (text : List Char) : List (List Char) :=
  (text.splitOn '/').filter fun part => !part.isEmpty

/-- The parts of two paths that are joined by a slash are those of the first one and then those of
the second one. -/
theorem slashParts_append (first second : List Char) :
    slashParts (first ++ '/' :: second) = slashParts first ++ slashParts second := by
  simp [slashParts, List.splitOn, List.splitOnP_append_cons]

/-- No part between slashes is empty. -/
theorem ne_nil_of_mem_slashParts {text part : List Char} (h : part ∈ slashParts text) :
    part ≠ [] := by
  simp only [slashParts, List.mem_filter] at h
  simpa using h.2

/-- What a text is cut into at its slashes holds none. -/
theorem slash_not_mem_of_mem_splitOn {text part : List Char} (h : part ∈ text.splitOn '/') :
    '/' ∉ part := by
  induction text generalizing part with
  | nil =>
    simp only [List.splitOn, List.splitOnP_nil, List.mem_singleton] at h
    simp [h]
  | cons c rest ih =>
    simp only [List.splitOn, List.splitOnP_cons_eq_if_modifyHead] at h ih
    split at h
    next =>
      rcases List.mem_cons.1 h with rfl | h
      · simp
      · exact ih h
    next apart =>
      cases cut : List.splitOnP (fun x => x == '/') rest with
      | nil => simp [cut] at h
      | cons first others =>
        rw [cut, List.modifyHead_cons] at h
        rcases List.mem_cons.1 h with rfl | h
        · have inner := @ih first (by simp [cut])
          simp only [beq_iff_eq] at apart
          simpa [Ne.symm apart] using inner
        · exact ih (by simp [cut, h])

/-- No part between slashes holds one. -/
theorem slash_not_mem_of_mem_slashParts {text part : List Char} (h : part ∈ slashParts text) :
    '/' ∉ part :=
  slash_not_mem_of_mem_splitOn (List.mem_filter.1 h).1

end ApiBinding.Text
