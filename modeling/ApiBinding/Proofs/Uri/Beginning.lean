import ApiBinding.Proofs.Uri.Segments
import ApiBinding.Text.Blank
import ApiBinding.Text.Parts
import Mathlib.Data.List.DropRight

/-!
# Beginnings of paths

A path begins with another one if its first segments are those of the other one.  Written
out, it starts with the text of the other one and goes on with a slash, if it goes on at
all.  A path that grows keeps its beginning, unless a segment climbs out of it: one that is
written as two dots though it is none.

Main results:

- Theorem `beginsWith_slashed_iff`: written out, paths begin with each other as lists of
  segments do.
- Theorem `prefix_foldl_push`: a path that grows begins with what it was.
- Theorem `exists_slashed_of_pathText`: a path without the slashes at its end still is one of
  segments, of which the last is not empty.
-/

namespace ApiBinding.Uri

/-- Segments written out, each after a slash. -/
def slashed (segments : List (List Char)) : List Char :=
  segments.flatMap fun segment => '/' :: segment

/-- The text of a path begins with another text: behind it the path ends or goes on with a
slash. -/
def BeginsWith (path beginning : List Char) : Prop :=
  ∃ rest, path = beginning ++ rest ∧ (rest = [] ∨ rest.head? = some '/')

/-- The segments behind the slashes of a text. -/
def segmentsOf (path : List Char) : List (List Char) :=
  (path.splitOn '/').tail

variable {path segments beginning : List (List Char)} {segment : List Char}

/-! ## Segments written out -/

/-- What is written out ends with its last segment. -/
theorem slashed_append_singleton (segments : List (List Char)) (segment : List Char) :
    slashed (segments ++ [segment]) = slashed segments ++ '/' :: segment := by
  simp [slashed]

/-- A path that is not the root is its segments written out. -/
theorem pathText_of_ne_nil (h : path ≠ []) : pathText path = slashed path := by
  induction path with
  | nil => exact absurd rfl h
  | cons segment rest ih =>
      by_cases hrest : rest = []
      · subst hrest
        simp [pathText, slashed]
      · have htail := ih hrest
        rw [pathText] at htail
        rw [pathText, List.intercalate_cons_of_ne_nil hrest, List.append_assoc,
          List.singleton_append, htail]
        rfl

/-- The root is a single empty segment written out. -/
theorem exists_slashed_eq_pathText (path : List (List Char)) :
    ∃ more, (∀ segment ∈ more, segment = []) ∧ pathText path = slashed (path ++ more) := by
  by_cases hroot : path = []
  · subst hroot
    exact ⟨[[]], by simp, rfl⟩
  · exact ⟨[], by simp, by rw [pathText_of_ne_nil hroot, List.append_nil]⟩

/-- The parts between the slashes of a text, written out. -/
theorem slashed_splitOn (text : List Char) : slashed (text.splitOn '/') = '/' :: text := by
  rw [← pathText_of_ne_nil (List.splitOn_ne_nil _ _), pathText, List.intercalate_splitOn]

/-- The segments that are written out are the ones behind the slashes. -/
theorem segmentsOf_slashed (h : ∀ segment ∈ segments, '/' ∉ segment) :
    segmentsOf (slashed segments) = segments := by
  by_cases hempty : segments = []
  · subst hempty
    rfl
  · rw [← pathText_of_ne_nil hempty, pathText, segmentsOf, List.splitOn_cons_eq_if_modifyHead,
      if_pos (beq_self_eq_true _), List.tail_cons, List.splitOn_intercalate '/' h hempty]

/-- The parts of segments that are written out are those that are not empty. -/
theorem slashParts_slashed (h : ∀ segment ∈ segments, '/' ∉ segment) :
    Text.slashParts (slashed segments) = segments.filter fun segment => !segment.isEmpty := by
  induction segments using List.reverseRecOn with
  | nil => rfl
  | append_singleton rest last ih =>
      have hrest := ih fun segment hmem => h segment (List.mem_append_left _ hmem)
      have hlast : '/' ∉ last := h last (by simp)
      rw [slashed_append_singleton, Text.slashParts_append, hrest, List.filter_append,
        Text.slashParts, List.splitOn_eq_singleton hlast]

/-! ## Beginnings -/

/-- Written out, paths begin with each other as lists of segments do. -/
theorem beginsWith_slashed_iff (hpath : ∀ segment ∈ path, '/' ∉ segment)
    (hbeginning : ∀ segment ∈ beginning, '/' ∉ segment) :
    BeginsWith (slashed path) (slashed beginning) ↔ beginning <+: path := by
  constructor
  · rintro ⟨rest, htext, hrest⟩
    have hmore : ∃ more, (∀ segment ∈ more, '/' ∉ segment) ∧ rest = slashed more := by
      rcases hrest with rfl | hhead
      · exact ⟨[], by simp, rfl⟩
      · obtain ⟨tail, rfl⟩ := List.head?_eq_some_iff.1 hhead
        exact ⟨tail.splitOn '/', fun _ => Text.slash_not_mem_of_mem_splitOn,
          (slashed_splitOn tail).symm⟩
    obtain ⟨more, hslash, rfl⟩ := hmore
    have happend : slashed path = slashed (beginning ++ more) := by
      rw [htext, slashed, slashed, slashed, List.flatMap_append]
    have hsegments := congrArg segmentsOf happend
    rw [segmentsOf_slashed hpath, segmentsOf_slashed] at hsegments
    · exact ⟨more, hsegments.symm⟩
    · intro segment hmem
      exact (List.mem_append.1 hmem).elim (hbeginning segment) (hslash segment)
  · rintro ⟨more, rfl⟩
    refine ⟨slashed more, List.flatMap_append, ?_⟩
    cases more with
    | nil => exact Or.inl rfl
    | cons segment rest => exact Or.inr rfl

/-! ## Growing paths -/

/-- A segment that does not climb leaves what is before it. -/
theorem prefix_push (h : ¬Climbs segment) : path <+: push path segment := by
  simp only [push]
  split_ifs with hskipped hdots hdot hroot
  · exact List.prefix_refl path
  · exact absurd ⟨fun heq => hskipped (Or.inr heq), hdots⟩ h
  · unfold directoryPath
    split
    next hempty => simp [List.isEmpty_iff.1 hempty]
    next => exact List.prefix_append _ _
  · simp [List.isEmpty_iff.1 hroot.1]
  · exact List.prefix_append _ _

/-- A path that grows by segments that do not climb begins with what it was. -/
theorem prefix_foldl_push (h : ∀ segment ∈ segments, ¬Climbs segment) :
    path <+: segments.foldl push path := by
  induction segments generalizing path with
  | nil => exact List.prefix_refl path
  | cons segment rest ih =>
      obtain ⟨hsegment, hrest⟩ := List.forall_mem_cons.1 h
      exact (prefix_push hsegment).trans (ih hrest)

/-! ## Slashes at the end -/

/-- Without the slashes at the end, the empty segments at the end are gone. -/
theorem exists_slashed_of_slashed (hslash : ∀ segment ∈ segments, '/' ∉ segment) :
    ∃ kept, kept <+: segments ∧ kept.getLast? ≠ some [] ∧
      Text.dropWhileEnd (· = '/') (slashed segments) = slashed kept := by
  induction segments using List.reverseRecOn with
  | nil => exact ⟨[], List.prefix_refl _, by simp, rfl⟩
  | append_singleton rest last ih =>
      rw [slashed_append_singleton]
      rcases List.eq_nil_or_concat' last with rfl | ⟨front, c, rfl⟩
      · obtain ⟨kept, hkept, hlast, htext⟩ :=
          ih fun segment hmem => hslash segment (List.mem_append_left _ hmem)
        refine ⟨kept, hkept.trans (List.prefix_append _ _), hlast, ?_⟩
        exact (List.rdropWhile_concat_pos _ _ _ (by simp)).trans htext
      · have hc : c ≠ '/' := by
          rintro rfl
          exact hslash (front ++ ['/']) (by simp) (by simp)
        refine ⟨_, List.prefix_refl _, by simp, ?_⟩
        rw [slashed_append_singleton, ← List.cons_append, ← List.append_assoc]
        exact List.rdropWhile_concat_neg _ _ _ (by simpa using hc)

/-- A path without the slashes at its end is one of its first segments, of which the last is not
empty. -/
theorem exists_slashed_of_pathText (hslash : ∀ segment ∈ path, '/' ∉ segment) :
    ∃ kept, (∀ segment ∈ kept, segment ∈ path ∨ segment = []) ∧ kept.getLast? ≠ some [] ∧
      Text.dropWhileEnd (· = '/') (pathText path) = slashed kept := by
  obtain ⟨more, hmore, htext⟩ := exists_slashed_eq_pathText path
  have hall : ∀ segment ∈ path ++ more, '/' ∉ segment := by
    intro segment hmem
    rcases List.mem_append.1 hmem with hpath | hempty
    · exact hslash segment hpath
    · simp [hmore segment hempty]
  obtain ⟨kept, hkept, hlast, hdropped⟩ := exists_slashed_of_slashed hall
  refine ⟨kept, fun segment hmem => ?_, hlast, by rw [htext, hdropped]⟩
  exact (List.mem_append.1 (hkept.subset hmem)).imp_right (hmore segment)

end ApiBinding.Uri
