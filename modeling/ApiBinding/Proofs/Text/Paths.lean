import ApiBinding.Proofs.Uri.Beginning
import ApiBinding.Text.LetterCase

/-!
# Paths written alike

Where the case of letters does not count, and slashes only divide the parts of a path, many
paths mean the same: letters may be of either case, and slashes may be repeated or stand at
either end.  All of these have the same parts, apart from the case, and no other paths have.

Main results:

- Theorem `slashParts_lowered`: lowering a path lowers its parts.
- Theorem `writtenAlike_slashed_slashParts`: a path is written like its parts, each after a
  slash.
- Theorem `writtenAlike_iff`: paths are written alike just if they have the same parts, apart
  from the case.
-/

namespace ApiBinding.Text

/-- Paths that are the same apart from the case of their letters, slashes at either end, and
slashes that are repeated. -/
inductive WrittenAlike : List Char → List Char → Prop where
  | letters {first second : List Char} (h : lowered first = lowered second) :
    WrittenAlike first second
  | leading (path : List Char) : WrittenAlike ('/' :: path) path
  | trailing (path : List Char) : WrittenAlike (path ++ ['/']) path
  | repeated (before after : List Char) :
    WrittenAlike (before ++ '/' :: '/' :: after) (before ++ '/' :: after)
  | symm {first second : List Char} (h : WrittenAlike first second) : WrittenAlike second first
  | trans {first second third : List Char} (h : WrittenAlike first second)
    (hnext : WrittenAlike second third) : WrittenAlike first third

variable {first second path : List Char}

/-! ## Lowered paths -/

/-- Only a slash is lowered to a slash. -/
theorem eq_slash_of_toLower {c : Char} (h : c.toLower = '/') : c = '/' := by
  unfold Char.toLower at h
  split at h
  next capital =>
    have low : 65 ≤ c.val.toNat := UInt32.le_iff_toNat_le.1 capital.1
    have high : c.val.toNat ≤ 90 := UInt32.le_iff_toNat_le.1 capital.2
    have hval : (c.val + ('a'.val - 'A'.val)).toNat = 47 :=
      congrArg (fun d => d.val.toNat) h
    rw [UInt32.toNat_add, show ('a'.val - 'A'.val).toNat = 32 from rfl] at hval
    omega
  next => exact h

/-- Lowering a text without slashes gives one without slashes. -/
theorem slash_not_mem_lowered (h : '/' ∉ path) : '/' ∉ lowered path := by
  intro hmem
  obtain ⟨c, hc, hlower⟩ := List.mem_map.1 hmem
  exact h (eq_slash_of_toLower hlower ▸ hc)

/-- Parts that are written out are lowered one by one. -/
theorem lowered_slashed (parts : List (List Char)) :
    lowered (Uri.slashed parts) = Uri.slashed (parts.map lowered) := by
  induction parts with
  | nil => rfl
  | cons part rest ih =>
      simp only [lowered, Uri.slashed, List.flatMap_cons, List.map_append, List.map_cons] at ih ⊢
      rw [ih]
      rfl

/-- A slash in front adds no part. -/
theorem slashParts_leading (path : List Char) : slashParts ('/' :: path) = slashParts path :=
  slashParts_append [] path

/-- The parts of a lowered path are its lowered parts. -/
theorem slashParts_lowered (path : List Char) :
    slashParts (lowered path) = (slashParts path).map lowered := by
  have hparts : ∀ part ∈ path.splitOn '/', '/' ∉ part := fun _ => slash_not_mem_of_mem_splitOn
  have hlowered : ∀ part ∈ (path.splitOn '/').map lowered, '/' ∉ part := by
    rw [List.forall_mem_map]
    exact fun part hpart => slash_not_mem_lowered (hparts part hpart)
  have hnil : ∀ part, (lowered part).isEmpty = part.isEmpty := by simp [lowered]
  calc slashParts (lowered path)
      = slashParts (lowered ('/' :: path)) := (slashParts_leading (lowered path)).symm
    _ = slashParts (Uri.slashed ((path.splitOn '/').map lowered)) := by
        rw [← Uri.slashed_splitOn, lowered_slashed]
    _ = ((path.splitOn '/').filter fun part => !part.isEmpty).map lowered := by
        rw [Uri.slashParts_slashed hlowered, List.filter_map]
        simp only [Function.comp_def, hnil]

/-! ## The parts of paths written alike -/

/-- Paths that are written alike have the same parts, apart from the case. -/
theorem WrittenAlike.map_lowered_eq (h : WrittenAlike first second) :
    (slashParts first).map lowered = (slashParts second).map lowered := by
  induction h with
  | letters h => rw [← slashParts_lowered, h, slashParts_lowered]
  | leading path => rw [slashParts_leading]
  | trailing path =>
      have hnone : slashParts [] = [] := rfl
      rw [slashParts_append, hnone, List.append_nil]
  | repeated before after => rw [slashParts_append, slashParts_leading, slashParts_append]
  | symm _ ih => exact ih.symm
  | trans _ _ ih ihnext => exact ih.trans ihnext

/-- Parts that are empty may be left out, whatever stands before them. -/
theorem writtenAlike_filter (before : List Char) (parts : List (List Char)) :
    WrittenAlike (before ++ Uri.slashed parts)
      (before ++ Uri.slashed (parts.filter fun part => !part.isEmpty)) := by
  induction parts generalizing before with
  | nil => exact .letters rfl
  | cons part rest ih =>
      cases part with
      | cons c part => simpa [Uri.slashed] using ih (before ++ '/' :: c :: part)
      | nil =>
          refine .trans ?_ (ih before)
          -- the slash of the empty part is the last one, or another slash follows it
          cases rest with
          | nil => simpa [Uri.slashed] using WrittenAlike.trailing before
          | cons part rest =>
              simpa [Uri.slashed] using
                WrittenAlike.repeated before (part ++ Uri.slashed rest)

/-- A path is written like its parts, each after a slash. -/
theorem writtenAlike_slashed_slashParts (path : List Char) :
    WrittenAlike path (Uri.slashed (slashParts path)) := by
  refine .trans (.symm (.leading path)) ?_
  rw [← Uri.slashed_splitOn]
  exact writtenAlike_filter [] (path.splitOn '/')

/-- Paths are written alike just if they have the same parts, apart from the case. -/
theorem writtenAlike_iff :
    WrittenAlike first second ↔
      (slashParts first).map lowered = (slashParts second).map lowered := by
  refine ⟨WrittenAlike.map_lowered_eq, fun hparts => ?_⟩
  have hwritten : WrittenAlike (Uri.slashed (slashParts first))
      (Uri.slashed (slashParts second)) := by
    refine .letters ?_
    rw [lowered_slashed, hparts, lowered_slashed]
  exact (writtenAlike_slashed_slashParts first).trans
    (hwritten.trans (writtenAlike_slashed_slashParts second).symm)

end ApiBinding.Text
