import ApiBinding.Proofs.Uri.RemotePath

/-!
# Base paths, written again

A path that grows from a base path takes the text of the base path apart and writes each part
again.  Parts that are empty are lost, and what is in normal form already has its percent
signs encoded once more.  So the path begins with the base path as it is only if there is
nothing of this kind in it.

Main results:

- Theorem `prefix_rewritten_iff`: which segments stand first among themselves written again.
- Theorem `givesBase_foldl_push`: how a path begins that grows from the parts of a base path.
-/

namespace ApiBinding.Uri

/-- A base path written again: the parts that are not empty, with their percent signs encoded. -/
def rewritten (base : List Char) : List Char :=
  slashed ((Text.slashParts base).map escapePercent)

/-- How a path gives a base path. -/
structure GivesBase (base path : List Char) : Prop where
  /-- It begins with the base path written again. -/
  begins : BeginsWith path (rewritten base)
  /-- So it begins with the base path as it is exactly if writing it again changes nothing. -/
  asStated_iff : BeginsWith path base ↔ '%' ∉ base ∧ [] ∉ segmentsOf base

variable {base segments more : List (List Char)}

/-! ## Writing again -/

/-- The parts of a base path in normal form are pushed as they are written again. -/
theorem foldl_push_slashParts (h : ∀ segment ∈ base, IsNormal segment) :
    (Text.slashParts (slashed base)).foldl push [] =
      (Text.slashParts (slashed base)).map escapePercent := by
  have hslash : ∀ segment ∈ base, '/' ∉ segment := fun segment hmem =>
    slash_not_mem_of_isNormal (h segment hmem)
  have hnormal : ∀ part ∈ Text.slashParts (slashed base), IsNormal part := by
    intro part hpart
    rw [slashParts_slashed hslash] at hpart
    exact h part (List.mem_of_mem_filter hpart)
  have hnone : (Text.slashParts (slashed base)).dropWhile List.isEmpty =
      Text.slashParts (slashed base) := by
    rw [List.dropWhile_eq_self_iff]
    intro hlength hempty
    exact Text.ne_nil_of_mem_slashParts (List.getElem_mem hlength) (List.isEmpty_iff.1 hempty)
  rw [foldl_push_of_plain fun part hpart => isPlain_of_isNormal (hnormal part hpart), hnone]
  exact List.map_congr_left fun part hpart => writtenSegment_of_isNormal (hnormal part hpart)

/-- Behind an empty segment there is one that is not empty, if the last one is not. -/
theorem exists_filter_eq_cons (hlast : ([] :: base).getLast? ≠ some []) :
    ∃ first others, base.filter (fun segment => !segment.isEmpty) = first :: others ∧
      first ≠ [] := by
  cases hend : base.getLast? with
  | none => simp [List.getLast?_cons, hend] at hlast
  | some last =>
      have hlastNe : last ≠ [] := by simpa [List.getLast?_cons, hend] using hlast
      have hmem : last ∈ base.filter fun segment => !segment.isEmpty := by
        simp [List.mem_of_getLast? hend, hlastNe]
      obtain ⟨first, others, hfilter⟩ := List.exists_cons_of_ne_nil (List.ne_nil_of_mem hmem)
      have hfirst : first ∈ base.filter fun segment => !segment.isEmpty := by
        rw [hfilter]
        exact List.mem_cons_self
      exact ⟨first, others, hfilter, by simpa using (List.mem_filter.1 hfirst).2⟩

/-- Segments stand first among themselves written again only if none of them is empty and none
is changed. -/
theorem forall_of_prefix_rewritten (hlast : base.getLast? ≠ some [])
    (h : base <+: (base.filter fun segment => !segment.isEmpty).map escapePercent ++ more) :
    ∀ segment ∈ base, segment ≠ [] ∧ escapePercent segment = segment := by
  induction base with
  | nil => simp
  | cons segment rest ih =>
      by_cases hempty : segment = []
      · -- the first segment that is written again is not empty
        subst hempty
        obtain ⟨first, others, hfilter, hfirst⟩ := exists_filter_eq_cons hlast
        rw [List.filter_cons_of_neg (by simp), hfilter, List.map_cons, List.cons_append,
          List.cons_prefix_cons] at h
        exact absurd (escapePercent_eq_nil_iff.1 h.1.symm) hfirst
      · have hrest : rest.getLast? ≠ some [] := by
          intro heq
          apply hlast
          rw [List.getLast?_cons, heq, Option.getD_some]
        rw [List.filter_cons_of_pos (by simp [hempty]), List.map_cons, List.cons_append,
          List.cons_prefix_cons] at h
        exact List.forall_mem_cons.2 ⟨⟨hempty, h.1.symm⟩, ih hrest h.2⟩

/-- Segments hold a percent sign exactly if they do written out. -/
theorem percent_mem_slashed_iff :
    '%' ∈ slashed base ↔ ∃ segment ∈ base, '%' ∈ segment := by
  simp [slashed]

/-- Segments stand first among themselves written again exactly if they have neither a percent
sign nor an empty segment. -/
theorem prefix_rewritten_iff (hlast : base.getLast? ≠ some []) :
    base <+: (base.filter fun segment => !segment.isEmpty).map escapePercent ++ more ↔
      '%' ∉ slashed base ∧ [] ∉ base := by
  constructor
  · intro h
    have hall := forall_of_prefix_rewritten hlast h
    constructor
    · rw [percent_mem_slashed_iff]
      rintro ⟨segment, hsegment, hpercent⟩
      exact escapePercent_eq_self_iff.1 (hall segment hsegment).2 hpercent
    · intro hmem
      exact (hall [] hmem).1 rfl
  · rintro ⟨hpercent, hempty⟩
    have hfilter : base.filter (fun segment => !segment.isEmpty) = base := by
      rw [List.filter_eq_self]
      intro segment hsegment
      have hne : segment ≠ [] := fun heq => hempty (heq ▸ hsegment)
      simpa using hne
    have hmap : base.map escapePercent = base.map id := by
      refine List.map_congr_left fun segment hsegment => ?_
      rw [id_eq, escapePercent_eq_self_iff]
      exact fun hmem => hpercent (percent_mem_slashed_iff.2 ⟨segment, hsegment, hmem⟩)
    rw [hfilter, hmap, List.map_id]
    exact List.prefix_append _ _

/-! ## Growing from a base path -/

/-- A path that grows from the parts of a base path in normal form has them first, written
again. -/
theorem exists_slashed_of_growth (hnormal : ∀ segment ∈ base, IsNormal segment)
    {filled : List (List Char)} (hstays : ∀ segment ∈ filled, ¬Climbs segment) :
    ∃ more, (∀ segment ∈ (Text.slashParts (slashed base)).map escapePercent ++ more,
        '/' ∉ segment) ∧
      pathText ((Text.slashParts (slashed base) ++ filled).foldl push []) =
        slashed ((Text.slashParts (slashed base)).map escapePercent ++ more) := by
  have hreadable := readable_path (Text.slashParts (slashed base) ++ filled)
  have hgrown : (Text.slashParts (slashed base)).map escapePercent <+:
      (Text.slashParts (slashed base) ++ filled).foldl push [] := by
    rw [List.foldl_append, foldl_push_slashParts hnormal]
    exact prefix_foldl_push hstays
  obtain ⟨rest, hrest⟩ := hgrown
  -- the root is written as an empty segment
  obtain ⟨root, hroot, htext⟩ := exists_slashed_eq_pathText
    ((Text.slashParts (slashed base) ++ filled).foldl push [])
  rw [← hrest] at hreadable htext
  rw [List.append_assoc] at htext
  refine ⟨rest ++ root, ?_, by rw [← hrest, htext]⟩
  intro segment hmem
  rw [← List.append_assoc] at hmem
  rcases List.mem_append.1 hmem with hsegment | hempty
  · exact (hreadable segment hsegment).1
  · simp [hroot segment hempty]

/-- How a path begins that grows from the parts of a base path: the path of an address, whose
segments are in normal form, without the slashes at its end. -/
theorem givesBase_foldl_push (hnormal : ∀ segment ∈ segments, IsNormal segment)
    {filled : List (List Char)} (hstays : ∀ segment ∈ filled, ¬Climbs segment) :
    GivesBase (Text.dropWhileEnd (· = '/') (pathText segments))
      (pathText ((Text.slashParts (Text.dropWhileEnd (· = '/') (pathText segments)) ++
        filled).foldl push [])) := by
  obtain ⟨kept, hkept, hlast, htext⟩ := exists_slashed_of_pathText fun segment hmem =>
    slash_not_mem_of_isNormal (hnormal segment hmem)
  have hkeptNormal : ∀ segment ∈ kept, IsNormal segment := by
    intro segment hmem
    rcases hkept segment hmem with hsegment | rfl
    · exact hnormal segment hsegment
    · exact isNormal_nil
  have hkeptSlash : ∀ segment ∈ kept, '/' ∉ segment := fun segment hmem =>
    slash_not_mem_of_isNormal (hkeptNormal segment hmem)
  obtain ⟨more, hslash, hgrown⟩ := exists_slashed_of_growth hkeptNormal hstays
  rw [htext, hgrown]
  constructor
  · rw [rewritten, beginsWith_slashed_iff hslash fun segment hmem =>
      hslash segment (List.mem_append_left _ hmem)]
    exact List.prefix_append _ _
  · rw [beginsWith_slashed_iff hslash hkeptSlash, segmentsOf_slashed hkeptSlash,
      slashParts_slashed hkeptSlash, prefix_rewritten_iff hlast]

end ApiBinding.Uri
