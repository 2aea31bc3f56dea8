import ApiBinding.Function.Request
import ApiBinding.Proofs.Entries.Order

/-!
# Placeholders of a segment

The placeholders of a segment are names in braces.  A segment is read from its start, and a
placeholder of a name with a value gives way to that value, which is not read again; every
other character stays.  A brace that is opened is taken together with the next one that is
closed, so a placeholder that stands inside an open brace is not seen.

Main results:

- Theorem `replaces_fillFrom`: a segment is filled by replacing the placeholders that stand
  outside open braces, and nothing else.
- Theorem `fillSegment_placeholder`: a placeholder outside open braces gives way to its value.
- Theorem `Replaces.unique`: names without braces leave only one way to replace placeholders.
- Theorem `fillsSegment`: what a segment is filled to, and when every placeholder in it is
  replaced.
- Theorem `hiddenPlaceholder_kept`: an open brace hides the placeholder behind it.
-/

namespace ApiBinding

/-- The placeholder of a name. -/
def placeholder (name : String) : List Char :=
  '\x7b' :: name.toList ++ ['\x7d']

/-- No name has a brace in it. -/
def BraceFree (values : List (String × String)) : Prop :=
  ∀ entry ∈ values, '\x7b' ∉ entry.1.toList ∧ '\x7d' ∉ entry.1.toList

/-- A text ends inside a brace: one is opened after the last that is closed. -/
def EndsOpen (text : List Char) : Prop :=
  '\x7b' ∈ text.reverse.takeWhile fun c => c ≠ '\x7d'

/-- The placeholders with a value that stand in a segment where they count are replaced, from
the start of the segment on, and every other character is kept.  Whether a placeholder counts
depends on what stands before it. -/
inductive Replaces (values : List (String × String)) (counts : List Char → Prop) :
    List Char → List Char → List Char → Prop where
  | done (before : List Char) : Replaces values counts before [] []
  | value {before rest result : List Char} {name text : String}
      (hvalue : Entries.find? name values = some text) (hcounts : counts before)
      (h : Replaces values counts (before ++ placeholder name) rest result) :
      Replaces values counts before (placeholder name ++ rest) (text.toList ++ result)
  | kept {before rest result : List Char} {c : Char}
      (hnone : counts before → ∀ name text, Entries.find? name values = some text →
        ¬placeholder name <+: c :: rest)
      (h : Replaces values counts (before ++ [c]) rest result) :
      Replaces values counts before (c :: rest) (c :: result)

variable {values : List (String × String)} {counts : List Char → Prop}
  {before rest result name : List Char}

/-! ## Open braces -/

/-- One more character closes all braces, opens one, or changes nothing. -/
theorem endsOpen_append_singleton {text : List Char} {c : Char} :
    EndsOpen (text ++ [c]) ↔ c ≠ '\x7d' ∧ (c = '\x7b' ∨ EndsOpen text) := by
  by_cases hclose : c = '\x7d'
  · simp [EndsOpen, hclose]
  · simp [EndsOpen, hclose, eq_comm]

/-- After a closing brace no brace is open. -/
theorem not_endsOpen_close (text : List Char) : ¬EndsOpen (text ++ ['\x7d']) := fun h =>
  (endsOpen_append_singleton.1 h).1 rfl

/-- After a placeholder no brace is open. -/
theorem not_endsOpen_placeholder (text : List Char) (name : String) :
    ¬EndsOpen (text ++ placeholder name) := by
  have hsplit : text ++ placeholder name = (text ++ '\x7b' :: name.toList) ++ ['\x7d'] := by
    simp [placeholder]
  rw [hsplit]
  exact not_endsOpen_close _

/-- A brace that is open at the end of a text is open however the text begins. -/
theorem endsOpen_append (before : List Char) {text : List Char} (h : EndsOpen text) :
    EndsOpen (before ++ text) := by
  rw [EndsOpen, List.reverse_append, List.takeWhile_append]
  split
  · exact List.mem_append_left _ ((List.takeWhile_sublist _).subset h)
  · exact h

/-- A brace that is opened and not closed stays open. -/
theorem endsOpen_of_unclosed {text : List Char} (h : '\x7d' ∉ text) :
    EndsOpen ('\x7b' :: text) := by
  have hall : ∀ c ∈ ('\x7b' :: text).reverse, decide (c ≠ '\x7d') = true := by
    intro c hc
    rw [List.mem_reverse, List.mem_cons] at hc
    rw [decide_eq_true_eq]
    rintro rfl
    exact hc.elim (absurd · (by decide)) h
  have hself : (('\x7b' :: text).reverse ++ []).takeWhile (fun c => decide (c ≠ '\x7d')) =
      ('\x7b' :: text).reverse ++ [] := List.takeWhile_append_of_pos hall
  rw [List.append_nil] at hself
  rw [EndsOpen, hself]
  simp

/-! ## Placeholders without braces inside -/

/-- A name without a closing brace ends at the first one. -/
theorem eq_of_append_close {first second rest tail : List Char} (hfirst : '\x7d' ∉ first)
    (hsecond : '\x7d' ∉ second) (h : first ++ '\x7d' :: rest = second ++ '\x7d' :: tail) :
    first = second ∧ rest = tail := by
  induction first generalizing second with
  | nil =>
      cases second with
      | nil => exact ⟨rfl, (List.cons.inj h).2⟩
      | cons c second => exact absurd (List.cons.inj h).1 (List.ne_of_not_mem_cons hsecond)
  | cons c first ih =>
      cases second with
      | nil => exact absurd (List.cons.inj h).1.symm (List.ne_of_not_mem_cons hfirst)
      | cons d second =>
          obtain ⟨rfl, hrest⟩ := List.cons.inj h
          obtain ⟨rfl, htail⟩ := ih (List.not_mem_of_not_mem_cons hfirst)
            (List.not_mem_of_not_mem_cons hsecond) hrest
          exact ⟨rfl, htail⟩

/-- A name with a value has no brace in it. -/
theorem BraceFree.of_find? (hfree : BraceFree values) {name text : String}
    (h : Entries.find? name values = some text) :
    '\x7b' ∉ name.toList ∧ '\x7d' ∉ name.toList :=
  hfree _ (Entries.mem_of_find? h)

/-- A placeholder whose name has no closing brace ends at the first one. -/
theorem eq_of_placeholder_prefix {other : String} {tail : List Char} (hname : '\x7d' ∉ name)
    (hother : '\x7d' ∉ other.toList)
    (h : placeholder other <+: '\x7b' :: (name ++ '\x7d' :: tail)) : other.toList = name := by
  obtain ⟨rest, hrest⟩ := h
  have hsame : other.toList ++ '\x7d' :: rest = name ++ '\x7d' :: tail := by
    simpa [placeholder] using hrest
  exact (eq_of_append_close hother hname hsame).1

/-! ## Filling -/

/-- Inside a brace characters are held back up to the next closing one. -/
theorem fillFrom_held (values : List (String × String)) (held : List Char) (hname : '\x7d' ∉ name)
    (rest : List Char) :
    fillFrom values (some held) (name ++ '\x7d' :: rest) =
      placeholderText values (held.reverse ++ name) ++ fillFrom values none rest := by
  induction name generalizing held with
  | nil => simp [fillFrom]
  | cons c name ih =>
      have hc : c ≠ '\x7d' := (List.ne_of_not_mem_cons hname).symm
      rw [List.cons_append, fillFrom, if_neg hc, ih _ (List.not_mem_of_not_mem_cons hname)]
      simp

/-- Without a closing brace they are held back to the end. -/
theorem fillFrom_unclosed (values : List (String × String)) (held : List Char)
    (hrest : '\x7d' ∉ rest) :
    fillFrom values (some held) rest = '\x7b' :: (held.reverse ++ rest) := by
  induction rest generalizing held with
  | nil => simp [fillFrom]
  | cons c rest ih =>
      have hc : c ≠ '\x7d' := (List.ne_of_not_mem_cons hrest).symm
      rw [fillFrom, if_neg hc, ih _ (List.not_mem_of_not_mem_cons hrest)]
      simp

/-- Where no brace is open, what follows is filled on its own. -/
theorem fillFrom_append (values : List (String × String)) (before rest : List Char)
    (hclosed : ¬EndsOpen before) :
    fillFrom values none (before ++ rest) =
      fillFrom values none before ++ fillFrom values none rest := by
  match before with
  | [] => rfl
  | c :: before =>
      by_cases hc : c = '\x7b'
      · subst hc
        obtain ⟨name, tail, rfl, hname⟩ : ∃ name tail, before = name ++ '\x7d' :: tail ∧
            '\x7d' ∉ name :=
          List.eq_append_cons_of_mem (not_not.1 fun h => hclosed (endsOpen_of_unclosed h))
        have htail : ¬EndsOpen tail := fun hopen => by
          have hsplit : '\x7b' :: (name ++ '\x7d' :: tail) =
              ('\x7b' :: name ++ ['\x7d']) ++ tail := by simp
          exact hclosed (hsplit ▸ endsOpen_append _ hopen)
        rw [List.cons_append, List.append_assoc, List.cons_append, fillFrom, if_pos rfl,
          fillFrom_held values [] hname, fillFrom, if_pos rfl, fillFrom_held values [] hname,
          fillFrom_append values tail rest htail, List.append_assoc]
      · have htail : ¬EndsOpen before := fun hopen => hclosed (endsOpen_append [c] hopen)
        rw [List.cons_append, fillFrom, if_neg hc, fillFrom, if_neg hc,
          fillFrom_append values before rest htail, List.cons_append]
termination_by before.length

/-- The placeholder of a name with a value gives way to the value, wherever no brace is open, and
what stands before and behind it is filled on its own. -/
theorem fillSegment_placeholder {name text : String}
    (hvalue : Entries.find? name values = some text) (hname : '\x7d' ∉ name.toList)
    (hclosed : ¬EndsOpen before) (after : List Char) :
    fillSegment values (before ++ (placeholder name ++ after)) =
      fillSegment values before ++ (text.toList ++ fillSegment values after) := by
  have hplaceholder : placeholder name ++ after = '\x7b' :: (name.toList ++ '\x7d' :: after) := by
    simp [placeholder]
  rw [fillSegment, fillFrom_append values before _ hclosed, hplaceholder, fillFrom, if_pos rfl,
    fillFrom_held values [] hname, placeholderText, List.reverse_nil, List.nil_append,
    String.ofList_toList, hvalue]
  rfl

/-- A text without a closing brace has no placeholder. -/
theorem replaces_of_unclosed (hrest : '\x7d' ∉ rest) : Replaces values counts before rest rest := by
  induction rest generalizing before with
  | nil => exact .done before
  | cons c rest ih =>
      refine .kept (fun _ name text _ hprefix => hrest ?_) (ih (List.not_mem_of_not_mem_cons hrest))
      exact hprefix.subset (by simp [placeholder])

/-- Inside an open brace everything is kept up to the next closing one. -/
theorem replaces_held (hopen : EndsOpen before) (hname : '\x7d' ∉ name)
    (h : Replaces values (fun before => ¬EndsOpen before) (before ++ name ++ ['\x7d']) rest
      result) :
    Replaces values (fun before => ¬EndsOpen before) before (name ++ '\x7d' :: rest)
      (name ++ '\x7d' :: result) := by
  induction name generalizing before with
  | nil => exact .kept (fun hshown => absurd hopen hshown) (by simpa using h)
  | cons c name ih =>
      have hc : c ≠ '\x7d' := (List.ne_of_not_mem_cons hname).symm
      have hrest := List.not_mem_of_not_mem_cons hname
      refine .kept (fun hshown => absurd hopen hshown) (ih ?_ hrest ?_)
      · exact endsOpen_append_singleton.2 ⟨hc, Or.inr hopen⟩
      · simpa using h

/-- What stands in braces is kept if no name with a value stands there. -/
theorem replaces_unknown (hfree : BraceFree values) (hname : '\x7d' ∉ name)
    (hnone : Entries.find? (String.ofList name) values = none)
    (h : Replaces values (fun before => ¬EndsOpen before)
      (before ++ '\x7b' :: (name ++ ['\x7d'])) rest result) :
    Replaces values (fun before => ¬EndsOpen before) before ('\x7b' :: (name ++ '\x7d' :: rest))
      ('\x7b' :: (name ++ '\x7d' :: result)) := by
  refine .kept (fun _ other text hother hprefix => ?_) (replaces_held ?_ hname (by simpa using h))
  · -- only the name up to the first closing brace can be meant
    obtain rfl := eq_of_placeholder_prefix hname (hfree.of_find? hother).2 hprefix
    rw [String.ofList_toList, hother] at hnone
    cases hnone
  · exact endsOpen_append_singleton.2 ⟨by decide, Or.inl rfl⟩

/-- A segment is filled by replacing the placeholders that stand outside open braces. -/
theorem replaces_fillFrom (hfree : BraceFree values) (before segment : List Char)
    (hclosed : ¬EndsOpen before) :
    Replaces values (fun before => ¬EndsOpen before) before segment
      (fillFrom values none segment) := by
  match segment with
  | [] => exact .done before
  | c :: rest =>
      by_cases hc : c = '\x7b'
      · subst hc
        rw [fillFrom, if_pos rfl]
        by_cases hclose : '\x7d' ∈ rest
        · obtain ⟨name, tail, rfl, hname⟩ := List.eq_append_cons_of_mem hclose
          rw [fillFrom_held values [] hname, List.reverse_nil, List.nil_append, placeholderText]
          cases hvalue : Entries.find? (String.ofList name) values with
          | some text =>
              have hplaceholder : placeholder (String.ofList name) ++ tail =
                  '\x7b' :: (name ++ '\x7d' :: tail) := by
                simp [placeholder]
              rw [← hplaceholder]
              refine .value hvalue hclosed ?_
              exact replaces_fillFrom hfree _ tail (not_endsOpen_placeholder before _)
          | none =>
              have hafter : ¬EndsOpen (before ++ '\x7b' :: (name ++ ['\x7d'])) := by
                have hsplit : before ++ '\x7b' :: (name ++ ['\x7d']) =
                    (before ++ '\x7b' :: name) ++ ['\x7d'] := by
                  simp
                rw [hsplit]
                exact not_endsOpen_close _
              have htail := replaces_fillFrom hfree _ tail hafter
              simpa using replaces_unknown hfree hname hvalue htail
        · rw [fillFrom_unclosed values [] hclose]
          refine replaces_of_unclosed ?_
          simpa using hclose
      · rw [fillFrom, if_neg hc]
        refine .kept (fun _ name text _ hprefix => hc ?_) ?_
        · exact ((List.cons_prefix_cons.1 hprefix).1).symm
        · refine replaces_fillFrom hfree _ rest fun hopen => ?_
          rcases (endsOpen_append_singleton.1 hopen).2 with hbrace | hbefore
          · exact hc hbrace
          · exact hclosed hbefore
termination_by segment.length

/-! ## One result -/

/-- Where a placeholder counts, it is replaced. -/
theorem Replaces.of_placeholder (hfree : BraceFree values) {name text : String}
    (hvalue : Entries.find? name values = some text) (hcounts : counts before)
    (h : Replaces values counts before (placeholder name ++ rest) result) :
    ∃ tail, result = text.toList ++ tail ∧
      Replaces values counts (before ++ placeholder name) rest tail := by
  generalize hsegment : placeholder name ++ rest = segment at h
  cases h with
  | done => cases hsegment
  | @value _ other _ found foundText hfound _ h =>
      have hsame : name.toList ++ '\x7d' :: rest = found.toList ++ '\x7d' :: other := by
        simpa [placeholder] using hsegment
      obtain ⟨hname, rfl⟩ :=
        eq_of_append_close (hfree.of_find? hvalue).2 (hfree.of_find? hfound).2 hsame
      obtain rfl := String.toList_injective hname
      obtain rfl := Option.some.inj (hvalue.symm.trans hfound)
      exact ⟨_, rfl, h⟩
  | kept hnone _ =>
      exact absurd (hsegment ▸ List.prefix_append _ _) (hnone hcounts name text hvalue)

/-- Where no placeholder counts, the next character is kept. -/
theorem Replaces.of_none {c : Char}
    (hnone : counts before → ∀ name text, Entries.find? name values = some text →
      ¬placeholder name <+: c :: rest)
    (h : Replaces values counts before (c :: rest) result) :
    ∃ tail, result = c :: tail ∧ Replaces values counts (before ++ [c]) rest tail := by
  generalize hsegment : c :: rest = segment at h
  cases h with
  | done => cases hsegment
  | value hvalue hcounts _ =>
      exact absurd (hsegment ▸ List.prefix_append _ _) (hnone hcounts _ _ hvalue)
  | kept _ h =>
      obtain ⟨rfl, rfl⟩ := List.cons.inj hsegment
      exact ⟨_, rfl, h⟩

/-- Replacing placeholders whose names have no braces has one result. -/
theorem Replaces.unique (hfree : BraceFree values) {segment first second : List Char}
    (hfirst : Replaces values counts before segment first)
    (hsecond : Replaces values counts before segment second) : first = second := by
  induction hfirst generalizing second with
  | done =>
      generalize hsegment : ([] : List Char) = segment at hsecond
      cases hsecond with
      | done => rfl
      | value => cases hsegment
      | kept => cases hsegment
  | value hvalue hcounts _ ih =>
      obtain ⟨tail, rfl, htail⟩ := hsecond.of_placeholder hfree hvalue hcounts
      rw [ih htail]
  | kept hnone _ ih =>
      obtain ⟨tail, rfl, htail⟩ := hsecond.of_none hnone
      rw [ih htail]

/-! ## Hidden placeholders -/

/-- The placeholders of some names stand outside open braces. -/
def NoneHidden (names : List String) (segment : List Char) : Prop :=
  ∀ before name after, name ∈ names → segment = before ++ (placeholder name ++ after) →
    ¬EndsOpen before

/-- Where further places count at which no placeholder stands, the result is the same. -/
theorem Replaces.widen {wider : List Char → Prop}
    (h : Replaces values counts before rest result) (hwider : ∀ text, counts text → wider text)
    (hsame : ∀ more name text after, Entries.find? name values = some text →
      rest = more ++ (placeholder name ++ after) → counts (before ++ more)) :
    Replaces values wider before rest result := by
  induction h with
  | done before => exact .done before
  | @value before rest result name text hvalue hcounts _ ih =>
      refine .value hvalue (hwider _ hcounts) (ih fun more other otherText after hother hrest => ?_)
      have hsplit : placeholder name ++ rest =
          (placeholder name ++ more) ++ (placeholder other ++ after) := by
        rw [hrest, List.append_assoc]
      simpa using hsame _ other otherText after hother hsplit
  | @kept before rest result c hnone _ ih =>
      refine .kept (fun _ name text hvalue hprefix => ?_)
        (ih fun more name text after hname hrest => ?_)
      · obtain ⟨after, hafter⟩ := hprefix
        have hcounts := hsame [] name text after hvalue hafter.symm
        rw [List.append_nil] at hcounts
        exact hnone hcounts name text hvalue ⟨after, hafter⟩
      · simpa using hsame (c :: more) name text after hname (by rw [hrest, List.cons_append])

/-- What no placeholder can start in is kept. -/
theorem Replaces.of_append {kept : List Char} (hkept : '\x7b' ∉ kept)
    (h : Replaces values counts before (kept ++ rest) result) :
    ∃ tail, result = kept ++ tail ∧ Replaces values counts (before ++ kept) rest tail := by
  induction kept generalizing before result with
  | nil => exact ⟨result, rfl, by simpa using h⟩
  | cons c kept ih =>
      obtain ⟨inner, rfl, hinner⟩ := h.of_none fun _ name text _ hprefix =>
        hkept ((List.cons_prefix_cons.1 hprefix).1 ▸ List.mem_cons_self)
      obtain ⟨tail, rfl, htail⟩ := ih (List.not_mem_of_not_mem_cons hkept) hinner
      exact ⟨tail, rfl, by simpa using htail⟩

/-- Where a placeholder does not count, it is kept. -/
theorem Replaces.of_hidden (hfree : BraceFree values) {name text : String}
    (hvalue : Entries.find? name values = some text) (hhidden : ¬counts before)
    (h : Replaces values counts before (placeholder name ++ rest) result) :
    ∃ tail, result = placeholder name ++ tail ∧
      Replaces values counts (before ++ placeholder name) rest tail := by
  obtain ⟨inner, rfl, hinner⟩ := h.of_none fun hcounts => absurd hcounts hhidden
  have hinside : '\x7b' ∉ name.toList ++ ['\x7d'] := by
    simpa using (hfree.of_find? hvalue).1
  obtain ⟨tail, rfl, htail⟩ := Replaces.of_append hinside hinner
  exact ⟨tail, by simp [placeholder], by simpa [placeholder] using htail⟩

/-- After a placeholder the next one stands behind it. -/
theorem exists_of_placeholder_append {first second : String} {rest after : List Char}
    (hfirst : '\x7b' ∉ first.toList) (hbefore : before ≠ [])
    (h : placeholder first ++ rest = before ++ (placeholder second ++ after)) :
    ∃ more, before = placeholder first ++ more ∧ rest = more ++ (placeholder second ++ after) := by
  rcases List.append_eq_append_iff.1 h with ⟨more, hmore, hrest⟩ | ⟨inner, hinner, hrest⟩
  · exact ⟨more, hmore, hrest⟩
  · cases inner with
    | nil => exact ⟨[], by simpa using hinner.symm, by simpa using hrest.symm⟩
    | cons c inner =>
        -- the second placeholder would begin inside the first one
        exfalso
        obtain ⟨d, before, rfl⟩ := List.exists_cons_of_ne_nil hbefore
        have hopen : c = '\x7b' := by
          have hhead := congrArg List.head? hrest
          simpa [placeholder] using hhead.symm
        have hname : first.toList ++ ['\x7d'] = before ++ c :: inner := by
          simpa [placeholder] using (List.cons.inj hinner).2
        have hmem : '\x7b' ∈ first.toList ++ ['\x7d'] := by simp [hname, hopen]
        rcases List.mem_append.1 hmem with hmem | hmem
        · exact hfirst hmem
        · exact absurd (List.mem_singleton.1 hmem) (by decide)

/-- Every result is no longer than another one, and shorter if a placeholder is hidden. -/
structure Shortens (values : List (String × String)) (before segment shown every : List Char) :
    Prop where
  le : every.length ≤ shown.length
  lt : ∀ more name after, name ∈ Entries.names values →
    segment = more ++ (placeholder name ++ after) → EndsOpen (before ++ more) →
      every.length < shown.length

variable {shown every : List Char}

/-- It is shorter by a placeholder that is hidden here. -/
theorem Shortens.of_hidden (name : String) {segment : List Char}
    (h : every.length ≤ shown.length) :
    Shortens values before segment (placeholder name ++ shown) every := by
  have hlt : every.length < (placeholder name ++ shown).length := by
    have hpos : 0 < (placeholder name).length := by simp [placeholder]
    rw [List.length_append]
    omega
  exact ⟨hlt.le, fun _ _ _ _ _ _ => hlt⟩

/-- A placeholder that is not hidden hides none behind it. -/
theorem Shortens.of_shown {name : String} (hname : '\x7b' ∉ name.toList)
    (hclosed : ¬EndsOpen before)
    (h : Shortens values (before ++ placeholder name) rest shown every) :
    Shortens values before (placeholder name ++ rest) shown every where
  le := h.le
  lt := by
    intro more other after hother hsegment hmore
    have hne : more ≠ [] := by
      rintro rfl
      exact hclosed (by simpa using hmore)
    obtain ⟨more, rfl, hrest⟩ := exists_of_placeholder_append hname hne hsegment
    exact h.lt more other after hother hrest (by simpa using hmore)

/-- A character at which no placeholder stands hides none either. -/
theorem Shortens.of_kept {c : Char}
    (hnone : ∀ name text, Entries.find? name values = some text → ¬placeholder name <+: c :: rest)
    (h : Shortens values (before ++ [c]) rest shown every) :
    Shortens values before (c :: rest) (c :: shown) (c :: every) where
  le := Nat.succ_le_succ h.le
  lt := by
    intro more name after hname hsegment hmore
    cases more with
    | nil =>
        obtain ⟨text, hvalue⟩ := Option.isSome_iff_exists.1 (Entries.isSome_find?_iff.2 hname)
        exact absurd ⟨after, hsegment.symm⟩ (hnone name text hvalue)
    | cons d more =>
        obtain ⟨rfl, hrest⟩ := List.cons.inj hsegment
        exact Nat.succ_lt_succ (h.lt more name after hname hrest (by simpa using hmore))

/-- Replacing by nothing leaves less of a segment if hidden placeholders count, too. -/
theorem shortens_of_emptied (hfree : BraceFree values)
    (hempty : ∀ name text, Entries.find? name values = some text → text = "")
    (segment : List Char) {before shown every : List Char}
    (hshown : Replaces values (fun before => ¬EndsOpen before) before segment shown)
    (hevery : Replaces values (fun _ => True) before segment every) :
    Shortens values before segment shown every := by
  match segment with
  | [] =>
      obtain rfl := hshown.unique hfree (.done before)
      obtain rfl := hevery.unique hfree (.done before)
      exact ⟨le_rfl, fun more name after _ hsegment => absurd hsegment (by simp [placeholder])⟩
  | c :: rest =>
      by_cases hplace : ∃ name text, Entries.find? name values = some text ∧
          placeholder name <+: c :: rest
      · obtain ⟨name, text, hvalue, tail, htail⟩ := hplace
        rw [← htail] at hshown hevery ⊢
        obtain rfl := hempty name text hvalue
        have hshorter : tail.length < (c :: rest).length := by
          rw [← htail, List.length_append]
          simp [placeholder]
        obtain ⟨every, rfl, heveryTail⟩ := hevery.of_placeholder hfree hvalue trivial
        by_cases hopen : EndsOpen before
        · obtain ⟨shown, rfl, hshownTail⟩ := hshown.of_hidden hfree hvalue (not_not.2 hopen)
          exact .of_hidden name (shortens_of_emptied hfree hempty tail hshownTail heveryTail).le
        · obtain ⟨shown, rfl, hshownTail⟩ := hshown.of_placeholder hfree hvalue hopen
          exact .of_shown (hfree.of_find? hvalue).1 hopen
            (shortens_of_emptied hfree hempty tail hshownTail heveryTail)
      · have hnone : ∀ name text, Entries.find? name values = some text →
            ¬placeholder name <+: c :: rest := fun name text hvalue hprefix =>
          hplace ⟨name, text, hvalue, hprefix⟩
        obtain ⟨shown, rfl, hshownRest⟩ := hshown.of_none fun _ => hnone
        obtain ⟨every, rfl, heveryRest⟩ := hevery.of_none fun _ => hnone
        exact .of_kept hnone (shortens_of_emptied hfree hempty rest hshownRest heveryRest)
termination_by segment.length
decreasing_by
  · exact hshorter
  · exact hshorter
  · exact Nat.lt_succ_self rest.length

/-! ## Filling a segment -/

/-- How a segment is filled with values. -/
structure FillsSegment (values : List (String × String)) (segment : List Char) : Prop where
  /-- The placeholders outside open braces are replaced, and this has one result. -/
  shown_iff (result : List Char) :
    Replaces values (fun before => ¬EndsOpen before) [] segment result ↔
      result = fillSegment values segment
  /-- Whatever values the names have, every placeholder is replaced if and only if none stands
  inside an open brace. -/
  every_iff :
    (∀ others, Entries.names others = Entries.names values →
      Replaces others (fun _ => True) [] segment (fillSegment others segment)) ↔
      NoneHidden (Entries.names values) segment

/-- Whether names have braces does not depend on their values. -/
theorem BraceFree.of_names {others : List (String × String)} (hfree : BraceFree values)
    (h : Entries.names others = Entries.names values) : BraceFree others := by
  intro entry hentry
  have hname : entry.1 ∈ Entries.names values := h ▸ List.mem_map_of_mem hentry
  obtain ⟨other, hother, hsame⟩ := List.mem_map.1 hname
  exact hsame ▸ hfree other hother

/-- A segment is filled by replacing what stands outside open braces. -/
theorem replaces_fillSegment (hfree : BraceFree values) (segment : List Char) :
    Replaces values (fun before => ¬EndsOpen before) [] segment (fillSegment values segment) :=
  replaces_fillFrom hfree [] segment (by simp [EndsOpen])

/-- If every placeholder is replaced whatever the values are, none is hidden. -/
theorem noneHidden_of_replaces (hfree : BraceFree values) {segment : List Char}
    (h : ∀ others, Entries.names others = Entries.names values →
      Replaces others (fun _ => True) [] segment (fillSegment others segment)) :
    NoneHidden (Entries.names values) segment := by
  -- with nothing put in, what is filled is as short as it can be
  have hnames : Entries.names (values.map fun entry => (entry.1, "")) = Entries.names values := by
    simp [Entries.names, Function.comp_def]
  have hempty : ∀ name text,
      Entries.find? name (values.map fun entry => (entry.1, "")) = some text → text = "" := by
    intro name text hvalue
    obtain ⟨entry, -, hentry⟩ := List.mem_map.1 (Entries.mem_of_find? hvalue)
    exact ((Prod.mk.inj hentry).2).symm
  have hothers := hfree.of_names hnames
  intro before name after hname hsegment hopen
  have hshortens := shortens_of_emptied hothers hempty segment
    (replaces_fillSegment hothers segment) (h _ hnames)
  have hlt := hshortens.lt before name after (hnames ▸ hname) hsegment (by simpa using hopen)
  exact lt_irrefl _ hlt

/-- A segment is filled by replacing the placeholders outside open braces, and these are all
of them if and only if none is hidden. -/
theorem fillsSegment (hfree : BraceFree values) (segment : List Char) :
    FillsSegment values segment where
  shown_iff result := by
    constructor
    · intro h
      exact h.unique hfree (replaces_fillSegment hfree segment)
    · rintro rfl
      exact replaces_fillSegment hfree segment
  every_iff := by
    constructor
    · exact noneHidden_of_replaces hfree
    · intro hnone others hnames
      refine (replaces_fillSegment (hfree.of_names hnames) segment).widen (fun _ _ => trivial) ?_
      intro more name text after hvalue hsegment
      refine hnone more name after ?_ hsegment
      exact hnames ▸ Entries.isSome_find?_iff.1 (Option.isSome_of_eq_some hvalue)

/-- A value that looks like a placeholder is put in as it is. -/
theorem fillsSegment_braceValue :
    BraceFree [("a", "\x7bb\x7d"), ("b", "x")] ∧
      FillsSegment [("a", "\x7bb\x7d"), ("b", "x")] "\x7ba\x7d-\x7bb\x7d".toList ∧
      fillSegment [("a", "\x7bb\x7d"), ("b", "x")] "\x7ba\x7d-\x7bb\x7d".toList =
        "\x7bb\x7d-x".toList := by
  have hfree : BraceFree [("a", "\x7bb\x7d"), ("b", "x")] := by simp [BraceFree]
  exact ⟨hfree, fillsSegment hfree _, by decide⟩

/-- An open brace hides the placeholder behind it: the segment stays as it is, where replacing
every placeholder would put the value in. -/
theorem hiddenPlaceholder_kept :
    BraceFree [("id", "7")] ∧
      fillSegment [("id", "7")] "\x7ba\x7bid\x7d".toList = "\x7ba\x7bid\x7d".toList ∧
      Replaces [("id", "7")] (fun _ => True) [] "\x7ba\x7bid\x7d".toList "\x7ba7".toList ∧
      ¬Replaces [("id", "7")] (fun _ => True) [] "\x7ba\x7bid\x7d".toList
        "\x7ba\x7bid\x7d".toList := by
  have hfree : BraceFree [("id", "7")] := by simp [BraceFree]
  have hname : ∀ name text, Entries.find? name [("id", "7")] = some text → name = "id" := by
    intro name text hvalue
    simpa using (Prod.mk.inj (List.mem_singleton.1 (Entries.mem_of_find? hvalue))).1
  have hevery : Replaces [("id", "7")] (fun _ => True) [] "\x7ba\x7bid\x7d".toList
      "\x7ba7".toList := by
    refine .kept (fun _ name text hvalue => ?_) (.kept (fun _ name text hvalue => ?_) ?_)
    · rw [hname name text hvalue]
      decide
    · rw [hname name text hvalue]
      decide
    · have hid : Entries.find? "id" [("id", "7")] = some "7" := rfl
      exact .value hid trivial (.done _)
  refine ⟨hfree, by decide, hevery, fun hkept => ?_⟩
  exact absurd (hkept.unique hfree hevery) (by decide)

end ApiBinding
