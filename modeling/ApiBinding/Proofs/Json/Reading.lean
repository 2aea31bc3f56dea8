import ApiBinding.Json.Reader
import ApiBinding.Proofs.Entries.Order
import ApiBinding.Text.Blank

/-!
# What reading JSON guarantees

A text of blanks, of whatever kind, is no JSON.  A value that is read is regular: its
numbers are finite, and no object in it repeats a name, since a later member takes the
place of an earlier one.

Main results:

- Theorem `parse?_eq_none_of_blank`: nothing is read from blanks.
- Theorem `regular_of_parse?`: every value that is read is regular.
-/

namespace ApiBinding

/-! ## Finite numbers -/

namespace Binary64

/-- A whole number of 64 bits lies within the format, so it is rounded to a finite number. -/
theorem isFinite_ofRatio (negative : Bool) {num : Nat} (h : num < naturalBound) :
    (ofRatio negative num 1).isFinite = true := by
  unfold ofRatio
  split
  · rfl
  · rename_i hzero
    rw [naturalBound_eq] at h
    have hlog : Nat.log2 num < 64 := (Nat.log2_lt hzero).2 h
    have hexponent : ratioExponent num 1 ≤ 11 := by
      have hone : Nat.log2 1 = 0 := by decide
      unfold ratioExponent minExponent
      dsimp only
      split <;> omega
    have hlow : ¬maxExponent ≤ ratioExponent num 1 := by
      unfold maxExponent
      omega
    have hbelow : ¬maxExponent < ratioExponent num 1 := by
      unfold maxExponent
      omega
    dsimp only
    rw [if_neg hlow, if_neg hbelow]
    split <;> rfl

end Binary64

namespace Json

/-- The number of a written number is finite. -/
theorem isFinite_of_numberOf? {written : WrittenNumber} {whole : Bool} {n : JsonNumber}
    (h : numberOf? written whole = some n) : n.toBinary64.isFinite = true := by
  unfold numberOf? at h
  dsimp only at h
  split at h
  · rename_i hfits
    obtain rfl := Option.some.inj h
    simp only [Bool.and_eq_true, decide_eq_true_eq] at hfits
    exact Binary64.isFinite_ofRatio _ hfits.2
  · split at h
    · rename_i hfits
      obtain rfl := Option.some.inj h
      simp only [Bool.and_eq_true, decide_eq_true_eq] at hfits
      refine Binary64.isFinite_ofRatio _ ?_
      rw [Int.natAbs_neg, Int.natAbs_natCast]
      have hwhole := naturalBound_eq
      have hbound := integerBound_eq
      omega
    · unfold JsonNumber.ofBinary64? at h
      split at h
      · rename_i hfinite
        obtain rfl := Option.some.inj h
        exact hfinite
      · cases h

/-- A number that is read is finite. -/
theorem isFinite_of_readNumber? {cs rest : List Char} {n : JsonNumber}
    (h : readNumber? cs = some (n, rest)) : n.toBinary64.isFinite = true := by
  unfold readNumber? at h
  simp only [Option.bind_eq_bind, Option.bind_eq_some_iff, Option.pure_def, Option.some.injEq,
    Prod.mk.injEq] at h
  obtain ⟨_, _, _, _, _, _, number, hnumber, rfl, _⟩ := h
  exact isFinite_of_numberOf? hnumber

/-! ## Blanks -/

/-- No digit is blank. -/
theorem isDigit_of_isBlank {c : Char} (h : Text.isBlank c = true) : c.isDigit = false := by
  rw [Bool.eq_false_iff]
  intro hdigit
  have hlow : 48 ≤ c.toNat := by
    simp only [Char.isDigit, Bool.and_eq_true, decide_eq_true_eq] at hdigit
    exact hdigit.1
  have hhigh : c.toNat ≤ 57 := by
    simp only [Char.isDigit, Bool.and_eq_true, decide_eq_true_eq] at hdigit
    exact hdigit.2
  simp only [Text.isBlank, Bool.or_eq_true, Bool.and_eq_true, decide_eq_true_eq, beq_iff_eq] at h
  omega

/-- No whole number starts with a blank. -/
theorem readWhole?_of_blank {cs : List Char} (h : ∀ c ∈ cs, Text.isBlank c = true) :
    readWhole? cs = none := by
  unfold readWhole?
  split
  · rename_i rest
    have hzero : Text.isBlank '0' = true := h '0' List.mem_cons_self
    exact absurd hzero (by decide)
  · cases cs with
    | nil => rfl
    | cons c rest =>
        have hdigit := isDigit_of_isBlank (h c List.mem_cons_self)
        simp [hdigit]

/-- Nothing is read from blanks. -/
theorem readValue_of_blank (fuel nesting : Nat) {cs : List Char}
    (h : ∀ c ∈ cs, Text.isBlank c = true) : readValue fuel nesting cs = none := by
  have hskip : ∀ c ∈ skipSpace cs, Text.isBlank c = true := fun c hc =>
    h c ((List.dropWhile_suffix isSpace).mem hc)
  -- none of the characters that a value starts with is blank
  have hstart : ∀ {c : Char} {rest : List Char}, skipSpace cs = c :: rest →
      Text.isBlank c = true := fun heq => hskip _ (heq ▸ List.mem_cons_self)
  cases fuel with
  | zero => rw [readValue]
  | succ fuel =>
      rw [readValue]
      split
      · rename_i heq
        exact absurd (hstart heq) (by decide)
      · rename_i heq
        exact absurd (hstart heq) (by decide)
      · rename_i heq
        exact absurd (hstart heq) (by decide)
      · rename_i heq
        exact absurd (hstart heq) (by decide)
      · rename_i heq
        exact absurd (hstart heq) (by decide)
      · rename_i heq
        exact absurd (hstart heq) (by decide)
      · have hrest : ∀ c ∈ (if (skipSpace cs).head? == some '-' then (skipSpace cs).drop 1
            else skipSpace cs), Text.isBlank c = true := by
          split
          · exact fun c hc => hskip c (List.mem_of_mem_drop hc)
          · exact hskip
        rw [readNumber?, readWhole?_of_blank hrest]
        rfl

/-- A text of blanks is no JSON. -/
theorem parse?_eq_none_of_blank {cs : List Char} (h : cs.all Text.isBlank = true) :
    parse? cs = none := by
  rw [parse?, parseRepeating?, readValue_of_blank _ _ (List.all_eq_true.1 h)]
  rfl

/-! ## Regular values -/

/-- Numbers are finite, and no object repeats a name. -/
inductive Regular : Json → Prop where
  | null : Regular .null
  | bool (b : Bool) : Regular (.bool b)
  | num {n : JsonNumber} (h : n.toBinary64.isFinite = true) : Regular (.num n)
  | str (s : String) : Regular (.str s)
  | arr {items : List Json} (h : ∀ item ∈ items, Regular item) : Regular (.arr items)
  | obj {members : List (String × Json)} (hnames : (Entries.names members).Nodup)
    (h : ∀ member ∈ members, Regular member.2) : Regular (.obj members)

/-- Items are merged one by one. -/
theorem mergeItems_eq_map (items : List Json) : mergeItems items = items.map mergeRepeats := by
  induction items with
  | nil => rw [mergeItems, List.map_nil]
  | cons item rest ih => rw [mergeItems, ih, List.map_cons]

/-- The values of members are merged one by one. -/
theorem mergeValues_eq_map (members : List (String × Json)) :
    mergeValues members = members.map fun member => (member.1, member.2.mergeRepeats) := by
  induction members with
  | nil => rw [mergeValues, List.map_nil]
  | cons member rest ih => rw [mergeValues, ih, List.map_cons]

/-- An array of regular items is regular after merging. -/
theorem regular_mergeRepeats_arr {items : List Json}
    (h : ∀ item ∈ items, item.mergeRepeats.Regular) : (arr items).mergeRepeats.Regular := by
  rw [mergeRepeats, mergeItems_eq_map]
  exact .arr (List.forall_mem_map.2 h)

/-- An object of regular members is regular after merging, whatever names it repeats. -/
theorem regular_mergeRepeats_obj {members : List (String × Json)}
    (h : ∀ member ∈ members, member.2.mergeRepeats.Regular) :
    (obj members).mergeRepeats.Regular := by
  rw [mergeRepeats, mergeValues_eq_map]
  obtain ⟨hnames, hmem⟩ := Entries.merge_spec
    (members.map fun member => (member.1, member.2.mergeRepeats))
  refine .obj hnames fun member hmember => ?_
  obtain ⟨given, hgiven, rfl⟩ := List.mem_map.1 (hmem member hmember)
  exact h given hgiven

/-- Whatever is read with some fuel is regular after merging. -/
structure ReadsRegular (fuel : Nat) : Prop where
  value : ∀ nesting cs json rest, readValue fuel nesting cs = some (json, rest) →
    json.mergeRepeats.Regular
  items : ∀ nesting cs items rest, readItems fuel nesting cs = some (items, rest) →
    ∀ item ∈ items, item.mergeRepeats.Regular
  members : ∀ nesting cs members rest, readMembers fuel nesting cs = some (members, rest) →
    ∀ member ∈ members, member.2.mergeRepeats.Regular

/-- A value is regular if what stands in it is. -/
theorem ReadsRegular.regular_value {fuel : Nat} (ih : ReadsRegular fuel) {nesting : Nat}
    {cs rest : List Char} {json : Json}
    (h : readValue (fuel + 1) nesting cs = some (json, rest)) : json.mergeRepeats.Regular := by
  rw [readValue] at h
  split at h
  · obtain ⟨_, _, heq⟩ := Option.map_eq_some_iff.1 h
    obtain ⟨rfl, _⟩ := Prod.mk.inj heq
    rw [mergeRepeats]
    exact .null
  · obtain ⟨_, _, heq⟩ := Option.map_eq_some_iff.1 h
    obtain ⟨rfl, _⟩ := Prod.mk.inj heq
    rw [mergeRepeats]
    exact .bool true
  · obtain ⟨_, _, heq⟩ := Option.map_eq_some_iff.1 h
    obtain ⟨rfl, _⟩ := Prod.mk.inj heq
    rw [mergeRepeats]
    exact .bool false
  · obtain ⟨_, _, heq⟩ := Option.map_eq_some_iff.1 h
    obtain ⟨rfl, _⟩ := Prod.mk.inj heq
    rw [mergeRepeats]
    exact .str _
  · split at h
    · cases h
    · split at h
      · obtain ⟨rfl, _⟩ := Prod.mk.inj (Option.some.inj h)
        exact regular_mergeRepeats_arr (by simp)
      · obtain ⟨read, hread, heq⟩ := Option.map_eq_some_iff.1 h
        obtain ⟨rfl, _⟩ := Prod.mk.inj heq
        exact regular_mergeRepeats_arr (ih.items _ _ _ _ hread)
  · split at h
    · cases h
    · split at h
      · obtain ⟨rfl, _⟩ := Prod.mk.inj (Option.some.inj h)
        exact regular_mergeRepeats_obj (by simp)
      · obtain ⟨read, hread, heq⟩ := Option.map_eq_some_iff.1 h
        obtain ⟨rfl, _⟩ := Prod.mk.inj heq
        exact regular_mergeRepeats_obj (ih.members _ _ _ _ hread)
  · obtain ⟨read, hread, heq⟩ := Option.map_eq_some_iff.1 h
    obtain ⟨rfl, _⟩ := Prod.mk.inj heq
    rw [mergeRepeats]
    exact .num (isFinite_of_readNumber? hread)

/-- Items are regular if the first one and the rest are. -/
theorem ReadsRegular.regular_items {fuel : Nat} (ih : ReadsRegular fuel) {nesting : Nat}
    {cs rest : List Char} {items : List Json}
    (h : readItems (fuel + 1) nesting cs = some (items, rest)) :
    ∀ item ∈ items, item.mergeRepeats.Regular := by
  rw [readItems] at h
  obtain ⟨⟨first, after⟩, hfirst, h⟩ := Option.bind_eq_some_iff.1 h
  have hregular := ih.value _ _ _ _ hfirst
  dsimp only at h
  split at h
  · obtain ⟨⟨others, _⟩, hothers, heq⟩ := Option.bind_eq_some_iff.1 h
    obtain ⟨rfl, _⟩ := Prod.mk.inj (Option.some.inj heq)
    exact List.forall_mem_cons.2 ⟨hregular, ih.items _ _ _ _ hothers⟩
  · obtain ⟨rfl, _⟩ := Prod.mk.inj (Option.some.inj h)
    exact List.forall_mem_singleton.2 hregular
  · cases h

/-- Members are regular if the first one and the rest are. -/
theorem ReadsRegular.regular_members {fuel : Nat} (ih : ReadsRegular fuel) {nesting : Nat}
    {cs rest : List Char} {members : List (String × Json)}
    (h : readMembers (fuel + 1) nesting cs = some (members, rest)) :
    ∀ member ∈ members, member.2.mergeRepeats.Regular := by
  rw [readMembers] at h
  split at h
  · obtain ⟨⟨name, afterName⟩, _, h⟩ := Option.bind_eq_some_iff.1 h
    dsimp only at h
    split at h
    · obtain ⟨⟨first, after⟩, hfirst, h⟩ := Option.bind_eq_some_iff.1 h
      have hregular := ih.value _ _ _ _ hfirst
      dsimp only at h
      split at h
      · obtain ⟨⟨others, _⟩, hothers, heq⟩ := Option.bind_eq_some_iff.1 h
        obtain ⟨rfl, _⟩ := Prod.mk.inj (Option.some.inj heq)
        exact List.forall_mem_cons.2 ⟨hregular, ih.members _ _ _ _ hothers⟩
      · obtain ⟨rfl, _⟩ := Prod.mk.inj (Option.some.inj h)
        exact List.forall_mem_singleton.2 hregular
      · cases h
    · cases h
  · cases h

/-- Whatever is read is regular after merging; the induction is on the fuel of the reader. -/
theorem readsRegular (fuel : Nat) : ReadsRegular fuel := by
  induction fuel with
  | zero =>
      refine ⟨fun _ _ _ _ h => ?_, fun _ _ _ _ h => ?_, fun _ _ _ _ h => ?_⟩
      · rw [readValue] at h
        cases h
      · rw [readItems] at h
        cases h
      · rw [readMembers] at h
        cases h
  | succ fuel ih =>
      exact ⟨fun _ _ _ _ => ih.regular_value, fun _ _ _ _ => ih.regular_items,
        fun _ _ _ _ => ih.regular_members⟩

/-- Every value that is read is regular. -/
theorem regular_of_parse? {cs : List Char} {json : Json} (h : parse? cs = some json) :
    json.Regular := by
  obtain ⟨repeating, hread, rfl⟩ := Option.map_eq_some_iff.1 h
  obtain ⟨⟨value, rest⟩, hvalue, h⟩ := Option.bind_eq_some_iff.1 hread
  dsimp only at h
  split at h
  · obtain rfl := Option.some.inj h
    exact (readsRegular _).value _ _ _ _ hvalue
  · cases h

end Json

end ApiBinding
