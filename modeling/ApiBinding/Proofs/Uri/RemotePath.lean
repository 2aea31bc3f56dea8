import ApiBinding.Proofs.Text.Utf8
import ApiBinding.Proofs.Uri.Beginning
import ApiBinding.Uri.Server

/-!
# Paths of remote addresses

The path of an address of a common scheme is in normal form.  Its segments are written
already: they hold what a segment keeps, and percent signs, which begin the bytes that were
encoded or stood in the address.  No segment is one dot or two.  When such a segment is
written once more, its percent signs are encoded and nothing else changes.

Main results:

- Theorem `writtenSegment_of_isNormal`: a segment in normal form is written with its percent
  signs encoded.
- Theorem `isRemote_of_web`: the addresses of the web are remote.
- Theorem `exists_segments_of_isRemote`: the path of a remote address has segments in normal
  form.
-/

namespace ApiBinding.Uri

/-- A character that is written as it is, or a percent sign. -/
def IsKept (c : Char) : Prop := c = '%' ∨ writtenSegment [c] = [c]

instance : DecidablePred IsKept := fun _ => inferInstanceAs (Decidable (_ ∨ _))

/-- A segment in normal form: no dots, and nothing that would have to be encoded. -/
structure IsNormal (segment : List Char) : Prop where
  notDot : segment ≠ ['.']
  notDots : segment ≠ ['.', '.']
  kept : ∀ c ∈ segment, IsKept c

/-- A text with its percent signs encoded. -/
def escapePercent (text : List Char) : List Char :=
  text.flatMap fun c => if c = '%' then ['%', '2', '5'] else [c]

/-- An address of one of the common schemes of remote servers. -/
def IsRemote (address : List Char) : Prop :=
  ∃ rest, cutScheme?
    ((Text.dropWhileEnd (fun c => c.toNat ≤ 0x20)
      (address.dropWhile fun c => c.toNat ≤ 0x20)).filter fun c => !isDropped c) =
        some (.remote, rest)

variable {segment text : List Char}

/-! ## Writing character by character -/

/-- A segment is written character by character. -/
theorem writtenSegment_cons (c : Char) (rest : List Char) :
    writtenSegment (c :: rest) = writtenSegment [c] ++ writtenSegment rest := by
  have hcons : c :: rest = [c] ++ rest := rfl
  simp only [writtenSegment, Text.percentEncode, Text.utf8Bytes]
  rw [hcons, List.filter_append, List.flatMap_append, List.flatMap_append]

/-- Percent signs are encoded character by character. -/
theorem escapePercent_cons (c : Char) (rest : List Char) :
    escapePercent (c :: rest) =
      (if c = '%' then ['%', '2', '5'] else [c]) ++ escapePercent rest := rfl

/-- Of kept characters the percent signs are encoded. -/
theorem writtenSegment_of_isKept (h : ∀ c ∈ segment, IsKept c) :
    writtenSegment segment = escapePercent segment := by
  induction segment with
  | nil => rfl
  | cons c rest ih =>
      obtain ⟨hc, hrest⟩ := List.forall_mem_cons.1 h
      have hchar : writtenSegment [c] = if c = '%' then ['%', '2', '5'] else [c] := by
        split
        next hpercent =>
          subst hpercent
          decide
        next hne => exact hc.resolve_left hne
      rw [writtenSegment_cons, escapePercent_cons, hchar, ih hrest]

/-- A segment in normal form is written with its percent signs encoded. -/
theorem writtenSegment_of_isNormal (h : IsNormal segment) :
    writtenSegment segment = escapePercent segment :=
  writtenSegment_of_isKept h.kept

/-- Encoding percent signs takes no character away. -/
theorem length_le_escapePercent (text : List Char) : text.length ≤ (escapePercent text).length := by
  induction text with
  | nil => exact Nat.le_refl _
  | cons c rest ih =>
      rw [escapePercent_cons, List.length_append, List.length_cons]
      split <;> simp only [List.length_cons, List.length_nil] <;> omega

/-- A text is left as it is exactly if it has no percent sign. -/
theorem escapePercent_eq_self_iff : escapePercent text = text ↔ '%' ∉ text := by
  induction text with
  | nil => simp [escapePercent]
  | cons c rest ih =>
      rw [escapePercent_cons]
      by_cases hpercent : c = '%'
      · subst hpercent
        have hlonger : ['%', '2', '5'] ++ escapePercent rest ≠ '%' :: rest := by
          intro heq
          have hsame := congrArg List.length heq
          have hlength := length_le_escapePercent rest
          simp only [List.length_append, List.length_cons, List.length_nil] at hsame
          omega
        simpa using hlonger
      · simpa [hpercent, Ne.symm hpercent] using ih

/-- No text but the empty one is written as nothing. -/
theorem escapePercent_eq_nil_iff : escapePercent text = [] ↔ text = [] := by
  constructor
  · intro h
    have hlength := length_le_escapePercent text
    rw [h] at hlength
    exact List.eq_nil_of_length_eq_zero (Nat.le_zero.1 hlength)
  · rintro rfl
    rfl

/-! ## Segments in normal form -/

/-- The empty segment is in normal form. -/
theorem isNormal_nil : IsNormal [] :=
  ⟨by simp, by simp, by simp⟩

/-- A segment in normal form holds no slash. -/
theorem slash_not_mem_of_isNormal (h : IsNormal segment) : '/' ∉ segment := by
  intro hmem
  rcases h.kept '/' hmem with hpercent | hwritten
  · exact absurd hpercent (by decide)
  · exact absurd hwritten (by decide)

/-- A segment in normal form is plain. -/
theorem isPlain_of_isNormal (h : IsNormal segment) : IsPlain segment := by
  refine ⟨h.notDot, h.notDots, ?_⟩
  rw [List.any_eq_false]
  intro c hc hdropped
  rcases h.kept c hc with rfl | hwritten
  · exact absurd hdropped (by decide)
  · have hnothing : writtenSegment [c] = [] := by
      rw [writtenSegment, List.filter_cons_of_neg (by simp [hdropped])]
      rfl
    rw [hnothing] at hwritten
    exact absurd hwritten (by simp)

/-! ## Segments of an address -/

/-- The bytes that a path keeps are kept by a segment, apart from separators. -/
theorem isKept_of_isPathByte {b : UInt8} (h : Text.isPathByte b = true) (hascii : b.toNat < 0x80)
    (hslash : b.toNat ≠ 0x2F) (hbackslash : b.toNat ≠ 0x5C) : IsKept (Char.ofNat b.toNat) := by
  have hall : ∀ n < 0x80, Text.isPathByte (UInt8.ofNat n) = true → n ≠ 0x2F → n ≠ 0x5C →
      IsKept (Char.ofNat n) := by decide
  exact hall b.toNat hascii (by rw [UInt8.ofNat_toNat]; exact h) hslash hbackslash

/-- A percent sign and the digits behind it are kept. -/
theorem isKept_of_mem_percentByte {b : UInt8} {c : Char} (h : c ∈ Text.percentByte b) :
    IsKept c := by
  have hdigit : ∀ n < 16, IsKept (Text.upperHexDigit n) := by decide
  have hbyte : b.toNat < 256 := b.toNat_lt
  simp only [Text.percentByte, List.mem_cons, List.not_mem_nil, or_false] at h
  rcases h with rfl | rfl | rfl
  · exact Or.inl rfl
  · exact hdigit _ (by omega)
  · exact hdigit _ (by omega)

/-- What a text without separators is encoded to in a path is kept. -/
theorem isKept_of_mem_percentEncode (hslash : '/' ∉ text) (hbackslash : '\\' ∉ text) {c : Char}
    (h : c ∈ Text.percentEncode Text.isPathByte (Text.utf8Bytes text)) : IsKept c := by
  obtain ⟨b, hb, hc⟩ := List.mem_flatMap.1 h
  by_cases hkeep : Text.isPathByte b = true
  · have hascii : b.toNat < 0x80 := by
      simp only [Text.isPathByte, Text.isVisibleAscii, Bool.and_eq_true, decide_eq_true_eq] at hkeep
      omega
    have hmem := Text.ofNat_mem_of_mem_utf8Bytes hb hascii
    rw [if_pos hkeep, List.mem_singleton] at hc
    subst hc
    apply isKept_of_isPathByte hkeep hascii
    · intro hcode
      rw [hcode] at hmem
      exact hslash hmem
    · intro hcode
      rw [hcode] at hmem
      exact hbackslash hmem
  · rw [if_neg hkeep] at hc
    exact isKept_of_mem_percentByte hc

/-- A character of a part between slashes is one of the text. -/
theorem mem_of_mem_splitOn {part : List Char} {c : Char} (hpart : part ∈ text.splitOn '/')
    (hc : c ∈ part) : c ∈ text := by
  have hmem : c ∈ slashed (text.splitOn '/') :=
    List.mem_flatMap.2 ⟨part, hpart, List.mem_cons_of_mem _ hc⟩
  rw [slashed_splitOn] at hmem
  rcases List.mem_cons.1 hmem with rfl | hmem
  · exact absurd hc (Text.slash_not_mem_of_mem_splitOn hpart)
  · exact hmem

/-- The segments of a remote address hold only kept characters. -/
theorem isKept_of_mem_addressSegments {cs : List Char}
    (h : segment ∈ addressSegments .remote cs) : ∀ c ∈ segment, IsKept c := by
  unfold addressSegments at h
  obtain ⟨part, hpart, rfl⟩ := List.mem_map.1 h
  have hslash := Text.slash_not_mem_of_mem_splitOn hpart
  have hbackslash : '\\' ∉ part := by
    intro hmem
    -- a backslash has been read as a slash before the path is cut
    obtain ⟨c, _, hc⟩ := List.mem_map.1 (mem_of_mem_splitOn hpart hmem)
    split at hc
    · exact absurd hc (by decide)
    next hother =>
      subst hc
      exact hother rfl
  exact fun c hc => isKept_of_mem_percentEncode hslash hbackslash hc

/-- A segment that is not read as dots is none. -/
theorem ne_dots_of_withPlainDots (hdots : withPlainDots segment ≠ ['.', '.'])
    (hdot : withPlainDots segment ≠ ['.']) : segment ≠ ['.'] ∧ segment ≠ ['.', '.'] := by
  constructor
  · rintro rfl
    exact hdot rfl
  · rintro rfl
    exact hdots rfl

/-- Walking the segments of an address from a directory keeps what holds of the directory, if it
holds of the empty segment and of every segment that is no dots. -/
theorem forall_mem_walk {P : List Char → Prop} {directory segments : List (List Char)}
    (hempty : P [])
    (hsegments : ∀ segment ∈ segments, segment ≠ ['.'] ∧ segment ≠ ['.', '.'] → P segment)
    (hdirectory : ∀ segment ∈ directory, P segment) :
    ∀ segment ∈ walk id directory segments, P segment := by
  induction segments generalizing directory with
  | nil => exact forall_mem_directoryPath hempty hdirectory
  | cons segment rest ih =>
      obtain ⟨hsegment, hrest⟩ := List.forall_mem_cons.1 hsegments
      have hleft : ∀ written ∈ enclosing directory, P written := fun written hmem =>
        hdirectory written (mem_of_mem_enclosing hmem)
      have hentered (hdots : withPlainDots segment ≠ ['.', '.'])
          (hdot : withPlainDots segment ≠ ['.']) :
          ∀ written ∈ enter id directory segment, P written := by
        intro written hmem
        rcases List.mem_append.1 hmem with hmem | hmem
        · exact hdirectory written hmem
        · rw [List.mem_singleton, id_eq, ite_self] at hmem
          rw [hmem]
          exact hsegment (ne_dots_of_withPlainDots hdots hdot)
      cases rest with
      | nil =>
          unfold walk
          split_ifs with hdots hdot
          · exact forall_mem_directoryPath hempty hleft
          · exact forall_mem_directoryPath hempty hdirectory
          · exact hentered hdots hdot
      | cons next others =>
          unfold walk
          split_ifs with hdots hdot
          · exact ih hrest hleft
          · exact ih hrest hdirectory
          · exact ih hrest (hentered hdots hdot)

/-- The path of an address in normal form has segments in normal form. -/
theorem exists_segments_normalPath (cs : List Char) :
    ∃ segments, (∀ segment ∈ segments, IsNormal segment) ∧
      normalPath .remote cs = pathText segments := by
  refine ⟨_, forall_mem_walk isNormal_nil ?_ (by simp), rfl⟩
  intro segment hsegment hdots
  exact ⟨hdots.1, hdots.2, isKept_of_mem_addressSegments hsegment⟩

/-- What follows the authority of a remote address is a path in normal form. -/
theorem exists_normalPath_of_authorityPath? {cs path : List Char}
    (h : authorityPath? .remote cs = some path) : ∃ rest, path = normalPath .remote rest := by
  simp only [authorityPath?, Option.bind_eq_bind, Option.bind_eq_some_iff, reduceCtorEq,
    if_false] at h
  obtain ⟨_, _, h⟩ := h
  split at h
  · cases h
  · -- behind the host there may be a number, and then the path or nothing
    split at h
    · split at h
      · rw [Option.bind_some] at h
        split at h <;> exact ⟨_, (Option.some.inj h).symm⟩
      · cases h
    · rw [Option.bind_some] at h
      split at h <;> exact ⟨_, (Option.some.inj h).symm⟩

/-! ## Remote addresses -/

/-- What stands up to a character that is kept stays when others are dropped at the end. -/
theorem dropWhileEnd_append {p : Char → Bool} {c : Char} (h : p c = false)
    (front rest : List Char) :
    Text.dropWhileEnd p (front ++ c :: rest) = front ++ c :: Text.dropWhileEnd p rest := by
  simp only [Text.dropWhileEnd, List.reverse_append, List.reverse_cons, List.append_assoc,
    List.singleton_append]
  rw [List.dropWhile_append]
  split
  next hempty => simp [List.isEmpty_iff.1 hempty, h]
  next => simp

/-- The addresses of the web are remote. -/
theorem isRemote_of_web {scheme : List Char}
    (hscheme : scheme = "http".toList ∨ scheme = "https".toList) (rest : List Char) :
    IsRemote (scheme ++ ':' :: rest) := by
  refine ⟨(Text.dropWhileEnd (fun c => c.toNat ≤ 0x20) rest).filter fun c => !isDropped c, ?_⟩
  have hfirst : (scheme ++ ':' :: rest).dropWhile (fun c => decide (c.toNat ≤ 0x20)) =
      scheme ++ ':' :: rest := by
    rcases hscheme with rfl | rfl <;> rfl
  rw [hfirst, dropWhileEnd_append (by decide), List.filter_append]
  rcases hscheme with rfl | rfl <;> rfl

/-- The path of a remote address has segments in normal form. -/
theorem exists_segments_of_isRemote {address path : List Char} (hremote : IsRemote address)
    (hpath : absolutePath? address = some path) :
    ∃ segments, (∀ segment ∈ segments, IsNormal segment) ∧ path = pathText segments := by
  obtain ⟨rest, hrest⟩ := hremote
  rw [absolutePath?, hrest] at hpath
  obtain ⟨cs, rfl⟩ := exists_normalPath_of_authorityPath? hpath
  exact exists_segments_normalPath cs

end ApiBinding.Uri
