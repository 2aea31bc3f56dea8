import ApiBinding.Proofs.Text.Percent
import ApiBinding.Uri.Path
import Mathlib.Data.List.Basic
import Mathlib.Data.List.Induction

/-!
# Segments of a path, read back

A path grows by one segment at a time, and each written segment can be read back.  What
is read back are the segments that were put in, unless one of them is a dot or two,
holds a character that is dropped, or is empty at the front of the path: those are not
written as they are, and two dots can take away the segment before them.

Main results:

- Theorem `readable_path`: every segment of a path holds no separator and reads as
  a text without dropped characters that is no dots.
- Theorem `foldl_push_of_plain`: plain segments are all written, from the first one that
  is not empty on.
- Theorem `mem_readPieces`: a plain segment is read back, unless one behind it climbs.
- Theorem `readPieces_foldl_push_eq_iff`: exactly which segments are read back.
-/

namespace ApiBinding.Uri

/-- A segment that is written as it is: neither one dot nor two, and without dropped
characters. -/
def IsPlain (segment : List Char) : Prop :=
  segment ≠ ['.'] ∧ segment ≠ ['.', '.'] ∧ segment.any isDropped = false

instance : DecidablePred IsPlain := fun _ => inferInstanceAs (Decidable (_ ∧ _ ∧ _))

/-- A written segment that holds no separator and reads as a plain segment. -/
def Readable (written : List Char) : Prop :=
  '/' ∉ written ∧ '?' ∉ written ∧
    ∃ segment, IsPlain segment ∧ Text.percentDecode written = Text.utf8Bytes segment

/-- The decoded pieces between the slashes of a path, up to its query. -/
def readPieces (pathAndQuery : List Char) : List (List UInt8) :=
  (((pathAndQuery.takeWhile fun c => c ≠ '?').drop 1).splitOn '/').map Text.percentDecode

/-- The bytes of segments; where there is none, the root has a single empty piece. -/
def segmentBytes (segments : List (List Char)) : List (List UInt8) :=
  if segments.isEmpty then [[]] else segments.map Text.utf8Bytes

/-- Segments that are all read back: plain ones, of which the first is not empty unless
it is the only one. -/
def AreKept (segments : List (List Char)) : Prop :=
  (∀ segment ∈ segments, IsPlain segment) ∧ (segments.head? = some [] → segments = [[]])

instance : DecidablePred AreKept := fun _ => inferInstanceAs (Decidable (_ ∧ _))

/-- A segment climbs if it is no two dots but is written as them: it holds two dots and
characters that are dropped. -/
def Climbs (segment : List Char) : Prop :=
  segment ≠ ['.', '.'] ∧ writtenSegment segment = ['.', '.']

instance : DecidablePred Climbs := fun _ => inferInstanceAs (Decidable (_ ∧ _))

variable {path segments : List (List Char)} {segment : List Char}

/-! ## Written segments -/

/-- A written segment reads as the segment without its dropped characters. -/
theorem percentDecode_writtenSegment (segment : List Char) :
    Text.percentDecode (writtenSegment segment) =
      Text.utf8Bytes (segment.filter fun c => !isDropped c) :=
  Text.percentDecode_segment _

/-- A plain segment has no character to drop. -/
theorem filter_of_isPlain (h : IsPlain segment) :
    segment.filter (fun c => !isDropped c) = segment := by
  have hkept := List.any_eq_false.1 h.2.2
  rw [List.filter_eq_self]
  intro c hc
  simpa using hkept c hc

/-- A plain segment is read back. -/
theorem percentDecode_of_isPlain (h : IsPlain segment) :
    Text.percentDecode (writtenSegment segment) = Text.utf8Bytes segment := by
  rw [percentDecode_writtenSegment, filter_of_isPlain h]

/-- A segment is written as another text only if it is that text. -/
theorem eq_of_writtenSegment_eq {text : List Char} (h : IsPlain segment)
    (hwritten : writtenSegment segment = text)
    (htext : Text.percentDecode text = Text.utf8Bytes text) : segment = text := by
  apply Text.utf8Bytes_injective
  rw [← percentDecode_of_isPlain h, hwritten, htext]

/-- The empty segment is plain. -/
theorem isPlain_nil : IsPlain [] := by
  simp [IsPlain]

/-- The empty segment at the end of a directory is readable. -/
theorem readable_nil : Readable [] :=
  ⟨List.not_mem_nil, List.not_mem_nil, [], isPlain_nil, rfl⟩

/-- A written segment that is no dots is readable. -/
theorem readable_writtenSegment (hdot : writtenSegment segment ≠ ['.'])
    (hdots : writtenSegment segment ≠ ['.', '.']) : Readable (writtenSegment segment) := by
  refine ⟨fun hmem => (Text.ne_of_mem_percentEncode hmem).1 rfl,
    fun hmem => (Text.ne_of_mem_percentEncode hmem).2.1 rfl,
    segment.filter fun c => !isDropped c, ⟨?_, ?_, ?_⟩, percentDecode_writtenSegment segment⟩
  · intro heq
    exact hdot (by rw [writtenSegment, heq]; rfl)
  · intro heq
    exact hdots (by rw [writtenSegment, heq]; rfl)
  · rw [List.any_eq_false]
    intro c hc
    simpa using (List.mem_filter.1 hc).2

/-! ## Growing paths -/

/-- The directory around a directory holds no other segments. -/
theorem mem_of_mem_enclosing {written : List Char} (h : written ∈ enclosing path) :
    written ∈ path := by
  unfold enclosing at h
  split at h
  · simp at h
  · split at h
    · exact h
    · exact (List.dropLast_sublist path).subset h

section

variable {P : List Char → Prop}

/-- The path of a directory itself has at most an empty segment more. -/
theorem forall_mem_directoryPath (hempty : P []) (h : ∀ written ∈ path, P written) :
    ∀ written ∈ directoryPath path, P written := by
  intro written hmem
  unfold directoryPath at hmem
  split at hmem
  · simp at hmem
  · rcases List.mem_append.1 hmem with hmem | hmem
    · exact h written hmem
    · rw [List.mem_singleton.1 hmem]
      exact hempty

/-- Extending a path keeps what holds of its segments, if it holds of the empty segment and of
every written one that is no dots. -/
theorem forall_mem_push (hempty : P [])
    (hwritten : ∀ segment, writtenSegment segment ≠ ['.'] →
      writtenSegment segment ≠ ['.', '.'] → P (writtenSegment segment))
    (h : ∀ written ∈ path, P written) (segment : List Char) :
    ∀ written ∈ push path segment, P written := by
  simp only [push]
  split_ifs with hskipped hdots hdot hroot
  · exact h
  · exact forall_mem_directoryPath hempty fun written hmem =>
      h written (mem_of_mem_enclosing hmem)
  · exact forall_mem_directoryPath hempty h
  · simp
  · intro written hmem
    rcases List.mem_append.1 hmem with hmem | hmem
    · exact h written hmem
    · rw [List.mem_singleton.1 hmem]
      exact hwritten segment hdot hdots

/-- So it holds of all segments of a path that has grown from the root. -/
theorem forall_mem_path (hempty : P [])
    (hwritten : ∀ segment, writtenSegment segment ≠ ['.'] →
      writtenSegment segment ≠ ['.', '.'] → P (writtenSegment segment))
    (segments : List (List Char)) : ∀ written ∈ segments.foldl push [], P written := by
  induction segments using List.reverseRecOn with
  | nil => simp
  | append_singleton rest last ih =>
      rw [List.foldl_append]
      exact forall_mem_push hempty hwritten ih last

end

/-- Every segment of a path that has grown from the root is readable. -/
theorem readable_path (segments : List (List Char)) :
    ∀ written ∈ segments.foldl push [], Readable written :=
  forall_mem_path readable_nil (fun _ => readable_writtenSegment) segments

/-- The text of a path holds slashes and what its segments hold. -/
theorem mem_pathText {c : Char} (h : c ∈ pathText path) :
    c = '/' ∨ ∃ written ∈ path, c ∈ written := by
  rcases List.mem_cons.1 h with hslash | hmem
  · exact Or.inl hslash
  · exact Text.mem_intercalate hmem

/-- The text of a path that has grown from the root holds neither a question mark nor a number
sign. -/
theorem ne_of_mem_pathText {c : Char} (h : c ∈ pathText (segments.foldl push [])) :
    c ≠ '?' ∧ c ≠ '#' := by
  have hsegments : ∀ written ∈ segments.foldl push [], ∀ c ∈ written, c ≠ '?' ∧ c ≠ '#' :=
    forall_mem_path (by simp) (fun _ _ _ _ hc => (Text.ne_of_mem_percentEncode hc).2) segments
  rcases mem_pathText h with rfl | ⟨written, hwritten, hc⟩
  · decide
  · exact hsegments written hwritten c hc

/-! ## Plain segments -/

/-- A plain segment is put at the end, unless it is empty and the path as well. -/
theorem push_of_isPlain (h : IsPlain segment) :
    push path segment =
      if path = [] ∧ segment = [] then [] else path ++ [writtenSegment segment] := by
  have hdot : writtenSegment segment ≠ ['.'] := fun heq =>
    h.1 (eq_of_writtenSegment_eq h heq rfl)
  have hdots : writtenSegment segment ≠ ['.', '.'] := fun heq =>
    h.2.1 (eq_of_writtenSegment_eq h heq rfl)
  have hempty : writtenSegment segment = [] ↔ segment = [] := by
    constructor
    · intro heq
      exact eq_of_writtenSegment_eq h heq rfl
    · rintro rfl
      rfl
  simp [push, h.1, h.2.1, hdot, hdots, hempty]

/-- A path that has a segment grows by every plain segment. -/
theorem foldl_push_append (hpath : path ≠ []) (h : ∀ segment ∈ segments, IsPlain segment) :
    segments.foldl push path = path ++ segments.map writtenSegment := by
  induction segments generalizing path with
  | nil => simp
  | cons segment rest ih =>
      obtain ⟨hsegment, hrest⟩ := List.forall_mem_cons.1 h
      rw [List.foldl_cons, push_of_isPlain hsegment, if_neg (by simp [hpath]),
        ih (by simp) hrest]
      simp

/-- Plain segments are all written, from the first one that is not empty on. -/
theorem foldl_push_of_plain (h : ∀ segment ∈ segments, IsPlain segment) :
    segments.foldl push [] = (segments.dropWhile List.isEmpty).map writtenSegment := by
  induction segments with
  | nil => rfl
  | cons segment rest ih =>
      obtain ⟨hsegment, hrest⟩ := List.forall_mem_cons.1 h
      rw [List.foldl_cons, push_of_isPlain hsegment]
      by_cases hempty : segment = []
      · simp [hempty, ih hrest]
      · rw [if_neg (by simp [hempty]), List.nil_append, foldl_push_append (by simp) hrest]
        simp [hempty]

/-! ## Kept segments -/

/-- A further segment leaves the others in the path, unless it climbs. -/
theorem mem_push {written : List Char} (h : written ∈ path) (hclimbs : ¬Climbs segment) :
    written ∈ push path segment := by
  have hpath : path ≠ [] := List.ne_nil_of_mem h
  simp only [push]
  split_ifs with hskipped hdots hdot hroot
  · exact h
  · exact absurd ⟨fun heq => hskipped (.inr heq), hdots⟩ hclimbs
  · rw [directoryPath, if_neg (by simpa using hpath)]
    exact List.mem_append_left _ h
  · exact absurd (List.isEmpty_iff.1 hroot.1) hpath
  · exact List.mem_append_left _ h

/-- So do further segments of which none climbs. -/
theorem mem_foldl_push {written : List Char} (h : written ∈ path)
    (hclimbs : ∀ segment ∈ segments, ¬Climbs segment) : written ∈ segments.foldl push path := by
  induction segments generalizing path with
  | nil => exact h
  | cons segment rest ih =>
      obtain ⟨hsegment, hrest⟩ := List.forall_mem_cons.1 hclimbs
      exact ih (mem_push h hsegment) hrest

/-! ## Reading back -/

/-- Cutting at the first question mark gives the path. -/
theorem takeWhile_pathText (h : ∀ written ∈ path, Readable written) {query : List Char}
    (hquery : query = [] ∨ query.head? = some '?') :
    (pathText path ++ query).takeWhile (fun c => c ≠ '?') = pathText path := by
  have hpath : ∀ c ∈ pathText path, decide (c ≠ '?') = true := by
    intro c hc
    rw [decide_eq_true_eq]
    rintro rfl
    rcases mem_pathText hc with heq | ⟨written, hwritten, hmem⟩
    · exact absurd heq (by decide)
    · exact (h written hwritten).2.1 hmem
  rw [List.takeWhile_append_of_pos hpath]
  rcases hquery with rfl | hhead
  · simp
  · obtain ⟨rest, rfl⟩ := List.head?_eq_some_iff.1 hhead
    simp

/-- What is read from the text of a path are its decoded segments. -/
theorem readPieces_pathText (h : ∀ written ∈ path, Readable written) {query : List Char}
    (hquery : query = [] ∨ query.head? = some '?') :
    readPieces (pathText path ++ query) =
      if path = [] then [[]] else path.map Text.percentDecode := by
  rw [readPieces, takeWhile_pathText h hquery]
  by_cases hempty : path = []
  · subst hempty
    rfl
  · have hslash : ∀ written ∈ path, '/' ∉ written := fun written hmem => (h written hmem).1
    rw [if_neg hempty, pathText, List.drop_one, List.tail_cons,
      List.splitOn_intercalate '/' hslash hempty]

/-- What is read back are plain segments. -/
theorem isPlain_of_readPieces_eq {query : List Char} (hquery : query = [] ∨ query.head? = some '?')
    (h : readPieces (pathText (segments.foldl push []) ++ query) = segmentBytes segments) :
    ∀ segment ∈ segments, IsPlain segment := by
  intro segment hsegment
  have hreadable := readable_path segments
  have hbytes : Text.utf8Bytes segment ∈ segmentBytes segments := by
    rw [segmentBytes, if_neg (by simpa using List.ne_nil_of_mem hsegment)]
    exact List.mem_map_of_mem hsegment
  rw [← h, readPieces_pathText hreadable hquery] at hbytes
  have hread : ∃ text, IsPlain text ∧ Text.utf8Bytes segment = Text.utf8Bytes text := by
    split at hbytes
    · exact ⟨[], isPlain_nil, List.mem_singleton.1 hbytes⟩
    · obtain ⟨written, hwritten, heq⟩ := List.mem_map.1 hbytes
      obtain ⟨text, htext, hdecode⟩ := (hreadable written hwritten).2.2
      exact ⟨text, htext, heq.symm.trans hdecode⟩
  obtain ⟨text, htext, heq⟩ := hread
  rw [Text.utf8Bytes_injective heq]
  exact htext

/-- Of plain segments the empty ones at the front are not read back. -/
theorem readPieces_of_isPlain (h : ∀ segment ∈ segments, IsPlain segment) {query : List Char}
    (hquery : query = [] ∨ query.head? = some '?') :
    readPieces (pathText (segments.foldl push []) ++ query) =
      segmentBytes (segments.dropWhile List.isEmpty) := by
  have hreadable := readable_path segments
  have hdrop : ∀ segment ∈ segments.dropWhile List.isEmpty, IsPlain segment := fun segment hmem =>
    h segment ((List.dropWhile_sublist _).subset hmem)
  rw [readPieces_pathText hreadable hquery, foldl_push_of_plain h, segmentBytes]
  by_cases hempty : segments.dropWhile List.isEmpty = []
  · simp [hempty]
  · rw [if_neg (by simpa using hempty), if_neg (by simpa using hempty), List.map_map]
    exact List.map_congr_left fun segment hmem => percentDecode_of_isPlain (hdrop segment hmem)

/-- Nothing is missing when the empty segments at the front are left out, unless the
first segment is one of several and empty. -/
theorem segmentBytes_dropWhile_eq_iff :
    segmentBytes (segments.dropWhile List.isEmpty) = segmentBytes segments ↔
      (segments.head? = some [] → segments = [[]]) := by
  match segments with
  | [] => simp
  | (c :: cs) :: rest => simp
  | [[]] => simp [segmentBytes, Text.utf8Bytes]
  | [] :: second :: rest =>
      have hlength : (segmentBytes ((second :: rest).dropWhile List.isEmpty)).length ≤
          rest.length + 1 := by
        have hle := ((second :: rest).dropWhile_sublist List.isEmpty).length_le
        unfold segmentBytes
        split
        · simp
        · simpa using hle
      constructor
      · intro heq
        rw [List.dropWhile_cons_of_pos rfl] at heq
        rw [heq] at hlength
        simp only [segmentBytes, List.isEmpty_cons, Bool.false_eq_true, if_false, List.length_map,
          List.length_cons] at hlength
        omega
      · intro honly
        simpa using honly rfl

/-- A plain segment that is not empty is read back, if no segment behind it climbs. -/
theorem mem_readPieces {front back : List (List Char)} (hsegment : IsPlain segment)
    (hsome : segment ≠ []) (hback : ∀ later ∈ back, ¬Climbs later) {query : List Char}
    (hquery : query = [] ∨ query.head? = some '?') :
    Text.utf8Bytes segment ∈
      readPieces (pathText ((front ++ segment :: back).foldl push []) ++ query) := by
  have hwritten : writtenSegment segment ∈ (front ++ segment :: back).foldl push [] := by
    rw [List.foldl_append, List.foldl_cons]
    refine mem_foldl_push ?_ hback
    rw [push_of_isPlain hsegment, if_neg (by simp [hsome])]
    exact List.mem_append_right _ List.mem_cons_self
  rw [readPieces_pathText (readable_path _) hquery, if_neg (List.ne_nil_of_mem hwritten),
    ← percentDecode_of_isPlain hsegment]
  exact List.mem_map_of_mem hwritten

/-- The segments that a path was made of are read back exactly if they are all kept. -/
theorem readPieces_foldl_push_eq_iff {query : List Char}
    (hquery : query = [] ∨ query.head? = some '?') :
    readPieces (pathText (segments.foldl push []) ++ query) = segmentBytes segments ↔
      AreKept segments := by
  constructor
  · intro h
    have hplain := isPlain_of_readPieces_eq hquery h
    rw [readPieces_of_isPlain hplain hquery] at h
    exact ⟨hplain, segmentBytes_dropWhile_eq_iff.1 h⟩
  · rintro ⟨hplain, hfirst⟩
    rw [readPieces_of_isPlain hplain hquery]
    exact segmentBytes_dropWhile_eq_iff.2 hfirst

end ApiBinding.Uri
