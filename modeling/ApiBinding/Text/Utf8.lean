/-!
# UTF-8

Texts are written as bytes and read back.  Reading is a run of a small automaton
over the bytes: each character completed is emitted, and each maximal piece that
cannot be continued is emitted as a gap.  The strict reader refuses gaps, the
lenient one shows each of them as the replacement character, so the two differ
only where a gap occurs.

Main results:

- Theorem `utf8Decode?_eq_some_iff`: the strict reader answers exactly when there is no gap.
- Theorem `utf8DecodeLenient_of_utf8Decode?`: where the strict reader answers, the lenient one
  answers the same.
-/

namespace ApiBinding.Text

/-- The bytes of a text. -/
def utf8Bytes (cs : List Char) : List UInt8 :=
  cs.flatMap String.utf8EncodeChar

/-- A character of which some bytes are still to come: how many, the bits so far,
and the range in which the next byte must lie. -/
structure Utf8Pending where
  needed : Nat
  code : Nat
  lower : Nat
  upper : Nat
deriving DecidableEq, Repr

/-- What the first byte of a character gives: something emitted, or a pending character. -/
def utf8Start (b : UInt8) : List (Option Char) × Option Utf8Pending :=
  let n := b.toNat
  if n < 0x80 then ([some (Char.ofNat n)], none)
  else if n < 0xC2 then ([none], none)
  else if n < 0xE0 then ([], some ⟨1, n - 0xC0, 0x80, 0xBF⟩)
  else if n < 0xF0 then
    ([], some ⟨2, n - 0xE0, if n = 0xE0 then 0xA0 else 0x80, if n = 0xED then 0x9F else 0xBF⟩)
  else if n < 0xF5 then
    ([], some ⟨3, n - 0xF0, if n = 0xF0 then 0x90 else 0x80, if n = 0xF4 then 0x8F else 0xBF⟩)
  else ([none], none)

/-- One step of the reader; a byte that cannot continue the pending character
leaves a gap and starts anew. -/
def utf8Step (state : Option Utf8Pending) (b : UInt8) :
    List (Option Char) × Option Utf8Pending :=
  match state with
  | none => utf8Start b
  | some p =>
    if p.lower ≤ b.toNat ∧ b.toNat ≤ p.upper then
      let code := p.code * 64 + (b.toNat - 0x80)
      if p.needed ≤ 1 then ([some (Char.ofNat code)], none)
      else ([], some ⟨p.needed - 1, code, 0x80, 0xBF⟩)
    else
      let next := utf8Start b
      (none :: next.1, next.2)

/-- The run of the reader from a given state. -/
def utf8Run : Option Utf8Pending → List UInt8 → List (Option Char)
  | none, [] => []
  | some _, [] => [none]
  | state, b :: rest =>
    let next := utf8Step state b
    next.1 ++ utf8Run next.2 rest

/-- The characters and gaps of a sequence of bytes. -/
def utf8Pieces (bytes : List UInt8) : List (Option Char) :=
  utf8Run none bytes

/-- The text of the bytes, if they have no gap. -/
def utf8Decode? (bytes : List UInt8) : Option (List Char) :=
  (utf8Pieces bytes).mapM id

/-- The text of the bytes, with the replacement character for each gap. -/
def utf8DecodeLenient (bytes : List UInt8) : List Char :=
  (utf8Pieces bytes).map fun piece => piece.getD '\uFFFD'

/-- A text without the mark of its byte order at its start. -/
def withoutOrderMark : List Char → List Char
  | '\uFEFF' :: rest => rest
  | cs => cs

/-- Pieces are all there exactly if they are a list of values, each of which is given. -/
theorem mapM_id_eq_some_iff {α : Type} {pieces : List (Option α)} {xs : List α} :
    pieces.mapM id = some xs ↔ pieces = xs.map some := by
  induction pieces generalizing xs with
  | nil => cases xs <;> simp
  | cons p ps ih =>
    cases p with
    | none => cases xs <;> simp
    | some x =>
      cases xs with
      | nil => simp [List.mapM_cons, Option.bind_eq_some_iff]
      | cons y ys =>
        simp only [List.mapM_cons, id, ih, Option.bind_eq_bind, Option.bind_some,
          Option.bind_eq_some_iff, Option.pure_def, Option.some.injEq, List.cons.injEq,
          List.map_cons]
        constructor
        · rintro ⟨zs, rfl, rfl, rfl⟩
          exact ⟨rfl, rfl⟩
        · rintro ⟨rfl, rfl⟩
          exact ⟨ys, rfl, rfl, rfl⟩

/-- The strict reader answers exactly when there is no gap. -/
theorem utf8Decode?_eq_some_iff {bytes : List UInt8} {cs : List Char} :
    utf8Decode? bytes = some cs ↔ utf8Pieces bytes = cs.map some :=
  mapM_id_eq_some_iff

/-- Where the strict reader answers, the lenient one answers the same. -/
theorem utf8DecodeLenient_of_utf8Decode? {bytes : List UInt8} {cs : List Char}
    (h : utf8Decode? bytes = some cs) : utf8DecodeLenient bytes = cs := by
  rw [utf8Decode?_eq_some_iff] at h
  simp [utf8DecodeLenient, h, Function.comp_def]

end ApiBinding.Text
