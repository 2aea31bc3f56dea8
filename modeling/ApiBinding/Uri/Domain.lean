import ApiBinding.Text.CharacterClass
import ApiBinding.Text.Joining
import ApiBinding.Text.PlainForm
import ApiBinding.Uri.Punycode

/-!
# Domains

A domain is a text of labels between full stops, in any script.  Its characters are
taken in their plain form and composed.  A label that is written in ASCII stands for the
text it encodes.  A label may not start with a mark, joiners must have a meaning in it,
and where any label is written from right to left, every label must keep to one
direction.

Main results:

- Theorem `directionsAgree_of_none`: a domain without letters from right to left may mix
  directions as it likes.
-/

namespace ApiBinding.Uri

namespace Domain

/-- The ASCII characters that no domain may have. -/
def isRefused (c : Char) : Bool :=
  c.toNat ≤ 0x20 || c.toNat == 0x7F ||
    ['#', '/', ':', '<', '>', '?', '@', '[', '\\', ']', '^', '|', '%'].contains c

/-- Whether a text is in ASCII. -/
def isAscii (cs : List Char) : Bool :=
  cs.all fun c => c.toNat < 0x80

/-- The plain form of a domain. -/
def plain? (cs : List Char) : Option (List Char) := do
  let forms ← cs.mapM Text.plainForm?
  let plain := Text.composed forms.flatten
  if plain.any isRefused then none else some plain

/-! ## Labels -/

/-- The greatest length of an encoded label. -/
def encodedLimit : Nat := 2000

/-- The greatest length of a label beyond ASCII. -/
def unicodeLimit : Nat := 1000

/-- Whether an encoded text could be a label's: it is plain, composed, and not in ASCII. -/
def isEncodable (cs : List Char) : Bool :=
  !isAscii cs && cs.all (fun c => Text.isPlain c && Text.plainForm? c == some [c]) &&
    Text.composed cs == cs

/-- The text that a label stands for. -/
def labelText? (label : List Char) : Option (List Char) :=
  match label with
  | 'x' :: 'n' :: '-' :: '-' :: code =>
    if isAscii code && code.length ≤ encodedLimit then
      (Punycode.decode? code).filter isEncodable
    else none
  | _ => if isAscii label || label.length ≤ unicodeLimit then some label else none

/-- Whether the text of a label starts with no mark and has joiners only where they have
a meaning. -/
def isWellFormed (label : List Char) : Bool :=
  !label.head?.any Text.isMark && Text.joinersAllowed [] label

/-! ## Directions -/

/-- Whether a character makes a domain one with labels from right to left. -/
def isRightward (direction : Text.Direction) : Bool :=
  direction == .right || direction == .arabicDigit

/-- The direction of the last character that is no mark. -/
def lastDirection (label : List Text.Direction) : Text.Direction :=
  ((label.reverse.find? fun direction => direction != .nonspacing)).getD .nonspacing

/-- Whether a label keeps to one direction: it starts with a letter, ends with a letter or
a digit, and holds no letter of the other direction nor both kinds of digits. -/
def keepsDirection (label : List Text.Direction) : Bool :=
  match label with
  | [] => true
  | .left :: rest =>
    rest.all (fun direction => !isRightward direction) &&
      [.left, .europeanDigit].contains (lastDirection label)
  | .right :: rest =>
    rest.all (fun direction => direction != .left) &&
      [.right, .europeanDigit, .arabicDigit].contains (lastDirection label) &&
      !(rest.contains .europeanDigit && rest.contains .arabicDigit)
  | _ => false

/-- Whether the labels of a domain go together. -/
def directionsAgree (labels : List (List Char)) : Bool :=
  let directions := labels.map fun label => label.map Text.Direction.ofChar
  !directions.any (fun label => label.any isRightward) || directions.all keepsDirection

/-! ## Domains -/

/-- Whether a plain text is a domain. -/
def isValid (plain : List Char) : Bool :=
  match (plain.splitOn '.').mapM labelText? with
  | none => false
  | some labels => labels.all isWellFormed && directionsAgree labels

/-- Labels without letters from right to left agree in direction. -/
theorem directionsAgree_of_none {labels : List (List Char)}
    (h : ∀ label ∈ labels, ∀ c ∈ label, isRightward (Text.Direction.ofChar c) = false) :
    directionsAgree labels = true := by
  have none_right : ((labels.map fun label => label.map Text.Direction.ofChar).any
      fun label => label.any isRightward) = false := by
    simp only [List.any_eq_false, List.mem_map]
    rintro _ ⟨label, hl, rfl⟩
    simp only [Bool.not_eq_true, List.any_eq_false, List.mem_map]
    rintro _ ⟨c, hc, rfl⟩
    simp [h label hl c hc]
  simp [directionsAgree, none_right]

end Domain

end ApiBinding.Uri
