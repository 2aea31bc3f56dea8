import ApiBinding.Json.Basic
import ApiBinding.Number.Power
import ApiBinding.Number.Reader
import ApiBinding.Text.Percent

/-!
# The meaning of scalars

A plain scalar without a tag is read as nothing, a truth value or a number if it has
the form of one, and as a text otherwise.  The words for truth values and for nothing
are few, so that `yes` and `off` are texts, and so are numbers with leading zeros.  A
whole number that fits 128 but not 64 bits has no meaning.
-/

namespace ApiBinding.Yaml

/-- Whether a text is a word for nothing. -/
def isNullWord (text : String) : Bool :=
  ["null", "Null", "NULL", "~"].contains text

/-- The truth value that a word names. -/
def boolWord? (text : String) : Option Bool :=
  if ["true", "True", "TRUE"].contains text then some true
  else if ["false", "False", "FALSE"].contains text then some false
  else none

/-- The number that digits of a base write; at least one digit is needed. -/
def numeral? (base : Nat) (digits : List Char) : Option Nat :=
  if digits.isEmpty then none
  else digits.foldlM (fun n c =>
    (Text.hexValue? c).bind fun d => if d < base then some (n * base + d) else none) 0

/-- Whether a text has several digits the first of which is zero. -/
def hasLeadingZero (digits : List Char) : Bool :=
  match digits with
  | '0' :: rest => !rest.isEmpty && rest.all Char.isDigit
  | _ => false

/-- The magnitude of a whole number without its sign, in base ten unless it starts
with the mark of another base. -/
def magnitude? (cs : List Char) : Option Nat :=
  match cs with
  | '0' :: 'x' :: digits => numeral? 16 digits
  | '0' :: 'o' :: digits => numeral? 8 digits
  | '0' :: 'b' :: digits => numeral? 2 digits
  | digits => if hasLeadingZero digits then none else numeral? 10 digits

/-- The whole number that a text writes. -/
def integer? (cs : List Char) : Option Int :=
  match cs with
  | '-' :: rest => (magnitude? rest).map fun n => -(n : Int)
  | '+' :: rest => (magnitude? rest).map fun n => (n : Int)
  | rest => (magnitude? rest).map fun n => (n : Int)

/-- The number of the binary64 format that a text writes: finite, or one of the
words for what is not. -/
def binary64? (text : String) : Option Binary64 :=
  if [".inf", ".Inf", ".INF", "+.inf", "+.Inf", "+.INF"].contains text then some (.infinite false)
  else if ["-.inf", "-.Inf", "-.INF"].contains text then some (.infinite true)
  else if [".nan", ".NaN", ".NAN"].contains text then some .nan
  else
    let cs := text.toList
    let unsigned := if cs.head? == some '+' then cs.drop 1 else cs
    if cs.head? == some '+' && (unsigned.head? == some '+' || unsigned.head? == some '-') then none
    else
      match Binary64.ofText? (String.ofList unsigned) with
      | some x => if x.isFinite then some x else none
      | none => none

/-- A whole number as a value: one that fits 64 bits.  The outer answer is none for a
number of more than 128 bits, the inner one for a number in between. -/
def integerJson? (n : Int) : Option (Option Json) :=
  if -(integerBound : Int) ≤ n ∧ n < naturalBound then some (some (.num (.whole n)))
  else if -(powerOfTwo 127 : Int) ≤ n ∧ n < powerOfTwo 128 then some none
  else none

/-- A number of the binary64 format as a value. -/
def binary64Json (x : Binary64) : Json :=
  match JsonNumber.ofBinary64? x with
  | some number => .num number
  | none => .null

/-- The value of a plain scalar without a tag. -/
def plainJson? (text : String) : Option Json :=
  if text.isEmpty || isNullWord text then some .null
  else
    match boolWord? text with
    | some b => some (.bool b)
    | none =>
      match (integer? text.toList).bind integerJson? with
      | some value => value
      | none =>
        let unsigned := match text.toList with
          | '-' :: rest | '+' :: rest => rest
          | cs => cs
        if hasLeadingZero unsigned then some (.str text)
        else some ((binary64? text).elim (.str text) binary64Json)

/-- The value of a scalar.  The tags of the standard kinds ask for a form; a tag of
another kind has no meaning here. -/
def scalarJson? (tag : Option String) (plain : Bool) (text : String) : Option Json :=
  match tag with
  | none => if plain then plainJson? text else some (.str text)
  | some tag =>
    if tag = "tag:yaml.org,2002:bool" then (boolWord? text).map .bool
    else if tag = "tag:yaml.org,2002:int" then
      ((integer? text.toList).bind integerJson?).bind id
    else if tag = "tag:yaml.org,2002:float" then (binary64? text).map binary64Json
    else if tag = "tag:yaml.org,2002:null" then if isNullWord text then some .null else none
    else if tag.toList.head? == some '!' then none
    else some (.str text)

end ApiBinding.Yaml
