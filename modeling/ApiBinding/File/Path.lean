import ApiBinding.Text.Parts

/-!
# Names of files

A path is cut at its slashes.  Parts that are empty or a single dot stand for the
place they are at and are skipped.  The name of a file is the last part that is
left, unless it is two dots, which go up.  The stem of a name is what stands before
its last dot; a dot at the very front does not count.

Main results:

- Theorem `cutAtDot_append`: a name is cut at its last dot into what the dot was put between.
- Theorem `cutAtDot_of_no_dot`: a name without a dot is its own stem.
-/

namespace ApiBinding.File

/-- The parts of a path that lead somewhere. -/
def parts (path : String) : List (List Char) :=
  (Text.slashParts path.toList).filter fun part => part != ['.']

/-- The name of the file that a path leads to. -/
def name? (path : String) : Option (List Char) :=
  match (parts path).getLast? with
  | none => none
  | some part => if part = ['.', '.'] then none else some part

/-- A name cut at its last dot: what stands before it, and what stands after it. -/
def cutAtDot (name : List Char) : List Char × Option (List Char) :=
  let ending := (name.reverse.takeWhile (· != '.')).reverse
  let stem := name.take (name.length - ending.length - 1)
  if stem.isEmpty then (name, none) else (stem, some ending)

/-- The name of a file without its ending. -/
def stem? (path : String) : Option String :=
  (name? path).map fun name => String.ofList (cutAtDot name).1

/-- The ending of the name of a file. -/
def ending? (path : String) : Option String :=
  (name? path).bind fun name => (cutAtDot name).2.map String.ofList

/-- The path without the slashes and single dots at its end. -/
def withoutTrailing (path : String) : List Char :=
  let reversed := path.toList.reverse
  (trim reversed.length reversed).reverse
where
  trim : Nat → List Char → List Char
    | fuel + 1, '/' :: rest => trim fuel rest
    | fuel + 1, '.' :: '/' :: rest => trim fuel rest
    | _, rest => rest

/-- The path of the file of the same name with one more ending; none if the path does
not name a file. -/
def withEnding? (path ending : String) : Option String :=
  (name? path).map fun _ => String.ofList (withoutTrailing path ++ '.' :: ending.toList)

/-- Read from its end, what holds no dot is passed over on the way to the last dot. -/
theorem takeWhile_reverse_of_no_dot {name : List Char} (h : '.' ∉ name) (rest : List Char) :
    (name.reverse ++ rest).takeWhile (· != '.') = name.reverse ++ rest.takeWhile (· != '.') :=
  List.takeWhile_append_of_pos fun c hc => by
    have : c ≠ '.' := fun e => h (e ▸ List.mem_reverse.1 hc)
    simpa using this

/-- A name without a dot is its own stem. -/
theorem cutAtDot_of_no_dot {name : List Char} (h : '.' ∉ name) : cutAtDot name = (name, none) := by
  have all := takeWhile_reverse_of_no_dot h []
  simp only [List.append_nil, List.takeWhile_nil] at all
  simp [cutAtDot, all]

/-- A name is cut at its last dot into what the dot was put between. -/
theorem cutAtDot_append {stem ending : List Char} (hs : stem ≠ []) (he : '.' ∉ ending) :
    cutAtDot (stem ++ '.' :: ending) = (stem, some ending) := by
  have read := takeWhile_reverse_of_no_dot he ('.' :: stem.reverse)
  simp only [List.takeWhile_cons, bne_self_eq_false, Bool.false_eq_true, if_false,
    List.append_nil] at read
  have length : stem.length + (ending.length + 1) - ending.length - 1 = stem.length := by omega
  simp [cutAtDot, read, length, hs]

end ApiBinding.File
