import ApiBinding.Entries
import ApiBinding.Number.Binary64

/-!
# TOML values

A text gives a tree of tables.  A table remembers how it came about, since that
decides who may add to it: a table with a header of its own only takes the lines
below that header and further headers, a table made by dotted keys only takes
further dotted keys, and a table written between braces takes nothing.
-/

namespace ApiBinding.Toml

/-- How a table came about. -/
inductive Origin where
  /-- By its own header, or as the whole text. -/
  | header
  /-- As a part of the path of another header. -/
  | implied
  /-- By dotted keys. -/
  | dotted
  /-- Between braces. -/
  | inline
deriving DecidableEq, Repr

/-- A value. -/
inductive Value where
  | text (s : String)
  | whole (n : Int)
  | real (x : Binary64)
  | flag (b : Bool)
  /-- A date, a time or both, in their normal form. -/
  | moment (s : String)
  | list (items : List Value)
  | table (origin : Origin) (entries : List (String × Value))
  /-- Tables under one header each. -/
  | rows (tables : List (List (String × Value)))

/-- The entries of a table. -/
abbrev Entries := List (String × Value)

/-- A change of a table, which may be refused. -/
abbrev Change := Origin → Entries → Option Entries

/-- The table to which a path leads, changed.  Tables that are missing on the way are
made.  On the way of dotted keys no table with a header is entered, and the last
table of several under one header stands for them. -/
def descend? (dotted : Bool) (change : Change) (origin : Origin) :
    List String → Entries → Option Entries
  | [], entries => change origin entries
  | key :: path, entries =>
    match ApiBinding.Entries.find? key entries with
    | none => do
      let made := if dotted then .dotted else .implied
      let inner ← descend? dotted change made path []
      return entries ++ [(key, .table made inner)]
    | some (.table found inner) =>
      if found = .inline || (dotted && found = .header) then none
      else do
        let inner ← descend? dotted change found path inner
        return ApiBinding.Entries.set key (.table found inner) entries
    | some (.rows tables) => do
      let last ← tables.getLast?
      let last ← descend? dotted change .header path last
      return ApiBinding.Entries.set key (.rows (tables.dropLast ++ [last])) entries
    | some _ => none

/-- Put a value under a key that is free.  A table of dotted keys is only entered by
dotted keys, and any other only by a key alone. -/
def put? (alone : Bool) (key : String) (value : Value) : Change := fun origin entries =>
  if (origin == .dotted) == alone then none
  else if (ApiBinding.Entries.find? key entries).isSome then none
  else some (entries ++ [(key, value)])

/-- Put a value under a path of dotted keys, the last one given apart. -/
def assign? (path : List String) (key : String) (value : Value) : Change := fun origin entries =>
  descend? true (put? path.isEmpty key value) origin path entries

/-- Start a table under its header, which must not have one yet. -/
def startTable? (key : String) : Change := fun _ entries =>
  match ApiBinding.Entries.find? key entries with
  | none => some (entries ++ [(key, .table .header [])])
  | some (.table .implied inner) =>
    some (ApiBinding.Entries.set key (.table .header inner) entries)
  | some _ => none

/-- Start one more of several tables under the same header. -/
def startRow? (key : String) : Change := fun _ entries =>
  match ApiBinding.Entries.find? key entries with
  | none => some (entries ++ [(key, .rows [[]])])
  | some (.rows tables) => some (ApiBinding.Entries.set key (.rows (tables ++ [[]])) entries)
  | some _ => none

/-- The table between braces that key paths with values give. -/
def inlineTable? (pairs : List (List String × String × Value)) : Option Value := do
  let entries ← pairs.foldlM (fun entries pair => assign? pair.1 pair.2.1 pair.2.2 .header entries) []
  return .table .inline entries

end ApiBinding.Toml
