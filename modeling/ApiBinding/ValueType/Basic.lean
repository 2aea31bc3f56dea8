import ApiBinding.Entries

/-!
# Types of values

The structured types that parameters and results have.  Fields of records and of the
rows of tables stand in the order of their names.  An untyped value may have any
shape.  Numbers are taken either in the binary64 format or as decimal numbers.
-/

namespace ApiBinding

/-- How numbers are represented. -/
inductive NumberPolicy where
  | binary
  | decimal
deriving DecidableEq, Repr, Inhabited

/-- A structured type. -/
inductive ValueType where
  | blank
  | boolean
  | number
  | decimal
  | text
  | dateTime
  | record (fields : List (String × ValueType))
  | table (columns : List (String × ValueType))
  | untyped

namespace ValueType

instance : Inhabited ValueType := ⟨untyped⟩

/-- The type of numbers under a policy. -/
def ofPolicy : NumberPolicy → ValueType
  | .binary => number
  | .decimal => decimal

/-- The fields of a record. -/
def fields? : ValueType → Option (List (String × ValueType))
  | record fields => some fields
  | _ => none

/-- Whether a type is that of nothing. -/
def isBlank : ValueType → Bool
  | blank => true
  | _ => false

/-! ## Text -/

mutual

/-- The text of a type: fields after an exclamation mark for a record, after an
asterisk for a table. -/
def display : ValueType → String
  | blank => "Blank"
  | boolean => "Boolean"
  | number => "Number"
  | decimal => "Decimal"
  | text => "Text"
  | dateTime => "DateTime"
  | untyped => "Untyped"
  | record fields => "![" ++ String.intercalate ", " (fieldTexts fields) ++ "]"
  | table columns => "*[" ++ String.intercalate ", " (fieldTexts columns) ++ "]"

/-- The texts of fields with their types. -/
def fieldTexts : List (String × ValueType) → List String
  | [] => []
  | (name, type) :: rest => (name ++ ":" ++ type.display) :: fieldTexts rest

end

/-! ## Passing one type for another -/

mutual

/-- Whether an argument of the second type can be passed where the first is expected.
Fields that only one side has do not matter. -/
def acceptsType (expected : ValueType) : ValueType → Bool
  | blank => true
  | untyped => true
  | record fields =>
    match expected with
    | untyped => true
    | record expectedFields => acceptsFields expectedFields fields
    | _ => false
  | table columns =>
    match expected with
    | untyped => true
    | table expectedColumns => acceptsFields expectedColumns columns
    | _ => false
  | boolean => match expected with | untyped | boolean => true | _ => false
  | number => match expected with | untyped | number | decimal => true | _ => false
  | decimal => match expected with | untyped | number | decimal => true | _ => false
  | text => match expected with | untyped | text | dateTime => true | _ => false
  | dateTime => match expected with | untyped | dateTime => true | _ => false

/-- Whether every provided field can be passed for the expected field of its name. -/
def acceptsFields (expected : List (String × ValueType)) : List (String × ValueType) → Bool
  | [] => true
  | (name, provided) :: rest =>
    (match Entries.find? name expected with
      | none => true
      | some type => acceptsType type provided) && acceptsFields expected rest

end

end ValueType

end ApiBinding
