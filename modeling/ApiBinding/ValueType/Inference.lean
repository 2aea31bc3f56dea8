import ApiBinding.Json.Basic
import ApiBinding.ValueType.Basic

/-!
# Types of samples

The type of a sample value.  An array becomes a table whose columns are those of all
its objects; what is neither an object nor null goes into a column of its own.  Of a
column the first type that is not blank counts.
-/

namespace ApiBinding.ValueType

/-- The column for rows that are not records. -/
def valueColumn : String := "Value"

/-- Add a column: a type that is not blank is kept. -/
def addColumn (columns : List (String × ValueType)) (column : String × ValueType) :
    List (String × ValueType) :=
  match Entries.find? column.1 columns with
  | none => Entries.insert column.1 column.2 columns
  | some type => if type.isBlank then Entries.insert column.1 column.2 columns else columns

/-- Add the columns of a row. -/
def addRow (columns : List (String × ValueType)) : ValueType → List (String × ValueType)
  | record fields => fields.foldl addColumn columns
  | blank => columns
  | single =>
    match Entries.find? valueColumn columns with
    | none => Entries.insert valueColumn single columns
    | some _ => columns

/-- The columns of rows of the given types. -/
def columnsOf (rows : List ValueType) : List (String × ValueType) :=
  rows.foldl addRow []

mutual

/-- The type of a sample value. -/
def infer (policy : NumberPolicy) : Json → ValueType
  | .null => blank
  | .bool _ => boolean
  | .num _ => ofPolicy policy
  | .str _ => text
  | .arr items => table (columnsOf (inferItems policy items))
  | .obj members => record (Entries.ofList (inferMembers policy members))

/-- The types of items. -/
def inferItems (policy : NumberPolicy) : List Json → List ValueType
  | [] => []
  | item :: rest => infer policy item :: inferItems policy rest

/-- The types of members under their names. -/
def inferMembers (policy : NumberPolicy) : List (String × Json) → List (String × ValueType)
  | [] => []
  | (name, value) :: rest => (name, infer policy value) :: inferMembers policy rest

end

end ApiBinding.ValueType
