import ApiBinding.Function.Basic
import ApiBinding.Json.Printer

/-!
# Reports

What is printed about functions: one line for each function of a description, or the
request of one function with all of its inputs.  The names and the places of inputs
stand in columns.

Main results:

- Theorem `width_le_length_column`: a column is at least as wide as asked for.
- Theorem `isPrefix_column`: a column keeps its text.
-/

namespace ApiBinding.CommandLine

/-- A text with blanks after it up to a width, which counts characters. -/
def column (width : Nat) (text : String) : List Char :=
  text.toList ++ List.replicate (width - text.toList.length) ' '

/-- A column is at least as wide as asked for. -/
theorem width_le_length_column (width : Nat) (text : String) :
    width ≤ (column width text).length := by
  simp only [column, List.length_append, List.length_replicate]
  omega

/-- A column starts with its text, which may be wider. -/
theorem isPrefix_column (width : Nat) (text : String) : text.toList <+: column width text :=
  List.prefix_append _ _

/-- The text of a value: its plain text, or its JSON text where there is none. -/
def valueText (value : Value) : String :=
  value.text?.getD value.toJson.render

/-- What an input is filled from. -/
def sourceText : SlotSource → String
  | .argument index => "argument #" ++ toString (index + 1)
  | .global value => "global = " ++ valueText value
  | .default value => "internal = " ++ valueText value

/-- The line of an input. -/
def slotLine (slot : Slot) : String :=
  "  " ++ String.ofList (column 20 slot.name) ++ " " ++
    String.ofList (column 12 slot.placement.name) ++ " " ++ sourceText slot.source

/-- The line of a function. -/
def functionLine (function : ConnectorFunction) : String :=
  "  " ++ function.display ++ (if function.deprecated then " (deprecated)" else "")

/-- Lines as one text. -/
def unlines (lines : List String) : String :=
  String.join (lines.map fun line => line ++ "\n")

/-- The report on the functions of a description. -/
def functionsReport (functions : List ConnectorFunction) : String :=
  if functions.isEmpty then unlines ["No operations found"]
  else
    unlines (("Found " ++ toString functions.length ++ " function(s):") :: "" ::
      functions.map functionLine)

/-- The report on one function. -/
def operationReport (function : ConnectorFunction) : String :=
  let description := match function.description with
    | some text => ["Description: " ++ text]
    | none => []
  unlines (["Function: " ++ function.qualifiedName] ++ description ++
    ["Request: " ++ function.method.text ++ " " ++ function.basePath ++ function.path,
      "Returns: " ++ function.returnType.display, "", "Inputs:"] ++
    function.slots.map slotLine)

end ApiBinding.CommandLine
