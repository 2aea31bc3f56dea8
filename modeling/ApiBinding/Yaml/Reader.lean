import ApiBinding.Yaml.Node
import ApiBinding.Yaml.Scalar

/-!
# Reading YAML texts

A text with at most one document is read as a JSON value.  Keys are scalars and are
taken as they are written; of a repeated key the last value counts.  Nesting is
bounded, and so is the work that aliases can ask for.
-/

namespace ApiBinding.Yaml

/-- Whether the tag of a sequence or mapping has no meaning here. -/
def isForeignTag (tag : Option String) : Bool :=
  (tag.bind fun tag => tag.toList.head?) == some '!'

/-- The name that a key is. -/
def keyName? : Node → Option String
  | .absent => some ""
  | .scalar _ _ text => some text
  | _ => none

mutual

/-- The value of a node. -/
def Node.toJson? : Node → Option Json
  | .absent | .circular => some .null
  | .scalar tag plain text => scalarJson? tag plain text
  | .sequence tag items =>
    if isForeignTag tag then none else (itemsToJson? items).map .arr
  | .mapping tag entries =>
    if isForeignTag tag then none
    else (entriesToJson? entries).map fun members => .obj (Entries.merge members)

/-- The values of the items of a sequence. -/
def itemsToJson? : List Node → Option (List Json)
  | [] => some []
  | item :: rest => do
    let value ← item.toJson?
    let values ← itemsToJson? rest
    return value :: values

/-- The members of a mapping. -/
def entriesToJson? : List (Node × Node) → Option (List (String × Json))
  | [] => some []
  | (key, node) :: rest => do
    let name ← keyName? key
    let value ← node.toJson?
    let members ← entriesToJson? rest
    return (name, value) :: members

end

/-- The greatest nesting of sequences and mappings. -/
def heightLimit : Nat := 128

/-- How many aliases may be followed for each event of a document. -/
def aliasFactor : Nat := 100

/-- The value of a text. -/
def parse? (cs : List Char) : Option Json := do
  let tokens ← tokens? .full cs
  let (root, events) ← document? .full tokens
  if heightLimit < root.height || aliasFactor * events < root.aliases then none
  else root.node.toJson?

end ApiBinding.Yaml
