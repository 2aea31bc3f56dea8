import ApiBinding.HttpMethod
import ApiBinding.Text.Quoted

/-!
# Faults of descriptions

Why a text is not an API description.
-/

namespace ApiBinding

/-- A reason to refuse a description. -/
inductive DocumentFault where
  | notJson
  | notYaml
  | malformed
  | malformedPathItem (path : String)
  | malformedOperation (method : HttpMethod) (path : String)
  | unsupportedVersion (swagger openApi : Option String)
  | unresolvedParameter (reference : String)
  | repeatedOperation (name : String)
deriving DecidableEq, Repr

namespace DocumentFault

/-- The fault in words. -/
def message : DocumentFault → String
  | notJson => "document is not valid JSON"
  | notYaml => "document is not valid YAML"
  | malformed => "malformed API document"
  | malformedPathItem path => "malformed path item '" ++ path ++ "'"
  | malformedOperation method path => "malformed operation '" ++ method.text ++ " " ++ path ++ "'"
  | unsupportedVersion swagger openApi =>
    "unsupported document version (swagger: " ++ Text.quotedOption swagger ++ ", openapi: " ++
      Text.quotedOption openApi ++ ")"
  | unresolvedParameter reference => "unresolved parameter reference '" ++ reference ++ "'"
  | repeatedOperation name => "duplicate operation name '" ++ name ++ "'"

end DocumentFault

end ApiBinding
