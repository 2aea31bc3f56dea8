import ApiBinding.Diagnostic.Span
import ApiBinding.HttpMethod
import ApiBinding.Stored.Form
import ApiBinding.ValueType.Basic

/-!
# Stored places and words

The stored forms of spans and tokens, and the words for methods and number policies.
-/

namespace ApiBinding

namespace Span

/-- The stored form of a span. -/
def stored (span : Span) : Json :=
  .obj [("min", .num (.whole span.start)), ("lim", .num (.whole span.limit)),
    ("base_index", .num (.whole span.base))]

/-- The span that a stored form is of; the base may be missing. -/
def ofStored? (json : Json) : Option Span := do
  let fields ← Stored.fields? ["min", "lim", "base_index"] json
  let start ← fields.required? "min" Stored.natural?
  let limit ← fields.required? "lim" Stored.natural?
  let base ← fields.defaulted? "base_index" 0 Stored.natural?
  return ⟨start, limit, base⟩

end Span

namespace SourceToken

/-- The stored form of a token. -/
def stored (token : SourceToken) : Json :=
  .obj [("text", .str token.text), ("span", token.span.stored)]

/-- The token that a stored form is of. -/
def ofStored? (json : Json) : Option SourceToken := do
  let fields ← Stored.fields? ["text", "span"] json
  let text ← fields.required? "text" Json.text?
  let span ← fields.required? "span" Span.ofStored?
  return ⟨text, span⟩

end SourceToken

namespace HttpMethod

/-- The method that a stored word names. -/
def ofStored? (json : Json) : Option HttpMethod :=
  (Stored.word? json).bind fun word => all.find? fun method => method.text == word

end HttpMethod

namespace NumberPolicy

/-- The stored word for a policy. -/
def word : NumberPolicy → String
  | binary => "float"
  | decimal => "decimal"

/-- The policy that a stored word names. -/
def ofStored? (json : Json) : Option NumberPolicy :=
  (Stored.word? json).bind fun word =>
    [binary, decimal].find? fun policy => policy.word == word

end NumberPolicy

end ApiBinding
