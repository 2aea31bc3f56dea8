/-!
# Places in a source

Spans and tokens of an expression, and what is seen of its syntax nodes.

Main results:

- Theorem `merge_covers`: a merged span covers both spans it is merged from.
-/

namespace ApiBinding

/-- A half-open range of characters.  The base is where the text the range counts in
stands in a larger document. -/
structure Span where
  start : Nat
  limit : Nat
  base : Nat
deriving DecidableEq, Repr

namespace Span

/-- How many characters a span has. -/
def length (span : Span) : Nat :=
  span.limit - span.start

/-- Whether a span has no characters. -/
def isEmpty (span : Span) : Bool :=
  span.length == 0

/-- The span that covers two spans. -/
def merge (a b : Span) : Span :=
  ⟨min a.start b.start, max a.limit b.limit, a.base⟩

/-- The text of a span. -/
def display (span : Span) : String :=
  "[" ++ toString span.start ++ "," ++ toString span.limit ++ "]"

/-- A merged span reaches from the earlier start to the later end. -/
theorem merge_covers (a b : Span) :
    (a.merge b).start ≤ a.start ∧ (a.merge b).start ≤ b.start ∧
      a.limit ≤ (a.merge b).limit ∧ b.limit ≤ (a.merge b).limit := by
  simp only [merge]
  omega

end Span

/-- A token: its text and its place. -/
structure SourceToken where
  text : String
  span : Span
deriving DecidableEq, Repr

/-- A node of the syntax of an expression, as far as messages need it. -/
structure SyntaxNode where
  /-- The token the node is built around. -/
  token : SourceToken
  /-- The text of the node in messages. -/
  shown : String
  /-- The extent of the node, if it is not that of its token. -/
  extent : Option Span
deriving DecidableEq, Repr

namespace SyntaxNode

/-- The range of the whole node. -/
def span (node : SyntaxNode) : Span :=
  node.extent.getD node.token.span

end SyntaxNode

end ApiBinding
