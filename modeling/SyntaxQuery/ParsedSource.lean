import SyntaxQuery.Tree

/-! A text together with its syntax tree, whichever parser the tree is from. -/
namespace SyntaxQuery

structure ParsedSource where
  source : Bytes
  tree : Tree
  hasErrors : Bool

namespace ParsedSource

/-- The text of a node. A span that is inverted or ends past the source has none. -/
def text (parsed : ParsedSource) (span : Span) : Bytes :=
  if span.start ≤ span.stop ∧ span.stop.toNat ≤ parsed.source.length then
    parsed.source.slice span.start.toNat span.stop.toNat
  else []

end ParsedSource

end SyntaxQuery
