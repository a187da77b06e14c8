import SyntaxQuery.Assembly

/-! Matches: which pattern matched, and the nodes that its captures were bound to. -/
namespace SyntaxQuery

structure Capture where
  index : Nat
  node : Span
deriving Repr, DecidableEq

structure Match where
  pattern : Nat
  /-- In the order in which the captures were bound; an index may occur any number of times. -/
  captures : List Capture
deriving Repr, DecidableEq

def Match.nodesFor (m : Match) (index : Nat) : List Span :=
  (m.captures.filter (·.index == index)).map (·.node)

end SyntaxQuery
