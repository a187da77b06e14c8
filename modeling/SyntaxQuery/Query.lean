import SyntaxQuery.Query.TextPredicate

/-! Queries over syntax trees. What finds the matches is not looked into here; for each pattern there are the
predicates on text that a match has to satisfy. -/
namespace SyntaxQuery

structure Query (π : Type) where
  captureNames : List String
  patternCount : Nat
  /-- The predicates of each pattern, in the order in which they are written. -/
  predicates : List (List Query.TextPredicate)
  /-- What finds the matches in a tree. -/
  program : π

def Query.captureIndex? (query : Query π) (name : String) : Option Nat := query.captureNames.idxOf? name

end SyntaxQuery
