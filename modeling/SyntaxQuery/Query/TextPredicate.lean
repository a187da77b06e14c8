import SyntaxQuery.Regex

/-! Predicates on text that are written in a query. -/
namespace SyntaxQuery.Query

inductive TextPredicate where
  | sameText (left right : Nat) (positive all : Bool)
  | equals (capture : Nat) (literal : Bytes) (positive all : Bool)
  | search (capture : Nat) (regex : Regex) (positive all : Bool)
  /-- Every node's text is one of the literals, or none is. -/
  | among (capture : Nat) (literals : List Bytes) (positive : Bool)

end SyntaxQuery.Query
