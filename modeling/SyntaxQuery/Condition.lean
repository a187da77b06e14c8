import SyntaxQuery.Regex

/-! Conditions on the text of captured nodes, and the table that assigns them to patterns. -/
namespace SyntaxQuery

inductive Quantifier where
  | all
  | any
deriving Repr, DecidableEq

def Quantifier.dual : Quantifier → Quantifier
  | all => any
  | any => all

inductive TextTest where
  /-- The text is the literal, byte for byte. -/
  | equals (literal : Bytes)
  /-- The regex matches somewhere in the text. -/
  | search (regex : Regex)
  /-- The text is that of another capture. -/
  | sameAs (other : Nat)

structure Condition where
  capture : Nat
  test : TextTest
  negated : Bool
  quantifier : Quantifier

namespace Condition

def new (capture : Nat) (test : TextTest) : Condition := ⟨capture, test, false, .all⟩

/-- Inverts the outcome for each node, not the outcome as a whole. -/
def negate (condition : Condition) : Condition := { condition with negated := !condition.negated }

def withQuantifier (condition : Condition) (quantifier : Quantifier) : Condition :=
  { condition with quantifier := quantifier }

def references (condition : Condition) : List Nat :=
  match condition.test with
  | .sameAs other => [condition.capture, other]
  | _ => [condition.capture]

end Condition

structure PredicateTable where
  rows : List (List Condition)
deriving Inhabited

namespace PredicateTable

def new (patternCount : Nat) : PredicateTable := ⟨List.replicate patternCount []⟩

def patternCount (table : PredicateTable) : Nat := table.rows.length

/-- A pattern outside the table has no conditions. -/
def forPattern (table : PredicateTable) (pattern : Nat) : List Condition :=
  (table.rows[pattern]?).getD []

/-- Appends to the pattern's row; the table grows by empty rows until the pattern is inside. -/
def push (table : PredicateTable) (pattern : Nat) (condition : Condition) : PredicateTable :=
  let rows := table.rows ++ List.replicate (pattern + 1 - table.rows.length) []
  ⟨rows.modify pattern (· ++ [condition])⟩

def isEmpty (table : PredicateTable) : Bool := table.rows.all (·.isEmpty)

end PredicateTable

end SyntaxQuery
