import SyntaxQuery.Grammar.Rule

/-! Patterns as they are written. Offsets count the bytes of the query's text. -/
namespace SyntaxQuery.Query

structure NodeTest where
  /-- `none` takes nodes of every kind. -/
  kind : Option Kind
  /-- Where every kind is taken: whether the node has to be named. -/
  named : Bool
  supertype : Option String
  /-- Whether the node has to be one that the parser made up. -/
  missing : Bool
deriving Repr, DecidableEq, Inhabited

namespace NodeTest

def anything : NodeTest := ⟨none, false, none, false⟩

def anyNamed : NodeTest := ⟨none, true, none, false⟩

def ofKind (kind : Kind) : NodeTest := ⟨some kind, false, none, false⟩

end NodeTest

inductive Suffix where
  | oneOrMore
  | zeroOrMore
  | zeroOrOne
  | capture (index : Nat)
deriving Repr, DecidableEq

inductive Pattern where
  /-- A node without the fields `absent`. If it is `closed`, its last child pattern takes its last
  named child. -/
  | node (offset : Nat) (test : NodeTest) (absent : List String) (children : List Pattern)
      (closed : Bool) (suffixes : List Suffix)
  /-- Siblings. -/
  | group (offset : Nat) (members : List Pattern) (suffixes : List Suffix)
  | choice (offset : Nat) (branches : List Pattern) (suffixes : List Suffix)
  | field (offset : Nat) (name : String) (pattern : Pattern)
  /-- No named node may stand before what the pattern takes. -/
  | anchored (pattern : Pattern)
  /-- The place of a predicate, which takes no node. -/
  | predicate (offset : Nat)
deriving Repr, Inhabited

inductive Argument where
  | capture (index : Nat)
  | text (value : String)
deriving Repr, DecidableEq

structure PredicateCall where
  name : String
  arguments : List Argument
deriving Repr, DecidableEq

structure Clause where
  offset : Nat
  pattern : Pattern
  predicates : List PredicateCall
deriving Repr, Inhabited

end SyntaxQuery.Query
