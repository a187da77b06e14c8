import SyntaxQuery.Grammar.Rule

/-! Grammars: the vocabulary that a query over a language may use, and the rules that say which
children a node can have. -/
namespace SyntaxQuery

structure Grammar.Variant where
  name : String
  kind : String
  rule : Grammar.Rule

structure Grammar where
  /-- The kind of the root of every tree. -/
  root : String
  /-- The rules of the kinds that have children. -/
  rules : List (String × Grammar.Rule)
  variants : List Grammar.Variant
  /-- Kinds that no rule mentions, and kinds that may stand between any two children. -/
  others : List Kind
  extras : List Kind
  /-- Whether a query is refused that asks for a node as a member of a supertype it is not in. -/
  checksMembers : Bool

namespace Grammar

def rulesOf (grammar : Grammar) (name : String) : List Rule :=
  (grammar.rules.lookup name).toList ++
    (grammar.variants.filter (·.kind == name)).map (·.rule)

def rule? (grammar : Grammar) (kind : Kind) : Option Rule :=
  match if kind.named then grammar.rulesOf kind.name else [] with
  | [] => none
  | rules => some (.oneOf rules)

def slots (grammar : Grammar) : List Slot :=
  (grammar.rules.map (·.2) ++ grammar.variants.map (·.rule)).flatMap fun rule => rule.layout.slots

def kinds (grammar : Grammar) : List Kind :=
  (grammar.rules.map fun entry => Kind.ofName entry.1) ++ grammar.others ++ grammar.extras ++
    grammar.slots.map (·.kind)

def hasKind (grammar : Grammar) (kind : Kind) : Bool := grammar.kinds.contains kind

def hasField (grammar : Grammar) (name : String) : Bool :=
  grammar.slots.any (·.field == some name)

def supertypes (grammar : Grammar) : List (String × List Kind) :=
  grammar.rules.flatMap fun entry => entry.2.supertypes

/-- What a supertype directly stands for; `none` if the name is no supertype. -/
def members? (grammar : Grammar) (name : String) : Option (List Kind) :=
  grammar.supertypes.lookup name

end Grammar

end SyntaxQuery
