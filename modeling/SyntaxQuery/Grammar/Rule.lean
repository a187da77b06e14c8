import SyntaxQuery.Tree

/-! Grammar rules, seen from the syntax tree: a rule describes the children that a node of some kind
may have. `Rule.layout` lists the places of a rule and which place may follow which, so that the
lists of children that a rule admits are the paths through its places. -/
namespace SyntaxQuery

namespace Grammar

inductive Side where
  | neither
  | left
  | right
deriving Repr, DecidableEq, Inhabited

/-- Which of two rules a text is read by if both fit: the one that binds tighter or, if the text has
two readings as a whole, the one in greater favor. -/
structure Rank where
  tightness : Int
  side : Side
  favor : Int
deriving Repr, DecidableEq, Inhabited

namespace Rank

def none : Rank := ⟨0, .neither, 0⟩

def orElse (a b : Rank) : Rank := if a = none then b else a

end Rank

inductive Rule where
  | nothing
  /-- A token that leaves no child behind. -/
  | unseen (name : String)
  | child (kind : Kind)
  /-- A child that is read in a way of its own, known by another kind. -/
  | variant (source kind : Kind)
  /-- Every child of the rule carries the field. -/
  | field (name : String) (rule : Rule)
  | seq (first second : Rule)
  | either (left right : Rule)
  /-- Any number of times, also none. Each time is a cluster of its own. -/
  | many (rule : Rule)
  /-- Children that belong together without a node of their own. -/
  | cluster (rule : Rule)
  /-- A supertype: its children stand for it in the tree. -/
  | group (name : String) (rule : Rule)
  | ranked (rank : Rank) (rule : Rule)
deriving Repr, DecidableEq, Inhabited

structure Slot where
  kind : Kind
  field : Option String
  /-- The supertypes that the child stands for, innermost first. -/
  supertypes : List String
deriving Repr, DecidableEq, Inhabited

/-- The places of a rule, numbered from the left, and how a list of children runs through them. -/
structure Layout where
  slots : List Slot
  nullable : Bool
  first : List Nat
  last : List Nat
  follow : List (Nat × Nat)

namespace Layout

def shift (by' : Nat) (layout : Layout) : Layout :=
  { layout with
    first := layout.first.map (· + by')
    last := layout.last.map (· + by')
    follow := layout.follow.map fun (a, b) => (a + by', b + by') }

def pairs (starts stops : List Nat) : List (Nat × Nat) :=
  starts.flatMap fun a => stops.map fun b => (a, b)

def nothing : Layout := ⟨[], true, [], [], []⟩

def one (slot : Slot) : Layout := ⟨[slot], false, [0], [0], []⟩

def seq (a b : Layout) : Layout :=
  let b := b.shift a.slots.length
  ⟨a.slots ++ b.slots, a.nullable && b.nullable,
    if a.nullable then a.first ++ b.first else a.first,
    if b.nullable then a.last ++ b.last else b.last,
    a.follow ++ b.follow ++ pairs a.last b.first⟩

def either (a b : Layout) : Layout :=
  let b := b.shift a.slots.length
  ⟨a.slots ++ b.slots, a.nullable || b.nullable, a.first ++ b.first, a.last ++ b.last,
    a.follow ++ b.follow⟩

def many (a : Layout) : Layout :=
  { a with nullable := true, follow := a.follow ++ pairs a.last a.first }

end Layout

namespace Rule

/-- An outer field hides an inner one. -/
def layoutIn (field : Option String) (supertypes : List String) : Rule → Layout
  | nothing | unseen _ => .nothing
  | child kind | variant _ kind => .one ⟨kind, field, supertypes⟩
  | .field name rule => rule.layoutIn (field <|> some name) supertypes
  | seq first second => (first.layoutIn field supertypes).seq (second.layoutIn field supertypes)
  | either left right => (left.layoutIn field supertypes).either (right.layoutIn field supertypes)
  | many rule => (rule.layoutIn field supertypes).many
  | cluster rule | ranked _ rule => rule.layoutIn field supertypes
  | group name rule => rule.layoutIn field (name :: supertypes)

def layout (rule : Rule) : Layout := rule.layoutIn none []

def members : Rule → List Kind
  | nothing | unseen _ => []
  | child kind | variant _ kind => [kind]
  | .field _ rule | many rule | cluster rule | ranked _ rule => rule.members
  | seq a b | either a b => a.members ++ b.members
  | group name _ => [.ofName name]

/-- The supertypes within a rule, each with its members. -/
def supertypes : Rule → List (String × List Kind)
  | nothing | unseen _ | child _ | variant _ _ => []
  | .field _ rule | many rule | cluster rule | ranked _ rule => rule.supertypes
  | seq a b | either a b => a.supertypes ++ b.supertypes
  | group name rule => (name, rule.members) :: rule.supertypes

def token (text : String) : Rule := child (.ofToken text)

def node (name : String) : Rule := child (.ofName name)

def seqs : List Rule → Rule
  | [] => nothing
  | [rule] => rule
  | rule :: rules => seq rule (seqs rules)

def oneOf : List Rule → Rule
  | [] => nothing
  | [rule] => rule
  | rule :: rules => either rule (oneOf rules)

def optional (rule : Rule) : Rule := either rule nothing

def separated (separator rule : Rule) : Rule := seq rule (many (seq separator rule))

def commaSeparated (rule : Rule) : Rule := separated (token ",") rule

def binding (tightness : Int) (side : Side) (rule : Rule) : Rule :=
  ranked ⟨tightness, side, 0⟩ rule

def favored (favor : Int) (rule : Rule) : Rule := ranked ⟨0, .neither, favor⟩ rule

end Rule

end Grammar

end SyntaxQuery
