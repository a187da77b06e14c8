import SyntaxQuery.Parsing.Automaton
import SyntaxQuery.Parsing.Length

/-! Pieces of a syntax tree while it is built. A piece knows the blanks before it and what the errors
in it cost, so that of several ways to go on after an error the cheapest can be chosen. -/
namespace SyntaxQuery.Parsing

inductive Part where
  | stop
  | token (index : Nat)
  | node (production : Nat)
  | error
  /-- Skipped tokens in the making of an error. -/
  | skipped
deriving Repr, DecidableEq, Inhabited

structure Facts where
  part : Part
  padding : Length
  size : Length
  isVisible : Bool
  isExtra : Bool
  isMissing : Bool
  /-- What the errors inside cost. -/
  cost : Nat
  favor : Int
  /-- Visible children, also those of children that are not visible, and all visible nodes inside. -/
  visibleChildren : Nat
  visibleInside : Nat
deriving Repr, Inhabited

inductive Fragment where
  | mk (facts : Facts) (children : List Fragment)
deriving Inhabited

/-- What it costs to go on after an error, to make up a token, and to skip nodes, bytes and lines. -/
structure Price where
  recovery : Nat
  missing : Nat
  node : Nat
  byte : Nat
  line : Nat

def price : Price := ⟨500, 110, 100, 1, 30⟩

namespace Fragment

def facts : Fragment → Facts
  | mk facts _ => facts

def children : Fragment → List Fragment
  | mk _ children => children

def part (fragment : Fragment) : Part := fragment.facts.part

def isError (fragment : Fragment) : Bool := fragment.part == .error

def isExtra (fragment : Fragment) : Bool := fragment.facts.isExtra

def isVisible (fragment : Fragment) : Bool := fragment.facts.isVisible

def cost (fragment : Fragment) : Nat :=
  if fragment.facts.isMissing then price.missing + price.recovery else fragment.facts.cost

def total (fragment : Fragment) : Length := fragment.facts.padding ++ fragment.facts.size

def asExtra : Fragment → Fragment
  | mk facts children => mk { facts with isExtra := true } children

/-- Visible nodes, and skipped tokens although they are not visible: both are progress. -/
def nodeCount (fragment : Fragment) : Nat :=
  fragment.facts.visibleInside + (if fragment.isVisible then 1 else 0) +
    if fragment.part == .skipped then 1 else 0

def leaf (part : Part) (padding size : Length) (isVisible : Bool) : Fragment :=
  mk ⟨part, padding, size, isVisible, part == .stop, false, 0, 0, 0, 0⟩ []

def missing (token : Nat) (isVisible : Bool) : Fragment :=
  mk ⟨.token token, .zero, .zero, isVisible, false, true, 0, 0, 0, 0⟩ []

def isSkipping (part : Part) : Bool := part == .error || part == .skipped

/-- What a child adds to the cost of an error for being skipped. -/
def skipCost (child : Fragment) : Nat :=
  if child.isExtra || (child.isError && child.children.isEmpty) then 0
  else if child.isVisible then price.node
  else price.node * child.facts.visibleChildren

def sum (children : List Fragment) (f : Fragment → Nat) : Nat :=
  children.foldr (fun child total => f child + total) 0

def padding : List Fragment → Length
  | [] => .zero
  | first :: _ => first.facts.padding

def size : List Fragment → Length
  | [] => .zero
  | first :: rest => rest.foldl (fun size child => size ++ child.total) first.facts.size

/-- A fragment with others for its children. As what the children are shown does not matter here. -/
def gather (part : Part) (isVisible : Bool) (favor : Int) (children : List Fragment) : Fragment :=
  let size := size children
  let inside := sum children fun child => if child.part == .skipped then 0 else child.cost
  let cost :=
    if isSkipping part then
      inside + sum children skipCost + price.recovery + price.byte * size.bytes +
        price.line * size.rows
    else inside
  mk ⟨part, padding children, size, isVisible, false, false, cost,
    children.foldr (fun child total => child.facts.favor + total) favor,
    sum children fun child => if child.isVisible then 1 else child.facts.visibleChildren,
    sum children fun child => child.facts.visibleInside + if child.isVisible then 1 else 0⟩ children

def error (children : List Fragment) : Fragment := gather .error true 0 children

def skipped (children : List Fragment) : Fragment := gather .skipped false 0 children

def node (grammar : Productions) (index : Nat) (children : List Fragment) : Fragment :=
  let production := grammar.productions[index]!
  gather (.node index) grammar.rules[production.rule]!.isVisible production.rank.favor children

end Fragment

end SyntaxQuery.Parsing
