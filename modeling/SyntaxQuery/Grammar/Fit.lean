import SyntaxQuery.Grammar.Basic
import SyntaxQuery.Tree

/-! How the children of a node fit the rule of its kind. The rule groups the children into clusters
and supertypes, which the tree itself does not show; what a child has after it depends on them. -/
namespace SyntaxQuery.Grammar

inductive Shape where
  | leaf (child : Label)
  | cluster (supertype : Option String) (parts : List Shape)
deriving Repr

structure Standing where
  child : Label
  supertypes : List String
  /-- Whether siblings follow, and whether named ones do. Both are told by the innermost cluster in
  which anything follows. -/
  hasLater : Bool
  hasLaterNamed : Bool
deriving Repr

namespace Shape

def isExtra (label : Label) : Bool := label.extra

/-- The extras that stand here, if they can be part of the cluster: it has begun before them. -/
def leadingExtras (begun : Bool) (children : List Label) : List Shape × List Label :=
  if begun then
    ((children.takeWhile isExtra).map leaf, children.dropWhile isExtra)
  else ([], children)

/-- One or more rounds after another, as many as possible first. -/
def rounds (round : List Label → (List Shape → List Label → Option (List Shape)) →
      Option (List Shape)) :
    Nat → Bool → List Label → (List Shape → List Label → Option (List Shape)) →
      Option (List Shape)
  | 0, _, children, next => next [] children
  | fuel + 1, begun, children, next =>
    let (extras, rest) := leadingExtras begun children
    let further := round rest fun parts left =>
      if left.length < rest.length then
        rounds round fuel true left fun others last =>
          next (extras ++ cluster none parts :: others) last
      else none
    further <|> next [] children

def one (kind : Kind) (begun : Bool) (children : List Label)
    (next : List Shape → List Label → Option (List Shape)) : Option (List Shape) :=
  match leadingExtras begun children with
  | (extras, child :: rest) =>
    if !child.extra && child.kind == kind then next (extras ++ [leaf child]) rest else none
  | (_, []) => none

/-- Fits children to a rule from the left and hands the shapes and the children left over to `next`;
other ways are tried if that fails. Extras are taken up inside a cluster that has begun. -/
def fit : Rule → Bool → List Label → (List Shape → List Label → Option (List Shape)) →
    Option (List Shape)
  | .nothing, _, children, next => next [] children
  | .unseen _, _, children, next => next [] children
  | .child kind, begun, children, next => one kind begun children next
  | .variant _ kind, begun, children, next => one kind begun children next
  | .field _ rule, begun, children, next => fit rule begun children next
  | .ranked _ rule, begun, children, next => fit rule begun children next
  | .seq first second, begun, children, next =>
    fit first begun children fun parts rest =>
      fit second (begun || !parts.isEmpty) rest fun others left => next (parts ++ others) left
  | .either left right, begun, children, next =>
    fit left begun children next <|> fit right begun children next
  | .many rule, begun, children, next =>
    rounds (fun rest done => fit rule false rest done) children.length begun children next
  | .cluster rule, begun, children, next =>
    let (extras, rest) := leadingExtras begun children
    fit rule false rest fun parts left => next (extras ++ [cluster none parts]) left
  | .group name rule, begun, children, next =>
    let (extras, rest) := leadingExtras begun children
    fit rule false rest fun parts left => next (extras ++ [cluster (some name) parts]) left

mutual

def labels : Shape → List Label
  | leaf child => [child]
  | cluster _ parts => labelsOf parts

def labelsOf : List Shape → List Label
  | [] => []
  | part :: parts => part.labels ++ labelsOf parts

end

/-- What follows, level by level from the innermost; the first level with anything in it tells. -/
def later : List (List Label) → Bool × Bool
  | [] => (false, false)
  | level :: levels => if level.isEmpty then later levels else (true, level.any (·.kind.named))

mutual

def standings (supertypes : List String) (levels : List (List Label)) : Shape → List Standing
  | leaf child => [⟨child, supertypes, (later levels).1, (later levels).2⟩]
  | cluster none parts => standingsOf supertypes levels parts
  | cluster (some name) parts => standingsOf (name :: supertypes) levels parts

def standingsOf (supertypes : List String) (levels : List (List Label)) :
    List Shape → List Standing
  | [] => []
  | part :: parts =>
    part.standings supertypes (labelsOf parts :: levels) ++ standingsOf supertypes levels parts

end

end Shape

/-- The children of a node with what follows them. Children that do not fit the rule, such as those
of an error, stand side by side. -/
def standings (grammar : Grammar) (parent : Label) (children : List Label) : List Standing :=
  let shapes := (grammar.rule? parent.kind).bind fun rule =>
    Shape.fit rule true children fun parts rest =>
      if rest.all Shape.isExtra then some (parts ++ rest.map .leaf) else none
  Shape.standingsOf [] [] (shapes.getD (children.map .leaf))

end SyntaxQuery.Grammar
