import SyntaxQuery.Condition
import SyntaxQuery.Match

/-! Checking the conditions of a match against text fetched from a provider. Checking never fails:
missing or short text is compared as it is, and a condition on an unbound capture holds. -/
namespace SyntaxQuery

/-- Two buffers, since comparing two captures needs both texts at once. -/
structure Evaluator where
  left : Assembler
  right : Assembler
deriving Repr, DecidableEq

/-- Every item passes; the first that fails ends the search. -/
def allPass (test : α → τ → Bool × τ) : List α → τ → Bool × τ
  | [], t => (true, t)
  | item :: items, t =>
    match test item t with
    | (true, t) => allPass test items t
    | (false, t) => (false, t)

/-- Some item passes; the first that does ends the search. -/
def somePasses (test : α → τ → Bool × τ) : List α → τ → Bool × τ
  | [], t => (false, t)
  | item :: items, t =>
    match test item t with
    | (true, t) => (true, t)
    | (false, t) => somePasses test items t

/-- Without items either quantifier is satisfied. -/
def Quantifier.passes (quantifier : Quantifier) (test : α → τ → Bool × τ) (items : List α) (t : τ) :
    Bool × τ :=
  match quantifier with
  | .all => allPass test items t
  | .any => if items.isEmpty then (true, t) else somePasses test items t

namespace Evaluator

def new : Evaluator := ⟨.new, .new⟩

def testNode (accepts : Bytes → Bool) (p : Provider σ) (node : Span) (t : Evaluator × σ) :
    Bool × Evaluator × σ :=
  let (evaluator, s) := t
  let (left, s) := evaluator.left.assemble node p s
  (accepts left.buffer, { evaluator with left := left }, s)

def comparePair (negated : Bool) (p : Provider σ) (pair : Span × Span) (t : Evaluator × σ) :
    Bool × Evaluator × σ :=
  let (evaluator, s) := t
  let (left, s) := evaluator.left.assemble pair.1 p s
  let (right, s) := evaluator.right.assemble pair.2 p s
  ((left.buffer == right.buffer) != negated, ⟨left, right⟩, s)

/-- Two captures are compared node by node in order; nodes without a partner are not compared. -/
def check (m : Match) (p : Provider σ) (condition : Condition) (t : Evaluator × σ) :
    Bool × Evaluator × σ :=
  let nodes := m.nodesFor condition.capture
  let negated := condition.negated
  match condition.test with
  | .equals literal =>
    condition.quantifier.passes (testNode (fun text => (text == literal) != negated) p) nodes t
  | .search regex =>
    condition.quantifier.passes (testNode (fun text => regex.isMatch text != negated) p) nodes t
  | .sameAs other =>
    condition.quantifier.passes (comparePair negated p) (nodes.zip (m.nodesFor other)) t

def evaluate (evaluator : Evaluator) (m : Match) (conditions : List Condition) (p : Provider σ)
    (s : σ) : Bool × Evaluator × σ :=
  allPass (check m p) conditions (evaluator, s)

end Evaluator

end SyntaxQuery
