import SyntaxQuery.Query.Pattern

/-! Patterns as programs. A pattern becomes a run of steps, each of which takes one node at a depth
below the pattern's start; repetitions and choices become jumps between steps. All patterns of a
query share one array of steps, each run closed by a step that finishes. -/
namespace SyntaxQuery.Query

inductive Role where
  /-- Takes one node. -/
  | take
  /-- Takes nothing; the pattern goes on behind it and, as another possibility, at its alternative. -/
  | again
  /-- Takes nothing; the pattern goes on at its alternative. -/
  | jump
  | finish
deriving Repr, DecidableEq, Inhabited

structure Step where
  role : Role
  test : NodeTest
  depth : Nat
  /-- Whether the node must follow immediately on what was taken before. -/
  anchored : Bool
  /-- Whether the node must be the last named child. -/
  closed : Bool
  field : Option String
  absent : List String
  captures : List Nat
  alternative : Option Nat
deriving Repr, Inhabited

namespace Step

def plain (test : NodeTest) (depth : Nat) (anchored : Bool) : Step :=
  ⟨.take, test, depth, anchored, false, none, [], [], none⟩

/-- Deeper than any node: no step lies below the finish, and no node can be taken there. -/
def beyond : Nat := UInt16.size - 1

def finish : Step := { plain .anything beyond false with role := .finish }

def isFinish (step : Step) : Bool := step.role == .finish

def isWildcard (step : Step) : Bool := step.test.kind.isNone

/-- Whether the step lies below a step at `depth`. -/
def isBelow (step : Step) (depth : Nat) : Bool := !step.isFinish && depth < step.depth

/-- A step has at most three captures. -/
def capture (step : Step) (index : Nat) : Step :=
  { step with captures := (step.captures ++ [index]).take 3 }

end Step

/-- Steps in the making, and for each step where a pattern starts, its offset in the text. -/
structure Code where
  steps : Array Step
  marks : List (Nat × Nat)

namespace Code

def size (code : Code) : Nat := code.steps.size

def push (code : Code) (step : Step) : Code := { code with steps := code.steps.push step }

/-- Notes the offset of the next step; the first pattern that starts there counts. -/
def mark (code : Code) (offset : Nat) : Code :=
  if code.marks.any (·.1 == code.size) then code
  else { code with marks := code.marks ++ [(code.size, offset)] }

def modify (code : Code) (index : Nat) (change : Step → Step) : Code :=
  { code with steps := code.steps.modify index change }

def alternative? (code : Code) (index : Nat) : Option Nat :=
  (code.steps[index]?).bind (·.alternative)

/-- The steps reached from `index` through alternatives that lie further on. -/
def forward (code : Code) : Nat → Nat → List Nat
  | 0, index => [index]
  | fuel + 1, index =>
    match code.alternative? index with
    | some next =>
      if index < next ∧ next < code.size then index :: forward code fuel next else [index]
    | none => [index]

def chain (code : Code) : Nat → Nat → List Nat
  | 0, index => [index]
  | fuel + 1, index =>
    match code.alternative? index with
    | some next => if next < code.size then index :: chain code fuel next else [index]
    | none => [index]

/-- The last step reached from `index` through alternatives below `limit`. -/
def endOfChain (code : Code) (limit : Nat) : Nat → Nat → Nat
  | 0, index => index
  | fuel + 1, index =>
    match code.alternative? index with
    | some next => if next < limit then endOfChain code limit fuel next else index
    | none => index

def repeatFrom (code : Code) (start depth : Nat) : Code :=
  code.push { Step.plain .anything depth false with role := .again, alternative := some start }

/-- Lets the pattern that starts at `start` be passed over: the last of its alternatives below
`limit` gets what comes next as its alternative. -/
def skippable (code : Code) (start limit : Nat) : Code :=
  code.modify (code.endOfChain limit code.size start) fun step =>
    { step with alternative := some code.size }

def suffix (depth start : Nat) (code : Code) : Suffix → Code
  | .oneOrMore => code.repeatFrom start depth
  | .zeroOrMore => (code.repeatFrom start depth).skippable start code.size
  | .zeroOrOne => code.skippable start code.size
  | .capture index =>
    (code.forward code.size start).foldl (fun code at' => code.modify at' (·.capture index)) code

/-- The last child and its alternatives have to take the last named node. -/
def close (code : Code) (child : Nat) : Code :=
  (code.chain code.size child).foldl
    (fun code at' => code.modify at' fun step => { step with closed := true }) code

/-- Joins the branches that start at the given steps. Each branch but the last is followed by a
step that jumps over the rest. -/
def join (code : Code) : List Nat → Code
  | start :: next :: starts =>
    join ((code.modify start fun step => { step with alternative := some next }).modify (next - 1)
      fun step => { step with alternative := some code.size, role := .jump }) (next :: starts)
  | _ => code

end Code

mutual

def Pattern.emit (depth : Nat) (anchored : Bool) : Pattern → Code → Code
  | .node offset test absent children closed suffixes, code =>
    let code := code.mark offset
    let start := code.size
    let code := code.push { Step.plain test depth anchored with absent := absent }
    let (code, last) := Pattern.emitMembers (depth + 1) false children code start
    let code := if closed then code.close last else code
    suffixes.foldl (Code.suffix depth start) code
  | .group offset members suffixes, code =>
    let code := code.mark offset
    let start := code.size
    let (code, _) := Pattern.emitMembers depth anchored members code start
    suffixes.foldl (Code.suffix depth start) code
  | .choice offset branches suffixes, code =>
    let code := code.mark offset
    let start := code.size
    let (code, starts) := Pattern.emitBranches depth anchored branches code
    suffixes.foldl (Code.suffix depth start) (code.join starts)
  | .field offset name pattern, code =>
    let code := code.mark offset
    let start := code.size
    let code := pattern.emit depth anchored code
    (code.forward code.size start).foldl
      (fun code at' => code.modify at' fun step => { step with field := some name }) code
  | .anchored pattern, code => pattern.emit depth true code
  | .predicate offset, code => code.mark offset

/-- The first member is anchored if the whole is. Gives the step where the last member starts; a
member without steps counts as the step before it. -/
def Pattern.emitMembers (depth : Nat) (anchored : Bool) :
    List Pattern → Code → Nat → Code × Nat
  | [], code, last => (code, last)
  | member :: members, code, _ =>
    let emitted := member.emit depth anchored code
    Pattern.emitMembers depth false members emitted
      (if emitted.size = code.size then code.size - 1 else code.size)

/-- A placeholder stands between two branches. -/
def Pattern.emitBranches (depth : Nat) (anchored : Bool) :
    List Pattern → Code → Code × List Nat
  | [], code => (code, [])
  | [branch], code => (branch.emit depth anchored code, [code.size])
  | branch :: branches, code =>
    let emitted := (branch.emit depth anchored code).push (Step.plain .anything depth false)
    let (last, starts) := Pattern.emitBranches depth anchored branches emitted
    (last, code.size :: starts)

end

structure Entry where
  step : Nat
  /-- Whether everything that the pattern takes lies below its first node. -/
  rooted : Bool
deriving Repr, Inhabited

structure Run where
  start : Nat
  stop : Nat
  entries : List Entry
deriving Repr, Inhabited

def stepAt (steps : Array Step) (index : Nat) : Step := steps[index]?.getD .finish

/-- Whether no later step of the pattern lies at the depth of its entry. -/
def isRooted (steps : Array Step) (entry : Nat) : Bool :=
  let first := stepAt steps entry
  let later := (steps.toList.drop (entry + 1)).takeWhile (·.role != .jump)
  first.depth == 0 && later.all (·.depth != 0)

/-- The entries of the pattern that starts at a step. A wildcard without a field whose first child
is of a known kind is entered at that child: it is then enough that the child has a parent. -/
def entriesFrom (steps : Array Step) : Nat → Nat → Option Nat → List Entry
  | 0, _, _ => []
  | fuel + 1, start, pending =>
    let first := stepAt steps start
    let second := stepAt steps (start + 1)
    let entersChild : Bool := first.isWildcard && first.depth == 0 && first.field.isNone &&
    !second.isWildcard && second.depth == 1 && !second.anchored
    let (entry, pending) :=
      if entersChild then (start + 1, first.alternative) else (start, pending)
    let here : Entry := ⟨entry, isRooted steps entry⟩
    match (stepAt steps entry).alternative, pending with
    | some next, _ => here :: entriesFrom steps fuel next pending
    | none, some next => here :: entriesFrom steps fuel next none
    | none, none => [here]

structure Program where
  steps : Array Step
  runs : List Run
  marks : List (Nat × Nat)

def Program.ofClauses (clauses : List Clause) : Program :=
  let (code, runs) := clauses.foldl (fun (state : Code × List Run) clause =>
    let (code, runs) := state
    let emitted := (clause.pattern.emit 0 false code).push .finish
    (emitted, runs ++ [⟨code.size, emitted.size,
      entriesFrom emitted.steps (emitted.size + 1) code.size none⟩])) (⟨#[], []⟩, [])
  ⟨code.steps, runs, code.marks⟩

end SyntaxQuery.Query
