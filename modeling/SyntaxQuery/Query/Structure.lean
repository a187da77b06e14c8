import SyntaxQuery.Grammar.Basic
import SyntaxQuery.Query.Fault
import SyntaxQuery.Query.Program

/-! Which steps of a query are bound to succeed. Each step with children is run through the children
that the grammar allows its kind. A query is refused if the children that it asks for cannot occur
together; where the children may run out before the pattern does, the step reached is uncertain. -/
namespace SyntaxQuery.Query

structure Certainty where
  /-- Whether the step or one below it has a capture. -/
  capturing : Bool
  /-- Whether the step is bound to be taken once its parent is. -/
  inParent : Bool
  /-- Whether the whole pattern is bound to match once the step is reached. -/
  toEnd : Bool
deriving Repr, Inhabited

structure Plan where
  program : Program
  certainty : Array Certainty

namespace Program

def step (program : Program) (index : Nat) : Step := stepAt program.steps index

def below (program : Program) (index : Nat) : List Nat :=
  let depth := (program.step index).depth
  ((List.range program.steps.size).drop (index + 1)).takeWhile fun next =>
    (program.step next).isBelow depth

def parents (program : Program) : List Nat :=
  (List.range program.steps.size).filter fun index =>
    !(program.step index).isWildcard && !(program.below index).isEmpty

/-- Every step is taken to be certain below a step of a known kind, until that is disproved. -/
def initialCertainty (program : Program) : Array Certainty :=
  let covered := (List.range program.steps.size).flatMap fun index =>
    if (program.step index).isWildcard then [] else program.below index
  (Array.range program.steps.size).map fun index =>
    let certain := (program.step index).isFinish || covered.contains index
    ⟨(index :: program.below index).any fun at' => !(program.step at').captures.isEmpty,
      certain, certain⟩

def offsetFrom (program : Program) (index : Nat) : Nat :=
  match program.marks.find? (index ≤ ·.1), program.marks.getLast? with
  | some (_, offset), _ => offset
  | none, some (_, offset) => offset
  | none, none => 0

end Program

/-- Whether a child in the slot may be what the step asks for. -/
def Step.fits (step : Step) (slot : Grammar.Slot) : Bool :=
  (match step.test.kind with
    | some kind => kind == slot.kind
    | none => !step.test.named || slot.kind.named) &&
  (step.field.isNone || step.field == slot.field) &&
  step.test.supertype.all slot.supertypes.contains

/-- Where a pattern stands among the children of a node: the slot of the last child, if there was
one, and the step to come. -/
structure Standing where
  slot : Option Nat
  step : Nat
deriving Repr, DecidableEq

structure Prospect where
  /-- The standings reached. -/
  seen : List Standing
  /-- Whether all steps can be taken. -/
  finished : Bool
  /-- The steps at which the children can run out. -/
  stuck : List Nat

namespace Prospect

/-- The steps to come when `index` has been reached. A step is passed over if it only serves to
repeat; alternatives are looked at only behind a child that was taken, and only further on. -/
def reached (program : Program) (taken : Bool) : Nat → Nat → List Nat
  | 0, _ => []
  | fuel + 1, index =>
    let step := program.step index
    match step.role with
    | .again => reached program taken fuel (index + 1)
    | role =>
      let here := if role == .jump then [] else [index]
      match step.alternative with
      | some next =>
        if taken ∧ index < next then here ++ reached program taken fuel next else here
      | none => here

def behind (program : Program) (index : Nat) : Nat := index + 1 + (program.below index).length

/-- Records a standing, a stop at the end of the children, or the end of the pattern. -/
def arrive (program : Program) (depth : Nat) (slot : Option Nat) (isLast hasNext : Bool)
    (state : Prospect × List Standing) (index : Nat) : Prospect × List Standing :=
  let (prospect, fresh) := state
  if (program.step index).depth != depth then ({ prospect with finished := true }, fresh)
  else
    let prospect := if isLast then { prospect with stuck := index :: prospect.stuck } else prospect
    let standing : Standing := ⟨slot, index⟩
    if hasNext && !prospect.seen.contains standing then
      ({ prospect with seen := standing :: prospect.seen }, standing :: fresh)
    else (prospect, fresh)

/-- One more child. A child that may stand anywhere is looked at only if it is what the step asks
for, and only between other children. -/
def advance (program : Program) (layout : Grammar.Layout) (extras : List Kind)
    (follow : Array (List Nat)) (prospect : Prospect) (standing : Standing) :
    Prospect × List Standing :=
  let step := program.step standing.step
  let limit := program.steps.size + 1
  let next := match standing.slot with
    | some slot => follow[slot]?.getD []
    | none => layout.first
  let hasNext (slot : Nat) : Bool := !(follow[slot]?.getD []).isEmpty
  let afterSlots := next.foldl (fun state slot =>
    let taken := (layout.slots[slot]?).any step.fits
    let from' := if taken then behind program standing.step else standing.step
    (reached program taken limit from').foldl
      (arrive program step.depth (some slot) (layout.last.contains slot) (hasNext slot)) state)
    (prospect, [])
  match standing.slot with
  | none => afterSlots
  | some _ =>
    if next.isEmpty ∨ !extras.any (fun kind => step.fits ⟨kind, none, []⟩) then afterSlots
    else (reached program true limit (behind program standing.step)).foldl
      (arrive program step.depth standing.slot false true) afterSlots

def explore (program : Program) (layout : Grammar.Layout) (extras : List Kind)
    (follow : Array (List Nat)) : Nat → List Standing → Prospect → Prospect
  | 0, _, prospect => prospect
  | _, [], prospect => prospect
  | fuel + 1, standing :: rest, prospect =>
    let (prospect, fresh) := advance program layout extras follow prospect standing
    explore program layout extras follow fuel (fresh ++ rest) prospect

def ofRule (program : Program) (extras : List Kind) (rule : Grammar.Rule) (parent : Nat) : Prospect :=
  let layout := rule.layout
  let follow := layout.follow.foldl (fun (table : Array (List Nat)) (a, b) =>
    table.modify a (b :: ·)) (Array.replicate layout.slots.length [])
  let start : Standing := ⟨none, parent + 1⟩
  let limit := (layout.slots.length + 1) * (program.steps.size + 1) + 1
  explore program layout extras follow limit [start] ⟨[start], false, []⟩

end Prospect

def checkParent (grammar : Grammar) (program : Program) (parent : Nat) : Except Fault (List Nat) :=
  match (program.step parent).test.kind with
  | none => .ok []
  | some kind =>
    if kind = .error then .ok []
    else match grammar.rule? kind with
      | none => .error (.at .impossible (program.offsetFrom (parent + 1)))
      | some rule =>
        let prospect := Prospect.ofRule program grammar.extras rule parent
        if prospect.finished then
          .ok (prospect.stuck.filter fun index => (program.below parent).contains index &&
            (program.step index).role != .jump)
        else
          let last := prospect.stuck.foldl max parent
          .error (.at .impossible (program.offsetFrom last))

/-- Below a supertype, a step of a known kind has to ask for one of its members. -/
def checkMembers (grammar : Grammar) (program : Program) : Except Fault Unit :=
  (List.range program.steps.size).forM fun index =>
    let step := program.step index
    match step.test.supertype, step.test.kind with
    | some supertype, none =>
      let members := (grammar.members? supertype).getD []
      (program.below index).forM fun child =>
        match (program.step child).test.kind with
        | some kind =>
          if grammar.checksMembers ∧ !members.contains kind then
            .error (.at .impossible (program.offsetFrom child))
          else .ok ()
        | none => .ok ()
    | _, _ => .ok ()

/-- Whether the step at `index` or one of its later alternatives is certain. -/
def someAlternativeCertain (program : Program) (certainty : Array Certainty) (from' : Nat) :
    Nat → Nat → Bool
  | 0, _ => false
  | fuel + 1, index =>
    if (certainty[index]?).any (·.toEnd) then true
    else match (program.step index).alternative with
      | some next =>
        if next < from' then false else someAlternativeCertain program certainty from' fuel next
      | none => false

def spreadOnce (program : Program) (certainty : Array Certainty) : Array Certainty :=
  (List.range program.steps.size).reverse.foldl (fun certainty index =>
    if index = 0 ∨ (program.step index).isFinish then certainty
    else if someAlternativeCertain program certainty index program.steps.size index then certainty
    else
      let before := program.step (index - 1)
      if before.role == .jump || before.isFinish then certainty
      else certainty.modify (index - 1) fun known => { known with toEnd := false }) certainty

/-- Each round but the last makes a step uncertain, so as many rounds as steps are enough. -/
def spread (program : Program) : Nat → Array Certainty → Array Certainty
  | 0, certainty => certainty
  | rounds + 1, certainty => spread program rounds (spreadOnce program certainty)

/-- The certainty of every step. A step whose captures a predicate reads may still be turned down
by the predicate. -/
def analyse (grammar : Grammar) (program : Program) (clauses : List Clause) :
    Except Fault (Array Certainty) := do
  checkMembers grammar program
  let stuck ← program.parents.mapM (checkParent grammar program)
  let certainty := stuck.flatten.foldl (fun (certainty : Array Certainty) index =>
    certainty.modify index fun known => { known with inParent := false, toEnd := false })
    program.initialCertainty
  let read (clause : Clause) : List Nat := clause.predicates.flatMap fun call =>
    call.arguments.filterMap fun
      | .capture index => some index
      | .text _ => none
  let certainty := (program.runs.zip clauses).foldl (fun certainty (run, clause) =>
    let indexes := read clause
    ((List.range run.stop).drop run.start).foldl (fun (certainty : Array Certainty) index =>
      if (program.step index).captures.any indexes.contains then
        certainty.modify index fun known => { known with toEnd := false }
      else certainty) certainty) certainty
  return spread program program.steps.size certainty

end SyntaxQuery.Query
