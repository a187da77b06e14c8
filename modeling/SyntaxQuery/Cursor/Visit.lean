import SyntaxQuery.Cursor.Attempt
import SyntaxQuery.Grammar.Fit

/-! What a search does at a node. On the way in, attempts are started and those under way are moved
on; on the way out, attempts that needed something more within the node are dropped. -/
namespace SyntaxQuery

namespace Query.Plan

def isFallible (plan : Plan) (index : Nat) : Bool :=
  let step := plan.program.step index
  let next := plan.program.step (index + 1)
  next.isBelow step.depth &&
    (!(plan.certainty[index + 1]?).any (·.inParent) || step.isWildcard)

def wildcardEntries (plan : Plan) : List (Nat × Entry) :=
  plan.program.runs.zipIdx.flatMap fun (run, pattern) =>
    (run.entries.filter fun entry => (plan.program.step entry.step).isWildcard).map (pattern, ·)

/-- The patterns' entries at steps that take nodes of the kind. Of one pattern the last comes
first. -/
def kindEntries (plan : Plan) (kind : Kind) : List (Nat × Entry) :=
  plan.program.runs.zipIdx.flatMap fun (run, pattern) =>
    (run.entries.filter fun entry =>
      (plan.program.step entry.step).test.kind == some kind).reverse.map (pattern, ·)

end Query.Plan

namespace Cursor

structure Site where
  number : Nat
  label : Label
  depth : Nat
  /-- The number and label of the parent; the node at which the search starts has none. -/
  parent : Option (Nat × Label)
  supertypes : List String
  hasLater : Bool
  hasLaterNamed : Bool
  /-- Whether a later sibling has the field of this node. -/
  fieldRecurs : Bool
  /-- The fields of the children. -/
  childFields : List String
  meetsRange : Bool
  parentMeetsRange : Bool

namespace Site

def parentIsError (site : Site) : Bool := site.parent.any (·.2.isError)

end Site

/-- Depths are words: the depth at which a pattern starts wraps around where the node that enters
it lies higher than that. -/
def startDepth (depth stepDepth : Nat) : Nat := (depth + UInt32.size - stepDepth) % UInt32.size

namespace Search

def admits (limits : Limits) (site : Site) (step : Query.Step) (entry : Query.Entry) : Bool :=
  (if entry.rooted then site.meetsRange else site.parentMeetsRange && !site.parentIsError) &&
  (step.field.isNone || step.field == site.label.field) &&
  startDepth site.depth step.depth ≤ limits.maxStartDepth.toNat

/-- The place of a new attempt among the others, counted from the end; `none` if there is one at the
same point of the same pattern. -/
def placeFor (start pattern step : Nat) : List Attempt → Option Nat
  | [] => some 0
  | last :: before =>
    if last.startDepth < start then some 0
    else if last.startDepth = start then
      if last.pattern = pattern ∧ last.step = step then none
      else if last.pattern ≤ pattern then some 0
      else (placeFor start pattern step before).map (· + 1)
    else (placeFor start pattern step before).map (· + 1)

def start (plan : Query.Plan) (site : Site) (search : Search)
    (entry : Nat × Query.Entry) : Search :=
  let step := plan.program.step entry.2.step
  if !admits search.limits site step entry.2 then search
  else
    let start := startDepth site.depth step.depth
    match placeFor start entry.1 entry.2.step search.attempts.reverse with
    | none => search
    | some fromEnd =>
      let attempt : Attempt :=
        ⟨entry.1, entry.2.step, start % UInt16.size, none, true, false, step.depth == 1, false⟩
      { search with
        attempts := search.attempts.insertIdx (search.attempts.length - fromEnd) attempt }

/-- Starts the patterns that the node may be the first of: those that take any node first. An error
can only be asked for by its kind. -/
def startAll (plan : Query.Plan) (site : Site) (search : Search) : Search :=
  let wildcards := if site.label.isError then [] else
    plan.wildcardEntries.filter fun entry =>
      (plan.program.step entry.2.step).test.supertype.isNone || !site.supertypes.isEmpty
  (wildcards ++ plan.kindEntries site.label.kind).foldl (start plan site) search

def «matches» (site : Site) (step : Query.Step) : Bool :=
  (match step.test.kind with
    | some kind => site.label.kind == kind && (!step.test.missing || site.label.missing)
    | none =>
      if step.test.missing then site.label.missing
      else !site.label.isError && (!step.test.named || site.label.kind.named)) &&
  !(step.closed && site.hasLaterNamed) &&
  step.test.supertype.all site.supertypes.contains &&
  (step.field.isNone || step.field == site.label.field) &&
  !step.absent.any site.childFields.contains

/-- Whether a later sibling may be what the step asks for. -/
def laterMayMatch (site : Site) (step : Query.Step) (attempt : Attempt) : Bool :=
  site.hasLater && !(step.anchored && site.label.kind.named) && !attempt.immediate &&
    !(step.field.isSome && step.field == site.label.field && !site.fieldRecurs)

/-- The step from which a pattern was entered at its first child: the nearest one before that is of
the pattern's own depth and takes a node. -/
def skippedStep (plan : Query.Plan) : Nat → Query.Step
  | 0 => plan.program.step 0
  | index + 1 =>
    let step := plan.program.step index
    if step.role == .jump || step.role == .again || 0 < step.depth then skippedStep plan index
    else step

def captureParent (plan : Query.Plan) (site : Site) (index : Nat) (search : Search) :
    Search :=
  match search.attempt? index with
  | none => search
  | some attempt =>
    if !attempt.needsParent then search
    else match site.parent with
      | none => search.set index { attempt with dead := true }
      | some (number, label) =>
        (search.set index { attempt with needsParent := false }).capture plan index number
          (skippedStep plan attempt.step).captures label.span

/-- Follows the alternatives of the attempts from `index` up to `stop`, which are the branches of one
attempt. -/
def branch (plan : Query.Plan) : Nat → Nat → Nat → Search → Search
  | 0, _, _, search => search
  | fuel + 1, index, stop, search =>
    if stop ≤ index then search
    else match search.attempt? index with
      | none => search
      | some attempt =>
        let step := plan.program.step attempt.step
        match step.alternative with
        | none => branch plan fuel (index + 1) stop search
        | some next =>
          match step.role with
          | .jump => branch plan fuel index stop (search.set index { attempt with step := next })
          | role =>
            let isAgain := role == .again
            let search :=
              if isAgain then search.set index { attempt with step := attempt.step + 1 } else search
            let (search, copied) := search.copy plan index fun copy =>
              { copy with step := next, immediate := isAgain || copy.immediate }
            branch plan fuel (if isAgain then index else index + 1)
              (if copied then stop + 1 else stop) search

/-- Enough for every branch that a pattern without idle loops can take. -/
def branchLimit (plan : Query.Plan) : Nat := (plan.program.steps.size + 2) * (plan.program.steps.size + 2)

def take (plan : Query.Plan) (site : Site) (index : Nat) (step : Query.Step)
    (search : Search) : Search :=
  let search := captureParent plan site index search
  let search := search.capture plan index site.number step.captures site.label.span
  match search.attempt? index with
  | none => search
  | some attempt =>
    if attempt.dead then search.remove index
    else
      let next := plan.program.step (attempt.step + 1)
      let moved := { attempt with
        step := attempt.step + 1
        immediate := step.isWildcard && !step.test.named && next.anchored }
      branch plan (branchLimit plan) index (index + 1) (search.set index moved)

/-- Offers the node to the attempt at `index`. If a later sibling might do as well, a copy of the
attempt passes over the node. -/
def offer (plan : Query.Plan) (site : Site) (index : Nat) (search : Search) : Search :=
  match search.attempt? index with
  | none => search
  | some attempt =>
    let search := search.set index { attempt with rivalled := false }
    let step := plan.program.step attempt.step
    if attempt.startDepth + step.depth ≠ site.depth then search
    else
      let later := laterMayMatch site step attempt
      if !«matches» site step then if later then search else search.remove index
      else
        let splits : Bool := later &&
          ((plan.certainty[attempt.step]?).any (·.capturing) ||
            plan.isFallible attempt.step)
        let search := if splits then (search.copy plan index id).1 else search
        take plan site index step search

/-- Offers the node to the last `count` attempts, one after the other. Attempts that branch off are
put before those still waiting, and are not offered the node again. -/
def offerAll (plan : Query.Plan) (site : Site) : Nat → Search → Search
  | 0, search => search
  | count + 1, search =>
    offerAll plan site count (offer plan site (search.attempts.length - (count + 1)) search)

/-- Compares an attempt with those behind it that have the same start and pattern. Of two at the same
step, the one whose captures the other has too is dropped; at different steps it is marked as
rivalled. Gives the attempt, unless it was dropped, and the others. -/
def rival (attempt : Attempt) : List Attempt → Option Attempt × List Attempt
  | [] => (some attempt, [])
  | other :: others =>
    if other.startDepth ≠ attempt.startDepth ∨ other.pattern ≠ attempt.pattern then
      (some attempt, other :: others)
    else
      let (holdsOther, heldByOther) :=
        Attempt.compareCaptures attempt.captured other.captured
      if holdsOther ∧ attempt.step = other.step then rival attempt others
      else
        let other := { other with rivalled := other.rivalled || holdsOther }
        if heldByOther ∧ attempt.step = other.step then (none, other :: others)
        else
          let (kept, rest) :=
            rival { attempt with rivalled := attempt.rivalled || heldByOther } others
          (kept, other :: rest)

theorem length_rival (attempt : Attempt) (others : List Attempt) :
    (rival attempt others).2.length ≤ others.length := by
  fun_induction rival attempt others <;> grind

/-- Drops dead attempts and those that another one outdoes, and completes those that have finished
and are not rivalled. Gives the attempts that go on and the completed ones. -/
def settle (plan : Query.Plan) : List Attempt → List Attempt × List Attempt
  | [] => ([], [])
  | attempt :: others =>
    if attempt.dead then settle plan others
    else match _ : rival attempt others with
      | (none, rest) => settle plan rest
      | (some kept, rest) =>
        let (going, done) := settle plan rest
        if (plan.program.step kept.step).isFinish && !kept.rivalled then (going, kept :: done)
        else (kept :: going, done)
termination_by attempts => attempts.length
decreasing_by
  all_goals
    have := length_rival attempt others
    grind

def enter (plan : Query.Plan) (site : Site) (search : Search) : Search :=
  let started := startAll plan site search
  let offered := offerAll plan site started.attempts.length started
  let (going, done) := settle plan offered.attempts
  { offered with attempts := going, completed := done }

def descends (plan : Query.Plan) (site : Site) (search : Search) : Bool :=
  (site.meetsRange && site.depth < search.limits.maxStartDepth.toNat) ||
  search.attempts.any fun attempt =>
    let step := plan.program.step attempt.step
    !step.isFinish && site.depth < attempt.startDepth + step.depth

/-- The way out of a node at `depth`. Attempts that started within it and have finished are
completed, since nothing longer can come. -/
def leave (plan : Query.Plan) (depth : Nat) (search : Search) : Search :=
  let isDone (attempt : Attempt) : Bool := (plan.program.step attempt.step).isFinish
  let completes (attempt : Attempt) : Bool :=
    isDone attempt && (depth < attempt.startDepth || depth == 0)
  let fails (attempt : Attempt) : Bool :=
    !isDone attempt && depth < attempt.startDepth + (plan.program.step attempt.step).depth
  { search with
    attempts := search.attempts.filter fun attempt => !completes attempt && !fails attempt
    completed := search.attempts.filter completes }

end Search

end Cursor

end SyntaxQuery
