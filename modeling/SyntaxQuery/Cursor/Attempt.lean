import SyntaxQuery.Cursor.Limits
import SyntaxQuery.Query.Structure

/-! Matches in progress. Their number is bounded through the capture lists that they hold: when no
list is left, the attempt that captured the earliest node gives up its own. -/
namespace SyntaxQuery.Cursor

/-- A node that has been captured. The number tells nodes of the same extent apart. -/
structure Captured where
  number : Nat
  capture : Capture
deriving Repr, DecidableEq

structure Attempt where
  pattern : Nat
  /-- The step that the next node has to take. -/
  step : Nat
  /-- The depth at which the pattern starts, as a half word. -/
  startDepth : Nat
  /-- The captures so far, once there has been one. -/
  captures : Option (List Captured)
  /-- Whether only the very next sibling will do. -/
  immediate : Bool
  /-- Whether another attempt may still become a longer match. -/
  rivalled : Bool
  /-- Whether the node that the first step takes has to have a parent. -/
  needsParent : Bool
  dead : Bool
deriving Repr

namespace Attempt

def captured (attempt : Attempt) : List Captured := attempt.captures.getD []

def toMatch (attempt : Attempt) : Match := ⟨attempt.pattern, attempt.captured.map (·.capture)⟩

/-- Of two different nodes the one that starts first comes first, and the longer one if they start
together; nodes of the same extent have no order. -/
def order (left right : Captured) : Ordering :=
  if left.number = right.number then .eq
  else
    let a := left.capture.node
    let b := right.capture.node
    match compare a.start b.start with
    | .eq => compare b.length a.length
    | other => other

/-- Whether each of two lists of captures holds all of the other. -/
def compareCaptures : List Captured → List Captured → Bool × Bool
  | [], [] => (true, true)
  | _ :: _, [] => (true, false)
  | [], _ :: _ => (false, true)
  | a :: as, b :: bs =>
    if a.number = b.number ∧ a.capture.index = b.capture.index then compareCaptures as bs
    else match order a b with
      | .lt => ((compareCaptures as (b :: bs)).1, false)
      | .gt => (false, (compareCaptures (a :: as) bs).2)
      | .eq => (false, false)
termination_by as bs => as.length + bs.length

end Attempt

structure Search where
  limits : Limits
  /-- In ascending order of start depth and pattern. -/
  attempts : List Attempt
  /-- The matches completed by the latest step of the search. -/
  completed : List Attempt
  /-- How many capture lists there are, in use or free. -/
  lists : Nat
  /-- Whether an attempt had to be given up for want of a list. -/
  exceeded : Bool
  /-- The number of the next node. -/
  fresh : Nat

namespace Search

def listsInUse (search : Search) : Nat :=
  (search.attempts ++ search.completed).countP (·.captures.isSome)

/-- The earliest node captured by an attempt that lies in the range and may still be wanted. -/
def earliest? (plan : Query.Plan) (search : Search) (attempt : Attempt) : Option Offset :=
  if attempt.dead ∨ (plan.certainty[attempt.step]?).any (·.toEnd) then none
  else (attempt.captured.find? fun found => !search.limits.range.isAfter found.capture.node).map
    (·.capture.node.start)

/-- The attempt that captured the earliest node; among equals the one of the first pattern. -/
def victim? (plan : Query.Plan) (search : Search) : Option Nat :=
  let candidates := search.attempts.zipIdx.filterMap fun (attempt, index) =>
    (search.earliest? plan attempt).map fun offset => (offset, attempt.pattern, index)
  (candidates.foldl (fun best candidate =>
    match best with
    | none => some candidate
    | some (offset, pattern, _) =>
      if candidate.1 < offset ∨ (candidate.1 = offset ∧ candidate.2.1 < pattern) then
        some candidate
      else best) none).map (·.2.2)

/-- Finds an unused capture list, a new one or that of another attempt, which dies of it. The
attempt at `keep` is not robbed. -/
def claimList (plan : Query.Plan) (search : Search) (keep : Option Nat) : Option Search :=
  if search.listsInUse < search.lists then some search
  else if search.lists < search.limits.matchLimit.toNat then
    some { search with lists := search.lists + 1 }
  else
    match search.victim? plan with
    | some index =>
      if some index = keep then none
      else some { search with
        exceeded := true
        attempts := search.attempts.modify index fun attempt =>
          { attempt with captures := none, dead := true } }
    | none => none

/-- Where a search has failed to find a list, it has exceeded its limit nevertheless. -/
def noteExceeded (search : Search) : Search := { search with exceeded := true }

def attempt? (search : Search) (index : Nat) : Option Attempt := search.attempts[index]?

def set (search : Search) (index : Nat) (attempt : Attempt) : Search :=
  { search with attempts := search.attempts.set index attempt }

def remove (search : Search) (index : Nat) : Search :=
  { search with attempts := search.attempts.eraseIdx index }

/-- Puts a copy of the attempt at `index`, as `change` leaves it, behind that attempt. Without a
list for its captures there is no copy; the second component tells. -/
def copy (plan : Query.Plan) (search : Search) (index : Nat) (change : Attempt → Attempt) :
    Search × Bool :=
  match search.attempt? index with
  | none => (search, false)
  | some attempt =>
    let insert (search : Search) : Search :=
      { search with attempts := search.attempts.insertIdx (index + 1) (change attempt) }
    if attempt.captures.isNone then (insert search, true)
    else match search.claimList plan (some index) with
      | some claimed => (insert claimed, true)
      | none => (search.noteExceeded, false)

/-- Adds captures of a node to the attempt at `index`, which dies if there is no list for them. -/
def capture (plan : Query.Plan) (search : Search) (index number : Nat) (indexes : List Nat)
    (node : Span) : Search :=
  match search.attempt? index with
  | none => search
  | some attempt =>
    if attempt.dead ∨ indexes.isEmpty then search
    else
      let more := indexes.map fun capture => (⟨number, ⟨capture, node⟩⟩ : Captured)
      if attempt.captures.isSome then
        search.set index { attempt with captures := some (attempt.captured ++ more) }
      else match search.claimList plan none with
        | some claimed => claimed.set index { attempt with captures := some more }
        | none => search.noteExceeded.set index { attempt with dead := true }

end Search

end SyntaxQuery.Cursor
