import SyntaxQuery.Parsing.Scan
import SyntaxQuery.Parsing.Stack

/-! Driving the versions of the stack over a text. Where a version cannot take the next token it
waits; if no other can take it either, the most promising is repaired: by making up a token, by going
back to a state that knows the token, or by skipping it. -/
namespace SyntaxQuery.Parsing

structure Machine where
  source : Source
  automaton : Automaton
  stack : Stack
  finished : Option Fragment
  acceptances : Nat
deriving Inhabited

abbrev Drive := StateM Machine

namespace Drive

def stack : Drive Stack := do return (← get).stack

def modifyStack (change : Stack → Stack) : Drive Unit :=
  modify fun machine => { machine with stack := change machine.stack }

def grammar : Drive Productions := do return (← get).automaton.grammar

def actions (state token : Nat) : Drive (List Action) := do
  return (← get).automaton.actions state token

def next (state : Nat) (symbol : Symbol) : Drive Nat :=
  modifyGet fun machine =>
    let (index, automaton) := (Automaton.next state symbol).run machine.automaton
    (index, { machine with automaton := automaton })

def ofStack (step : Stack → α × Stack) : Drive α :=
  modifyGet fun machine =>
    let (found, stack) := step machine.stack
    (found, { machine with stack := stack })

/-- Merges one version into another; whether that was possible. -/
def merge (a b : Nat) : Drive Bool :=
  ofStack fun stack =>
    match stack.merge? a b with
    | some merged => (true, merged)
    | none => (false, stack)

/-- Merges a version into the first of others that it can be merged into. -/
def mergeIntoAny (candidates : List Nat) (version : Nat) : Drive Bool := do
  match candidates with
  | [] => return false
  | candidate :: rest =>
    if ← merge candidate version then return true
    mergeIntoAny rest version

/-! Comparing versions. -/

structure Standing where
  cost : Nat
  progress : Nat
  favor : Int
  isLost : Bool

def standing (stack : Stack) (version : Nat) : Standing where
  cost := stack.cost version + if (stack.paused? version).isSome then price.node else 0
  progress := stack.progress version
  favor := stack.favor version
  isLost := stack.isLost version

inductive Verdict where
  | takeLeft
  | preferLeft
  | either
  | preferRight
  | takeRight
deriving DecidableEq

/-- How much worse a version may be before it is given up; the more the other has done since its last
error, the sooner. -/
def tolerance : Nat := 18 * price.node

def compare (a b : Standing) : Verdict :=
  if !a.isLost && b.isLost then if a.cost < b.cost then .takeLeft else .preferLeft
  else if a.isLost && !b.isLost then if b.cost < a.cost then .takeRight else .preferRight
  else if a.cost < b.cost then
    if tolerance < (b.cost - a.cost) * (1 + a.progress) then .takeLeft else .preferLeft
  else if b.cost < a.cost then
    if tolerance < (a.cost - b.cost) * (1 + b.progress) then .takeRight else .preferRight
  else if b.favor < a.favor then .preferLeft
  else if a.favor < b.favor then .preferRight
  else .either

/-- Whether a version, at a cost that it would come to, is beaten by another or by a finished tree. -/
def isBeaten (version cost : Nat) : Drive Bool := do
  let machine ← get
  let stack := machine.stack
  let own : Standing := ⟨cost, stack.progress version, stack.favor version, false⟩
  let others := (List.range stack.count).filter fun i =>
    i != version && stack.isActive i && (stack.position version).bytes ≤ (stack.position i).bytes
  return machine.finished.any (·.cost ≤ cost) || others.any fun i =>
    match compare own (standing stack i) with
    | .takeRight => true
    | .preferRight => stack.canMerge i version
    | _ => false

/-- Of two trees for one text the cheaper is taken, then the one in greater favor, and among faulty
ones the later. -/
def isBetterTree (old new : Fragment) : Bool :=
  if new.cost < old.cost then true
  else if old.cost < new.cost then false
  else if old.facts.favor < new.facts.favor then true
  else if new.facts.favor < old.facts.favor then false
  else 0 < old.cost

/-! Reductions. -/

/-- Extras at the end stay outside a node. -/
def splitExtras (fragments : List Fragment) : List Fragment × List Fragment :=
  let extras := (fragments.reverse.takeWhile (·.isExtra)).reverse
  (fragments.take (fragments.length - extras.length), extras)

def mostVersions : Nat := 6

def overflow : Nat := 4

/-- The node that the best of several ways down makes, and the extras behind it. -/
def bestNode (grammar : Productions) (production : Nat) (ways : List (List Fragment)) :
    Fragment × List Fragment :=
  let made := ways.map fun way =>
    let (children, extras) := splitExtras way
    (Fragment.node grammar production children, extras)
  match made with
  | [] => (default, [])
  | first :: rest =>
    rest.foldl (fun best other => if isBetterTree best.1 other.1 then other else best) first

/-- Replaces what a production made by its node. Gives the first version that this leads to, if it is
not merged into another. -/
def reduce (version production : Nat) : Drive (Option Nat) := do
  let before := (← stack).count
  let halted := ((List.range before).filter (← stack).isHalted).length
  let grammar ← grammar
  let rule := grammar.productions[production]!
  let slices ← ofStack fun stack => stack.popCount version rule.steps.size
  let mut removed := 0
  for (landed, ways) in slices do
    let target := landed - removed
    if mostVersions + overflow + halted < target then
      modifyStack (·.remove target)
      removed := removed + 1
    else
      let (node, extras) := bestNode grammar production ways
      let state ← next ((← stack).state target) (.rule rule.rule)
      modifyStack (·.push target (some node) state)
      modifyStack (·.pushAll target extras state)
      let others := (List.range target).filter (· != version)
      if ← mergeIntoAny others target then removed := removed + 1
  return if before < (← stack).count then some before else none

/-- The productions that some tokens allow to reduce, and whether one of the tokens can be shifted. -/
def reductionsOn (state : Nat) (tokens : List Nat) : Drive (List Nat × Bool) := do
  let automaton := (← get).automaton
  let found := tokens.flatMap (automaton.actions state)
  let productions := (found.filterMap fun
    | .reduce production =>
      if (automaton.production production).steps.isEmpty then none else some production
    | _ => none).eraseDups
  let shifts := found.any fun
    | .shift isRepetition => !isRepetition
    | .recover => true
    | _ => false
  return (productions, shifts)

/-- Reduces a version in all possible ways, on one token or on any. With a token only versions that
can shift it are kept; whether there are any. -/
def reduceAll (first : Nat) (token : Option Nat) : Drive Bool := do
  let before := (← stack).count
  let all := List.range (← grammar).tokens.size
  go before (token.elim all ([·])) 100 0 first false
where
  go (before : Nat) (tokens : List Nat) : Nat → Nat → Nat → Bool → Drive Bool
    | 0, _, _, canShift => return canShift
    | fuel + 1, round, version, canShift => do
      let count := (← stack).count
      if count ≤ version then return canShift
      let made := (List.range version).filter (before ≤ ·)
      if ← mergeIntoAny made version then go before tokens fuel (round + 1) version canShift
      else
        let (productions, shifts) ← reductionsOn ((← stack).state version) tokens
        let mut reached : Option Nat := none
        for production in productions do
          reached := (← reduce version production)
        let following := if version = first then count else version + 1
        match shifts, reached with
        | true, _ => go before tokens fuel (round + 1) following true
        | false, some made =>
          if round < mostVersions then
            modifyStack (·.renumber made version)
            go before tokens fuel (round + 1) version canShift
          else go before tokens fuel (round + 1) following canShift
        | false, none =>
          if token.isSome then modifyStack (·.remove version)
          go before tokens fuel (round + 1) following canShift

/-! Ending. -/

/-- Puts the children of the last node that is no extra in its place and makes it the root. -/
def rootOf (fragments : List Fragment) : Option Fragment :=
  let after := (fragments.reverse.takeWhile (·.isExtra)).reverse
  match (fragments.take (fragments.length - after.length)).reverse with
  | [] => none
  | last :: before =>
    some (.gather last.part last.isVisible 0 (before.reverse ++ last.children ++ after))

def finish (root : Fragment) : Drive Unit :=
  modify fun machine =>
    { machine with
      acceptances := machine.acceptances + 1
      finished := match machine.finished with
        | some old => if isBetterTree old root then some root else some old
        | none => some root }

def accept (version : Nat) (ahead : Fragment) : Drive Unit := do
  modifyStack (·.push version (some ahead) Automaton.start)
  for fragments in (← stack).popAll version do
    match rootOf fragments with
    | some root => finish root
    | none => pure ()
  modifyStack (·.setStatus version .halted)

/-! Repairs. -/

/-- Goes back to a state that a version has been in; what has been read since becomes an error. -/
def goBack (version depth goal : Nat) : Drive Bool := do
  let slices ← ofStack fun stack => stack.popCount version depth
  let mut isBack := false
  for (target, ways) in slices do
    if (← stack).state target != goal then modifyStack (·.setStatus target .halted)
    else
      let older ← ofStack fun stack => stack.popError target
      let skipped := ((older.map (·.children)).getD []) ++ (ways.head?.getD [])
      let (children, extras) := splitExtras skipped
      if !children.isEmpty then
        modifyStack (·.push target (some (Fragment.error children).asExtra) goal)
      modifyStack (·.pushAll target extras goal)
      isBack := true
  return isBack

def removeHalted (fuel version : Nat) : Drive Unit := do
  match fuel with
  | 0 => return
  | fuel + 1 =>
    if (← stack).count ≤ version then return
    if (← stack).isActive version then removeHalted fuel (version + 1)
    else
      modifyStack (·.remove version)
      removeHalted fuel version

def tokenOf (ahead : Fragment) : Drive (Option Nat) := do
  match ahead.part with
  | .token index => return some index
  | .stop => return some (← grammar).tokens.size
  | _ => return none

/-- Tries the states that a version has come through for one that knows the token. -/
def tryWaypoints (version token versions : Nat) : List Waypoint → Drive Bool
  | [] => return false
  | waypoint :: rest => do
    let stack ← stack
    let position := stack.position version
    let isTaken := (List.range versions).any fun i =>
      stack.state i == waypoint.state && (stack.position i).bytes == position.bytes
    if waypoint.state = Automaton.lost ∨ waypoint.position.bytes = position.bytes ∨ isTaken then
      tryWaypoints version token versions rest
    else
      let depth := waypoint.depth + if 0 < stack.progress version then 1 else 0
      let cost := stack.cost version + waypoint.depth * price.node +
        (position.bytes - waypoint.position.bytes) * price.byte +
        (position.rows - waypoint.position.rows) * price.line
      if ← isBeaten version cost then return false
      if (← actions waypoint.state token).isEmpty then tryWaypoints version token versions rest
      else if ← goBack version depth waypoint.state then return true
      else tryWaypoints version token versions rest

/-- Adds a token to what a lost version skips. -/
def skipToken (version : Nat) (ahead : Fragment) : Drive Unit := do
  let stack ← stack
  let automaton := (← get).automaton
  let isExtra : Bool := match ahead.part with
    | .token index => automaton.actions Automaton.start index == [.shiftExtra]
    | _ => false
  let skipped := Fragment.skipped [if isExtra then ahead.asExtra else ahead]
  if 0 < stack.progress version then
    let slices ← ofStack fun stack => stack.popCount version 1
    match slices with
    | (target, way :: _) :: _ =>
      modifyStack (·.renumber target version)
      modifyStack (·.push version (some (.skipped (way ++ [skipped]))) Automaton.lost)
    | _ => modifyStack (·.push version (some skipped) Automaton.lost)
  else modifyStack (·.push version (some skipped) Automaton.lost)

/-- Goes on with a lost version: back to a state that knows the token if there is one, and at the same
time past the token. At the end of the text whatever is left is an error. -/
def recover (version : Nat) (ahead : Fragment) : Drive Unit := do
  let before := (← stack).count
  let waypoints := ((← stack).heads[version]!.waypoints).getD []
  let isBack ← match ← tokenOf ahead with
    | some token => tryWaypoints version token before waypoints
    | none => pure false
  removeHalted (← stack).count before
  if ahead.part == .stop then
    modifyStack (·.push version (some (.error [])) Automaton.start)
    accept version ahead
  else if isBack && mostVersions < (← stack).count then
    modifyStack (·.setStatus version .halted)
  else
    let cost := (← stack).cost version + price.node + ahead.total.bytes * price.byte +
      ahead.total.rows * price.line
    if ← isBeaten version cost then modifyStack (·.setStatus version .halted)
    else skipToken version ahead

/-- Tries to make up a token after which the next one would be right. -/
def insertMissing (version : Nat) (ahead : Nat) : List Nat → Drive Bool
  | [] => return false
  | token :: rest => do
    let state := (← stack).state version
    let shifts := (← actions state token).any fun
      | .shift _ => true
      | _ => false
    let after ← if shifts then next state (.token token) else pure Automaton.lost
    let following ← actions after ahead
    let reduces := following.any fun
      | .reduce _ => true
      | _ => false
    if after ≠ Automaton.lost ∧ after ≠ state ∧ reduces then
      let isVisible := (← grammar).tokens[token]!.isVisible
      let tokenCount := (← grammar).tokens.size
      let made := (← stack).count
      modifyStack (·.copy version)
      modifyStack (·.push made (some (.missing token isVisible)) after)
      if ← reduceAll made (if ahead = tokenCount then none else some ahead) then return true
      insertMissing version ahead rest
    else insertMissing version ahead rest

/-- Begins the repair of a version: all that can be reduced is, a token is made up if one fits, and
the rest of the versions made on the way are lost together. -/
def repair (version : Nat) (ahead : Fragment) : Drive Unit := do
  let before := (← stack).count
  let _ ← reduceAll version none
  let count := (← stack).count
  let tokens := List.range (← grammar).tokens.size
  let mut hasInserted := false
  for v in version :: (List.range count).filter (before ≤ ·) do
    if !hasInserted then
      match ← tokenOf ahead with
      | some token => hasInserted ← insertMissing v token tokens
      | none => pure ()
    modifyStack (·.push v none Automaton.lost)
  for _ in List.range (count - before) do
    let _ ← merge version before
  modifyStack (·.survey version)
  recover version ahead

/-! One token. -/

/-- Takes the actions of a state on a token. Whether the token is done with, and the last version
that a reduction has led to. -/
def perform (version : Nat) (ahead : Fragment) : List Action → Option Nat → Bool →
    Drive (Bool × Option Nat × Bool)
  | [], made, hasReduced => return (false, made, hasReduced)
  | action :: rest, made, hasReduced => do
    match action with
    | .shift true => perform version ahead rest made hasReduced
    | .shift false =>
      let state := (← stack).state version
      let symbol ← tokenOf ahead
      let target ← next state (.token (symbol.getD 0))
      modifyStack (·.push version (some ahead) target)
      return (true, none, false)
    | .shiftExtra =>
      let state := (← stack).state version
      modifyStack (·.push version (some ahead.asExtra) state)
      return (true, none, false)
    | .reduce production =>
      let reached ← reduce version production
      perform version ahead rest (reached.or made) true
    | .accept =>
      accept version ahead
      return (true, none, false)
    | .recover =>
      recover version ahead
      return (true, none, false)

/-- Takes one token into a version, with all the reductions that it allows. A word that is no keyword
here is tried as a word. -/
def digest (version : Nat) : Nat → Fragment → Drive Unit
  | 0, _ => modifyStack (·.setStatus version .halted)
  | fuel + 1, ahead => do
    let state := (← stack).state version
    let possible ← match ← tokenOf ahead with
      | some token => actions state token
      | none => pure []
    let (isDone, made, hasReduced) ← perform version ahead possible none false
    if isDone then return
    match made with
    | some reached =>
      modifyStack (·.renumber reached version)
      digest version fuel ahead
    | none =>
      if hasReduced then modifyStack (·.setStatus version .halted)
      else match ← asWord state ahead with
        | some word => digest version fuel word
        | none =>
          if state = Automaton.lost then recover version ahead
          else modifyStack (·.setStatus version (.paused ahead))
where
  asWord (state : Nat) (ahead : Fragment) : Drive (Option Fragment) := do
    let grammar ← grammar
    match ahead, ahead.part, grammar.word with
    | .mk facts children, .token index, some word =>
      if grammar.tokens[index]!.keyword.isSome && !(← actions state word).isEmpty then
        return some (.mk { facts with part := .token word } children)
      else return none
    | _, _, _ => return none

def advance (version : Nat) : Drive Unit := do
  let machine ← get
  let position := machine.stack.position version
  let state := machine.stack.state version
  let ahead := scan machine.automaton machine.source state position.chars
  digest version (10 * (machine.source.characters.size + machine.stack.nodes.size) + 100) ahead

/-! All tokens. -/

/-- Drives a version until it has come further than any before; gives how far. -/
def advanceFar (version : Nat) : Nat → Nat → Drive Nat
  | 0, furthest => return furthest
  | fuel + 1, furthest => do
    if !(← stack).isActive version then return furthest
    advance version
    let position := ((← stack).position version).bytes
    if furthest < position ∨ (0 < version ∧ position = furthest) then return position
    advanceFar version fuel furthest

def advanceEach (fuel : Nat) : Nat → Nat → Nat → Drive Nat
  | 0, _, furthest => return furthest
  | rounds + 1, version, furthest => do
    if (← stack).count ≤ version then return furthest
    let furthest ← advanceFar version fuel furthest
    advanceEach fuel rounds (version + 1) furthest

/-- Compares a version, by the standing that it comes with, with those before it. Versions are merged,
put in the order of their promise, or removed. Gives the version to go on with. -/
def rank (own : Standing) : Nat → Nat → Nat → Drive Nat
  | 0, i, _ => return i
  | fuel + 1, i, j => do
    if i ≤ j then return i + 1
    match compare (standing (← stack) j) own with
    | .takeLeft =>
      modifyStack (·.remove i)
      return i
    | .preferLeft | .either =>
      if ← merge j i then return i
      rank own fuel i (j + 1)
    | .preferRight =>
      if ← merge j i then return i
      modifyStack (·.swap i j)
      rank own fuel i (j + 1)
    | .takeRight =>
      modifyStack (·.remove j)
      rank own fuel (i - 1) j

def sort : Nat → Nat → Option Nat → Drive (Option Nat)
  | 0, _, least => return least
  | fuel + 1, i, least => do
    let stack ← stack
    if stack.count ≤ i then return least
    if stack.isHalted i then
      modifyStack (·.remove i)
      sort fuel i least
    else
      let own := standing stack i
      let least := if own.isLost then least
        else some (match least with
          | some cost => min cost own.cost
          | none => own.cost)
      sort fuel (← rank own 100 i 0) least

/-- Repairs the best version that waits unless a better one can go on; removes the others that wait. -/
def resume : Nat → Nat → Bool → Option Nat → Drive (Option Nat)
  | 0, _, _, least => return least
  | fuel + 1, i, hasActive, least => do
    let stack ← stack
    if stack.count ≤ i then return least
    match stack.paused? i with
    | some ahead =>
      if !hasActive && (← get).acceptances < mostVersions then
        let cost := stack.cost i
        modifyStack (·.setStatus i .active)
        repair i ahead
        resume fuel (i + 1) true (some cost)
      else
        modifyStack (·.remove i)
        resume fuel i hasActive least
    | none => resume fuel (i + 1) true least

def condense : Drive (Option Nat) := do
  let least ← sort 1000 0 none
  modifyStack fun stack => { stack with heads := stack.heads.take mostVersions }
  resume 100 0 false least

def run : Nat → Nat → Drive Unit
  | 0, _ => return
  | fuel + 1, furthest => do
    let source := (← get).source
    let far ← advanceEach (100 * (source.characters.size + 10)) 1000 0 furthest
    let least ← condense
    let isDone := match (← get).finished, least with
      | some tree, some cost => tree.cost < cost
      | some _, none => true
      | none, _ => false
    if isDone || (← stack).count = 0 then return
    run fuel far

end Drive

def Automaton.parse (automaton : Automaton) (source : Source) : Option Fragment :=
  let machine : Machine := ⟨source, automaton, .new, none, 0⟩
  let drive : Drive Unit := Drive.run (20 * (source.characters.size + 10)) 0
  (StateT.run drive machine).2.finished

end SyntaxQuery.Parsing
