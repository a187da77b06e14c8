import Std.Data.HashMap
import SyntaxQuery.Parsing.Production

/-! The states of a parser and its actions. A state is a set of positions in productions, each with
the tokens that may follow the production; states are built when they are first reached. Sets of
tokens are written as the bits of a number, the end of the text being the bit behind all tokens. -/
namespace SyntaxQuery.Parsing

open Grammar (Rank)

structure Item where
  production : Nat
  dot : Nat
  ahead : Nat
deriving Repr, DecidableEq, Inhabited, Hashable

structure State where
  kernel : Array Item
  /-- For each rule that may begin here, what may follow it; zero if it may not begin. -/
  begun : Array Nat
deriving Inhabited

structure Automaton where
  grammar : Productions
  /-- The productions that are empty, and those that begin with a symbol. -/
  emptyOnes : List Nat
  beginning : Std.HashMap Symbol (List Nat)
  /-- The tokens that a rule may begin with. -/
  first : Array Nat
  /-- The rules that a rule may begin with and what follows them there; `none` where it is what
  follows the rule itself. -/
  corners : Array (List (Nat × Option Nat))
  states : Array State
  index : Std.HashMap (Array Item) Nat
  moves : Std.HashMap (Nat × Symbol) Nat
deriving Inhabited

inductive Action where
  | shift (isRepetition : Bool)
  | shiftExtra
  | reduce (production : Nat)
  | accept
  /-- While the parser is lost, every token is a chance to find back. -/
  | recover
deriving Repr, DecidableEq, Inhabited

namespace Automaton

def bit (index : Nat) : Nat := 1 <<< index

def has (set index : Nat) : Bool := set.testBit index

def production (automaton : Automaton) (index : Nat) : Production :=
  automaton.grammar.productions[index]!

def stopBit (automaton : Automaton) : Nat := automaton.grammar.tokens.size

def lost : Nat := 0
def start : Nat := 1

def firstOf (first : Array Nat) : Symbol → Nat
  | .token index => bit index
  | .rule index => first[index]!

def firstRound (productions : Array Production) (first : Array Nat) : Array Nat :=
  productions.foldl (fun first p =>
    match p.steps[0]? with
    | some step => first.modify p.rule (· ||| firstOf first step.symbol)
    | none => first) first

/-- Each round but the last adds a token to some rule. -/
def firstSets (productions : Array Production) : Nat → Array Nat → Array Nat
  | 0, first => first
  | fuel + 1, first =>
    let next := firstRound productions first
    if next == first then first else firstSets productions fuel next

def cornersOf (first : Array Nat) (productions : List Production) : List (Nat × Option Nat) :=
  productions.filterMap fun p =>
    match p.steps[0]?.map Step.symbol with
    | some (.rule index) => some (index, p.steps[1]?.map fun step => firstOf first step.symbol)
    | _ => none

def ofProductions (grammar : Productions) : Automaton :=
  let productions := grammar.productions
  let zeros := Array.replicate grammar.rules.size 0
  let first := firstSets productions (grammar.rules.size * (grammar.tokens.size + 1) + 1) zeros
  let grouped := productions.foldl (fun lists p => lists.modify p.rule (p :: ·))
    (Array.replicate grammar.rules.size [])
  let stepOf (i : Nat) : Option Symbol := (productions[i]!.steps[0]?).map Step.symbol
  let indexes := List.range productions.size
  let beginning : Std.HashMap Symbol (List Nat) := indexes.foldr (fun i found =>
    match stepOf i with
    | some symbol => found.insert symbol (i :: found.getD symbol [])
    | none => found) {}
  ⟨grammar, indexes.filter fun i => (stepOf i).isNone, beginning, first,
    grouped.map (cornersOf first), #[⟨#[], zeros⟩], {}, {}⟩

def nextStep (automaton : Automaton) (item : Item) : Option Step :=
  (automaton.production item.production).steps[item.dot]?

def aheadOf (automaton : Automaton) (item : Item) : Nat :=
  match automaton.nextStep { item with dot := item.dot + 1 } with
  | some step => firstOf automaton.first step.symbol
  | none => item.ahead

/-- Lets the rules on the list hand on what follows them to the rules that they may begin with. -/
def spread (automaton : Automaton) : Nat → List Nat → Array Nat → Array Nat
  | 0, _, begun => begun
  | _, [], begun => begun
  | fuel + 1, rule :: work, begun =>
    let (work, begun) := automaton.corners[rule]!.foldl (fun (work, begun) (corner, ahead) =>
      let wider := begun[corner]! ||| ahead.getD begun[rule]!
      if wider == begun[corner]! then (work, begun) else (corner :: work, begun.set! corner wider))
      (work, begun)
    spread automaton fuel work begun

def close (automaton : Automaton) (kernel : Array Item) : Array Nat :=
  let rules := automaton.grammar.rules.size
  let (work, begun) := kernel.foldl (fun (work, begun) item =>
    match (automaton.nextStep item).map Step.symbol with
    | some (.rule index) =>
      (index :: work, begun.modify index (· ||| automaton.aheadOf item))
    | _ => (work, begun)) ([], Array.replicate rules 0)
  automaton.spread ((rules + 1) * (automaton.stopBit + 2)) work begun

/-- The number of the state with a kernel, which is built if there is none yet. -/
def stateOf (kernel : Array Item) : StateM Automaton Nat := do
  let automaton ← get
  match automaton.index[kernel]? with
  | some index => return index
  | none =>
    let index := automaton.states.size
    set { automaton with
      states := automaton.states.push ⟨kernel, automaton.close kernel⟩
      index := automaton.index.insert kernel index }
    return index

def before (a b : Item) : Bool :=
  a.production < b.production || (a.production == b.production && a.dot ≤ b.dot)

def kernelBehind (automaton : Automaton) (state : State) (symbol : Symbol) : Array Item :=
  let moved := state.kernel.toList.filterMap fun item =>
    if (automaton.nextStep item).map Step.symbol == some symbol then
      some { item with dot := item.dot + 1 }
    else none
  let opened := (automaton.beginning.getD symbol []).filterMap fun index =>
    let ahead := state.begun[(automaton.production index).rule]!
    if ahead == 0 then none else some ⟨index, 1, ahead⟩
  ((moved ++ opened).mergeSort before).toArray

def next (state : Nat) (symbol : Symbol) : StateM Automaton Nat := do
  let automaton ← get
  match automaton.moves[(state, symbol)]? with
  | some index => return index
  | none =>
    let kernel := automaton.kernelBehind automaton.states[state]! symbol
    let index ← if kernel.isEmpty then pure lost else stateOf kernel
    modify fun automaton => { automaton with moves := automaton.moves.insert (state, symbol) index }
    return index

/-! Actions. -/

/-- Of productions that are complete, those that bind tightest. -/
def tightest (automaton : Automaton) (complete : List Nat) : List Nat :=
  let tightness (index : Nat) : Int := (automaton.production index).rank.tightness
  complete.filter fun a => complete.all fun b => tightness b ≤ tightness a

def completeItems (automaton : Automaton) (state : State) (token : Nat) : List Nat :=
  let kernel := state.kernel.toList.filterMap fun item =>
    if (automaton.nextStep item).isNone && has item.ahead token then some item.production else none
  kernel ++ automaton.emptyOnes.filter fun index =>
    has state.begun[(automaton.production index).rule]! token

/-- The productions under way that the token may go on with. -/
def openItems (automaton : Automaton) (state : State) (token : Nat) : List Nat :=
  state.kernel.toList.filterMap fun item =>
    match automaton.nextStep item with
    | some step =>
      if has (firstOf automaton.first step.symbol) token then some item.production else none
    | none => none

def reduction (index : Nat) : Action := if index = 0 then .accept else .reduce index

/-- Whether a shift is kept beside reductions, and whether they are kept beside it. -/
def settle (automaton : Automaton) (reductions shifts : List Nat) : Bool × Bool :=
  let rank (index : Nat) : Rank := (automaton.production index).rank
  let level : Int := ((reductions.head?).map fun index => (rank index).tightness).getD 0
  let isMore := shifts.any fun index => level < (rank index).tightness
  let isLess := shifts.any fun index => (rank index).tightness < level
  if isMore && !isLess then (true, false)
  else if isLess && !isMore then (false, true)
  else if !isMore && !isLess then
    if reductions.all fun index => (rank index).side == .left then (false, true)
    else if reductions.all fun index => (rank index).side == .right then (true, false)
    else (true, true)
  else (true, true)

/-- Reductions come before a shift. A repetition may always end and go on; going on is then only
noted, since its end leads there as well. -/
def actionsOn (automaton : Automaton) (state : State) (token : Nat) : List Action :=
  let reductions := automaton.tightest (automaton.completeItems state token)
  let shifts := automaton.openItems state token
  let ruleOf (index : Nat) : Nat := (automaton.production index).rule
  if shifts.isEmpty then reductions.map reduction
  else if reductions.isEmpty then [.shift false]
  else
    let rules := ((reductions ++ shifts).map ruleOf).eraseDups
    match rules with
    | [rule] =>
      if automaton.grammar.rules[rule]!.isRepetition then
        reductions.map reduction ++ [.shift true]
      else mixed automaton reductions shifts
    | _ => mixed automaton reductions shifts
where
  mixed (automaton : Automaton) (reductions shifts : List Nat) : List Action :=
    let (keepsShift, keepsReductions) := automaton.settle reductions shifts
    (if keepsReductions then reductions.map reduction else []) ++
      if keepsShift then [.shift false] else []

def isExtra (automaton : Automaton) (token : Nat) : Bool := automaton.grammar.extras.contains token

/-- What a parser does with a token in a state. An extra is passed over where it means nothing. -/
def actions (automaton : Automaton) (state token : Nat) : List Action :=
  if state = lost then
    if token = automaton.stopBit then [.recover]
    else if automaton.isExtra token then [.shiftExtra]
    else if automaton.grammar.tokens[token]!.lexeme.isBeacon then [.recover]
    else []
  else
    match automaton.actionsOn automaton.states[state]! token with
    | [] => if automaton.isExtra token then [.shiftExtra] else []
    | found => found

def ofGrammar (grammar : Grammar) (lexicon : Lexicon) : Automaton :=
  let automaton := ofProductions (.ofGrammar grammar lexicon)
  ((stateOf #[⟨0, 0, bit automaton.stopBit⟩]).run automaton).2

end Automaton

end SyntaxQuery.Parsing
