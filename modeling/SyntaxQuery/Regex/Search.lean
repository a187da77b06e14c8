import SyntaxQuery.Regex.Meaning
import SyntaxQuery.Text.Utf8

/-! Searching a text. A pattern's meaning becomes an automaton; a search walks over the text once
and keeps, for each place, the states that can be reached there. Each state is entered at most once
per place. -/
namespace SyntaxQuery.Regex

open Unicode

inductive State where
  | accept
  | byte (set : Array (Nat × Nat)) (next : Nat)
  | scalar (set : Array (Nat × Nat)) (next : Nat)
  | look (look : Look) (next : Nat)
  | branch (targets : List Nat)

abbrev Automaton := Array State

namespace Automaton

def add (automaton : Automaton) (state : State) : Nat × Automaton :=
  (automaton.size, automaton.push state)

def times : Nat → (Nat × Automaton → Nat × Automaton) → Nat × Automaton → Nat × Automaton
  | 0, _, entry => entry
  | count + 1, step, entry => times count step (step entry)

/-- A loop: a branch back into the body or on to `next`. -/
def loop (body : Nat → Automaton → Nat × Automaton) (next : Nat) (automaton : Automaton) :
    Nat × Nat × Automaton :=
  let (choice, automaton) := automaton.add (.branch [next])
  let (entry, automaton) := body choice automaton
  (choice, entry, automaton.set! choice (.branch [entry, next]))

end Automaton

def Node.build (next : Nat) (automaton : Automaton) : Node → Nat × Automaton
  | .empty => (next, automaton)
  | .look condition => automaton.add (.look condition next)
  | .byte set => automaton.add (.byte set.toArray next)
  | .scalar set => automaton.add (.scalar set.toArray next)
  | .sequence parts => buildSequence next automaton parts
  | .choice branches =>
    let (entries, automaton) := buildBranches next automaton branches
    automaton.add (.branch entries)
  | .repetition least most inner =>
    let once (entry : Nat × Automaton) : Nat × Automaton := inner.build entry.1 entry.2
    let skippable (entry : Nat × Automaton) : Nat × Automaton :=
      let (body, automaton) := once entry
      automaton.add (.branch [body, next])
    if inner.isZeroWidth then
      if most == some 0 then (next, automaton)
      else if least = 0 then skippable (next, automaton)
      else once (next, automaton)
    else match most with
      | some most =>
        Automaton.times least once (Automaton.times (most - least) skippable (next, automaton))
      | none =>
        let (head, entry, automaton) :=
          Automaton.loop (fun next automaton => inner.build next automaton) next automaton
        if least = 0 then (head, automaton)
        else Automaton.times (least - 1) once (entry, automaton)
where
  buildSequence (next : Nat) (automaton : Automaton) : List Node → Nat × Automaton
    | [] => (next, automaton)
    | node :: nodes =>
      let (rest, automaton) := buildSequence next automaton nodes
      node.build rest automaton
  buildBranches (next : Nat) (automaton : Automaton) : List Node → List Nat × Automaton
    | [] => ([], automaton)
    | node :: nodes =>
      let (entry, automaton) := node.build next automaton
      let (entries, automaton) := buildBranches next automaton nodes
      (entry :: entries, automaton)

def memberWithin (set : Array (Nat × Nat)) (n : Nat) : Nat → Nat → Nat → Bool
  | 0, _, _ => false
  | fuel + 1, low, high =>
    if high ≤ low then false
    else
      let middle := (low + high) / 2
      match set[middle]? with
      | none => false
      | some (first, last) =>
        if n < first then memberWithin set n fuel low middle
        else if last < n then memberWithin set n fuel (middle + 1) high
        else true

def member (set : Array (Nat × Nat)) (n : Nat) : Bool :=
  memberWithin set n (set.size + 1) 0 set.size

/-! Characters around a place. -/

def scalarAt (text : Array UInt8) (place : Nat) : Option (Nat × Nat) :=
  let window := (text.extract place (place + 4)).toList
  match Utf8.next window with
  | .scalar c rest => some (c.toNat, window.length - rest.length)
  | _ => none

/-- Goes back over continuation bytes, at most three. -/
def characterStart (text : Array UInt8) : Nat → Nat → Nat
  | 0, place => place
  | fuel + 1, place =>
    if place > 0 && (text[place]?.any Utf8.isContinuation) then
      characterStart text fuel (place - 1)
    else place

/-- The character before a place: the one that begins at the nearest byte that can begin one. -/
def scalarBefore (text : Array UInt8) (place : Nat) : Option Nat :=
  if place = 0 then none
  else (scalarAt (text.extract 0 place) (characterStart text 3 (place - 1))).map (·.1)

def isAsciiWord (text : Array UInt8) (place : Nat) : Bool :=
  (text[place]?).any fun b => AsciiClass.word.members.contains b.toNat

/-- Whether the word ends or starts may be asked in characters or in ASCII bytes. -/
def wordBefore (words : Array (Nat × Nat)) (unicode : Bool) (text : Array UInt8) (place : Nat) :
    Bool :=
  if unicode then (scalarBefore text place).any (member words)
  else place > 0 && isAsciiWord text (place - 1)

def wordAfter (words : Array (Nat × Nat)) (unicode : Bool) (text : Array UInt8) (place : Nat) :
    Bool :=
  if unicode then (scalarAt text place).any fun found => member words found.1
  else isAsciiWord text place

/-- A place inside a character, or beside bytes that encode none, separates no characters. -/
def soundBefore (text : Array UInt8) (place : Nat) : Bool :=
  place = 0 || (scalarBefore text place).isSome

def soundAfter (text : Array UInt8) (place : Nat) : Bool :=
  place ≥ text.size || (scalarAt text place).isSome

def Look.holds (words : Array (Nat × Nat)) (text : Array UInt8) (place : Nat) (look : Look) : Bool :=
  let before (unicode : Bool) := wordBefore words unicode text place
  let after (unicode : Bool) := wordAfter words unicode text place
  let previous := if place = 0 then none else text[place - 1]?
  let next := text[place]?
  match look with
  | textStart => place = 0
  | textEnd => place ≥ text.size
  | lineStart false => place = 0 || previous == some 10
  | lineEnd false => place ≥ text.size || next == some 10
  | lineStart true => place = 0 || previous == some 10 || (previous == some 13 && next != some 10)
  | lineEnd true =>
    place ≥ text.size || next == some 13 || (next == some 10 && previous != some 13)
  | wordBoundary unicode => before unicode != after unicode
  | notWordBoundary unicode =>
    (!unicode || (soundBefore text place && soundAfter text place)) &&
      before unicode == after unicode
  | wordStart unicode => !before unicode && after unicode
  | wordEnd unicode => before unicode && !after unicode
  | wordStartHalf unicode => (!unicode || soundBefore text place) && !before unicode
  | wordEndHalf unicode => (!unicode || soundAfter text place) && !after unicode

/-! The walk. -/

/-- States waiting at this place and at the four places behind it. A character has at most four
bytes, so none waits further ahead. -/
structure Waiting where
  now : List Nat
  later : List (List Nat)

def Waiting.add (waiting : Waiting) (distance state : Nat) : Waiting :=
  { waiting with later := waiting.later.modify (distance - 1) (state :: ·) }

def Waiting.step (waiting : Waiting) : Waiting :=
  ⟨waiting.later.headD [], waiting.later.tail ++ [[]]⟩

/-- Follows the states on the stack. `seen` holds, for each state, one more than the last place it
was entered at. `none` says that a state accepts. -/
def follow (automaton : Automaton) (words : Array (Nat × Nat)) (text : Array UInt8) (place : Nat) :
    Nat → List Nat → Array Nat → Waiting → Option (Array Nat × Waiting)
  | 0, _, seen, waiting => some (seen, waiting)
  | _ + 1, [], seen, waiting => some (seen, waiting)
  | fuel + 1, state :: stack, seen, waiting =>
    if seen[state]? == some (place + 1) then
      follow automaton words text place fuel stack seen waiting
    else
      let seen := seen.set! state (place + 1)
      match automaton[state]? with
      | none => follow automaton words text place fuel stack seen waiting
      | some .accept => none
      | some (.byte set next) =>
        let hit := (text[place]?).any fun b => member set b.toNat
        follow automaton words text place fuel stack seen
          (if hit then waiting.add 1 next else waiting)
      | some (.scalar set next) =>
        match scalarAt text place with
        | some (n, length) =>
          follow automaton words text place fuel stack seen
            (if member set n then waiting.add length next else waiting)
        | none => follow automaton words text place fuel stack seen waiting
      | some (.look look next) =>
        if look.holds words text place then
          follow automaton words text place fuel (next :: stack) seen waiting
        else follow automaton words text place fuel stack seen waiting
      | some (.branch targets) =>
        follow automaton words text place fuel (targets ++ stack) seen waiting

/-- Edges that lead from state to state at one place; they bound the length of one walk. -/
def edgeCount (automaton : Automaton) : Nat :=
  automaton.foldl (fun n state => n + match state with
    | .branch targets => targets.length + 1
    | _ => 2) 1

def walk (automaton : Automaton) (words : Array (Nat × Nat)) (text : Array UInt8)
    (entry edges : Nat) : Nat → Nat → Array Nat → Waiting → Bool
  | rounds, place, seen, waiting =>
    let stack := entry :: waiting.now
    match follow automaton words text place (edges + stack.length) stack seen waiting with
    | none => true
    | some (seen, waiting) =>
      match rounds with
      | 0 => false
      | rounds + 1 => walk automaton words text entry edges rounds (place + 1) seen waiting.step

end SyntaxQuery.Regex
