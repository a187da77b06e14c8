import SyntaxQuery.Parsing.Fragment
import SyntaxQuery.Text.Utf8

/-! Reading the next token. Only tokens that the parser's state allows are looked for; if there is
none of them, all tokens are, and if there is none at all characters are skipped up to the next. -/
namespace SyntaxQuery.Parsing

/-- The characters of a text and how many bytes each takes. A byte that begins no character stands
for one that no token knows. -/
structure Source where
  characters : Array (Char × Nat)
deriving Inhabited

namespace Source

def decode : Nat → Bytes → Array (Char × Nat) → Array (Char × Nat)
  | 0, _, characters => characters
  | fuel + 1, text, characters =>
    match Utf8.next text with
    | .done => characters
    | .scalar c rest => decode fuel rest (characters.push (c, c.utf8Size))
    | .fault _ => decode fuel (text.drop 1) (characters.push ('\ufffd', 1))

def ofBytes (text : Bytes) : Source := ⟨decode (text.length + 1) text #[]⟩

def char? (source : Source) (index : Nat) : Option Char := source.characters[index]?.map (·.1)

/-- The piece of text between two characters. -/
def piece (source : Source) (start stop : Nat) : Length :=
  (List.range (stop - start)).foldl (fun length i =>
    match source.characters[start + i]? with
    | some (c, size) => length ++ .ofChar c size
    | none => length) .zero

def text (source : Source) (start stop : Nat) : String :=
  String.ofList (((source.characters.extract start stop).map (·.1)).toList)

end Source

namespace Scan

structure Candidate where
  token : Nat
  rank : Int
  precision : Nat
  pattern : Pattern

/-- Of tokens that match the same text, the first of those of the highest rank and precision. -/
def highest (candidates : List Candidate) : Option Candidate :=
  candidates.foldl (fun best candidate =>
    match best with
    | some found =>
      if found.rank < candidate.rank ||
          (found.rank == candidate.rank && found.precision < candidate.precision) then
        some candidate
      else best
    | none => some candidate) none

/-- The best match of the candidates from a position on, and where the last character lies that any
of them could take. -/
def run (source : Source) : Nat → Nat → List Candidate → Option (Nat × Nat) → Option (Nat × Nat) × Nat
  | 0, position, _, best => (best, position)
  | fuel + 1, position, candidates, best =>
    let found := highest (candidates.filter (·.pattern.isNullable))
    let best := (found.map fun k => (k.token, position)).or best
    let going := candidates.filter fun k => found.all (·.rank ≤ k.rank)
    match source.char? position with
    | none => (best, position)
    | some c =>
      match (going.map fun k => { k with pattern := k.pattern.derive c }).filter
          (·.pattern != .never) with
      | [] => (best, position)
      | stepped => run source fuel (position + 1) stepped best

def isBlank (c : Char) : Bool := c == ' ' || ('\t' ≤ c && c ≤ '\r')

/-- At the start of a text this character is not part of it. -/
def byteOrderMark : Char := '\ufeff'

inductive Outcome where
  | found (token start stop : Nat)
  /-- Nothing matches; the text has been looked at up to the position. -/
  | none (position : Nat)

/-- The tokens to look for. A keyword is looked for as the word that it looks like. -/
def candidates (grammar : Productions) (allowed : Nat → Bool) (afterBlank : Bool) :
    List Candidate :=
  let wanted := (List.range grammar.tokens.size).filter allowed
  let direct := wanted.filter fun i => (grammar.tokens[i]!).keyword.isNone
  let words := match grammar.word with
    | some word =>
      if direct.contains word || wanted.length == direct.length then [] else [word]
    | none => []
  (words ++ direct).filterMap fun i =>
    let lexeme := (grammar.tokens[i]!).lexeme
    if lexeme.isImmediate && afterBlank then none
    else some ⟨i, lexeme.rank, lexeme.precision, lexeme.pattern⟩

/-- The token that a match of the word is: a keyword where the state allows it. -/
def keyword (grammar : Productions) (allowed : Nat → Bool) (source : Source) (token start stop : Nat) :
    Nat :=
  if grammar.word == some token then
    let text := source.text start stop
    let isMeant (i : Nat) : Bool :=
      (grammar.tokens[i]!).keyword == some text && allowed i
    ((List.range grammar.tokens.size).find? isMeant).getD token
  else token

/-- The token that stands for the end of the text where a token is wanted. -/
def endToken? (grammar : Productions) (allowed : Nat → Bool) : Option Nat :=
  (List.range grammar.tokens.size).find? fun i =>
    allowed i && (grammar.tokens[i]!).kind == .ofToken "\x00"

def once (grammar : Productions) (allowed : Nat → Bool) (source : Source) :
    Nat → Nat → Bool → Outcome
  | 0, position, _ => .none position
  | fuel + 1, position, afterBlank =>
    match source.char? position with
    | none =>
      if allowed grammar.tokens.size then .found grammar.tokens.size position position
      else match endToken? grammar allowed with
        | some token => .found token position position
        | none => .none position
    | some c =>
      match run source (source.characters.size + 1) position
          (candidates grammar allowed afterBlank) none with
      | (some (token, stop), _) =>
        .found (keyword grammar allowed source token position stop) position stop
      | (none, reached) =>
        if isBlank c then once grammar allowed source fuel (position + 1) true
        else if position == 0 && c == byteOrderMark then
          once grammar allowed source fuel (position + 1) afterBlank
        else .none reached

/-- Skips characters until any token follows; gives the end of what is skipped. -/
def skip (grammar : Productions) (allowed : Nat → Bool) (source : Source) : Nat → Nat → Nat
  | 0, position => position
  | fuel + 1, position =>
    match once grammar allowed source (source.characters.size + 1) position false with
    | .found _ _ _ => position
    | .none reached =>
      skip grammar allowed source fuel (if reached == position then reached + 1 else reached)

end Scan

open Scan in
def scan (automaton : Automaton) (source : Source) (state : Nat) (position : Nat) : Fragment :=
  let grammar := automaton.grammar
  let fuel := source.characters.size + 1
  let isAllowed (state token : Nat) : Bool := !(automaton.actions state token).isEmpty
  let allowedIn (state : Nat) : Nat → Bool :=
    let allowed := (Array.range (grammar.tokens.size + 1)).map (isAllowed state)
    fun token => allowed[token]!
  let leaf (token start stop : Nat) : Fragment :=
    let part : Part := if token = grammar.tokens.size then .stop else .token token
    let isVisible := (grammar.tokens[token]?.map Token.isVisible).getD false
    .leaf part (source.piece position start) (source.piece start stop) isVisible
  match once grammar (allowedIn state) source fuel position false with
  | .found token start stop => leaf token start stop
  | .none _ =>
    let beacons := allowedIn Automaton.lost
    match once grammar beacons source fuel position false with
    | .found token start stop => leaf token start stop
    | .none reached =>
      let start := position + blanks source position
      let reached := if reached == start then reached + 1 else reached
      let stop := skip grammar beacons source fuel reached
      .leaf .error (source.piece position start) (source.piece start stop) true
where
  /-- How many blanks follow a position. -/
  blanks (source : Source) (position : Nat) : Nat :=
    (((source.characters.extract position source.characters.size).toList.takeWhile
      fun entry => isBlank entry.1)).length

end SyntaxQuery.Parsing
