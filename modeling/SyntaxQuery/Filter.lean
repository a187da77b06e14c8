import SyntaxQuery.Evaluator

/-! Matches filtered by their conditions, one pull at a time. Candidates come from a source; those
whose conditions fail are counted and dropped. Text is fetched only for candidates that are
pulled. -/
namespace SyntaxQuery

/-- A source of candidates. A pull is handed the captures of the candidate before and leaves those of
the next one, whose pattern it answers. A source may itself use the provider, and it may produce
candidates again after it had none. -/
structure MatchSource (σ π : Type) where
  next : σ → List Capture → π → Option Nat × List Capture × σ × π

def MatchSource.replay (π : Type) : MatchSource (List (Option Match)) π where
  next
    | [], captures, provider => (none, captures, [], provider)
    | none :: rest, captures, provider => (none, captures, rest, provider)
    | some candidate :: rest, _, provider =>
      (some candidate.pattern, candidate.captures, rest, provider)

structure Filter (σ π : Type) where
  source : σ
  provider : π
  evaluator : Evaluator
  /-- The latest candidate; each pull writes over it. -/
  current : Match
  /-- Whether `current` is the match of the latest advance. -/
  hasCurrent : Bool
  /-- Set for good once the source had nothing. -/
  finished : Bool
  accepted : Nat
  rejected : Nat

namespace Filter

def new (source : σ) (provider : π) : Filter σ π :=
  ⟨source, provider, .new, ⟨0, []⟩, false, false, 0, 0⟩

def get (filter : Filter σ π) : Option Match :=
  if filter.hasCurrent then some filter.current else none

/-- Pulls one candidate and checks it. `true` ends the search: the candidate passed, or there was
none. -/
def pull (source : MatchSource σ π) (table : PredicateTable) (p : Provider π)
    (filter : Filter σ π) : Bool × Filter σ π :=
  match source.next filter.source filter.current.captures filter.provider with
  | (none, captures, rest, provider) =>
    (true, { filter with
      source := rest, provider := provider, finished := true,
      current := { filter.current with captures := captures } })
  | (some pattern, captures, rest, provider) =>
    let candidate : Match := ⟨pattern, captures⟩
    let (passed, evaluator, provider) :=
      filter.evaluator.evaluate candidate (table.forPattern pattern) p provider
    let pulled := { filter with
      source := rest, provider := provider, evaluator := evaluator, current := candidate }
    if passed then (true, { pulled with hasCurrent := true, accepted := filter.accepted + 1 })
    else (false, { pulled with rejected := filter.rejected + 1 })

/-- Pulls candidates until one passes or the source has none. `none` means that `limit` pulls did
not decide it. -/
def search (source : MatchSource σ π) (table : PredicateTable) (p : Provider π) :
    Nat → Filter σ π → Option (Filter σ π)
  | 0, _ => none
  | limit + 1, filter =>
    match filter.pull source table p with
    | (true, pulled) => some pulled
    | (false, pulled) => search source table p limit pulled

/-- Moves to the next match. Once finished, a filter stays finished and pulls no more. -/
def advance (source : MatchSource σ π) (table : PredicateTable) (p : Provider π) (limit : Nat)
    (filter : Filter σ π) : Option (Filter σ π) :=
  let cleared := { filter with hasCurrent := false }
  if filter.finished then some cleared else search source table p limit cleared

def collect (source : MatchSource σ π) (table : PredicateTable) (p : Provider π) (limit : Nat) :
    Nat → Filter σ π → List Match × Filter σ π
  | 0, filter => ([], filter)
  | pulls + 1, filter =>
    match filter.advance source table p limit with
    | none => ([], filter)
    | some advanced =>
      match advanced.get with
      | none => ([], advanced)
      | some found =>
        let (others, last) := collect source table p limit pulls advanced
        (found :: others, last)

def request (p : Provider π) (filter : Filter σ π) (request : Request) : Bytes × Filter σ π :=
  let (bytes, provider) := p.chunk filter.provider request
  (bytes, { filter with provider := provider })

end Filter

end SyntaxQuery
