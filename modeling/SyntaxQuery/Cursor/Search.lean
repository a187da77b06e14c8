import SyntaxQuery.Cursor.Visit
import SyntaxQuery.Engine

/-! Searching a tree for the matches of a plan. What is kept from one search to the next are the limits,
and the capture lists that have been made: later searches may use them even where the limit has been
lowered since. -/
namespace SyntaxQuery.Cursor

structure State where
  limits : Limits
  lists : Nat
  exceeded : Bool
deriving Repr, DecidableEq

structure Progress where
  search : Search
  found : List (Match × State)

namespace Progress

def begin (state : State) : Progress :=
  ⟨⟨state.limits, [], [], state.lists, false, 0⟩, []⟩

def state (progress : Progress) : State :=
  ⟨progress.search.limits, progress.search.lists, progress.search.exceeded⟩

/-- Hands over the matches that are complete; their capture lists are free again. -/
def collect (progress : Progress) : Progress :=
  ⟨{ progress.search with completed := [] },
    progress.found ++ progress.search.completed.map fun attempt =>
      (attempt.toMatch, progress.state)⟩

def step (progress : Progress) (change : Search → Search) : Progress :=
  collect { progress with search := change progress.search }

end Progress

def childSite (limits : Limits) (parent : Site) (child : Tree) (later : List Tree)
    (standing : Option Grammar.Standing) (number : Nat) : Site where
  number := number
  label := child.label
  depth := parent.depth + 1
  parent := some (parent.number, parent.label)
  supertypes := (standing.map (·.supertypes)).getD []
  hasLater := standing.any (·.hasLater)
  hasLaterNamed := standing.any (·.hasLaterNamed)
  fieldRecurs := later.any (·.label.field == child.label.field)
  childFields := child.children.filterMap (·.label.field)
  meetsRange :=
    limits.range.meets child.label.span
      (!limits.range.isAfter parent.label.span && !limits.range.isBefore parent.label.span)
  parentMeetsRange :=
    !limits.range.isAfter parent.label.span && !limits.range.isBefore parent.label.span

/-- The node at which a search starts has no surroundings. -/
def rootSite (limits : Limits) (tree : Tree) : Site where
  number := 0
  label := tree.label
  depth := 0
  parent := none
  supertypes := []
  hasLater := false
  hasLaterNamed := false
  fieldRecurs := false
  childFields := tree.children.filterMap (·.label.field)
  meetsRange := limits.range.meets tree.label.span true
  parentMeetsRange := true

mutual

def walk (grammar : Grammar) (plan : Query.Plan) (site : Site) : Tree → Progress → Progress
  | .node label children, progress =>
    let entered := progress.step fun search =>
      Search.enter plan site { search with fresh := search.fresh + 1 }
    let through :=
      if Search.descends plan site entered.search then
        walkAll grammar plan site children (grammar.standings label (children.map (·.label)))
          entered
      else entered
    through.step (Search.leave plan site.depth)

def walkAll (grammar : Grammar) (plan : Query.Plan) (parent : Site) :
    List Tree → List Grammar.Standing → Progress → Progress
  | [], _, progress => progress
  | child :: later, standings, progress =>
    let site :=
      childSite progress.search.limits parent child later standings.head? progress.search.fresh
    walkAll grammar plan parent later standings.tail (walk grammar plan site child progress)

end

namespace State

def new : State := ⟨.none, 0, false⟩

def setMatchLimit (state : State) (limit : UInt32) : State :=
  { state with limits := { state.limits with matchLimit := limit } }

def setByteRange (state : State) (start stop : Offset) : State :=
  { state with limits := { state.limits with range := state.limits.range.set start stop } }

def setMaxStartDepth (state : State) (depth : Option UInt32) : State :=
  { state with limits := { state.limits with maxStartDepth := depth.getD widest } }

/-- Whether a limit is exceeded is told anew for each search. -/
def search (state : State) (grammar : Grammar) (plan : Query.Plan) (tree : Tree) : Findings State :=
  let done := walk grammar plan (rootSite state.limits tree) tree (.begin state)
  ⟨{ state with exceeded := false }, done.found, done.state⟩

end State

end SyntaxQuery.Cursor
