import SyntaxQuery.Cursor
import SyntaxQuery.Filter
import SyntaxQuery.PredicateQuery
import SyntaxQuery.Provider.Shared

/-! Running a query over a tree. The raw matches are checked against the predicates in the query's
text before they become candidates of a filter, which checks the attached conditions. Both read text
from one shared provider. -/
namespace SyntaxQuery

namespace Query

/-- The text of a node for a predicate of the query, fetched in one borrow. Where the provider is
lent out already, there is no text. -/
def fetch (r : Responder σ) (node : Span) (t : Assembler × Shared σ) :
    Bytes × Assembler × Shared σ :=
  let (assembler, cell) := t
  match cell.borrow r fun p s => assembler.assemble node p s with
  | (some filled, cell) => (filled.buffer, filled, cell)
  | (none, cell) => ([], assembler, cell)

/-- Asked of all nodes, the first that disagrees decides; asked of any, the first that agrees. With
no such node the answer is yes. -/
def testNodes (r : Responder σ) (accepts : Bytes → Bool) (positive all : Bool) :
    List Span → Assembler × Shared σ → Bool × Assembler × Shared σ
  | [], t => (true, t)
  | node :: nodes, t =>
    let (text, t) := fetch r node t
    let agrees := accepts text == positive
    if agrees == all then testNodes r accepts positive all nodes t else (agrees, t)

/-- As for single nodes, pair by pair; if no pair decides, both captures must have as many nodes. -/
def testPairs (r : Responder σ) (positive all : Bool) :
    List Span → List Span → Assembler × Shared σ → Bool × Assembler × Shared σ
  | left :: lefts, right :: rights, t =>
    let (leftText, t) := fetch r left t
    let (rightText, t) := fetch r right t
    let agrees := (leftText == rightText) == positive
    if agrees == all then testPairs r positive all lefts rights t else (agrees, t)
  | lefts, rights, t => (lefts.isEmpty && rights.isEmpty, t)

def TextPredicate.holds (r : Responder σ) (m : Match) (predicate : TextPredicate)
    (t : Assembler × Shared σ) : Bool × Assembler × Shared σ :=
  match predicate with
  | .sameText left right positive all =>
    testPairs r positive all (m.nodesFor left) (m.nodesFor right) t
  | .equals capture literal positive all =>
    testNodes r (· == literal) positive all (m.nodesFor capture) t
  | .search capture regex positive all =>
    testNodes r regex.isMatch positive all (m.nodesFor capture) t
  | .among capture literals positive =>
    testNodes r literals.contains positive true (m.nodesFor capture) t

def satisfies (r : Responder σ) (query : Query π) (m : Match) (t : Assembler × Shared σ) :
    Bool × Assembler × Shared σ :=
  allPass (TextPredicate.holds r m) (query.predicates[m.pattern]?.getD []) t

end Query

variable [Engine]

structure RawMatches where
  pending : List (Match × Cursor)
  assembler : Assembler
  /-- The cursor as it was when the latest match was found. -/
  cursor : Cursor
  /-- The cursor at the end of the search. -/
  last : Cursor

namespace RawMatches

/-- The first raw match that satisfies the query's own predicates. -/
def pull (r : Responder σ) (query : Query π) (last : Cursor) :
    List (Match × Cursor) → Assembler → Shared σ → Option Match × RawMatches × Shared σ
  | [], assembler, cell => (none, ⟨[], assembler, last, last⟩, cell)
  | (found, cursor) :: pending, assembler, cell =>
    match query.satisfies r found (assembler, cell) with
    | (true, assembler, cell) => (some found, ⟨pending, assembler, cursor, last⟩, cell)
    | (false, assembler, cell) => pull r query last pending assembler cell

def source (r : Responder σ) (query : Query π) : MatchSource RawMatches (Shared σ) where
  next raw captures cell :=
    match pull r query raw.last raw.pending raw.assembler cell with
    | (none, raw, cell) => (none, captures, raw, cell)
    | (some found, raw, cell) => (some found.pattern, found.captures, raw, cell)

end RawMatches

abbrev QueryRun (σ : Type) := Filter RawMatches (Shared σ)

namespace QueryRun

/-- A run with these raw matches before it. The filter and the bridge for the query's own predicates
hold one handle each. -/
def before (raws : List (Match × Cursor)) (cursor last : Cursor) (provider : σ) : QueryRun σ :=
  .new ⟨raws, .new, cursor, last⟩ (Shared.new provider).clone.2

def begin (cursor : Cursor) (query : PredicateQuery) (node : Engine.Node) (provider : σ) : QueryRun σ :=
  let found := Engine.search cursor query.query node
  before found.found found.begun found.ended provider

/-- No pull can take more candidates than this. -/
def limit (run : QueryRun σ) : Nat := run.source.pending.length + 1

/-- At most `pulls` further matches. The provider may ask for text of its own while it answers. -/
def collectFrom (r : Responder σ) (query : PredicateQuery) (pulls : Nat) (run : QueryRun σ) :
    List Match × QueryRun σ :=
  Filter.collect (RawMatches.source r query.query) query.table (Shared.provider r) (limit run) pulls
    run

def collect (p : Provider σ) (query : PredicateQuery) (pulls : Nat) (run : QueryRun σ) :
    List Match × QueryRun σ :=
  collectFrom p.responder query pulls run

def cursor (run : QueryRun σ) : Cursor := run.source.cursor

/-- The run ends: the bridge gives up its handle, and the filter's is the last one. -/
def finish (run : QueryRun σ) : Option σ := ((run.provider.drop 1).intoInner 0).1

end QueryRun

end SyntaxQuery
