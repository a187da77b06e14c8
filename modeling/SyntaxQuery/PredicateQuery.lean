import SyntaxQuery.Condition
import SyntaxQuery.Engine
import SyntaxQuery.QueryError
import SyntaxQuery.RegexCache

/-! Queries with conditions attached to their patterns, on top of the predicates in the query's own
text. Attaching checks every reference to a pattern or capture. -/
namespace SyntaxQuery

structure PredicateQuery [Engine] where
  query : Query Engine.Program
  table : PredicateTable

def Language.resolve [Engine] (name : String) : Except QueryError Engine.Language :=
  match Engine.language? name with
  | some language => .ok language
  | none => .error (.unknownLanguage name)

/-- Steps that may fail and that take regexes from the cache, which also a failing step may fill. -/
abbrev Cached (ε : Type) := ExceptT ε (StateM RegexCache)

def RegexCache.resolve [RegexCompiler] (pattern : String) : Cached QueryError Regex :=
  ExceptT.mk fun cache =>
    let (result, cache) := cache.get pattern
    (result.mapError (.invalidRegex pattern ·), cache)

namespace PredicateQuery

variable [Engine]

def ofQuery (query : Query Engine.Program) : PredicateQuery := ⟨query, .new query.patternCount⟩

def compile (language : Engine.Language) (source : String) : Except QueryError PredicateQuery :=
  match Engine.compile language source with
  | .ok query => .ok (ofQuery query)
  | .error report => .error (.invalidQuery source report)

def patternCount (query : PredicateQuery) : Nat := query.query.patternCount

def captureCount (query : PredicateQuery) : Nat := query.query.captureNames.length

/-- One leading at sign is not part of the name. -/
def bareName (name : String) : String :=
  match name.toList with
  | '@' :: rest => String.ofList rest
  | _ => name

/-- The index of a capture, by its name with or without the at sign. -/
def captureIndex (query : PredicateQuery) (name : String) : Except QueryError Nat :=
  match query.query.captureIndex? (bareName name) with
  | some index => .ok index
  | none => .error (.captureNotFound (bareName name))

/-- Attaches a condition behind those that the pattern has. -/
def attach (query : PredicateQuery) (pattern : Nat) (condition : Condition) :
    Except QueryError PredicateQuery :=
  if query.patternCount ≤ pattern then .error (.patternOutOfRange pattern query.patternCount)
  else match condition.references.find? (query.captureCount ≤ ·) with
    | some index => .error (.captureOutOfRange index query.captureCount)
    | none => .ok { query with table := query.table.push pattern condition }

def equals (query : PredicateQuery) (pattern : Nat) (capture : String) (literal : Bytes) :
    Except QueryError PredicateQuery := do
  query.attach pattern (.new (← query.captureIndex capture) (.equals literal))

def «matches» [RegexCompiler] (query : PredicateQuery) (pattern : Nat) (capture regex : String) :
    Cached QueryError PredicateQuery := do
  let index ← query.captureIndex capture
  query.attach pattern (.new index (.search (← RegexCache.resolve regex)))

def equalsCapture (query : PredicateQuery) (pattern : Nat) (capture other : String) :
    Except QueryError PredicateQuery := do
  let index ← query.captureIndex capture
  query.attach pattern (.new index (.sameAs (← query.captureIndex other)))

end PredicateQuery

end SyntaxQuery
