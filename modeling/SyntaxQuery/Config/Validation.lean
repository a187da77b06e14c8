import SyntaxQuery.Config.Basic
import SyntaxQuery.PredicateQuery
import SyntaxQuery.Unicode.Lookup

/-! What is wrong with a configuration before it is compiled. Every problem is found, not only the
first, and each field has at most one. -/
namespace SyntaxQuery

/-- A field that can be at fault; predicates are counted from zero. -/
inductive Site where
  | language
  | query
  | matchLimit
  | byteRange
  | chunkSize
  | capture (predicate : Nat)
  | value (predicate : Nat)
deriving Repr, DecidableEq

def Site.name : Site → String
  | language => "language"
  | query => "query"
  | matchLimit => "cursor.match_limit"
  | byteRange => "cursor.byte_range"
  | chunkSize => "provider.chunk_size"
  | capture _ => "capture"
  | value _ => "value"

def Site.predicate? : Site → Option Nat
  | capture predicate => some predicate
  | value predicate => some predicate
  | _ => none

inductive Flaw where
  | missing
  | zero
  | inverted (start stop : UInt64)
  | rejected (cause : QueryError)
deriving Repr, DecidableEq

structure Issue where
  site : Site
  flaw : Flaw
deriving Repr, DecidableEq

namespace Issue

def subject (issue : Issue) : String :=
  match issue.site.predicate? with
  | some predicate => "predicate #" ++ toString predicate
  | none => "query config"

def invalid (issue : Issue) (reason : String) : String :=
  issue.subject ++ " has invalid '" ++ issue.site.name ++ "': " ++ reason

def message (issue : Issue) : String :=
  match issue.flaw with
  | .missing => issue.subject ++ " missing required field '" ++ issue.site.name ++ "'"
  | .zero => issue.invalid "must be greater than zero"
  | .inverted start stop =>
    issue.invalid ("start " ++ toString start.toNat ++ " is past end " ++ toString stop.toNat)
  | .rejected cause => issue.invalid cause.message

/-- One line for each issue, more if the message of a regex takes more. -/
def report (issues : List Issue) : String := "\n".intercalate (issues.map message)

end Issue

/-- Text without anything but white space counts as not given. -/
def isBlankText (text : String) : Bool := text.toList.all Unicode.isWhiteSpace

namespace PredicateSpec

def captureFlaw? (spec : PredicateSpec) : Option Flaw :=
  if isBlankText spec.capture then some .missing else none

/-- A literal may be empty, the name of a capture may not, and a regex has to compile. -/
def valueFlaw? [RegexCompiler] (spec : PredicateSpec) : StateM RegexCache (Option Flaw) :=
  match spec.kind with
  | .equals => return none
  | .equalsCapture => return if isBlankText spec.value then some .missing else none
  | .matching => do
    match ← (RegexCache.resolve spec.value).run with
    | .ok _ => return none
    | .error cause => return some (.rejected cause)

def issues [RegexCompiler] (spec : PredicateSpec) (index : Nat) : StateM RegexCache (List Issue) := do
  return (spec.captureFlaw?.map (⟨.capture index, ·⟩)).toList ++
    ((← spec.valueFlaw?).map (⟨.value index, ·⟩)).toList

end PredicateSpec

namespace QueryConfig

def languageFlaw? [Engine] (config : QueryConfig) : Option Flaw :=
  if isBlankText config.language then some .missing
  else match Language.resolve config.language with
    | .ok _ => none
    | .error cause => some (.rejected cause)

def queryFlaw? (config : QueryConfig) : Option Flaw :=
  if isBlankText config.query then some .missing else none

def matchLimitFlaw? (config : QueryConfig) : Option Flaw :=
  if config.cursor.matchLimit = some 0 then some .zero else none

def byteRangeFlaw? (config : QueryConfig) : Option Flaw :=
  match config.cursor.byteRange with
  | some (start, stop) => if stop < start then some (.inverted start stop) else none
  | none => none

def chunkSizeFlaw? (config : QueryConfig) : Option Flaw :=
  if config.provider.chunkSize = 0 then some .zero else none

def ownIssues [Engine] (config : QueryConfig) : List Issue :=
  [(Site.language, config.languageFlaw?), (.query, config.queryFlaw?),
    (.matchLimit, config.matchLimitFlaw?), (.byteRange, config.byteRangeFlaw?),
    (.chunkSize, config.chunkSizeFlaw?)].filterMap fun (site, flaw) => flaw.map (⟨site, ·⟩)

def predicateIssues [RegexCompiler] : Nat → List PredicateSpec → StateM RegexCache (List Issue)
  | _, [] => return []
  | index, spec :: specs => do
    return (← spec.issues index) ++ (← predicateIssues (index + 1) specs)

/-- The configuration's own issues come before those of its predicates. -/
def issues [Engine] [RegexCompiler] (config : QueryConfig) : StateM RegexCache (List Issue) := do
  return config.ownIssues ++ (← predicateIssues 0 config.predicates)

end QueryConfig

end SyntaxQuery
