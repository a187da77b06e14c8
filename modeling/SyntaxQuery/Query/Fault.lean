import SyntaxQuery.Text.Utf8
import SyntaxQuery.Unicode.Lookup

/-! Why a query is refused, and how that is told. -/
namespace SyntaxQuery.Query

inductive Defect where
  | badSyntax
  | unknownKind
  | unknownField
  | unknownCapture
  /-- No tree of the language has the shape that is asked for. -/
  | impossible
deriving Repr, DecidableEq

inductive PredicateDefect where
  | argumentCount (predicate : String) (expected : String) (count : Nat)
  | literalFirst (predicate : String) (literal : String)
  | captureSecond (predicate : String) (capture : String)
  | captureAmongLiterals (predicate : String) (capture : String)
  | secondCapture (predicate : String) (capture : String)
  | thirdArgument (predicate : String) (argument : String)
  | keyMissing (predicate : String)
  | badRegex (pattern : String)
deriving Repr, DecidableEq

inductive Fault where
  | at (defect : Defect) (offset : Nat)
  /-- The row is that of the pattern which the predicate belongs to. -/
  | predicate (row : Nat) (defect : PredicateDefect)
deriving Repr, DecidableEq

namespace PredicateDefect

def message : PredicateDefect → String
  | argumentCount predicate expected count =>
    "Wrong number of arguments to " ++ predicate ++ " predicate. Expected " ++ expected ++ ", got " ++
      toString count ++ "."
  | literalFirst predicate literal =>
    "First argument to " ++ predicate ++ " predicate must be a capture name. Got literal \"" ++ literal ++
      "\"."
  | captureSecond predicate capture =>
    "Second argument to " ++ predicate ++ " predicate must be a literal. Got capture @" ++ capture ++ "."
  | captureAmongLiterals predicate capture =>
    "Arguments to " ++ predicate ++ " predicate must be literals. Got capture @" ++ capture ++ "."
  | secondCapture predicate capture =>
    "Invalid arguments to " ++ predicate ++ " predicate. Unexpected second capture name @" ++ capture
  | thirdArgument predicate argument =>
    "Invalid arguments to " ++ predicate ++ " predicate. Unexpected third argument @" ++ argument
  | keyMissing predicate => "Invalid arguments to " ++ predicate ++ " predicate. Missing key argument"
  | badRegex pattern => "Invalid regex '" ++ pattern ++ "'"

end PredicateDefect

/-- A carriage return before the newline does not belong to the line. -/
def trimReturn (line : Bytes) : Bytes :=
  let bare := if line.getLast? = some Bytes.newline then line.dropLast else line
  if line.getLast? = some Bytes.newline ∧ bare.getLast? = some 13 then bare.dropLast else bare

/-- The line with the offset, the row of that line and where it starts. Each line counts one byte
for its end, so after a line that ends in a carriage return and a newline the count lags by one.
Past the last line there is no line, and the row is one more. -/
def findLine (offset : Nat) : List Bytes → Nat → Nat → Option Bytes × Nat × Nat
  | [], row, start => (none, row, start)
  | line :: lines, row, start =>
    let shown := trimReturn line
    let stop := start + shown.length + 1
    if offset < stop then (some shown, row, start) else findLine offset lines (row + 1) stop

/-- The name that starts at the offset: up to the closing quote if it stands in quotes, and else as
long as there are letters, digits, underscores and hyphens. -/
def quotedName : Bool → List Char → List Char
  | _, [] => []
  | escaped, c :: rest =>
    if c = '"' ∧ !escaped then [] else c :: quotedName (c = '\\' && !escaped) rest

def nameAt (source : Bytes) (offset : Nat) : String :=
  let rest := Utf8.lossy (source.drop offset)
  let inQuotes : Bool := 0 < offset && source[offset - 1]? == some 34
  String.ofList (if inQuotes then quotedName false rest
    else rest.takeWhile fun c => Unicode.isAlphanumeric c || c == '_' || c == '-')

def located (row column : Nat) (text : String) : String :=
  "Query error at " ++ toString (row + 1) ++ ":" ++ toString (column + 1) ++ ". " ++ text

namespace Fault

def message (source : String) : Fault → String
  | predicate row defect => located row 0 ("Invalid predicate: " ++ defect.message)
  | «at» defect offset =>
    let bytes := Bytes.ofString source
    let (line, row, start) := findLine offset bytes.lines 0 0
    let shown := match line with
      | some line => String.ofList (Utf8.lossy line) ++ "\n" ++
          String.ofList (List.replicate (offset - start) ' ') ++ "^"
      | none => "Unexpected EOF"
    located row (offset - start) (match defect with
      | .badSyntax => "Invalid syntax:\n" ++ shown
      | .impossible => "Impossible pattern:\n" ++ shown
      | .unknownKind => "Invalid node type " ++ nameAt bytes offset
      | .unknownField => "Invalid field name " ++ nameAt bytes offset
      | .unknownCapture => "Invalid capture name " ++ nameAt bytes offset)

end Fault

end SyntaxQuery.Query
