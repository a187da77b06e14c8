import SyntaxQuery.Regex.Syntax

/-! What can be wrong with a pattern, and how it is shown: the pattern with carets under the faulty
part, then the message. A pattern of several lines is shown between rules with line numbers. -/
namespace SyntaxQuery.Regex

inductive Defect where
  | classEscapeInvalid
  | classRangeInvalid
  | classRangeLiteral
  | classUnclosed
  | decimalEmpty
  | decimalInvalid
  | escapeHexEmpty
  | escapeHexInvalid
  | escapeHexInvalidDigit
  | escapeUnexpectedEnd
  | escapeUnrecognized
  | flagDanglingNegation
  | flagDuplicate
  | flagRepeatedNegation
  | flagUnexpectedEnd
  | flagUnrecognized
  | groupNameDuplicate
  | groupNameEmpty
  | groupNameInvalid
  | groupNameUnexpectedEnd
  | groupUnclosed
  | groupUnopened
  | nestLimitExceeded (limit : Nat)
  | repetitionCountInvalid
  | repetitionCountDecimalEmpty
  | repetitionCountUnclosed
  | repetitionMissing
  | specialWordBoundaryUnclosed
  | specialWordBoundaryUnrecognized
  | specialWordOrRepetitionUnexpectedEnd
  | propertyNameInvalid
  | unsupportedBackreference
  | unsupportedLookAround
  | unicodeNotAllowed
  | propertyNotFound
  | propertyValueNotFound
deriving Repr, DecidableEq

def Defect.message : Defect → String
  | classEscapeInvalid => "invalid escape sequence found in character class"
  | classRangeInvalid => "invalid character class range, the start must be <= the end"
  | classRangeLiteral => "invalid range boundary, must be a literal"
  | classUnclosed => "unclosed character class"
  | decimalEmpty => "decimal literal empty"
  | decimalInvalid => "decimal literal invalid"
  | escapeHexEmpty => "hexadecimal literal empty"
  | escapeHexInvalid => "hexadecimal literal is not a Unicode scalar value"
  | escapeHexInvalidDigit => "invalid hexadecimal digit"
  | escapeUnexpectedEnd => "incomplete escape sequence, reached end of pattern prematurely"
  | escapeUnrecognized => "unrecognized escape sequence"
  | flagDanglingNegation => "dangling flag negation operator"
  | flagDuplicate => "duplicate flag"
  | flagRepeatedNegation => "flag negation operator repeated"
  | flagUnexpectedEnd => "expected flag but got end of regex"
  | flagUnrecognized => "unrecognized flag"
  | groupNameDuplicate => "duplicate capture group name"
  | groupNameEmpty => "empty capture group name"
  | groupNameInvalid => "invalid capture group character"
  | groupNameUnexpectedEnd => "unclosed capture group name"
  | groupUnclosed => "unclosed group"
  | groupUnopened => "unopened group"
  | nestLimitExceeded limit =>
    "exceed the maximum number of nested parentheses/brackets (" ++ toString limit ++ ")"
  | repetitionCountInvalid => "invalid repetition count range, the start must be <= the end"
  | repetitionCountDecimalEmpty => "repetition quantifier expects a valid decimal"
  | repetitionCountUnclosed => "unclosed counted repetition"
  | repetitionMissing => "repetition operator missing expression"
  | specialWordBoundaryUnclosed =>
    "special word boundary assertion is either unclosed or contains an invalid character"
  | specialWordBoundaryUnrecognized =>
    "unrecognized special word boundary assertion, valid choices are: " ++
      "start, end, start-half or end-half"
  | specialWordOrRepetitionUnexpectedEnd =>
    "found either the beginning of a special word boundary or a bounded repetition on a \\b " ++
      "with an opening brace, but no closing brace"
  | propertyNameInvalid => "invalid Unicode character class"
  | unsupportedBackreference => "backreferences are not supported"
  | unsupportedLookAround => "look-around, including look-ahead and look-behind, is not supported"
  | unicodeNotAllowed => "Unicode not allowed here"
  | propertyNotFound => "Unicode property not found"
  | propertyValueNotFound => "Unicode property value not found"

structure Fault where
  defect : Defect
  extent : Extent
  /-- The earlier part that this one repeats. -/
  earlier : Option Extent
deriving Repr, DecidableEq

/-- Lines and columns count from one. -/
structure Place where
  line : Nat
  column : Nat
deriving Repr, DecidableEq

def Place.of (pattern : List Char) (index : Nat) : Place :=
  let before := pattern.take index
  ⟨before.count '\n' + 1, (before.reverse.takeWhile (· != '\n')).length + 1⟩

/-- The lines without their ends, which are a newline or a carriage return with a newline; a last
line that is empty does not count. -/
def linesOf (text : List Char) : List (List Char) :=
  let pieces := text.foldr (fun c lines =>
    if c == '\n' then [] :: lines
    else match lines with
      | [] => [[c]]
      | line :: rest => (c :: line) :: rest) [[]]
  let ended := pieces.dropLast.map fun line =>
    if line.getLast? == some '\r' then line.dropLast else line
  ended ++ (pieces.getLast?.toList.filter (· != []))

namespace Fault

def places (pattern : List Char) (fault : Fault) : List (Extent × Place × Place) :=
  (fault.extent :: fault.earlier.toList).map fun extent =>
    (extent, .of pattern extent.start, .of pattern extent.stop)

def spaces (count : Nat) : String := String.ofList (List.replicate count ' ')

/-- Carets under each part that lies on one line, from left to right; an empty part gets one. -/
def carets (padding : Nat) (parts : List (Place × Place)) : String :=
  let (text, _) := parts.foldl (fun (text, column) (start, stop) =>
    let gap := start.column - 1 - column
    let width := max 1 (stop.column - start.column)
    (text ++ spaces gap ++ String.ofList (List.replicate width '^'), column + gap + width))
    (spaces padding, 0)
  text

def render (pattern : List Char) (fault : Fault) : String :=
  let lines := linesOf pattern
  let lineCount := lines.length + if pattern.getLast? == some '\n' then 1 else 0
  let numberWidth := if lineCount ≤ 1 then 0 else (toString lineCount).length
  let padding := if numberWidth = 0 then 4 else numberWidth + 2
  let sorted := (fault.places pattern).mergeSort fun a b =>
    a.1.start < b.1.start || (a.1.start == b.1.start && a.1.stop ≤ b.1.stop)
  let noted (number : Nat) : String :=
    match sorted.filter fun (_, start, stop) => start.line == number && stop.line == number with
    | [] => ""
    | parts => carets padding (parts.map (·.2)) ++ "\n"
  let shown := (lines.zipIdx 1).map fun (line, number) =>
    let label := if numberWidth = 0 then spaces 4
      else spaces (numberWidth - (toString number).length) ++ toString number ++ ": "
    label ++ String.ofList line ++ "\n" ++ noted number
  let rule := if pattern.contains '\n' then String.ofList (List.replicate 79 '~') ++ "\n" else ""
  let spread := (sorted.filter fun (_, start, stop) => start.line != stop.line).map
    fun (_, start, stop) =>
      "on line " ++ toString start.line ++ " (column " ++ toString start.column ++
        ") through line " ++ toString stop.line ++ " (column " ++ toString (stop.column - 1) ++ ")"
  let notes := if pattern.contains '\n' && !spread.isEmpty then
    "\n".intercalate spread ++ "\n" else ""
  "regex parse error:\n" ++ rule ++ String.join shown ++ rule ++ notes ++
    "error: " ++ fault.defect.message

end Fault

end SyntaxQuery.Regex
