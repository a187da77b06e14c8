import SyntaxQuery.Text.Escape
import SyntaxQuery.Toml.Value

/-! Why a document does not describe what it should, and how that is told: with the place, the line
and what is marked in it. -/
namespace SyntaxQuery.Toml

inductive Defect where
  | wrongType (found : String) (expected : String)
  | wrongInteger (value : Int) (expected : String)
  | wrongLength (length : Nat) (expected : String)
  | missingField (name : String)
  | unknownField (name : String) (expected : List String)
  | unknownVariant (name : String) (expected : List String)
  /-- A variant is a string or a table. -/
  | notVariant
  /-- A variant's table has one entry. -/
  | variantCount (isNone : Bool)
  /-- The entry of a variant's table is an empty table. -/
  | variantContent (found : Option String)
deriving Repr, DecidableEq

inductive Fault where
  /-- The text is no document, for the reason that the reader gives. -/
  | malformed (report : String)
  | at (extent : Extent) (defect : Defect)
deriving Repr, DecidableEq

def Float.describe : Float → String
  | .finite negative magnitude =>
    (if negative then "-" else "") ++ String.ofList magnitude.text
  | .infinite negative => if negative then "-inf" else "inf"
  | .notANumber => "NaN"

def Item.describe : Item → String
  | .scalar _ (.string text) => "string " ++ Text.quoted text
  | .scalar _ (.integer value) => "integer `" ++ toString value ++ "`"
  | .scalar _ (.float value) => "floating point `" ++ value.describe ++ "`"
  | .scalar _ (.boolean value) => "boolean `" ++ toString value ++ "`"
  | .scalar _ .moment => "map"
  | .array _ _ _ => "sequence"
  | .table _ _ _ => "map"

namespace Defect

def ticked (name : String) : String := "`" ++ name ++ "`"

def choice : List String → String
  | [] => "nothing"
  | [name] => ticked name
  | [first, second] => ticked first ++ " or " ++ ticked second
  | names => "one of " ++ ", ".intercalate (names.map ticked)

def message : Defect → String
  | wrongType found expected => "invalid type: " ++ found ++ ", expected " ++ expected
  | wrongInteger value expected =>
    "invalid value: integer `" ++ toString value ++ "`, expected " ++ expected
  | wrongLength length expected =>
    "invalid length " ++ toString length ++ ", expected " ++ expected
  | missingField name => "missing field " ++ ticked name
  | unknownField name expected => "unknown field " ++ ticked name ++ ", expected " ++ choice expected
  | unknownVariant name expected =>
    "unknown variant " ++ ticked name ++ ", expected " ++ choice expected
  | notVariant => "wanted string or table"
  | variantCount isNone =>
    if isNone then "wanted exactly 1 element, found 0 elements"
    else "wanted exactly 1 element, more than 1 element"
  | variantContent none => "expected empty table"
  | variantContent (some found) => "expected table, found " ++ found

end Defect

/-- The line that holds a position, the number of lines before it, and the position in it. -/
def lineAt (source : List Char) (position : Nat) : List Char × Nat × Nat :=
  go source [] 0 0 position
where
  /-- `before` is the part of the line already passed, in reverse. -/
  go : List Char → List Char → Nat → Nat → Nat → List Char × Nat × Nat
    | [], before, row, column, _ => (before.reverse, row, column)
    | c :: rest, before, row, column, left =>
      if left < c.utf8Size then
        (before.reverse ++ (c :: rest).takeWhile (· != '\n'), row, column)
      else if c = '\n' then go rest [] (row + 1) 0 (left - 1)
      else go rest (c :: before) row (column + 1) (left - c.utf8Size)

def spaces (count : Nat) : String := String.ofList (List.replicate count ' ')

/-- The place with its line and a mark under it. The mark does not reach past the line's last byte
and is never empty. -/
def Extent.context (extent : Extent) (source : String) : String :=
  let (line, row, column) := lineAt source.toList extent.start
  let text := String.ofList line
  let number := toString (row + 1)
  let gutter := spaces (number.length + 1) ++ "|"
  let width := max 1 (min (extent.stop - extent.start) (text.utf8ByteSize - column))
  "TOML parse error at line " ++ number ++ ", column " ++ toString (column + 1) ++ "\n" ++
    gutter ++ "\n" ++ number ++ " | " ++ text ++ "\n" ++
    gutter ++ spaces (column + 1) ++ String.ofList (List.replicate width '^') ++ "\n"

def Fault.message (source : String) : Fault → String
  | malformed report => report
  | .at extent defect => extent.context source ++ defect.message ++ "\n"

end SyntaxQuery.Toml
