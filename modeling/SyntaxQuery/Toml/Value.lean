import SyntaxQuery.Decimal.Double

/-! Values of a TOML document, each with the bytes in which it is written. -/
namespace SyntaxQuery.Toml

structure Extent where
  start : Nat
  stop : Nat
deriving Repr, DecidableEq

/-- A name as it is written, with its quotes if it has any. -/
structure Key where
  name : String
  extent : Extent
deriving Repr, DecidableEq

inductive Float where
  | finite (negative : Bool) (magnitude : Decimal.Double)
  | infinite (negative : Bool)
  | notANumber
deriving Repr, DecidableEq

inductive Scalar where
  | string (text : String)
  | integer (value : Int)
  | float (value : Float)
  | boolean (value : Bool)
  /-- A date, a time of day or both. Only its form is looked at. -/
  | moment
deriving Repr, DecidableEq

/-- How a table came about, which decides what may still be added to it. -/
inductive Origin where
  /-- It has a header of its own. -/
  | header
  /-- Only headers of tables inside it name it. -/
  | implied
  /-- A dotted key made it. -/
  | dotted
  /-- It is written in braces. -/
  | closed
deriving Repr, DecidableEq

inductive Item where
  | scalar (extent : Extent) (value : Scalar)
  /-- An open array holds tables, each with a header of its own; the last can still be added to. -/
  | array (extent : Extent) (isOpen : Bool) (items : List Item)
  /-- A table that is written nowhere as a whole has no extent. -/
  | table (extent : Option Extent) (origin : Origin) (entries : List (Key × Item))

abbrev Entries := List (Key × Item)

def Entries.find? (entries : Entries) (name : String) : Option Item :=
  (List.find? (fun entry => entry.1.name == name) entries).map (·.2)

/-- Reading depends on the text alone. Why a text is no document is told in the reader's own words. -/
class DocumentReader where
  read : String → Except String Entries

def Item.extent? : Item → Option Extent
  | .scalar extent _ => some extent
  | .array extent _ _ => some extent
  | .table extent _ _ => extent

end SyntaxQuery.Toml
