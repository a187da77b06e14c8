import SyntaxQuery.Grammar.Rule
import SyntaxQuery.Parsing.Pattern
import SyntaxQuery.Unicode.Lookup

/-! The tokens of a language: those with a name of their own. A token that stands for itself needs no
entry; its text is its pattern. -/
namespace SyntaxQuery.Parsing

structure Lexeme where
  name : String
  pattern : Pattern
  /-- Whether the token has to follow the one before it without a blank. -/
  isImmediate : Bool
  /-- Of two tokens that match, the one of the higher rank wins, then the longer one. -/
  rank : Int
  /-- Whether the token is looked for while the parser is lost. -/
  isBeacon : Bool
deriving Repr, Inhabited

namespace Lexeme

def plain (name : String) (pattern : Pattern) : Lexeme := ⟨name, pattern, false, 0, true⟩

/-- The inner parts of a quoted text, which would match nearly everywhere outside it. -/
def inner (name : String) (pattern : Pattern) (rank : Int) (isBeacon : Bool) : Lexeme :=
  ⟨name, pattern, true, rank, isBeacon⟩

/-- A token that is a given text is more precise than others, and one that cannot stand behind a
blank is more precise than one that can. -/
def precision (lexeme : Lexeme) : Nat :=
  (if lexeme.pattern.spelling?.isSome then 2 else 0) + if lexeme.isImmediate then 1 else 0

end Lexeme

structure Lexicon where
  lexemes : List Lexeme
  /-- The lexeme that keywords look like. A keyword is one only where the grammar allows it. -/
  word : Option String
  /-- Kinds of leaves that are other names of a lexeme. -/
  synonyms : List (String × String)
  /-- Lexemes that leave no node behind. -/
  unseen : List String

namespace Lexicon

open Pattern

def empty : Lexicon := ⟨[], none, [], []⟩

def isUnseen (lexicon : Lexicon) (name : String) : Bool := lexicon.unseen.contains name

def withProperty (name : String) : List (Char × Char) :=
  (Unicode.property name).map fun (low, high) => (.ofNat low, .ofNat high)

def digit : Pattern := one [('0', '9')]

def lineComment : Pattern := seq (text "//") (many (except "\n"))

def blockComment : Pattern :=
  sequence [text "/*", many (except "*"), Pattern.some (char '*'),
    many (sequence [except "/*", many (except "*"), Pattern.some (char '*')]), char '/']

def comment : Lexeme := .plain "comment" (either lineComment blockComment)

end Lexicon

end SyntaxQuery.Parsing
