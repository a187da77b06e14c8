import SyntaxQuery.Parsing.Lexicon

/-! The tokens of Go source files. -/
namespace SyntaxQuery.Parsing.Lexicon

open Pattern

namespace Go

def identifier : Pattern :=
  seq (one (('_', '_') :: withProperty "xidstart")) (many (one (withProperty "xidcontinue")))

def octal : Pattern := one [('0', '7')]
def hex : Pattern := one [('0', '9'), ('a', 'f'), ('A', 'F')]

def digits (digit : Pattern) : Pattern := seq digit (many (seq (optional (char '_')) digit))

def decimals : Pattern := digits digit
def hexes : Pattern := digits hex

def inBase (mark : Pattern) (digit : Pattern) : Pattern :=
  sequence [char '0', mark, optional (char '_'), digits digit]

def integer : Pattern :=
  choice [
    inBase (among "bB") (among "01"),
    char '0',
    seq (one [('1', '9')]) (optional (seq (optional (char '_')) decimals)),
    inBase (optional (among "oO")) octal,
    inBase (among "xX") hex]

def exponent (mark : String) : Pattern :=
  sequence [among mark, optional (among "+-"), decimals]

def decimalFloat : Pattern :=
  choice [
    sequence [decimals, char '.', optional decimals, optional (exponent "eE")],
    seq decimals (exponent "eE"),
    sequence [char '.', decimals, optional (exponent "eE")]]

def mantissa : Pattern :=
  choice [
    sequence [optional (char '_'), hexes, char '.', optional hexes],
    seq (optional (char '_')) hexes,
    seq (char '.') hexes]

def float : Pattern :=
  either decimalFloat (sequence [char '0', among "xX", mantissa, exponent "pP"])

def imaginary : Pattern := seq (choice [decimals, integer, float]) (char 'i')

def times (count : Nat) (pattern : Pattern) : Pattern := sequence (List.replicate count pattern)

def hexEscape : Pattern :=
  choice [seq (char 'x') (times 2 hex), seq (char 'u') (times 4 hex), seq (char 'U') (times 8 hex)]

def rune : Pattern :=
  sequence [char '\'',
    either (except "'\\")
      (seq (char '\\') (choice [hexEscape, times 3 octal, among "abfnrtv\\'\""])),
    char '\'']

def escape : Pattern :=
  seq (char '\\') (choice [
    except "xuU",
    seq (times 2 digit) (optional digit),
    sequence [char 'x', hex, Pattern.some hex],
    seq (char 'u') (times 4 hex),
    seq (char 'U') (times 8 hex)])

end Go

def go : Lexicon where
  lexemes := [
    .plain "identifier" Go.identifier,
    { Lexeme.plain "newline" (char '\n') with isBeacon := false },
    .plain "blank_identifier" (text "_"),
    .inner "raw_string_literal_content" (many (except "\x60")) 1 false,
    .inner "interpreted_string_literal_content" (Pattern.some (except "\"\n\\")) 1 false,
    .inner "closing_quote" (text "\"") 0 true,
    .inner "escape_sequence" Go.escape 0 true,
    .plain "int_literal" Go.integer,
    .plain "float_literal" Go.float,
    .plain "imaginary_literal" Go.imaginary,
    .plain "rune_literal" Go.rune,
    .plain "nil" (text "nil"),
    .plain "true" (text "true"),
    .plain "false" (text "false"),
    .plain "iota" (text "iota"),
    comment]
  word := some "identifier"
  synonyms := ["type_identifier", "field_identifier", "package_identifier", "label_name"].map
    fun name => (name, "identifier")
  unseen := ["newline"]

end SyntaxQuery.Parsing.Lexicon
