import SyntaxQuery.Parsing.Lexicon

/-! The tokens of JSON documents. -/
namespace SyntaxQuery.Parsing.Lexicon

open Pattern

namespace Json

def integer : Pattern :=
  seq (optional (char '-')) (either (char '0') (seq (one [('1', '9')]) (many digit)))

def exponent : Pattern :=
  sequence [among "eE", optional (among "+-"), Pattern.some digit]

def number : Pattern :=
  seq integer (optional (either
    (sequence [char '.', many digit, optional exponent]) exponent))

end Json

def json : Lexicon where
  lexemes := [
    .inner "string_content" (Pattern.some (except "\\\"\n")) 1 false,
    .inner "escape_sequence" (seq (char '\\') (among "\"\\/bfnrtu")) 0 true,
    .plain "number" Json.number,
    .plain "true" (text "true"),
    .plain "false" (text "false"),
    .plain "null" (text "null"),
    comment]
  word := none
  synonyms := []
  unseen := []

end SyntaxQuery.Parsing.Lexicon
