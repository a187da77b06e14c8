import SyntaxQuery.Parsing.Lexicon

/-! The tokens of Rust source files. -/
namespace SyntaxQuery.Parsing.Lexicon

open Pattern

namespace Rust

def identifier : Pattern :=
  seq (optional (text "r#")) (seq (one (('_', '_') :: withProperty "xidstart"))
    (many (one (withProperty "xidcontinue"))))

def integer : Pattern :=
  seq
    (choice [
      seq digit (many (either digit (char '_'))),
      seq (text "0x") (Pattern.some (one [('0', '9'), ('a', 'f'), ('A', 'F'), ('_', '_')])),
      seq (text "0b") (Pattern.some (among "01_")),
      seq (text "0o") (Pattern.some (one [('0', '7'), ('_', '_')]))])
    (optional (choice (["u8", "i8", "u16", "i16", "u32", "i32", "u64", "i64", "u128", "i128",
      "isize", "usize", "f32", "f64"].map text)))

end Rust

def rust : Lexicon where
  lexemes := [
    .plain "identifier" Rust.identifier,
    .plain "integer_literal" Rust.integer]
  word := some "identifier"
  synonyms := [("type_identifier", "identifier")]
  unseen := []

end SyntaxQuery.Parsing.Lexicon
