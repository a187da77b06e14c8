import SyntaxQuery.Bytes

/-! Regular expressions over bytes. Patterns are compiled by something that is not part of the library; here
a regex is no more than its pattern and the texts in which it matches. -/
namespace SyntaxQuery

structure Regex where
  pattern : String
  /-- Whether the pattern matches somewhere in the text. -/
  isMatch : Bytes → Bool

/-- Compiling depends on the pattern's text alone. Why a pattern is refused is told in the compiler's own
words. -/
class RegexCompiler where
  compile : String → Except String Regex

def Regex.compile [RegexCompiler] (pattern : String) : Except String Regex := RegexCompiler.compile pattern

end SyntaxQuery
