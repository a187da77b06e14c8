import SyntaxQuery.Regex
import SyntaxQuery.Regex.Search

/-! A compiler for patterns: what is read becomes an automaton, unless that is too big. -/
namespace SyntaxQuery.Regex

def sizeLimit : Nat := 10 <<< 20

def Automaton.accepts (automaton : Automaton) (entry : Nat) (text : Bytes) : Bool :=
  let bytes := text.toArray
  walk automaton Unicode.word.toArray bytes entry (edgeCount automaton) bytes.size 0
    (Array.replicate automaton.size 0) ⟨[], [[], [], [], []]⟩

def ofPattern (pattern : String) : Except String Regex :=
  let characters := pattern.toList
  match (do
    let expression ← Expression.read characters
    expression.meaning .initial) with
  | .error fault => .error (fault.render characters)
  | .ok (node, _) =>
    if node.weight > sizeLimit then
      .error ("Compiled regex exceeds size limit of " ++ toString sizeLimit ++ " bytes.")
    else
      let (accept, automaton) := Automaton.add #[] .accept
      let (entry, automaton) := node.build accept automaton
      .ok ⟨pattern, automaton.accepts entry⟩

instance : RegexCompiler := ⟨ofPattern⟩

end SyntaxQuery.Regex
