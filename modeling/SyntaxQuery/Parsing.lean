import SyntaxQuery.Grammar.Catalogue
import SyntaxQuery.Parsing.Lexicon.Go
import SyntaxQuery.Parsing.Lexicon.Json
import SyntaxQuery.Parsing.Lexicon.Rust
import SyntaxQuery.ParsedSource
import SyntaxQuery.Parsing.Machine

/-! Parsing source text into a syntax tree. Any text has a tree; what does not fit the grammar is in
nodes for errors, and tokens that are missing are made up. -/
namespace SyntaxQuery

open Parsing

namespace Parsing.Fragment

def kind (grammar : Productions) (part : Part) : Kind :=
  match part with
  | .token index => grammar.tokens[index]!.kind
  | .node production => grammar.rules[grammar.productions[production]!.rule]!.kind
  | _ => .error

def steps (grammar : Productions) : Part → List Step
  | .node production => grammar.productions[production]!.steps.toList
  | _ => []

def span (start size : Length) : Span :=
  let stop := start ++ size
  ⟨UInt64.ofNat start.bytes, UInt64.ofNat stop.bytes, ⟨start.rows, start.columns⟩⟩

mutual

def trees (grammar : Productions) (position : Length) (field : Option String) (shown : Option Kind) :
    Fragment → List Tree
  | mk facts children =>
    let start := position ++ facts.padding
    let steps := steps grammar facts.part
    if facts.isVisible || shown.isSome then
      let label : Label :=
        ⟨shown.getD (kind grammar facts.part), facts.isMissing, facts.isExtra, field,
          span start facts.size⟩
      [.node label (treesOfAll grammar position none steps children)]
    else treesOfAll grammar position field steps children

/-- The visible nodes of fragments side by side. A field that a fragment has none of its own for is
that of the fragment around it; extras have no field. -/
def treesOfAll (grammar : Productions) (position : Length) (field : Option String) (steps : List Step) :
    List Fragment → List Tree
  | [] => []
  | child :: rest =>
    let behind := position ++ child.total
    if child.isExtra then
      child.trees grammar position none none ++ treesOfAll grammar behind field steps rest
    else
      let step := steps.head?
      let own := (step.bind (·.field)).or field
      child.trees grammar position own (step.bind (·.shown)) ++
        treesOfAll grammar behind field steps.tail rest

end

end Parsing.Fragment

/-- The tokens of the languages whose grammar is spelled out. -/
def Language.lexicon : Language → Lexicon
  | .json => .json
  | .go => .go
  | .rust => .rust
  | _ => .empty

/-- A root over a text of which nothing is known but the blanks that it begins with. -/
def Parsing.bareTree (grammar : Grammar) (text : Source) : Tree :=
  let blanks := (text.characters.toList.takeWhile fun entry => Scan.isBlank entry.1).length
  let span := Fragment.span (text.piece 0 blanks) (text.piece blanks text.characters.size)
  .node ⟨.ofName grammar.root, false, false, none, span⟩ []

/-- The tree of a text. Of a language whose rules are not known only blank texts have a tree that is
without errors. -/
def Language.parse (language : Language) (source : Bytes) : ParsedSource :=
  let grammar := language.grammar
  let text := Source.ofBytes source
  let bare : ParsedSource :=
    ⟨source, bareTree grammar text, text.characters.any fun entry => !Scan.isBlank entry.1⟩
  if grammar.rules.isEmpty then bare
  else
    let automaton := Automaton.ofGrammar grammar language.lexicon
    match automaton.parse text with
    | some root =>
      match root.trees automaton.grammar .zero none none with
      | tree :: _ => ⟨source, tree, 0 < root.cost⟩
      | [] => bare
    | none => bare

end SyntaxQuery
