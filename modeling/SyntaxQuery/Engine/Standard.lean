import SyntaxQuery.Cursor.Search
import SyntaxQuery.Grammar.Catalogue
import SyntaxQuery.Query.Compile
import SyntaxQuery.QueryRun

/-! An engine. Nodes are trees with the grammar that they are built by. -/
namespace SyntaxQuery

instance : Engine where
  Language := Language
  Program := Query.Plan
  Node := Grammar × Tree
  Cursor := Cursor.State
  language? := Language.ofName?
  compile language text := (Query.ofText language.grammar text).mapError (·.message text)
  newCursor := .new
  setMatchLimit := .setMatchLimit
  setByteRange := .setByteRange
  setMaxStartDepth := .setMaxStartDepth
  hasExceeded := (·.exceeded)
  search state query node := state.search node.1 query.program node.2

theorem Language.resolve_of_ofName? {language : Language} (named : ofName? name = some language) :
    resolve name = .ok language := by
  have known : Engine.language? name = some language := named
  rw [resolve, known]

def QueryRun.start (cursor : Cursor) (grammar : Grammar) (query : PredicateQuery) (tree : Tree)
    (provider : σ) : QueryRun σ :=
  begin cursor query (grammar, tree) provider

end SyntaxQuery
