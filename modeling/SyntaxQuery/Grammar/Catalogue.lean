import SyntaxQuery.Grammar.Go
import SyntaxQuery.Grammar.Json
import SyntaxQuery.Grammar.Rust
import SyntaxQuery.Language

/-! The grammar of each language. JSON and Go are spelled out, and of Rust the functions; of the
others it is known what their roots are called and whether they have a kind for identifiers. -/
namespace SyntaxQuery

namespace Grammar

def outline (root : String) (kinds : List String) : Grammar where
  root := root
  rules := []
  variants := []
  others := (root :: kinds).map Kind.ofName
  extras := []
  checksMembers := false

end Grammar

open Grammar in
def Language.grammar : Language → Grammar
  | bash => outline "program" []
  | c => outline "translation_unit" ["identifier"]
  | cpp => outline "translation_unit" ["identifier"]
  | cSharp => outline "compilation_unit" ["identifier"]
  | css => outline "stylesheet" ["identifier"]
  | elixir => outline "source" ["identifier"]
  | go => .go
  | haskell => outline "haskell" []
  | hcl => outline "config_file" ["identifier"]
  | html => outline "document" []
  | java => outline "program" ["identifier"]
  | javaScript => outline "program" ["identifier"]
  | json => .json
  | kotlin => outline "source_file" ["identifier"]
  | lua => outline "chunk" ["identifier"]
  | nix => outline "source_code" ["identifier"]
  | php => outline "program" []
  | python => outline "module" ["identifier"]
  | ruby => outline "program" ["identifier"]
  | rust => .rust
  | scala => outline "compilation_unit" ["identifier"]
  | solidity => outline "source_file" ["identifier"]
  | swift => outline "source_file" ["identifier"]
  | typeScript => outline "program" ["identifier"]
  | tsx => outline "program" ["identifier"]
  | yaml => outline "stream" []

end SyntaxQuery
