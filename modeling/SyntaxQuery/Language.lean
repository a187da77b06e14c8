/-! The languages whose syntax trees can be queried, and the names they go by. -/
namespace SyntaxQuery

inductive Language where
  | bash | c | cpp | cSharp | css | elixir | go | haskell | hcl | html | java | javaScript | json
  | kotlin | lua | nix | php | python | ruby | rust | scala | solidity | swift | typeScript | tsx
  | yaml
deriving Repr, DecidableEq

namespace Language

def all : List Language :=
  [bash, c, cpp, cSharp, css, elixir, go, haskell, hcl, html, java, javaScript, json, kotlin, lua,
    nix, php, python, ruby, rust, scala, solidity, swift, typeScript, tsx, yaml]

/-- The names of a language, in lower case. No name belongs to two languages. -/
def aliases : Language → List String
  | bash => ["bash"]
  | c => ["c"]
  | cpp => ["cc", "c++", "cpp", "cxx"]
  | cSharp => ["cs", "csharp"]
  | css => ["css"]
  | elixir => ["ex", "elixir"]
  | go => ["go", "golang"]
  | haskell => ["hs", "haskell"]
  | hcl => ["hcl"]
  | html => ["html"]
  | java => ["java"]
  | javaScript => ["javascript", "js", "jsx"]
  | json => ["json"]
  | kotlin => ["kotlin", "kt"]
  | lua => ["lua"]
  | nix => ["nix"]
  | php => ["php"]
  | python => ["py", "python"]
  | ruby => ["rb", "ruby"]
  | rust => ["rs", "rust"]
  | scala => ["scala"]
  | solidity => ["sol", "solidity"]
  | swift => ["swift"]
  | typeScript => ["ts", "typescript"]
  | tsx => ["tsx"]
  | yaml => ["yaml", "yml"]

/-- A letter of the basic Latin alphabet is the same in either case; no other character is. -/
def sameName (a b : String) : Bool := a.toList.map Char.toLower == b.toList.map Char.toLower

/-- Blanks around the name are not ignored. -/
def ofName? (name : String) : Option Language :=
  all.find? fun language => language.aliases.any (sameName name)

end Language

end SyntaxQuery
