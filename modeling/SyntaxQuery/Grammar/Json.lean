import SyntaxQuery.Grammar.Basic

/-! The grammar of JSON documents. -/
namespace SyntaxQuery.Grammar

namespace Json

open Rule

def value : Rule :=
  group "_value" (oneOf
    [node "object", node "array", node "number", node "string", node "true", node "false",
      node "null"])

def enclosed (opening closing : String) (item : Rule) : Rule :=
  seqs [token opening, optional (commaSeparated item), token closing]

def rules : List (String × Rule) := [
  ("document", many value),
  ("object", enclosed "\x7b" "\x7d" (node "pair")),
  ("pair", seqs [field "key" (node "string"), token ":", field "value" value]),
  ("array", enclosed "[" "]" value),
  ("string", seqs [token "\"", many (oneOf [node "string_content", node "escape_sequence"]),
    token "\""])]

end Json

def json : Grammar where
  root := "document"
  rules := Json.rules
  variants := []
  others := []
  extras := [.ofName "comment"]
  checksMembers := false

end SyntaxQuery.Grammar
