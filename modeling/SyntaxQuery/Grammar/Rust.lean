import SyntaxQuery.Grammar.Basic

/-! The grammar of Rust source files, as far as functions go: their parameters and types, and bodies
of bindings, calls and operators. -/
namespace SyntaxQuery.Grammar

namespace Rust

open Rule

def primitives : List String :=
  ["u8", "i8", "u16", "i16", "u32", "i32", "u64", "i64", "u128", "i128", "isize", "usize", "f32",
    "f64", "bool", "str", "char"]

def primitive : Rule :=
  oneOf (primitives.map fun name => variant (.ofToken name) (.ofName "primitive_type"))

def type : Rule :=
  group "_type" (oneOf
    [node "reference_type", node "unit_type", node "type_identifier", primitive])

def pattern : Rule :=
  group "_pattern" (oneOf [node "identifier", node "mut_pattern", token "_"])

def literal : Rule := oneOf [node "boolean_literal", node "integer_literal"]

def expression : Rule :=
  group "_expression" (oneOf
    [node "unary_expression", node "reference_expression", node "binary_expression",
      node "assignment_expression", node "return_expression", node "call_expression", literal,
      node "identifier", node "unit_expression", node "parenthesized_expression", node "block"])

def statement : Rule :=
  group "_statement" (oneOf
    [node "expression_statement", node "let_declaration", node "empty_statement",
      node "function_item"])

def tokens (texts : List String) : Rule := oneOf (texts.map token)

def joints : List (Int × List String) := [
  (3, ["&&"]), (2, ["||"]), (7, ["&"]), (5, ["|"]), (6, ["^"]),
  (4, ["==", "!=", "<", "<=", ">", ">="]), (8, ["<<", ">>"]), (9, ["+", "-"]),
  (10, ["*", "/", "%"])]

def commaEnded (item : Rule) : Rule :=
  seqs [token "(", optional (commaSeparated item), optional (token ","), token ")"]

def mutable : Rule := optional (node "mutable_specifier")

def rules : List (String × Rule) := [
  ("source_file", many statement),
  ("empty_statement", token ";"),
  ("expression_statement",
    oneOf [seq expression (token ";"), binding 1 .neither (node "block")]),
  ("mutable_specifier", token "mut"),
  ("function_item", seqs [token "fn", field "name" (node "identifier"),
    field "parameters" (node "parameters"), optional (seq (token "->") (field "return_type" type)),
    field "body" (node "block")]),
  ("parameters", commaEnded (node "parameter")),
  ("parameter",
    seqs [mutable, field "pattern" pattern, token ":", field "type" type]),
  ("let_declaration", seqs [token "let", mutable, field "pattern" pattern,
    optional (seq (token ":") (field "type" type)),
    optional (seq (token "=") (field "value" expression)), token ";"]),
  ("mut_pattern", seqs [node "mutable_specifier", pattern]),
  ("reference_type", seqs [token "&", mutable, field "type" type]),
  ("unit_type", seqs [token "(", token ")"]),
  ("unit_expression", seqs [token "(", token ")"]),
  ("unary_expression", binding 12 .neither (seq (tokens ["-", "*", "!"]) expression)),
  ("reference_expression",
    binding 12 .neither (seqs [token "&", mutable, field "value" expression])),
  ("binary_expression", oneOf (joints.map fun (tightness, operators) =>
    binding tightness .left (seqs [field "left" expression, field "operator" (tokens operators),
      field "right" expression]))),
  ("assignment_expression", binding 0 .left
    (seqs [field "left" expression, token "=", field "right" expression])),
  ("return_expression", oneOf
    [binding 0 .left (seq (token "return") expression), binding (-1) .neither (token "return")]),
  ("call_expression", binding 15 .neither
    (seqs [field "function" expression, field "arguments" (node "arguments")])),
  ("arguments", commaEnded expression),
  ("parenthesized_expression", seqs [token "(", expression, token ")"]),
  ("block", seqs [token "\x7b", many statement, optional expression, token "\x7d"]),
  ("boolean_literal", tokens ["true", "false"])]

end Rust

def rust : Grammar where
  root := "source_file"
  rules := Rust.rules
  variants := []
  others := []
  extras := []
  checksMembers := false

end SyntaxQuery.Grammar
