import SyntaxQuery.Grammar.Basic

/-! The grammar of Go source files. -/
namespace SyntaxQuery.Grammar

namespace Go

open Rule

/-- A statement ends at a newline, which leaves no child, at a semicolon or where the file ends. -/
def terminator : Rule := oneOf [unseen "newline", token ";", token "\x00"]

/-! How tightly expressions bind. -/

def primary : Int := 7
def unary : Int := 6

/-- A brace behind a type begins a block where there can be one. -/
def compositeLiteral : Int := -1

def rightward (rule : Rule) : Rule := binding 0 .right rule

def leftward (rule : Rule) : Rule := binding 0 .left rule

def stringLiteral : Rule := oneOf [node "raw_string_literal", node "interpreted_string_literal"]

def simpleType : Rule :=
  group "_simple_type" (oneOf
    [favored (-1) (node "type_identifier"), node "generic_type", node "qualified_type",
      node "pointer_type", node "struct_type", node "interface_type", node "array_type",
      node "slice_type", node "map_type", node "channel_type", node "function_type",
      node "negated_type"])

def type : Rule := oneOf [simpleType, node "parenthesized_type"]

def expression : Rule :=
  group "_expression" (oneOf
    [node "unary_expression", node "binary_expression", node "selector_expression",
      node "index_expression", node "slice_expression", node "call_expression",
      node "type_assertion_expression", node "type_conversion_expression",
      node "type_instantiation_expression", node "identifier", node "composite_literal",
      node "func_literal", stringLiteral, node "int_literal", node "float_literal",
      node "imaginary_literal", node "rune_literal", node "nil", node "true", node "false",
      node "iota", node "parenthesized_expression"])

def simpleStatement : Rule :=
  group "_simple_statement" (oneOf
    [node "expression_statement", node "send_statement", node "inc_statement",
      node "dec_statement", node "assignment_statement", node "short_var_declaration"])

def statement : Rule :=
  group "_statement" (oneOf
    [node "const_declaration", node "type_declaration", node "var_declaration", simpleStatement,
      node "return_statement", node "go_statement", node "defer_statement", node "if_statement",
      node "for_statement", node "expression_switch_statement", node "type_switch_statement",
      node "select_statement", node "labeled_statement", node "fallthrough_statement",
      node "break_statement", node "continue_statement", node "goto_statement", node "block",
      node "empty_statement"])

def topLevelDeclaration : Rule :=
  oneOf [node "package_clause", node "function_declaration", node "method_declaration",
    node "import_declaration"]

def tokens (texts : List String) : Rule := oneOf (texts.map token)

def multiplicative : List String := ["*", "/", "%", "<<", ">>", "&", "&^"]
def additive : List String := ["+", "-", "|", "^"]
def comparative : List String := ["==", "!=", "<", "<=", ">", ">="]

/-- The operators that join two operands, from the tightest. -/
def joints : List (Int × List String) :=
  [(5, multiplicative), (4, additive), (3, comparative), (2, ["&&"]), (1, ["||"])]

def assignments : List String := (multiplicative ++ additive).map (· ++ "=") ++ ["="]

/-- Members that each end with a terminator. -/
def terminated (member : Rule) : Rule := seqs [token "(", many (seq member terminator), token ")"]

/-- Members with terminators between, the last of which may have one too. -/
def listed (opening closing : String) (member : Rule) : Rule :=
  seqs [token opening,
    optional (seqs [member, many (seq terminator member), optional terminator]), token closing]

def names (kind : String) : Rule := commaSeparated (field "name" (node kind))

def result : Rule := optional (field "result" (oneOf [node "parameter_list", simpleType]))

def typeParameters : Rule := optional (field "type_parameters" (node "type_parameter_list"))

def assignOrDeclare : Rule := tokens ["=", ":="]

def initializer : Rule := optional (seq (field "initializer" simpleStatement) (token ";"))

def statements : Rule := optional (node "statement_list")

def label : Rule := field "label" (node "label_name")

def declarations : List (String × Rule) := [
  ("source_file", seqs [many (seq (oneOf [statement, topLevelDeclaration]) terminator),
    optional topLevelDeclaration]),
  ("package_clause", seqs [token "package", node "package_identifier"]),
  ("import_declaration",
    seqs [token "import", oneOf [node "import_spec", node "import_spec_list"]]),
  ("import_spec", seqs [
    optional (field "name"
      (oneOf [node "dot", node "blank_identifier", node "package_identifier"])),
    field "path" stringLiteral]),
  ("dot", token "."),
  ("import_spec_list", listed "(" ")" (node "import_spec")),
  ("const_declaration",
    seqs [token "const", oneOf [node "const_spec", terminated (node "const_spec")]]),
  ("const_spec", leftward (seqs [field "name" (commaSeparated (node "identifier")),
    optional (seqs [optional (field "type" type), token "=",
      field "value" (node "expression_list")])])),
  ("var_declaration", seqs [token "var", oneOf [node "var_spec", node "var_spec_list"]]),
  ("var_spec", seqs [names "identifier", oneOf [
    seqs [field "type" type,
      optional (seqs [token "=", field "value" (node "expression_list")])],
    seqs [token "=", field "value" (node "expression_list")]]]),
  ("var_spec_list", terminated (node "var_spec")),
  ("function_declaration", binding 1 .right (seqs [token "func", field "name" (node "identifier"),
    typeParameters, field "parameters" (node "parameter_list"), result,
    optional (field "body" (node "block"))])),
  ("method_declaration", binding 1 .right (seqs [token "func",
    field "receiver" (node "parameter_list"), field "name" (node "field_identifier"),
    field "parameters" (node "parameter_list"), result, optional (field "body" (node "block"))])),
  ("type_parameter_list", seqs [token "[", commaSeparated (node "type_parameter_declaration"),
    optional (token ","), token "]"]),
  ("type_parameter_declaration",
    seqs [names "identifier", field "type" (node "type_constraint")]),
  ("parameter_list", seqs [token "(",
    optional (seqs [optional (commaSeparated
      (oneOf [node "parameter_declaration", node "variadic_parameter_declaration"])),
      optional (token ",")]), token ")"]),
  ("parameter_declaration", leftward (seqs [optional (names "identifier"), field "type" type])),
  ("variadic_parameter_declaration",
    seqs [optional (field "name" (node "identifier")), token "...", field "type" type]),
  ("type_alias", seqs [field "name" (node "type_identifier"), typeParameters, token "=",
    field "type" type]),
  ("type_declaration", seqs [token "type", oneOf [node "type_spec", node "type_alias",
    terminated (oneOf [node "type_spec", node "type_alias"])]]),
  ("type_spec", favored 1
    (seqs [field "name" (node "type_identifier"), typeParameters, field "type" type]))]

def types : List (String × Rule) := [
  ("parenthesized_type", seqs [token "(", type, token ")"]),
  ("generic_type", favored 1 (seqs [
    field "type" (oneOf [node "type_identifier", node "qualified_type", node "negated_type"]),
    field "type_arguments" (node "type_arguments")])),
  ("type_arguments", favored 2
    (seqs [token "[", commaSeparated (node "type_elem"), optional (token ","), token "]"])),
  ("pointer_type", binding unary .neither (seqs [token "*", type])),
  ("array_type", rightward
    (seqs [token "[", field "length" expression, token "]", field "element" type])),
  ("implicit_length_array_type",
    seqs [token "[", token "...", token "]", field "element" type]),
  ("slice_type", rightward (seqs [token "[", token "]", field "element" type])),
  ("struct_type", seqs [token "struct", node "field_declaration_list"]),
  ("negated_type", leftward (seqs [token "~", type])),
  ("field_declaration_list", listed "\x7b" "\x7d" (node "field_declaration")),
  ("field_declaration", seqs [
    oneOf [seqs [names "field_identifier", field "type" type],
      seqs [optional (token "*"),
        field "type" (oneOf [node "type_identifier", node "qualified_type",
          node "generic_type"])]],
    optional (field "tag" stringLiteral)]),
  ("interface_type",
    seqs [token "interface", listed "\x7b" "\x7d" (oneOf [node "method_elem", node "type_elem"])]),
  ("method_elem", seqs [field "name" (node "field_identifier"),
    field "parameters" (node "parameter_list"), result]),
  ("type_elem", separated (token "|") type),
  ("type_constraint", separated (token "|") type),
  ("map_type", rightward
    (seqs [token "map", token "[", field "key" type, token "]", field "value" type])),
  ("channel_type", leftward (oneOf [
    seqs [token "chan", field "value" type],
    seqs [token "chan", token "<-", field "value" type],
    binding unary .neither (seqs [token "<-", token "chan", field "value" type])])),
  ("function_type", rightward
    (seqs [token "func", field "parameters" (node "parameter_list"), result])),
  ("qualified_type", seqs [field "package" (node "package_identifier"), token ".",
    field "name" (node "type_identifier")])]

/-- A label with no statement behind it, which only the last of several statements can be. -/
def emptyLabeled : Rule :=
  variant (.ofName "empty_labeled_statement") (.ofName "labeled_statement")

def statementRules : List (String × Rule) := [
  ("block", seqs [token "\x7b", statements, token "\x7d"]),
  ("statement_list", oneOf [
    seqs [statement, many (seq terminator statement),
      optional (seq terminator (optional emptyLabeled))],
    emptyLabeled]),
  ("empty_statement", token ";"),
  ("fallthrough_statement", token "fallthrough"),
  ("expression_statement", expression),
  ("send_statement", seqs [field "channel" expression, token "<-", field "value" expression]),
  ("receive_statement", seqs [
    optional (seq (field "left" (node "expression_list")) assignOrDeclare),
    field "right" expression]),
  ("inc_statement", seqs [expression, token "++"]),
  ("dec_statement", seqs [expression, token "--"]),
  ("assignment_statement", seqs [field "left" (node "expression_list"),
    field "operator" (tokens assignments), field "right" (node "expression_list")]),
  ("short_var_declaration", seqs [field "left" (node "expression_list"), token ":=",
    field "right" (node "expression_list")]),
  ("labeled_statement", seqs [label, token ":", statement]),
  ("break_statement", seqs [token "break", optional (node "label_name")]),
  ("continue_statement", seqs [token "continue", optional (node "label_name")]),
  ("goto_statement", seqs [token "goto", node "label_name"]),
  ("return_statement", seqs [token "return", optional (node "expression_list")]),
  ("go_statement", seqs [token "go", expression]),
  ("defer_statement", seqs [token "defer", expression]),
  ("if_statement", seqs [token "if", initializer, field "condition" expression,
    field "consequence" (node "block"),
    optional (seqs [token "else",
      field "alternative" (oneOf [node "block", node "if_statement"])])]),
  ("for_statement", seqs [token "for",
    optional (oneOf [expression, node "for_clause", node "range_clause"]),
    field "body" (node "block")]),
  ("for_clause", seqs [optional (field "initializer" simpleStatement), token ";",
    optional (field "condition" expression), token ";",
    optional (field "update" simpleStatement)]),
  ("range_clause", seqs [optional (seq (field "left" (node "expression_list")) assignOrDeclare),
    token "range", field "right" expression]),
  ("expression_switch_statement", seqs [token "switch", initializer,
    optional (field "value" expression), token "\x7b",
    many (oneOf [node "expression_case", node "default_case"]), token "\x7d"]),
  ("expression_case",
    seqs [token "case", field "value" (node "expression_list"), token ":", statements]),
  ("default_case", seqs [token "default", token ":", statements]),
  ("type_switch_statement", seqs [token "switch",
    cluster (seqs [initializer,
      optional (seq (field "alias" (node "expression_list")) (token ":=")),
      field "value" expression, token ".", token "(", token "type", token ")"]),
    token "\x7b", many (oneOf [node "type_case", node "default_case"]), token "\x7d"]),
  ("type_case",
    seqs [token "case", field "type" (commaSeparated type), token ":", statements]),
  ("select_statement", seqs [token "select", token "\x7b",
    many (oneOf [node "communication_case", node "default_case"]), token "\x7d"]),
  ("communication_case", seqs [token "case",
    field "communication" (oneOf [node "send_statement", node "receive_statement"]), token ":",
    statements])]

/-- Functions whose first argument is a type. -/
def makers : List String := ["new", "make"]

def maker (name : String) : Rule := variant (.ofToken name) (.ofName "identifier")

def expressions : List (String × Rule) := [
  ("expression_list", commaSeparated expression),
  ("parenthesized_expression", seqs [token "(", expression, token ")"]),
  ("call_expression", binding primary .neither (oneOf [
    seqs [field "function" (oneOf (makers.map maker)),
      field "arguments" (variant (.ofName "maker_argument_list") (.ofName "argument_list"))],
    seqs [field "function" expression, optional (field "type_arguments" (node "type_arguments")),
      field "arguments" (node "argument_list")]])),
  ("variadic_argument", rightward (seqs [expression, token "..."])),
  ("argument_list", seqs [token "(",
    optional (seqs [commaSeparated (oneOf [expression, node "variadic_argument"]),
      optional (token ",")]), token ")"]),
  ("selector_expression", binding primary .neither
    (seqs [field "operand" expression, token ".", field "field" (node "field_identifier")])),
  ("index_expression", binding primary .neither
    (seqs [field "operand" expression, token "[", field "index" expression, token "]"])),
  ("slice_expression", binding primary .neither
    (seqs [field "operand" expression, token "[", oneOf [
      seqs [optional (field "start" expression), token ":", optional (field "end" expression)],
      seqs [optional (field "start" expression), token ":", field "end" expression, token ":",
        field "capacity" expression]], token "]"])),
  ("type_assertion_expression", binding primary .neither
    (seqs [field "operand" expression, token ".", token "(", field "type" type, token ")"])),
  ("type_conversion_expression", favored (-1) (seqs [field "type" type, token "(",
    field "operand" expression, optional (token ","), token ")"])),
  ("type_instantiation_expression", binding primary .neither
    (seqs [field "type" type, token "[", commaSeparated type, optional (token ","), token "]"])),
  ("composite_literal", binding compositeLiteral .neither (seqs [
    field "type" (oneOf [node "map_type", node "slice_type", node "array_type",
      node "implicit_length_array_type", node "struct_type", node "type_identifier",
      node "generic_type", node "qualified_type"]),
    field "body" (node "literal_value")])),
  ("literal_value", seqs [token "\x7b",
    optional (seqs [optional (commaSeparated (oneOf [node "literal_element",
      node "keyed_element"])), optional (token ",")]), token "\x7d"]),
  ("literal_element", oneOf [expression, node "literal_value"]),
  ("keyed_element", seqs [field "key" (node "literal_element"), token ":",
    field "value" (node "literal_element")]),
  ("func_literal", seqs [token "func", field "parameters" (node "parameter_list"), result,
    field "body" (node "block")]),
  ("unary_expression", binding unary .neither
    (seqs [field "operator" (tokens ["+", "-", "!", "^", "*", "&", "<-"]),
      field "operand" expression])),
  ("binary_expression", oneOf (joints.map fun (tightness, operators) =>
    binding tightness .left (seqs [field "left" expression, field "operator" (tokens operators),
      field "right" expression]))),
  ("raw_string_literal",
    seqs [token "\x60", node "raw_string_literal_content", token "\x60"]),
  ("interpreted_string_literal", seqs [token "\"",
    many (oneOf [node "interpreted_string_literal_content", node "escape_sequence"]),
    variant (.ofName "closing_quote") (.ofToken "\"")])]

def variants : List Variant := [
  ⟨"empty_labeled_statement", "labeled_statement", seqs [label, token ":"]⟩,
  ⟨"maker_argument_list", "argument_list", seqs [token "(",
    optional (seqs [type, many (seq (token ",") expression), optional (token ",")]), token ")"]⟩]

def rules : List (String × Rule) := declarations ++ types ++ statementRules ++ expressions

end Go

def go : Grammar where
  root := "source_file"
  rules := Go.rules
  variants := Go.variants
  others := []
  extras := [.ofName "comment"]
  checksMembers := true

end SyntaxQuery.Grammar
