/-! What can go wrong while a query is put together. What the engine or the compiler of regexes says is
passed on as it is. -/
namespace SyntaxQuery

inductive QueryError where
  | unknownLanguage (name : String)
  | invalidQuery (source report : String)
  | patternOutOfRange (index count : Nat)
  | captureNotFound (name : String)
  | captureOutOfRange (index count : Nat)
  | invalidRegex (pattern report : String)
deriving Repr, DecidableEq

def QueryError.message : QueryError → String
  | unknownLanguage name => "unsupported language: " ++ name
  | invalidQuery _ report => "invalid tree-sitter query: " ++ report
  | patternOutOfRange index count =>
    "pattern index " ++ toString index ++ " out of range: query has " ++ toString count ++ " patterns"
  | captureNotFound name => "capture '@" ++ name ++ "' not found in query"
  | captureOutOfRange index count =>
    "capture index " ++ toString index ++ " out of range: query has " ++ toString count ++ " captures"
  | invalidRegex pattern report => "invalid regex '" ++ pattern ++ "': " ++ report

end SyntaxQuery
