import SyntaxQuery.Match
import SyntaxQuery.Query

/-! The engine that reads queries and searches syntax trees for their matches. It is not part of the library,
which uses an engine through what is listed here and knows nothing else of it. -/
namespace SyntaxQuery

/-- What a search comes upon, with the cursor at its start, at each match and at its end. -/
structure Findings (κ : Type) where
  begun : κ
  /-- In the order in which they are found. -/
  found : List (Match × κ)
  ended : κ

class Engine where
  Language : Type
  /-- What a query is to a search. -/
  Program : Type
  /-- Nodes of syntax trees, which searches start from. -/
  Node : Type
  /-- Settings of searches, and whatever is kept from one search to the next. -/
  Cursor : Type
  language? : String → Option Language
  /-- Why a text is no query of the language is told in the engine's own words. -/
  compile : Language → String → Except String (Query Program)
  newCursor : Cursor
  setMatchLimit : Cursor → UInt32 → Cursor
  setByteRange : Cursor → Offset → Offset → Cursor
  /-- Without a depth, matches may start anywhere. -/
  setMaxStartDepth : Cursor → Option UInt32 → Cursor
  /-- Whether the latest search dropped matches that were in progress, being more than the limit. -/
  hasExceeded : Cursor → Bool
  /-- Matches are found alike whatever is done with them, and a search may be given up after any of them. -/
  search : Cursor → Query Program → Node → Findings Cursor

end SyntaxQuery
