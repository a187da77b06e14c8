import SyntaxQuery.Toml.Document
import SyntaxQuery.Toml.Quoted

/-! Reading a document's text. What is not well formed has no reading; why is not told. -/
namespace SyntaxQuery.Toml

structure Reader where
  rest : List Char
  /-- The number of bytes before `rest`. -/
  offset : Nat

abbrev Read := StateT Reader Option

namespace Read

def byteCount (text : List Char) : Nat := text.foldl (fun count c => count + c.utf8Size) 0

def here : Read Nat := do return (← get).offset

def peek : Read (Option Char) := do return (← get).rest.head?

def take (count : Nat) : Read (List Char) := do
  let reader ← get
  let taken := reader.rest.take count
  set (⟨reader.rest.drop count, reader.offset + byteCount taken⟩ : Reader)
  return taken

def part (read : List Char → Option (α × List Char)) : Read α := do
  let reader ← get
  let (found, rest) ← liftM (read reader.rest)
  let _ ← take (reader.rest.length - rest.length)
  return found

def run (belongs : Char → Bool) : Read (List Char) := do
  take ((← get).rest.takeWhile belongs).length

def accept (c : Char) : Read Bool := do
  if (← peek) = some c then
    let _ ← take 1
    return true
  else return false

def expect (c : Char) : Read Unit := do
  unless ← accept c do failure

def skipBlanks : Read Unit := do
  let _ ← run Quoted.isBlank

/-- How many characters of the text are blanks, comments and newlines. A comment runs to the end of
its line. -/
def spaceLength (inComment : Bool) : List Char → Nat
  | [] => 0
  | '\n' :: rest => spaceLength false rest + 1
  | '\r' :: '\n' :: rest => spaceLength false rest + 2
  | c :: rest =>
    if inComment then if Quoted.isPlain c then spaceLength true rest + 1 else 0
    else if Quoted.isBlank c then spaceLength false rest + 1
    else if c = '#' then spaceLength true rest + 1
    else 0

def skipSpace : Read Unit := do
  let _ ← take (spaceLength false (← get).rest)

/-- Nothing but a comment may stand between a pair or a header and the end of its line. -/
def endLine : Read Unit := do
  skipBlanks
  if ← accept '#' then
    let _ ← run Quoted.isPlain
  unless endsLine (← get).rest do failure
where
  endsLine : List Char → Bool
    | [] => true
    | '\n' :: _ => true
    | '\r' :: '\n' :: _ => true
    | _ => false

/-- More than any loop takes steps: all but the last leave fewer characters than they find. -/
def fuel : Read Nat := do return (← get).rest.length + 1

def extentFrom (start : Nat) : Read Extent := do return ⟨start, ← here⟩

/-! Keys. -/

def isBare (c : Char) : Bool := c.isAlphanum || c == '_' || c == '-'

def simpleKey : Read Key := do
  let start ← here
  let name ← match ← peek with
    | some '"' => part Quoted.short?
    | some '\'' => part Quoted.short?
    | _ =>
      let name ← run isBare
      if name.isEmpty then failure
      pure name
  return ⟨String.ofList name, ← extentFrom start⟩

/-- The longest path in front of a key. -/
def longestPath : Nat := 79

def dottedKey : Nat → List Key → Read (List Key × Key)
  | 0, _ => failure
  | fuel + 1, path => do
    let key ← simpleKey
    skipBlanks
    if ← accept '.' then
      if longestPath < path.length + 1 then failure
      skipBlanks
      dottedKey fuel (path ++ [key])
    else return (path, key)

def key : Read (List Key × Key) := do
  skipBlanks
  dottedKey (longestPath + 2) []

/-! Values. -/

def isScalar (c : Char) : Bool :=
  c.isAlphanum || c == '_' || c == '-' || c == '+' || c == '.' || c == ':'

/-- The length of a value without quotes or brackets. A date and a time may have one space between
them. -/
def scalarLength (text : List Char) : Nat :=
  let word := text.takeWhile isScalar
  match Scalar.date? word, text.dropWhile isScalar with
  | some [], ' ' :: c :: rest =>
    if Scalar.isDigit c then word.length + 1 + ((c :: rest).takeWhile isScalar).length
    else word.length
  | _, _ => word.length

def scalar : Read Scalar := do
  match ← peek with
  | some '"' => return .string (String.ofList (← part Quoted.string?))
  | some '\'' => return .string (String.ofList (← part Quoted.string?))
  | _ => liftM (Scalar.ofText? (← take (scalarLength (← get).rest)))

/-- The parts of a value in brackets, with commas between them and, if there is any part, perhaps
behind the last. The closing bracket is passed. -/
def parts (close : Char) (read : Read α) : Nat → Read (List α)
  | 0 => failure
  | fuel + 1 => do
    skipSpace
    if ← accept close then return []
    let found ← read
    skipSpace
    if ← accept ',' then return found :: (← parts close read fuel)
    expect close
    return [found]

def pair (value : Read Item) : Read Pair := do
  let (path, key) ← key
  expect '='
  skipBlanks
  return ⟨path, key, ← value⟩

def atom : Read Item := do
  let start ← here
  let value ← scalar
  return .scalar (← extentFrom start) value

/-- A value with at most so many brackets around its innermost part. -/
def value : Nat → Read Item
  | 0 => atom
  | depth + 1 => do
    let start ← here
    if ← accept '[' then
      let items ← parts ']' (value depth) (← fuel)
      return .array (← extentFrom start) false items
    if ← accept '\x7b' then
      let pairs ← parts '\x7d' (pair (value depth)) (← fuel)
      let entries ← liftM (Entries.addAll [] pairs)
      return .table (some (← extentFrom start)) .closed entries
    atom

def deepest : Nat := 80

/-! Lines. -/

def header : Read Header := do
  let start ← here
  expect '['
  let heading := if ← accept '[' then Heading.element else .table
  let (path, key) ← key
  expect ']'
  if heading = .element then expect ']'
  return ⟨heading, path, key, ← extentFrom start⟩

def pairs : Nat → Read (List Pair)
  | 0 => failure
  | fuel + 1 => do
    skipSpace
    match ← peek with
    | none => return []
    | some '[' => return []
    | some _ =>
      let found ← pair (value deepest)
      endLine
      return found :: (← pairs fuel)

def sections : Nat → Read (List Section)
  | 0 => failure
  | fuel + 1 => do
    match ← peek with
    | none => return []
    | some _ =>
      let header ← header
      endLine
      let pairs ← pairs (← Read.fuel)
      return ⟨header, pairs⟩ :: (← sections fuel)

/-- A byte order mark may come first. -/
def document : Read Document := do
  let _ ← accept '\ufeff'
  let pairs ← pairs (← fuel)
  return ⟨pairs, ← sections (← fuel)⟩

end Read

def Document.read? (text : String) : Option Document := (Read.document.run' ⟨text.toList, 0⟩)

instance : DocumentReader where
  read text :=
    match (Document.read? text).bind Document.entries? with
    | some entries => .ok entries
    | none => .error "not a TOML document\n"

end SyntaxQuery.Toml
