import SyntaxQuery.Grammar.Basic
import SyntaxQuery.Query.Fault
import SyntaxQuery.Query.Pattern
import SyntaxQuery.Text.Utf8

/-! Reading a query's text. Names are looked up in the grammar as soon as they are read, so the
first defect in the text is the one reported. -/
namespace SyntaxQuery.Query

structure Reader where
  rest : List Char
  /-- The number of bytes before `rest`. -/
  offset : Nat
  /-- The names of the captures, in the order of their first use. -/
  captures : List String
  /-- The predicates of the pattern that is being read. -/
  predicates : List PredicateCall

abbrev Read := StateT Reader (Except Fault)

namespace Read

def here : Read Nat := do return (← get).offset

/-- The next character; a null character counts as the end. -/
def peek : Read (Option Char) := do
  match (← get).rest with
  | c :: _ => return if c = '\x00' then none else some c
  | [] => return none

def failAt (defect : Defect) (offset : Nat) : Read α := throw (.at defect offset)

def fail (defect : Defect) : Read α := do failAt defect (← here)

def skip : Read Unit :=
  modify fun reader =>
    match reader.rest with
    | c :: rest => { reader with rest := rest, offset := reader.offset + c.utf8Size }
    | [] => reader

def isBlank (c : Char) : Bool := c == ' ' || ('\t' ≤ c && c ≤ '\r')

def dropComment : List Char → List Char
  | [] => []
  | c :: rest => if c = '\n' ∨ c = '\x00' then c :: rest else dropComment rest

theorem length_dropComment (text : List Char) : (dropComment text).length ≤ text.length := by
  fun_induction dropComment text <;> grind

def dropBlanks : List Char → List Char
  | [] => []
  | c :: rest =>
    if isBlank c then dropBlanks rest
    else if c = ';' then dropBlanks (dropComment rest)
    else c :: rest
termination_by text => text.length
decreasing_by
  · simp
  · have := length_dropComment rest
    grind

def byteCount (text : List Char) : Nat := text.foldl (fun count c => count + c.utf8Size) 0

def skipBlanks : Read Unit :=
  modify fun reader =>
    let rest := dropBlanks reader.rest
    { reader with
      rest := rest
      offset := reader.offset + (byteCount reader.rest - byteCount rest) }

def skipSymbol : Read Unit := do
  skip
  skipBlanks

def startsName (c : Char) : Bool := c.isAlphanum || c == '_' || c == '-'

def continuesName (c : Char) : Bool := startsName c || c == '.'

def nextStartsName : Read Bool := do return (← peek).any startsName

def name : Read String := do
  let reader ← get
  match reader.rest with
  | [] => return ""
  | c :: rest =>
    let text := c :: rest.takeWhile continuesName
    set { reader with
      rest := rest.dropWhile continuesName, offset := reader.offset + byteCount text }
    return String.ofList text

def unescape : Char → Char
  | 'n' => '\n'
  | 'r' => '\r'
  | 't' => '\t'
  | '0' => '\x00'
  | c => c

/-- The value of a literal whose opening quote has been passed, and what follows it. A literal ends
on its line; only a newline that is escaped may be part of it. -/
def literal : List Char → Option (List Char × List Char)
  | [] => none
  | '"' :: rest => some ([], rest)
  | '\\' :: c :: rest => (literal rest).map fun (value, rest) => (unescape c :: value, rest)
  | c :: rest =>
    if c = '\n' ∨ c = '\\' then none
    else (literal rest).map fun (value, rest) => (c :: value, rest)

/-- A literal in quotes. A defect is reported where the literal starts. -/
def quoted : Read String := do
  let reader ← get
  match reader.rest with
  | '"' :: rest =>
    match literal rest with
    | some (value, rest) =>
      set { reader with
        rest := rest, offset := reader.offset + (byteCount reader.rest - byteCount rest) }
      return String.ofList value
    | none => fail .badSyntax
  | _ => fail .badSyntax

def captureIndex (name : String) : Read Nat := do
  let reader ← get
  match reader.captures.idxOf? name with
  | some index => return index
  | none =>
    set { reader with captures := reader.captures ++ [name] }
    return reader.captures.length

/-- Any start of the word stands for the word. -/
def abbreviates (name word : String) : Bool := name.toList.isPrefixOf word.toList

def namedKind? (grammar : Grammar) (name : String) : Option Kind :=
  if abbreviates name "ERROR" then some .error
  else if grammar.hasKind (.ofName name) ∨ (grammar.members? name).isSome then some (.ofName name)
  else none

def tokenKind? (grammar : Grammar) (text : String) : Option Kind :=
  if grammar.hasKind (.ofToken text) then some (.ofToken text) else none

def testOfKind (grammar : Grammar) (kind : Kind) : NodeTest :=
  if kind.named ∧ (grammar.members? kind.name).isSome then
    { NodeTest.anything with supertype := some kind.name }
  else .ofKind kind

/-- A quoted token; an unknown one is reported behind its opening quote. -/
def token (grammar : Grammar) : Read Kind := do
  let start ← here
  let text ← quoted
  match tokenKind? grammar text with
  | some kind => return kind
  | none => failAt .unknownKind (start + 1)

/-- What follows the word that asks for nodes the parser made up. -/
def missingTest (grammar : Grammar) : Read NodeTest := do
  skipBlanks
  let start ← here
  if ← nextStartsName then
    let found ← name
    match namedKind? grammar found with
    | some kind => return { testOfKind grammar kind with missing := true }
    | none => failAt .unknownKind start
  match ← peek with
  | some '"' => return { NodeTest.ofKind (← token grammar) with missing := true }
  | some ')' => return { NodeTest.anyNamed with missing := true }
  | _ => fail .badSyntax

/-- A supertype may be narrowed to one of its members. -/
def narrow (grammar : Grammar) (start : Nat) (test : NodeTest) : Read NodeTest := do
  if (← peek) != some '/' then return test
  match test.supertype with
  | none => failAt .impossible (start - 1)
  | some supertype =>
    skip
    let memberStart ← here
    let kind? ←
      if ← nextStartsName then pure (namedKind? grammar (← name))
      else if (← peek) == some '"' then pure (tokenKind? grammar (← quoted))
      else fail .badSyntax
    match kind? with
    | none => failAt .unknownKind memberStart
    | some kind =>
      let members := (grammar.members? supertype).getD []
      if grammar.checksMembers ∧ !members.contains kind then failAt .impossible (start - 1)
      return { test with kind := some kind }

def nodeTest (grammar : Grammar) : Read NodeTest := do
  if !(← nextStartsName) then fail .badSyntax
  let start ← here
  let found ← name
  let test ←
    if found == "_" then pure NodeTest.anyNamed
    else if abbreviates found "MISSING" then missingTest grammar
    else match namedKind? grammar found with
      | some kind => pure (testOfKind grammar kind)
      | none => failAt .unknownKind start
  narrow grammar start test

def predicateArguments : Nat → Read (List Argument)
  | 0 => fail .badSyntax
  | fuel + 1 => do
    let argument ← match ← peek with
      | some ')' => skipSymbol; return []
      | some '@' =>
        skip
        if !(← nextStartsName) then fail .badSyntax
        let start ← here
        let found ← name
        match (← get).captures.idxOf? found with
        | some index => pure (Argument.capture index)
        | none => failAt .unknownCapture start
      | some '"' => pure (Argument.text (← quoted))
      | some c => if startsName c then pure (Argument.text (← name)) else fail .badSyntax
      | none => fail .badSyntax
    skipBlanks
    return argument :: (← predicateArguments fuel)

def predicate (fuel : Nat) : Read Unit := do
  if !(← nextStartsName) then fail .badSyntax
  let found ← name
  match ← peek with
  | some c =>
    if c != '?' && c != '!' then fail .badSyntax
    skipSymbol
    let arguments ← predicateArguments fuel
    modify fun reader =>
      { reader with predicates := reader.predicates ++ [⟨found.push c, arguments⟩] }
  | none => fail .badSyntax

def suffixes : Nat → Read (List Suffix)
  | 0 => return []
  | fuel + 1 => do
    let suffix ← match ← peek with
      | some '+' => skipSymbol; pure Suffix.oneOrMore
      | some '*' => skipSymbol; pure Suffix.zeroOrMore
      | some '?' => skipSymbol; pure Suffix.zeroOrOne
      | some '@' =>
        skip
        if !(← nextStartsName) then fail .badSyntax
        let found ← name
        skipBlanks
        pure (Suffix.capture (← captureIndex found))
      | _ => return []
    return suffix :: (← suffixes fuel)

def anchor : Read Bool := do
  if (← peek) == some '.' then
    skipSymbol
    return true
  return false

def markAnchored (anchored : Bool) (pattern : Pattern) : Pattern :=
  if anchored then .anchored pattern else pattern

def groupMembers (pattern : Read (Option Pattern)) : Nat → Read (List Pattern)
  | 0 => fail .badSyntax
  | fuel + 1 => do
    let anchored ← anchor
    match ← pattern with
    | some member => return markAnchored anchored member :: (← groupMembers pattern fuel)
    | none =>
      if (← peek) != some ')' then fail .badSyntax
      skip
      return []

def branches (pattern : Read (Option Pattern)) : Nat → Bool → Read (List Pattern)
  | 0, _ => fail .badSyntax
  | fuel + 1, isFirst => do
    match ← pattern with
    | some branch => return branch :: (← branches pattern fuel false)
    | none =>
      if (← peek) != some ']' || isFirst then fail .badSyntax
      skip
      return []

def absentField (grammar : Grammar) : Read String := do
  skipSymbol
  if !(← nextStartsName) then fail .badSyntax
  let start ← here
  let found ← name
  skipBlanks
  if !grammar.hasField found then failAt .unknownField start
  return found

structure Body where
  absent : List String
  children : List Pattern
  closed : Bool

/-- Of the fields that a node must not have, the first eight are heeded. -/
def absentLimit : Nat := 8

/-- What stands in a node pattern behind its name, up to the closing parenthesis. An anchor before
that parenthesis needs a child in front of it. -/
def body (grammar : Grammar) (pattern : Read (Option Pattern)) : Nat → Body → Read Body
  | 0, _ => fail .badSyntax
  | fuel + 1, before => do
    if (← peek) == some '!' then
      let found ← absentField grammar
      body grammar pattern fuel { before with absent := (before.absent ++ [found]).take absentLimit }
    else
      let anchored ← anchor
      match ← pattern with
      | some child =>
        body grammar pattern fuel
          { before with children := before.children ++ [markAnchored anchored child] }
      | none =>
        if (← peek) != some ')' then fail .badSyntax
        if anchored && before.children.isEmpty then fail .badSyntax
        skip
        return { before with closed := anchored }

def startsGroup (c : Char) : Bool := c == '(' || c == '"' || c == '['

def pattern (grammar : Grammar) : Nat → Read (Option Pattern)
  | 0 => fail .badSyntax
  | fuel + 1 => do
    let start ← here
    let inner := pattern grammar fuel
    let withSuffixes (build : List Suffix → Pattern) : Read (Option Pattern) := do
      skipBlanks
      return some (build (← suffixes fuel))
    match ← peek with
    | some ')' | some ']' => return none
    | some '[' =>
      skipSymbol
      let found ← branches inner fuel true
      withSuffixes (.choice start found)
    | some '(' =>
      skipSymbol
      match ← peek with
      | some c =>
        if startsGroup c then
          let members ← groupMembers inner fuel
          withSuffixes (.group start members)
        else if c == '.' || c == '#' then
          skip
          predicate fuel
          return some (.predicate start)
        else
          let test ← nodeTest grammar
          skipBlanks
          let found ← body grammar inner fuel ⟨[], [], false⟩
          withSuffixes (.node start test found.absent found.children found.closed)
      | none => fail .badSyntax
    | some '_' =>
      skip
      withSuffixes (.node start .anything [] [] false)
    | some '"' =>
      let kind ← token grammar
      withSuffixes (.node start (.ofKind kind) [] [] false)
    | some c =>
      if !startsName c then fail .badSyntax
      let found ← name
      skipBlanks
      if (← peek) != some ':' then failAt .badSyntax start
      skipSymbol
      match ← inner with
      | none => fail .badSyntax
      | some labelled =>
        if !grammar.hasField found then failAt .unknownField start
        return some (.field start found labelled)
    | none => fail .badSyntax

def clauses (grammar : Grammar) (limit : Nat) : Nat → Read (List Clause)
  | 0 => return []
  | fuel + 1 => do
    if (← get).rest.isEmpty then return []
    let start ← here
    modify fun reader => { reader with predicates := [] }
    match ← pattern grammar limit with
    | none => fail .badSyntax
    | some found =>
      let clause : Clause := ⟨start, found, (← get).predicates⟩
      return clause :: (← clauses grammar limit fuel)

end Read

/-- The patterns of a query and the names of its captures. Every character is passed once, which
bounds the nesting and the number of patterns. -/
def read (grammar : Grammar) (source : String) : Except Fault (List Clause × List String) := do
  let text := source.toList
  let limit := text.length + 1
  let (clauses, reader) ← (do
    Read.skipBlanks
    Read.clauses grammar limit limit : Read (List Clause)).run ⟨text, 0, [], []⟩
  return (clauses, reader.captures)

end SyntaxQuery.Query
