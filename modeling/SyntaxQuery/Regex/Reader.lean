import SyntaxQuery.Regex.Fault
import SyntaxQuery.Unicode.Lookup

/-! Reading a pattern. The reader keeps a place in the pattern and the open groups and classes on
stacks; every defect is reported where it is found, with the extent that shows it best. -/
namespace SyntaxQuery.Regex

structure Sequence where
  start : Nat
  parts : List Expression

def Sequence.finish (sequence : Sequence) (stop : Nat) : Expression :=
  match sequence.parts with
  | [] => .empty ⟨sequence.start, stop⟩
  | [part] => part
  | parts => .concatenation ⟨sequence.start, stop⟩ parts

def Sequence.push (sequence : Sequence) (part : Expression) : Sequence :=
  { sequence with parts := sequence.parts ++ [part] }

structure OpenGroup where
  before : Sequence
  extent : Extent
  flags : Option FlagGroup
  /-- Whether blanks were ignored outside the group. -/
  ignoredSpace : Bool

inductive GroupFrame where
  | group (group : OpenGroup)
  | branches (start : Nat) (finished : List Expression)

structure ClassUnion where
  extent : Extent
  items : List ClassSet

namespace ClassUnion

def push (union : ClassUnion) (item : ClassSet) : ClassUnion :=
  let start := if union.items.isEmpty then item.extent.start else union.extent.start
  ⟨⟨start, item.extent.stop⟩, union.items ++ [item]⟩

def finish (union : ClassUnion) : ClassSet :=
  match union.items with
  | [] => .empty union.extent
  | [item] => item
  | items => .union union.extent items

end ClassUnion

inductive ClassFrame where
  | opened (around : ClassUnion) (extent : Extent) (negated : Bool)
  | operator (operator : SetOperator) (left : ClassSet)

structure Reader where
  pattern : Array Char
  place : Nat
  ignoreSpace : Bool
  groups : List GroupFrame
  classes : List ClassFrame
  names : List (List Char × Extent)

abbrev Read := StateT Reader (Except Fault)

namespace Read

def here : Read Nat := do return (← get).place

def peekAt (ahead : Nat) : Read (Option Char) := do
  let reader ← get
  return reader.pattern[reader.place + ahead]?

def current : Read (Option Char) := peekAt 0

def atEnd : Read Bool := do return (← current).isNone

def fail (defect : Defect) (extent : Extent) : Read α := throw ⟨defect, extent, none⟩

def charExtent : Read Extent := do
  let place ← here
  return ⟨place, if ← atEnd then place else place + 1⟩

def emptyExtent : Read Extent := do return .at (← here)

def bump : Read Bool := do
  if ← atEnd then return false
  modify fun reader => { reader with place := reader.place + 1 }
  return !(← atEnd)

def lookingAt (text : List Char) : Read Bool := do
  let reader ← get
  return (text.zipIdx.all fun (c, i) => reader.pattern[reader.place + i]? == some c)

def bumpIf (text : String) : Read Bool := do
  if ← lookingAt text.toList then
    modify fun reader => { reader with place := reader.place + text.length }
    return true
  return false

def bumpAny : List String → Read Bool
  | [] => return false
  | text :: texts => do
    if ← bumpIf text then return true
    bumpAny texts

def skipComment (pattern : Array Char) : Nat → Nat → Nat
  | 0, place => place
  | fuel + 1, place =>
    match pattern[place]? with
    | none => place
    | some '\n' => place + 1
    | some _ => skipComment pattern fuel (place + 1)

def skipBlanks (pattern : Array Char) : Nat → Nat → Nat
  | 0, place => place
  | fuel + 1, place =>
    match pattern[place]? with
    | none => place
    | some '#' => skipBlanks pattern fuel (skipComment pattern (pattern.size + 1) place)
    | some c => if Unicode.isWhiteSpace c then skipBlanks pattern fuel (place + 1) else place

/-- Where blanks are ignored, skips them and comments. -/
def bumpSpace : Read Unit :=
  modify fun reader =>
    if reader.ignoreSpace then
      { reader with place := skipBlanks reader.pattern (reader.pattern.size + 1) reader.place }
    else reader

def bumpAndSpace : Read Bool := do
  if !(← bump) then return false
  bumpSpace
  return !(← atEnd)

/-- The next character that is not a blank. A comment is passed over only up to its first
character that is not a blank. -/
def peekSpace : Read (Option Char) := do
  let reader ← get
  if !reader.ignoreSpace then return ← peekAt 1
  if ← atEnd then return none
  let ahead := reader.pattern.toList.drop (reader.place + 1)
  let rest := ahead.dropWhile Unicode.isWhiteSpace
  let found := match rest with
    | '#' :: more => more.dropWhile Unicode.isWhiteSpace
    | _ => rest
  match found with
  | c :: _ => return some c
  | [] => return ahead.head?

def isHex (c : Char) : Bool :=
  c.isDigit || ('a' ≤ c && c ≤ 'f') || ('A' ≤ c && c ≤ 'F')

/-- The character with this number; surrogates and numbers past the last have none. -/
def scalar? (n : Nat) : Option Char :=
  if n < 0xD800 || (0xE000 ≤ n && n ≤ 0x10FFFF) then some (Char.ofNat n) else none

def hexDigits (start : Nat) : Nat → Nat → List Char → Read Literal
  | 0, _, digits => do
    let _ ← bumpAndSpace
    let extent : Extent := ⟨start, ← here⟩
    match scalar? (Unicode.Ranges.hexNumber digits) with
    | none => fail .escapeHexInvalid extent
    | some c => return ⟨extent, c, digits.length == 2⟩
  | count + 1, taken, digits => do
    if taken > 0 then
      if !(← bumpAndSpace) then fail .escapeUnexpectedEnd (← emptyExtent)
    match ← current with
    | some c =>
      if !isHex c then fail .escapeHexInvalidDigit (← charExtent)
      hexDigits start count (taken + 1) (digits ++ [c])
    | none => fail .escapeHexInvalidDigit (← charExtent)

def bracedDigits : Nat → List Char → Read (List Char)
  | 0, digits => return digits
  | fuel + 1, digits => do
    if !(← bumpAndSpace) then return digits
    match ← current with
    | some '}' => return digits
    | some c =>
      if !isHex c then fail .escapeHexInvalidDigit (← charExtent)
      bracedDigits fuel (digits ++ [c])
    | none => return digits

def hexBraced : Read Literal := do
  let brace ← here
  let start := (← charExtent).stop
  let digits ← bracedDigits ((← get).pattern.size + 1) []
  if ← atEnd then fail .escapeUnexpectedEnd ⟨brace, ← here⟩
  let stop ← here
  let _ ← bumpAndSpace
  if digits.isEmpty then fail .escapeHexEmpty ⟨brace, ← here⟩
  match scalar? (Unicode.Ranges.hexNumber digits) with
  | none => fail .escapeHexInvalid ⟨start, stop⟩
  | some c => return ⟨⟨start, ← here⟩, c, false⟩

def hexLiteral (width : Nat) : Read Literal := do
  if !(← bumpAndSpace) then fail .escapeUnexpectedEnd (← emptyExtent)
  if (← current) == some '{' then hexBraced
  else hexDigits (← here) width 0 []

def bracedName : Nat → List Char → Read (List Char)
  | 0, name => return name
  | fuel + 1, name => do
    if !(← bumpAndSpace) then return name
    match ← current with
    | some '}' => return name
    | some c => bracedName fuel (name ++ [c])
    | none => return name

/-- The parts before and behind the first occurrence of a separator. -/
def splitAt? (separator : List Char) : List Char → Option (List Char × List Char)
  | [] => none
  | c :: rest =>
    if separator.isPrefixOf (c :: rest) then some ([], (c :: rest).drop separator.length)
    else (splitAt? separator rest).map fun (before, behind) => (c :: before, behind)

/-- A name with a value is split at "!=", else at a colon, else at "=". -/
def propertyName (name : List Char) : PropertyName :=
  match splitAt? ['!', '='] name <|> splitAt? [':'] name <|> splitAt? ['='] name with
  | some (before, behind) => .valued before behind
  | none => .single name

/-- A set by name; the place is at the letter behind the backslash. -/
def namedSet : Read PropertyName := do
  if !(← bumpAndSpace) then fail .escapeUnexpectedEnd (← emptyExtent)
  match ← current with
  | some '{' =>
    let name ← bracedName ((← get).pattern.size + 1) []
    if ← atEnd then fail .escapeUnexpectedEnd (← emptyExtent)
    let _ ← bump
    return propertyName name
  | some '\\' => fail .propertyNameInvalid (← charExtent)
  | some c =>
    let _ ← bumpAndSpace
    return .single [c]
  | none => fail .escapeUnexpectedEnd (← emptyExtent)

def isMeta (c : Char) : Bool := "\\.+*?()|[]\x7b\x7d^$#&-~".toList.contains c

/-- Characters that a backslash may stand before without need: every other ASCII character that is
neither a letter or digit nor an angle bracket. -/
def isEscapable (c : Char) : Bool :=
  c.toNat < 0x80 && !c.isAlphanum && c != '<' && c != '>'

def boundaryName : Nat → List Char → Read (List Char)
  | 0, name => return name
  | fuel + 1, name => do
    match ← current with
    | some c =>
      if c.isAlpha || c == '-' then
        let _ ← bumpAndSpace
        boundaryName fuel (name ++ [c])
      else return name
    | none => return name

/-- What stands in braces behind a word boundary, if it can be a kind of boundary; otherwise the
brace is left for a counted repetition. -/
def boundaryKind (escape : Nat) : Read (Option Assertion) := do
  let brace ← here
  if !(← bumpAndSpace) then
    fail .specialWordOrRepetitionUnexpectedEnd ⟨escape, ← here⟩
  let start ← here
  let first := (← current).getD ' '
  if !(first.isAlpha || first == '-') then
    modify fun reader => { reader with place := brace }
    return none
  let name ← boundaryName ((← get).pattern.size + 1) []
  if (← current) != some '}' then fail .specialWordBoundaryUnclosed ⟨brace, ← here⟩
  let stop ← here
  let _ ← bump
  match String.ofList name with
  | "start" => return some .wordStart
  | "end" => return some .wordEnd
  | "start-half" => return some .wordStartHalf
  | "end-half" => return some .wordEndHalf
  | _ => fail .specialWordBoundaryUnrecognized ⟨start, stop⟩

def control? : Char → Option Char
  | 'a' => some '\x07'
  | 'f' => some '\x0c'
  | 't' => some '\t'
  | 'n' => some '\n'
  | 'r' => some '\r'
  | 'v' => some '\x0b'
  | _ => none

def escape : Read Expression := do
  let start ← here
  if !(← bump) then fail .escapeUnexpectedEnd ⟨start, ← here⟩
  let c := (← current).getD ' '
  let hex (width : Nat) : Read Expression := do
    let literal ← hexLiteral width
    return .literal { literal with
      extent := ⟨start, literal.extent.stop⟩, byteNumber := width == 2 && literal.byteNumber }
  let perl (kind : PerlClass) (negated : Bool) : Read Expression := do
    let _ ← bump
    return .perl ⟨start, ← here⟩ kind negated
  if c.isDigit then fail .unsupportedBackreference ⟨start, (← charExtent).stop⟩
  match c with
  | 'x' => hex 2
  | 'u' => hex 4
  | 'U' => hex 8
  | 'p' | 'P' =>
    let name ← namedSet
    return .property ⟨start, ← here⟩ name (c == 'P')
  | 'd' => perl .digit false
  | 's' => perl .space false
  | 'w' => perl .word false
  | 'D' => perl .digit true
  | 'S' => perl .space true
  | 'W' => perl .word true
  | _ =>
    let _ ← bump
    let extent : Extent := ⟨start, ← here⟩
    if isMeta c || isEscapable c then return .literal ⟨extent, c, false⟩
    match control? c with
    | some plain => return .literal ⟨extent, plain, false⟩
    | none =>
      match c with
      | 'A' => return .assertion extent .startText
      | 'z' => return .assertion extent .endText
      | 'b' =>
        if (← current) == some '{' then
          match ← boundaryKind start with
          | some kind => return .assertion ⟨start, ← here⟩ kind
          | none => return .assertion extent .wordBoundary
        else return .assertion extent .wordBoundary
      | 'B' => return .assertion extent .notWordBoundary
      | '<' => return .assertion extent .wordStart
      | '>' => return .assertion extent .wordEnd
      | _ => fail .escapeUnrecognized extent

def primitive (c : Char) : Read Expression := do
  if c == '\\' then return ← escape
  let extent ← charExtent
  let _ ← bump
  match c with
  | '.' => return .dot extent
  | '^' => return .assertion extent .startLine
  | '$' => return .assertion extent .endLine
  | _ => return .literal ⟨extent, c, false⟩

/-! Classes. -/

def asciiClass? : String → Option AsciiClass
  | "alnum" => some .alnum
  | "alpha" => some .alpha
  | "ascii" => some .ascii
  | "blank" => some .blank
  | "cntrl" => some .cntrl
  | "digit" => some .digit
  | "graph" => some .graph
  | "lower" => some .lower
  | "print" => some .print
  | "punct" => some .punct
  | "space" => some .space
  | "upper" => some .upper
  | "word" => some .word
  | "xdigit" => some .xdigit
  | _ => none

/-- A class such as "[:alpha:]"; if the text is no such class, nothing is read. -/
def namedAscii? : Read (Option ClassSet) := do
  let reader ← get
  let start := reader.place
  match reader.pattern.toList.drop start with
  | '[' :: ':' :: rest =>
    let (negated, body) := match rest with
      | '^' :: more => (true, more)
      | _ => (false, rest)
    let (name, tail) := body.span (· != ':')
    match tail, asciiClass? (String.ofList name) with
    | ':' :: ']' :: _, some kind =>
      let stop := start + 4 + name.length + if negated then 1 else 0
      set { reader with place := stop }
      return some (.ascii ⟨start, stop⟩ kind negated)
    | _, _ => return none
  | _ => return none

def unclosedClass : Read α := do
  let innermost := (← get).classes.findSome? fun
    | .opened _ extent _ => some extent
    | .operator _ _ => none
  fail .classUnclosed (innermost.getD (← emptyExtent))

def classItem : Read Expression := do
  match ← current with
  | some '\\' => escape
  | some c =>
    let extent ← charExtent
    let _ ← bump
    return .literal ⟨extent, c, false⟩
  | none => unclosedClass

def asSetItem : Expression → Read ClassSet
  | .literal literal => return .literal literal
  | .perl extent kind negated => return .perl extent kind negated
  | .property extent name negated => return .property extent name negated
  | other => fail .classEscapeInvalid other.extent

def asBound : Expression → Read Literal
  | .literal literal => return literal
  | other => fail .classRangeLiteral other.extent

/-- One item, or a range of two; a dash before a closing bracket or another dash makes no range. -/
def classRange : Read ClassSet := do
  let first ← classItem
  bumpSpace
  if ← atEnd then unclosedClass
  let ahead ← peekSpace
  if (← current) != some '-' || ahead == some ']' || ahead == some '-' then
    return ← asSetItem first
  if !(← bumpAndSpace) then unclosedClass
  let second ← classItem
  let extent : Extent := ⟨first.extent.start, second.extent.stop⟩
  let low ← asBound first
  let high ← asBound second
  if high.char < low.char then fail .classRangeInvalid extent
  return .range extent low high

/-- Dashes at the start of a class stand for themselves. -/
def leadingDashes (start : Nat) : Nat → ClassUnion → Read ClassUnion
  | 0, union => return union
  | fuel + 1, union => do
    if (← current) == some '-' then
      let extent ← charExtent
      if !(← bumpAndSpace) then fail .classUnclosed (.at start)
      leadingDashes start fuel (union.push (.literal ⟨extent, '-', false⟩))
    else return union

/-- Opens a class; the place is at its bracket. A closing bracket that comes first is a member. -/
def openClass (around : ClassUnion) : Read ClassUnion := do
  let start ← here
  if !(← bumpAndSpace) then fail .classUnclosed ⟨start, ← here⟩
  let negated := (← current) == some '^'
  if negated then
    if !(← bumpAndSpace) then fail .classUnclosed ⟨start, ← here⟩
  let union ← leadingDashes start ((← get).pattern.size + 1) ⟨← emptyExtent, []⟩
  let mut members := union
  if union.items.isEmpty && (← current) == some ']' then
    members := union.push (.literal ⟨← charExtent, ']', false⟩)
    if !(← bumpAndSpace) then fail .classUnclosed ⟨start, ← here⟩
  let stop ← here
  modify fun reader => { reader with classes := .opened around ⟨start, stop⟩ negated :: reader.classes }
  return members

/-- Operators bind equally and to the left. -/
def closeOperator (right : ClassSet) : Read ClassSet := do
  match (← get).classes with
  | .operator operator left :: rest =>
    modify fun reader => { reader with classes := rest }
    return .operation ⟨left.extent.start, right.extent.stop⟩ operator left right
  | _ => return right

def pushOperator (operator : SetOperator) (union : ClassUnion) : Read ClassUnion := do
  let left ← closeOperator union.finish
  modify fun reader => { reader with classes := .operator operator left :: reader.classes }
  return ⟨← emptyExtent, []⟩

def closeClass (union : ClassUnion) : Read (ClassUnion ⊕ Expression) := do
  let set ← closeOperator union.finish
  match (← get).classes with
  | .opened around extent negated :: rest =>
    let _ ← bump
    let closed : Extent := ⟨extent.start, ← here⟩
    modify fun reader => { reader with classes := rest }
    if rest.isEmpty then return .inr (.bracketed closed negated set)
    else return .inl (around.push (.bracketed closed negated set))
  | _ => unclosedClass

/-- Every round reads at least one character, so the length of the pattern bounds the rounds. -/
def classBody : Nat → ClassUnion → Read Expression
  | 0, _ => unclosedClass
  | fuel + 1, union => do
    bumpSpace
    match ← current with
    | none => unclosedClass
    | some '[' =>
      match ← (if (← get).classes.isEmpty then pure none else namedAscii?) with
      | some item => classBody fuel (union.push item)
      | none => classBody fuel (← openClass union)
    | some ']' =>
      match ← closeClass union with
      | .inl around => classBody fuel around
      | .inr closed => return closed
    | some _ =>
      if ← bumpIf "&&" then classBody fuel (← pushOperator .intersection union)
      else if ← bumpIf "--" then classBody fuel (← pushOperator .difference union)
      else if ← bumpIf "~~" then classBody fuel (← pushOperator .symmetricDifference union)
      else classBody fuel (union.push (← classRange))

def bracketedClass : Read Expression := do
  classBody ((← get).pattern.size + 1) ⟨← emptyExtent, []⟩

/-! Groups. -/

def flagOf? : Char → Option Flag
  | 'i' => some .caseInsensitive
  | 'm' => some .multiLine
  | 's' => some .dotMatchesNewLine
  | 'U' => some .swapGreed
  | 'u' => some .unicode
  | 'R' => some .carriageReturns
  | 'x' => some .ignoreWhitespace
  | _ => none

/-- Flags up to a colon or a closing parenthesis; `seen` holds each item with its extent, the minus
as `none`. -/
def flagItems : Nat → List (Option Flag × Extent) → Read (List (Option Flag × Extent))
  | 0, seen => return seen
  | fuel + 1, seen => do
    match ← current with
    | none => fail .flagUnexpectedEnd (← emptyExtent)
    | some c =>
      if c == ':' || c == ')' then
        match seen.getLast? with
        | some (none, extent) => fail .flagDanglingNegation extent
        | _ => return seen
      let extent ← charExtent
      let item ← (if c == '-' then pure none else
        match flagOf? c with
        | some flag => pure (some flag)
        | none => fail .flagUnrecognized extent)
      match seen.find? (·.1 == item) with
      | some (_, earlier) =>
        let defect := if item.isNone then Defect.flagRepeatedNegation else .flagDuplicate
        throw ⟨defect, extent, some earlier⟩
      | none => pure ()
      if !(← bump) then fail .flagUnexpectedEnd (← emptyExtent)
      flagItems fuel (seen ++ [(item, extent)])

def flagGroup : Read FlagGroup := do
  let items ← flagItems ((← get).pattern.size + 1) []
  let set := items.takeWhile (·.1.isSome)
  return ⟨(items.filterMap (·.1)).zipIdx.map fun (flag, i) => (flag, i < set.length)⟩

def isNameChar (first : Bool) (c : Char) : Bool :=
  if first then c == '_' || Unicode.isAlphabetic c
  else c == '_' || c == '.' || c == '[' || c == ']' || Unicode.isAlphanumeric c

def nameChars (start : Nat) : Nat → Read Unit
  | 0 => return ()
  | fuel + 1 => do
    match ← current with
    | none => return ()
    | some '>' => return ()
    | some c =>
      if !isNameChar ((← here) == start) c then fail .groupNameInvalid (← charExtent)
      let _ ← bump
      nameChars start fuel

def groupName : Read Unit := do
  if ← atEnd then fail .groupNameUnexpectedEnd (← emptyExtent)
  let start ← here
  nameChars start ((← get).pattern.size + 1)
  let stop ← here
  if ← atEnd then fail .groupNameUnexpectedEnd (← emptyExtent)
  let _ ← bump
  let reader ← get
  let name := (reader.pattern.toList.drop start).take (stop - start)
  if name.isEmpty then fail .groupNameEmpty (.at start)
  match reader.names.find? (·.1 == name) with
  | some (_, earlier) => throw ⟨.groupNameDuplicate, ⟨start, stop⟩, some earlier⟩
  | none =>
    let named : List Char × Extent := (name, ⟨start, stop⟩)
    set { reader with names := reader.names ++ [named] }

def setIgnoreSpace (flags : FlagGroup) : Read Unit :=
  modify fun reader =>
    { reader with ignoreSpace := (flags.setting? .ignoreWhitespace).getD reader.ignoreSpace }

def enterGroup (before : Sequence) (extent : Extent) (flags : Option FlagGroup) : Read Sequence := do
  modify fun reader => { reader with
    groups := .group ⟨before, extent, flags, reader.ignoreSpace⟩ :: reader.groups }
  setIgnoreSpace (flags.getD ⟨[]⟩)
  return ⟨← here, []⟩

def openGroup (before : Sequence) : Read Sequence := do
  let extent ← charExtent
  let _ ← bump
  bumpSpace
  if ← bumpAny ["?=", "?!", "?<=", "?<!"] then
    fail .unsupportedLookAround ⟨extent.start, ← here⟩
  let inner ← emptyExtent
  if ← bumpAny ["?P<", "?<"] then
    groupName
    enterGroup before extent none
  else if ← bumpIf "?" then
    if ← atEnd then fail .groupUnclosed extent
    let flags ← flagGroup
    let closed := (← current) == some ')'
    let _ ← bump
    if closed then
      if flags.settings.isEmpty then fail .repetitionMissing inner
      setIgnoreSpace flags
      return before.push (.flags ⟨extent.start, ← here⟩ flags)
    enterGroup before extent (some flags)
  else enterGroup before extent none

/-- The branches of the innermost group, with the last one closed. -/
def closeBranches (last : Sequence) (frames : List GroupFrame) : Read (Expression × List GroupFrame) := do
  let stop ← here
  match frames with
  | .branches start finished :: rest =>
    return (.alternation ⟨start, stop⟩ (finished ++ [last.finish stop]), rest)
  | _ => return (last.finish stop, frames)

def closeGroup (last : Sequence) : Read Sequence := do
  let (inner, frames) ← closeBranches last (← get).groups
  match frames with
  | .group opened :: rest =>
    let _ ← bump
    let stop ← here
    modify fun reader => { reader with groups := rest, ignoreSpace := opened.ignoredSpace }
    return opened.before.push (.group ⟨opened.extent.start, stop⟩ opened.flags inner)
  | _ => fail .groupUnopened (← charExtent)

def closePattern (last : Sequence) : Read Expression := do
  let (inner, frames) ← closeBranches last (← get).groups
  match frames with
  | .group opened :: _ => fail .groupUnclosed opened.extent
  | _ => return inner

def nextBranch (last : Sequence) : Read Sequence := do
  let stop ← here
  modify fun reader => { reader with groups :=
    match reader.groups with
    | .branches start finished :: rest => .branches start (finished ++ [last.finish stop]) :: rest
    | groups => .branches last.start [last.finish stop] :: groups }
  let _ ← bump
  return ⟨← here, []⟩

/-! Repetitions. -/

/-- What a repetition operator applies to, and what comes before it. -/
def operand (sequence : Sequence) : Read (Sequence × Expression) := do
  match sequence.parts.getLast? with
  | none | some (.empty _) | some (.flags _ _) => fail .repetitionMissing (← emptyExtent)
  | some last => return ({ sequence with parts := sequence.parts.dropLast }, last)

def repetition (sequence : Sequence) (least : Nat) (most : Option Nat) : Read Sequence := do
  let (before, inner) ← operand sequence
  if ← bump then
    if (← current) == some '?' then
      let _ ← bump
  return before.push (.repetition ⟨inner.extent.start, ← here⟩ least most inner)

def skipWhiteSpace (andComments : Bool) : Nat → Read Unit
  | 0 => return ()
  | fuel + 1 => do
    match ← current with
    | some c =>
      if Unicode.isWhiteSpace c then
        if andComments then let _ ← bumpAndSpace
        else let _ ← bump
        skipWhiteSpace andComments fuel
    | none => return ()

def digits : Nat → List Char → Read (List Char)
  | 0, taken => return taken
  | fuel + 1, taken => do
    match ← current with
    | some c =>
      if c.isDigit then
        let _ ← bumpAndSpace
        digits fuel (taken ++ [c])
      else return taken
    | none => return taken

/-- A count. A count that cannot be read is a fault only if no other fault is found before it is
needed. -/
def count : Read (Except Fault Nat) := do
  let fuel := (← get).pattern.size + 1
  skipWhiteSpace false fuel
  let start ← here
  let taken ← digits fuel []
  let extent : Extent := ⟨start, ← here⟩
  skipWhiteSpace true fuel
  let value := taken.foldl (fun n c => n * 10 + (c.toNat - 48)) 0
  if taken.isEmpty then return .error ⟨.repetitionCountDecimalEmpty, extent, none⟩
  else if value < UInt32.size then return .ok value
  else return .error ⟨.decimalInvalid, extent, none⟩

def needed : Except Fault Nat → Read Nat
  | .ok value => return value
  | .error fault => throw fault

def countedRange (start : Nat) (least : Except Fault Nat) : Read (Nat × Option Nat) := do
  if (← current) == some ',' then
    if !(← bumpAndSpace) then fail .repetitionCountUnclosed ⟨start, ← here⟩
    if (← current) == some '}' then return (← needed least, none)
    else
      let least ← needed least
      return (least, some (← needed (← count)))
  else
    let exactly ← needed least
    return (exactly, some exactly)

def countedRepetition (sequence : Sequence) : Read Sequence := do
  let start ← here
  let (before, inner) ← operand sequence
  if !(← bumpAndSpace) then fail .repetitionCountUnclosed ⟨start, ← here⟩
  let first ← count
  if ← atEnd then fail .repetitionCountUnclosed ⟨start, ← here⟩
  let (least, most) ← countedRange start first
  if (← current) != some '}' then fail .repetitionCountUnclosed ⟨start, ← here⟩
  if ← bumpAndSpace then
    if (← current) == some '?' then
      let _ ← bump
  let stop ← here
  if most.any (· < least) then fail .repetitionCountInvalid ⟨start, stop⟩
  return before.push (.repetition ⟨inner.extent.start, stop⟩ least most inner)

/-! The pattern as a whole. -/

/-- Every round reads at least one character. -/
def body : Nat → Sequence → Read Expression
  | 0, sequence => closePattern sequence
  | fuel + 1, sequence => do
    bumpSpace
    match ← current with
    | none => closePattern sequence
    | some '(' => body fuel (← openGroup sequence)
    | some ')' => body fuel (← closeGroup sequence)
    | some '|' => body fuel (← nextBranch sequence)
    | some '[' => body fuel (sequence.push (← bracketedClass))
    | some '?' => body fuel (← repetition sequence 0 (some 1))
    | some '*' => body fuel (← repetition sequence 0 none)
    | some '+' => body fuel (← repetition sequence 1 none)
    | some '{' => body fuel (← countedRepetition sequence)
    | some c => body fuel (sequence.push (← primitive c))

end Read

/-! Nesting is limited, so that later stages may recurse. -/

def nestLimit : Nat := 250

def deeper (depth : Nat) (extent : Extent) : Except Fault Nat :=
  if depth < nestLimit then .ok (depth + 1)
  else .error ⟨.nestLimitExceeded nestLimit, extent, none⟩

def ClassSet.checkNesting (depth : Nat) : ClassSet → Except Fault Unit
  | .bracketed extent _ set => do set.checkNesting (← deeper depth extent)
  | .union extent items => do checkAll (← deeper depth extent) items
  | .operation extent _ left right => do
    let depth ← deeper depth extent
    left.checkNesting depth
    right.checkNesting depth
  | _ => .ok ()
where
  checkAll (depth : Nat) : List ClassSet → Except Fault Unit
    | [] => .ok ()
    | item :: items => do
      item.checkNesting depth
      checkAll depth items

def Expression.checkNesting (depth : Nat) : Expression → Except Fault Unit
  | .bracketed extent _ set => do set.checkNesting (← deeper depth extent)
  | .repetition extent _ _ inner => do inner.checkNesting (← deeper depth extent)
  | .group extent _ inner => do inner.checkNesting (← deeper depth extent)
  | .concatenation extent parts => do checkAll (← deeper depth extent) parts
  | .alternation extent branches => do checkAll (← deeper depth extent) branches
  | _ => .ok ()
where
  checkAll (depth : Nat) : List Expression → Except Fault Unit
    | [] => .ok ()
    | part :: parts => do
      part.checkNesting depth
      checkAll depth parts

def Expression.read (pattern : List Char) : Except Fault Expression := do
  let reader : Reader := ⟨pattern.toArray, 0, false, [], [], []⟩
  let (expression, _) ← (Read.body (pattern.length + 1) ⟨0, []⟩).run reader
  expression.checkNesting 0
  return expression

end SyntaxQuery.Regex
