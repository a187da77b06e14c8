import SyntaxQuery.Regex.Reader

/-! What a pattern matches: the flags that are in force at each part are worked in, and classes
become sets. -/
namespace SyntaxQuery.Regex

open Unicode

/-- Conditions on a place in the text. Boundaries look at characters, or at ASCII bytes alone. -/
inductive Look where
  | textStart
  | textEnd
  | lineStart (carriageReturns : Bool)
  | lineEnd (carriageReturns : Bool)
  | wordBoundary (unicode : Bool)
  | notWordBoundary (unicode : Bool)
  | wordStart (unicode : Bool)
  | wordEnd (unicode : Bool)
  | wordStartHalf (unicode : Bool)
  | wordEndHalf (unicode : Bool)
deriving Repr, DecidableEq

inductive Node where
  | empty
  | look (look : Look)
  /-- One byte of the set. -/
  | byte (set : Ranges)
  /-- One character of the set, in its encoding. -/
  | scalar (set : Ranges)
  | sequence (parts : List Node)
  | choice (branches : List Node)
  | repetition (least : Nat) (most : Option Nat) (inner : Node)

structure Mode where
  caseInsensitive : Bool
  multiLine : Bool
  dotMatchesNewLine : Bool
  unicode : Bool
  carriageReturns : Bool
deriving Repr, DecidableEq

namespace Mode

def initial : Mode := ⟨false, false, false, true, false⟩

def update (mode : Mode) (flags : FlagGroup) : Mode where
  caseInsensitive := (flags.setting? .caseInsensitive).getD mode.caseInsensitive
  multiLine := (flags.setting? .multiLine).getD mode.multiLine
  dotMatchesNewLine := (flags.setting? .dotMatchesNewLine).getD mode.dotMatchesNewLine
  unicode := (flags.setting? .unicode).getD mode.unicode
  carriageReturns := (flags.setting? .carriageReturns).getD mode.carriageReturns

/-- The last member that a class can have. -/
def top (mode : Mode) : Nat := if mode.unicode then Ranges.top else 0xFF

def node (mode : Mode) (set : Ranges) : Node := if mode.unicode then .scalar set else .byte set

def fold (mode : Mode) (set : Ranges) : Ranges :=
  if !mode.caseInsensitive then Ranges.normalize set
  else if mode.unicode then CaseFold.close set
  else CaseFold.closeAscii set

def negateIf (mode : Mode) (negated : Bool) (set : Ranges) : Ranges :=
  if negated then Ranges.complement mode.top set else set

end Mode

def AsciiClass.members : AsciiClass → Ranges
  | alnum => [(48, 57), (65, 90), (97, 122)]
  | alpha => [(65, 90), (97, 122)]
  | ascii => [(0, 127)]
  | blank => [(9, 9), (32, 32)]
  | cntrl => [(0, 31), (127, 127)]
  | digit => [(48, 57)]
  | graph => [(33, 126)]
  | lower => [(97, 122)]
  | print => [(32, 126)]
  | punct => [(33, 47), (58, 64), (91, 96), (123, 126)]
  | space => [(9, 13), (32, 32)]
  | upper => [(65, 90)]
  | word => [(48, 57), (65, 90), (95, 95), (97, 122)]
  | xdigit => [(48, 57), (65, 70), (97, 102)]

def PerlClass.members (mode : Mode) : PerlClass → Ranges
  | digit => if mode.unicode then decimal else AsciiClass.digit.members
  | space => if mode.unicode then whiteSpace else AsciiClass.space.members
  | word => if mode.unicode then Unicode.word else AsciiClass.word.members

def PropertyName.members (mode : Mode) (extent : Extent) (negated : Bool) (name : PropertyName) :
    Except Fault Ranges :=
  if !mode.unicode then .error ⟨.unicodeNotAllowed, extent, none⟩
  else
    let found := match name with
      | .single name => Unicode.named name
      | .valued name value => Unicode.valued name value
    match found with
    | .ok set => .ok (mode.negateIf negated (mode.fold set))
    | .error .property => .error ⟨.propertyNotFound, extent, none⟩
    | .error .value => .error ⟨.propertyValueNotFound, extent, none⟩

/-- A literal as a class member. Byte classes take bytes written as numbers and ASCII. -/
def Literal.member (mode : Mode) (literal : Literal) : Except Fault Nat :=
  if mode.unicode || literal.byteNumber || literal.char.toNat < 0x80 then .ok literal.char.toNat
  else .error ⟨.unicodeNotAllowed, literal.extent, none⟩

namespace ClassSet

/-- The members, before the class around them is folded and negated. -/
def members (mode : Mode) : ClassSet → Except Fault Ranges
  | .empty _ => .ok []
  | .literal written => do
    let n ← written.member mode
    return [(n, n)]
  | .range _ low high => do
    let low ← low.member mode
    let high ← high.member mode
    return [(low, high)]
  | .ascii _ kind negated => .ok (mode.negateIf negated (mode.fold kind.members))
  | .perl _ kind negated => .ok (mode.negateIf negated (kind.members mode))
  | .property extent name negated => name.members mode extent negated
  | .bracketed _ negated set => do
    let inner ← set.members mode
    return mode.negateIf negated (mode.fold inner)
  | .union _ items => do
    let all ← membersOfAll mode items
    return Ranges.normalize all
  | .operation _ operator left right => do
    let left ← left.members mode
    let right ← right.members mode
    let left := mode.fold left
    let right := mode.fold right
    return match operator with
      | .intersection => Ranges.intersection left right
      | .difference => Ranges.difference mode.top left right
      | .symmetricDifference => Ranges.symmetricDifference mode.top left right
where
  membersOfAll (mode : Mode) : List ClassSet → Except Fault Ranges
    | [] => .ok []
    | item :: items => do
      let first ← item.members mode
      let rest ← membersOfAll mode items
      return first ++ rest

end ClassSet

def Literal.node (mode : Mode) (literal : Literal) : Node :=
  let n := literal.char.toNat
  if !mode.unicode && literal.byteNumber && 0x80 ≤ n then .byte [(n, n)]
  else if !mode.caseInsensitive then .scalar [(n, n)]
  else if mode.unicode then .scalar (CaseFold.close [(n, n)])
  else .scalar (CaseFold.closeAscii [(n, n)])

def dotMembers (mode : Mode) : Ranges :=
  let excluded := if mode.dotMatchesNewLine then []
    else if mode.carriageReturns then [(10, 10), (13, 13)]
    else [(10, 10)]
  Ranges.complement mode.top excluded

def Assertion.look (mode : Mode) : Assertion → Look
  | startLine => if mode.multiLine then .lineStart mode.carriageReturns else .textStart
  | endLine => if mode.multiLine then .lineEnd mode.carriageReturns else .textEnd
  | startText => .textStart
  | endText => .textEnd
  | wordBoundary => .wordBoundary mode.unicode
  | notWordBoundary => .notWordBoundary mode.unicode
  | wordStart => .wordStart mode.unicode
  | wordEnd => .wordEnd mode.unicode
  | wordStartHalf => .wordStartHalf mode.unicode
  | wordEndHalf => .wordEndHalf mode.unicode

/-- What an expression means in a mode, with the mode for what follows it. Flags hold from where
they stand to the end of the group around them, across branches. -/
def Expression.meaning (mode : Mode) : Expression → Except Fault (Node × Mode)
  | .empty _ => .ok (.empty, mode)
  | .flags _ written => .ok (.empty, mode.update written)
  | .literal written => .ok (written.node mode, mode)
  | .dot _ => .ok (mode.node (dotMembers mode), mode)
  | .assertion _ written => .ok (.look (written.look mode), mode)
  | .perl _ kind negated => .ok (mode.node (mode.negateIf negated (kind.members mode)), mode)
  | .property extent name negated => do
    let set ← name.members mode extent negated
    return (mode.node set, mode)
  | .bracketed _ negated set => do
    let inner ← set.members mode
    return (mode.node (mode.negateIf negated (mode.fold inner)), mode)
  | .repetition _ least most inner => do
    let (node, mode) ← inner.meaning mode
    return (.repetition least most node, mode)
  | .group _ settings inner => do
    let (node, _) ← inner.meaning (mode.update (settings.getD ⟨[]⟩))
    return (node, mode)
  | .concatenation _ parts => do
    let (nodes, mode) ← meaningOfAll mode parts
    return (.sequence nodes, mode)
  | .alternation _ branches => do
    let (nodes, mode) ← meaningOfAll mode branches
    return (.choice nodes, mode)
where
  meaningOfAll (mode : Mode) : List Expression → Except Fault (List Node × Mode)
    | [] => .ok ([], mode)
    | part :: parts => do
      let (node, mode) ← part.meaning mode
      let (nodes, mode) ← meaningOfAll mode parts
      return (node :: nodes, mode)

namespace Node

def isZeroWidth : Node → Bool
  | .empty => true
  | .look _ => true
  | .byte _ => false
  | .scalar _ => false
  | .sequence parts => allZeroWidth parts
  | .choice branches => allZeroWidth branches
  | .repetition _ most inner => most == some 0 || inner.isZeroWidth
where
  allZeroWidth : List Node → Bool
    | [] => true
    | node :: nodes => node.isZeroWidth && allZeroWidth nodes

/-- An estimate of the memory that an automaton for the node takes. Counted repetitions multiply
it, so it can be far larger than the pattern. -/
def weight : Node → Nat
  | .empty => 32
  | .look _ => 32
  | .byte set => 32 + 8 * set.length
  | .scalar set =>
    match set with
    | [(low, high)] =>
      if low == high then 32 * (if low < 0x80 then 1 else if low < 0x800 then 2 else 3)
      else if high < 0x80 then 32 else 327
    | _ => if set.all (·.2 < 0x80) then 32 + 8 * set.length else 300 + 27 * set.length
  | .sequence parts => weightOfAll parts
  | .choice branches => 64 + weightOfAll branches
  | .repetition least most inner =>
    if inner.isZeroWidth then inner.weight
    else match most with
      | none => (max least 1) * inner.weight + 40
      | some most => least * inner.weight + (most - least) * (inner.weight + 40)
where
  weightOfAll : List Node → Nat
    | [] => 0
    | node :: nodes => node.weight + weightOfAll nodes

end Node

end SyntaxQuery.Regex
