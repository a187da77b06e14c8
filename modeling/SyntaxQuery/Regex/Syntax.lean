/-! The form of a regular expression as written, with the place of each part in the pattern. Places
count characters. -/
namespace SyntaxQuery.Regex

structure Extent where
  start : Nat
  stop : Nat
deriving Repr, DecidableEq, Inhabited

def Extent.at (place : Nat) : Extent := ⟨place, place⟩

inductive Flag where
  | caseInsensitive
  | multiLine
  | dotMatchesNewLine
  | swapGreed
  | unicode
  | carriageReturns
  | ignoreWhitespace
deriving Repr, DecidableEq

/-- Flags as written: those before the minus are set, those behind it are cleared. -/
structure FlagGroup where
  settings : List (Flag × Bool)
deriving Repr, DecidableEq

def FlagGroup.setting? (group : FlagGroup) (flag : Flag) : Option Bool :=
  (group.settings.find? (·.1 == flag)).map (·.2)

inductive Assertion where
  | startLine
  | endLine
  | startText
  | endText
  | wordBoundary
  | notWordBoundary
  | wordStart
  | wordEnd
  | wordStartHalf
  | wordEndHalf
deriving Repr, DecidableEq

inductive PerlClass where
  | digit
  | space
  | word
deriving Repr, DecidableEq

inductive AsciiClass where
  | alnum
  | alpha
  | ascii
  | blank
  | cntrl
  | digit
  | graph
  | lower
  | print
  | punct
  | space
  | upper
  | word
  | xdigit
deriving Repr, DecidableEq

inductive PropertyName where
  | single (name : List Char)
  | valued (name value : List Char)
deriving Repr, DecidableEq

/-- A character, and whether it was written as a two-digit number, which may stand for a byte. -/
structure Literal where
  extent : Extent
  char : Char
  byteNumber : Bool
deriving Repr, DecidableEq

inductive SetOperator where
  | intersection
  | difference
  | symmetricDifference
deriving Repr, DecidableEq

inductive ClassSet where
  | empty (extent : Extent)
  | literal (literal : Literal)
  | range (extent : Extent) (low high : Literal)
  | ascii (extent : Extent) (kind : AsciiClass) (negated : Bool)
  | perl (extent : Extent) (kind : PerlClass) (negated : Bool)
  | property (extent : Extent) (name : PropertyName) (negated : Bool)
  | bracketed (extent : Extent) (negated : Bool) (set : ClassSet)
  | union (extent : Extent) (items : List ClassSet)
  | operation (extent : Extent) (operator : SetOperator) (left right : ClassSet)

def ClassSet.extent : ClassSet → Extent
  | .empty extent => extent
  | .literal written => written.extent
  | .range extent _ _ => extent
  | .ascii extent _ _ => extent
  | .perl extent _ _ => extent
  | .property extent _ _ => extent
  | .bracketed extent _ _ => extent
  | .union extent _ => extent
  | .operation extent _ _ _ => extent

inductive Expression where
  | empty (extent : Extent)
  | flags (extent : Extent) (flags : FlagGroup)
  | literal (literal : Literal)
  | dot (extent : Extent)
  | assertion (extent : Extent) (assertion : Assertion)
  | perl (extent : Extent) (kind : PerlClass) (negated : Bool)
  | property (extent : Extent) (name : PropertyName) (negated : Bool)
  | bracketed (extent : Extent) (negated : Bool) (set : ClassSet)
  | repetition (extent : Extent) (least : Nat) (most : Option Nat) (inner : Expression)
  | group (extent : Extent) (flags : Option FlagGroup) (inner : Expression)
  | concatenation (extent : Extent) (parts : List Expression)
  | alternation (extent : Extent) (branches : List Expression)

def Expression.extent : Expression → Extent
  | .empty extent => extent
  | .flags extent _ => extent
  | .literal written => written.extent
  | .dot extent => extent
  | .assertion extent _ => extent
  | .perl extent _ _ => extent
  | .property extent _ _ => extent
  | .bracketed extent _ _ => extent
  | .repetition extent _ _ _ => extent
  | .group extent _ _ => extent
  | .concatenation extent _ => extent
  | .alternation extent _ => extent

end SyntaxQuery.Regex
