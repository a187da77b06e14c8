import SyntaxQuery.Match

/-! Limits of a search: how many matches may be in progress, how deep one may start, and in which
range of bytes. Settings are given in wide words; the search keeps narrow ones. -/
namespace SyntaxQuery

namespace Cursor

def widest : UInt32 := UInt32.ofNat (UInt32.size - 1)

structure ByteRange where
  start : UInt32
  stop : UInt32
deriving Repr, DecidableEq

namespace ByteRange

def all : ByteRange := ⟨0, widest⟩

/-- Both bounds lose their upper halves, and an end of zero stands for no end. -/
def narrow (start stop : Offset) : ByteRange :=
  ⟨start.toUInt32, if stop.toUInt32 = 0 then widest else stop.toUInt32⟩

def isOrdered (range : ByteRange) : Bool := range.start ≤ range.stop

/-- A range whose start lies past its end is not taken over. -/
def set (range : ByteRange) (start stop : Offset) : ByteRange :=
  if (narrow start stop).isOrdered then narrow start stop else range

/-- Whether a node ends too early for its children to be in the range. -/
def isAfter (range : ByteRange) (span : Span) : Bool :=
  span.stop.toNat ≤ range.start.toNat

/-- Whether a node starts too late for anything in it to be in the range. -/
def isBefore (range : ByteRange) (span : Span) : Bool :=
  range.stop.toNat ≤ span.start.toNat

/-- Whether a node is in the range, which its parent has to be too. A node that ends where the range
starts is in it only if it is empty. -/
def meets (range : ByteRange) (span : Span) (parentMeets : Bool) : Bool :=
  let precedes := span.stop.toNat < range.start.toNat ∨
    (span.start ≠ span.stop ∧ span.stop.toNat = range.start.toNat)
  parentMeets && !precedes && !range.isBefore span

end ByteRange

structure Limits where
  matchLimit : UInt32
  maxStartDepth : UInt32
  range : ByteRange
deriving Repr, DecidableEq

namespace Limits

def none : Limits := ⟨widest, widest, .all⟩

end Limits

end Cursor

end SyntaxQuery
