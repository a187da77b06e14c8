/-! Source text as bytes. Offsets and lengths count bytes, and a newline is the byte 10. -/
namespace SyntaxQuery

abbrev Bytes := List UInt8

namespace Bytes

def newline : UInt8 := 10

/-- The bytes from `start` up to `stop`, cut off where the text ends; an inverted range is empty. -/
def slice (text : Bytes) (start stop : Nat) : Bytes :=
  (text.drop start).take (stop - start)

def ofString (s : String) : Bytes := s.toUTF8.toList

/-- Lines keep their newline, so they concatenate to the text; only the last line may lack one. -/
def lines : Bytes → List Bytes
  | [] => []
  | b :: rest =>
    if b == newline then [b] :: lines rest
    else match lines rest with
      | [] => [[b]]
      | line :: more => (b :: line) :: more

end Bytes

abbrev Offset := UInt64

namespace Offset

def last : Offset := UInt64.ofNat (UInt64.size - 1)

/-- Moving past the last offset stays there. -/
def advance (offset : Offset) (count : Nat) : Offset :=
  if offset.toNat + count < UInt64.size then UInt64.ofNat (offset.toNat + count) else last

theorem toNat_advance (offset : Offset) (count : Nat) :
    (offset.advance count).toNat = min (offset.toNat + count) (UInt64.size - 1) := by
  simp only [advance, last, UInt64.size]
  split
  · simp only [UInt64.toNat_ofNat']; omega
  · simp only [UInt64.toNat_ofNat']; omega

/-- Where an advanced offset is not exact, it lies past every range, as the exact one does. -/
theorem advance_exact_or_past (offset stop : Offset) (count : Nat) :
    (offset.advance count).toNat = offset.toNat + count ∨
      stop.toNat ≤ (offset.advance count).toNat ∧ stop.toNat ≤ offset.toNat + count := by
  have word := stop.toNat_lt
  rw [toNat_advance, UInt64.size]
  omega

end Offset

end SyntaxQuery
