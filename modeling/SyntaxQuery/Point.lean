import SyntaxQuery.Bytes

/-! Rows and columns. A column counts the bytes since the last newline. -/
namespace SyntaxQuery

structure Point where
  row : Nat
  column : Nat
deriving Repr, DecidableEq, Inhabited

namespace Point

def origin : Point := ⟨0, 0⟩

/-- One byte further: a newline opens the next row. -/
def step (point : Point) (byte : UInt8) : Point :=
  if byte == Bytes.newline then ⟨point.row + 1, 0⟩ else ⟨point.row, point.column + 1⟩

/-- A whole chunk further, in one move: the newlines add rows, and what follows the last one is
the column. -/
def advance (point : Point) (chunk : Bytes) : Point :=
  let tail := chunk.reverse.takeWhile (· != Bytes.newline)
  let rows := chunk.count Bytes.newline
  if rows = 0 then ⟨point.row, point.column + chunk.length⟩
  else ⟨point.row + rows, tail.length⟩

end Point

end SyntaxQuery
