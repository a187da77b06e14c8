import SyntaxQuery.Bytes

/-! How far a piece of text reaches: in characters, in bytes, and in rows and columns. -/
namespace SyntaxQuery.Parsing

structure Length where
  chars : Nat
  bytes : Nat
  rows : Nat
  columns : Nat
deriving Repr, DecidableEq, Inhabited

namespace Length

def zero : Length := ⟨0, 0, 0, 0⟩

/-- Columns count from the last newline. -/
def append (a b : Length) : Length :=
  ⟨a.chars + b.chars, a.bytes + b.bytes, a.rows + b.rows,
    if b.rows = 0 then a.columns + b.columns else b.columns⟩

instance : Append Length := ⟨append⟩

/-- What leads from one position to a later one. -/
def between (start stop : Length) : Length :=
  ⟨stop.chars - start.chars, stop.bytes - start.bytes, stop.rows - start.rows,
    if stop.rows = start.rows then stop.columns - start.columns else stop.columns⟩

def ofChar (c : Char) (size : Nat) : Length :=
  if c = '\n' then ⟨1, size, 1, 0⟩ else ⟨1, size, 0, size⟩

end Length

end SyntaxQuery.Parsing
