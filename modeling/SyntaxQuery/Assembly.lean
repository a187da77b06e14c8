import SyntaxQuery.Provider.Basic
import SyntaxQuery.Text.Utf8

/-! The text of a node, put together from a provider's chunks. Requests go front to back, each one
where the previous chunk ended, and stop at the node's end or at the first empty chunk; coming up
short is an ordinary outcome. -/
namespace SyntaxQuery

/-- A half-open byte range with the row and column of its start. The range may be inverted. -/
structure Span where
  start : Offset
  stop : Offset
  position : Point
deriving Repr, DecidableEq, Inhabited

def Span.length (span : Span) : Nat := span.stop.toNat - span.start.toNat

/-- A buffer that is emptied before each use and kept between uses. -/
structure Assembler where
  buffer : Bytes
deriving Repr, DecidableEq

namespace Assembler

def new : Assembler := ⟨[]⟩

/-- What lies before `stop` is kept, yet the next request starts behind the whole chunk, where the
provider stands. -/
def fill (p : Provider σ) (stop offset : Offset) (position : Point) (buffer : Bytes) (s : σ) :
    Bytes × σ :=
  if _ : offset < stop then
    match p.chunk s ⟨offset, position⟩ with
    | ([], s) => (buffer, s)
    | (b :: bs, s) =>
      fill p stop (offset.advance (b :: bs).length) (position.advance (b :: bs))
        (buffer ++ (b :: bs).take (stop.toNat - offset.toNat)) s
  else (buffer, s)
termination_by stop.toNat - offset.toNat
decreasing_by
  have : offset.toNat < stop.toNat := ‹offset < stop›
  have := stop.toNat_lt
  rw [Offset.toNat_advance, UInt64.size, List.length_cons]
  omega

def assemble (assembler : Assembler) (span : Span) (p : Provider σ) (s : σ) : Assembler × σ :=
  let cleared : Assembler := { assembler with buffer := [] }
  if span.start < span.stop then
    let (bytes, s) := fill p span.stop span.start span.position cleared.buffer s
    (⟨bytes⟩, s)
  else (cleared, s)

end Assembler

structure AssembledText where
  bytes : Bytes
  expectedLength : Nat
deriving Repr, DecidableEq

namespace AssembledText

def length (text : AssembledText) : Nat := text.bytes.length

def isEmpty (text : AssembledText) : Bool := text.bytes.isEmpty

def isTruncated (text : AssembledText) : Bool := text.length < text.expectedLength

/-- For showing the text: what is not UTF-8 is replaced. -/
def lossy (text : AssembledText) : String := String.ofList (Utf8.lossy text.bytes)

end AssembledText

def Assembler.assembleOwned (assembler : Assembler) (span : Span) (p : Provider σ) (s : σ) :
    AssembledText × Assembler × σ :=
  let (filled, s) := assembler.assemble span p s
  (⟨filled.buffer, span.length⟩, filled, s)

def assemble (span : Span) (p : Provider σ) (s : σ) : AssembledText × σ :=
  let (text, _, s) := Assembler.new.assembleOwned span p s
  (text, s)

end SyntaxQuery
