import SyntaxQuery.Point

/-! Providers of source text. A provider answers one request at a time from its state; an empty
chunk means that it has nothing from that offset on. Nothing else is promised about the chunks:
they may be short, run past what the caller wants, or change from one request to the next. -/
namespace SyntaxQuery

/-- The offset from which text is wanted, and the row and column of that offset. -/
structure Request where
  offset : Offset
  position : Point
deriving Repr, DecidableEq

structure Provider (σ : Type) where
  chunk : σ → Request → Bytes × σ

namespace Provider

def ofFunction (f : Request → Bytes) : Provider Unit := ⟨fun _ request => (f request, ())⟩

structure Call where
  request : Request
  length : Nat
deriving Repr, DecidableEq

structure Recorded (σ : Type) where
  inner : σ
  calls : List Call

def Recorded.start (s : σ) : Recorded σ := ⟨s, []⟩

/-- Keeps every answer and notes each request. -/
def recorded (p : Provider σ) : Provider (Recorded σ) where
  chunk s request :=
    let (bytes, inner) := p.chunk s.inner request
    (bytes, ⟨inner, s.calls ++ [⟨request, bytes.length⟩]⟩)

end Provider

end SyntaxQuery
