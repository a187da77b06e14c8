import SyntaxQuery.Provider.Basic

/-! Text held in memory, served from the requested offset on. -/
namespace SyntaxQuery

structure Slice where
  source : Bytes
  /-- The longest chunk that is served; `none` serves all that is left. -/
  maxChunk : Option Nat

namespace Slice

def whole (source : Bytes) : Slice := ⟨source, none⟩

/-- A chunk holds at least one byte, so a cap of zero acts as one. -/
def capped (source : Bytes) (maxChunk : Nat) : Slice := ⟨source, some (max maxChunk 1)⟩

def serve (slice : Slice) (request : Request) : Bytes :=
  let rest := slice.source.drop request.offset.toNat
  match slice.maxChunk with
  | some most => rest.take most
  | none => rest

def provider (slice : Slice) : Provider Unit := .ofFunction slice.serve

end Slice

end SyntaxQuery
