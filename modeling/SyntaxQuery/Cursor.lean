import SyntaxQuery.Engine

/-! Cursors, with which queries are run. A cursor is the engine's; a configuration says how it is set. -/
namespace SyntaxQuery

structure CursorConfig where
  matchLimit : Option UInt32
  maxStartDepth : Option UInt32
  byteRange : Option (Offset × Offset)
deriving Repr, DecidableEq

def CursorConfig.empty : CursorConfig := ⟨none, none, none⟩

abbrev Cursor [Engine] : Type := Engine.Cursor

namespace Cursor

variable [Engine]

def new : Cursor := Engine.newCursor

def withMatchLimit (cursor : Cursor) : Option UInt32 → Cursor
  | some limit => Engine.setMatchLimit cursor limit
  | none => cursor

def withByteRange (cursor : Cursor) : Option (Offset × Offset) → Cursor
  | some (start, stop) => Engine.setByteRange cursor start stop
  | none => cursor

/-- A match limit or range that is not given stays as it was; the depth is set also where none is given. -/
def configure (cursor : Cursor) (config : CursorConfig) : Cursor :=
  let limited := cursor.withMatchLimit config.matchLimit
  let ranged := limited.withByteRange config.byteRange
  Engine.setMaxStartDepth ranged config.maxStartDepth

def withConfig (config : CursorConfig) : Cursor := new.configure config

def exceeded (cursor : Cursor) : Bool := Engine.hasExceeded cursor

end Cursor

end SyntaxQuery
