import SyntaxQuery.Provider.Basic

/-! Providers given by a rule instead of a store: windows on a source whose length follows a
script, a fixed list of chunks, a source that is cut short, one that ignores the request, and one
that goes by rows and columns. -/
namespace SyntaxQuery.Window

def window (source : Bytes) (offset : Offset) (length : Nat) : Bytes :=
  (source.drop offset.toNat).take length

/-- The state is what is left of the script; once it is used up, every chunk has length `rest`. -/
def scripted (source : Bytes) (rest : Nat) : Provider (List Nat) where
  chunk
    | [], request => (window source request.offset rest, [])
    | size :: sizes, request => (window source request.offset size, sizes)

def listed : Provider (List Bytes) where
  chunk
    | [], _ => ([], [])
    | chunk :: chunks, _ => (chunk, chunks)

/-- Nothing is served at `limit` or past it. -/
def cut (source : Bytes) (size limit : Nat) : Provider Unit :=
  .ofFunction fun request => window (source.take limit) request.offset size

def constant (source : Bytes) : Provider Unit := .ofFunction fun _ => source

/-- Goes by the position alone: at most `size` bytes of the row, from the column on. -/
def byLine (source : Bytes) (size : Nat) : Provider Unit :=
  .ofFunction fun request =>
    let line := (source.lines[request.position.row]?).getD []
    (line.drop request.position.column).take size

end SyntaxQuery.Window
