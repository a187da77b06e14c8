import SyntaxQuery.Provider.Basic

/-! A seekable stream read in chunks of a fixed size. The stream may fail by a script; the reader
remembers where the stream stands, so that it seeks only when it has to. -/
namespace SyntaxQuery

inductive StreamFault where
  /-- The call may be tried again. -/
  | interrupted
  | failed (text : String)
deriving Repr, DecidableEq

namespace StreamFault

def message : StreamFault → String
  | interrupted => "operation interrupted"
  | failed text => text

end StreamFault

inductive ReadRule where
  | full
  | atMost (count : Nat)
  | fault (fault : StreamFault)
deriving Repr, DecidableEq

inductive SeekRule where
  | reached
  | fault (fault : StreamFault)
deriving Repr, DecidableEq

/-- Each call takes the next rule of its script; past the end of a script calls succeed. -/
structure Stream where
  content : Bytes
  position : Offset
  reads : List ReadRule
  seeks : List SeekRule
  readCount : Nat
  seekLog : List Offset

namespace Stream

def «open» (content : Bytes) (reads : List ReadRule) (seeks : List SeekRule) : Stream :=
  ⟨content, 0, reads, seeks, 0, []⟩

/-- A failing seek leaves the stream where it is. -/
def seek (stream : Stream) (target : Offset) : Except StreamFault Unit × Stream :=
  let noted := { stream with seeks := stream.seeks.tail, seekLog := stream.seekLog ++ [target] }
  match stream.seeks.head? with
  | some (.fault fault) => (.error fault, noted)
  | _ => (.ok (), { noted with position := target })

/-- The bytes that a read delivers; a position past the end delivers none. -/
def deliver (stream : Stream) (count : Nat) : Bytes × Stream :=
  let bytes := (stream.content.drop stream.position.toNat).take count
  (bytes, { stream with position := stream.position.advance bytes.length })

/-- Reads at most `count` bytes and moves past them; a failing read does not move. -/
def read (stream : Stream) (count : Nat) : Except StreamFault Bytes × Stream :=
  let noted := { stream with reads := stream.reads.tail, readCount := stream.readCount + 1 }
  match stream.reads.head? with
  | some (.fault fault) => (.error fault, noted)
  | some (.atMost most) => let (bytes, moved) := noted.deliver (min count most); (.ok bytes, moved)
  | _ => let (bytes, moved) := noted.deliver count; (.ok bytes, moved)

/-- Reads again for as long as the script interrupts. The script gets shorter with each attempt. -/
def readRetrying (stream : Stream) (count : Nat) : Except StreamFault Bytes × Stream :=
  match _ : stream.reads with
  | .fault .interrupted :: rest =>
    readRetrying { stream with reads := rest, readCount := stream.readCount + 1 } count
  | _ => stream.read count
termination_by stream.reads.length
decreasing_by simp_all

end Stream

structure StreamReader where
  stream : Stream
  chunkSize : Nat
  /-- Where the stream stands, if the last request left that known. -/
  cursor : Option Offset
  /-- The latest failure that has not been taken. -/
  error : Option StreamFault

namespace StreamReader

def defaultChunkSize : Nat := 4096

/-- A chunk size of zero acts as one. -/
def withChunkSize (stream : Stream) (chunkSize : Nat) : StreamReader :=
  ⟨stream, max chunkSize 1, none, none⟩

def new (stream : Stream) : StreamReader := withChunkSize stream defaultChunkSize

/-- Brings the stream to `offset`, without a seek if it is known to be there. -/
def reach (reader : StreamReader) (offset : Offset) : Except StreamFault Unit × StreamReader :=
  if reader.cursor = some offset then (.ok (), reader)
  else
    let (result, stream) := reader.stream.seek offset
    (result, { reader with stream := stream, cursor := none })

def fail (reader : StreamReader) (fault : StreamFault) : StreamReader :=
  { reader with cursor := none, error := some fault }

def readAt (reader : StreamReader) (offset : Offset) : Except StreamFault Bytes × StreamReader :=
  match reader.reach offset with
  | (.error fault, reached) => (.error fault, reached)
  | (.ok _, reached) =>
    match reached.stream.readRetrying reached.chunkSize with
    | (.error fault, stream) => (.error fault, { reached with stream := stream })
    | (.ok bytes, stream) =>
      (.ok bytes, { reached with stream := stream, cursor := some (offset.advance bytes.length) })

/-- A failure yields the empty chunk and is remembered; the stream's place is then unknown. -/
def serve (reader : StreamReader) (request : Request) : Bytes × StreamReader :=
  match reader.readAt request.offset with
  | (.ok bytes, moved) => (bytes, moved)
  | (.error fault, moved) => ([], moved.fail fault)

def takeError (reader : StreamReader) : Option StreamFault × StreamReader :=
  (reader.error, { reader with error := none })

def provider : Provider StreamReader := ⟨serve⟩

end StreamReader

end SyntaxQuery
