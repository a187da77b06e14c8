import SyntaxQuery.Bytes

/-! UTF-8. `next` reads one character or reports how many bytes belong to the faulty start;
decoding and the lossy view are both folds over it. -/
namespace SyntaxQuery.Utf8

inductive Step where
  | done
  | scalar (c : Char) (rest : Bytes)
  /-- A start that no continuation can repair; `rest` begins after the longest sound part of it. -/
  | fault (rest : Bytes)

def isContinuation (b : UInt8) : Bool := b.toNat / 64 == 2

/-- The number of continuation bytes that a first byte announces, its payload, and the range that
the second byte must lie in (narrower than the continuations where a shorter form exists, where
surrogates lie, and past the last scalar value). -/
def announce (b : UInt8) : Option (Nat × Nat × Nat × Nat) :=
  let n := b.toNat
  if 0xC2 ≤ n ∧ n ≤ 0xDF then some (1, n - 0xC0, 0x80, 0xBF)
  else if n = 0xE0 then some (2, 0, 0xA0, 0xBF)
  else if n = 0xED then some (2, 0xD, 0x80, 0x9F)
  else if 0xE1 ≤ n ∧ n ≤ 0xEF then some (2, n - 0xE0, 0x80, 0xBF)
  else if n = 0xF0 then some (3, 0, 0x90, 0xBF)
  else if 0xF1 ≤ n ∧ n ≤ 0xF3 then some (3, n - 0xF0, 0x80, 0xBF)
  else if n = 0xF4 then some (3, 4, 0x80, 0x8F)
  else none

def continuations : Nat → Nat → Bytes → Step
  | 0, value, rest => .scalar (Char.ofNat value) rest
  | owed + 1, value, b :: rest =>
    if isContinuation b then continuations owed (value * 64 + b.toNat % 64) rest
    else .fault (b :: rest)
  | _ + 1, _, [] => .fault []

def next : Bytes → Step
  | [] => .done
  | b :: rest =>
    if b.toNat < 0x80 then .scalar (Char.ofNat b.toNat) rest
    else match announce b, rest with
      | some (owed, value, low, high), second :: more =>
        if low ≤ second.toNat ∧ second.toNat ≤ high then
          continuations (owed - 1) (value * 64 + second.toNat % 64) more
        else .fault rest
      | _, _ => .fault rest

/-- Every step consumes at least one byte, so the length bounds the number of steps. -/
def decodeWithin : Nat → Bytes → Option (List Char)
  | 0, _ => some []
  | fuel + 1, text =>
    match next text with
    | .done => some []
    | .scalar c rest => (decodeWithin fuel rest).map (c :: ·)
    | .fault _ => none

def decode? (text : Bytes) : Option (List Char) := decodeWithin (text.length + 1) text

def lossyWithin : Nat → Bytes → List Char
  | 0, _ => []
  | fuel + 1, text =>
    match next text with
    | .done => []
    | .scalar c rest => c :: lossyWithin fuel rest
    | .fault rest => '\ufffd' :: lossyWithin fuel rest

def lossy (text : Bytes) : List Char := lossyWithin (text.length + 1) text

def encodeChar (c : Char) : Bytes :=
  let n := c.toNat
  let byte (k : Nat) : UInt8 := UInt8.ofNat k
  if n < 0x80 then [byte n]
  else if n < 0x800 then [byte (0xC0 + n / 64), byte (0x80 + n % 64)]
  else if n < 0x10000 then [byte (0xE0 + n / 4096), byte (0x80 + n / 64 % 64), byte (0x80 + n % 64)]
  else [byte (0xF0 + n / 262144), byte (0x80 + n / 4096 % 64), byte (0x80 + n / 64 % 64),
    byte (0x80 + n % 64)]

def encode (text : List Char) : Bytes := text.flatMap encodeChar

end SyntaxQuery.Utf8
