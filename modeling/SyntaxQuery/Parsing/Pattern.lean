/-! What a token looks like, character by character. A pattern is advanced over a character by its
derivative: what may still follow. -/
namespace SyntaxQuery.Parsing

inductive Pattern where
  | never
  | empty
  | one (ranges : List (Char × Char))
  /-- Any character but those in the ranges and the null character, which no text goes on with. -/
  | other (ranges : List (Char × Char))
  | seq (first second : Pattern)
  | either (left right : Pattern)
  | many (pattern : Pattern)
deriving Repr, DecidableEq, Inhabited

namespace Pattern

def char (c : Char) : Pattern := one [(c, c)]

def text (s : String) : Pattern := s.toList.foldr (fun c rest => seq (char c) rest) empty

def among (s : String) : Pattern := one (s.toList.map fun c => (c, c))

def except (s : String) : Pattern := other (s.toList.map fun c => (c, c))

def optional (p : Pattern) : Pattern := either p empty

def some (p : Pattern) : Pattern := seq p (many p)

def sequence (parts : List Pattern) : Pattern := parts.foldr seq empty

def choice (parts : List Pattern) : Pattern := parts.foldr either never

/-- Sequences drop parts that are empty and fail with parts that never match. -/
def join : Pattern → Pattern → Pattern
  | never, _ => never
  | _, never => never
  | empty, q => q
  | p, empty => p
  | p, q => seq p q

def merge : Pattern → Pattern → Pattern
  | never, q => q
  | p, never => p
  | p, q => if p = q then p else either p q

def isNullable : Pattern → Bool
  | never | one _ | other _ => false
  | empty | many _ => true
  | seq p q => p.isNullable && q.isNullable
  | either p q => p.isNullable || q.isNullable

def inRanges (ranges : List (Char × Char)) (c : Char) : Bool :=
  ranges.any fun (low, high) => low ≤ c && c ≤ high

def derive (c : Char) : Pattern → Pattern
  | never | empty => never
  | one ranges => if inRanges ranges c then empty else never
  | other ranges => if c ≠ '\x00' && !inRanges ranges c then empty else never
  | seq p q =>
    let stepped := (derive c p).join q
    if p.isNullable then stepped.merge (derive c q) else stepped
  | either p q => (derive c p).merge (derive c q)
  | many p => (derive c p).join (many p)

def spelling? : Pattern → Option String
  | empty => Option.some ""
  | seq (one [(low, high)]) rest =>
    if low = high then (rest.spelling?).map (String.singleton low ++ ·) else none
  | _ => none

/-- Whether the text matches as a whole. -/
def admits (pattern : Pattern) (s : String) : Bool :=
  (s.toList.foldl (fun p c => p.derive c) pattern).isNullable

end Pattern

end SyntaxQuery.Parsing
