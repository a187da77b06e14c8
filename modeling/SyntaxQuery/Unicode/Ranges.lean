/-! Sets of characters, written as ranges of their numbers. In a normal set the ranges are in
ascending order, and between two of them lies a number that belongs to neither. -/
namespace SyntaxQuery.Unicode

abbrev Ranges := List (Nat × Nat)

namespace Ranges

def top : Nat := 0x10FFFF

def contains (set : Ranges) (n : Nat) : Bool := set.any fun (low, high) => low ≤ n && n ≤ high

/-- Joins a range to the ranges behind it that it overlaps or touches. -/
def absorb (low high : Nat) : Ranges → Ranges
  | [] => [(low, high)]
  | (a, b) :: rest =>
    if a ≤ high + 1 then absorb low (max high b) rest else (low, high) :: (a, b) :: rest

def joinSorted (set : Ranges) : Ranges :=
  set.foldr (fun (low, high) joined => absorb low high joined) []

/-- The normal set with the same members; a range may be given with its ends in either order. -/
def normalize (set : Ranges) : Ranges :=
  joinSorted ((set.map fun (a, b) => (min a b, max a b)).mergeSort fun x y => x.1 ≤ y.1)

def union (s t : Ranges) : Ranges := normalize (s ++ t)

/-- What a normal set leaves out between `start` and `last`. -/
def gapsFrom (start last : Nat) : Ranges → Ranges
  | [] => if start ≤ last then [(start, last)] else []
  | (low, high) :: rest =>
    if start < low then (start, low - 1) :: gapsFrom (high + 1) last rest
    else gapsFrom (high + 1) last rest

def complement (last : Nat) (set : Ranges) : Ranges := gapsFrom 0 last set

/-- The common part of two normal sets: of two ranges, the one that ends first is used up. -/
def intersection : Ranges → Ranges → Ranges
  | [], _ => []
  | _, [] => []
  | (a, b) :: s, (c, d) :: t =>
    let shared := if max a c ≤ min b d then [(max a c, min b d)] else []
    if b < d then shared ++ intersection s ((c, d) :: t)
    else shared ++ intersection ((a, b) :: s) t
termination_by s t => s.length + t.length

def difference (last : Nat) (s t : Ranges) : Ranges := intersection s (complement last t)

def symmetricDifference (last : Nat) (s t : Ranges) : Ranges :=
  difference last (union s t) (intersection s t)

def hexDigit (c : Char) : Nat :=
  if c.isDigit then c.toNat - 48 else c.toLower.toNat - 87

def hexNumber (text : List Char) : Nat := text.foldl (fun n c => n * 16 + hexDigit c) 0

def ofGaps (start : Nat) : List Nat → Ranges
  | gap :: count :: rest => (start + gap, start + gap + count - 1) :: ofGaps (start + gap + count) rest
  | _ => []

def words (separator : Char) (text : String) : List (List Char) :=
  text.toList.splitBy (fun a b => a != separator && b != separator) |>.filter (· != [separator])

def decode (lines : List String) : Ranges := ofGaps 0 ((lines.flatMap (words ' ')).map hexNumber)

end Ranges

end SyntaxQuery.Unicode
