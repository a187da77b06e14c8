/-! Finite double-precision numbers without a sign, as a whole number times a power of two: the one
nearest to a decimal, and the shortest decimal that is nearest to it again. All of it is exact
arithmetic on naturals. -/
namespace SyntaxQuery.Decimal

/-- The number `significand * 2 ^ exponent`. The significand has 53 bits, or fewer at the least
exponent. -/
structure Double where
  significand : Nat
  exponent : Int
deriving Repr, DecidableEq

namespace Double

def leastExponent : Int := -1074

def greatestExponent : Int := 971

/-- A quotient rounded to the nearest whole number, a half to the even one. -/
def roundDiv (num den : Nat) : Nat :=
  let whole := num / den
  let rest := num % den
  if 2 * rest < den then whole
  else if den < 2 * rest then whole + 1
  else whole + whole % 2

def scale (num den : Nat) (power : Int) : Nat × Nat :=
  if power < 0 then (num * Nat.pow 2 power.natAbs, den) else (num, den * Nat.pow 2 power.natAbs)

/-- The double nearest to a quotient; `none` if it lies past the greatest. -/
def nearest (num den : Nat) : Option Double :=
  if num = 0 then some ⟨0, leastExponent⟩
  else
    let guess : Int := (Nat.log2 num : Int) - (Nat.log2 den : Int) - 52
    let fits (power : Int) : Bool :=
      let (a, b) := scale num den power
      Nat.pow 2 52 * b ≤ a
    let power := max leastExponent (if fits guess then guess else guess - 1)
    let (a, b) := scale num den power
    let rounded := roundDiv a b
    let (significand, power) :=
      if rounded = Nat.pow 2 53 then (Nat.pow 2 52, power + 1) else (rounded, power)
    if greatestExponent < power then none else some ⟨significand, power⟩

/-- The double nearest to `digits * 10 ^ exponent`. Past a few hundred places the answer no longer
depends on the digits. -/
def ofDecimal (digits : Nat) (exponent : Int) : Option Double :=
  if digits = 0 then some ⟨0, leastExponent⟩
  else
    let places : Int := (Nat.toDigits 10 digits).length + exponent
    if 400 < places then none
    else if places < -400 then some ⟨0, leastExponent⟩
    else if exponent < 0 then nearest digits (Nat.pow 10 exponent.natAbs)
    else nearest (digits * Nat.pow 10 exponent.natAbs) 1

/-- The bounds of the numbers that round to a double, as multiples of a quarter of its last place,
and whether the bounds themselves do. -/
def bounds (x : Double) : Nat × Nat × Bool :=
  let low := if x.significand = Nat.pow 2 52 ∧ leastExponent < x.exponent then 1 else 2
  (4 * x.significand - low, 4 * x.significand + 2, x.significand % 2 = 0)

def quarter (x : Double) (count : Nat) : Nat × Nat := scale count 1 (2 - x.exponent)

/-- Whether `digits * 10 ^ power` rounds to the double. -/
def admits (x : Double) (digits : Nat) (power : Int) : Bool :=
  let (low, high, closed) := x.bounds
  let (num, den) :=
    if power < 0 then (digits, Nat.pow 10 power.natAbs) else (digits * Nat.pow 10 power.natAbs, 1)
  let (lowNum, lowDen) := x.quarter low
  let (highNum, highDen) := x.quarter high
  if closed then lowNum * den ≤ num * lowDen && num * highDen ≤ highNum * den
  else lowNum * den < num * lowDen && num * highDen < highNum * den

/-- The number of digits before the point of a positive quotient; zero or less below one. -/
def places (num den : Nat) : Int :=
  let rec adjust : Nat → Int → Int
    | 0, guess => guess
    | fuel + 1, guess =>
      let (a, b) : Nat × Nat :=
        if guess < 0 then (num * Nat.pow 10 guess.natAbs, den) else (num, den * Nat.pow 10 guess.natAbs)
      if b ≤ a then adjust fuel (guess + 1)
      else if 10 * a < b then adjust fuel (guess - 1)
      else guess
  adjust 700 (((Nat.log2 num : Int) - (Nat.log2 den : Int)) * 3 / 10)

/-- The decimals with the fewest digits, from `count` digits on: of the two on that grid next to the
double, one that rounds to it, and the nearer if both do. -/
def shortestFrom (x : Double) (num den : Nat) (top : Int) : Nat → Nat → Nat × Int
  | 0, _ => (x.significand, x.exponent)
  | fuel + 1, count =>
    let power := top - count
    let (a, b) : Nat × Nat :=
      if power < 0 then (num * Nat.pow 10 power.natAbs, den) else (num, den * Nat.pow 10 power.natAbs)
    let below := a / b
    let isBelow := x.admits below power
    let isAbove := x.admits (below + 1) power
    let nearer := 2 * (a % b) ≤ b
    if isBelow && (nearer || !isAbove) then (below, power)
    else if isAbove then (below + 1, power)
    else shortestFrom x num den top fuel (count + 1)

/-- Digits and a power of ten; 17 digits always suffice. The grid of one digit goes up to ten, which
is one on the grid above. -/
def shortest (x : Double) : Nat × Int :=
  if x.significand = 0 then (0, 0)
  else
    let (num, den) := scale x.significand 1 (-x.exponent)
    let (digits, power) := shortestFrom x num den (places num den) 18 1
    if digits = 10 then (1, power + 1) else (digits, power)

def text (x : Double) : List Char :=
  let (digits, power) := x.shortest
  let shown := Nat.toDigits 10 digits
  if 0 ≤ power then shown ++ List.replicate power.natAbs '0' ++ ['.', '0']
  else
    let missing := power.natAbs + 1 - shown.length
    let padded := List.replicate missing '0' ++ shown
    let before := padded.length - power.natAbs
    padded.take before ++ '.' :: padded.drop before

end Double

end SyntaxQuery.Decimal
