import SyntaxQuery.Toml.Value

/-! Values without quotes or brackets: truth values, numbers, dates and times. Each is read from the
whole of its text. -/
namespace SyntaxQuery.Toml.Scalar

/-! Numbers. -/

def digitValue (c : Char) : Nat :=
  if '0' ≤ c ∧ c ≤ '9' then c.toNat - '0'.toNat
  else if 'a' ≤ c ∧ c ≤ 'f' then c.toNat - 'a'.toNat + 10
  else if 'A' ≤ c ∧ c ≤ 'F' then c.toNat - 'A'.toNat + 10
  else 16

def isDigitIn (radix : Nat) (c : Char) : Bool := digitValue c < radix

def isDigit (c : Char) : Bool := isDigitIn 10 c

/-- The digits of a number. An underscore may stand only between two digits. -/
def digits (radix : Nat) : List Char → Option (List Nat)
  | [] => none
  | [c] => if isDigitIn radix c then some [digitValue c] else none
  | c :: '_' :: rest =>
    if isDigitIn radix c then (digits radix rest).map (digitValue c :: ·) else none
  | c :: rest =>
    if isDigitIn radix c then (digits radix rest).map (digitValue c :: ·) else none

def ofDigits (radix : Nat) (digits : List Nat) : Nat :=
  digits.foldl (fun value digit => value * radix + digit) 0

def wholeDigits (text : List Char) : Option (List Nat) :=
  match text with
  | '0' :: _ :: _ => none
  | _ => digits 10 text

def unsign : List Char → Bool × List Char
  | '-' :: rest => (true, rest)
  | '+' :: rest => (false, rest)
  | text => (false, text)

/-- Integers take 64 bits. -/
def bounded (value : Int) : Option Scalar :=
  if Int64.minValue.toInt ≤ value ∧ value ≤ Int64.maxValue.toInt then some (.integer value) else none

/-- A sign goes with decimal digits only. -/
def integer? (text : List Char) : Option Scalar :=
  match text with
  | '0' :: 'x' :: rest => do bounded (ofDigits 16 (← digits 16 rest))
  | '0' :: 'o' :: rest => do bounded (ofDigits 8 (← digits 8 rest))
  | '0' :: 'b' :: rest => do bounded (ofDigits 2 (← digits 2 rest))
  | _ =>
    let (negative, rest) := unsign text
    do
      let magnitude : Int := ofDigits 10 (← wholeDigits rest)
      bounded (if negative then -magnitude else magnitude)

/-- What stands before the first of some characters, and what behind it if there is one. -/
def cut (isMark : Char → Bool) (text : List Char) : List Char × Option (List Char) :=
  match text.dropWhile (!isMark ·) with
  | [] => (text, none)
  | _ :: rest => (text.takeWhile (!isMark ·), some rest)

def partDigits : Option (List Char) → Option (List Nat)
  | none => some []
  | some text => digits 10 text

/-- An exponent may start with zeros. -/
def exponent? : Option (List Char) → Option Int
  | none => some 0
  | some text =>
    let (negative, rest) := unsign text
    do
      let magnitude : Int := ofDigits 10 (← digits 10 rest)
      return if negative then -magnitude else magnitude

/-- A fraction or an exponent tells these from integers. A number too large for a double is
refused. -/
def finite? (negative : Bool) (text : List Char) : Option Scalar :=
  let (mantissa, power) := cut (fun c => c == 'e' || c == 'E') text
  let (whole, fraction) := cut (· == '.') mantissa
  if fraction.isNone && power.isNone then none
  else do
    let before ← wholeDigits whole
    let after ← partDigits fraction
    let power ← exponent? power
    let magnitude ← Decimal.Double.ofDecimal (ofDigits 10 (before ++ after)) (power - after.length)
    return .float (.finite negative magnitude)

def float? (text : List Char) : Option Scalar :=
  let (negative, rest) := unsign text
  if rest = "inf".toList then some (.float (.infinite negative))
  else if rest = "nan".toList then some (.float .notANumber)
  else finite? negative rest

/-! Dates and times. -/

def fixed : Nat → Nat → List Char → Option (Nat × List Char)
  | 0, value, rest => some (value, rest)
  | count + 1, value, c :: rest =>
    if isDigit c then fixed count (value * 10 + digitValue c) rest else none
  | _ + 1, _, [] => none

def isLeap (year : Nat) : Bool := (year % 4 = 0 && year % 100 ≠ 0) || year % 400 = 0

def daysIn (year month : Nat) : Nat :=
  if month = 2 then (if isLeap year then 29 else 28)
  else if month = 4 ∨ month = 6 ∨ month = 9 ∨ month = 11 then 30
  else 31

def date? (text : List Char) : Option (List Char) :=
  match fixed 4 0 text with
  | some (year, '-' :: rest) =>
    match fixed 2 0 rest with
    | some (month, '-' :: rest) => do
      let (day, rest) ← fixed 2 0 rest
      if 1 ≤ month ∧ month ≤ 12 ∧ 1 ≤ day ∧ day ≤ daysIn year month then some rest else none
    | _ => none
  | _ => none

def minutes? (text : List Char) : Option (List Char) :=
  match fixed 2 0 text with
  | some (hour, ':' :: rest) => do
    let (minute, rest) ← fixed 2 0 rest
    if hour ≤ 23 ∧ minute ≤ 59 then some rest else none
  | _ => none

/-- What follows the fraction of a second, which may be missing. -/
def fraction? : List Char → Option (List Char)
  | ['.'] => none
  | '.' :: c :: rest => if isDigit c then some (rest.dropWhile isDigit) else none
  | rest => some rest

/-- What follows a time of day. Seconds may be missing, and one may be a leap second. -/
def time? (text : List Char) : Option (List Char) := do
  match ← minutes? text with
  | ':' :: rest =>
    let (second, rest) ← fixed 2 0 rest
    if second ≤ 60 then fraction? rest else none
  | rest => some rest

def isZone : List Char → Bool
  | [] => true
  | ['Z'] => true
  | ['z'] => true
  | '+' :: rest => minutes? rest == some []
  | '-' :: rest => minutes? rest == some []
  | _ => false

def isSeparator (c : Char) : Bool := c == 'T' || c == 't' || c == ' '

def isMoment (text : List Char) : Bool :=
  match date? text with
  | some [] => true
  | some (c :: rest) => isSeparator c && (time? rest).any isZone
  | none => time? text == some []

def ofText? (text : List Char) : Option Scalar :=
  if text = "true".toList then some (.boolean true)
  else if text = "false".toList then some (.boolean false)
  else if isMoment text then some .moment
  else (integer? text).or (float? text)

end SyntaxQuery.Toml.Scalar
