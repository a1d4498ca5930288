/-
Decimal numerals: a natural number of digits with a power of ten, and the
reading and writing of plain digit strings.
-/

namespace RouteTemplate

/-- The number `digits · 10 ^ exponent`. -/
structure Decimal where
  digits : Nat
  exponent : Int
deriving DecidableEq, Repr

namespace Decimal

/-- The value of a string of ASCII digits; zero for the empty string. -/
def ofDigits (ds : List Char) : Nat :=
  ds.foldl (fun n c => 10 * n + (c.toNat - 48)) 0

/-- The digits of a number, most significant first. -/
def digitChars (n : Nat) : List Char :=
  Nat.toDigits 10 n

/-- How many digits a number is written with. -/
def width (n : Nat) : Nat :=
  (digitChars n).length

/-- Move factors of ten from the digits to the exponent, at most `fuel` times. -/
def trimWith : Nat → Decimal → Decimal
  | 0, d => d
  | fuel + 1, d =>
    if d.digits ≠ 0 ∧ d.digits % 10 = 0 then trimWith fuel ⟨d.digits / 10, d.exponent + 1⟩ else d

/-- The same number without trailing zeros in its digits. -/
def trim (d : Decimal) : Decimal :=
  trimWith (width d.digits) d

/-- A power of ten, one for a power below zero.  A factor `10 ^ k` of a fraction
goes above the line as `pow10 k` and below it as `pow10 (-k)`. -/
def pow10 (k : Int) : Nat := Nat.pow 10 k.toNat

/-- The number as a fraction of two naturals, the second of them positive. -/
def numerator (d : Decimal) : Nat :=
  d.digits * pow10 d.exponent

def denominator (d : Decimal) : Nat :=
  pow10 (-d.exponent)

/-- The power of ten of the leading digit. -/
def magnitude (d : Decimal) : Int :=
  d.exponent + width d.digits - 1

/-- An optional sign, and what follows it. -/
def splitSign : List Char → Bool × List Char
  | '-' :: cs => (true, cs)
  | '+' :: cs => (false, cs)
  | cs => (false, cs)

/-- A non-empty string of ASCII digits. -/
def isDigits (cs : List Char) : Bool :=
  !cs.isEmpty && cs.all Char.isDigit

/-- The greatest number of digits that an integer is read or written with. -/
def digitLimit : Nat := 4300

/-- An integer: an optional sign and one or more digits. -/
def readInt? (cs : List Char) : Option Int :=
  let (negative, ds) := splitSign cs
  if isDigits ds then
    some (if negative then -(ofDigits ds : Int) else ofDigits ds)
  else none

def isWritable (n : Int) : Bool := decide (width n.natAbs ≤ digitLimit)

/-- An integer as it is written, if it has few enough digits for that. -/
def write? (n : Int) : Option (List Char) :=
  if isWritable n then some (toString n).toList else none

/-- An unsigned numeral: digits with at most one point among them, at least one
digit, then an optional exponent. -/
def read? (cs : List Char) : Option Decimal :=
  let whole := cs.takeWhile Char.isDigit
  let afterWhole := cs.dropWhile Char.isDigit
  let (fraction, tail) :=
    match afterWhole with
    | '.' :: t => (t.takeWhile Char.isDigit, t.dropWhile Char.isDigit)
    | t => ([], t)
  if whole.isEmpty && fraction.isEmpty then none
  else
    let digits := ofDigits (whole ++ fraction)
    match tail with
    | [] => some ⟨digits, -fraction.length⟩
    | c :: t =>
      if c = 'e' ∨ c = 'E' then (readInt? t).map fun e => ⟨digits, e - fraction.length⟩
      else none

end Decimal
end RouteTemplate
