/-
The numbers of IEEE 754 binary64.  A finite magnitude is named by its rank in
the list of all finite magnitudes in order of size: every rank is a number and
every number has one rank, so no invariant has to be carried.  All arithmetic
here is exact arithmetic on naturals, rounded once, to nearest with ties to
even.
-/
import RouteTemplate.Decimal.Basic

namespace RouteTemplate

/-- The numbers of one binade are `2 ^ 52`. -/
def Binary64.binade : Nat := 4503599627370496

/-- All finite magnitudes are 2047 binades. -/
def Binary64.rankCount : Nat := 9218868437227405312

inductive Binary64 where
  | nan
  | infinite (negative : Bool)
  | finite (negative : Bool) (rank : Fin Binary64.rankCount)
deriving DecidableEq, Repr

namespace Binary64

/-! ## Magnitudes

The magnitude of rank `r` is `significand r * 2 ^ exponent r`. -/

def significand (rank : Nat) : Nat :=
  if rank < binade then rank else binade + rank % binade

def exponent (rank : Nat) : Int :=
  if rank < binade then -1074 else (rank / binade : Nat) - 1075

/-- A power of two, one for a power below zero. -/
def pow2 (k : Int) : Nat := Nat.pow 2 k.toNat

def numerator (rank : Nat) : Nat :=
  significand rank * pow2 (exponent rank)

def denominator (rank : Nat) : Nat :=
  pow2 (-exponent rank)

/-! ## Rounding -/

/-- The integer nearest to a quotient; a half goes to the even neighbour. -/
def roundDiv (num den : Nat) : Nat :=
  let q := num / den
  let r := num % den
  if 2 * r < den then q
  else if den < 2 * r then q + 1
  else q + q % 2

/-- The greatest `k` with `2 ^ k ≤ num / den`, for a positive quotient. -/
def floorLog2 (num den : Nat) : Int :=
  let k : Int := (num.log2 : Int) - den.log2
  if num * pow2 (-k) < den * pow2 k then k - 1 else k

def ofRank (negative : Bool) (rank : Nat) : Binary64 :=
  if h : rank < rankCount then .finite negative ⟨rank, h⟩ else .infinite negative

/-- The number nearest to a quotient.  A significand that rounds up to `2 ^ 53`
carries into the next binade by itself, because ranks go on across it. -/
def ofRatio (negative : Bool) (num den : Nat) : Binary64 :=
  if num = 0 then ofRank negative 0
  else
    let e := max (floorLog2 num den - 52) (-1074)
    let q := roundDiv (num * pow2 (-e)) (den * pow2 e)
    ofRank negative ((e + 1074).toNat * binade + q)

/-- The number nearest to a decimal.  A decimal far outside the range is
settled by its magnitude alone, so that no great power of ten is computed. -/
def ofDecimal (negative : Bool) (d : Decimal) : Binary64 :=
  if d.digits = 0 then ofRank negative 0
  else if 400 < d.magnitude then .infinite negative
  else if d.magnitude < -400 then ofRank negative 0
  else ofRatio negative d.numerator d.denominator

def ofInt (n : Int) : Binary64 :=
  ofRatio (n < 0) n.natAbs 1

/-! ## Arithmetic -/

/-- The number nearest to a quotient with a sign of its own. -/
def ofSignedRatio (num : Int) (den : Nat) : Binary64 :=
  ofRatio (num < 0) num.natAbs den

def negate : Binary64 → Binary64
  | .nan => .nan
  | .infinite negative => .infinite !negative
  | .finite negative rank => .finite (!negative) rank

/-- The exact numerator of a finite number, over its denominator. -/
def signedNumerator (negative : Bool) (rank : Nat) : Int :=
  if negative then -(numerator rank : Int) else numerator rank

/-- The number nearest to a sum.  A sum that is zero is negative only where both
numbers are. -/
def add : Binary64 → Binary64 → Binary64
  | .finite s r, .finite t q =>
    let num := signedNumerator s r * denominator q + signedNumerator t q * denominator r
    if num = 0 then ofRank (s && t) 0 else ofSignedRatio num (denominator r * denominator q)
  | .infinite s, .infinite t => if s = t then .infinite s else .nan
  | .infinite s, .finite _ _ => .infinite s
  | .finite _ _, .infinite t => .infinite t
  | _, _ => .nan

/-- The number nearest to a positive multiple. -/
def scale (n : Nat) : Binary64 → Binary64
  | .finite negative rank => ofRatio negative (numerator rank * n) (denominator rank)
  | x => x

/-! ## Reading -/

/-- A numeral with an optional sign, or a name of infinity or of no number, in
any case. -/
def ofText? (cs : List Char) : Option Binary64 :=
  let (negative, rest) := Decimal.splitSign cs
  let word := String.ofList (rest.map Char.toLower)
  if word = "inf" ∨ word = "infinity" then some (.infinite negative)
  else if word = "nan" then some .nan
  else (Decimal.read? rest).map (ofDecimal negative)

/-! ## Questions -/

/-- The exact integer that a number is, if it is one. -/
def toInt? : Binary64 → Option Int
  | .finite negative rank =>
    let num := numerator rank
    let den := denominator rank
    if num % den = 0 then
      some (if negative then -(num / den : Nat) else (num / den : Nat))
    else none
  | _ => none

def isPositive : Binary64 → Bool
  | .nan => false
  | .infinite negative => !negative
  | .finite negative rank => !negative && rank.val != 0

def isZero : Binary64 → Bool
  | .finite _ rank => rank.val == 0
  | _ => false

end Binary64
end RouteTemplate
