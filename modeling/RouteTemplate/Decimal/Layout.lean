/-
How a number is laid out in text.  The digits are always the shortest ones; a
layout only says which powers of ten are written out in positions and how an
exponent is padded.
-/
import RouteTemplate.Decimal.Shortest

namespace RouteTemplate
namespace Decimal

structure Layout where
  /-- The least power of ten of a leading digit that is still written in
  positions; the greatest is always fifteen. -/
  lowest : Int
  /-- The least number of digits of an exponent. -/
  exponentWidth : Nat

namespace Layout

/-- Values in URLs, messages and plain JSON: `0.0001`, `1e-05`, `1e+16`. -/
def plain : Layout := ⟨-4, 2⟩

/-- Model documents: `0.00001`, `1e-6`, `1e+16`. -/
def compact : Layout := ⟨-5, 1⟩

def zeros (n : Nat) : List Char := List.replicate n '0'

/-- Digits around a point, the leading one at `10 ^ x`, with at least one digit
on either side. -/
def positional (ds : List Char) (x : Int) : List Char :=
  if x < 0 then '0' :: '.' :: zeros (-x - 1).toNat ++ ds
  else
    let whole := (x + 1).toNat
    if ds.length ≤ whole then ds ++ zeros (whole - ds.length) ++ ['.', '0']
    else ds.take whole ++ '.' :: ds.drop whole

def scientific (layout : Layout) (ds : List Char) (x : Int) : List Char :=
  let power := digitChars x.natAbs
  ds.take 1 ++ (if ds.length ≤ 1 then [] else '.' :: ds.drop 1) ++
    'e' :: (if x < 0 then '-' else '+') :: zeros (layout.exponentWidth - power.length) ++ power

def write (layout : Layout) (d : Decimal) : List Char :=
  let ds := digitChars d.digits
  let x := if d.digits = 0 then 0 else d.magnitude
  if layout.lowest ≤ x ∧ x < 16 then positional ds x else layout.scientific ds x

end Layout
end Decimal

namespace Binary64

/-- The text of a number; infinities and the absence of a number are words. -/
def text (layout : Decimal.Layout) : Binary64 → List Char
  | .nan => "nan".toList
  | .infinite negative => (if negative then ['-'] else []) ++ "inf".toList
  | .finite negative rank => (if negative then ['-'] else []) ++ layout.write (shortest rank)

end Binary64
end RouteTemplate
