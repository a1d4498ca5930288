/-
The decimal that a binary64 number is written as: the fewest digits that read
back as the number, and of the numerals with so many digits the one nearest to
it, the even one of two equally near.
-/
import RouteTemplate.Decimal.Binary64

namespace RouteTemplate
namespace Binary64

/-- The greatest `k` with `10 ^ k ≤ num / den`, for a positive quotient.  The
start is never above it and at most one below. -/
def floorLog10 (num den : Nat) : Int :=
  let k := (floorLog2 num den * 30103).fdiv 100000 - 1
  let reaches (j : Int) : Bool := den * Decimal.pow10 j ≤ num * Decimal.pow10 (-j)
  if reaches (k + 2) then k + 2 else if reaches (k + 1) then k + 1 else k

/-- The best numeral on the grid of multiples of `10 ^ g` that reads back as the
magnitude, if one does.  Only the two neighbours of the magnitude are looked at:
if any point of the grid reads back, one of them does. -/
def onGrid? (rank : Nat) (g : Int) : Option Decimal :=
  let num := numerator rank * Decimal.pow10 (-g)
  let den := denominator rank * Decimal.pow10 g
  let low := num / den
  let readsBack (n : Nat) : Bool := ofDecimal false ⟨n, g⟩ == ofRank false rank
  match readsBack low, readsBack (low + 1) with
  | true, true => some ⟨roundDiv num den, g⟩
  | true, false => some ⟨low, g⟩
  | false, true => some ⟨low + 1, g⟩
  | false, false => none

/-- Seventeen digits always read back, so the last alternative is not taken. -/
def shortest (rank : Nat) : Decimal :=
  if rank = 0 then ⟨0, 0⟩
  else
    let top := floorLog10 (numerator rank) (denominator rank)
    match (List.range 17).findSome? fun (n : Nat) => onGrid? rank (top - n) with
    | some d => d.trim
    | none => ⟨numerator rank, exponent rank⟩

end Binary64
end RouteTemplate
