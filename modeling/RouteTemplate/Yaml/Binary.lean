/-
Bytes in base 64.  Four letters stand for three bytes, and the last group may be
short when it is filled up with padding.
-/
import RouteTemplate.Yaml.Fault

namespace RouteTemplate
namespace Yaml
namespace Binary

/-- The value of a letter of base 64. -/
def sextet? (c : Char) : Option Nat :=
  if c.isUpper then some (c.toNat - 65)
  else if c.isLower then some (c.toNat - 71)
  else if c.isDigit then some (c.toNat + 4)
  else if c = '+' then some 62
  else if c = '/' then some 63
  else none

/-- The values of the letters of a text, of which `place` belong to a group that is
not full and are followed by `padding` marks.  A group that is filled up ends the
text, and marks in front of another letter say nothing.  Other characters are
passed over. -/
def sextets? : Nat → Nat → List Char → Option (List Nat)
  | place, _, [] => if place = 0 then some [] else none
  | place, padding, c :: cs =>
    if c = '=' then
      if place < 2 then sextets? place padding cs
      else if 4 ≤ place + padding + 1 then some []
      else sextets? place (padding + 1) cs
    else
      match sextet? c with
      | some n => (sextets? ((place + 1) % 4) 0 cs).map (n :: ·)
      | none => sextets? place padding cs

/-- Bytes from groups of four letters, the last of which may be short. -/
def bytesOfSextets : List Nat → List UInt8
  | a :: b :: c :: d :: rest =>
    UInt8.ofNat (4 * a + b / 16) :: UInt8.ofNat (16 * (b % 16) + c / 4) ::
      UInt8.ofNat (64 * (c % 4) + d) :: bytesOfSextets rest
  | [a, b, c] => [UInt8.ofNat (4 * a + b / 16), UInt8.ofNat (16 * (b % 16) + c / 4)]
  | [a, b] => [UInt8.ofNat (4 * a + b / 16)]
  | _ => []

def bytes (text : String) : Except Fault (List UInt8) :=
  match sextets? 0 0 text.toList with
  | some sextets =>
    if text.toList.all (·.toNat < 128) then .ok (bytesOfSextets sextets) else .error .malformed
  | none => .error .malformed

end Binary
end Yaml
end RouteTemplate
