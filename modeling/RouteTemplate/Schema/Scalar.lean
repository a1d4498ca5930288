/-
Reading single settings out of values that come from outside.  A setting takes
more than its own kind of value: text may come as bytes, numbers and truth
values may come as text.
-/
import RouteTemplate.Text.Blank
import RouteTemplate.Value

namespace RouteTemplate
namespace Schema

/-- Text, given as such or as bytes in UTF-8. -/
def text? : Value → Option String
  | .text s => some s
  | .bytes bs => String.fromUTF8? ⟨bs.toArray⟩
  | _ => none

/-! ## Truth values -/

def flagWord? (s : String) : Option Bool :=
  let word := s.toLower
  if ["0", "off", "f", "false", "n", "no"].contains word then some false
  else if ["1", "on", "t", "true", "y", "yes"].contains word then some true
  else none

def flagNumber? (n : Int) : Option Bool :=
  if n = 0 then some false else if n = 1 then some true else none

/-- A truth value, the numbers zero and one, or one of twelve words. -/
def flag? : Value → Option Bool
  | .bool b => some b
  | .int n => flagNumber? n
  | .float x => x.toInt?.bind flagNumber?
  | .text s => flagWord? s
  | .bytes bs => (text? (.bytes bs)).bind flagWord?
  | _ => none

/-! ## Numbers -/

/-- A text without its underscores, each of which must stand between two other
characters. -/
def joinDigits? (s : List Char) : Option (List Char) :=
  if (s.splitOn '_').any List.isEmpty then none else some (s.filter (· ≠ '_'))

def numberText? (s : String) : Option Binary64 :=
  match Binary64.ofText? (Text.trim s.toList) with
  | some x => some x
  | none => (joinDigits? s.toList).bind Binary64.ofText?

/-- A number.  An integer too great for the format is not one. -/
def number? : Value → Option Binary64
  | .float x => some x
  | .int n =>
    match Binary64.ofInt n with
    | .finite negative rank => some (.finite negative rank)
    | _ => none
  | .bool b => some (Binary64.ofInt (if b then 1 else 0))
  | .text s => numberText? s
  | .bytes bs => (text? (.bytes bs)).bind numberText?
  | _ => none

/-- A text without the zeros in front of its first other digit; one that starts
with neither a digit nor a minus sign is not accepted. -/
def dropZeros? (s : List Char) : Option (List Char) :=
  match s with
  | [] => none
  | c :: _ =>
    if c = '0' then
      let zeros := s.takeWhile fun d => d = '0' || d = '_'
      match s.drop zeros.length with
      | [] => some (zeros.drop (zeros.length - 1))
      | d :: rest =>
        if d.isDigit then some (d :: rest)
        else if d = '.' then some (zeros.drop (zeros.length - 1) ++ d :: rest)
        else none
    else if c.isDigit || c = '-' then some s
    else none

/-- A text without a point that only zeros follow. -/
def dropFraction (s : List Char) : List Char :=
  let whole := s.takeWhile (· ≠ '.')
  if (s.drop (whole.length + 1)).all (· = '0') then whole else s

/-- An integer in plain digits, or one with space around it, with a fraction of
zeros, or with underscores between its digits. -/
def integerText? (s : String) : Option Int :=
  let cs := s.toList
  if Decimal.digitLimit < cs.length then none
  else
    match Decimal.readInt? cs with
    | some n => some n
    | none => do
      let trimmed := Text.trim cs
      let unsigned := if trimmed.head? = some '+' then trimmed.drop 1 else trimmed
      if trimmed.head? = some '+' ∧ unsigned.head? = some '-' then none
      else
        let digits := dropFraction (← dropZeros? unsigned)
        Decimal.readInt? (← joinDigits? digits)

/-- No whole number is read as an integer from here on: `2 ^ 63`. -/
def wholeLimit : Nat := 9223372036854775808

/-- An integer, a truth value as zero or one, a whole number of at most 63 bits,
or an integer as text. -/
def integer? : Value → Option Int
  | .int n => some n
  | .bool b => some (if b then 1 else 0)
  | .float x =>
    match x.toInt? with
    | some n => if n.natAbs < wholeLimit then some n else none
    | none => none
  | .text s => integerText? s
  | .bytes bs => (text? (.bytes bs)).bind integerText?
  | _ => none

end Schema
end RouteTemplate
