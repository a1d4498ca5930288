/-
Text between quotes, as messages show it.  The quote is single unless the text
holds a single quote and no double one.
-/
import RouteTemplate.Text.Percent
import RouteTemplate.Text.Printable

namespace RouteTemplate
namespace Text

/-- The last `width` lowercase hexadecimal digits of a number. -/
def hexPadded : Nat → Nat → List Char
  | 0, _ => []
  | width + 1, n => hexPadded width (n / 16) ++ [(Percent.hexDigit (n % 16)).toLower]

/-- The quote that encloses a text. -/
def quoteFor (s : List Char) : Char :=
  if s.contains '\'' && !s.contains '"' then '"' else '\''

def escapeChar (quote c : Char) : List Char :=
  if c = quote ∨ c = '\\' then ['\\', c]
  else if c = '\n' then ['\\', 'n']
  else if c = '\r' then ['\\', 'r']
  else if c = '\t' then ['\\', 't']
  else if isPrintable c then [c]
  else if c.toNat < 0x100 then '\\' :: 'x' :: hexPadded 2 c.toNat
  else if c.toNat < 0x10000 then '\\' :: 'u' :: hexPadded 4 c.toNat
  else '\\' :: 'U' :: hexPadded 8 c.toNat

def quoted (s : List Char) : List Char :=
  let q := quoteFor s
  q :: s.flatMap (escapeChar q) ++ [q]

/-- A string of bytes, marked with a `b`; every byte outside ASCII is written in
hexadecimal. -/
def quotedBytes (bs : List UInt8) : List Char :=
  let cs := bs.map fun b => Char.ofNat b.toNat
  let q := quoteFor cs
  let byte (c : Char) : List Char :=
    if c.toNat < 0x7F then escapeChar q c else '\\' :: 'x' :: hexPadded 2 c.toNat
  'b' :: q :: cs.flatMap byte ++ [q]

end Text
end RouteTemplate
