/-
The hosts of URLs.  A host that looks like an address has to be one, and any other
is a name in lower case.
-/
import RouteTemplate.Decimal.Basic
import RouteTemplate.Text.Percent

namespace RouteTemplate
namespace Host

/-! ## Addresses of four bytes -/

/-- The rest of a text of digits from inside the first field, with `n` fields to
come after it, of which each has a character of any kind in front. -/
def isDottedFrom : Nat → List Char → Bool
  | n, [] => n == 0
  | n, c :: cs =>
    (c.isDigit && isDottedFrom n cs) ||
      match n, cs with
      | n + 1, d :: cs => d.isDigit && isDottedFrom n cs
      | _, _ => false

/-- Four fields of digits with one character between each two, which may be a
digit as well. -/
def isDotted : List Char → Bool
  | [] => false
  | c :: cs => c.isDigit && isDottedFrom 3 cs

/-- A byte in decimal without zeros in front. -/
def isByte (field : List Char) : Bool :=
  Decimal.isDigits field && field.length ≤ 3 && (field.length == 1 || field.head? != some '0') &&
    Decimal.ofDigits field < 256

def isShortAddress (host : List Char) : Bool :=
  let fields := host.splitOn '.'
  fields.length == 4 && fields.all isByte

/-! ## Addresses of sixteen bytes -/

/-- Two bytes in base 16. -/
def isPair (field : List Char) : Bool :=
  !field.isEmpty && field.length ≤ 4 && field.all Percent.isHexDigit

/-- The fields between colons.  Four bytes may be written in decimal at the end,
and count for two fields. -/
def addressFields? (text : List Char) : Option (List (List Char)) :=
  let fields := text.splitOn ':'
  if fields.length < 3 then none
  else
    match fields.getLast? with
    | some last =>
      if !last.contains '.' then some fields
      else if isShortAddress last then some (fields.dropLast ++ [['0'], ['0']])
      else none
    | none => none

/-- Eight fields, or fewer on both sides of two colons that stand for fields of
zero.  At the start or the end of an address no more than the two colons may be
left out of account. -/
def isProperFields (fields : List (List Char)) : Bool :=
  let inner := fields.dropLast.drop 1
  let front := fields.headD [] :: inner.takeWhile (!·.isEmpty)
  if front.length = fields.length - 1 then fields.length = 8 && fields.all isPair
  else
    let back := fields.drop (front.length + 1)
    let side (part : List (List Char)) : List (List Char) := if part = [[]] then [] else part
    (side front ++ side back).all isPair && (side front ++ side back).length ≤ 7

/-- An address of sixteen bytes, with or without a zone behind a percent sign. -/
def isLongAddress (text : List Char) : Bool :=
  let address := text.takeWhile (· ≠ '%')
  let zone := text.drop address.length
  let isZoned := zone.isEmpty || (1 < zone.length && !(zone.drop 1).contains '%')
  isZoned && (addressFields? address).any isProperFields

/-! ## Hosts -/

def keepsName (c : Char) : Bool :=
  Percent.isUnreserved c ||
    ['!', '$', '&', '\'', '(', ')', '*', '+', ',', ';', '=', '"', '\x60', '{', '}', '%', '|',
      '\\'].contains c

/-- A host as it is kept, if it can be one.  The brackets around an address are
left out. -/
def read? (host : List Char) : Option (List Char) :=
  if isDotted host then if isShortAddress host then some host else none
  else if host.head? = some '[' ∧ host.getLast? = some ']' then
    let address := host.drop 1 |>.dropLast
    if isLongAddress address then some address else none
  else some (Percent.encodeAll keepsName (host.map Char.toLower))

end Host
end RouteTemplate
