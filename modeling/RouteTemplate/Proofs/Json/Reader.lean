/-
JSON text and what it means.

The reader takes what the grammar has and nothing else: no words for numbers
that are none, no comma behind the last item, no zero in front of a number, no
control character in a string.  Its fuel is the length of the text, and every
step takes a character off, so that no text runs it dry.

A word or a number ends where no character follows that could belong to one.  In
a text that the grammar has, what follows is a space, a delimiter or the end.
-/
import RouteTemplate.Json.Tree
import RouteTemplate.Proofs.Schema.Mapping

namespace RouteTemplate
namespace JsonTree

/-! ## Space -/

def isSpace (c : Char) : Bool := c == ' ' || c == '\t' || c == '\n' || c == '\r'

def skipSpace (cs : List Char) : List Char := cs.dropWhile isSpace

/-! ## Strings -/

/-- Four hexadecimal digits. -/
def readUnit? : List Char → Option (Nat × List Char)
  | a :: b :: c :: d :: cs => do
    let w ← Percent.hexValue? a
    let x ← Percent.hexValue? b
    let y ← Percent.hexValue? c
    let z ← Percent.hexValue? d
    return (((w * 16 + x) * 16 + y) * 16 + z, cs)
  | _ => none

/-- The character of one unit, or of a unit and the one escaped behind it.  Half of a pair is
no character. -/
def readUnits? (cs : List Char) : Option (Char × List Char) := do
  let (n, cs) ← readUnit? cs
  if n < 0xD800 ∨ 0xDFFF < n then return (Char.ofNat n, cs)
  else
    match cs with
    | '\\' :: 'u' :: cs => do
      let (m, cs) ← readUnit? cs
      if n < 0xDC00 ∧ 0xDC00 ≤ m ∧ m < 0xE000 then
        return (Char.ofNat (0x10000 + (n - 0xD800) * 0x400 + (m - 0xDC00)), cs)
      else none
    | _ => none

/-- What stands behind a backslash. -/
def readEscape? : List Char → Option (Char × List Char)
  | '"' :: cs => some ('"', cs)
  | '\\' :: cs => some ('\\', cs)
  | '/' :: cs => some ('/', cs)
  | 'b' :: cs => some (Char.ofNat 0x08, cs)
  | 'f' :: cs => some (Char.ofNat 0x0C, cs)
  | 'n' :: cs => some ('\n', cs)
  | 'r' :: cs => some ('\r', cs)
  | 't' :: cs => some ('\t', cs)
  | 'u' :: cs => readUnits? cs
  | _ => none

def readChar? : List Char → Option (Char × List Char)
  | [] => none
  | '\\' :: cs => readEscape? cs
  | c :: cs => if 0x20 ≤ c.toNat then some (c, cs) else none

/-- The characters of a string, up to the quote that closes it. -/
def readText? : Nat → List Char → Option (List Char × List Char)
  | 0, _ => none
  | fuel + 1, cs =>
    match cs with
    | '"' :: cs => some ([], cs)
    | cs => do
      let (c, cs) ← readChar? cs
      let (s, cs) ← readText? fuel cs
      return (c :: s, cs)

/-! ## Words and numbers -/

def isWordChar (c : Char) : Bool := c.isAlphanum || c == '+' || c == '-' || c == '.'

/-- Digits in front of the point: no zero in front of others. -/
def isWhole (ds : List Char) : Bool := Decimal.isDigits ds && (ds == ['0'] || ds.head? != some '0')

/-- Nothing, or an exponent. -/
def isPower : List Char → Bool
  | [] => true
  | c :: cs => (c == 'e' || c == 'E') && (Decimal.readInt? cs).isSome

/-- What stands behind the digits in front of the point. -/
def isTail : List Char → Bool
  | '.' :: cs =>
    Decimal.isDigits (cs.takeWhile Char.isDigit) && isPower (cs.dropWhile Char.isDigit)
  | cs => isPower cs

/-- A number with neither a fraction nor an exponent is an integer. -/
def number? (cs : List Char) : Option JsonTree :=
  let unsigned := if cs.head? = some '-' then cs.tail else cs
  let tail := unsigned.dropWhile Char.isDigit
  if isWhole (unsigned.takeWhile Char.isDigit) && isTail tail then
    if tail.isEmpty then (Decimal.readInt? cs).map .int else (Binary64.ofText? cs).map .float
  else none

def word? (cs : List Char) : Option JsonTree :=
  if cs = "null".toList then some .null
  else if cs = "true".toList then some (.bool true)
  else if cs = "false".toList then some (.bool false)
  else number? cs

def readWord? (cs : List Char) : Option (JsonTree × List Char) :=
  (word? (cs.takeWhile isWordChar)).map fun t => (t, cs.dropWhile isWordChar)

/-! ## Arrays and objects -/

section

variable {α : Type} (item : List Char → Option (α × List Char)) (closing : Char)

/-- Items, at least one, with commas between them, and the bracket that closes them. -/
def readItems? : Nat → List Char → Option (List α × List Char)
  | 0, _ => none
  | fuel + 1, cs => do
    let (a, cs) ← item (skipSpace cs)
    match skipSpace cs with
    | [] => none
    | c :: cs =>
      if c = closing then return ([a], cs)
      else if c = ',' then
        let (as, cs) ← readItems? fuel cs
        return (a :: as, cs)
      else none

def readEnclosed? (fuel : Nat) (cs : List Char) : Option (List α × List Char) :=
  match skipSpace cs with
  | [] => none
  | c :: rest => if c = closing then some ([], rest) else readItems? item closing fuel cs

end

/-- A name, a colon and a value. -/
def readMember? (value : List Char → Option (JsonTree × List Char)) (fuel : Nat) :
    List Char → Option ((String × JsonTree) × List Char)
  | '"' :: cs => do
    let (name, cs) ← readText? fuel cs
    match skipSpace cs with
    | ':' :: cs => do
      let (t, cs) ← value (skipSpace cs)
      return ((String.ofList name, t), cs)
    | _ => none
  | _ => none

/-- The value that a text starts with, and what follows it. -/
def readValue? : Nat → List Char → Option (JsonTree × List Char)
  | 0, _ => none
  | fuel + 1, cs =>
    match cs with
    | '"' :: cs => (readText? fuel cs).map fun p => (.text (String.ofList p.1), p.2)
    | '[' :: cs => (readEnclosed? (readValue? fuel) ']' fuel cs).map fun p => (.array p.1, p.2)
    | '\x7b' :: cs =>
      (readEnclosed? (readMember? (readValue? fuel) fuel) '\x7d' fuel cs).map fun p =>
        (.object p.1, p.2)
    | cs => readWord? cs

/-- A text as one document. -/
def read? (cs : List Char) : Option JsonTree :=
  match readValue? cs.length (skipSpace cs) with
  | some (t, rest) => if (skipSpace rest).isEmpty then some t else none
  | none => none

/-! ## Documents as values -/

mutual

def toValue : JsonTree → Value
  | .null => .null
  | .bool b => .bool b
  | .int n => .int n
  | .float x => .float x
  | .text s => .text s
  | .array items => .list (toItems items)
  | .object members => Value.ofEntries (Schema.dictionary (toEntries members))
termination_by structural t => t

def toItems : List JsonTree → List Value
  | [] => []
  | t :: ts => toValue t :: toItems ts
termination_by structural ts => ts

def toEntries : List (String × JsonTree) → List (String × Value)
  | [] => []
  | (name, t) :: ms => (name, toValue t) :: toEntries ms
termination_by structural ms => ms

end

theorem toEntries_eq_map (ms : List (String × JsonTree)) :
    toEntries ms = ms.map fun m => (m.1, toValue m.2) := by
  induction ms with
  | nil => rfl
  | cons m ms ih => rw [toEntries, ih, List.map_cons]

/-- The members of an object as parameters.  A name given twice has its later value. -/
def toParams (members : List (String × JsonTree)) : Params :=
  Schema.dictionary (toEntries members)

/-- The member of an object under a name. -/
def member? (name : String) : JsonTree → Option JsonTree
  | .object members => (Schema.dictionary members).lookup name
  | _ => none

end JsonTree
end RouteTemplate
