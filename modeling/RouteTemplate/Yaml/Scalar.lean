/-
What a scalar of a YAML document means.  Where no type is given it is told from
the form: some words are null or truth values, some texts are numbers or dates,
and all others are strings.  A type that is given reads more than the form it is
told from.
-/
import RouteTemplate.Text.Blank
import RouteTemplate.Text.Digit
import RouteTemplate.Value
import RouteTemplate.Yaml.Fault

namespace RouteTemplate
namespace Yaml

/-- The types of scalars; `merge` and `default` are the marks `<<` and `=`, and
`reserved` is each of the marks `!`, `&` and `*` by itself. -/
inductive ScalarKind where
  | null
  | flag
  | integer
  | number
  | date
  | merge
  | default
  | reserved
  | text
deriving DecidableEq, Repr

/-! ## Tags -/

def standardTag (name : String) : String := "tag:yaml.org,2002:" ++ name

def ScalarKind.tag : ScalarKind → String
  | .null => standardTag "null"
  | .flag => standardTag "bool"
  | .integer => standardTag "int"
  | .number => standardTag "float"
  | .date => standardTag "timestamp"
  | .merge => standardTag "merge"
  | .default => standardTag "value"
  | .reserved => standardTag "yaml"
  | .text => standardTag "str"

namespace Scalar

/-! ## Forms -/

def isSpacedDigit (c : Char) : Bool := c.isDigit || c = '_'

/-- Digits and underscores, a digit first. -/
def isSpacedDigits (cs : List Char) : Bool :=
  match cs with
  | c :: rest => c.isDigit && rest.all isSpacedDigit
  | [] => false

/-- One or two digits below sixty. -/
def isSixtieth : List Char → Bool
  | [a] => a.isDigit
  | [a, b] => '0' ≤ a && a ≤ '5' && b.isDigit
  | _ => false

/-- An exponent with its sign, or nothing. -/
def isExponent : List Char → Bool
  | [] => true
  | e :: s :: ds => (e = 'e' || e = 'E') && (s = '-' || s = '+') && Decimal.isDigits ds
  | _ => false

/-- A point, then digits and underscores, then an exponent. -/
def isFraction : List Char → Bool
  | '.' :: cs => isExponent (cs.dropWhile isSpacedDigit)
  | _ => false

def isNumber (cs : List Char) : Bool :=
  let (_, body) := Decimal.splitSign cs
  let whole := body.takeWhile isSpacedDigit
  let fraction := body.drop whole.length
  let isDecimal := isSpacedDigits whole && isFraction fraction
  let isBare :=
    match cs with
    | '.' :: d :: _ => d.isDigit && isFraction cs
    | _ => false
  let isTime :=
    match body.splitOn ':' with
    | first :: second :: rest =>
      let parts := second :: rest
      let last := parts.getLastD []
      let seconds := last.takeWhile (· ≠ '.')
      isSpacedDigits first && parts.dropLast.all isSixtieth && isSixtieth seconds &&
        (match last.drop seconds.length with
          | '.' :: ds => ds.all isSpacedDigit
          | _ => false)
    | _ => false
  isDecimal || isBare || isTime ||
    [".inf", ".Inf", ".INF"].contains (String.ofList body) ||
    [".nan", ".NaN", ".NAN"].contains (String.ofList cs)

def isInteger (cs : List Char) : Bool :=
  let (_, body) := Decimal.splitSign cs
  match body with
  | ['0'] => true
  | '0' :: 'b' :: ds => !ds.isEmpty && ds.all fun c => c = '0' || c = '1' || c = '_'
  | '0' :: 'x' :: ds => !ds.isEmpty && ds.all fun c => Percent.isHexDigit c || c = '_'
  | '0' :: ds => !ds.isEmpty && ds.all fun c => ('0' ≤ c && c ≤ '7') || c = '_'
  | _ =>
    match body.splitOn ':' with
    | first :: rest => isSpacedDigits first && rest.all isSixtieth
    | [] => false

/-! ## Dates -/

structure TimeOfDay where
  hour : Nat
  minute : Nat
  second : Nat
  /-- How far ahead of universal time, or behind it, in hours and minutes. -/
  zone : Option (Nat × Nat)
deriving Repr

structure Date where
  year : Nat
  month : Nat
  day : Nat
  time : Option TimeOfDay
deriving Repr

/-- A number of `least` to `most` digits at the start of a text, and what
follows. -/
def leadingNumber? (least most : Nat) (cs : List Char) : Option (Nat × List Char) :=
  let digits := (cs.take most).takeWhile Char.isDigit
  if least ≤ digits.length then some (Decimal.ofDigits digits, cs.drop digits.length) else none

/-- What follows a mark at the start of a text. -/
def afterMark? (mark : Char) : List Char → Option (List Char)
  | [] => none
  | c :: cs => if c = mark then some cs else none

def isTab (c : Char) : Bool := c = ' ' || c = '\t'

/-- The end of a time of day: nothing, a `Z`, or a sign with hours and perhaps
minutes, with blanks before them. -/
def readZone? (cs : List Char) : Option (Option (Nat × Nat)) :=
  match cs, cs.dropWhile isTab with
  | [], _ => some none
  | _, ['Z'] => some none
  | _, c :: rest =>
    if c = '-' || c = '+' then do
      let (hours, rest) ← leadingNumber? 1 2 rest
      match rest with
      | [] => return some (hours, 0)
      | _ =>
        let (minutes, rest) ← leadingNumber? 2 2 (← afterMark? ':' rest)
        if rest.isEmpty then return some (hours, minutes) else none
    else none
  | _, [] => none

def readTime? (cs : List Char) : Option TimeOfDay := do
  let (hour, cs) ← leadingNumber? 1 2 cs
  let (minute, cs) ← leadingNumber? 2 2 (← afterMark? ':' cs)
  let (second, cs) ← leadingNumber? 2 2 (← afterMark? ':' cs)
  let cs :=
    match afterMark? '.' cs with
    | some fraction => fraction.dropWhile Char.isDigit
    | none => cs
  return ⟨hour, minute, second, ← readZone? cs⟩

/-- A day, alone or followed by a time of day.  Month and day have two digits, or
`least` of them. -/
def readDate? (least : Nat) (cs : List Char) : Option Date := do
  let (year, cs) ← leadingNumber? 4 4 cs
  let (month, cs) ← leadingNumber? least 2 (← afterMark? '-' cs)
  let (day, cs) ← leadingNumber? least 2 (← afterMark? '-' cs)
  match cs with
  | [] => return ⟨year, month, day, none⟩
  | c :: rest =>
    if c = 'T' || c = 't' then return ⟨year, month, day, some (← readTime? rest)⟩
    else if isTab c then return ⟨year, month, day, some (← readTime? (rest.dropWhile isTab))⟩
    else none

/-- A text that has the form of a date.  A day alone needs both digits of its
month and day. -/
def isDate (cs : List Char) : Bool :=
  match readDate? 1 cs with
  | some d => d.time.isSome || (readDate? 2 cs).isSome
  | none => false

/-! ## Telling the type -/

def trueWords : List String := ["yes", "Yes", "YES", "true", "True", "TRUE", "on", "On", "ON"]

def falseWords : List String := ["no", "No", "NO", "false", "False", "FALSE", "off", "Off", "OFF"]

/-- A text without the line break at its end, which a form may have behind it. -/
def dropBreak (cs : List Char) : List Char :=
  if cs.getLast? = some '\n' then cs.dropLast else cs

/-- The type of a text that has no line break at its end. -/
def kindOfLine (cs : List Char) : ScalarKind :=
  let s := String.ofList cs
  if ["", "~", "null", "Null", "NULL"].contains s then .null
  else if trueWords.contains s || falseWords.contains s then .flag
  else if isNumber cs then .number
  else if isInteger cs then .integer
  else if s = "<<" then .merge
  else if s = "=" then .default
  else if ["!", "&", "*"].contains s then .reserved
  else if isDate cs then .date
  else .text

/-- The type of a text.  A line break alone is a text. -/
def kind (s : String) : ScalarKind :=
  if s = "\n" then .text else kindOfLine (dropBreak s.toList)

/-! ## Values -/

/-- Digits without the mark that their base may have in front of them. -/
def dropBaseMark (base : Nat) (cs : List Char) : List Char :=
  match base, cs with
  | 2, '0' :: 'b' :: ds | 2, '0' :: 'B' :: ds => ds
  | 8, '0' :: 'o' :: ds | 8, '0' :: 'O' :: ds => ds
  | 16, '0' :: 'x' :: ds | 16, '0' :: 'X' :: ds => ds
  | _, ds => ds

/-- An integer in some base, with blanks around it, a sign and the mark of the
base.  In base ten there may not be too many digits. -/
def integerIn? (base : Nat) (cs : List Char) : Option Int := do
  let (negative, body) := Decimal.splitSign (Text.trim (cs.map Text.plainDigit))
  let digits ← (dropBaseMark base body).mapM Percent.hexValue?
  if digits.isEmpty || digits.any (base ≤ ·) || (base = 10 && Decimal.digitLimit < digits.length)
  then none
  else
    let n := digits.foldl (fun n d => base * n + d) 0
    return if negative then -n else n

/-- An integer.  Underscores say nothing, and a zero in front asks for base
eight.  Parts between colons count sixty each. -/
def integer (s : String) : Except Fault Value :=
  let (negative, body) := Decimal.splitSign (s.toList.filter (· ≠ '_'))
  let magnitude? :=
    match body with
    | ['0'] => some 0
    | '0' :: 'b' :: ds => integerIn? 2 ds
    | '0' :: 'x' :: ds => integerIn? 16 ds
    | '0' :: _ => integerIn? 8 body
    | _ =>
      ((body.splitOn ':').mapM (integerIn? 10)).map fun parts =>
        parts.foldl (fun n d => 60 * n + d) 0
  if body.isEmpty then .error .noDigits
  else
    match magnitude? with
    | some n => .ok (.int (if negative then -n else n))
    | none => .error .notInteger

/-- The power of sixty that a part counts for, by its place from the end, as the
nearest number; the powers from 174 on are beyond all numbers. -/
def placeValue? (place : Nat) : Option Nat :=
  if 173 < place then none
  else (Binary64.ofInt (Nat.pow 60 place)).toInt?.map Int.toNat

/-- The sum of parts of which each counts sixty of the next, from the last to the
first. -/
def sixtieths? (parts : List Binary64) : Option Binary64 :=
  parts.reverse.zipIdx.foldlM
    (fun sum (x, place) => (placeValue? place).map fun n => sum.add (x.scale n))
    (Binary64.ofInt 0)

/-- A number.  Parts between colons count sixty each. -/
def number (s : String) : Except Fault Value :=
  let text := (s.toList.filter (· ≠ '_')).map Char.toLower
  let (negative, body) := Decimal.splitSign text
  let signed (x : Binary64) : Value := .float (if negative then x.negate else x)
  if text.isEmpty then .error .noDigits
  else if body = ".inf".toList then .ok (signed (.infinite false))
  else if body = ".nan".toList then .ok (.float .nan)
  else
    let read? (part : List Char) := Binary64.ofText? (Text.trim (part.map Text.plainDigit))
    match (body.splitOn ':').mapM read? with
    | none => .error .notNumber
    | some [x] => .ok (signed x)
    | some parts =>
      match sixtieths? parts with
      | some x => .ok (signed x)
      | none => .error .tooManyParts

def flag (s : String) : Except Fault Value :=
  let word := s.toLower
  if ["yes", "true", "on"].contains word then .ok (.bool true)
  else if ["no", "false", "off"].contains word then .ok (.bool false)
  else .error .notFlag

def daysIn (year month : Nat) : Nat :=
  if month = 2 then
    if year % 4 = 0 ∧ (year % 100 ≠ 0 ∨ year % 400 = 0) then 29 else 28
  else if [4, 6, 9, 11].contains month then 30
  else 31

namespace TimeOfDay

/-- No zone is a whole day away. -/
def isProper (t : TimeOfDay) : Bool :=
  t.hour < 24 && t.minute < 60 && t.second < 60 &&
    t.zone.all fun z => 60 * z.1 + z.2 < 24 * 60

def fields (t : TimeOfDay) : List Nat := [t.hour, t.minute, t.second]

end TimeOfDay

namespace Date

def isProper (d : Date) : Bool :=
  1 ≤ d.year && 1 ≤ d.month && d.month ≤ 12 && 1 ≤ d.day && d.day ≤ daysIn d.year d.month &&
    d.time.all TimeOfDay.isProper

def fields (d : Date) : List Nat :=
  [d.year, d.month, d.day] ++ (d.time.map TimeOfDay.fields).getD []

end Date

/-- A date is the tuple of its fields, which no setting takes. -/
def date (s : String) : Except Fault Value :=
  match readDate? 1 (dropBreak s.toList) with
  | some d =>
    if d.isProper then .ok (.tuple (d.fields.map fun n => .int (Int.ofNat n)))
    else .error .noSuchDay
  | none => .error .notDate

end Scalar
end Yaml
end RouteTemplate
