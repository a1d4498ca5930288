/-
Reading templates.

The text is first cut into segments: a brace opens an expression if any closing
brace follows it, and the first one that follows closes it, whatever stands
between.  A brace that takes no part in this stays in a literal, where it is a
fault.  Each expression is then read on its own: operator, an optional closing
separator, and the variables between commas.  The first fault from the left is
the one reported.
-/
import RouteTemplate.Template.Error

namespace RouteTemplate
namespace Template

/-! ## Segments -/

inductive Segment where
  | plain (text : List Char)
  /-- The text between a pair of braces. -/
  | braced (body : List Char)
deriving DecidableEq, Repr

namespace Segment

/-- The part of the template that the segment is. -/
def source : Segment → List Char
  | .plain s => s
  | .braced s => '{' :: s ++ ['}']

/-- Put a character before the first segment, in the literal that starts there. -/
def consPlain (c : Char) : List Segment → List Segment
  | .plain s :: rest => .plain (c :: s) :: rest
  | segments => .plain [c] :: segments

mutual

/-- The segments of a text that starts outside braces. -/
def split : List Char → List Segment
  | [] => []
  | c :: cs =>
    if c = '{' then
      match splitBody cs with
      | some (body, rest) => .braced body :: rest
      | none => [.plain (c :: cs)]
    else consPlain c (split cs)
termination_by structural s => s

/-- The text up to the first closing brace and the segments after it, if there
is a closing brace. -/
def splitBody : List Char → Option (List Char × List Segment)
  | [] => none
  | c :: cs =>
    if c = '}' then some ([], split cs)
    else (splitBody cs).map fun p => (c :: p.1, p.2)
termination_by structural s => s

end

/-- The text that segments were cut from. -/
def join (segments : List Segment) : List Char := segments.flatMap source

theorem join_consPlain (c : Char) (segments : List Segment) :
    join (consPlain c segments) = c :: join segments := by
  cases segments with
  | nil => rfl
  | cons segment rest => cases segment <;> rfl

mutual

/-- Cutting loses nothing. -/
theorem join_split : ∀ s : List Char, join (split s) = s
  | [] => rfl
  | c :: cs => by
    by_cases hc : c = '{'
    · subst hc
      cases h : splitBody cs with
      | none => simp [split, h, join, source]
      | some p =>
        obtain ⟨body, rest⟩ := p
        have hs : join (split ('{' :: cs)) = source (.braced body) ++ join rest := by
          simp [split, h, join]
        rw [hs, eq_of_splitBody cs h]
        simp [source]
    · simp [split, hc, join_consPlain, join_split cs]
termination_by structural s => s

theorem eq_of_splitBody : ∀ (s : List Char) {body : List Char} {rest : List Segment},
    splitBody s = some (body, rest) → s = body ++ '}' :: join rest
  | [], _, _, h => by simp [splitBody] at h
  | c :: cs, body, rest, h => by
    by_cases hc : c = '}'
    · subst hc
      simp only [splitBody, if_true, Option.some.injEq, Prod.mk.injEq] at h
      obtain ⟨rfl, rfl⟩ := h
      simp [join_split cs]
    · simp only [splitBody, if_neg hc, Option.map_eq_some_iff] at h
      obtain ⟨⟨b, r⟩, hp, heq⟩ := h
      obtain ⟨rfl, rfl⟩ := Prod.mk.inj heq
      simp [← eq_of_splitBody cs hp]
termination_by structural s => s

end

end Segment

/-! ## Variables -/

/-- The characters of a name; a point and an encoded byte may follow them. -/
def isWordChar (c : Char) : Bool := c.isAlphanum || c = '_'

/-- The name and key gathered so far, and the rest of a specification.  A slash
ends the name and starts the key afresh; a text that holds anything but name
characters, points, encoded bytes and slashes has neither. -/
def readName (name key : List Char) : List Char → Option (List Char × List Char)
  | [] => some (name, key)
  | '%' :: a :: b :: cs =>
    if Percent.isHexDigit a && Percent.isHexDigit b then readName name (key ++ ['%', a, b]) cs
    else none
  | c :: cs =>
    if c = '/' then readName key [] cs
    else if isWordChar c || c = '.' then readName name (key ++ [c]) cs
    else none
termination_by structural s => s

/-- One to three digits that are not all zero. -/
def readLength? (cs : List Char) : Option Nat :=
  if Decimal.isDigits cs && cs.length ≤ 3 && Decimal.ofDigits cs != 0 then
    some (Decimal.ofDigits cs)
  else none

/-- The modifier of a specification and what stands before it.  A colon is
looked for first, so `*` and `[]` only count at the end of a text without one. -/
def readModifier (cs : List Char) : Except Fault (List Char × Modifier) :=
  match Text.cut? ':' cs with
  | some (left, right) =>
    match readLength? right with
    | some n => .ok (left, .first n)
    | none => .error (.badVariable cs)
  | none =>
    match Text.dropEnd? ['*'] cs with
    | some left => .ok (left, .explode)
    | none =>
      match Text.dropEnd? ['[', ']'] cs with
      | some left => .ok (left, .index)
      | none => .ok (cs, .none)

/-- A variable specification: a name that starts with a name character, then a
modifier, then a fallback after the first equals sign. -/
def readVariable (cs : List Char) : Except Fault Variable := do
  match cs with
  | [] => .error .emptyName
  | c :: _ =>
    if !isWordChar c then .error (.badVariable cs)
    else
      let (spec, fallback) :=
        match Text.cut? '=' cs with
        | some (left, right) => (left, some (String.ofList right))
        | none => (cs, none)
      let (left, modifier) ← readModifier spec
      match readName [] [] left with
      | none => .error (.badVariable (left ++ modifier.text))
      | some (name, key) =>
        let name' := if name.isEmpty then key else name
        let key' := if key.isEmpty then name' else key
        .ok ⟨String.ofList name', String.ofList key', modifier, fallback⟩

/-! ## Expressions -/

/-- Whether a body starts with a name character or an encoded byte. -/
def startsWithName : List Char → Bool
  | '%' :: a :: b :: _ => Percent.isHexDigit a && Percent.isHexDigit b
  | c :: _ => isWordChar c
  | [] => false

/-- Whether a text is a single line; a line end may close it. -/
def isOneLine : List Char → Bool
  | [] => true
  | c :: cs => if c = '\n' then cs.isEmpty else isOneLine cs

/-- The operator of an expression and what follows it.  A body without an
operator is told by its first character and must be a single line. -/
def readOperator (body : List Char) : Except Fault (Operator × List Char) :=
  if startsWithName body && isOneLine body then .ok (.simple, body)
  else
    match body with
    | '+' :: cs => .ok (.reserved, cs)
    | '#' :: cs => .ok (.fragment, cs)
    | '.' :: cs => .ok (.label, cs)
    | '/' :: cs => .ok (.path, cs)
    | ';' :: cs => .ok (.parameter, cs)
    | '?' :: cs => .ok (.query, cs)
    | '&' :: cs => .ok (.continuation, cs)
    | ',' :: '+' :: cs => .ok (.commaReserved, cs)
    | ',' :: cs => .ok (.comma, cs)
    | c :: _ =>
      if ['=', '!', '@', '|'].contains c then
        .error (.unsupportedExpansion (Segment.braced body).source)
      else .error (.badExpansion (Segment.braced body).source)
    | [] => .error (.badExpansion (Segment.braced body).source)

/-- Take one separator off the end of a list of variables. -/
def splitCloser (cs : List Char) : List Char × Option Char :=
  match cs.getLast? with
  | some c => if [',', '.', '/', ';', '&'].contains c then (cs.dropLast, some c) else (cs, none)
  | none => (cs, none)

def readExpression (body : List Char) : Except Fault Expression := do
  let (operator, rest) ← readOperator body
  let (specs, closer) := splitCloser rest
  let vars ← (specs.splitOn ',').mapM readVariable
  return ⟨operator, vars, closer⟩

def readSegment : Segment → Except Fault Part
  | .plain s =>
    if s.contains '{' || s.contains '}' then .error (.badExpansion s) else .ok (.literal s)
  | .braced body => (readExpression body).map Part.expression

/-- The parts of a template, or its first fault. -/
def readParts (source : List Char) : Except Fault (List Part) :=
  (Segment.split source).mapM readSegment

/-- Read a template, or say what is wrong with it. -/
def parse (source : String) : Except SyntaxError Template :=
  match readParts source.toList with
  | .ok parts => .ok ⟨source, parts⟩
  | .error fault => .error ⟨source, fault⟩

end Template
end RouteTemplate
