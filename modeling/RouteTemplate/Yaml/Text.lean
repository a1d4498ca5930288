/-
The texts inside a YAML document: plain, quoted and block scalars, names and
tags.  Each reader starts at its first character and gives the text with the
cursor behind it.  Loops are bounded by fuel, which is greater than the length of
the text that is left.
-/
import RouteTemplate.Yaml.Cursor
import RouteTemplate.Decimal.Basic
import RouteTemplate.Text.Percent

namespace RouteTemplate
namespace Yaml
namespace Cursor

/-! ## Plain scalars -/

/-- Whether a plain scalar goes on with the first of these characters. -/
def plainGoesOn (inFlow : Bool) : List Char → Bool
  | [] => false
  | c :: cs =>
    if isSpace (some c) then false
    else if c = ':' then
      !(isSpace cs.head? || (inFlow && cs.head?.any [',', '[', ']', '{', '}'].contains))
    else !(inFlow && [',', '?', '[', ']', '{', '}'].contains c)

/-- The run of characters up to where a plain scalar breaks off. -/
def plainRun (inFlow : Bool) : List Char → List Char
  | [] => []
  | c :: cs => if plainGoesOn inFlow (c :: cs) then c :: plainRun inFlow cs else []

/-- The line breaks between two lines of a plain scalar.  A marker between
documents stops them. -/
def plainBreaks : Nat → Cursor → Bool × List Char × Cursor
  | 0, c => (false, [], c)
  | fuel + 1, c =>
    match c.peek with
    | some ' ' => plainBreaks fuel c.advance
    | next =>
      if next.isSome && endsLine next then
        let (text, c) := c.lineBreak
        if c.atMarker '-' || c.atMarker '.' then (true, text, c)
        else
          let (stopped, more, c) := plainBreaks fuel c
          (stopped, text ++ more, c)
      else (false, [], c)

/-- What a run of blanks and breaks inside a plain scalar folds to, whether it
held a break, and the cursor behind it.  Nothing is left of it where a marker
between documents follows. -/
def plainSpaces (fuel : Nat) (c : Cursor) : List Char × Bool × Cursor :=
  let (blanks, c) := c.takeWhile (· = ' ')
  if c.peek.isSome && endsLine c.peek then
    let (first, c) := c.lineBreak
    if c.atMarker '-' || c.atMarker '.' then ([], true, c)
    else
      let (stopped, more, c) := plainBreaks fuel c
      if stopped then ([], true, c)
      else if first ≠ ['\n'] then (first ++ more, true, c)
      else if more.isEmpty then ([' '], true, c)
      else (more, true, c)
  else (blanks, false, c)

/-- A plain scalar, and whether a line break was read behind its last
character.  `indent` is the least column that a further line may start at. -/
def plainFrom (inFlow : Bool) (indent : Int) : Nat → List Char → Cursor → List Char × Bool × Cursor
  | 0, _, c => ([], false, c)
  | fuel + 1, spaces, c =>
    let run := if c.peek = some '#' then [] else plainRun inFlow c.rest
    if run.isEmpty then ([], false, c)
    else
      let (spaces', broke, c) := (c.advanceBy run.length).plainSpaces fuel
      if spaces'.isEmpty || c.peek = some '#' || (!inFlow && (c.column : Int) < indent) then
        (spaces ++ run, broke, c)
      else
        let (more, broke', c) := plainFrom inFlow indent fuel spaces' c
        (spaces ++ run ++ more, if more.isEmpty then broke else broke', c)

def plainScalar (inFlow : Bool) (indent : Int) (fuel : Nat) (c : Cursor) :
    List Char × Bool × Cursor :=
  plainFrom inFlow indent fuel [] c

/-! ## Quoted scalars

An escape may name half of a surrogate pair, and two of them do not make a
whole.  No text can hold one; among the characters of a scalar it is `none`. -/

/-- The escapes of one letter. -/
def escapeLetter? : Char → Option Char
  | '0' => some (Char.ofNat 0)
  | 'a' => some (Char.ofNat 7)
  | 'b' => some (Char.ofNat 8)
  | 't' => some '\t'
  | '\t' => some '\t'
  | 'n' => some '\n'
  | 'v' => some (Char.ofNat 11)
  | 'f' => some (Char.ofNat 12)
  | 'r' => some '\r'
  | 'e' => some (Char.ofNat 27)
  | ' ' => some ' '
  | '"' => some '"'
  | '\\' => some '\\'
  | '/' => some '/'
  | 'N' => some nextLine
  | '_' => some (Char.ofNat 0xA0)
  | 'L' => some lineSeparator
  | 'P' => some paragraphSeparator
  | _ => none

/-- How many digits follow an escape by number. -/
def escapeWidth? : Char → Option Nat
  | 'x' => some 2
  | 'u' => some 4
  | 'U' => some 8
  | _ => none

/-- No escape may name a number from here on: `2 ^ 31`. -/
def escapeLimit : Nat := 2147483648

/-- What the number of an escape stands for: a character, or half of a surrogate
pair. -/
def charOfNumber? (n : Nat) : Except Fault (Option Char) :=
  if n.isValidChar then .ok (some (Char.ofNat n))
  else if n < 0x110000 then .ok none
  else if n < escapeLimit then .error .noSuchCharacter
  else .error .escapeTooGreat

/-- The line breaks inside a quoted scalar, with the blanks around them. -/
def quotedBreaks : Nat → Cursor → Except Fault (List Char × Cursor)
  | 0, c => .ok ([], c)
  | fuel + 1, c =>
    if c.atMarker '-' || c.atMarker '.' then .error .malformed
    else
      let c := c.skipWhile fun ch => ch = ' ' || ch = '\t'
      if c.peek.isSome && endsLine c.peek then do
        let (text, c) := c.lineBreak
        let (more, c) ← quotedBreaks fuel c
        return (text ++ more, c)
      else .ok ([], c)

/-- A run of blanks and breaks inside a quoted scalar. -/
def quotedSpaces (fuel : Nat) (c : Cursor) : Except Fault (List Char × Cursor) := do
  let (blanks, c) := c.takeWhile fun ch => ch = ' ' || ch = '\t'
  match c.peek with
  | none => .error .malformed
  | some ch =>
    if isBreak ch then
      let (first, c) := c.lineBreak
      let (more, c) ← quotedBreaks fuel c
      if first ≠ ['\n'] then return (first ++ more, c)
      else if more.isEmpty then return ([' '], c)
      else return (more, c)
    else return (blanks, c)

/-- A quoted scalar behind its opening quote, up to and over the closing one. -/
def quotedFrom (double : Bool) : Nat → Cursor → Except Fault (List (Option Char) × Cursor)
  | 0, _ => .error .malformed
  | fuel + 1, c =>
    /- What has been read, and the rest of the scalar behind it. -/
    let goOn (read : List (Option Char)) (c : Cursor) := do
      let (more, c) ← quotedFrom double fuel c
      return (read ++ more, c)
    match c.rest with
    | [] => .error .malformed
    | '\'' :: '\'' :: _ => goOn [some '\''] (if double then c.advance else c.advanceBy 2)
    | '\\' :: rest =>
      if !double then goOn [some '\\'] c.advance
      else
        match rest with
        | [] => .error .malformed
        | e :: _ =>
          match escapeLetter? e, escapeWidth? e with
          | some ch, _ => goOn [some ch] (c.advanceBy 2)
          | none, some n =>
            match ((c.rest.drop 2).take n).mapM Percent.hexValue? with
            | some digits =>
              if digits.length < n then .error .malformed
              else do
                goOn [← charOfNumber? (digits.foldl (fun n d => 16 * n + d) 0)]
                  (c.advanceBy (2 + n))
            | none => .error .malformed
          | none, none =>
            if isBreak e then do
              let (breaks, c) ← quotedBreaks fuel c.advance.lineBreak.2
              goOn (breaks.map some) c
            else .error .malformed
    | ch :: _ =>
      if ch = (if double then '"' else '\'') then .ok ([], c.advance)
      else if isSpace (some ch) then do
        let (spaces, c) ← c.quotedSpaces fuel
        goOn (spaces.map some) c
      else goOn [some ch] c.advance

def quotedScalar (double : Bool) (fuel : Nat) (c : Cursor) :
    Except Fault (List (Option Char) × Cursor) :=
  quotedFrom double fuel c.advance

/-! ## Block scalars -/

/-- What becomes of the line breaks at the end of a block. -/
inductive Chomping where
  | strip
  | clip
  | keep
deriving DecidableEq, Repr

def chomping? : Option Char → Option Chomping
  | some '+' => some .keep
  | some '-' => some .strip
  | _ => none

/-- The indentation that a header gives, a digit from one to nine. -/
def blockIndent? (c : Option Char) : Except Fault (Option Nat) :=
  match c with
  | some d =>
    if d.isDigit then if d = '0' then .error .malformed else .ok (some (d.toNat - 48))
    else .ok none
  | none => .ok none

/-- The header of a block scalar: chomping and indentation, in either order. -/
def blockHeader (c : Cursor) : Except Fault (Chomping × Option Nat × Cursor) := do
  let (chomping, indent, c) ←
    match chomping? c.peek with
    | some m => do
      let c := c.advance
      let n ← blockIndent? c.peek
      pure (m, n, if n.isSome then c.advance else c)
    | none => do
      match ← blockIndent? c.peek with
      | none => pure (.clip, none, c)
      | some n =>
        let c := c.advance
        match chomping? c.peek with
        | some m => pure (m, some n, c.advance)
        | none => pure (.clip, some n, c)
  if isGap c.peek then return (chomping, indent, ← c.restOfLine) else .error .malformed

/-- The empty lines before a block, and the deepest column that blanks reach. -/
def blockStart : Nat → Nat → Cursor → List Char × Nat × Cursor
  | 0, deepest, c => ([], deepest, c)
  | fuel + 1, deepest, c =>
    match c.peek with
    | some ' ' => let c := c.advance; blockStart fuel (max deepest c.column) c
    | next =>
      if next.isSome && endsLine next then
        let (text, c) := c.lineBreak
        let (more, deepest, c) := blockStart fuel deepest c
        (text ++ more, deepest, c)
      else ([], deepest, c)

/-- Blanks up to the indentation of the block. -/
def skipIndent : Nat → Nat → Cursor → Cursor
  | 0, _, c => c
  | fuel + 1, indent, c =>
    if c.column < indent && c.peek = some ' ' then skipIndent fuel indent c.advance else c

/-- Empty lines inside a block, and the indentation of the line behind them. -/
def blockBreaks : Nat → Nat → Cursor → List Char × Cursor
  | 0, _, c => ([], c)
  | fuel + 1, indent, c =>
    let c := skipIndent indent indent c
    if c.peek.isSome && endsLine c.peek then
      let (text, c) := c.lineBreak
      let (more, c) := blockBreaks fuel indent c
      (text ++ more, c)
    else ([], c)

/-- The lines of a block, from the first that holds text.  `breaks` are the
empty lines before the next one. -/
def blockLines (folded : Bool) (m : Chomping) (indent : Nat) :
    Nat → List Char → Cursor → List Char × Cursor
  | 0, _, c => ([], c)
  | fuel + 1, breaks, c =>
    let blank (ch : Option Char) : Bool := ch == some ' ' || ch == some '\t'
    let flush := !blank c.peek
    let (line, c) := c.takeWhile (!isBreak ·)
    let (first, c) := c.lineBreak
    let (breaks', c) := blockBreaks (fuel + 1) indent c
    if c.column = indent ∧ c.peek.isSome then
      let joint :=
        if folded && first = ['\n'] && flush && !blank c.peek then
          if breaks'.isEmpty then [' '] else []
        else first
      let (more, c) := blockLines folded m indent fuel breaks' c
      (breaks ++ line ++ joint ++ more, c)
    else
      let ending :=
        match m with
        | .strip => []
        | .clip => first
        | .keep => first ++ breaks'
      (breaks ++ line ++ ending, c)

/-- A block scalar, literal or folded, under a given indentation. -/
def blockScalar (folded : Bool) (outer : Int) (fuel : Nat) (c : Cursor) :
    Except Fault (List Char × Cursor) := do
  let (m, given, c) ← c.advance.blockHeader
  let least := (max (outer + 1) 1).toNat
  let (breaks, indent, c) :=
    match given with
    | none =>
      let (breaks, deepest, c) := blockStart fuel 0 c
      (breaks, max least deepest, c)
    | some n =>
      let indent := least + n - 1
      let (breaks, c) := blockBreaks fuel indent c
      (breaks, indent, c)
  if c.column = indent ∧ c.peek.isSome then
    return blockLines folded m indent fuel breaks c
  else
    return (if m = .keep then breaks else [], c)

/-! ## Names and tags -/

/-- The name of an anchor or an alias, behind its mark. -/
def anchorName (c : Cursor) : Except Fault (String × Cursor) :=
  let (name, c) := c.advance.takeWhile isNameChar
  let stops :=
    match c.peek with
    | some ch => ['?', ':', ',', ']', '}', '%', '@', '\x60'].contains ch || isSpace (some ch)
    | none => true
  if name.isEmpty || !stops then .error .malformed else .ok (String.ofList name, c)

def isUriChar (c : Char) : Bool :=
  c.isAlphanum ||
    ['-', ';', '/', '?', ':', '@', '&', '=', '+', '$', ',', '_', '.', '!', '~', '*', '\'', '(', ')',
      '[', ']'].contains c

/-- The text of a URI, with its encoded bytes decoded. -/
def uriFrom : Nat → Cursor → Except Fault (List UInt8 × Cursor)
  | 0, c => .ok ([], c)
  | fuel + 1, c =>
    match c.rest with
    | '%' :: a :: b :: _ =>
      match Percent.hexValue? a, Percent.hexValue? b with
      | some x, some y => do
        let (more, c) ← uriFrom fuel (c.advanceBy 3)
        return (UInt8.ofNat (16 * x + y) :: more, c)
      | _, _ => .error .malformed
    | ch :: _ =>
      if ch = '%' then .error .malformed
      else if isUriChar ch then do
        let (more, c) ← uriFrom fuel c.advance
        return (String.utf8EncodeChar ch ++ more, c)
      else .ok ([], c)
    | [] => .ok ([], c)

def uri (fuel : Nat) (c : Cursor) : Except Fault (String × Cursor) := do
  let (bytes, c') ← uriFrom fuel c
  match bytes, String.fromUTF8? ⟨bytes.toArray⟩ with
  | _ :: _, some s => return (s, c')
  | _, _ => .error .malformed

/-- A handle: `!`, `!!` or a name between two such marks. -/
def handle (c : Cursor) : Except Fault (String × Cursor) :=
  if c.peek ≠ some '!' then .error .malformed
  else
    let c := c.advance
    if c.peek = some ' ' then .ok ("!", c)
    else
      let (name, c) := c.takeWhile isNameChar
      if c.peek = some '!' then .ok (String.ofList ('!' :: name ++ ['!']), c.advance)
      else .error .malformed

/-- A tag: its handle, if it has one, and the rest of it. -/
def tag (fuel : Nat) (c : Cursor) : Except Fault ((Option String × String) × Cursor) := do
  let (result, c) ←
    match c.ahead 1 with
    | some '<' => do
      let (suffix, c) ← (c.advanceBy 2).uri fuel
      if c.peek = some '>' then pure ((none, suffix), c.advance) else .error .malformed
    | next =>
      if isSpace next then pure ((none, "!"), c.advance)
      else do
        let word := (c.rest.drop 1).takeWhile fun ch => !isGap (some ch)
        let (handle, c) ← if word.contains '!' then c.handle else pure ("!", c.advance)
        let (suffix, c) ← c.uri fuel
        pure ((some handle, suffix), c)
  if isGap c.peek then return (result, c) else .error .malformed

end Cursor
end Yaml
end RouteTemplate
