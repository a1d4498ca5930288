/-
The tokens of a YAML document.

Collections that are told by indentation get tokens of their own, so that what
follows need not look at columns.  A text turns out to be the key of a mapping
only when its colon is reached; until then it is kept as a candidate, one for
each depth of brackets, and its tokens are put in afterwards.

Tokens are made no sooner than they are asked for.  So a fault in the text is the
last of the tokens, in the place where whoever takes them would come upon it.
-/
import RouteTemplate.Yaml.Text

namespace RouteTemplate
namespace Yaml

inductive Token where
  | streamEnd
  | fault (f : Fault)
  /-- A line that starts with a percent sign: the major version or a tag handle
  with what it stands for, where it is of these kinds. -/
  | directive (version : Option Nat) (tag : Option (String × String))
  | documentStart
  | documentEnd
  | blockSequenceStart
  | blockMappingStart
  | blockEnd
  | sequenceOpen
  | sequenceClose
  | mappingOpen
  | mappingClose
  | entrySeparator
  | blockEntry
  | key
  | value
  | reference (name : String)
  | anchor (name : String)
  | tag (handle : Option String) (suffix : String)
  /-- A text; it is not whole where an escape in it names half of a surrogate
  pair. -/
  | scalar (plain whole : Bool) (text : String)
deriving DecidableEq, Repr

/-- A text that may turn out to be a key. -/
structure Candidate where
  /-- How many brackets are open around it. -/
  depth : Nat
  /-- The number of its first token. -/
  token : Nat
  /-- Whether its colon has to come, since nothing else can stand there. -/
  required : Bool
  index : Nat
  line : Nat
  column : Nat

structure Scanner where
  cursor : Cursor
  tokens : Array Token
  depth : Nat
  /-- The column of the innermost block collection; below zero outside all. -/
  indent : Int
  outer : List Int
  keyAllowed : Bool
  candidates : List Candidate

abbrev Scan (α : Type) := ExceptT Fault (StateM Scanner) α

namespace Scanner

def fail {α : Type} : Scan α := throw .malformed

def emit (t : Token) : Scan Unit := modify fun s => { s with tokens := s.tokens.push t }

/-- Put a token in front of others. -/
def insert (place : Nat) (t : Token) : Scan Unit :=
  modify fun s => { s with tokens := s.tokens.insertIdxIfInBounds place t }

def skip (n : Nat) : Scan Unit := modify fun s => { s with cursor := s.cursor.advanceBy n }

def allowKey (b : Bool) : Scan Unit := modify fun s => { s with keyAllowed := b }

/-! ## Candidates for keys -/

/-- Give up the candidates that are too far back; a key stands on one line and
has at most 1024 characters. -/
def dropStale : Scan Unit := do
  let s ← get
  let stale (k : Candidate) : Bool := k.line != s.cursor.line || 1024 < s.cursor.index - k.index
  if s.candidates.any fun k => stale k && k.required then fail
  else set { s with candidates := s.candidates.filter (!stale ·) }

/-- Give up the candidate at the present depth. -/
def dropCandidate : Scan Unit := do
  let s ← get
  if s.candidates.any fun k => k.depth == s.depth && k.required then fail
  else set { s with candidates := s.candidates.filter (·.depth != s.depth) }

/-- What starts here may be a key. -/
def saveCandidate : Scan Unit := do
  let s ← get
  if s.keyAllowed then
    dropCandidate
    let c := s.cursor
    let required := s.depth == 0 && s.indent == c.column
    modify fun s => { s with
      candidates := ⟨s.depth, s.tokens.size, required, c.index, c.line, c.column⟩ :: s.candidates }

/-! ## Indentation -/

/-- End the block collections that are indented deeper than a column. -/
def unwindTo (column : Int) : Scan Unit := modify fun s =>
  if s.depth ≠ 0 then s
  else
    let rec go (tokens : Array Token) (indent : Int) : List Int → Scanner
      | [] => { s with tokens := tokens, indent := indent, outer := [] }
      | i :: is =>
        if column < indent then go (tokens.push .blockEnd) i is
        else { s with tokens := tokens, indent := indent, outer := i :: is }
    go s.tokens s.indent s.outer

/-- Start a block collection at a column, unless one is there already.  Tells
whether it did. -/
def indentTo (column : Nat) : Scan Bool := do
  let s ← get
  if s.indent < column then
    set { s with indent := column, outer := s.indent :: s.outer }
    return true
  else return false

/-! ## Single tokens -/

/-- Blanks, comments and line breaks.  A new line outside brackets may start with
a key. -/
def toNextToken : Nat → Scan Unit
  | 0 => pure ()
  | fuel + 1 => do
    let s ← get
    let c :=
      if s.cursor.index = 0 ∧ s.cursor.peek = some byteOrderMark then s.cursor.advance else s.cursor
    let c := c.skipComment
    if c.peek.isSome && endsLine c.peek then
      set { s with cursor := c.lineBreak.2, keyAllowed := s.depth == 0 || s.keyAllowed }
      toNextToken fuel
    else set { s with cursor := c }

/-- What ends all collections of the document before it. -/
def endCollections : Scan Unit := do
  unwindTo (-1)
  dropCandidate
  allowKey false

/-- A number that stands for a version. -/
def versionNumber (c : Cursor) : Except Fault (Nat × Cursor) :=
  let (digits, c) := c.takeWhile Char.isDigit
  if digits.isEmpty then .error .malformed
  else if Decimal.digitLimit < digits.length then .error .notInteger
  else .ok (Decimal.ofDigits digits, c)

def readDirective (fuel : Nat) (c : Cursor) : Except Fault (Token × Cursor) := do
  let (name, c) := c.advance.takeWhile isNameChar
  if name.isEmpty || !isGap c.peek then .error .malformed
  else
    let blanks (c : Cursor) := c.skipWhile (· = ' ')
    if String.ofList name = "YAML" then
      let (major, c) ← versionNumber (blanks c)
      if c.peek ≠ some '.' then .error .malformed
      else
        let (_, c) ← versionNumber c.advance
        if isGap c.peek then return (.directive (some major) none, ← c.restOfLine)
        else .error .malformed
    else if String.ofList name = "TAG" then
      let (handle, c) ← (blanks c).handle
      if c.peek ≠ some ' ' then .error .malformed
      else
        let (target, c) ← (blanks c).uri fuel
        if isGap c.peek then return (.directive none (some (handle, target)), ← c.restOfLine)
        else .error .malformed
    else return (.directive none none, ← (c.skipWhile (!isBreak ·)).restOfLine)

def openBracket (t : Token) : Scan Unit := do
  saveCandidate
  modify fun s => { s with depth := s.depth + 1, keyAllowed := true }
  skip 1
  emit t

/-- A closing bracket that closes nothing fits nowhere. -/
def closeBracket (t : Token) : Scan Unit := do
  dropCandidate
  if (← get).depth = 0 then fail
  modify fun s => { s with depth := s.depth - 1, keyAllowed := false }
  skip 1
  emit t

def entrySeparator : Scan Unit := do
  allowKey true
  dropCandidate
  skip 1
  emit .entrySeparator

def blockEntry : Scan Unit := do
  let s ← get
  if s.depth = 0 then
    if !s.keyAllowed then fail
    if ← indentTo s.cursor.column then emit .blockSequenceStart
  allowKey true
  dropCandidate
  skip 1
  emit .blockEntry

def explicitKey : Scan Unit := do
  let s ← get
  if s.depth = 0 then
    if !s.keyAllowed then fail
    if ← indentTo s.cursor.column then emit .blockMappingStart
  allowKey (s.depth == 0)
  dropCandidate
  skip 1
  emit .key

/-- The colon after a key.  Where a candidate is waiting it was the key; its
token, and that of a mapping it starts, go in front of it. -/
def colon : Scan Unit := do
  let s ← get
  match s.candidates.find? (·.depth == s.depth) with
  | some k => do
    set { s with candidates := s.candidates.filter (·.depth != s.depth) }
    insert k.token .key
    if s.depth = 0 then
      if ← indentTo k.column then insert k.token .blockMappingStart
    allowKey false
  | none => do
    if s.depth = 0 then
      if !s.keyAllowed then fail
      if ← indentTo s.cursor.column then emit .blockMappingStart
    allowKey (s.depth == 0)
    dropCandidate
  skip 1
  emit .value

/-- A token that may start a key, read by `read` from the cursor. -/
def inlineToken (read : Cursor → Except Fault (Token × Cursor)) : Scan Unit := do
  saveCandidate
  allowKey false
  let s ← get
  let (t, c) ← read s.cursor
  set { s with cursor := c }
  emit t

def plainToken (fuel : Nat) : Scan Unit := do
  saveCandidate
  allowKey false
  let s ← get
  let (text, broke, c) := s.cursor.plainScalar (s.depth != 0) (s.indent + 1) fuel
  set { s with cursor := c, keyAllowed := broke }
  emit (.scalar true true (String.ofList text))

def blockToken (folded : Bool) (fuel : Nat) : Scan Unit := do
  allowKey true
  dropCandidate
  let s ← get
  let (text, c) ← s.cursor.blockScalar folded s.indent fuel
  set { s with cursor := c }
  emit (.scalar false true (String.ofList text))

/-- A quoted scalar.  A mark stands for what no text can hold. -/
def quotedToken (read : List (Option Char)) : Token :=
  .scalar false (read.all Option.isSome)
    (String.ofList (read.map fun c => c.getD (Char.ofNat 0xFFFD)))

/-- Whether a plain scalar can start with a character, given the next one. -/
def startsPlain (inFlow : Bool) (ch : Char) (next : Option Char) : Bool :=
  let indicators :=
    ['-', '?', ':', ',', '[', ']', '{', '}', '#', '&', '*', '!', '|', '>', '\'', '"', '%', '@',
      '\x60']
  !(isSpace (some ch) || indicators.contains ch) ||
    (!isSpace next && (ch = '-' || (!inFlow && (ch = '?' || ch = ':'))))

/-- One token, or several, from the start of a token.  Tells whether there is
more. -/
def nextToken (fuel : Nat) : Scan Bool := do
  let s ← get
  let c := s.cursor
  let next := c.ahead 1
  match c.peek with
  | none =>
    endCollections
    emit .streamEnd
    return false
  | some ch =>
    if ch = '%' ∧ c.column = 0 then
      endCollections
      let (t, c) ← readDirective fuel c
      modify fun s => { s with cursor := c }
      emit t
    else if c.column = 0 ∧ c.atMarker '-' then
      endCollections
      skip 3
      emit .documentStart
    else if c.column = 0 ∧ c.atMarker '.' then
      endCollections
      skip 3
      emit .documentEnd
    else if ch = '[' then openBracket .sequenceOpen
    else if ch = '{' then openBracket .mappingOpen
    else if ch = ']' then closeBracket .sequenceClose
    else if ch = '}' then closeBracket .mappingClose
    else if ch = ',' then entrySeparator
    else if ch = '-' ∧ isSpace next then blockEntry
    else if ch = '?' ∧ (s.depth ≠ 0 ∨ isSpace next) then explicitKey
    else if ch = ':' ∧ (s.depth ≠ 0 ∨ isSpace next) then colon
    else if ch = '*' then inlineToken fun c => c.anchorName.map fun (n, c) => (.reference n, c)
    else if ch = '&' then inlineToken fun c => c.anchorName.map fun (n, c) => (.anchor n, c)
    else if ch = '!' then inlineToken fun c => (c.tag fuel).map fun ((h, t), c) => (.tag h t, c)
    else if ch = '|' ∧ s.depth = 0 then blockToken false fuel
    else if ch = '>' ∧ s.depth = 0 then blockToken true fuel
    else if ch = '\'' ∨ ch = '"' then
      inlineToken fun c => (c.quotedScalar (ch = '"') fuel).map fun (t, c) => (quotedToken t, c)
    else if startsPlain (s.depth != 0) ch next then plainToken fuel
    else fail
    return true

/-- How many tokens reading on does not change any more. -/
def settled (s : Scanner) : Nat := s.candidates.foldl (fun n k => min n k.token) s.tokens.size

/-- The next tokens, with the candidates that are left behind them.  Tells whether
there is more.  `fuel` is greater than the length of the text that is left. -/
def step (fuel : Nat) : Scan Bool := do
  toNextToken fuel
  dropStale
  unwindTo (← get).cursor.column
  let more ← nextToken fuel
  if more then dropStale
  return more

/-- All tokens, or those before a fault with the fault. -/
def tokensFrom : Nat → Scanner → List Token
  | 0, s => s.tokens.toList
  | fuel + 1, s =>
    let settled := s.settled
    match (step (fuel + 1)).run.run s with
    | (.ok true, s) => tokensFrom fuel s
    | (.ok false, s) => s.tokens.toList
    | (.error f, s) => s.tokens.toList.take settled ++ [.fault f]

end Scanner

namespace Token

/-- The tokens of a text.  Every token but the last takes at least one
character. -/
def ofText (text : List Char) : List Token :=
  if text.all isAllowed then
    Scanner.tokensFrom (text.length + 1) ⟨Cursor.start text, #[], 0, -1, [], true, []⟩
  else [.fault .malformed]

end Token
end Yaml
end RouteTemplate
