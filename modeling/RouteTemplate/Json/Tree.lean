/-
JSON documents, written with two blanks for each level.

There are two dialects.  The plain one is pure ASCII and has words for the
numbers that JSON lacks.  The compact one keeps all visible characters as they
are and writes null for those numbers.  Integers are written whole: those of a
document were read from text, so that none has more digits than may be written.
-/
import RouteTemplate.Template.Expansion

namespace RouteTemplate

inductive JsonTree where
  | null
  | bool (b : Bool)
  | int (n : Int)
  | float (x : Binary64)
  | text (s : String)
  | array (items : List JsonTree)
  | object (members : List (String × JsonTree))
deriving Repr, Inhabited

namespace JsonTree

/-! ## Dialects -/

structure Dialect where
  /-- A character inside a string, other than the ones with escapes of their
  own. -/
  other : Char → List Char
  number : Binary64 → List Char

/-- One unit of UTF-16 as `\u` and four digits. -/
def unitEscape (n : Nat) : List Char := '\\' :: 'u' :: Text.hexPadded 4 n

/-- A character by its one or two units. -/
def unitEscapes (c : Char) : List Char :=
  let n := c.toNat
  if n < 0x10000 then unitEscape n
  else unitEscape (0xD800 + (n - 0x10000) / 0x400) ++ unitEscape (0xDC00 + (n - 0x10000) % 0x400)

namespace Dialect

def plain : Dialect where
  other c := if 0x20 ≤ c.toNat ∧ c.toNat < 0x7F then [c] else unitEscapes c
  number
    | .nan => "NaN".toList
    | .infinite negative => (if negative then ['-'] else []) ++ "Infinity".toList
    | x => x.text .plain

def compact : Dialect where
  other c := if 0x20 ≤ c.toNat then [c] else unitEscapes c
  number
    | .nan => "null".toList
    | .infinite _ => "null".toList
    | x => x.text .compact

end Dialect

/-! ## Writing -/

def escapeChar (d : Dialect) (c : Char) : List Char :=
  if c = '"' ∨ c = '\\' then ['\\', c]
  else if c = '\n' then ['\\', 'n']
  else if c = '\r' then ['\\', 'r']
  else if c = '\t' then ['\\', 't']
  else if c.toNat = 0x08 then ['\\', 'b']
  else if c.toNat = 0x0C then ['\\', 'f']
  else d.other c

def writeText (d : Dialect) (s : String) : List Char :=
  '"' :: s.toList.flatMap (escapeChar d) ++ ['"']

/-- The start of a line at some depth. -/
def lineStart (depth : Nat) : List Char := '\n' :: List.replicate (2 * depth) ' '

/-- Items between brackets, each on a line of its own; nothing stands between
the brackets where there are no items. -/
def enclose (opening closing : Char) (depth : Nat) (items : List (List Char)) : List Char :=
  if items.isEmpty then [opening, closing]
  else
    opening :: lineStart (depth + 1) ++ List.intercalate (',' :: lineStart (depth + 1)) items ++
      lineStart depth ++ [closing]

mutual

def write (d : Dialect) (depth : Nat) : JsonTree → List Char
  | .null => "null".toList
  | .bool b => if b then "true".toList else "false".toList
  | .int n => (toString n).toList
  | .float x => d.number x
  | .text s => writeText d s
  | .array items => enclose '[' ']' depth (writeItems d (depth + 1) items)
  | .object members => enclose '{' '}' depth (writeMembers d (depth + 1) members)
termination_by structural t => t

def writeItems (d : Dialect) (depth : Nat) : List JsonTree → List (List Char)
  | [] => []
  | t :: ts => write d depth t :: writeItems d depth ts
termination_by structural ts => ts

def writeMembers (d : Dialect) (depth : Nat) : List (String × JsonTree) → List (List Char)
  | [] => []
  | (name, t) :: ms =>
    (writeText d name ++ ':' :: ' ' :: write d depth t) :: writeMembers d depth ms
termination_by structural ms => ms

end

/-- A document as text. -/
def document (d : Dialect) (t : JsonTree) : String := String.ofList (t.write d 0)

/-! ## Values as documents -/

mutual

/-- A value as a document.  Bytes are the numbers they are. -/
def ofValue : Value → JsonTree
  | .null => .null
  | .bool b => .bool b
  | .int n => .int n
  | .float x => .float x
  | .text s => .text s
  | .bytes bs => .array (bs.map fun b => .int b.toNat)
  | .list items => .array (ofItems items)
  | .tuple items => .array (ofItems items)
  | .map entries => .object (ofEntries entries)
termination_by structural v => v

def ofItems : List Value → List JsonTree
  | [] => []
  | v :: vs => ofValue v :: ofItems vs
termination_by structural vs => vs

def ofEntries : List (Value × Value) → List (String × JsonTree)
  | [] => []
  | (k, v) :: es => (String.ofList k.label, ofValue v) :: ofEntries es
termination_by structural es => es

end

def ofParams (params : Params) : JsonTree :=
  .object (params.map fun p => (p.1, ofValue p.2))

end JsonTree
end RouteTemplate
