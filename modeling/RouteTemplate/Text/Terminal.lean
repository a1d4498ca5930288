/-
Text on its way to a terminal: what is taken out of it and what is filled in.
-/
import RouteTemplate.Text.Cells
import RouteTemplate.Text.Picture

namespace RouteTemplate
namespace Text

/-! ## Colours -/

def escapeMark : Char := Char.ofNat 27

/-- How long the colour sequence is that a text starts with. -/
def colourLength? : List Char → Option Nat
  | e :: '[' :: cs =>
    let arguments := cs.takeWhile fun c => c.isDigit || c = ';' || c = '?'
    match cs.drop arguments.length with
    | c :: _ => if e = escapeMark && c.isAlpha then some (arguments.length + 3) else none
    | [] => none
  | _ => none

/-- A text without colour sequences, after `n` more characters of one. -/
def dropColoursAfter : Nat → List Char → List Char
  | _, [] => []
  | n + 1, _ :: cs => dropColoursAfter n cs
  | 0, c :: cs =>
    match colourLength? (c :: cs) with
    | some n => dropColoursAfter (n - 1) cs
    | none => c :: dropColoursAfter 0 cs

def dropColours (s : List Char) : List Char := dropColoursAfter 0 s

/-! ## Headings

A heading may hold style tags, which are words in square brackets, and names of
pictures.  A text that is put into a heading is protected from being read as
styled: its tags stay as they are.  Its pictures are drawn, inside a tag or
between two of them. -/

/-- Whether a style tag goes on here, behind its opening bracket. -/
def startsTag : List Char → Bool
  | c :: cs =>
    (c.isLower || c = '#' || c = '/' || c = '@') &&
      (cs.dropWhile fun d => d ≠ '[' && d ≠ ']').head? == some ']'
  | [] => false

/-- The pieces of a text: its style tags, and what is between them.  `piece` is what
has been read of the present one. -/
def splitTags (inTag : Bool) (piece : List Char) : List Char → List (List Char)
  | [] => [piece]
  | c :: cs =>
    if inTag then
      if c = ']' then (piece ++ [c]) :: splitTags false [] cs
      else splitTags true (piece ++ [c]) cs
    else if c = '[' && startsTag cs then piece :: splitTags true [c] cs
    else splitTags false (piece ++ [c]) cs

/-- A backslash before a bracket that opens no tag is taken for its protection
and lost. -/
def dropProtection : List Char → List Char
  | '\\' :: '[' :: cs => '[' :: dropProtection cs
  | c :: cs => c :: dropProtection cs
  | [] => []

/-- The characters that ring, move the cursor back or move it down without a new
line. -/
def isCursorControl (c : Char) : Bool :=
  c.toNat = 7 || c.toNat = 8 || c.toNat = 11 || c.toNat = 12 || c.toNat = 13

/-- A text as it shows in a heading.  A single backslash at its end is
doubled. -/
def heading (s : List Char) : List Char :=
  let ending := if ['\\'].isSuffixOf s && !(['\\', '\\'].isSuffixOf s) then ['\\'] else []
  let pieces := splitTags false [] (s ++ ending)
  (pieces.flatMap fun piece => drawPictures (dropProtection piece)).filter (!isCursorControl ·)

/-! ## Tabs -/

/-- A line with blanks for tabs, from a given cell on; a tab ends at a multiple of
eight cells. -/
def expandTabsFrom (cell : Nat) : List Char → List Char
  | [] => []
  | c :: cs =>
    if c = '\t' then
      let next := (cell / 8 + 1) * 8
      List.replicate (next - cell) ' ' ++ expandTabsFrom next cs
    else c :: expandTabsFrom (cell + cellWidth c) cs

def expandTabs (line : List Char) : List Char := expandTabsFrom 0 line

end Text
end RouteTemplate
