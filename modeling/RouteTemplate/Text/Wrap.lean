/-
Breaking text into lines of a given width, counted in terminal cells.  Lines
break between words; a word that fits on no line is cut.
-/
import RouteTemplate.Text.Terminal

namespace RouteTemplate
namespace Text

/-- The words of a text, each with the blanks that follow it; the first keeps
the blanks before it too.  A text of blanks has no words. -/
def words (s : List Char) : List (List Char) :=
  let rec go (word : List Char) (ended : Bool) : List Char → List (List Char)
    | [] => if word.any (!isGap ·) then [word] else []
    | c :: cs =>
      if ended && !isGap c then word :: go [c] false cs
      else go (word ++ [c]) (isGap c && word.any (!isGap ·)) cs
  go [] false s

/-- Cut a text into pieces that each fit into `width` cells. -/
def chop (width : Nat) (s : List Char) : List (List Char) :=
  let rec go (piece : List Char) : List Char → List (List Char)
    | [] => if piece.isEmpty then [] else [piece]
    | c :: cs =>
      if width < cells (piece ++ [c]) && !piece.isEmpty then piece :: go [c] cs
      else go (piece ++ [c]) cs
  go [] s

/-- A text without blanks at its end. -/
def trimRight (s : List Char) : List Char := (s.reverse.dropWhile isGap).reverse

/-- Break one line into lines.  Blanks between words may stand out over the end
of a line. -/
def wrapLine (width : Nat) (s : List Char) : List (List Char) :=
  let rec go (line : List Char) : List (List Char) → List (List Char)
    | [] => [line]
    | word :: rest =>
      let length := cells (trimRight word)
      if cells line + length ≤ width then go (line ++ word) rest
      else if width < length then
        let pieces := chop width word
        let full := (if line.isEmpty then [] else [line]) ++ pieces.dropLast
        full ++ go (pieces.getLastD []) rest
      else if line.isEmpty then go word rest
      else line :: go word rest
  go [] (words s)

/-- Break a text into lines, at its line ends and where it is too wide. -/
def wrap (width : Nat) (s : List Char) : List (List Char) :=
  (s.splitOn '\n').flatMap fun line => wrapLine width (expandTabs line)

/-- The text in the middle of a line of `width` cells; an odd blank goes to the
right. -/
def center (width : Nat) (s : List Char) : List Char :=
  let text := trimRight s
  let left := (width - cells text) / 2
  let padded := List.replicate left ' ' ++ text
  padded ++ List.replicate (width - cells padded) ' '

end Text
end RouteTemplate
