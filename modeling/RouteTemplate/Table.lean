/-
Tables drawn with box characters, at most eighty cells wide, under a centred
title.
-/
import RouteTemplate.Text.Wrap

namespace RouteTemplate

structure Column where
  heading : List Char
  alignRight : Bool
deriving Repr

structure Table where
  title : List Char
  columns : List Column
  rows : List (List (List Char))
deriving Repr

namespace Table

/-- How wide a table may be. -/
def maxWidth : Nat := 80

/-- The content width of the column at an index: that of its widest cell. -/
def naturalWidth (t : Table) (i : Nat) (c : Column) : Nat :=
  (t.rows.map fun row => Text.cells (row.getD i [])).foldl max (Text.cells c.heading)

def naturalWidths (t : Table) : List Nat :=
  t.columns.zipIdx.map fun (c, i) => t.naturalWidth i c

/-- The width of a whole table: every column has a blank on either side and a
rule on its left, and the last has one on its right. -/
def totalWidth (widths : List Nat) : Nat := widths.foldl (fun n w => n + w + 3) 1

/-- Narrow the first column as far as it takes for the table to fit. -/
def fit : List Nat → List Nat
  | [] => []
  | w :: ws => (w - (totalWidth (w :: ws) - maxWidth)) :: ws

def widths (t : Table) : List Nat := fit t.naturalWidths

/-- Cut a text that is too wide and end it in an ellipsis. -/
def clip (width : Nat) (s : List Char) : List Char :=
  if Text.cells s ≤ width then s else (Text.chop (width - 1) s).headD [] ++ ['…']

def cell (c : Column) (width : Nat) (s : List Char) : List Char :=
  let text := clip width s
  let pad := List.replicate (width - Text.cells text) ' '
  ' ' :: (if c.alignRight then pad ++ text else text ++ pad) ++ [' ']

/-- A line with `bar` around and between the cells. -/
def rowLine (t : Table) (bar : Char) (texts : List (List Char)) : List Char :=
  let cells := (t.columns.zip (t.widths.zip texts)).map fun (c, w, s) => cell c w s
  bar :: List.intercalate [bar] cells ++ [bar]

/-- A horizontal rule. -/
def rule (t : Table) (left fill middle right : Char) : List Char :=
  left :: List.intercalate [middle] (t.widths.map fun w => List.replicate (w + 2) fill) ++ [right]

def lines (t : Table) : List (List Char) :=
  let width := totalWidth t.widths
  (Text.wrap width t.title).map (Text.center width) ++
    [t.rule '┏' '━' '┳' '┓', t.rowLine '┃' (t.columns.map Column.heading),
      t.rule '┡' '━' '╇' '┩'] ++
    t.rows.map (t.rowLine '│') ++ [t.rule '└' '─' '┴' '┘']

end Table
end RouteTemplate
