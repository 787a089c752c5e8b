import Screening.Text.Escape

/-!
# Tables

A table in a frame of box characters, with a heading for every column. A column
is as wide as its widest line, with one blank on either side. Styles of the
terminal may be written in a cell; they take no room and end with the line.
-/

set_option autoImplicit false

namespace Screening

inductive Alignment where
  | left
  | right
  deriving DecidableEq, Repr

structure Column where
  heading : String
  alignment : Alignment
  deriving Repr

structure Table where
  columns : List Column
  rows : List (List String)
  deriving Repr

namespace Table

def cellLines (cell : String) : List String := Text.mended [] (cell.splitOn "\n")

def headings (t : Table) : List String := t.columns.map Column.heading

def cellWidth (cell : String) : Nat := ((cellLines cell).map Text.shownWidth).foldl max 0

def widths (t : Table) : List Nat :=
  t.rows.foldl (fun ws row => List.zipWith max ws (row.map cellWidth)) (t.headings.map cellWidth)

def padded (alignment : Alignment) (width : Nat) (line : String) : String :=
  let blanks := "".pushn ' ' (width - Text.shownWidth line)
  match alignment with
  | .left => line ++ blanks
  | .right => blanks ++ line

structure Frame where
  start : String
  between : String
  finish : String

def framed (f : Frame) (parts : List String) : String :=
  f.start ++ f.between.intercalate parts ++ f.finish

def edge (f : Frame) (line : Char) (widths : List Nat) : String :=
  framed f (widths.map fun w => "".pushn line (w + 2))

def top : List Nat → String := edge ⟨"╭", "┬", "╮"⟩ '─'

def underHeadings : List Nat → String := edge ⟨"╞", "╪", "╡"⟩ '═'

def betweenRows : List Nat → String := edge ⟨"├", "┼", "┤"⟩ '─'

def bottom : List Nat → String := edge ⟨"╰", "┴", "╯"⟩ '─'

def rowLines (columns : List Column) (widths : List Nat) (row : List String) : List String :=
  let cells := row.map cellLines
  let height := (cells.map List.length).foldl max 0
  (List.range height).map fun i =>
    framed ⟨"│", "│", "│"⟩ (List.zipWith (fun (column, width) cell =>
      " " ++ padded column.alignment width (cell[i]?.getD "") ++ " ") (columns.zip widths) cells)

def lines (t : Table) : List String :=
  let widths := t.widths
  let row := rowLines t.columns widths
  [top widths] ++ row t.headings ++ [underHeadings widths] ++
    [betweenRows widths].intercalate (t.rows.map row) ++ [bottom widths]

def render (t : Table) : String := "\n".intercalate t.lines

end Table

end Screening
