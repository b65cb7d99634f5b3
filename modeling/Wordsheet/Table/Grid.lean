import Wordsheet.Table.Basic

/-! # Tables as text

A table is shown as its name and a grid with ruled lines: every column is as
wide as its widest entry, and shorter entries are followed by spaces. Rows are
shown with one cell for each column.
-/

namespace Wordsheet.Grid

def padRight (width : Nat) (s : String) : String :=
  s ++ String.ofList (List.replicate (width - s.length) ' ')

/-- The wider of each two widths. -/
def widen : List Nat → List String → List Nat
  | width :: widths, cell :: cells => max width cell.length :: widen widths cells
  | widths, _ => widths

/-- The widths of the columns of some lines, the first of which is the heading. -/
def widths (heading : List String) (body : List (List String)) : List Nat :=
  body.foldl widen (heading.map String.length)

def line (widths : List Nat) (cells : List String) : String :=
  "| " ++ String.intercalate " | " (List.zipWith padRight widths cells) ++ " |"

def rule (widths : List Nat) : String :=
  let dashes := widths.map fun width => String.ofList (List.replicate (width + 2) '-')
  "+" ++ String.intercalate "+" dashes ++ "+"

end Wordsheet.Grid

namespace Wordsheet.Table

/-- The lines of the grid that shows a table, the row names under `label`. -/
def gridLines (t : Table) (label : String) : List String :=
  let heading := label :: t.columns
  let body := t.fittedRows.entries.map fun row => row.name :: row.cells
  let widths := Grid.widths heading body
  let rule := Grid.rule widths
  rule :: Grid.line widths heading :: rule :: body.map (Grid.line widths) ++ [rule]

def toGrid (t : Table) (label : String) : String :=
  String.intercalate "\n" (t.name :: t.gridLines label)

end Wordsheet.Table
