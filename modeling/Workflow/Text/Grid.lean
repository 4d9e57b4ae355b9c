import Workflow.Text.Search
import Workflow.Text.Width

/-!
Grids of texts drawn with box characters: a frame, a double line below the titles, and dotted lines
between the columns. A cell may hold several lines, and every column is as wide as its widest line.
-/
namespace Workflow.Text

structure Grid where
  titles : List String
  rows : List (List String)
deriving DecidableEq, Repr

namespace Grid

def cellLines (cell : String) : List String := split cell "\n"

def cellWidth (cell : String) : Nat := ((cellLines cell).map columns).foldl max 0

/-- The widths of the columns, of which there are as many as titles. -/
def widths (g : Grid) : List Nat :=
  g.rows.foldl (fun ws row => ws.zipWith max (row.map cellWidth)) (g.titles.map cellWidth)

/-- A text with a blank on each side, filled up to a width. -/
def padded (width : Nat) (s : String) : String :=
  " " ++ s ++ String.ofList (List.replicate (width - columns s + 1) ' ')

/-- A line across the columns. -/
def rule (left fill middle right : String) (widths : List Nat) : String :=
  left ++ middle.intercalate (widths.map fun w => String.join (List.replicate (w + 2) fill)) ++ right

/-- A line of texts, one for each column. -/
def textLine (widths : List Nat) (texts : List String) : String :=
  "│" ++ "┆".intercalate (widths.zipWith padded texts) ++ "│"

/-- The lines of a row; cells with fewer lines than others are blank at their end. -/
def rowLines (widths : List Nat) (row : List String) : List String :=
  let cells := row.map cellLines
  let height := (cells.map List.length).foldl max 0
  (List.range height).map fun i => textLine widths (cells.map fun lines => lines.getD i "")

def lines (g : Grid) : List String :=
  let ws := g.widths
  [rule "┌" "─" "┬" "┐" ws] ++ rowLines ws g.titles ++ [rule "╞" "═" "╪" "╡" ws] ++
    g.rows.flatMap (rowLines ws) ++ [rule "└" "─" "┴" "┘" ws]

end Grid

example : Grid.lines ⟨["Node", "Next"], [["a", "b\ncde"]]⟩ =
    ["┌──────┬──────┐", "│ Node ┆ Next │", "╞══════╪══════╡", "│ a    ┆ b    │",
      "│      ┆ cde  │", "└──────┴──────┘"] := by decide +kernel

end Workflow.Text
