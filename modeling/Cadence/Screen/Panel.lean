import Cadence.Screen.Sheet

/-!
Panels: the cells of a terminal as it shows them, filled character by character
at a cursor.  A wide character covers two cells, and one without columns joins
the cell in front of the cursor.
-/

namespace Cadence

/-- One cell of a panel. -/
structure PanelCell where
  text : List Char
  ink : Ink
  /-- Whether the character covers the next cell too. -/
  wide : Bool
  /-- Whether the character in front covers this cell. -/
  covered : Bool
deriving DecidableEq, Repr

def PanelCell.empty : PanelCell := ⟨[], .plain, false, false⟩

instance : Inhabited PanelCell := ⟨.empty⟩

/-- A panel with its cursor. -/
structure Panel where
  columns : Nat
  rows : Nat
  cells : Array PanelCell
  column : Nat
  row : Nat
deriving DecidableEq, Repr

namespace Panel

def blank (columns rows : Nat) : Panel where
  columns
  rows
  cells := Array.replicate (columns * rows) .empty
  column := 0
  row := 0

/-- The cell of a column in the cursor's row. -/
def cell (panel : Panel) (column : Nat) : PanelCell :=
  if column < panel.columns then
    panel.cells.getD (panel.row * panel.columns + column) .empty
  else .empty

/-- Another cell in a column of the cursor's row. -/
def setCell (panel : Panel) (column : Nat) (cell : PanelCell) : Panel :=
  if column < panel.columns then
    { panel with
      cells := panel.cells.setIfInBounds (panel.row * panel.columns + column) cell }
  else panel

def moveTo (panel : Panel) (column row : Nat) : Panel := { panel with column, row }

/-- The cursor goes to the next row if too few columns are left. -/
def wrapFor (panel : Panel) (width : Nat) : Panel :=
  if panel.columns < panel.column + width then
    { panel with column := 0, row := min (panel.row + 1) (panel.rows - 1) }
  else panel

/-- A character without columns joins the one in front of the cursor. -/
def join (panel : Panel) (c : Char) : Panel :=
  if panel.column = 0 then panel
  else
    let column :=
      if (panel.cell (panel.column - 1)).covered then panel.column - 2
      else panel.column - 1
    let cell := panel.cell column
    let text := if cell.text.isEmpty then [' '] else cell.text
    panel.setCell column { cell with text := text ++ [c] }

/-- Empties the halves of wide characters that the cell at the cursor takes part
in. -/
def release (panel : Panel) : Panel :=
  let here := panel.cell panel.column
  let panel := if here.covered then panel.setCell (panel.column - 1) .empty else panel
  if here.wide then
    panel.setCell (panel.column + 1) ⟨[' '], .plain, false, false⟩
  else panel

/-- Writes a character at the cursor, which moves on. -/
def put (panel : Panel) (ink : Ink) (c : Char) : Panel :=
  let width := Text.columns c
  let panel := panel.wrapFor width
  if width = 0 then panel.join c
  else
    let panel := (panel.release.setCell panel.column ⟨[c], ink, width != 1, false⟩)
    let panel := { panel with column := panel.column + 1 }
    if width = 1 then panel
    else
      let panel :=
        if (panel.cell panel.column).wide then
          panel.setCell (panel.column + 1) .empty
        else panel
      let panel := panel.setCell panel.column ⟨[], .plain, false, true⟩
      { panel with column := panel.column + 1 }

/-- Writes the cells of a sheet at their places.  The cursor is moved only where
the cell written before, in `last`, is not the one to the left. -/
def writeCells (panel : Panel) (last : Option Nat) :
    List (Nat × Cell) → Panel
  | [] => panel
  | (index, cell) :: rest =>
      let column := index % panel.columns
      let follows := column ≠ 0 ∧ last = some (index - 1)
      let panel := if follows then panel
        else panel.moveTo column (index / panel.columns)
      (cell.text.foldl (fun panel c => panel.put cell.ink c) panel).writeCells
        (some index) rest

def block : Char := '█'

/-- How a white and a black pixel and an empty cell are written down. -/
def whiteMark : Char := '#'
def blackMark : Char := '.'
def emptyMark : Char := ' '

/-- How a cell is written down. -/
def markOf (cell : PanelCell) : List Char :=
  if cell.covered then []
  else if cell.text.isEmpty then [emptyMark]
  else if cell.text = [block] then
    match cell.ink with
    | .white => [whiteMark]
    | .black => [blackMark]
    | .plain => [block]
  else cell.text

/-- A row without the blanks at its end. -/
def trimmed (row : List Char) : List Char :=
  (row.reverse.dropWhile (· == ' ')).reverse

/-- The rows of a panel, without empty ones at its end. -/
def shown (panel : Panel) : List String :=
  let rows := (List.range panel.rows).map fun row =>
    trimmed (((panel.cells.toList.drop (row * panel.columns)).take
      panel.columns).flatMap markOf)
  ((rows.reverse.dropWhile List.isEmpty).reverse).map String.ofList

end Panel

end Cadence
