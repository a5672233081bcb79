import Cadence.Text.Width

/-!
Sheets: what a program wants to see on a terminal, cell by cell, and the cells
that have to be written for one sheet to follow another.
-/

namespace Cadence

/-- The colour of what stands in a cell. -/
inductive Ink
  | plain
  | black
  | white
deriving DecidableEq, Repr

/-- One cell: a cluster, its colour, and whether it is part of a box. -/
structure Cell where
  text : List Char
  ink : Ink
  boxed : Bool
deriving DecidableEq, Repr

def Cell.blank : Cell := ⟨[' '], .plain, false⟩

instance : Inhabited Cell := ⟨.blank⟩

/-- The columns that the content of a cell takes. -/
def Cell.columns (cell : Cell) : Nat := Text.clusterColumns cell.text

/-- Rows of cells from the top. -/
structure Sheet where
  columns : Nat
  rows : Nat
  cells : Array Cell
deriving DecidableEq, Repr

namespace Sheet

def blank (columns rows : Nat) : Sheet :=
  ⟨columns, rows, Array.replicate (columns * rows) .blank⟩

/-- A sheet with another cell at a place, if the place is on it. -/
def set (sheet : Sheet) (column row : Nat) (cell : Cell) : Sheet :=
  if column < sheet.columns then
    { sheet with
      cells := sheet.cells.setIfInBounds (row * sheet.columns + column) cell }
  else sheet

def cell? (sheet : Sheet) (column row : Nat) : Option Cell :=
  sheet.cells[row * sheet.columns + column]?

/-- Writes one cell at each of some places. -/
def setAll (sheet : Sheet) (places : List (Nat × Nat)) (cell : Cell) : Sheet :=
  places.foldl (fun sheet (column, row) => sheet.set column row cell) sheet

def boxCell (c : Char) : Cell := ⟨[c], .plain, true⟩

/-- Draws a box at the top left whose inside has some columns and rows. -/
def drawBox (sheet : Sheet) (width height : Nat) : Sheet :=
  let across := (List.range width).map (· + 1)
  let down := (List.range height).map (· + 1)
  let top := across.map fun column => (column, 0)
  let bottom := across.map fun column => (column, height + 1)
  let left := down.map fun row => (0, row)
  let right := down.map fun row => (width + 1, row)
  (((((sheet.setAll (top ++ bottom) (boxCell '─')).setAll (left ++ right)
    (boxCell '│')).set 0 0 (boxCell '┌')).set (width + 1) 0 (boxCell '┐')).set 0
      (height + 1) (boxCell '└')).set (width + 1) (height + 1) (boxCell '┘')

/-- Writes clusters into the top row from a column on, as far as `room` columns
reach.  A cluster without columns is left out, and the cells that a wide one
covers are empty. -/
def writeClusters (sheet : Sheet) (column room : Nat) :
    List (List Char) → Sheet
  | [] => sheet
  | cluster :: rest =>
      let width := Text.clusterColumns cluster
      if width = 0 then sheet.writeClusters column room rest
      else if room < width then sheet
      else
        let covered := (List.range (width - 1)).map fun i => (column + 1 + i, 0)
        ((sheet.set column 0 ⟨cluster, .plain, true⟩).setAll covered
          .blank).writeClusters (column + width) (room - width) rest

/-- How far the cells of a sheet have been compared with those in front. -/
structure Comparison where
  /-- The cells to write, the last one first. -/
  changes : List (Nat × Cell)
  /-- Cells still covered by a wide one of either sheet. -/
  invalidated : Nat
  /-- Cells still covered by a wide one of the new sheet. -/
  covered : Nat

/-- Compares the cells at one place. -/
def Comparison.step (comparison : Comparison) (index : Nat) (old new : Cell) :
    Comparison :=
  let changed := (old ≠ new ∨ 0 < comparison.invalidated) ∧ comparison.covered = 0
  { changes :=
      if changed then (index, new) :: comparison.changes else comparison.changes
    invalidated :=
      max (max new.columns old.columns) comparison.invalidated - 1
    covered := new.columns - 1 }

/-- The cells that have to be written after one sheet to show the next, with
their places. -/
def changes (old new : Sheet) : List (Nat × Cell) :=
  let comparison := ((old.cells.toList.zip new.cells.toList).zipIdx).foldl
    (fun comparison ((before, after), index) =>
      Comparison.step comparison index before after)
    ⟨[], 0, 0⟩
  comparison.changes.reverse

end Sheet

end Cadence
