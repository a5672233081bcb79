import Cadence.Screen.Panel
import Cadence.Screen.Picture

/-!
Canvases: the sheet that was painted last and the panel that shows it.
-/

namespace Cadence

structure Canvas where
  sheet : Sheet
  panel : Panel
deriving DecidableEq, Repr

namespace Canvas

def blank (columns rows : Nat) : Canvas := ⟨.blank columns rows, .blank columns rows⟩

/-- Where points lie inside the box. -/
def places (points : List Coordinate) : List (Nat × Nat) :=
  points.map fun (x, y) => (x.toNat + 1, (-y).toNat + 1)

/-- What the sheet has for a point of a colour. -/
def blockCell (white : Bool) : Cell :=
  ⟨[Panel.block], if white then .white else .black, false⟩

/-- The sheet that shows a picture. -/
def compose (canvas : Canvas) (picture : Picture) : Sheet :=
  let inside := picture.columns - 2
  let boxed := ((Sheet.blank canvas.sheet.columns canvas.sheet.rows).drawBox inside
    (picture.rows - 2)).writeClusters 1 inside (Text.clusters picture.title.toList)
  if picture.extent.1 = 0 ∨ picture.extent.2 = 0 then boxed
  else
    (boxed.setAll (places picture.black) (blockCell false)).setAll
      (places picture.white) (blockCell true)

/-- Shows a sheet, writing only the cells that differ from the one before. -/
def present (canvas : Canvas) (sheet : Sheet) : Canvas :=
  ⟨sheet, canvas.panel.writeCells none (canvas.sheet.changes sheet)⟩

/-- The colour of the block in a cell, if there is one. -/
def block? (canvas : Canvas) (column row : Nat) : Option Bool := do
  let cell ← canvas.sheet.cell? column row
  if cell.text = [Panel.block] then
    match cell.ink with
    | .white => some true
    | .black => some false
    | .plain => none
  else none

/-- Painting on a canvas always succeeds. -/
def painter : Painter Canvas where
  columns canvas := canvas.sheet.columns
  rows canvas := canvas.sheet.rows
  block? := block?
  paint picture canvas := .ok (.ok (canvas.present (canvas.compose picture)))

end Canvas

end Cadence
