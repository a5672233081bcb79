import Cadence.Screen.Canvas

/-!
The terminal display: frames in a box, with a title over its top edge.
-/

namespace Cadence

/-- A terminal display on a screen of some kind. -/
structure TerminalDisplay (Screen : Type) where
  resolution : Resolution
  status : String
  screen : Screen
deriving DecidableEq, Repr

namespace TerminalDisplay

variable {Screen : Type}

def withStatus (display : TerminalDisplay Screen) (status : String) :
    TerminalDisplay Screen :=
  { display with status }

def title (display : TerminalDisplay Screen) : String :=
  if display.status.isEmpty then "CHIP-8"
  else "CHIP-8 | " ++ display.status

def pictureOf (display : TerminalDisplay Screen) (data : Array UInt8) :
    Except Panic Picture := do
  let black ← display.resolution.bitplane data false
  let white ← display.resolution.bitplane data true
  let columns ← Resolution.boxSide display.resolution.width
  let rows ← Resolution.boxSide display.resolution.height
  let extent ← display.resolution.bounds
  return ⟨display.title, columns, rows, extent, black, white⟩

/-- Draws a frame; one of another size is refused. -/
def drawWith (painter : Painter Screen) (display : TerminalDisplay Screen)
    (data : Array UInt8) : Except Panic (Except Failure (TerminalDisplay Screen)) :=
  let expected := display.resolution.byteCount
  if data.size ≠ expected then .ok (.error (.displaySize expected data.size))
  else do
    let picture ← display.pictureOf data
    let painted ← painter.paint picture display.screen
    return painted.map fun screen => { display with screen }

end TerminalDisplay

/-- A terminal display that paints on a canvas. -/
abbrev Terminal := TerminalDisplay Canvas

namespace Terminal

/-- A display that has drawn nothing, on a terminal of some columns and rows. -/
def blank (resolution : Resolution) (columns rows : Nat) : Terminal :=
  ⟨resolution, "", .blank columns rows⟩

/-- The rows that are on show. -/
def picture (terminal : Terminal) : List String := terminal.screen.panel.shown

def draw (terminal : Terminal) (data : Array UInt8) :
    Except Panic (Except Failure Terminal) :=
  terminal.drawWith Canvas.painter data

end Terminal

end Cadence
