/-!
What a mouse reports: an act, the place of the pointer, and the modifier keys that
are held.  A report is a code with these parts in its bits.
-/

namespace Cadence

namespace Mouse

inductive Button
  | left
  | right
  | middle
deriving DecidableEq, Repr

inductive Act
  | down (button : Button)
  | up (button : Button)
  | drag (button : Button)
  | moved
  | scrollDown
  | scrollUp
deriving DecidableEq, Repr

end Mouse

/-- What a mouse reports; places count from zero. -/
structure Mouse where
  act : Mouse.Act
  column : Nat
  row : Nat
  shift : Bool
  control : Bool
  alt : Bool
deriving DecidableEq, Repr

namespace Mouse

def Button.name : Button → String
  | .left => "Left"
  | .right => "Right"
  | .middle => "Middle"

def Act.name : Act → String
  | .down button => "Down(" ++ button.name ++ ")"
  | .up button => "Up(" ++ button.name ++ ")"
  | .drag button => "Drag(" ++ button.name ++ ")"
  | .moved => "Moved"
  | .scrollDown => "ScrollDown"
  | .scrollUp => "ScrollUp"

/-- The act of a code: its lowest two bits and its highest two number a button, and
one bit in between says that the pointer moves. -/
def Act.ofCode? (code : Nat) : Option Act :=
  match code % 4 + code / 64 * 4, code / 32 % 2 == 1 with
  | 0, false => some (.down .left)
  | 1, false => some (.down .middle)
  | 2, false => some (.down .right)
  | 0, true => some (.drag .left)
  | 1, true => some (.drag .middle)
  | 2, true => some (.drag .right)
  | 3, false => some (.up .left)
  | 3, true => some .moved
  | 4, true => some .moved
  | 5, true => some .moved
  | 4, false => some .scrollUp
  | 5, false => some .scrollDown
  | _, _ => none

/-- A button that was said to go down goes up instead. -/
def Act.released : Act → Act
  | .down button => .up button
  | act => act

/-- What a code and a place, which counts from one, report. -/
def ofReport? (code column row : Nat) : Option Mouse :=
  if column = 0 || row = 0 then none
  else
    (Act.ofCode? code).map fun act =>
      { act
        column := column - 1
        row := row - 1
        shift := code / 4 % 2 == 1
        alt := code / 8 % 2 == 1
        control := code / 16 % 2 == 1 }

def modifierNames (mouse : Mouse) : List String :=
  (if mouse.shift then ["SHIFT"] else []) ++
    (if mouse.control then ["CONTROL"] else []) ++
    (if mouse.alt then ["ALT"] else [])

def describe (mouse : Mouse) : String :=
  let held := mouse.modifierNames
  "Mouse(MouseEvent \x7b kind: " ++ mouse.act.name ++
    ", column: " ++ toString mouse.column ++ ", row: " ++ toString mouse.row ++
    ", modifiers: " ++
    (if held.isEmpty then "NONE" else String.intercalate " | " held) ++ " \x7d)"

end Mouse

end Cadence
