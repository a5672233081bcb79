import Cadence.Screen.Bitplane

/-!
Pictures, and what paints them.  A picture is a box with a title in the corner of a
screen, and points inside it.
-/

namespace Cadence

structure Picture where
  title : String
  /-- The sides of the box. -/
  columns : Nat
  rows : Nat
  /-- The distance between the outermost points of each direction. -/
  extent : Nat × Nat
  black : List Coordinate
  white : List Coordinate

/-- The points of a picture have cells of their own inside the box. -/
structure Picture.IsExact (picture : Picture) : Prop where
  columns : picture.columns = picture.extent.1 + 3
  rows : picture.rows = picture.extent.2 + 3
  inside : ∀ point ∈ picture.black ++ picture.white, ∃ x y : Nat,
    x ≤ picture.extent.1 ∧ y ≤ picture.extent.2 ∧ point = ((x : Int), -(y : Int))

/-- A way to paint pictures on screens of some kind. -/
structure Painter (Screen : Type) where
  /-- The extent of a screen. -/
  columns : Screen → Nat
  rows : Screen → Nat
  /-- Whether the block in a cell of a screen is white, if there is a block. -/
  block? : Screen → Nat → Nat → Option Bool
  paint : Picture → Screen → Except Panic (Except Failure Screen)

/-- On a painted screen each point is a block of its colour, where white covers black.  A
picture without extent in one direction has no points to show. -/
def Painter.ShowsPoints {Screen : Type} (painter : Painter Screen) (picture : Picture)
    (screen : Screen) : Prop :=
  0 < picture.extent.1 → 0 < picture.extent.2 →
    ∀ x y : Nat, x ≤ picture.extent.1 → y ≤ picture.extent.2 →
      (((x : Int), -(y : Int)) ∈ picture.white →
        painter.block? screen (x + 1) (y + 1) = some true) ∧
      (((x : Int), -(y : Int)) ∈ picture.black → ((x : Int), -(y : Int)) ∉ picture.white →
        painter.block? screen (x + 1) (y + 1) = some false)

/-- What is relied on: a picture that has room on a screen is painted. -/
structure Painter.Reliable {Screen : Type} (painter : Painter Screen) : Prop where
  paints : ∀ picture screen, picture.IsExact →
    picture.columns ≤ painter.columns screen → picture.rows ≤ painter.rows screen →
    ∃ painted, painter.paint picture screen = .ok (.ok painted) ∧
      painter.columns painted = painter.columns screen ∧
      painter.rows painted = painter.rows screen ∧ painter.ShowsPoints picture painted

end Cadence
