import Cadence.Failure

/-!
Packed frames of one bit per pixel: rows from the top, eight pixels to a byte,
the most significant bit leftmost, rows running on without padding.
-/

namespace Cadence

/-- The size of a picture, in pixels. -/
structure Resolution where
  width : Nat
  height : Nat
deriving DecidableEq, Repr

/-- A pixel's place: to the right, and upwards from the top row. -/
abbrev Coordinate := Int × Int

namespace Resolution

def pixelCount (resolution : Resolution) : Nat :=
  resolution.width * resolution.height

/-- The bytes of a frame, where a last part of a byte does not count. -/
def byteCount (resolution : Resolution) : Nat := resolution.pixelCount / 8

/-- Where a pixel lies. -/
def coordinate (resolution : Resolution) (pixel : Nat) : Coordinate :=
  (pixel % resolution.width, -(pixel / resolution.width : Nat))

/-- Whether a pixel of a byte is set, counted from the left. -/
def bitOf (byte : UInt8) (pixel : Nat) : Bool := byte.toNat.testBit (7 - pixel % 8)

/-- The coordinates of the first `count` pixels whose bit is `plane`, the last
pixel first.  A pixel beyond the data is an index error. -/
def bitplaneUpTo (resolution : Resolution) (data : Array UInt8) (plane : Bool) :
    Nat → Except Panic (List Coordinate)
  | 0 => .ok []
  | pixel + 1 =>
      match data[pixel / 8]? with
      | none => .error (.indexOutOfBounds data.size (pixel / 8))
      | some byte =>
          (resolution.bitplaneUpTo data plane pixel).map fun rest =>
            if bitOf byte pixel = plane then resolution.coordinate pixel :: rest
            else rest

/-- The coordinates of all pixels whose bit is `plane`. -/
def bitplane (resolution : Resolution) (data : Array UInt8) (plane : Bool) :
    Except Panic (List Coordinate) :=
  resolution.bitplaneUpTo data plane resolution.pixelCount

/-- The distance between the outermost pixels of each direction. -/
def bounds (resolution : Resolution) : Except Panic (Nat × Nat) :=
  if resolution.width = 0 ∨ resolution.height = 0 then
    .error .subtractionBelowZero
  else .ok (resolution.width - 1, resolution.height - 1)

/-- The side of a box around so many pixels.  Sides are short words, and so is the number
of pixels in the sum. -/
def boxSide (pixels : Nat) : Except Panic Nat :=
  let side := 2 + pixels % UInt16.size
  if side < UInt16.size then .ok side else .error .sumOverflow

end Resolution

end Cadence
