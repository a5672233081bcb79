import Cadence.Failure

/-!
A test card: a picture of 64 by 32 pixels that stands in for an emulator.  All
rows but the first and the last scroll to the right by one pixel every so many
cycles, and what leaves a row on the right comes back on the left.
-/

namespace Cadence

/-- A picture of 32 rows, the most significant bit of a row being its leftmost
pixel. -/
structure TestCard where
  rows : Vector UInt64 32
  cycles : Nat
  cyclesPerShift : Nat

namespace TestCard

def width : Nat := 64
def height : Nat := 32

def frameBytes : Nat := 256

/-- Cycles per shift of a card that is not told otherwise. -/
def standardCyclesPerShift : Nat := 20

/-- The picture before any shift: two borders, a checker block in the middle,
and a diagonal. -/
def isLit (x y : Nat) : Bool :=
  y == 0 || y == height - 1 ||
    (8 ≤ y && y < 24 && 16 ≤ x && x < 48 && (x + y) % 2 == 0) ||
    (2 ≤ y && y < height - 2 && x == 2 * y)

/-- The row with the pixels that `lit` selects. -/
def rowOf (lit : Nat → Bool) : UInt64 :=
  (List.range width).foldl (fun row x => row * 2 + (if lit x then 1 else 0)) 0

/-- A fresh card; a card always takes at least one cycle per shift. -/
def fresh (cyclesPerShift : Nat) : TestCard where
  rows := Vector.ofFn fun y => rowOf (isLit · y)
  cycles := 0
  cyclesPerShift := Nat.max cyclesPerShift 1

instance : Inhabited TestCard := ⟨fresh standardCyclesPerShift⟩

/-- A row moved to the right by one pixel, around its end. -/
def rotateRow (row : UInt64) : UInt64 := (row >>> 1) ||| (row <<< 63)

/-- All rows between the borders moved by one pixel. -/
def shift (card : TestCard) : TestCard :=
  { card with
    rows := card.rows.mapIdx fun y row =>
      if y = 0 ∨ y = height - 1 then row else rotateRow row }

/-- One cycle; every `cyclesPerShift`-th one shifts. -/
def advance (card : TestCard) : TestCard :=
  let card := { card with cycles := card.cycles + 1 }
  if card.cycles % card.cyclesPerShift = 0 then card.shift else card

def advanceTimes : Nat → TestCard → TestCard
  | 0, card => card
  | n + 1, card => advanceTimes n card.advance

@[simp] theorem cycles_advance (card : TestCard) :
    card.advance.cycles = card.cycles + 1 := by
  unfold advance
  dsimp only
  split <;> rfl

/-- Every cycle is counted. -/
@[simp] theorem cycles_advanceTimes (n : Nat) (card : TestCard) :
    (advanceTimes n card).cycles = card.cycles + n := by
  induction n generalizing card with
  | zero => rfl
  | succ n ih =>
      rw [advanceTimes, ih, cycles_advance]
      omega

/-- Byte `k` of a row, from the left. -/
def rowByte (row : UInt64) (k : Nat) : UInt8 :=
  (row >>> UInt64.ofNat (56 - 8 * k)).toUInt8

/-- The packed picture: rows from the top, eight pixels to a byte, the most
significant bit leftmost. -/
def frame (card : TestCard) : Array UInt8 :=
  card.rows.toArray.flatMap fun row =>
    (Array.range 8).map (rowByte row)

/-- Machine words hold less than this. -/
def wordLimit : Nat := UInt64.size

/-- Whether a pixel is lit.  Coordinates beyond a row run on into the next one;
what lies beyond the frame is an index error. -/
def pixel (card : TestCard) (x y : Nat) : Except Panic Bool :=
  if wordLimit ≤ y * width then .error .productOverflow
  else
    let index := y * width / 8 + x / 8
    match card.rows[index / 8]? with
    | none => .error (.indexOutOfBounds frameBytes index)
    | some row =>
        .ok ((rowByte row (index % 8)).toNat.testBit (7 - x % 8))

end TestCard

end Cadence
