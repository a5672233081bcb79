import Cadence.Binary64.Basic
import Cadence.Decimal.Shortest
import Cadence.Log

/-!
The rate of an emulation: cycles per frame and frame time.  Values that would
stall the emulation are replaced by the smallest usable one, with a complaint.
-/

namespace Cadence

/-- Cycles per frame, and the frame time in milliseconds. -/
structure Rate where
  cycles : UInt32
  frameTime : Binary64
deriving DecidableEq, Repr

namespace Rate

/-- Twenty cycles per frame at sixty frames per second. -/
def initial : Rate where
  cycles := 20
  frameTime := Binary64.ofNat 1000 / Binary64.ofNat 60

instance : Inhabited Rate := ⟨initial⟩

/-- Renders per second that the frame time asks for. -/
def framesPerSecond (rate : Rate) : Binary64 :=
  Binary64.ofNat 1000 / rate.frameTime

/-- The smallest frame time, in milliseconds. -/
def minFrameTime : Binary64 := 1

def maxCycles : Nat := UInt32.size - 1

/-- At least one cycle, and at most as many as the store can hold. -/
def clampCycles (cycles : Int) : UInt32 :=
  if cycles ≤ 0 then 1 else UInt32.ofNat (min cycles.toNat maxCycles)

/-- A number of cycles that fits is kept. -/
theorem toNat_clampCycles {cycles : Int} (hpos : 0 < cycles)
    (hle : cycles ≤ maxCycles) : ((clampCycles cycles).toNat : Int) = cycles := by
  have hle' : cycles.toNat ≤ maxCycles := by omega
  have hlt : cycles.toNat < UInt32.size := by
    simp only [maxCycles] at hle'
    have : 0 < UInt32.size := by decide
    omega
  rw [clampCycles, if_neg (by omega), Nat.min_eq_left hle',
    UInt32.toNat_ofNat_of_lt' hlt]
  omega

/-- There is always at least one cycle. -/
theorem one_le_clampCycles (cycles : Int) : 1 ≤ (clampCycles cycles).toNat := by
  by_cases h : cycles ≤ 0
  · simp [clampCycles, h]
  · by_cases hle : cycles ≤ maxCycles
    · have := toNat_clampCycles (Int.not_le.1 h) hle
      omega
    · rw [clampCycles, if_neg h, Nat.min_eq_right (by omega)]
      decide

def isPositiveTime (millis : Binary64) : Bool :=
  millis.isFinite && Binary64.lt 0 millis

/-- At least the smallest frame time. -/
def clampFrameTime (millis : Binary64) : Binary64 :=
  if isPositiveTime millis then Binary64.max millis minFrameTime
  else minFrameTime

private def warning (message : String) : Log.Line :=
  ⟨.warn, Log.targetOf "config", message⟩

/-- What is logged when a number of cycles is replaced. -/
def cyclesComplaint (cycles : Int) : List Log.Line :=
  if cycles ≤ 0 then
    [warning ("cycles per frame must be positive, got " ++ toString cycles ++
      "; using 1")]
  else []

/-- What is logged when a frame time is no positive number; raising a small
one is silent. -/
def frameTimeComplaint (millis : Binary64) : List Log.Line :=
  if isPositiveTime millis then []
  else
    [warning ("frame time must be positive, got " ++ Decimal.plain millis ++
      "ms; using " ++ Decimal.plain minFrameTime ++ "ms")]

/-- The usable rate next to a given one. -/
def clamped (rate : Rate) : Rate where
  cycles := if rate.cycles = 0 then 1 else rate.cycles
  frameTime := clampFrameTime rate.frameTime

def describe (rate : Rate) : String :=
  "RateConfig \x7b cycles_per_frame: " ++ toString rate.cycles ++
    ", frame_time_ms: " ++ Decimal.fractional rate.frameTime ++ " \x7d"

end Rate

end Cadence
