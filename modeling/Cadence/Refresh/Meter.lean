import Cadence.Duration

/-!
Measuring a rate of ticks.  A window opens at a tick, which is not counted in
it, and closes at the first later tick that leaves it long enough; the next one
opens at that same tick.
-/

namespace Cadence

/-- Counts ticks over windows of at least a given length. -/
structure RateMeter where
  window : Nat
  opened : Option Nat
  count : Nat
  rate : Option Binary64
deriving DecidableEq, Repr

namespace RateMeter

def ofWindow (window : Nat) : RateMeter := ⟨window, none, 0, none⟩

/-- A window of one second. -/
def standard : RateMeter := ofWindow Duration.perSecond

/-- Whether a window may close after some time; never at the instant at which
it opened. -/
def closes (meter : RateMeter) (elapsed : Nat) : Bool :=
  meter.window ≤ elapsed && elapsed != 0

/-- The rate of `count` ticks in `elapsed`, in hertz. -/
def measure (count : Nat) (elapsed : Nat) : Binary64 :=
  Binary64.ofNat count / Duration.toSeconds elapsed

/-- One tick: the measurement, if it closes a window, and the new state. -/
def tick (meter : RateMeter) (now : Nat) : Option Binary64 × RateMeter :=
  match meter.opened with
  | none => (none, { meter with opened := some now })
  | some opened =>
      let count := meter.count + 1
      let elapsed := Duration.since now opened
      if meter.closes elapsed then
        let rate := measure count elapsed
        (some rate, { meter with opened := some now, count := 0, rate := some rate })
      else
        (none, { meter with count })

/-- A tick that closes no window is counted. -/
theorem tick_of_not_closes {meter : RateMeter} {opened now : Nat}
    (h : meter.opened = some opened)
    (hclose : meter.closes (Duration.since now opened) = false) :
    meter.tick now = (none, { meter with count := meter.count + 1 }) := by
  simp [tick, h, hclose]

/-- A tick that closes a window is counted in it and opens the next one. -/
theorem tick_of_closes {meter : RateMeter} {opened now : Nat}
    (h : meter.opened = some opened)
    (hclose : meter.closes (Duration.since now opened) = true) :
    meter.tick now =
      (some (measure (meter.count + 1) (Duration.since now opened)),
        { meter with
          opened := some now
          count := 0
          rate := some (measure (meter.count + 1) (Duration.since now opened)) }) := by
  simp [tick, h, hclose]

end RateMeter

end Cadence
