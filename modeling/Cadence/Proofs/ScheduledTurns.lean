import Cadence.Proofs.BlindTurns
import Cadence.Proofs.ObligingCode

/-!
Scheduled turns.  What comes of a turn can be read off what it is timed by, if the
emulator and the display oblige, and a step leaves all of that as it was.
-/

namespace Cadence

open Exec

namespace Schedule

variable (schedule : Schedule)

/-- The time on the driver's clock. -/
def clock : Nat :=
  match schedule.timebase with
  | .shared => schedule.now
  | .still => 0

/-- An announced frame time is taken over. -/
def opened : Schedule :=
  match schedule.pending with
  | none => schedule
  | some millis =>
      { schedule with
        pending := none
        render :=
          if schedule.throttle then
            schedule.render.withInterval (Driver.intervalOfFrameTime millis)
          else schedule.render }

/-- What a turn comes to, and what the next one is timed by. -/
def turn : Turn × Schedule :=
  if schedule.opened.pace.running then
    let (count, render) := schedule.opened.render.plan schedule.opened.clock
    (.ran schedule.opened.pace.rate.cycles (.ofCount count), { schedule.opened with render })
  else (.paused, schedule.opened)

end Schedule

namespace Driver

variable {depth : Nat} {listeners : List Nat} {number : Nat} {equipment : Equipment}
  {schedule next : Schedule} {rig : Rig} {α : Type}

end Driver

end Cadence
