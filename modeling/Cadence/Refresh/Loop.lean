import Cadence.Mailbox.Deliver
import Cadence.Refresh.Deadline
import Cadence.Refresh.Deliver

/-!
Event loops.  Each turn delivers the messages posted so far, then offers a
refresh if one is due; a loop goes on until refreshes are stopped or nothing is
queued anywhere.
-/

namespace Cadence.Loop

open Exec

/-- A reading of a clock that each reading moves by `tick`. -/
def readClock (tick : Nat) : Exec Nat := do
  let now ← look (·.now)
  update fun rig => { rig with now := rig.now + tick }
  return now

/-- One turn with a given deadline; answers the next one, or nothing if the
loop is to end. -/
def turn (period tick deadline : Nat) : Exec (Option Nat) := do
  let _ ← Mailbox.deliver 0
  let now ← readClock tick
  let next ←
    if Refresh.isDue deadline now then do
      let _ ← Refresher.refresh now
      pure (Refresh.nextDeadline period deadline now)
    else pure deadline
  if (← look (·.refresher.stopped)) || (← look (·.isIdle)) then return none
  return some next

/-- Turns until the loop ends, at most `turns` of them.  Between two turns
without a message waiting, the clock is read for the time left. -/
def turns (period tick : Nat) : Nat → Nat → Exec Unit
  | 0, _ => exhausted
  | n + 1, deadline => do
      match ← turn period tick deadline with
      | none => return ()
      | some next =>
          if (← look fun rig => (rig.mailbox 0).queue.isEmpty) then
            let _ ← readClock tick
          turns period tick n next

def run (limit : Nat) (period tick : Nat) : Exec Unit := do
  log [Refresher.loopNotice period]
  let start ← readClock tick
  turns period tick limit start
  log [Refresher.finishedNotice (← look (·.refresher))]

def mark (number : Nat) (busy : Bool) (rig : Rig) : Rig :=
  { rig with loops := rig.loops.modify number ({ · with busy }) }

/-- A turn of a loop that is turned by hand, unless it is in the middle of
one. -/
def turnByHand (number : Nat) (deadline : Nat) :
    Exec (Option (Option Nat)) := do
  match ← look (·.loops[number]?) with
  | none => return none
  | some loop =>
      if loop.busy then return none
      some <$> within (.loop number) (mark number)
        (turn loop.period 0 deadline)

def perform (limit : Nat) :
    (order : LoopOrder) → Exec order.Answer
  | .newLoop hertz => do
      let period := Refresh.period hertz
      update fun rig => { rig with loops := rig.loops.push ⟨period, false⟩ }
      return period
  | .turn number deadline => turnByHand number deadline
  | .run hertz tick => run limit (Refresh.period hertz) tick

end Cadence.Loop
