import Cadence.Rig.Exec

/-!
Changing the pace.  A setter that changes the rate tells every observer, in the
order of their subscriptions, before it returns.  An observer may set the rate
itself; the inner setter then tells everyone the newer rate, and the outer one
stops.
-/

namespace Cadence.Pace

open Exec

def modify (change : Pace → Pace) : Exec Unit :=
  update fun rig => { rig with pace := change rig.pace }

/-- Tells one observer.  A driver notes the frame time down for its next turn. -/
def tell (rate : Rate) (observer : Observer) : Exec Unit := do
  record (.told observer.id rate)
  match observer with
  | .driver number =>
      update fun rig =>
        { rig with
          drivers := rig.drivers.modify number fun driver =>
            { driver with pending := some rate.frameTime } }
  | .caller _ routine => callQuietly routine (.rate rate)

/-- Tells some observers one after the other, as long as the rate is the one
they are told of. -/
def announce (rate : Rate) : List Observer → Exec Unit
  | [] => return ()
  | observer :: rest => do
      tell rate observer
      if (← look (·.pace.rate)) = rate then announce rate rest

/-- Stores a rate and tells everyone who observes at that moment. -/
def adopt (rate : Rate) : Exec Unit := do
  modify ({ · with rate })
  record (.stored rate)
  log (rateNotice rate)
  announce rate (← look (·.pace.observers))
  record (.announced rate)

/-- Sets the cycles per frame and answers the number stored. -/
def setCycles (cycles : UInt32) : Exec UInt32 := do
  log (Rate.cyclesComplaint cycles.toNat)
  let cycles := Rate.clampCycles cycles.toNat
  let rate ← look (·.pace.rate)
  unless rate.cycles = cycles do adopt { rate with cycles }
  return cycles

/-- Sets the frame time and answers the one stored. -/
def setFrameTime (millis : Binary64) : Exec Binary64 := do
  log (Rate.frameTimeComplaint millis)
  let frameTime := Rate.clampFrameTime millis
  let rate ← look (·.pace.rate)
  unless rate.frameTime = frameTime do adopt { rate with frameTime }
  return frameTime

/-- Sets the running flag, which nobody is told about. -/
def setRunning (running : Bool) : Exec Unit := do
  log (runningNotice (← look (·.pace.running)) running)
  modify ({ · with running })

/-- Turns the running flag over and answers it. -/
def toggleRunning : Exec Bool := do
  let running := !(← look (·.pace.running))
  setRunning running
  return running

/-- Adds a routine as an observer and answers its number. -/
def observe (routine : Nat) : Exec Nat := do
  let number ← look (·.pace.nextCaller)
  modify (·.subscribe routine)
  record (.subscribed (.caller number))
  return number

/-- Ends the subscription of a caller and answers whether there was one.  Handles of
drivers are the rig's and not its routines', so no driver ends with what is dropped. -/
def forget (number : Nat) : Exec Bool := do
  let found ← look (·.pace.isSubscribed (.caller number))
  modify (·.unsubscribe (.caller number))
  if found then record (.unsubscribed (.caller number))
  return found

def perform : (order : PaceOrder) → Exec order.Answer
  | .rate => look (·.pace.rate)
  | .setCycles cycles => setCycles cycles
  | .setFrameTime millis => setFrameTime millis
  | .setRunning running => setRunning running
  | .toggleRunning => toggleRunning
  | .subscribe routine => observe routine
  | .unsubscribe number => forget number
  | .describe => look (·.pace.describe)

end Cadence.Pace
