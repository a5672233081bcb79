import Cadence.Rig.Exec

/-!
Debouncers and rate meters that stand on a rig by themselves.
-/

namespace Cadence

open Exec

namespace Debounced

def modify (number : Nat) (change : Debounced → Debounced) : Exec Unit :=
  update fun rig => { rig with debouncers := rig.debouncers.modify number change }

def mark (number : Nat) (busy : Bool) (rig : Rig) : Rig :=
  { rig with debouncers := rig.debouncers.modify number ({ · with busy }) }

/-- Runs a computation on a debouncer unless it is in the middle of another
one. -/
def ifFree {α : Type} (number : Nat) (body : Debounced → Exec α) :
    Exec (Option α) := do
  match ← look (·.debouncers[number]?) with
  | none => return none
  | some entry =>
      if entry.busy then return none
      some <$> within (.debouncer number) (mark number) (body entry)

/-- Calls an action so many times, or as many as go well; the failures of an
action that is not fallible count as going well. -/
def callTimes (entry : Debounced) : Nat → Exec Verdict
  | 0 => return .ok ()
  | n + 1 => do
      match ← call entry.routine .plain with
      | .error failure =>
          if entry.fallible then return .error failure
          else callTimes entry n
      | .ok _ => callTimes entry n

/-- Activates a debouncer: the baseline moves, then the planned calls are
made. -/
def activate (number : Nat) (entry : Debounced) :
    Exec (Except Failure Activation) := do
  let now ← look (·.now)
  log (entry.timing.planNotice now)
  let (count, timing) := entry.timing.plan now
  modify number ({ · with timing })
  match ← callTimes entry count with
  | .error failure => return .error failure
  | .ok _ => return .ok (.ofCount count)

/-- The timing with other settings. -/
def adjusted (timing : Debouncer) : Adjustment → Debouncer
  | .reset => timing.reset
  | .rate perSecond => timing.withInterval (Debouncer.intervalOfRate perSecond)
  | .interval interval => timing.withInterval interval
  | .catchUp on => { timing with catchUp := on }
  | .limit runs => timing.limitedTo runs

def adjust (number : Nat) (adjustment : Adjustment) (entry : Debounced) :
    Exec Unit := do
  let timing := adjusted entry.timing adjustment
  log (entry.timing.intervalNotice timing.interval)
  modify number ({ · with timing })

/-- A debouncer's timing, and how often its action has been called. -/
def report (rig : Rig) (number : Nat) : DebouncerReport :=
  match rig.debouncers[number]? with
  | none => ⟨.idle, 0⟩
  | some entry =>
      ⟨entry.timing, (rig.routines[entry.routine]?.map (·.calls)).getD 0⟩

def perform : (order : DebounceOrder) → Exec order.Answer
  | .newDebouncer timing fallible routine => do
      let number ← look (·.debouncers.size)
      log (Debouncer.idle.intervalNotice timing.interval)
      update fun rig =>
        { rig with
          debouncers := rig.debouncers.push ⟨timing, fallible, routine, false⟩ }
      return number
  | .activate number => ifFree number (activate number)
  | .invoke number => ifFree number fun entry => callTimes entry 1
  | .adjust number adjustment => ifFree number (adjust number adjustment)
  | .report number => look (report · number)

end Debounced

namespace RateMeter

def tickOnRig (number : Nat) : Exec (Option Binary64 × Option Binary64) := do
  match ← look (·.meters[number]?) with
  | none => return (none, none)
  | some meter =>
      let (fresh, meter) := meter.tick (← look (·.now))
      update fun rig => { rig with meters := rig.meters.modify number fun _ => meter }
      return (fresh, meter.rate)

def perform : (order : ClockOrder) → Exec order.Answer
  | .advance duration => update fun rig => { rig with now := rig.now + duration }
  | .advanceTo instant =>
      update fun rig => { rig with now := Nat.max rig.now instant }
  | .newMeter window =>
      update fun rig => { rig with meters := rig.meters.push (.ofWindow window) }
  | .tick meter => tickOnRig meter

end RateMeter

end Cadence
