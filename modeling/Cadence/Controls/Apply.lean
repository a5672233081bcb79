import Cadence.Pace.Announce
import Cadence.Mailbox.Deliver
import Cadence.Refresh.Deliver

/-!
Applying commands.  Commands double and halve the cycles per frame, move the
frame time by a fixed step, turn the running flag over, post the step tag, or
stop all refreshes.
-/

namespace Cadence.Controls

open Exec

/-- How far a command moves the frame time, in milliseconds. -/
def frameTimeStep : Binary64 := 2

/-- Twice as many cycles, as far as the store can hold them. -/
def doubled (cycles : UInt32) : UInt32 :=
  UInt32.ofNat (min (2 * cycles.toNat) Rate.maxCycles)

/-- Half as many cycles, but at least one. -/
def halved (cycles : UInt32) : UInt32 :=
  UInt32.ofNat (Nat.max (cycles.toNat / 2) 1)

private def line (message : String) : Log.Line :=
  ⟨.debug, Log.targetOf "input", message⟩

/-- Applies one command; `step` is the tag that a step posts. -/
def apply (step : Option Tag) (command : Command) : Exec Unit := do
  record (.applied command)
  log [line ("command " ++ command.name)]
  let rate ← look (·.pace.rate)
  match command with
  | .toggleRunning =>
      let _ ← Pace.toggleRunning
  | .step =>
      match step with
      | none => log [line "no step handler registered"]
      | some tag => Mailbox.send 0 tag
  | .moreCycles =>
      let _ ← Pace.setCycles (doubled rate.cycles)
  | .fewerCycles =>
      let _ ← Pace.setCycles (halved rate.cycles)
  | .longerFrame =>
      let _ ← Pace.setFrameTime (rate.frameTime + frameTimeStep)
  | .shorterFrame =>
      let _ ← Pace.setFrameTime (rate.frameTime - frameTimeStep)
  | .quit => Refresher.halt

/-- Applies some commands one after the other, all with the same step tag. -/
def applyAll (step : Option Tag) : List Command → Exec Unit
  | [] => return ()
  | command :: rest => do
      apply step command
      applyAll step rest

def source : InputSource → Rig → Input
  | .keyboard, rig => rig.keyboard
  | .canned, rig => rig.canned

def withSource (input : Input) : InputSource → Rig → Rig
  | .keyboard, rig => { rig with keyboard := input }
  | .canned, rig => { rig with canned := input }

/-- The commands of a source, which keeps them. -/
def peek (name : InputSource) : Exec (List Command) := do
  let input ← look (source name)
  log input.readNotices
  let (commands, input) := input.peek
  update (withSource input name)
  return commands

def flush (name : InputSource) : Exec Unit := do
  let input ← look (source name)
  log input.readNotices
  update (withSource input.flush name)

/-- Takes all commands out of a source, applies them, and answers how many there
were.  The step tag is the one of the moment when the pump starts, whatever an
observer sets on the way. -/
def pump (name : InputSource) : Exec Nat := do
  let step ← look (·.stepTag)
  let input ← look (source name)
  log input.readNotices
  let (commands, input) := input.pump []
  update (withSource input name)
  applyAll step commands
  return commands.length

def perform : (order : ControlOrder) → Exec order.Answer
  | .setStep tag => update fun rig => { rig with stepTag := some tag }
  | .apply command => do apply (← look (·.stepTag)) command
  | .arrive events =>
      update fun rig => { rig with keyboard := rig.keyboard.arrive events }
  | .load commands =>
      update fun rig => { rig with canned := .ofCommands commands }
  | .peek name => peek name
  | .flush name => flush name
  | .pump name => pump name

end Cadence.Controls
