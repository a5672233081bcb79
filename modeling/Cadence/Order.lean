import Cadence.Controls.Input
import Cadence.Datum
import Cadence.Driver.Basic
import Cadence.Pace.Basic
import Cadence.Refresh.Basic

/-!
Orders: everything that can be asked of a rig, grouped by the part that carries
it out, each with the type of its answer.  Parts are named by numbers in the
order of their creation.
-/

namespace Cadence

/-- What a part of user code may end with. -/
abbrev Verdict := Except Failure Unit

/-- Orders on the clock and on rate meters. -/
inductive ClockOrder
  | advance (duration : Nat)
  /-- Jumps forward to an instant; never back. -/
  | advanceTo (instant : Nat)
  | newMeter (window : Nat)
  | tick (meter : Nat)

/-- A tick answers the fresh measurement, if any, and the last one. -/
@[reducible] def ClockOrder.Answer : ClockOrder → Type
  | .advance _ => Unit
  | .advanceTo _ => Unit
  | .newMeter _ => Unit
  | .tick _ => Option Binary64 × Option Binary64

/-- Orders on the pace. -/
inductive PaceOrder
  | rate
  | setCycles (cycles : UInt32)
  | setFrameTime (millis : Binary64)
  | setRunning (running : Bool)
  | toggleRunning
  | subscribe (routine : Nat)
  /-- Ends a caller's subscription; drivers end theirs themselves. -/
  | unsubscribe (caller : Nat)
  | describe

/-- Setters answer the value that is stored, a subscription its number, and its
end whether there was one. -/
@[reducible] def PaceOrder.Answer : PaceOrder → Type
  | .rate => Rate
  | .setCycles _ => UInt32
  | .setFrameTime _ => Binary64
  | .setRunning _ => Unit
  | .toggleRunning => Bool
  | .subscribe _ => Nat
  | .unsubscribe _ => Bool
  | .describe => String

/-- Orders on mailboxes; number zero is the one that event loops deliver. -/
inductive MailOrder
  | newMailbox
  | register (mailbox routine : Nat)
  | post (mailbox : Nat) (tag : Tag)
  | cancel (mailbox : Nat) (tag : Tag)
  | isRegistered (mailbox : Nat) (tag : Tag)
  | pending (mailbox : Nat)
  | deliver (mailbox : Nat)
  | describe (mailbox : Nat)

/-- A delivery answers how many callbacks it started. -/
@[reducible] def MailOrder.Answer : MailOrder → Type
  | .newMailbox => Nat
  | .register _ _ => Tag
  | .post _ _ => Unit
  | .cancel _ _ => Bool
  | .isRegistered _ _ => Bool
  | .pending _ => Nat
  | .deliver _ => Nat
  | .describe _ => String

/-- Orders on refreshes. -/
inductive RefreshOrder
  | request (routine : Nat)
  | recur (routine : Nat)
  /-- One refresh at the clock's time. -/
  | refresh
  | stop
  | frameIndex
  | describe

/-- A refresh answers how many requests it took. -/
@[reducible] def RefreshOrder.Answer : RefreshOrder → Type
  | .request _ => Unit
  | .recur _ => Unit
  | .refresh => Nat
  | .stop => Unit
  | .frameIndex => Nat
  | .describe => String

/-- A change of a debouncer's settings. -/
inductive Adjustment
  | reset
  | rate (perSecond : Binary64)
  | interval (interval : Nat)
  | catchUp (on : Bool)
  | limit (runs : Nat)
deriving DecidableEq, Repr

/-- A debouncer's timing, and how often its action has been called. -/
structure DebouncerReport where
  timing : Debouncer
  calls : Nat
deriving DecidableEq, Repr

/-- Orders on debouncers. -/
inductive DebounceOrder
  /-- The failures of an action that is not fallible are ignored. -/
  | newDebouncer (timing : Debouncer) (fallible : Bool) (routine : Nat)
  | activate (debouncer : Nat)
  /-- Calls the action whatever the timing says. -/
  | invoke (debouncer : Nat)
  | adjust (debouncer : Nat) (adjustment : Adjustment)
  | report (debouncer : Nat)

/-- In the middle of an activation, an invocation or an adjustment there is no
answer to another one. -/
@[reducible] def DebounceOrder.Answer : DebounceOrder → Type
  | .newDebouncer _ _ _ => Nat
  | .activate _ => Option (Except Failure Activation)
  | .invoke _ => Option Verdict
  | .adjust _ _ => Option Unit
  | .report _ => DebouncerReport

/-- What is known of a driver from outside. -/
inductive DriverReport
  /-- There is no handle to it. -/
  | gone
  /-- It is in the middle of a turn or step. -/
  | busy
  | idle (stats : DriverStats) (renderInterval : Nat)
deriving DecidableEq, Repr

/-- What became of an attempt to start a driver. -/
inductive StartReport
  | started
  /-- Others refer to it, so it has been started already or is in use. -/
  | shared
  | gone
deriving DecidableEq, Repr

/-- Orders on emulators and drivers. -/
inductive DriverOrder
  | newEmulator (machine : Machine)
  /-- Takes an emulator away for good. -/
  | hold (emulator : Nat)
  | newDriver (emulator : Nat) (display : Display) (options : Driver.Options)
      (timebase : Timebase)
  /-- A turn at the clock's time, told a refresh rate. -/
  | turn (driver : Nat) (measuredRate : Option Binary64)
  | step (driver : Nat)
  | report (driver : Nat)
  | start (driver : Nat)
  | registerStep (driver mailbox : Nat)
  | dropHandle (driver : Nat)
  | shown (driver : Nat)

/-- A turn or step of a driver that is busy or gone has no answer; what is
shown is the number of draws and the last status of a counting display. -/
@[reducible] def DriverOrder.Answer : DriverOrder → Type
  | .newEmulator _ => Unit
  | .hold _ => Bool
  | .newDriver _ _ _ _ => Nat
  | .turn _ _ => Option (Except Failure Turn)
  | .step _ => Option Verdict
  | .report _ => DriverReport
  | .start _ => StartReport
  | .registerStep _ _ => Option Tag
  | .dropHandle _ => Unit
  | .shown _ => Nat × String

/-- Orders on event loops. -/
inductive LoopOrder
  | newLoop (hertz : Binary64)
  | turn (loop : Nat) (deadline : Nat)
  /-- A loop of its own, run to its end; each of its readings of the clock moves
  it by `tick`. -/
  | run (hertz : Binary64) (tick : Nat)

/-- A loop answers its period, a turn the next deadline if the loop goes on;
inside a turn of the same loop there is no answer. -/
@[reducible] def LoopOrder.Answer : LoopOrder → Type
  | .newLoop _ => Nat
  | .turn _ _ => Option (Option Nat)
  | .run _ _ => Unit

/-- The two sources of commands: keys, and a list given beforehand. -/
inductive InputSource
  | keyboard
  | canned
deriving DecidableEq, Repr

/-- Orders on controls. -/
inductive ControlOrder
  /-- From now on the step command posts this tag. -/
  | setStep (tag : Tag)
  | apply (command : Command)
  | arrive (events : List TerminalEvent)
  | load (commands : List Command)
  | peek (source : InputSource)
  | flush (source : InputSource)
  | pump (source : InputSource)

/-- Pumping a source answers how many commands it had. -/
@[reducible] def ControlOrder.Answer : ControlOrder → Type
  | .setStep _ => Unit
  | .apply _ => Unit
  | .arrive _ => Unit
  | .load _ => Unit
  | .peek _ => List Command
  | .flush _ => Unit
  | .pump _ => Nat

inductive Order
  | clock (order : ClockOrder)
  | pace (order : PaceOrder)
  | mail (order : MailOrder)
  | refresh (order : RefreshOrder)
  | debounce (order : DebounceOrder)
  | driver (order : DriverOrder)
  | loop (order : LoopOrder)
  | control (order : ControlOrder)
  /-- Writes something down. -/
  | note (datum : Datum)

@[reducible] def Order.Answer : Order → Type
  | .clock order => order.Answer
  | .pace order => order.Answer
  | .mail order => order.Answer
  | .refresh order => order.Answer
  | .debounce order => order.Answer
  | .driver order => order.Answer
  | .loop order => order.Answer
  | .control order => order.Answer
  | .note _ => Unit

end Cadence
