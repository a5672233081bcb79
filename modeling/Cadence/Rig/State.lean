import Cadence.Script

/-!
The rig: everything that runs on one thread, with the journal of what has
happened on it.
-/

namespace Cadence

/-- User code that can be called again and again. -/
structure Routine where
  course : Course
  calls : Nat

/-- A debouncer with the action behind it. -/
structure Debounced where
  timing : Debouncer
  fallible : Bool
  routine : Nat
  busy : Bool

/-- An event loop that is turned by hand. -/
structure LoopState where
  period : Nat
  busy : Bool

/-- What executes at most once at a time. -/
inductive Part
  | driver (number : Nat)
  | emulator (number : Nat)
  | task (number : Nat)
  | callback (tag : Tag)
  | debouncer (number : Nat)
  | loop (number : Nat)
deriving DecidableEq, Repr

/-- What happens on a rig. -/
inductive Event
  | logged (line : Log.Line)
  | noted (datum : Datum)
  /-- A part began or ceased to execute. -/
  | entered (part : Part)
  | left (part : Part)
  /-- A rate was stored, and everyone who was to hear of it has heard. -/
  | stored (rate : Rate)
  | announced (rate : Rate)
  /-- An observer's invocation started. -/
  | told (observer : ObserverId) (rate : Rate)
  | subscribed (observer : ObserverId)
  | unsubscribed (observer : ObserverId)
  | registered (mailbox : Nat) (tag : Tag)
  | cancelled (mailbox : Nat) (tag : Tag)
  | posted (mailbox : Nat) (message : Message)
  /-- A delivery took its messages. -/
  | deliveryOpened (mailbox : Nat) (messages : List Message)
  /-- A message started its callback, found none, or found it executing. -/
  | delivered (mailbox : Nat) (message : Message)
  | undeliverable (mailbox : Nat) (message : Message)
  | reentrant (mailbox : Nat) (message : Message)
  | requested (request : FrameRequest)
  /-- A refresh took its requests. -/
  | refreshOpened (frame : FrameTime) (requests : List FrameRequest)
  /-- A request of a refresh had its turn, and how it ended. -/
  | began (frame : FrameTime) (request : FrameRequest)
  | ended (frame : FrameTime) (request : FrameRequest) (verdict : Verdict)
  | stopped
  /-- An emulator was asked for a cycle, or for a frame. -/
  | advanced (emulator : Nat)
  | rendered (emulator : Nat)
  /-- A display was given a status, or a frame. -/
  | statusSet (driver : Nat) (text : String)
  | drawn (driver : Nat) (bytes : Array UInt8)
  /-- A display took its frame without an error. -/
  | drawSucceeded (driver : Nat)
  /-- A driver's turn or step began. -/
  | turnBegan (driver : Nat)
  | stepBegan (driver : Nat)
  /-- A driver's render was activated with some timing, and how often it was to
  run. -/
  | activated (driver : Nat) (timing : Debouncer) (count : Nat)
  | applied (command : Command)

structure Rig where
  now : Nat
  routines : Array Routine
  pace : Pace
  mailboxes : Array Mailbox
  nextTag : Nat
  nextMessage : Nat
  refresher : Refresher
  emulators : Array Emulator
  drivers : Array Driver
  debouncers : Array Debounced
  meters : Array RateMeter
  loops : Array LoopState
  stepTag : Option Tag
  keyboard : Input
  canned : Input
  /-- What has happened, the latest first. -/
  journal : List Event

namespace Rig

/-- A rig at the origin of time, with one mailbox and nothing else on it. -/
def fresh (rate : Rate) (reportInterval : Nat) : Rig where
  now := 0
  routines := #[]
  pace := .ofRate rate
  mailboxes := #[.empty]
  nextTag := 0
  nextMessage := 0
  refresher := .ofWindow reportInterval
  emulators := #[]
  drivers := #[]
  debouncers := #[]
  meters := #[]
  loops := #[]
  stepTag := none
  keyboard := .fresh
  canned := .empty
  journal := []

instance : Inhabited Rig := ⟨fresh .initial Duration.perSecond⟩

def mailbox (rig : Rig) (number : Nat) : Mailbox :=
  rig.mailboxes[number]?.getD .empty

def driver (rig : Rig) (number : Nat) : Driver :=
  rig.drivers[number]?.getD default

def emulator (rig : Rig) (number : Nat) : Emulator :=
  rig.emulators[number]?.getD default

/-- Whether anything refers to a driver: its handle, a turn or step of it, or a
turn of its task that is still to come or under way. -/
def isReferenced (rig : Rig) (number : Nat) : Bool :=
  (rig.driver number).handle || (rig.driver number).busy ||
    rig.refresher.owesDriver number

/-- Whether a driver is alive though nothing refers to it any more. -/
def isAbandoned (rig : Rig) (number : Nat) : Bool :=
  (rig.driver number).alive && !rig.isReferenced number

/-- Ends a driver's life, and with it its subscription. -/
def retire (rig : Rig) (number : Nat) : Rig :=
  { rig with
    pace := rig.pace.unsubscribe (.driver number)
    drivers := rig.drivers.modify number fun driver =>
      { driver with alive := false }
    journal := .unsubscribed (.driver number) :: rig.journal }

/-- Retires all drivers that nothing refers to any more. -/
def retireAbandoned (rig : Rig) : Rig :=
  (List.range rig.drivers.size).foldl
    (fun rig number => if rig.isAbandoned number then rig.retire number else rig)
    rig

/-- Nothing is queued anywhere. -/
def isIdle (rig : Rig) : Bool :=
  rig.refresher.queue.isEmpty && (rig.mailbox 0).queue.isEmpty

end Rig

end Cadence
