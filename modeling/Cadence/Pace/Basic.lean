import Cadence.Rate

/-!
The pace of an emulation: its rate, whether it runs, and who is told when the
rate changes.
-/

namespace Cadence

/-- Names an observer: callers by the order of their subscriptions, drivers by
their own number. -/
inductive ObserverId
  | caller (number : Nat)
  | driver (number : Nat)
deriving DecidableEq, Repr

/-- Who is told about a new rate: a routine of a caller, or a driver. -/
inductive Observer
  | caller (number routine : Nat)
  | driver (number : Nat)
deriving DecidableEq, Repr

def Observer.id : Observer → ObserverId
  | .caller number _ => .caller number
  | .driver number => .driver number

/-- The shared setting; observers stand in the order of their subscriptions. -/
structure Pace where
  rate : Rate
  running : Bool
  observers : List Observer
  nextCaller : Nat
deriving Repr

namespace Pace

/-- A running pace that nobody observes. -/
def ofRate (rate : Rate) : Pace := ⟨rate.clamped, true, [], 0⟩

instance : Inhabited Pace := ⟨ofRate .initial⟩

/-- Adds a caller's routine as the last observer. -/
def subscribe (pace : Pace) (routine : Nat) : Pace :=
  { pace with
    observers := pace.observers ++ [.caller pace.nextCaller routine]
    nextCaller := pace.nextCaller + 1 }

def subscribeDriver (pace : Pace) (driver : Nat) : Pace :=
  { pace with observers := pace.observers ++ [.driver driver] }

def isSubscribed (pace : Pace) (id : ObserverId) : Bool :=
  pace.observers.any fun observer => observer.id == id

def unsubscribe (pace : Pace) (id : ObserverId) : Pace :=
  { pace with
    observers := pace.observers.filter fun observer => observer.id != id }

def describe (pace : Pace) : String :=
  "PaceControl \x7b rate: " ++ pace.rate.describe ++ ", running: " ++
    toString pace.running ++ ", observers: " ++
    Nat.repr pace.observers.length ++ " \x7d"

private def line (level : Log.Level) (message : String) : Log.Line :=
  ⟨level, Log.targetOf "config", message⟩

def runningNotice (before after : Bool) : List Log.Line :=
  if before = after then []
  else [line .info ("emulation " ++ if after then "resumed" else "paused")]

def rateNotice (rate : Rate) : List Log.Line :=
  [line .debug ("rate changed: " ++ toString rate.cycles ++ " cycles/frame, " ++
    Decimal.fixed 2 rate.frameTime ++ "ms/frame")]

end Pace

end Cadence
