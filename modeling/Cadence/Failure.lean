/-!
How an operation can fail: with an error that its caller handles, or with a
panic that unwinds through every caller.
-/

namespace Cadence

/-- The two phases of a turn that need the emulator. -/
inductive EmulatorPhase
  | advance
  | render
deriving DecidableEq, Repr

def EmulatorPhase.name : EmulatorPhase → String
  | .advance => "advance"
  | .render => "render"

inductive Failure
  /-- Reported by user code. -/
  | reported (message : String)
  /-- An error with the context it arose in. -/
  | within (context : String) (cause : Failure)
  /-- A recurring task was started inside itself. -/
  | taskReentered
  /-- A driver's turn was started inside one of its turns or steps. -/
  | driverReentered
  /-- A single step reached its driver in the middle of a turn or step. -/
  | driverBusy
  /-- The emulator was in use when a phase needed it. -/
  | emulatorBusy (phase : EmulatorPhase)
  /-- The emulator's frame does not have the size of the display. -/
  | frameSize (got expected : Nat)
  /-- The terminal display was given a frame of another size. -/
  | displaySize (expected got : Nat)
deriving DecidableEq, Repr

/-- The text of an error, outermost context first. -/
def Failure.message : Failure → String
  | .reported message => message
  | .within context cause => context ++ ": " ++ cause.message
  | .taskReentered => "recurring frame task re-entered"
  | .driverReentered => "loop driver re-entered"
  | .driverBusy => "loop driver busy"
  | .emulatorBusy phase => "emulator busy during " ++ phase.name
  | .frameSize got expected =>
      "emulator frame is " ++ Nat.repr got ++ " bytes, display takes " ++
        Nat.repr expected
  | .displaySize expected got =>
      "MonoTermDisplay needs " ++ Nat.repr expected ++
        " bytes per frame, got " ++ Nat.repr got

inductive Panic
  /-- Raised by user code. -/
  | raised (message : String)
  /-- A difference of natural numbers would be negative. -/
  | subtractionBelowZero
  /-- A product does not fit its machine word. -/
  | productOverflow
  /-- A sum does not fit its machine word. -/
  | sumOverflow
  /-- An index lies outside of a sequence of `length` items. -/
  | indexOutOfBounds (length index : Nat)
deriving DecidableEq, Repr

def Panic.message : Panic → String
  | .raised message => message
  | .subtractionBelowZero => "attempt to subtract with overflow"
  | .productOverflow => "attempt to multiply with overflow"
  | .sumOverflow => "attempt to add with overflow"
  | .indexOutOfBounds length index =>
      "index out of bounds: the len is " ++ Nat.repr length ++
        " but the index is " ++ Nat.repr index

/-- How a computation ends: with a value, by a panic, or because it nested
deeper than it was allowed to. -/
inductive Ending (α : Type)
  | value (result : α)
  | panicked (panic : Panic)
  | exhausted
deriving Repr

end Cadence
