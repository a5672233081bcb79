import Cadence.Debouncer
import Cadence.Rate
import Cadence.Screen.Terminal
import Cadence.TestCard

/-!
Drivers: what they hold, and what they drive.  A driver owns a display, shares
an emulator, and keeps the timing of its renders.
-/

namespace Cadence

/-- An emulator: the test card, or one that runs a routine on each cycle and
each render and whose frames are a picture of the number of cycles it has
run. -/
inductive Machine
  | card (card : TestCard)
  | scripted (picture : Nat → Array UInt8) (advances onAdvance onRender : Nat)

/-- Frames of `size` bytes, each of them the number of cycles run. -/
def Machine.countingPicture (size : Nat) (advances : Nat) : Array UInt8 :=
  Array.replicate size (UInt8.ofNat advances)

/-- A shared emulator: in use by a driver, or held by somebody for good. -/
structure Emulator where
  machine : Machine
  inUse : Bool
  held : Bool

/-- An emulator that nobody has made is nobody's to use. -/
instance : Inhabited Emulator := ⟨⟨.card default, false, true⟩⟩

/-- Whether nobody else may use an emulator now. -/
def Emulator.isBusy (emulator : Emulator) : Bool :=
  emulator.inUse || emulator.held

/-- A display: one that counts its draws, one that runs routines, or a
terminal.  Without a status routine a display takes no status. -/
inductive Display
  | counting (draws : Nat) (status : String)
  | scripted (size : Nat) (onStatus : Option Nat) (onDraw : Nat)
  | terminal (screen : Terminal)
deriving Repr

instance : Inhabited Display := ⟨.counting 0 ""⟩

def Display.frameBytes : Display → Nat
  | .counting _ _ => 256
  | .scripted size _ _ => size
  | .terminal screen => screen.resolution.byteCount

/-- What one turn did. -/
inductive Turn
  | paused
  | ran (cycles : UInt32) (rendered : Activation)
deriving DecidableEq, Repr

/-- What a driver has done so far. -/
structure DriverStats where
  turns : Nat
  pausedTurns : Nat
  cycles : Nat
  renders : Nat
deriving DecidableEq, Repr

/-- The clock that times a driver's renders: the rig's, or one of its own that
never moves. -/
inductive Timebase
  | shared
  | still
deriving DecidableEq, Repr

structure Driver where
  emulator : Nat
  display : Display
  render : Debouncer
  throttle : Bool
  timebase : Timebase
  /-- A frame time announced since the last turn. -/
  pending : Option Binary64
  /-- The refresh rate that the last turn was told. -/
  measuredRate : Option Binary64
  stats : DriverStats
  /-- In the middle of a turn or step. -/
  busy : Bool
  /-- Whether the caller still has its handle. -/
  handle : Bool
  /-- How often it has been started. -/
  generation : Nat
  /-- False once nobody refers to it any more. -/
  alive : Bool

instance : Inhabited Driver where
  default :=
    { emulator := 0, display := default, render := default, throttle := false
      timebase := .still, pending := none, measuredRate := none
      stats := ⟨0, 0, 0, 0⟩, busy := false, handle := false, generation := 0
      alive := false }

namespace Driver

/-- How a driver renders: capped at the frame time or not, with missed renders
made up for or not. -/
structure Options where
  throttle : Bool
  catchUp : Bool
deriving DecidableEq, Repr

/-- Capped, without catch-up. -/
def Options.standard : Options := ⟨true, false⟩

def renderTiming (options : Options) (rate : Rate) : Debouncer :=
  { Debouncer.idle with
    interval :=
      if options.throttle then
        Debouncer.intervalOfRate rate.framesPerSecond
      else 0
    catchUp := options.catchUp }

def fresh (emulator : Nat) (display : Display) (options : Options)
    (timebase : Timebase) (rate : Rate) : Driver where
  emulator
  display
  render := renderTiming options rate
  throttle := options.throttle
  timebase
  pending := none
  measuredRate := none
  stats := ⟨0, 0, 0, 0⟩
  busy := false
  handle := true
  generation := 0
  alive := true

/-- The render interval that an announced frame time asks for. -/
def intervalOfFrameTime (millis : Binary64) : Nat :=
  Debouncer.intervalOfRate (Binary64.ofNat 1000 / millis)

/-- Takes an announced frame time over into the render timing. -/
def applyPending (driver : Driver) : Driver :=
  match driver.pending with
  | none => driver
  | some millis =>
      { driver with
        pending := none
        render :=
          if driver.throttle then
            driver.render.withInterval (intervalOfFrameTime millis)
          else driver.render }

def applyNotice (driver : Driver) : List Log.Line :=
  match driver.pending with
  | none => []
  | some millis =>
      if driver.throttle then
        driver.render.intervalNotice (intervalOfFrameTime millis)
      else []

def statusLine (rate : Rate) (running : Bool) (measured : Option Binary64) :
    String :=
  (if running then "running" else "paused") ++ " | " ++ toString rate.cycles ++
    " cycles/frame | " ++ Decimal.fixed 1 rate.frameTime ++ "ms/frame" ++
    match measured with
    | none => ""
    | some hertz => " | " ++ Decimal.fixed 0 hertz ++ "Hz"

private def line (level : Log.Level) (message : String) : Log.Line :=
  ⟨level, Log.targetOf "driver", message⟩

def startedNotice : Log.Line := line .info "loop driver started"

def stepNotice (failure : Failure) : Log.Line :=
  line .error ("single step failed: " ++ failure.message)

end Driver

end Cadence
