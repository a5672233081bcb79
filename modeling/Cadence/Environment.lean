import Cadence.Decimal.Reader
import Cadence.Rate
import Cadence.Refresh.Deadline
import Cadence.Refresh.Meter
import Cadence.Text.Blank
import Cadence.Text.Quoted

/-!
Settings from environment variables.  A variable that is unset, or whose value
is no text, leaves the default; a value that does not read, or that makes no
sense, is reported and leaves the default or the smallest usable value.
-/

namespace Cadence

/-- Variables with the bytes of their values. -/
abbrev Environment := List (String × ByteArray)

namespace Environment

def bytes? (environment : Environment) (name : String) : Option ByteArray :=
  environment.lookup name

/-- The text of a variable; nothing if its bytes are not valid UTF-8. -/
def text? (environment : Environment) (name : String) : Option String :=
  (environment.bytes? name).bind String.fromUTF8?

def cyclesVariable : String := "CHIP8_CYCLES_PER_FRAME"
def frameTimeVariable : String := "CHIP8_FRAME_TIME_MS"
def refreshVariable : String := "CHIP8_PACER_REFRESH_HZ"
def logFileVariable : String := "CHIP8_PACER_LOG_FILE"
def filterVariable : String := "RUST_LOG"

/-- A setting, and what was logged while it was read. -/
structure Reading (α : Type) where
  value : α
  log : List Log.Line

/-- What is logged about a value that does not read. -/
def unreadable (name value : String) : Log.Line :=
  ⟨.warn, Log.targetOf "config",
    "ignoring " ++ name ++ "=" ++ Text.quoted value ++ ": not a valid value"⟩

/-- Reads a variable, white space around its value not counting. -/
def read {α : Type} (environment : Environment) (name : String)
    (reader : List Char → Option α) : Reading (Option α) :=
  match environment.text? name with
  | none => ⟨none, []⟩
  | some value =>
      match reader (Text.trim value.toList) with
      | none => ⟨none, [unreadable name value]⟩
      | some a => ⟨some a, []⟩

def rate (environment : Environment) : Reading Rate :=
  let cycles := environment.read cyclesVariable Decimal.readInt64?
  let frameTime := environment.read frameTimeVariable Decimal.readBinary64?
  { value :=
      { cycles := (cycles.value.map Rate.clampCycles).getD Rate.initial.cycles
        frameTime :=
          (frameTime.value.map Rate.clampFrameTime).getD Rate.initial.frameTime }
    log :=
      cycles.log ++ cycles.value.toList.flatMap Rate.cyclesComplaint ++
        frameTime.log ++ frameTime.value.toList.flatMap Rate.frameTimeComplaint }

/-- How refreshes are offered and measured. -/
structure RefreshSettings where
  hertz : Binary64
  reportInterval : Nat

/-- Sixty refreshes per second, measured over a second. -/
def RefreshSettings.standard : RefreshSettings :=
  ⟨Binary64.ofNat 60, RateMeter.standard.window⟩

/-- What is logged about a refresh rate that is no positive number. -/
def refreshComplaint (hertz : Binary64) : Log.Line :=
  ⟨.warn, Log.targetOf "host",
    "ignoring " ++ refreshVariable ++ "=" ++ Decimal.plain hertz ++
      ": must be positive"⟩

def refresh (environment : Environment) : Reading RefreshSettings :=
  let standard := RefreshSettings.standard
  let hertz := environment.read refreshVariable Decimal.readBinary64?
  match hertz.value with
  | none => ⟨standard, hertz.log⟩
  | some value =>
      if value.isFinite && Binary64.lt 0 value then
        ⟨{ standard with hertz := value }, hertz.log⟩
      else ⟨standard, hertz.log ++ [refreshComplaint value]⟩

def logFile? (environment : Environment) : Option ByteArray :=
  environment.bytes? logFileVariable

end Environment

end Cadence
