import Cadence.Controls.Keystroke
import Cadence.Environment
import Cadence.Log.Destination
import Cadence.Log.Logger
import Cadence.Rig.Perform
import Cadence.Text.Lossy

/-!
The demonstration program: a test card in a terminal, paced by the settings of
the environment and controlled by the keyboard, from its start to the key that
quits it.
-/

namespace Cadence.Session

open Exec

/-- What a session starts with. -/
structure Setting where
  environment : Environment
  /-- The characters that have been typed. -/
  typed : List Char
  /-- Whether there is a terminal to take over. -/
  hasTerminal : Bool
  /-- What becomes of opening the log file. -/
  opening : Log.Opening

/-- What a session leaves. -/
structure Outcome where
  exitCode : Nat
  /-- The rows of the screen as they stood at the end. -/
  screen : List String
  errorText : List String
  fileText : List String

def logRequest (setting : Setting) : Log.Request where
  filter := none
  environmentFilter := setting.environment.text? Environment.filterVariable
  file := setting.environment.logFile?.map fun path =>
    ⟨Text.lossy path, setting.opening⟩

def startNotice (rate : Rate) (hertz : Binary64) : Log.Line :=
  ⟨.info, "chip8_pacer",
    "starting: " ++ toString rate.cycles ++ " cycles/frame, " ++
      Decimal.fixed 2 rate.frameTime ++ "ms/frame, refresh " ++
      Decimal.plain hertz ++ "Hz"⟩

def pumpCourse : Course := fun _ _ =>
  .order (.control (.pump .keyboard)) fun _ => .done .null

/-- The program's part on the rig: a started driver with its step tag, the
keyboard, and an event loop. -/
def program (keys : List TerminalEvent) (hertz : Binary64) : Script :=
  let display := Display.terminal (.blank ⟨TestCard.width, TestCard.height⟩
    (TestCard.width + 2) (TestCard.height + 2))
  let card := Machine.card (.fresh TestCard.standardCyclesPerShift)
  .order (.driver (.newEmulator card)) fun _ =>
  .order (.driver (.newDriver 0 display .standard .still)) fun driver =>
  .order (.driver (.start driver)) fun _ =>
  .order (.driver (.registerStep driver 0)) fun tag =>
  .order (.control (.setStep (tag.getD ⟨0⟩))) fun _ =>
  .routine pumpCourse fun pump =>
  .order (.refresh (.recur pump)) fun _ =>
  .order (.control (.arrive keys)) fun _ =>
  .order (.loop (.run hertz 0)) fun _ =>
  .order (.driver (.dropHandle driver)) fun _ =>
  .done .null

def shownRows (display : Display) : List String :=
  match display with
  | .terminal screen => screen.picture
  | _ => []

/-- What is said about a terminal that cannot be taken over. -/
def terminalError : List String :=
  ["Error: failed to set up the terminal", "", "Caused by:",
    "    No such device or address (os error 6)"]

def run (setting : Setting) : Outcome :=
  let rate := setting.environment.rate
  let refresh := setting.environment.refresh
  let logger := ((Log.Logger.setUp (logRequest setting)).writeAll
    (rate.log ++ refresh.log)).write
      (startNotice rate.value refresh.value.hertz)
  if setting.hasTerminal then
    let (_, rig) := Script.play (program (Keystroke.events setting.typed) refresh.value.hertz)
      (.fresh rate.value refresh.value.reportInterval)
    let logger := logger.writeAll <| rig.journal.reverse.filterMap fun event =>
      match event with
      | .logged line => some line
      | _ => none
    { exitCode := 0
      screen := shownRows (rig.driver 0).display
      errorText := logger.errorText
      fileText := logger.fileText }
  else
    { exitCode := 1
      screen := []
      errorText := logger.errorText ++ terminalError
      fileText := logger.fileText }

end Cadence.Session
