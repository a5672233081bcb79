import Cadence.Controls.Command
import Cadence.Log

/-!
Sources of commands.  Events wait in the order they arrived until the source is
read; reading turns them into buffered commands.  The first reading opens the
source.
-/

namespace Cadence

/-- Events not read yet, and commands read but not flushed. -/
structure Input where
  waiting : List TerminalEvent
  buffer : List Command
  /-- Whether it has been read before. -/
  opened : Bool
deriving DecidableEq, Repr

namespace Input

/-- A source that has been read and holds nothing. -/
def empty : Input := ⟨[], [], true⟩

/-- A source that nobody has read yet. -/
def fresh : Input := ⟨[], [], false⟩

instance : Inhabited Input := ⟨empty⟩

/-- A source that holds some commands from the start. -/
def ofCommands (commands : List Command) : Input := ⟨[], commands, true⟩

def arrive (input : Input) (events : List TerminalEvent) : Input :=
  { input with waiting := input.waiting ++ events }

/-- Reads everything that has arrived. -/
def readEvents (input : Input) : Input where
  waiting := []
  buffer := input.buffer ++ input.waiting.filterMap TerminalEvent.command?
  opened := true

/-- All commands so far, which stay buffered. -/
def peek (input : Input) : List Command × Input :=
  let read := input.readEvents
  (read.buffer, read)

/-- Drops all commands so far, also those that nobody has looked at. -/
def flush (input : Input) : Input :=
  { input.readEvents with buffer := [] }

/-- Takes all commands out of a source: a look at them, then a flush.  `amid` is
what arrives between the two. -/
def pump (input : Input) (amid : List TerminalEvent) : List Command × Input :=
  let (commands, peeked) := input.peek
  (commands, (peeked.arrive amid).flush)

/-- A flush leaves neither commands nor events. -/
theorem flush_eq_empty (input : Input) : input.flush = empty := rfl

/-- What arrives between the look and the flush of a pump is lost. -/
theorem pump_eq (input : Input) (amid : List TerminalEvent) :
    input.pump amid = (input.peek.1, empty) := rfl

private def line (level : Log.Level) (message : String) : Log.Line :=
  ⟨level, Log.targetOf "input", message⟩

/-- What is logged when a source is opened: what is typed and changes of the size
are watched for. -/
def openingNotices : List Log.Line :=
  ["Token(0)", "Token(1)"].map fun token =>
    ⟨.trace, "mio::poll",
      "registering event source with poller: token=" ++ token ++
        ", interests=READABLE"⟩

def eventNotice? (event : TerminalEvent) : Option Log.Line :=
  match event with
  | .key code control =>
      if (Command.ofKey? code control).isSome then none
      else some (line .debug ("unmapped key " ++ code.describe))
  | .mouse report =>
      some (line .trace ("ignoring terminal event " ++ report.describe))

def readNotices (input : Input) : List Log.Line :=
  (if input.opened then [] else openingNotices) ++
    input.waiting.filterMap eventNotice?

end Input

end Cadence
