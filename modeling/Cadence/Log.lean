import Cadence.Text.Lines
import Cadence.Text.Sequence

/-!
Log lines: a level, the target they are logged under, and a message.
-/

namespace Cadence.Log

/-- How urgent a line is. -/
inductive Level
  | error
  | warn
  | info
  | debug
  | trace
deriving DecidableEq, Repr

/-- Levels count up from the most urgent one. -/
def Level.rank : Level → Nat
  | .error => 1
  | .warn => 2
  | .info => 3
  | .debug => 4
  | .trace => 5

def Level.name : Level → String
  | .error => "ERROR"
  | .warn => "WARN"
  | .info => "INFO"
  | .debug => "DEBUG"
  | .trace => "TRACE"

/-- All levels, the most urgent one first. -/
def Level.all : List Level := [.error, .warn, .info, .debug, .trace]

/-- One logged line. -/
structure Line where
  level : Level
  target : String
  message : String
deriving DecidableEq, Repr

/-- What stands in front of a message, with and without the target. -/
def Line.heading (line : Line) : String := line.level.name ++ " " ++ line.target
def Line.briefHeading (line : Line) : String := line.level.name

/-- How far the later lines of a message stand in. -/
def indentation : List Char := List.replicate 4 ' '

/-- A message whose later lines stand in. -/
def indented (message : List Char) : List Char :=
  message.flatMap fun c => if c = '\n' then '\n' :: indentation else [c]

/-- What is written for a line: the heading, the message, and an end, without
terminal sequences. -/
def Line.written (heading : Line → String) (line : Line) : List Char :=
  Text.shownOnly
    ((heading line ++ " ").toList ++ indented line.message.toList ++ ['\n'])

/-- The lines that are written for logged lines, headed without their targets. -/
def briefs (lines : List Line) : List String :=
  Text.linesOf (lines.flatMap (Line.written Line.briefHeading))

/-- The target of lines logged by a part of the program. -/
def targetOf (part : String) : String := "chip8_pacer::" ++ part

end Cadence.Log
