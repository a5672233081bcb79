import Cadence.Controls.Mouse
import Cadence.Text.Quoted

/-!
Commands and the keys that give them.
-/

namespace Cadence

/-- What the keyboard can ask for. -/
inductive Command
  | toggleRunning
  /-- Run one frame now, even when paused. -/
  | step
  | moreCycles
  | fewerCycles
  | longerFrame
  | shorterFrame
  | quit
deriving DecidableEq, Repr

namespace Command

def all : List Command :=
  [.toggleRunning, .step, .moreCycles, .fewerCycles, .longerFrame,
    .shorterFrame, .quit]

def name : Command → String
  | .toggleRunning => "ToggleRunning"
  | .step => "Step"
  | .moreCycles => "MoreCycles"
  | .fewerCycles => "FewerCycles"
  | .longerFrame => "LongerFrame"
  | .shorterFrame => "ShorterFrame"
  | .quit => "Quit"

def ofName? (name : String) : Option Command :=
  all.find? fun command => command.name == name

def ofChar? : Char → Option Command
  | ' ' => some .toggleRunning
  | 'n' => some .step
  | '+' => some .moreCycles
  | '=' => some .moreCycles
  | '-' => some .fewerCycles
  | ']' => some .longerFrame
  | '[' => some .shorterFrame
  | 'q' => some .quit
  | _ => none

end Command

/-- What a key press reports. -/
inductive KeyCode
  | char (c : Char)
  | escape
  | named (name : String)
deriving DecidableEq, Repr

def KeyCode.describe : KeyCode → String
  | .char c =>
      let inside := if c == '\'' then "\\'" else if c == '"' then "\""
        else Text.quotedChar c
      "Char('" ++ inside ++ "')"
  | .escape => "Esc"
  | .named name => name

/-- Something that reaches the program from the terminal. -/
inductive TerminalEvent
  | key (code : KeyCode) (control : Bool)
  | mouse (report : Mouse)
deriving DecidableEq, Repr

/-- The command of a key: control with c and escape quit, other characters give
what they give, with or without control. -/
def Command.ofKey? (code : KeyCode) (control : Bool) : Option Command :=
  match code with
  | .char c => if c == 'c' && control then some .quit else Command.ofChar? c
  | .escape => some .quit
  | .named _ => none

def TerminalEvent.command? : TerminalEvent → Option Command
  | .key code control => Command.ofKey? code control
  | .mouse _ => none

end Cadence
