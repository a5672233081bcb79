import Cadence.Controls.Command
import Cadence.Text.Parts

/-!
What a terminal sends for keys.  Most keys send one character; the others send an
escape character and more behind it.  Characters are read one by one, and every
event takes as many as it needs; what is no key is dropped.
-/

namespace Cadence.Keystroke

/-- What the characters since the last event come to. -/
inductive Reading
  /-- More characters must follow. -/
  | unfinished
  | event (event : TerminalEvent)
  /-- They mean nothing here. -/
  | meaningless
deriving DecidableEq, Repr

/-- A key without modifiers that matter. -/
def Reading.ofName (name : String) : Reading := .event (.key (.named name) false)

def Reading.function (number : Nat) : Reading :=
  .ofName ("F(" ++ toString number ++ ")")

def Reading.ofMouse? : Option Mouse → Reading
  | some report => .event (.mouse report)
  | none => .meaningless

/-- A key that sends one character.  Those below the blank are characters with
control, unless they have a key of their own. -/
def plain (c : Char) : Reading :=
  let code := c.toNat
  let withControl (first base : Nat) : Reading :=
    .event (.key (.char (Char.ofNat (code - first + base))) true)
  if c = '\r' then .ofName "Enter"
  else if c = '\t' then .ofName "Tab"
  else if c = '\x7f' then .ofName "Backspace"
  else if code = 0 then .event (.key (.char ' ') true)
  else if code ≤ 0x1a then withControl 1 'a'.toNat
  else if 0x1c ≤ code && code ≤ 0x1f then withControl 0x1c '4'.toNat
  else .event (.key (.char c) false)

/-- Keys that send a letter behind a bracket. -/
def letterKeys : List (Char × String) :=
  [('A', "Up"), ('B', "Down"), ('C', "Right"), ('D', "Left"), ('F', "End"),
    ('H', "Home"), ('Z', "BackTab")]

/-- Keys that send a letter behind a bracket and numbers. -/
def modifiedKeys : List (Char × String) :=
  [('A', "Up"), ('B', "Down"), ('C', "Right"), ('D', "Left"), ('F', "End"),
    ('H', "Home"), ('P', "F(1)"), ('Q', "F(2)"), ('R', "F(3)"), ('S', "F(4)")]

def named (keys : List (Char × String)) (c : Char) : Reading :=
  match keys.lookup c with
  | some name => .ofName name
  | none => .meaningless

/-- Keys that send a number. -/
def numbered (number : Nat) : Reading :=
  if number = 1 || number = 7 then .ofName "Home"
  else if number = 2 then .ofName "Insert"
  else if number = 3 then .ofName "Delete"
  else if number = 4 || number = 8 then .ofName "End"
  else if number = 5 then .ofName "PageUp"
  else if number = 6 then .ofName "PageDown"
  else if 11 ≤ number && number ≤ 15 then .function (number - 10)
  else if 17 ≤ number && number ≤ 21 then .function (number - 11)
  else if 23 ≤ number && number ≤ 26 then .function (number - 12)
  else if number = 28 || number = 29 then .function (number - 15)
  else if 31 ≤ number && number ≤ 34 then .function (number - 17)
  else .meaningless

/-- A number below a limit in decimal digits. -/
def number? (limit : Nat) (digits : List Char) : Option Nat :=
  if digits.isEmpty || !digits.all Char.isDigit then none
  else
    let value := digits.foldl
      (fun value c => 10 * value + (c.toNat - '0'.toNat)) 0
    if value < limit then some value else none

/-- What a mouse reports in numbers between semicolons. -/
def mouse? (code : Nat → Option Nat) (text : List Char) : Option Mouse :=
  match Text.parts ';' text with
  | first :: column :: row :: _ => do
      Mouse.ofReport? (← code (← number? 256 first)) (← number? 65536 column)
        (← number? 65536 row)
  | _ => none

/-- A code that is sent with that of the blank added. -/
def lessBlank (code : Nat) : Option Nat :=
  if code < 32 then none else some (code - 32)

/-- What numbers and a last character behind a bracket come to. -/
def closed (numbers : List Char) (last : Char) : Reading :=
  match last with
  | 'M' => .ofMouse? (mouse? lessBlank numbers)
  | '~' =>
      match number? 256 ((Text.parts ';' numbers).headD []) with
      | some number => numbered number
      | none => .meaningless
  | _ => named modifiedKeys last

/-- What follows an escape character and a bracket. -/
def bracketed : List Char → Reading
  | [] => .unfinished
  | ['['] => .unfinished
  | ['[', c] =>
      if 'A' ≤ c && c ≤ 'E' then .function (c.toNat - 'A'.toNat + 1)
      else .meaningless
  | ['M', code, column, row] =>
      .ofMouse? do
        Mouse.ofReport? (← lessBlank code.toNat) (column.toNat - 32)
          (row.toNat - 32)
  | 'M' :: _ => .unfinished
  | '<' :: rest =>
      match rest.reverse with
      | 'M' :: numbers => .ofMouse? (mouse? some numbers.reverse)
      | 'm' :: numbers =>
          .ofMouse? <| (mouse? some numbers.reverse).map fun report =>
            { report with act := report.act.released }
      | _ => .unfinished
  | [c] => if c.isDigit then .unfinished else named letterKeys c
  | text =>
      match text.reverse with
      | last :: numbers =>
          if 64 ≤ last.toNat && last.toNat ≤ 126 then closed numbers.reverse last
          else .unfinished
      | [] => .unfinished

/-- Reads characters; `more` says whether others have arrived behind them.  An
escape character alone is a key if nothing follows it, and marks a key with alt
otherwise, which makes no difference. -/
def read (more : Bool) : List Char → Reading
  | [] => .unfinished
  | ['\x1b'] => if more then .unfinished else .event (.key .escape false)
  | ['\x1b', 'O'] => .unfinished
  | ['\x1b', 'O', c] =>
      if 'P' ≤ c && c ≤ 'S' then .function (c.toNat - 'P'.toNat + 1)
      else .meaningless
  | '\x1b' :: '[' :: rest => bracketed rest
  | '\x1b' :: '\x1b' :: _ => .event (.key .escape false)
  | '\x1b' :: c :: _ => plain c
  | c :: _ => plain c

/-- The events of characters, where those in `held` have been read without coming
to one. -/
def eventsFrom (held : List Char) : List Char → List TerminalEvent
  | [] => []
  | c :: rest =>
      match read (!rest.isEmpty) (held ++ [c]) with
      | .unfinished => eventsFrom (held ++ [c]) rest
      | .event event => event :: eventsFrom [] rest
      | .meaningless => eventsFrom [] rest

/-- The events of some characters that arrive together. -/
def events (typed : List Char) : List TerminalEvent := eventsFrom [] typed

end Cadence.Keystroke
