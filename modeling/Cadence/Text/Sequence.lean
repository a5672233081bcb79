/-!
Text without terminal sequences: what is left of a text once everything is taken
out that a terminal would obey instead of show.
-/

namespace Cadence.Text

/-- How far a terminal sequence has been read. -/
inductive SequenceState
  /-- Not in a sequence. -/
  | outside
  | escape
  | escapeMiddle
  /-- A control sequence, up to its final letter. -/
  | control
  /-- A device sequence: its beginning, its parameters, what follows these, its
  data, and one that is not understood. -/
  | device
  | deviceParameter
  | deviceMiddle
  | deviceData
  | deviceIgnored
  /-- A message, which nobody reads. -/
  | message
  /-- A command for the system around the terminal, such as a title. -/
  | command
deriving DecidableEq, Repr

namespace SequenceState

/-- Controls that separate words or lines. -/
def isSeparator (c : Char) : Bool :=
  c == '\t' || c == '\n' || c == '\x0c' || c == '\r'

/-- The continuation bytes of a character end with this one, or contain it. -/
def stringEnd : UInt8 := 0x9c

/-- Whether a character ends a string of the terminal: one of its bytes is the
mark for that. -/
def endsString (c : Char) : Bool :=
  0x80 ≤ c.toNat && (String.singleton c).toUTF8.data.contains stringEnd

def afterEscape (code : Nat) : SequenceState :=
  if 0x20 ≤ code && code ≤ 0x2f then .escapeMiddle
  else if code == 0x5b then .control
  else if code == 0x5d then .command
  else if code == 0x50 then .device
  else if code == 0x58 || code == 0x5e || code == 0x5f then .message
  else .outside

def afterDevice (state : SequenceState) (code : Nat) : SequenceState :=
  if 0x40 ≤ code then .deviceData
  else if 0x20 ≤ code && code ≤ 0x2f then .deviceMiddle
  else if state == .deviceMiddle || (state == .deviceParameter && 0x3c ≤ code) then
    .deviceIgnored
  else .deviceParameter

/-- The next state, and whether the character is shown. -/
def step (state : SequenceState) (c : Char) : SequenceState × Bool :=
  let code := c.toNat
  if state == .outside && 0x80 ≤ code then (.outside, true)
  else if code == 0x1b then (.escape, false)
  else if code == 0x18 || code == 0x1a then (.outside, false)
  else
    match state with
    | .outside => (.outside, isSeparator c || (0x20 ≤ code && code < 0x7f))
    | .escape =>
        if isSeparator c then (.outside, true)
        else if code < 0x20 || 0x7f ≤ code then (.escape, false)
        else (afterEscape code, false)
    | .escapeMiddle =>
        if isSeparator c then (.outside, true)
        else if 0x30 ≤ code && code < 0x7f then (.outside, false)
        else (.escapeMiddle, false)
    | .control =>
        if isSeparator c then (.outside, true)
        else if 0x40 ≤ code && code < 0x7f then (.outside, false)
        else (.control, false)
    | .deviceData => (if endsString c then .outside else .deviceData, false)
    | .message => (if endsString c then .outside else .message, false)
    | .command => (if code == 0x07 then .outside else .command, false)
    | .deviceIgnored => (.deviceIgnored, false)
    | state =>
        if 0x20 ≤ code && code < 0x7f then (afterDevice state code, false)
        else (state, false)

end SequenceState

/-- What is shown of a text that begins in some state. -/
def shownFrom (state : SequenceState) : List Char → List Char
  | [] => []
  | c :: rest =>
      let (next, shown) := state.step c
      if shown then c :: shownFrom next rest else shownFrom next rest

def shownOnly (text : List Char) : List Char := shownFrom .outside text

end Cadence.Text
