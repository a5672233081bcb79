import Cadence.Controls.Keystroke

/-!
Names of keys: a character stands for itself, other keys have names, and
modifiers stand in front of either.
-/

namespace Cadence.KeyName

/-- The keys with names, and what they send. -/
def named : List (String × String) :=
  [("esc", "\x1b"), ("enter", "\r"), ("tab", "\t"), ("backtab", "\x1b[Z"),
    ("backspace", "\x7f"), ("up", "\x1b[A"), ("down", "\x1b[B"),
    ("left", "\x1b[D"), ("right", "\x1b[C"), ("home", "\x1b[H"),
    ("end", "\x1b[F"), ("insert", "\x1b[2~"), ("delete", "\x1b[3~"),
    ("pageup", "\x1b[5~"), ("pagedown", "\x1b[6~"), ("f1", "\x1bOP"),
    ("f2", "\x1bOQ"), ("f3", "\x1bOR"), ("f4", "\x1bOS"),
    ("mouse", "\x1b[<0;3;4M")]

def withControl (c : Char) : Char :=
  if '4' ≤ c && c ≤ '7' then Char.ofNat (c.toNat - '4'.toNat + 0x1c)
  else Char.ofNat (c.toNat % 32)

def typed : List Char → List Char
  | ['c', 't', 'r', 'l', '-', c] => [withControl c]
  | 'a' :: 'l' :: 't' :: '-' :: c :: rest => '\x1b' :: typed (c :: rest)
  | name => ((named.lookup (String.ofList name)).map String.toList).getD name

/-- The events of a key that is pressed by itself. -/
def events (name : List Char) : List TerminalEvent :=
  Keystroke.events (typed name)

end Cadence.KeyName
