/-!
Labels of code points.  A label holds from the code point at which it is written
down up to the next one that is.
-/

namespace Cadence.Text

/-- A labelling of code points, as the beginnings of its runs in ascending
order. -/
structure Runs (Label : Type) where
  starts : Array (Nat × Label)

namespace Runs

/-- The position of the last beginning that is not beyond a code point, of those
from `low` to before `high`. -/
def position (starts : Array (Nat × Label)) (code low high : Nat) : Nat :=
  if low + 1 < high then
    let middle := (low + high) / 2
    if (starts[middle]?).any fun start => start.1 ≤ code then
      position starts code middle high
    else position starts code low middle
  else low
termination_by high - low
decreasing_by all_goals omega

def label? (runs : Runs Label) (code : Nat) : Option Label :=
  (runs.starts[position runs.starts code 0 runs.starts.size]?).map Prod.snd

/-- The words of a text between blanks and ends of lines. -/
def words (text : List Char) : List (List Char) :=
  (text.foldr
    (fun c words =>
      if c == ' ' || c == '\n' then [] :: words
      else
        match words with
        | [] => [[c]]
        | first :: rest => (c :: first) :: rest)
    [[]]).filter fun word => !word.isEmpty

/-- The value of a hexadecimal digit in upper case. -/
def hexValue (c : Char) : Nat :=
  if c.isDigit then c.toNat - '0'.toNat else c.toNat - 'A'.toNat + 10

def hexNumber (digits : List Char) : Nat :=
  digits.foldl (fun value c => 16 * value + hexValue c) 0

/-- Reads beginnings and labels in turn; a label that is none is left out. -/
def ofWords (read : String → Option Label) :
    List (List Char) → List (Nat × Label)
  | start :: label :: rest =>
      match read (String.ofList label) with
      | some label => (hexNumber start, label) :: ofWords read rest
      | none => ofWords read rest
  | _ => []

/-- The labelling that a text writes down, beginnings in hexadecimal. -/
def ofText (read : String → Option Label) (text : String) : Runs Label :=
  ⟨(ofWords read (words text.toList)).toArray⟩

end Runs

/-- Whether one of some closed ranges holds a code point. -/
def inRanges (ranges : List (Nat × Nat)) (code : Nat) : Bool :=
  ranges.any fun (first, last) => first ≤ code && code ≤ last

end Cadence.Text
