/-!
Lines of a text.
-/

namespace Cadence.Text

/-- The lines of a text, where `current` has been read in reverse.  A line ends
with a line feed, perhaps with a carriage return in front of it. -/
def linesFrom (current : List Char) : List Char → List (List Char)
  | [] => if current.isEmpty then [] else [current.reverse]
  | '\n' :: rest =>
      let line := if current.head? = some '\r' then current.drop 1 else current
      line.reverse :: linesFrom [] rest
  | c :: rest => linesFrom (c :: current) rest

/-- The lines of a text, each without its end. -/
def linesOf (text : List Char) : List String :=
  (linesFrom [] text).map String.ofList

end Cadence.Text
