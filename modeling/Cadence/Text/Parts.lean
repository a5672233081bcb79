/-!
Parts of a text between marks.
-/

namespace Cadence.Text

/-- The parts of a text between marks; as many marks, one more parts. -/
def parts (mark : Char) (text : List Char) : List (List Char) :=
  text.foldr
    (fun c parts =>
      if c = mark then [] :: parts
      else
        match parts with
        | [] => [[c]]
        | first :: rest => (c :: first) :: rest)
    [[]]

end Cadence.Text
