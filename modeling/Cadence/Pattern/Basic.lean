import Cadence.Pattern.Letters

/-!
Patterns and the texts they occur in.  Matching keeps the places that can be reached:
one mark for each place between the characters of a text, the ends included.
-/

namespace Cadence

namespace Pattern

/-- A condition on the characters on both sides of a place; a missing one is an end of
the text. -/
inductive Gap
  | textStart
  | textEnd
  | lineStart
  | lineEnd
  /-- The beginning of a line where carriage returns end lines too. -/
  | returnStart
  /-- The end of such a line. -/
  | returnEnd
  /-- How the characters of words stand around the place. -/
  | word (side : WordSide) (letters : Letters)
deriving DecidableEq, Repr

/-- Whether a condition holds between two characters.  A carriage return and a line
feed behind it end one line together. -/
def Gap.holds (gap : Gap) (before after : Option Char) : Bool :=
  match gap with
  | .textStart => before.isNone
  | .textEnd => after.isNone
  | .lineStart => before.isNone || before == some '\n'
  | .lineEnd => after.isNone || after == some '\n'
  | .returnStart =>
      before.isNone || before == some '\n' ||
        (before == some '\r' && after != some '\n')
  | .returnEnd =>
      after.isNone || after == some '\r' ||
        (after == some '\n' && before != some '\r')
  | .word side letters =>
      side.holds (before.any letters.accepts) (after.any letters.accepts)

end Pattern

/-- What a text is searched for. -/
inductive Pattern
  | empty
  | letter (letters : Pattern.Letters)
  | gap (condition : Pattern.Gap)
  | sequence (first second : Pattern)
  | choice (first second : Pattern)
  /-- At least so often, and at most so often if there is a limit. -/
  | repeated (inner : Pattern) (least : Nat) (most : Option Nat)
deriving DecidableEq, Repr

namespace Pattern

/-- Marks for the places of a text. -/
abbrev Marks := List Bool

def Marks.union (left right : Marks) : Marks := List.zipWith or left right

/-- The places behind characters of a set that are at places with a mark. -/
def passLetter (letters : Letters) (text : List Char) (marks : Marks) : Marks :=
  false :: List.zipWith (fun c mark => mark && letters.accepts c) text marks

/-- Whether a condition holds at the places of a text, where `before` is the
character in front of it. -/
def gapMarks (gap : Gap) (before : Option Char) : List Char → Marks
  | [] => [gap.holds before none]
  | c :: rest => gap.holds before (some c) :: gapMarks gap (some c) rest

def times (step : Marks → Marks) : Nat → Marks → Marks
  | 0, marks => marks
  | count + 1, marks => times step count (step marks)

/-- The places reached by doing something at most so often; it is over once nothing
new is reached. -/
def spread (step : Marks → Marks) : Nat → Marks → Marks
  | 0, marks => marks
  | count + 1, marks =>
      let more := marks.union (step marks)
      if more = marks then marks else spread step count more

/-- The places of a text that a pattern reaches from those with a mark.  A repetition
that is longer than the text reaches nothing new, since a round that does not move
on can be left out or done again. -/
def reach (text : List Char) : Pattern → Marks → Marks
  | .empty, marks => marks
  | .letter letters, marks => passLetter letters text marks
  | .gap condition, marks => List.zipWith and (gapMarks condition none text) marks
  | .sequence first second, marks => second.reach text (first.reach text marks)
  | .choice first second, marks =>
      (first.reach text marks).union (second.reach text marks)
  | .repeated inner least most, marks =>
      let bound := text.length + 1
      let begun := times (fun marks => inner.reach text marks) (min least bound) marks
      let further :=
        match most with
        | none => bound
        | some most => min (most - least) bound
      spread (fun marks => inner.reach text marks) further begun

def occursIn (pattern : Pattern) (text : List Char) : Bool :=
  (pattern.reach text (List.replicate (text.length + 1) true)).any id

def sequenceOf (parts : List Pattern) : Pattern := parts.foldr sequence empty

/-- One of some branches; a pattern that never matches if there is none. -/
def choiceOf (branches : List Pattern) : Pattern :=
  match branches with
  | [] => letter .none
  | first :: rest => rest.foldl choice first

end Pattern

end Cadence
