import Cadence.Pattern.Fault
import Cadence.Text.Blank

/-!
Reading the text of a pattern: what is left of it, the place reached, and whether
white space and comments between the parts are skipped.
-/

namespace Cadence.Pattern

/-- How far a text has been read. -/
structure Cursor where
  rest : List Char
  place : Place
  /-- Whether white space and comments count for nothing. -/
  spaced : Bool
deriving Repr

namespace Cursor

def start (text : List Char) : Cursor := ⟨text, .first, false⟩

def atEnd (cursor : Cursor) : Bool := cursor.rest.isEmpty

def advance (count : Nat) (cursor : Cursor) : Cursor :=
  { cursor with
    rest := cursor.rest.drop count
    place := (cursor.rest.take count).foldl Place.after cursor.place }

/-- How many characters of white space and comments a text begins with.  A comment
goes from a number sign to the end of the line. -/
def blankLength (inComment : Bool) : List Char → Nat
  | [] => 0
  | c :: rest =>
      if inComment then 1 + blankLength (c ≠ '\n') rest
      else if Text.isBlank c then 1 + blankLength false rest
      else if c = '#' then 1 + blankLength true rest
      else 0

/-- Passes over white space and comments, where they count for nothing. -/
def skipBlank (cursor : Cursor) : Cursor :=
  if cursor.spaced then cursor.advance (blankLength false cursor.rest) else cursor

/-- Passes over a character and what counts for nothing behind it. -/
def next (cursor : Cursor) : Cursor := (cursor.advance 1).skipBlank

def charSpan (cursor : Cursor) : Span :=
  ⟨cursor.place, (cursor.advance 1).place⟩

def spanFrom (cursor : Cursor) (start : Place) : Span := ⟨start, cursor.place⟩

/-- The cursor behind a text that comes next, if it does. -/
def past? (text : String) (cursor : Cursor) : Option Cursor :=
  if text.toList.isPrefixOf cursor.rest then some (cursor.advance text.length)
  else none

/-- The character behind the next one; white space and number signs in between
count for nothing where white space does. -/
def beyond? (cursor : Cursor) : Option Char :=
  let following := cursor.rest.drop 1
  if cursor.spaced then
    let significant := following.dropWhile Text.isBlank
    let significant :=
      match significant with
      | '#' :: rest => rest.dropWhile Text.isBlank
      | _ => significant
    match significant with
    | c :: _ => some c
    | [] => following.head?
  else following.head?

end Cursor

/-- Reads a part of a text, unless something is wrong there. -/
abbrev Reading (α : Type) := StateT Cursor (Except Fault) α

namespace Reading

def fail (cause : Cause) (span : Span) : Reading α :=
  throw ⟨cause, span, none⟩

/-- Ends reading with a fault that repeats something. -/
def failAgain (cause : Cause) (span earlier : Span) : Reading α :=
  throw ⟨cause, span, some earlier⟩

def peek : Reading (Option Char) := do return (← get).rest.head?

def place : Reading Place := do return (← get).place

def skip : Reading Unit := modify (·.advance 1)

/-- Passes over the next character and what counts for nothing behind it; whether
there is more. -/
def skipOn : Reading Bool := do
  modify Cursor.next
  return !(← get).atEnd

/-- Whether a text comes next; if so, it is passed over. -/
def accept (text : String) : Reading Bool := do
  match (← get).past? text with
  | some cursor =>
      set cursor
      return true
  | none => return false

def spanFrom (start : Place) : Reading Span := do return (← get).spanFrom start

end Reading

end Cadence.Pattern
