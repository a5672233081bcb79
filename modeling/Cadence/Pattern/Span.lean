/-!
Places in the text of a pattern and the stretches between them.
-/

namespace Cadence.Pattern

/-- A place between two characters; lines and columns count from one. -/
structure Place where
  offset : Nat
  line : Nat
  column : Nat
deriving DecidableEq, Repr

namespace Place

def first : Place := ⟨0, 1, 1⟩

instance : Inhabited Place := ⟨first⟩

/-- The place behind a character; a line feed begins a line. -/
def after (place : Place) (c : Char) : Place :=
  if c = '\n' then ⟨place.offset + 1, place.line + 1, 1⟩
  else ⟨place.offset + 1, place.line, place.column + 1⟩

end Place

/-- What lies between two places. -/
structure Span where
  start : Place
  stop : Place
deriving DecidableEq, Repr

namespace Span

instance : Inhabited Span := ⟨⟨.first, .first⟩⟩

/-- A place as a stretch without length. -/
def point (place : Place) : Span := ⟨place, place⟩

def isOneLine (span : Span) : Bool := span.start.line == span.stop.line

/-- Whether one stretch comes before another one, or is that one. -/
def before (a b : Span) : Bool :=
  a.start.offset < b.start.offset ||
    (a.start.offset == b.start.offset && a.stop.offset ≤ b.stop.offset)

end Span

end Cadence.Pattern
