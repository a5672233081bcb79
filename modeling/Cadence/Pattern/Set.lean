import Cadence.Pattern.Escape

/-!
Reading sets of characters between brackets.  Brackets may stand inside brackets,
and doubled signs combine what stands on their left with what follows.
-/

namespace Cadence.Pattern

/-- A set that is being read. -/
structure OpenSet where
  /-- What opens it. -/
  span : Span
  negated : Bool
  /-- What stands in front of the last sign that combines sets. -/
  left : Option (SetOperation × SetTree)
  /-- What has been read since, the last one first. -/
  items : List SetTree
  /-- Where that begins. -/
  point : Place

namespace OpenSet

def push (item : SetTree) (level : OpenSet) : OpenSet :=
  { level with items := item :: level.items }

/-- What has been read since the last sign that combines sets. -/
def union (level : OpenSet) : SetTree :=
  match level.items with
  | [] => .empty (.point level.point)
  | [item] => item
  | last :: rest =>
      let first := rest.getLastD last
      .union (last :: rest).reverse ⟨first.span.start, last.span.stop⟩

/-- All that has been read. -/
def value (level : OpenSet) : SetTree :=
  let right := level.union
  match level.left with
  | none => right
  | some (operation, left) =>
      .combined operation left right ⟨left.span.start, right.span.stop⟩

end OpenSet

namespace Reading

def posixNames : List String :=
  ["alnum", "alpha", "ascii", "blank", "cntrl", "digit", "graph", "lower",
    "print", "punct", "space", "upper", "word", "xdigit"]

/-- A set with a name between colons, if one comes next. -/
def posix? (cursor : Cursor) : Option (SetTree × Cursor) :=
  match cursor.rest with
  | '[' :: ':' :: rest =>
      let negated := rest.head? = some '^'
      let text := if negated then rest.drop 1 else rest
      let name := text.takeWhile (· ≠ ':')
      let length := 2 + (if negated then 1 else 0) + name.length + 2
      if [':', ']'].isPrefixOf (text.drop name.length) &&
          posixNames.contains (String.ofList name) then
        let behind := cursor.advance length
        some (.posix (String.ofList name) negated ⟨cursor.place, behind.place⟩,
          behind)
      else none
  | _ => none

/-- Reads minus signs at the beginning of a set, which stand for themselves. -/
def leadingMinus (start : Place) (level : OpenSet) : Nat → Reading OpenSet
  | 0 => return level
  | limit + 1 => do
      if (← peek) = some '-' then
        let span := (← get).charSpan
        if !(← skipOn) then fail .setUnclosed (.point start)
        else
          leadingMinus start (level.push (.atom (.literal ⟨'-', false, span⟩)))
            limit
      else return level

/-- Reads a closing bracket at the beginning of a set, which stands for itself. -/
def leadingBracket (start : Place) (level : OpenSet) : Reading OpenSet := do
  if level.items.isEmpty && (← peek) = some ']' then
    let span := (← get).charSpan
    if !(← skipOn) then fail .setUnclosed (← spanFrom start)
    else return level.push (.atom (.literal ⟨']', false, span⟩))
  else return level

def openSet : Reading OpenSet := do
  let start ← place
  if !(← skipOn) then fail .setUnclosed (← spanFrom start)
  else
    let negated := (← peek) = some '^'
    let more ← if negated then skipOn else pure true
    if !more then fail .setUnclosed (← spanFrom start)
    else
      let point ← place
      let level ← leadingMinus start ⟨.point start, negated, none, [], point⟩
        (← get).rest.length
      let level ← leadingBracket start level
      let span ← spanFrom start
      return { level with span }

/-- Reads a character of a set, or what a backslash introduces. -/
def setAtom (level : OpenSet) : Reading Atom := do
  match ← peek with
  | none => fail .setUnclosed level.span
  | some '\\' => escape
  | some c => plain c

def memberOf (atom : Atom) : Reading SetTree :=
  match atom with
  | .dot span => fail .setEscapeInvalid span
  | .condition _ span => fail .setEscapeInvalid span
  | _ => return .atom atom

def rangeEnd (atom : Atom) : Reading Literal :=
  match atom with
  | .literal literal => return literal
  | _ => fail .setRangeLiteral atom.span

/-- Reads one character of a set or a range of them. -/
def setRange (level : OpenSet) : Reading SetTree := do
  let first ← setAtom level
  modify Cursor.skipBlank
  let cursor ← get
  if cursor.atEnd then fail .setUnclosed level.span
  else if cursor.rest.head? ≠ some '-' || cursor.beyond? = some ']' ||
      cursor.beyond? = some '-' then memberOf first
  else if !(← skipOn) then fail .setUnclosed level.span
  else
    let last ← setAtom level
    let low ← rangeEnd first
    let high ← rangeEnd last
    if low.char ≤ high.char then return .range low high
    else fail .setRangeInvalid ⟨low.span.start, high.span.stop⟩

def operations : List (String × SetOperation) :=
  [("&&", .both), ("--", .without), ("~~", .either)]

/-- Reads a sign that combines sets, if one comes next. -/
def operation? : List (String × SetOperation) → Reading (Option SetOperation)
  | [] => return none
  | (sign, operation) :: rest => do
      if ← accept sign then return some operation else operation? rest

/-- Reads a set to its end, inside the ones that are open around it, the innermost
one first. -/
def setFrom (level : OpenSet) (outer : List OpenSet) : Nat → Reading SetTree
  | 0 => fail .setUnclosed level.span
  | limit + 1 => do
      modify Cursor.skipBlank
      match ← peek with
      | none => fail .setUnclosed level.span
      | some '[' =>
          match posix? (← get) with
          | some (item, cursor) =>
              set cursor
              setFrom (level.push item) outer limit
          | none => setFrom (← openSet) (level :: outer) limit
      | some ']' =>
          skip
          let closed := SetTree.bracketed level.value level.negated
            (← spanFrom level.span.start)
          match outer with
          | [] => return closed
          | around :: outer => setFrom (around.push closed) outer limit
      | some _ =>
          match ← operation? operations with
          | some operation =>
              setFrom
                { level with
                  left := some (operation, level.value)
                  items := []
                  point := ← place }
                outer limit
          | none => setFrom (level.push (← setRange level)) outer limit

def bracketSet : Reading SetTree := do
  let length := (← get).rest.length
  setFrom (← openSet) [] length

end Reading

end Cadence.Pattern
