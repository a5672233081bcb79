import Cadence.Pattern.Cursor
import Cadence.Pattern.Tree

/-!
Reading the single parts of a pattern: characters, and what a backslash makes of
the ones behind it.
-/

namespace Cadence.Pattern.Reading

/-- Reads characters as long as a condition holds, at most some. -/
def takeFrom (holds : Char → Bool) : Nat → Reading (List Char)
  | 0 => return []
  | limit + 1 => do
      match ← peek with
      | none => return []
      | some c =>
          if holds c then
            let _ ← skipOn
            return c :: (← takeFrom holds limit)
          else return []

def takeWhile (holds : Char → Bool) : Reading (List Char) := do
  takeFrom holds (← get).rest.length

def failHere (cause : Cause) : Reading α := do
  fail cause (.point (← place))

def failAtChar (cause : Cause) : Reading α := do
  fail cause (← get).charSpan

def isHexDigit (c : Char) : Bool :=
  c.isDigit || ('a' ≤ c && c ≤ 'f') || ('A' ≤ c && c ≤ 'F')

def hexValue (c : Char) : Nat :=
  if c.isDigit then c.toNat - '0'.toNat else c.toLower.toNat - 'a'.toNat + 10

def charOfHex (digits : List Char) (span : Span) : Reading Char :=
  let code := digits.foldl (fun code c => 16 * code + hexValue c) 0
  if code.isValidChar then return Char.ofNat code else fail .hexInvalid span

def hexDigits : Nat → Reading (List Char)
  | 0 => return []
  | count + 1 => do
      match ← peek with
      | none => failHere .escapeUnfinished
      | some c =>
          if isHexDigit c then
            let _ ← skipOn
            return c :: (← hexDigits count)
          else failAtChar .hexDigitInvalid

def bracedHex : Reading Char := do
  let brace ← place
  let start := (← get).charSpan.stop
  let _ ← skipOn
  let digits ← takeWhile isHexDigit
  match ← peek with
  | none => fail .escapeUnfinished (← spanFrom brace)
  | some '}' =>
      let span ← spanFrom start
      let _ ← skipOn
      if digits.isEmpty then fail .hexEmpty (← spanFrom brace)
      else charOfHex digits span
  | some _ => failAtChar .hexDigitInvalid

/-- Reads the number of a character behind the letter that announces it; `start` is
the place of the backslash. -/
def hexLiteral (start : Place) (letter : Char) : Reading Atom := do
  if !(← skipOn) then failHere .escapeUnfinished
  else
    if (← peek) = some '{' then
      let char ← bracedHex
      return .literal ⟨char, false, ← spanFrom start⟩
    else
      let digitsStart ← place
      let digits ← hexDigits
        (if letter = 'x' then 2 else if letter = 'u' then 4 else 8)
      let char ← charOfHex digits (← spanFrom digitsStart)
      return .literal ⟨char, letter == 'x', ← spanFrom start⟩

/-- Whether a text comes next in a list of characters. -/
def splitAt? (mark : List Char) : List Char → Option (List Char × List Char)
  | [] => none
  | c :: rest =>
      if mark.isPrefixOf (c :: rest) then
        some ([], (c :: rest).drop mark.length)
      else (splitAt? mark rest).map fun (before, after) => (c :: before, after)

/-- The name of a property, where a mark of equality or inequality, or a colon,
stands in front of its value. -/
def propertyName (text : List Char) : PropertyName :=
  let valued (unequal : Bool) : List Char × List Char → PropertyName
    | (name, value) =>
        .valued (String.ofList name) unequal (String.ofList value)
  match splitAt? ['!', '='] text, splitAt? [':'] text, splitAt? ['='] text with
  | some parts, _, _ => valued true parts
  | none, some parts, _ => valued false parts
  | none, none, some parts => valued false parts
  | none, none, none => .plain (String.ofList text)

/-- Reads a property of characters behind the letter that announces it. -/
def property (start : Place) (negated : Bool) : Reading Atom := do
  if !(← skipOn) then failHere .escapeUnfinished
  else
    match ← peek with
    | some '{' =>
        let _ ← skipOn
        let text ← takeWhile (· ≠ '}')
        if (← get).atEnd then failHere .escapeUnfinished
        else
          skip
          return .property (propertyName text) negated (← spanFrom start)
    | some '\\' => failAtChar .propertyInvalid
    | some c =>
        let _ ← skipOn
        return .property (.plain (String.singleton c)) negated (← spanFrom start)
    | none => failHere .escapeUnfinished

def boundaryNames : List (String × WordSide) :=
  [("start", .start), ("end", .stop), ("start-half", .startHalf),
    ("end-half", .stopHalf)]

def isBoundaryLetter (c : Char) : Bool :=
  ('a' ≤ c && c ≤ 'z') || ('A' ≤ c && c ≤ 'Z') || c == '-'

/-- Reads the name of a boundary between braces; what does not begin like a name is
left, since it may count repetitions. -/
def boundary (start : Place) : Reading WordSide := do
  let before ← get
  if before.rest.head? ≠ some '{' then return .boundary
  else if !(← skipOn) then fail .boundaryUnfinished (← spanFrom start)
  else
    let nameStart ← place
    if !((← get).rest.head?.any isBoundaryLetter) then
      set before
      return .boundary
    else
      let name ← takeWhile isBoundaryLetter
      if (← peek) ≠ some '}' then
        fail .boundaryUnclosed (← spanFrom before.place)
      else
        let span ← spanFrom nameStart
        skip
        match boundaryNames.lookup (String.ofList name) with
        | some side => return side
        | none => fail .boundaryUnrecognized span

/-- Characters that mean something of their own. -/
def isMeta (c : Char) : Bool :=
  "\\.+*?()|[]\x7b\x7d^$#&-~".toList.contains c

/-- Characters that stand for themselves behind a backslash. -/
def isEscapable (c : Char) : Bool :=
  isMeta c || (c.toNat < 128 && !c.isAlphanum && c != '<' && c != '>')

/-- Letters that stand for a character without a sign of its own. -/
def controlLetters : List (Char × Char) :=
  [('a', '\x07'), ('f', '\x0c'), ('t', '\t'), ('n', '\n'), ('r', '\r'),
    ('v', '\x0b')]

def conditionLetters : List (Char × Condition) :=
  [('A', .textStart), ('z', .textEnd), ('B', .word .noBoundary),
    ('<', .word .start), ('>', .word .stop)]

/-- Letters that stand for a kind of characters, and for all others. -/
def kindLetters : List (Char × Kind × Bool) :=
  [('d', .digit, false), ('s', .space, false), ('w', .word, false),
    ('D', .digit, true), ('S', .space, true), ('W', .word, true)]

/-- Reads what a backslash introduces. -/
def escape : Reading Atom := do
  let start ← place
  skip
  match ← peek with
  | none => fail .escapeUnfinished (← spanFrom start)
  | some c =>
      if c.isDigit then
        fail .backreference ⟨start, (← get).charSpan.stop⟩
      else if c = 'x' || c = 'u' || c = 'U' then hexLiteral start c
      else if c = 'p' || c = 'P' then property start (c = 'P')
      else
        skip
        let span ← spanFrom start
        if isEscapable c then return .literal ⟨c, false, span⟩
        else if c = 'b' then
          let side ← boundary start
          return .condition (.word side) (← spanFrom start)
        else
          match kindLetters.lookup c, controlLetters.lookup c,
              conditionLetters.lookup c with
          | some (kind, negated), _, _ => return .kind kind negated span
          | none, some char, _ => return .literal ⟨char, false, span⟩
          | none, none, some condition => return .condition condition span
          | none, none, none => fail .escapeUnrecognized span

/-- Reads a character that stands for itself. -/
def plain (c : Char) : Reading Atom := do
  let span := (← get).charSpan
  skip
  return .literal ⟨c, false, span⟩

/-- Reads a part that is no group, set or repetition and begins with `c`. -/
def atom (c : Char) : Reading Atom := do
  let span := (← get).charSpan
  match c with
  | '\\' => escape
  | '.' =>
      skip
      return .dot span
  | '^' =>
      skip
      return .condition .lineStart span
  | '$' =>
      skip
      return .condition .lineEnd span
  | _ => plain c

end Cadence.Pattern.Reading
