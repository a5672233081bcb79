import Cadence.Pattern.Set
import Cadence.Text.Letter

/-!
Reading a whole pattern: parts one after the other, repetitions behind them,
groups, and branches between bars.
-/

namespace Cadence.Pattern

/-- A group that is being read, or the whole pattern. -/
structure Level where
  /-- What opens it. -/
  span : Span
  flags : Option FlagChange
  /-- Whether white space counts for nothing around it. -/
  spacedAround : Bool
  /-- The branches that have been read, the last one first. -/
  branches : List Tree
  /-- Where the first branch begins. -/
  start : Place
  /-- The parts of the branch that is being read, the last one first. -/
  items : List Tree
  /-- Where that branch begins. -/
  branchStart : Place

namespace Level

/-- A group without parts, whose first branch begins at a place. -/
def opened (span : Span) (flags : Option FlagChange) (spacedAround : Bool)
    (start : Place) : Level :=
  ⟨span, flags, spacedAround, [], start, [], start⟩

def push (item : Tree) (level : Level) : Level :=
  { level with items := item :: level.items }

/-- The branch that has been read up to a place. -/
def branch (stop : Place) (level : Level) : Tree :=
  match level.items with
  | [] => .empty
  | [item] => item
  | items => .sequence items.reverse ⟨level.branchStart, stop⟩

/-- What has been read up to a place. -/
def value (stop : Place) (level : Level) : Tree :=
  match level.branches with
  | [] => level.branch stop
  | branches =>
      .choice (level.branch stop :: branches).reverse ⟨level.start, stop⟩

end Level

/-- Groups that are being read, and the names of those read so far. -/
structure Draft where
  level : Level
  /-- The groups around it, the innermost one first. -/
  outer : List Level
  names : List (String × Span)

/-- What begins with a parenthesis. -/
inductive Opening
  | flags (change : FlagChange)
  | group (flags : Option FlagChange)
  | named (name : String) (span : Span)

namespace Reading

/-! Repetitions -/

/-- Reads a decimal number; what is wrong with it may not matter. -/
def decimal : Reading (Except Fault Nat) := do
  let _ ← takeWhile Text.isBlank
  let start ← place
  let digits ← takeWhile Char.isDigit
  let span ← spanFrom start
  let _ ← takeWhile Text.isBlank
  let number := digits.foldl
    (fun number c => 10 * number + (c.toNat - '0'.toNat)) 0
  if digits.isEmpty then return .error ⟨.countEmpty, span, none⟩
  else if number < 4294967296 then return .ok number
  else return .error ⟨.numberInvalid, span, none⟩

/-- A number that matters. -/
def required : Except Fault Nat → Reading Nat
  | .ok number => return number
  | .error fault => throw fault

/-- Reads what follows the first number between braces, up to the closing one. -/
def countsFrom (start : Place) (least : Except Fault Nat) :
    Reading (Nat × Option Nat) := do
  if (← peek) = some ',' then
    if !(← skipOn) then fail .countUnclosed (← spanFrom start)
    else if (← peek) = some '}' then return (← required least, none)
    else
      let least ← required least
      let most ← required (← decimal)
      return (least, some most)
  else
    let count ← required least
    return (count, some count)

/-- Reads how often something is repeated, between braces. -/
def counts : Reading (Nat × Option Nat) := do
  let start ← place
  if !(← skipOn) then fail .countUnclosed (← spanFrom start)
  else
    let least ← decimal
    if (← get).atEnd then fail .countUnclosed (← spanFrom start)
    else
      let (least, most) ← countsFrom start least
      if (← peek) ≠ some '}' then fail .countUnclosed (← spanFrom start)
      else
        let _ ← skipOn
        let _ ← accept "?"
        if most.all (least ≤ ·) then return (least, most)
        else fail .countInvalid (← spanFrom start)

/-- How often the sign of a repetition repeats what stands in front of it. -/
def repetition? : Char → Option (Reading (Nat × Option Nat))
  | '?' => some do
      skip
      let _ ← accept "?"
      return (0, some 1)
  | '*' => some do
      skip
      let _ ← accept "?"
      return (0, none)
  | '+' => some do
      skip
      let _ ← accept "?"
      return (1, none)
  | '{' => some counts
  | _ => none

def repeatLast (level : Level) (times : Reading (Nat × Option Nat)) :
    Reading Level := do
  match level.items with
  | [] => failHere .repetitionMissing
  | .flags _ :: _ => failHere .repetitionMissing
  | item :: rest =>
      let start := item.start?.getD (← place)
      let (least, most) ← times
      let span ← spanFrom start
      return { level with items := .repeated item least most span :: rest }

/-! Groups -/

def flagLetters : List (Char × Flag) :=
  [('i', .caseless), ('m', .multiLine), ('s', .dotAll), ('U', .swapGreed),
    ('u', .unicode), ('R', .crlf), ('x', .spaced)]

/-- Reads flags up to a colon or a closing parenthesis, behind those in `items`, the
last one first. -/
def flagsFrom (items : List (Option Flag × Span)) : Nat → Reading FlagChange
  | 0 => failHere .flagUnfinished
  | limit + 1 => do
      match ← peek with
      | none => failHere .flagUnfinished
      | some c =>
          if c = ':' || c = ')' then
            match items with
            | (none, span) :: _ => fail .flagNegationDangling span
            | _ => return ⟨items.reverse⟩
          else
            let span := (← get).charSpan
            let flag ←
              if c = '-' then pure none
              else
                match flagLetters.lookup c with
                | some flag => pure (some flag)
                | none => fail .flagUnrecognized span
            match items.lookup flag with
            | some earlier =>
                failAgain
                  (if flag.isSome then .flagDuplicate else .flagNegationRepeated)
                  span earlier
            | none =>
                skip
                flagsFrom ((flag, span) :: items) limit

/-- Letters, which may begin the name of a group. -/
def isNameStart (c : Char) : Bool := c == '_' || Text.isAlphabetic c

/-- Letters, digits and some signs, which may follow in the name of a group. -/
def isNamePart (c : Char) : Bool :=
  isNameStart c || c == '.' || c == '[' || c == ']' ||
    (Text.category c).group == 'N'

/-- Reads the name of a group up to its closing angle bracket. -/
def groupName : Reading Opening := do
  if (← get).atEnd then failHere .groupNameUnfinished
  else
    let start ← get
    let text := start.rest.takeWhile (· ≠ '>')
    let validLength :=
      match text with
      | [] => 0
      | c :: rest =>
          if isNameStart c then 1 + (rest.takeWhile isNamePart).length else 0
    set (start.advance validLength)
    if validLength < text.length then failAtChar .groupNameInvalid
    else if (← get).atEnd then failHere .groupNameUnfinished
    else if text.isEmpty then failHere .groupNameEmpty
    else
      let span ← spanFrom start.place
      skip
      return .named (String.ofList text) span

/-- Whether one of some texts comes next; the first such one is passed over. -/
def acceptOne : List String → Reading Bool
  | [] => return false
  | text :: rest => do
      if ← accept text then return true else acceptOne rest

/-- Reads what follows an opening parenthesis, which `span` is the stretch of. -/
def openingFrom (span : Span) : Reading Opening := do
  let inner ← get
  if ← acceptOne ["?=", "?!", "?<=", "?<!"] then
    fail .lookAround (← spanFrom span.start)
  else if ← acceptOne ["?P<", "?<"] then groupName
  else if ← accept "?" then
    if (← get).atEnd then fail .groupUnclosed span
    else
      let change ← flagsFrom [] (← get).rest.length
      if ← accept ":" then return .group (some change)
      else
        skip
        if change.items.isEmpty then fail .repetitionMissing (.point inner.place)
        else return .flags change
  else return .group none

/-- Reads an opening parenthesis and what belongs to it. -/
def openGroup (draft : Draft) : Reading Draft := do
  let cursor ← get
  skip
  modify Cursor.skipBlank
  let opening ← openingFrom cursor.charSpan
  let opened (flags : Option FlagChange) (names : List (String × Span)) :
      Reading Draft := do
    let level := Level.opened cursor.charSpan flags cursor.spaced (← place)
    return ⟨level, draft.level :: draft.outer, names⟩
  match opening with
  | .flags change =>
      modify fun cursor =>
        { cursor with spaced := (change.value? .spaced).getD cursor.spaced }
      return { draft with level := draft.level.push (.flags change) }
  | .group flags =>
      modify fun cursor =>
        { cursor with
          spaced := (flags.bind (·.value? .spaced)).getD cursor.spaced }
      opened flags draft.names
  | .named name span =>
      match draft.names.lookup name with
      | some earlier => failAgain .groupNameDuplicate span earlier
      | none => opened none ((name, span) :: draft.names)

def closeGroup (draft : Draft) : Reading Draft := do
  match draft.outer with
  | [] => failAtChar .groupUnopened
  | around :: outer =>
      let inner := draft.level.value (← place)
      skip
      let span ← spanFrom draft.level.span.start
      modify ({ · with spaced := draft.level.spacedAround })
      return ⟨around.push (.group draft.level.flags inner span), outer,
        draft.names⟩

def nextBranch (level : Level) : Reading Level := do
  let branch := level.branch (← place)
  skip
  return { level with
    branches := branch :: level.branches
    items := []
    branchStart := ← place }

def part (draft : Draft) (c : Char) : Reading Draft := do
  match c, repetition? c with
  | _, some times =>
      return { draft with level := ← repeatLast draft.level times }
  | '(', none => openGroup draft
  | ')', none => closeGroup draft
  | '|', none => return { draft with level := ← nextBranch draft.level }
  | '[', none =>
      return { draft with level := draft.level.push (.set (← bracketSet)) }
  | _, none =>
      return { draft with level := draft.level.push (.atom (← atom c)) }

def partsFrom (draft : Draft) : Nat → Reading Draft
  | 0 => return draft
  | limit + 1 => do
      modify Cursor.skipBlank
      match ← peek with
      | none => return draft
      | some c => partsFrom (← part draft c) limit

def tree : Reading Tree := do
  let level := Level.opened (.point .first) none false .first
  let draft ← partsFrom ⟨level, [], []⟩ (← get).rest.length
  if draft.outer.isEmpty then
    let tree := draft.level.value (← place)
    match tree.tooDeep? 0 with
    | some span => fail .nestingTooDeep span
    | none => return tree
  else fail .groupUnclosed draft.level.span

end Reading

/-- The form of the pattern that a text writes. -/
def Tree.ofText (text : List Char) : Except Fault Tree :=
  (Reading.tree.run (Cursor.start text)).map Prod.fst

end Cadence.Pattern
