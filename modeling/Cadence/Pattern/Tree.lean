import Cadence.Pattern.Fault

/-!
The form of a pattern as it is written: single parts, sets of characters between
brackets, and what repetitions, groups and bars build from them.
-/

namespace Cadence.Pattern

/-- A character in a pattern. -/
structure Literal where
  char : Char
  /-- Whether it is written as a byte, in two hexadecimal digits. -/
  isByte : Bool
  span : Span
deriving DecidableEq, Repr

/-- Ways of matching that a pattern can turn on and off. -/
inductive Flag
  | caseless
  | multiLine
  | dotAll
  | swapGreed
  | unicode
  | crlf
  | spaced
deriving DecidableEq, Repr

/-- Flags in the order in which they are written; those behind a minus sign, which
is `none`, are turned off. -/
structure FlagChange where
  items : List (Option Flag × Span)
deriving DecidableEq, Repr

namespace FlagChange

/-- What a flag becomes in a list of flags, if it stands there. -/
def lookup (flag : Flag) (value : Bool) :
    List (Option Flag × Span) → Option Bool
  | [] => none
  | (none, _) :: rest => lookup flag false rest
  | (some other, _) :: rest =>
      if other = flag then some value else lookup flag value rest

/-- What a flag becomes, if the change is about it. -/
def value? (change : FlagChange) (flag : Flag) : Option Bool :=
  lookup flag true change.items

end FlagChange

/-- How word characters stand around a place. -/
inductive WordSide
  | boundary
  | noBoundary
  | start
  | stop
  | startHalf
  | stopHalf
deriving DecidableEq, Repr

/-- Whether word characters on the two sides are as they should be. -/
def WordSide.holds (before after : Bool) : WordSide → Bool
  | .boundary => before != after
  | .noBoundary => before == after
  | .start => !before && after
  | .stop => before && !after
  | .startHalf => !before
  | .stopHalf => !after

/-- A condition on the neighbours of a place. -/
inductive Condition
  | lineStart
  | lineEnd
  | textStart
  | textEnd
  | word (side : WordSide)
deriving DecidableEq, Repr

/-- Characters that a letter behind a backslash stands for. -/
inductive Kind
  | digit
  | space
  | word
deriving DecidableEq, Repr

/-- How a property of characters is named. -/
inductive PropertyName
  | plain (name : String)
  /-- A property that has, or does not have, a value. -/
  | valued (name : String) (unequal : Bool) (value : String)
deriving DecidableEq, Repr

/-- A part that stands for one character or for none. -/
inductive Atom
  | literal (literal : Literal)
  | dot (span : Span)
  | condition (condition : Condition) (span : Span)
  | kind (kind : Kind) (negated : Bool) (span : Span)
  | property (name : PropertyName) (negated : Bool) (span : Span)
deriving DecidableEq, Repr

def Atom.span : Atom → Span
  | .literal character => character.span
  | .dot span => span
  | .condition _ span => span
  | .kind _ _ span => span
  | .property _ _ span => span

/-- How two sets are combined. -/
inductive SetOperation
  | both
  | without
  | either
deriving DecidableEq, Repr

/-- What is written between brackets. -/
inductive SetTree
  | empty (span : Span)
  | atom (atom : Atom)
  | range (first last : Literal)
  | posix (name : String) (negated : Bool) (span : Span)
  | bracketed (inside : SetTree) (negated : Bool) (span : Span)
  | union (items : List SetTree) (span : Span)
  | combined (operation : SetOperation) (left right : SetTree) (span : Span)
deriving Repr

def SetTree.span : SetTree → Span
  | .empty span => span
  | .atom part => part.span
  | .range first last => ⟨first.span.start, last.span.stop⟩
  | .posix _ _ span => span
  | .bracketed _ _ span => span
  | .union _ span => span
  | .combined _ _ _ span => span

/-- A pattern as it is written. -/
inductive Tree
  | empty
  | atom (atom : Atom)
  | set (set : SetTree)
  | flags (change : FlagChange)
  | repeated (inner : Tree) (least : Nat) (most : Option Nat) (span : Span)
  | group (flags : Option FlagChange) (inner : Tree) (span : Span)
  | sequence (items : List Tree) (span : Span)
  | choice (branches : List Tree) (span : Span)
deriving Repr

instance : Inhabited Tree := ⟨.empty⟩

/-- Where the first stretch of a tree begins, if it has a stretch. -/
def Tree.start? : Tree → Option Place
  | .empty => none
  | .flags _ => none
  | .atom part => some part.span.start
  | .set form => some form.span.start
  | .repeated _ _ _ span => some span.start
  | .group _ _ span => some span.start
  | .sequence _ span => some span.start
  | .choice _ span => some span.start

/-! The first part that is too deep inside others, with `depth` around it. -/

mutual

def SetTree.tooDeep? (depth : Nat) : SetTree → Option Span
  | .empty _ => none
  | .atom _ => none
  | .range _ _ => none
  | .posix _ _ _ => none
  | .bracketed inside _ span =>
      if nestingLimit ≤ depth then some span else inside.tooDeep? (depth + 1)
  | .union items span =>
      if nestingLimit ≤ depth then some span
      else SetTree.firstTooDeep? (depth + 1) items
  | .combined _ left right span =>
      if nestingLimit ≤ depth then some span
      else left.tooDeep? (depth + 1) <|> right.tooDeep? (depth + 1)

def SetTree.firstTooDeep? (depth : Nat) : List SetTree → Option Span
  | [] => none
  | item :: rest => item.tooDeep? depth <|> SetTree.firstTooDeep? depth rest

end

mutual

def Tree.tooDeep? (depth : Nat) : Tree → Option Span
  | .empty => none
  | .atom _ => none
  | .flags _ => none
  | .set form => form.tooDeep? depth
  | .repeated inner _ _ span =>
      if nestingLimit ≤ depth then some span else inner.tooDeep? (depth + 1)
  | .group _ inner span =>
      if nestingLimit ≤ depth then some span else inner.tooDeep? (depth + 1)
  | .sequence items span =>
      if nestingLimit ≤ depth then some span
      else Tree.firstTooDeep? (depth + 1) items
  | .choice branches span =>
      if nestingLimit ≤ depth then some span
      else Tree.firstTooDeep? (depth + 1) branches

def Tree.firstTooDeep? (depth : Nat) : List Tree → Option Span
  | [] => none
  | item :: rest => item.tooDeep? depth <|> Tree.firstTooDeep? depth rest

end

end Cadence.Pattern
