import Cadence.Pattern.Basic
import Cadence.Pattern.Parse
import Cadence.Pattern.Property

/-!
What a written pattern means.  Flags hold from where they are written to the end of
the group around them, across bars.
-/

namespace Cadence.Pattern

/-- How patterns are matched. -/
structure Mode where
  caseless : Bool
  multiLine : Bool
  dotAll : Bool
  /-- Whether sets are about all characters, and not about bytes. -/
  unicode : Bool
  crlf : Bool
deriving DecidableEq, Repr

namespace Mode

/-- How patterns are matched if they say nothing about it. -/
def standard : Mode := ⟨false, false, false, true, false⟩

/-- The mode behind some flags. -/
def changed (mode : Mode) (change : FlagChange) : Mode :=
  let value (flag : Flag) (old : Bool) := (change.value? flag).getD old
  { caseless := value .caseless mode.caseless
    multiLine := value .multiLine mode.multiLine
    dotAll := value .dotAll mode.dotAll
    unicode := value .unicode mode.unicode
    crlf := value .crlf mode.crlf }

def wordLetters (mode : Mode) : Letters :=
  if mode.unicode then .word else Letters.ofPosix "word"

/-- A set and its letters in other cases, where case makes no difference. -/
def folded (mode : Mode) (letters : Letters) : Letters :=
  if !mode.caseless then letters
  else if mode.unicode then .folded letters
  else .foldedAscii letters

/-- What is not in a set, if it is negated.  Bytes that are not in a set need be no
characters. -/
def negated (mode : Mode) (negated : Bool) (span : Span) (letters : Letters) :
    Except Fault Letters :=
  if !negated then .ok letters
  else if mode.unicode then .ok (.complement letters)
  else .error ⟨.invalidText, span, none⟩

/-- A character that need not be text where it is written as a byte. -/
def char (mode : Mode) (literal : Literal) : Except Fault Char :=
  if !mode.unicode && literal.isByte && 128 ≤ literal.char.toNat then
    .error ⟨.invalidText, literal.span, none⟩
  else .ok literal.char

def setChar (mode : Mode) (literal : Literal) : Except Fault Char := do
  let c ← mode.char literal
  if !mode.unicode && 128 ≤ c.toNat then
    throw ⟨.unicodeNotAllowed, literal.span, none⟩
  else return c

def kind (mode : Mode) (kind : Kind) (negated : Bool) (span : Span) :
    Except Fault Letters :=
  mode.negated negated span
    (if mode.unicode then Letters.ofKind kind else Letters.ofAsciiKind kind)

def property (mode : Mode) (name : PropertyName) (negated : Bool) (span : Span) :
    Except Fault Letters :=
  if !mode.unicode then .error ⟨.unicodeNotAllowed, span, none⟩
  else
    let turned :=
      match name with
      | .valued _ unequal _ => negated != unequal
      | .plain _ => negated
    match Property.letters name with
    | .ok letters => mode.negated turned span (mode.folded letters)
    | .error cause => .error ⟨cause, span, none⟩

/-- All characters, or those that end no line. -/
def dot (mode : Mode) (span : Span) : Except Fault Letters :=
  if !mode.unicode then .error ⟨.invalidText, span, none⟩
  else if mode.dotAll then .ok .all
  else if mode.crlf then
    .ok (.complement (.union (.single '\r') (.single '\n')))
  else .ok (.complement (.single '\n'))

def gap (mode : Mode) : Condition → Gap
  | .textStart => .textStart
  | .textEnd => .textEnd
  | .lineStart =>
      if !mode.multiLine then .textStart
      else if mode.crlf then .returnStart
      else .lineStart
  | .lineEnd =>
      if !mode.multiLine then .textEnd
      else if mode.crlf then .returnEnd
      else .lineEnd
  | .word side => .word side mode.wordLetters

/-- What a single part means. -/
def atom (mode : Mode) : Atom → Except Fault Pattern
  | .literal literal => do
      return .letter (mode.folded (.single (← mode.char literal)))
  | .dot span => do return .letter (← mode.dot span)
  | .condition condition _ => .ok (.gap (mode.gap condition))
  | .kind kind negated span => do
      return .letter (← mode.kind kind negated span)
  | .property name negated span => do
      return .letter (← mode.property name negated span)

def setAtom (mode : Mode) : Atom → Except Fault Letters
  | .literal literal => do return .single (← mode.setChar literal)
  | .dot span => mode.dot span
  | .condition _ span => .error ⟨.setEscapeInvalid, span, none⟩
  | .kind kind negated span => mode.kind kind negated span
  | .property name negated span => mode.property name negated span

def combined (mode : Mode) (operation : SetOperation) (left right : Letters) :
    Letters :=
  let left := mode.folded left
  let right := mode.folded right
  match operation with
  | .both => .both left right
  | .without => .without left right
  | .either => .either left right

mutual

def set (mode : Mode) : SetTree → Except Fault Letters
  | .empty _ => .ok .none
  | .atom part => mode.setAtom part
  | .range first last => do
      return .range (← mode.setChar first) (← mode.setChar last)
  | .posix name negated span =>
      mode.negated negated span (mode.folded (Letters.ofPosix name))
  | .bracketed inside negated span => do
      mode.negated negated span (mode.folded (← mode.set inside))
  | .union items _ => do return Letters.unionOf (← mode.sets items)
  | .combined operation left right _ => do
      let left ← mode.set left
      let right ← mode.set right
      return mode.combined operation left right

def sets (mode : Mode) : List SetTree → Except Fault (List Letters)
  | [] => .ok []
  | item :: rest => do
      let letters ← mode.set item
      return letters :: (← mode.sets rest)

end

end Mode

namespace Tree

mutual

/-- What a tree means, and the mode behind it. -/
def meaning (mode : Mode) : Tree → Except Fault (Pattern × Mode)
  | .empty => .ok (.empty, mode)
  | .atom part => do return (← mode.atom part, mode)
  | .set form => do return (.letter (← mode.set form), mode)
  | .flags change => .ok (.empty, mode.changed change)
  | .repeated inner least most _ => do
      let (pattern, mode) ← inner.meaning mode
      return (.repeated pattern least most, mode)
  | .group change inner _ => do
      let (pattern, _) ← inner.meaning ((change.map mode.changed).getD mode)
      return (pattern, mode)
  | .sequence items _ => do
      let (patterns, mode) ← Tree.meanings mode items
      return (Pattern.sequenceOf patterns, mode)
  | .choice branches _ => do
      let (patterns, mode) ← Tree.meanings mode branches
      return (Pattern.choiceOf patterns, mode)

/-- What trees one after the other mean, and the mode behind them. -/
def meanings (mode : Mode) : List Tree → Except Fault (List Pattern × Mode)
  | [] => .ok ([], mode)
  | item :: rest => do
      let (pattern, mode) ← item.meaning mode
      let (patterns, mode) ← Tree.meanings mode rest
      return (pattern :: patterns, mode)

end

end Tree

/-- The pattern that a text writes, or what is wrong with it. -/
def ofText (text : List Char) : Except String Pattern :=
  let read := do
    let tree ← Tree.ofText text
    return (← tree.meaning .standard).1
  match read with
  | .ok pattern => .ok pattern
  | .error fault => .error (fault.report text)

end Cadence.Pattern
