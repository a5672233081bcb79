import Cadence.Pattern.Tree
import Cadence.Text.Blank
import Cadence.Text.Folding
import Cadence.Text.Letter
import Cadence.Text.Script

/-!
Sets of characters.
-/

namespace Cadence.Pattern

/-- A set of characters. -/
inductive Letters
  | none
  | range (first last : Char)
  | category (category : Text.Category)
  /-- The categories of one group. -/
  | group (letter : Char)
  | script (code : String)
  | word
  | blank
  | alphabetic
  | uppercase
  | lowercase
  | union (left right : Letters)
  | both (left right : Letters)
  | without (left right : Letters)
  | complement (letters : Letters)
  /-- All forms of the letters of a set. -/
  | folded (letters : Letters)
  /-- The letters of ASCII in both cases, and the rest of a set. -/
  | foldedAscii (letters : Letters)
deriving DecidableEq, Repr

namespace Letters

instance : Inhabited Letters := ⟨.none⟩

/-- A letter of ASCII in the other case. -/
def otherCase (c : Char) : Char := if c.isLower then c.toUpper else c.toLower

def accepts : Letters → Char → Bool
  | .none, _ => false
  | .range first last, c => first ≤ c && c ≤ last
  | .category kind, c => Text.category c == kind
  | .group letter, c => (Text.category c).group == letter
  | .script code, c => Text.script c == code
  | .word, c => Text.isWordCharacter c
  | .blank, c => Text.isBlank c
  | .alphabetic, c => Text.isAlphabetic c
  | .uppercase, c => Text.isUppercase c
  | .lowercase, c => Text.isLowercase c
  | .union left right, c => left.accepts c || right.accepts c
  | .both left right, c => left.accepts c && right.accepts c
  | .without left right, c => left.accepts c && !right.accepts c
  | .complement letters, c => !letters.accepts c
  | .folded letters, c => (Text.caseForms c).any letters.accepts
  | .foldedAscii letters, c => letters.accepts c || letters.accepts (otherCase c)

def single (c : Char) : Letters := .range c c

def all : Letters := .complement .none

/-- What is in one of some sets. -/
def unionOf (sets : List Letters) : Letters := sets.foldr union none

/-- What is in just one of two sets. -/
def either (left right : Letters) : Letters :=
  .union (.without left right) (.without right left)

def digits : Letters := .range '0' '9'
def capitals : Letters := .range 'A' 'Z'
def smalls : Letters := .range 'a' 'z'

/-- The sets of ASCII that have names between colons. -/
def ofPosix : String → Letters
  | "alnum" => unionOf [digits, capitals, smalls]
  | "alpha" => unionOf [capitals, smalls]
  | "ascii" => .range '\x00' '\x7f'
  | "blank" => unionOf [single '\t', single ' ']
  | "cntrl" => unionOf [.range '\x00' '\x1f', single '\x7f']
  | "digit" => digits
  | "graph" => .range '!' '~'
  | "lower" => smalls
  | "print" => .range ' ' '~'
  | "punct" => unionOf [.range '!' '/', .range ':' '@', .range '[' '\x60',
      .range '\x7b' '~']
  | "space" => unionOf [.range '\t' '\r', single ' ']
  | "upper" => capitals
  | "word" => unionOf [digits, capitals, smalls, single '_']
  | "xdigit" => unionOf [digits, .range 'A' 'F', .range 'a' 'f']
  | _ => none

/-- The sets of a kind, among all characters and within ASCII. -/
def ofKind : Kind → Letters
  | .digit => .category .decimalNumber
  | .space => .blank
  | .word => .word

def ofAsciiKind : Kind → Letters
  | .digit => ofPosix "digit"
  | .space => ofPosix "space"
  | .word => ofPosix "word"

end Letters

end Cadence.Pattern
