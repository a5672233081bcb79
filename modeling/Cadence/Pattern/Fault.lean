import Cadence.Pattern.Span
import Cadence.Text.Lines

/-!
What can be wrong with the text of a pattern, and how that is reported: the text
with the faulty stretches underlined, and a message.
-/

namespace Cadence.Pattern

/-- Why a text is no pattern. -/
inductive Cause
  | setEscapeInvalid
  | setRangeInvalid
  | setRangeLiteral
  | setUnclosed
  | numberInvalid
  | hexEmpty
  | hexInvalid
  | hexDigitInvalid
  | escapeUnfinished
  | escapeUnrecognized
  | flagNegationDangling
  | flagDuplicate
  | flagNegationRepeated
  | flagUnfinished
  | flagUnrecognized
  | groupNameDuplicate
  | groupNameEmpty
  | groupNameInvalid
  | groupNameUnfinished
  | groupUnclosed
  | groupUnopened
  | nestingTooDeep
  | countInvalid
  | countEmpty
  | countUnclosed
  | repetitionMissing
  | boundaryUnclosed
  | boundaryUnrecognized
  | boundaryUnfinished
  | propertyInvalid
  | backreference
  | lookAround
  | unicodeNotAllowed
  | invalidText
  | propertyNotFound
  | propertyValueNotFound
deriving DecidableEq, Repr

/-- How deep groups, sets and repetitions may be inside each other. -/
def nestingLimit : Nat := 250

def Cause.message : Cause → String
  | .setEscapeInvalid => "invalid escape sequence found in character class"
  | .setRangeInvalid =>
      "invalid character class range, the start must be <= the end"
  | .setRangeLiteral => "invalid range boundary, must be a literal"
  | .setUnclosed => "unclosed character class"
  | .numberInvalid => "decimal literal invalid"
  | .hexEmpty => "hexadecimal literal empty"
  | .hexInvalid => "hexadecimal literal is not a Unicode scalar value"
  | .hexDigitInvalid => "invalid hexadecimal digit"
  | .escapeUnfinished =>
      "incomplete escape sequence, reached end of pattern prematurely"
  | .escapeUnrecognized => "unrecognized escape sequence"
  | .flagNegationDangling => "dangling flag negation operator"
  | .flagDuplicate => "duplicate flag"
  | .flagNegationRepeated => "flag negation operator repeated"
  | .flagUnfinished => "expected flag but got end of regex"
  | .flagUnrecognized => "unrecognized flag"
  | .groupNameDuplicate => "duplicate capture group name"
  | .groupNameEmpty => "empty capture group name"
  | .groupNameInvalid => "invalid capture group character"
  | .groupNameUnfinished => "unclosed capture group name"
  | .groupUnclosed => "unclosed group"
  | .groupUnopened => "unopened group"
  | .nestingTooDeep =>
      "exceed the maximum number of nested parentheses/brackets (" ++
        toString nestingLimit ++ ")"
  | .countInvalid =>
      "invalid repetition count range, the start must be <= the end"
  | .countEmpty => "repetition quantifier expects a valid decimal"
  | .countUnclosed => "unclosed counted repetition"
  | .repetitionMissing => "repetition operator missing expression"
  | .boundaryUnclosed =>
      "special word boundary assertion is either unclosed or contains an " ++
        "invalid character"
  | .boundaryUnrecognized =>
      "unrecognized special word boundary assertion, valid choices are: " ++
        "start, end, start-half or end-half"
  | .boundaryUnfinished =>
      "found either the beginning of a special word boundary or a bounded " ++
        "repetition on a \\b with an opening brace, but no closing brace"
  | .propertyInvalid => "invalid Unicode character class"
  | .backreference => "backreferences are not supported"
  | .lookAround =>
      "look-around, including look-ahead and look-behind, is not supported"
  | .unicodeNotAllowed => "Unicode not allowed here"
  | .invalidText => "pattern can match invalid UTF-8"
  | .propertyNotFound => "Unicode property not found"
  | .propertyValueNotFound => "Unicode property value not found"

/-- What is wrong, and where; some faults are about two stretches. -/
structure Fault where
  cause : Cause
  span : Span
  earlier : Option Span
deriving DecidableEq, Repr

namespace Fault

def spans (fault : Fault) : List Span :=
  match fault.earlier with
  | none => [fault.span]
  | some other =>
      if other.before fault.span then [other, fault.span] else [fault.span, other]

/-- The marks under a line, from a column on; an empty stretch has one mark. -/
def marksFrom (column : Nat) : List Span → String
  | [] => ""
  | span :: rest =>
      let length := Nat.max 1 (span.stop.column - span.start.column)
      let gap := span.start.column - column
      "".pushn ' ' gap ++ "".pushn '^' length ++
        marksFrom (column + gap + length) rest

/-- One line, and marks under it if a fault has stretches there.  Lines are
numbered if `width` gives the numbers some room. -/
def lineReport (spans : List Span) (width : Nat) (number : Nat) (text : String) :
    List String :=
  let here := spans.filter fun span => span.isOneLine && span.start.line == number
  let label :=
    if width = 0 then "    "
    else
      let digits := toString number
      "".pushn ' ' (width - digits.length) ++ digits ++ ": "
  (label ++ text) ::
    if here.isEmpty then [] else ["".pushn ' ' label.length ++ marksFrom 1 here]

/-- Which lines a stretch of several lines goes through. -/
def throughReport (span : Span) : String :=
  "on line " ++ toString span.start.line ++ " (column " ++
    toString span.start.column ++ ") through line " ++ toString span.stop.line ++
    " (column " ++ toString (span.stop.column - 1) ++ ")"

/-- The rule above and below a text of several lines. -/
def rule : String := "".pushn '~' 79

def report (fault : Fault) (text : List Char) : String :=
  let lines := Text.linesOf text
  let count := lines.length + if text.getLast? = some '\n' then 1 else 0
  let width := if count ≤ 1 then 0 else (toString count).length
  let shown := (lines.zipIdx 1).flatMap fun (line, number) =>
    lineReport fault.spans width number line
  let long := fault.spans.filter fun span => !span.isOneLine
  let body :=
    if text.contains '\n' then [rule] ++ shown ++ [rule] ++ long.map throughReport
    else shown
  String.intercalate "\n"
    (["regex parse error:"] ++ body ++ ["error: " ++ fault.cause.message])

end Fault

end Cadence.Pattern
