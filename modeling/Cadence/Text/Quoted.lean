import Cadence.Text.Unprintable

/-!
Quoted text: a string between double quotes, with a backslash in front of what
could not stand there.
-/

namespace Cadence.Text

/-- The hexadecimal digits of a number, in lower case. -/
def hexDigits (n : Nat) : String := String.ofList (Nat.toDigits 16 n)

def quotedChar (c : Char) : String :=
  match c with
  | '"' => "\\\""
  | '\\' => "\\\\"
  | '\n' => "\\n"
  | '\r' => "\\r"
  | '\t' => "\\t"
  | '\x00' => "\\0"
  | _ =>
      if isUnprintable c then
        "\\u\x7b" ++ hexDigits c.toNat ++ "\x7d"
      else String.singleton c

def quoted (text : String) : String :=
  "\"" ++ String.join (text.toList.map quotedChar) ++ "\""

end Cadence.Text
