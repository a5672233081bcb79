/-!
Text from bytes that may not be text: every stretch that cannot begin a character
becomes one replacement character.
-/

namespace Cadence.Text

/-- What stands for bytes that are no text. -/
def replacement : Char := '\ufffd'

/-- How many more bytes a first byte asks for, and the range of the next one. -/
structure Lead where
  more : Nat
  low : Nat
  high : Nat
deriving DecidableEq, Repr

/-- What a first byte beyond the plain ones asks for; nothing if it cannot begin a
character. -/
def Lead.of? (byte : Nat) : Option Lead :=
  if 0xc2 ≤ byte ∧ byte ≤ 0xdf then some ⟨1, 0x80, 0xbf⟩
  else if byte = 0xe0 then some ⟨2, 0xa0, 0xbf⟩
  else if byte = 0xed then some ⟨2, 0x80, 0x9f⟩
  else if 0xe1 ≤ byte ∧ byte ≤ 0xef then some ⟨2, 0x80, 0xbf⟩
  else if byte = 0xf0 then some ⟨3, 0x90, 0xbf⟩
  else if 0xf1 ≤ byte ∧ byte ≤ 0xf3 then some ⟨3, 0x80, 0xbf⟩
  else if byte = 0xf4 then some ⟨3, 0x80, 0x8f⟩
  else none

/-- The part of a character's number that its first byte holds. -/
def leadValue (byte more : Nat) : Nat :=
  if more = 1 then byte % 0x20 else if more = 2 then byte % 0x10 else byte % 0x08

/-- A character of which a part has been read. -/
structure Partial where
  value : Nat
  /-- How many bytes are missing. -/
  missing : Nat
  low : Nat
  high : Nat
deriving DecidableEq, Repr

/-- Begins with a byte: what is written, and what is begun. -/
def beginWith (byte : Nat) : List Char × Option Partial :=
  if byte < 0x80 then ([Char.ofNat byte], none)
  else
    match Lead.of? byte with
    | none => ([replacement], none)
    | some lead =>
        ([], some ⟨leadValue byte lead.more, lead.more, lead.low, lead.high⟩)

def takeByte (begun : Option Partial) (byte : Nat) : List Char × Option Partial :=
  match begun with
  | none => beginWith byte
  | some state =>
      if state.low ≤ byte ∧ byte ≤ state.high then
        let value := state.value * 0x40 + byte % 0x40
        if state.missing = 1 then ([Char.ofNat value], none)
        else ([], some ⟨value, state.missing - 1, 0x80, 0xbf⟩)
      else
        let (written, next) := beginWith byte
        (replacement :: written, next)

/-- The text of bytes after a part of a character. -/
def lossyFrom (begun : Option Partial) : List UInt8 → List Char
  | [] => if begun.isSome then [replacement] else []
  | byte :: rest =>
      let (written, next) := takeByte begun byte.toNat
      written ++ lossyFrom next rest

/-- The text of bytes. -/
def lossy (bytes : ByteArray) : String :=
  String.ofList (lossyFrom none bytes.data.toList)

end Cadence.Text
