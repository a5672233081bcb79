import Cadence.Binary64.Basic

/-!
Plain values: what a script notes down while it runs and answers at its end.
-/

namespace Cadence

/-- A plain value. -/
inductive Datum
  | null
  | bool (value : Bool)
  | int (value : Int)
  | number (value : Binary64)
  | text (value : String)
  | list (items : List Datum)
  | record (fields : List (String × Datum))
deriving Repr

namespace Datum

instance : Inhabited Datum := ⟨.null⟩

def ofNat (n : Nat) : Datum := .int n

/-- A time or a duration in nanoseconds, which is written down as a machine word. -/
def ofTime (time : Nat) : Datum := .ofNat (time % UInt64.size)

def ofOption {α : Type} (show? : α → Datum) : Option α → Datum
  | none => .null
  | some a => show? a

end Datum

end Cadence
