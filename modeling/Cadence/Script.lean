import Cadence.Order

/-!
Scripts: user code as a tree of orders, each followed by what is done with its
answer.  Everything that a callback can do, and in whatever way it depends on
what it finds, is such a tree.
-/

namespace Cadence

/-- What a routine is told when it is called. -/
inductive Occasion
  | plain
  | rate (rate : Rate)
  | refresh (frame : FrameTime)
  | status (driver : Nat) (text : String)
  | frame (driver : Nat) (bytes : Array UInt8)

/-- User code. -/
inductive Script
  | done (answer : Datum)
  | fail (failure : Failure)
  | panic (panic : Panic)
  | order (order : Order) (next : order.Answer → Script)
  /-- Makes a routine: what is done on each call, which is told how many calls
  went before. -/
  | routine (course : Nat → Occasion → Script) (next : Nat → Script)

/-- What a routine does, by the number of the call and its occasion. -/
abbrev Course := Nat → Occasion → Script

instance : Inhabited Script := ⟨.done .null⟩

/-- A script keeps to some orders if, whatever it is answered, it gives no
others, and neither do the routines that it makes. -/
def Script.KeepsTo (allowed : Order → Prop) : Script → Prop
  | .done _ => True
  | .fail _ => True
  | .panic _ => True
  | .order asked next =>
      allowed asked ∧ ∀ answer, (next answer).KeepsTo allowed
  | .routine course next =>
      (∀ call occasion, (course call occasion).KeepsTo allowed) ∧
        ∀ number, (next number).KeepsTo allowed

/-- What keeps to fewer orders keeps to more. -/
theorem Script.KeepsTo.imp {allowed wider : Order → Prop}
    (himp : ∀ order, allowed order → wider order) {script : Script}
    (h : script.KeepsTo allowed) : script.KeepsTo wider := by
  induction script with
  | done => trivial
  | fail => trivial
  | panic => trivial
  | order asked next ih =>
      exact ⟨himp asked h.1, fun answer => ih answer (h.2 answer)⟩
  | routine course next hcourse hnext =>
      exact ⟨fun call occasion => hcourse call occasion (h.1 call occasion),
        fun number => hnext number (h.2 number)⟩

/-- Every script keeps to all orders. -/
theorem Script.keepsTo_all (script : Script) : script.KeepsTo fun _ => True := by
  induction script with
  | done => trivial
  | fail => trivial
  | panic => trivial
  | order asked next ih => exact ⟨trivial, ih⟩
  | routine course next hcourse hnext => exact ⟨hcourse, hnext⟩

end Cadence
