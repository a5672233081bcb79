import Mathlib.Data.List.Nodup
import Cadence.Proofs.Journal

/-!
Parts under way.  The journal tells when a part of the rig begins to execute and
when it ceases to, and so which parts are on the call stack.
-/

namespace Cadence

/-- The parts under way, the innermost first. -/
def underWay : List Event → List Part
  | [] => []
  | .entered part :: older => part :: underWay older
  | .left part :: older => (underWay older).erase part
  | _ :: older => underWay older

namespace Event

/-- The coming or going of a part. -/
def crosses : Event → Bool
  | .entered _ => true
  | .left _ => true
  | _ => false

/-- The part that an event is the work of. -/
def worker : Event → Option Part
  | .advanced emulator => some (.emulator emulator)
  | .rendered emulator => some (.emulator emulator)
  | .statusSet driver _ => some (.driver driver)
  | .drawn driver _ => some (.driver driver)
  | .drawSucceeded driver => some (.driver driver)
  | .turnBegan driver => some (.driver driver)
  | .stepBegan driver => some (.driver driver)
  | .activated driver _ _ => some (.driver driver)
  | _ => none

/-- The driver whose turn or step begins. -/
def beginner : Event → Option Nat
  | .turnBegan driver => some driver
  | .stepBegan driver => some driver
  | _ => none

/-- An event fits what has happened before.  No part comes that is under way, and
the one that came last goes first.  A turn or step begins at once when its driver
has come, and the work of a part is done while it is under way. -/
structure Befits (event : Event) (older : List Event) : Prop where
  enters : ∀ part, event = .entered part → part ∉ underWay older
  leaves : ∀ part, event = .left part → (underWay older).head? = some part
  begins : ∀ number, event.beginner = some number →
    older.head? = some (.entered (.driver number))
  works : ∀ part, event.worker = some part → part ∈ underWay older

end Event

/-- What has happened as the work of a part. -/
def workOf (part : Part) (journal : List Event) : List Event :=
  journal.filter fun event => event.worker == some part

section Journal

variable {event : Event} {part : Part} {journal older : List Event}

@[simp] theorem underWay_entered :
    underWay (.entered part :: older) = part :: underWay older := rfl

theorem underWay_of_not_crosses (h : event.crosses = false) :
    underWay (event :: older) = underWay older := by
  cases event with
  | entered => cases h
  | left => cases h
  | _ => rfl

/-- The part that came last is the one that goes. -/
theorem underWay_left {rest : List Part} (h : underWay older = part :: rest) :
    underWay (.left part :: older) = rest := by
  rw [underWay, h, List.erase_cons_head]

theorem workOf_cons_of_ne (h : event.worker ≠ some part) :
    workOf part (event :: older) = workOf part older :=
  List.filter_cons_of_neg (by simpa using h)

theorem workOf_cons_self (h : event.worker = some part) :
    workOf part (event :: older) = event :: workOf part older :=
  List.filter_cons_of_pos (by simpa using h)

/-- The beginning of a turn or step is the work of its driver. -/
theorem Event.worker_of_beginner {number : Nat} (h : event.beginner = some number) :
    event.worker = some (.driver number) := by
  cases event with
  | turnBegan => exact congrArg (Option.map Part.driver) h
  | stepBegan => exact congrArg (Option.map Part.driver) h
  | _ => cases h

namespace Event.Befits

/-- An event that is nobody's work fits everywhere. -/
theorem of_plain (hcrosses : event.crosses = false) (hworker : event.worker = none) :
    event.Befits older := by
  constructor
  · rintro part rfl
    cases hcrosses
  · rintro part rfl
    cases hcrosses
  · intro number hbegins
    cases event with
    | turnBegan => cases hworker
    | stepBegan => cases hworker
    | _ => cases hbegins
  · intro part hwork
    rw [hworker] at hwork
    cases hwork

/-- Work fits while its part is under way. -/
theorem of_work (hworker : event.worker = some part)
    (hbeginner : event.beginner = none) (hpart : part ∈ underWay older) :
    event.Befits older := by
  constructor
  · rintro other rfl
    cases hworker
  · rintro other rfl
    cases hworker
  · intro number hbegins
    rw [hbeginner] at hbegins
    cases hbegins
  · intro other hwork
    rw [hworker] at hwork
    cases hwork
    exact hpart

theorem of_entered (h : part ∉ underWay older) : Befits (.entered part) older where
  enters := by
    rintro other ⟨⟩
    exact h
  leaves _ := Event.noConfusion
  begins := by rintro number ⟨⟩
  works := by rintro other ⟨⟩

theorem of_left {rest : List Part} (h : underWay older = part :: rest) :
    Befits (.left part) older where
  enters _ := Event.noConfusion
  leaves := by
    rintro other ⟨⟩
    rw [h]
    rfl
  begins := by rintro number ⟨⟩
  works := by rintro other ⟨⟩

/-- A turn or step may begin as soon as its driver has come. -/
theorem of_beginner {number : Nat} (hbegins : event.beginner = some number)
    (hhead : older.head? = some (.entered (.driver number))) :
    event.Befits older := by
  have hworker := worker_of_beginner hbegins
  constructor
  · rintro part rfl
    cases hbegins
  · rintro part rfl
    cases hbegins
  · intro other hother
    rw [hbegins] at hother
    cases hother
    exact hhead
  · intro part hpart
    rw [hworker] at hpart
    cases hpart
    obtain ⟨rest, rfl⟩ := List.head?_eq_some_iff.mp hhead
    exact List.mem_cons_self

end Event.Befits

/-- No part is under way twice. -/
theorem nodup_underWay (h : Lawful Event.Befits journal) : (underWay journal).Nodup := by
  induction journal with
  | nil => exact List.nodup_nil
  | cons event older ih =>
      have holder := ih h.2
      cases event with
      | entered part => exact List.nodup_cons.mpr ⟨h.1.enters part rfl, holder⟩
      | left part => exact holder.erase part
      | _ => exact holder

end Journal

end Cadence
