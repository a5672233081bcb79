import Cadence.Proofs.SingleRenders
import Cadence.Proofs.SteeringCode
import Cadence.Proofs.StepTempo

/-!
Stepped runs.  In a run of a driver whose emulator and display oblige, steps may be put
anywhere between the turns, and each turn comes to the same.
-/

namespace Cadence

/-- What may happen to a driver: turns, steps, and user code in between that steers. -/
inductive Beat
  | turn (measuredRate : Option Binary64)
  /-- The delivery of a step that was registered for some generation of the driver. -/
  | step (generation : Nat)
  | script (code : Script)

namespace Beat

variable (number depth : Nat)

/-- The rig after something has happened. -/
def play (rig : Rig) : Beat → Rig
  | turn measuredRate =>
      ((Driver.ifFree number (Driver.turn number measuredRate) rig).run
        (Script.playWithin depth)).2
  | step generation =>
      ((Driver.deliverStep number generation rig).run (Script.playWithin depth)).2
  | script code => (code.playWithin (depth + 1) rig).2

/-- What a turn comes to. -/
def outcome (rig : Rig) : Beat → Option (Ending (Option (Except Failure Turn)))
  | turn measuredRate =>
      some ((Driver.ifFree number (Driver.turn number measuredRate) rig).run
        (Script.playWithin depth)).1
  | _ => none

/-- What the turns of a run come to, one after the other. -/
def outcomes : List Beat → Rig → List (Ending (Option (Except Failure Turn)))
  | [], _ => []
  | beat :: rest, rig =>
      (beat.outcome number depth rig).toList ++ outcomes rest (beat.play number depth rig)

/-- Whether it is a step. -/
def isStep : Beat → Bool
  | step _ => true
  | _ => false

/-- User code steers. -/
def Steers (listeners : List Nat) : Beat → Prop
  | script code => code.Steers listeners
  | _ => True

end Beat

/-- A run without its steps. -/
def withoutSteps (beats : List Beat) : List Beat :=
  beats.filter fun beat => !beat.isStep

namespace Schedule

variable {listeners : List Nat} {schedule : Schedule}

/-- A turn lets nobody else listen. -/
theorem Steered.turn (h : schedule.Steered listeners) :
    schedule.turn.2.Steered listeners := by
  have hopened : schedule.opened.Steered listeners := by
    unfold opened
    split
    · exact h
    · exact ⟨h.observers, h.courses⟩
  unfold Schedule.turn
  split
  · exact ⟨hopened.observers, hopened.courses⟩
  · exact hopened

end Schedule

namespace Driver

variable {depth : Nat} {listeners : List Nat} {number : Nat} {equipment : Equipment}
  {schedule : Schedule} {rig other : Rig} {beats : List Beat}

/-- What steps do with a driver, and what they leave to its turns. -/
structure KeepsCadence (depth number : Nat) (rig : Rig) : Prop where
  /-- A driver that is free takes a step that is meant for it, if its emulator is free. -/
  takes : ∀ {generation ending later},
    (rig.driver number).alive = true ∧ (rig.driver number).generation = generation →
    (rig.driver number).busy = false →
    (rig.emulator (rig.driver number).emulator).isBusy = false →
    (deliverStep number generation rig).run (Script.playWithin depth) = (ending, later) →
    Stepped depth number rig ending later
  /-- The render of a step gives the display its status and at most one frame. -/
  render : ∀ moment, RendersOnce (Script.playWithin depth) number moment
  /-- While a driver is busy, and when it is gone, a step is logged at most. -/
  refuses : ∀ generation, (rig.driver number).busy = true ∨
    ¬ ((rig.driver number).alive = true ∧ (rig.driver number).generation = generation) →
    ∃ lines : List Log.Line,
      (deliverStep number generation rig).run (Script.playWithin depth) =
        (.value (), { rig with journal := lines.map Event.logged ++ rig.journal })
  /-- If the emulator and the display oblige, every turn of a run comes to what it would
  come to without the steps before it. -/
  unheard : ∀ {listeners equipment schedule beats},
    Steady depth listeners number equipment schedule false false rig →
    schedule.Steered listeners → (∀ beat ∈ beats, Beat.Steers listeners beat) →
    Beat.outcomes number depth beats rig =
        Beat.outcomes number depth (withoutSteps beats) rig ∧
      ∀ outcome ∈ Beat.outcomes number depth beats rig,
        ∃ turn, outcome = .value (some (.ok turn))

/-- The emulation is paused by a command. -/
def stopping : Script :=
  .order (.control (.apply .toggleRunning)) fun _ => .done .null

end Driver

end Cadence
