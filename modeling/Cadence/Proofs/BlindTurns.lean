import Cadence.Proofs.BlindOrders
import Cadence.Proofs.Refusals

/-!
Blind turns.  How many turns a driver has taken, and how many of them were paused, makes
no difference to any turn: turns do not see through the veil that hides just that.
-/

namespace Cadence

open Exec

/-- So many more turns that were paused. -/
def DriverStats.shifted (shift : Nat) (stats : DriverStats) : DriverStats :=
  { stats with
    turns := stats.turns + shift
    pausedTurns := stats.pausedTurns + shift }

/-- A driver that has taken so many more turns while paused. -/
def Driver.shifted (shift : Nat) (driver : Driver) : Driver :=
  { driver with stats := driver.stats.shifted shift }

namespace Veil

/-- Hides by how many paused turns drivers differ, and nothing else, while the driver is
in the middle of a turn. -/
def counts (number : Nat) : Veil where
  number
  blur := Driver.shifted
  told millis driver := { driver with pending := some millis }
  knows driver := driver.handle = true ∧ driver.busy = true
  blur_told _ _ _ := rfl
  knows_told _ _ h := h

variable {veil : Veil} {hidden : Nat} {α β : Type}

/-- What does not depend on the counts of a driver is seen through the veil. -/
theorem view_counts (view : Driver → α)
    (hview : ∀ shift driver, view (Driver.shifted shift driver) = view driver)
    (number shift : Nat) (rig : Rig) :
    view (((counts hidden).hide shift rig).driver number) = view (rig.driver number) :=
  Driver.view_modify view (Driver.shifted shift) (hview shift) rig number hidden

theorem blind_look_driver (view : Driver → α)
    (hview : ∀ shift driver, view (Driver.shifted shift driver) = view driver)
    (number : Nat) :
    (counts hidden).Blind (look fun rig => view (rig.driver number)) :=
  blind_look (view_counts view hview number)

/-- A look at a driver, of which only some parts matter. -/
theorem blind_driver_bind {number : Nat} {next : Driver → Exec β}
    (hparts : ∀ shift driver, next (Driver.shifted shift driver) = next driver)
    (hnext : ∀ driver, (counts hidden).Blind (next driver)) :
    (counts hidden).Blind (look (·.driver number) >>= next) := by
  intro shift rig other halike
  have hsame : next (rig.driver number) = next (other.driver number) :=
    halike.view (fun rig => next (rig.driver number)) (view_counts next hparts number)
  simp only [bind_apply, look_apply, Progress.andThen]
  rw [← hsame]
  exact hnext _ shift rig other halike

/-- What becomes of a driver whatever its counts are. -/
theorem keeps_counts_drivers (number : Nat) {change : Driver → Driver}
    (hshift : ∀ shift driver,
      Driver.shifted shift (change driver) = change (Driver.shifted shift driver))
    (hbusy : ∀ driver, (change driver).busy = driver.busy)
    (hhandle : ∀ driver, (change driver).handle = driver.handle)
    (halive : ∀ driver, (change driver).alive = driver.alive) :
    (counts hidden).Keeps fun rig =>
      { rig with drivers := rig.drivers.modify number change } := by
  refine keeps_drivers number change (fun shift driver _ => hshift shift driver)
    (fun driver _ hknown => ?_) hhandle halive
  exact ⟨(hhandle driver).trans hknown.1, (hbusy driver).trans hknown.2⟩

end Veil

open Veil

variable {veil : Veil} {hidden : Nat}

namespace Emulator

theorem blind_modify (number : Nat) (change : Emulator → Emulator) :
    veil.Blind (modify number change) :=
  blind_aside (fun _ _ => rfl) fun _ => ⟨rfl, rfl, rfl, rfl⟩

theorem keeps_mark (number : Nat) (inUse : Bool) : veil.Keeps (mark number inUse) :=
  keeps_aside (fun _ _ => rfl) fun _ => ⟨rfl, rfl, rfl, rfl⟩

theorem blind_advance (number : Nat) : veil.Blind (advance number) := by
  apply (blind_record _).seq
  apply (blind_look fun _ _ => rfl).bind
  intro emulator
  split
  · exact (blind_modify number _).bind fun _ => blind_pure _
  · apply (blind_call _ _).bind
    intro verdict
    split
    · exact blind_pure _
    · exact (blind_modify number _).bind fun _ => blind_pure _

theorem blind_render (number : Nat) : veil.Blind (render number) := by
  apply (blind_record _).seq
  apply (blind_look fun _ _ => rfl).bind
  intro emulator
  split
  · exact (blind_look fun _ _ => rfl).bind fun _ => blind_pure _
  · apply (blind_call _ _).bind
    intro verdict
    split
    · exact blind_pure _
    · exact (blind_look fun _ _ => rfl).bind fun _ => blind_pure _

theorem blind_whenFree (number : Nat) (phase : EmulatorPhase) {body : Exec Verdict}
    (hbody : veil.Blind body) : veil.Blind (whenFree number phase body) := by
  apply (blind_look fun _ _ => rfl).bind
  intro emulator
  split
  · exact blind_pure _
  · refine hbody.within ?_ ?_
    · exact (keeps_mark number true).comp (keeps_record _)
    · exact (keeps_mark number false).comp (keeps_record _)

end Emulator

namespace Driver

theorem blind_modify (number : Nat) {change : Driver → Driver}
    (hshift : ∀ shift driver, (change driver).shifted shift = change (driver.shifted shift))
    (hbusy : ∀ driver, (change driver).busy = driver.busy)
    (hhandle : ∀ driver, (change driver).handle = driver.handle)
    (halive : ∀ driver, (change driver).alive = driver.alive) :
    (counts hidden).Blind (modify number change) :=
  (keeps_counts_drivers number hshift hbusy hhandle halive).blind

theorem blind_modifyStats (number : Nat) {change : DriverStats → DriverStats}
    (hshift : ∀ shift stats,
      (change stats).shifted shift = change (stats.shifted shift)) :
    (counts hidden).Blind (modifyStats number change) :=
  blind_modify number
    (fun shift driver => congrArg (fun stats => { driver with stats })
      (hshift shift driver.stats))
    (fun _ => rfl) (fun _ => rfl) fun _ => rfl

theorem blind_paint (number : Nat) (display : Display) :
    (counts hidden).Blind (modify number ({ · with display })) :=
  blind_modify number (fun _ _ => rfl) (fun _ => rfl) (fun _ => rfl) fun _ => rfl

theorem blind_setStatus (number : Nat) (text : String) :
    (counts hidden).Blind (setStatus number text) := by
  refine blind_driver_bind (fun _ _ => rfl) fun driver => ?_
  split
  · exact (blind_record _).seq (blind_paint number _)
  · exact blind_pure ()
  · exact (blind_record _).seq (blind_callQuietly _ _)
  · exact (blind_record _).seq (blind_paint number _)

theorem blind_draw (number : Nat) (bytes : Array UInt8) :
    (counts hidden).Blind (draw number bytes) := by
  apply (blind_record _).seq
  refine blind_driver_bind (fun _ _ => rfl) fun driver => ?_
  split
  · exact (blind_paint number _).bind fun _ => blind_pure _
  · exact blind_call _ _
  · split
    · exact blind_unwind _
    · exact blind_pure _
    · exact (blind_paint number _).bind fun _ => blind_pure _

theorem blind_renderAndDraw (number emulator : Nat) :
    (counts hidden).Blind (renderAndDraw number emulator) := by
  apply (Emulator.blind_render emulator).bind
  intro frame
  split
  · exact blind_pure _
  · apply (blind_look_driver (·.display.frameBytes) (fun _ _ => rfl) number).bind
    intro expected
    split
    · exact blind_pure _
    · apply (blind_draw number _).bind
      intro verdict
      split
      · exact blind_pure _
      · exact (blind_record _).bind fun _ => blind_pure _

theorem blind_renderOnce (number : Nat) :
    (counts hidden).Blind (renderOnce number) := by
  rw [renderOnce_eq]
  have hrate (shift : Nat) (rig : Rig) :
      (((counts hidden).hide shift rig).driver number).measuredRate =
        (rig.driver number).measuredRate :=
    view_counts Driver.measuredRate (fun _ _ => rfl) number shift rig
  apply (blind_look fun shift rig => congrArg
    (statusLine rig.pace.rate rig.pace.running) (hrate shift rig)).bind
  intro status
  apply (blind_setStatus number status).seq
  apply (blind_look_driver Driver.emulator (fun _ _ => rfl) number).bind
  intro emulator
  exact Emulator.blind_whenFree emulator _ (blind_renderAndDraw number emulator)

theorem blind_renderTimes (number times : Nat) :
    (counts hidden).Blind (renderTimes number times) := by
  induction times with
  | zero => exact blind_pure _
  | succ times ih =>
      apply (blind_renderOnce number).bind
      intro verdict
      split
      · exact blind_pure _
      · exact ih

theorem blind_advanceTimes (number emulator times : Nat) :
    (counts hidden).Blind (advanceTimes number emulator times) := by
  induction times with
  | zero => exact blind_pure _
  | succ times ih =>
      apply (Emulator.blind_advance emulator).bind
      intro verdict
      split
      · exact blind_pure _
      · exact (blind_modifyStats number fun _ _ => rfl).bind fun _ => ih

theorem blind_advance (number : Nat) (cycles : UInt32) :
    (counts hidden).Blind (advance number cycles) := by
  rw [advance_eq]
  apply (blind_look_driver Driver.emulator (fun _ _ => rfl) number).bind
  intro emulator
  exact Emulator.blind_whenFree emulator _ (blind_advanceTimes number emulator _)

theorem blind_activateRender (number : Nat) :
    (counts hidden).Blind (activateRender number) := by
  refine blind_driver_bind (fun _ _ => rfl) fun driver => ?_
  have hclock : (counts hidden).Blind (look (clockTime driver.timebase)) := by
    cases driver.timebase with
    | shared => exact blind_look fun _ _ => rfl
    | still => exact blind_look fun _ _ => rfl
  apply hclock.bind
  intro now
  apply (blind_log _).seq
  apply (blind_record _).seq
  have htimes (render : Debouncer) :
      (counts hidden).Blind (modify number ({ · with render })) :=
    blind_modify number (fun _ _ => rfl) (fun _ => rfl) (fun _ => rfl) fun _ => rfl
  apply (htimes _).seq
  apply (blind_renderTimes number _).bind
  intro verdict
  split <;> exact blind_pure _

/-- Once a turn has begun, it goes on in the same way however many went before. -/
theorem blind_carryOn (number : Nat) : (counts hidden).Blind (carryOn number) := by
  have hpaused (shift : Nat) (stats : DriverStats) :
      DriverStats.shifted shift { stats with pausedTurns := stats.pausedTurns + 1 } =
        { stats.shifted shift with
          pausedTurns := (stats.shifted shift).pausedTurns + 1 } := by
    simp [DriverStats.shifted, Nat.add_right_comm]
  apply (blind_look fun _ _ => rfl).bind
  intro running
  split
  · exact (blind_modifyStats number hpaused).bind fun _ => blind_pure _
  · apply (blind_look fun _ _ => rfl).bind
    intro rate
    apply (blind_advance number _).bind
    intro verdict
    split
    · exact blind_pure _
    · apply (blind_activateRender number).bind
      intro rendered
      split
      · exact blind_pure _
      · exact (blind_modifyStats number fun _ _ => rfl).bind fun _ => blind_pure _

end Driver

end Cadence
