import Cadence.Proofs.Handovers
import Cadence.Proofs.SecludedOrders

/-!
Refusals.  What is under way does not begin again, and an attempt at it changes
nothing; only a turn that finds its emulator in use has begun, which shows in its
driver.
-/

namespace Cadence

open Exec

namespace Driver

/-- A driver when a turn of it has begun. -/
def begun (measuredRate : Option Binary64) (driver : Driver) : Driver :=
  { driver with
    measuredRate
    stats := { driver.stats with turns := driver.stats.turns + 1 } }.applyPending

/-- The rig when a turn has begun. -/
def opened (number : Nat) (measuredRate : Option Binary64) (rig : Rig) : Rig :=
  { rig with
    drivers := rig.drivers.modify number (begun measuredRate)
    journal := (rig.driver number).applyNotice.reverse.map Event.logged ++
      .turnBegan number :: rig.journal }

theorem openTurn_eq (number : Nat) (measuredRate : Option Binary64) (rig : Rig) :
    openTurn number measuredRate rig =
      .ended (.value ()) (opened number measuredRate rig) := by
  simp only [openTurn, modifyStats, modify, bind_apply, record_apply, update_apply,
    look_apply, log_apply, Progress.andThen, opened, modify_modify]
  have hnotice := view_modify applyNotice
    (fun driver => { driver with
      stats := { driver.stats with turns := driver.stats.turns + 1 }, measuredRate })
    (fun _ => rfl) rig number number
  rw [Rig.driver, hnotice]
  rfl

/-- What a turn does once it has begun. -/
def carryOn (number : Nat) : Exec (Except Failure Turn) := do
  if !(← look (·.pace.running)) then
    modifyStats number fun stats =>
      { stats with pausedTurns := stats.pausedTurns + 1 }
    return .ok .paused
  let cycles := (← look (·.pace.rate)).cycles
  match ← advance number cycles with
  | .error failure => return .error failure
  | .ok _ =>
      match ← activateRender number with
      | .error failure => return .error failure
      | .ok rendered =>
          modifyStats number fun stats =>
            { stats with renders := stats.renders + rendered.count }
          return .ok (.ran cycles rendered)

theorem turn_eq (number : Nat) (measuredRate : Option Binary64) :
    turn number measuredRate = (do
      openTurn number measuredRate
      carryOn number) := rfl

/-- A rig with a change of one driver. -/
def changed (number : Nat) (change : Driver → Driver) (rig : Rig) : Rig :=
  { rig with drivers := rig.drivers.modify number change }

/-- A rig in which a turn has begun. -/
def turnStarted (number : Nat) (measuredRate : Option Binary64) (rig : Rig) : Rig :=
  opened number measuredRate (rig.entered (.driver number) (mark number))

/-- A rig after the end of a turn. -/
def turnOver (number : Nat) (rig : Rig) : Rig :=
  (rig.leftBy (.driver number) (mark number)).retireAbandoned

/-- One more paused turn. -/
def countPaused (driver : Driver) : Driver :=
  { driver with
    stats := { driver.stats with pausedTurns := driver.stats.pausedTurns + 1 } }

theorem turn_entered (number : Nat) (measuredRate : Option Binary64) (rig : Rig) :
    turn number measuredRate (rig.entered (.driver number) (mark number)) =
      carryOn number (turnStarted number measuredRate rig) := by
  rw [turn_eq, bind_apply, openTurn_eq]
  rfl

/-- A turn that has begun while the emulation is paused is counted, and that is all. -/
theorem run_carryOn_paused {number : Nat} {rig : Rig} (play : Play)
    (hpaused : rig.pace.running = false) :
    (carryOn number rig).run play =
      (.value (.ok .paused), changed number countPaused rig) := by
  simp only [carryOn, bind_apply, look_apply, Progress.andThen, hpaused]
  rfl

end Driver

/-- A driver that nothing refers to may be let go, and nothing else becomes of it. -/
theorem Rig.driver_retireAbandoned (rig : Rig) (number : Nat) :
    ∃ alive, rig.retireAbandoned.driver number =
      { rig.driver number with alive } := by
  refine Rig.retireAbandoned_induct
    (fun later => ∃ alive, later.driver number = { rig.driver number with alive })
    (fun other later _ hlater => ?_) ⟨(rig.driver number).alive, rfl⟩
  obtain ⟨alive, hdriver⟩ := hlater
  by_cases hother : other = number ∧ other < later.drivers.size
  · refine ⟨false, ?_⟩
    obtain ⟨rfl, hsize⟩ := hother
    exact (Driver.driver_modify hsize _).trans (congrArg ({ · with alive := false }) hdriver)
  · refine ⟨alive, ?_⟩
    rw [← hdriver, Rig.driver, Rig.retire, Array.getElem?_modify]
    split
    · rename_i heq
      have hsize : later.drivers.size ≤ number := by
        rw [heq] at hother
        simpa using hother
      rw [Rig.driver, Array.getElem?_eq_none hsize]
      rfl
    · rfl

theorem Rig.emulators_retireAbandoned (rig : Rig) :
    rig.retireAbandoned.emulators = rig.emulators :=
  Rig.retireAbandoned_induct (fun later => later.emulators = rig.emulators)
    (fun _ _ _ hlater => hlater) rfl

variable {rig : Rig} {number : Nat}

namespace Emulator

theorem whenFree_of_busy (hbusy : (rig.emulator number).isBusy = true)
    (phase : EmulatorPhase) (body : Exec Verdict) :
    whenFree number phase body rig =
      .ended (.value (.error (.emulatorBusy phase))) rig := by
  simp [whenFree, Progress.andThen, hbusy]

theorem whenFree_of_free (hfree : (rig.emulator number).isBusy = false)
    (phase : EmulatorPhase) (body : Exec Verdict) :
    whenFree number phase body rig = occupying number body rig := by
  simp [whenFree, Progress.andThen, hfree]

theorem hold_of_busy (hbusy : (rig.emulator number).isBusy = true) :
    hold number rig = .ended (.value false) rig := by
  simp [hold, Progress.andThen, hbusy]

end Emulator

namespace Driver

/-- A turn that finds its emulator in use has begun, and does nothing else. -/
theorem turn_of_busy (hrunning : rig.pace.running = true)
    (hbusy : (rig.emulator (rig.driver number).emulator).isBusy = true)
    (measuredRate : Option Binary64) :
    turn number measuredRate rig =
      .ended (.value (.error (.emulatorBusy .advance)))
        (opened number measuredRate rig) := by
  have hemulator : ((opened number measuredRate rig).driver number).emulator =
      (rig.driver number).emulator := by
    refine view_modify Driver.emulator _ (fun driver => ?_) rig number number
    simp only [begun, applyPending]
    split <;> rfl
  have hopened : ((opened number measuredRate rig).emulator
      ((opened number measuredRate rig).driver number).emulator).isBusy = true := by
    rw [hemulator]
    exact hbusy
  have hpace : (opened number measuredRate rig).pace.running = true := hrunning
  rw [turn, bind_apply, openTurn_eq, Progress.andThen]
  simp [advance_eq, Emulator.whenFree_of_busy hopened, Progress.andThen, hpace]

/-- A step that finds its emulator in use does nothing at all. -/
theorem step_of_busy
    (hbusy : (rig.emulator (rig.driver number).emulator).isBusy = true) :
    step number rig = .ended (.value (.error (.emulatorBusy .advance)))
      { rig with journal := .stepBegan number :: rig.journal } := by
  have hbegun : ((({ rig with journal := .stepBegan number :: rig.journal } : Rig).emulator
      (({ rig with journal := .stepBegan number :: rig.journal } : Rig).driver
        number).emulator)).isBusy = true := hbusy
  simp [step, advance_eq, Emulator.whenFree_of_busy hbegun, Progress.andThen]

/-- What a driver does when it is free, if it hands the rig over to nobody. -/
theorem ifFree_of_ended {α : Type} {a : α} {driver : Driver} {later : Rig}
    {body : Exec α} (hdriver : rig.drivers[number]? = some driver)
    (hfree : driver.busy = false)
    (hbody : body (rig.entered (.driver number) (mark number)) =
      .ended (.value a) later) :
    ifFree number body rig =
      .ended (.value (some a))
        (later.leftBy (.driver number) (mark number)).retireAbandoned := by
  rw [ifFree_of_free hdriver hfree, map_apply, ensuring_apply, within_apply]
  change (((body (rig.entered _ _)).atEnd _).atEnd _).andThen _ = _
  rw [hbody]
  rfl

/-- What a driver does when it is free is done as soon as it has come, and when it has
gone again it may be let go. -/
theorem run_ifFree {α : Type} {driver : Driver} {play : Play} {body : Exec α}
    {ending : Ending α} {later : Rig} (hdriver : rig.drivers[number]? = some driver)
    (hfree : driver.busy = false)
    (hbody : (body (rig.entered (.driver number) (mark number))).run play =
      (ending, later)) :
    (ifFree number body rig).run play =
      (ending.map some, (later.leftBy (.driver number) (mark number)).retireAbandoned) := by
  have happly : ifFree number body rig =
      (((body (rig.entered (.driver number) (mark number))).atEnd
        (·.leftBy (.driver number) (mark number))).atEnd Rig.retireAbandoned).andThen
          fun a => (pure (some a) : Exec (Option α)) :=
    ifFree_of_free hdriver hfree body
  rw [happly, Progress.run_andThen, Progress.run_atEnd, Progress.run_atEnd, hbody]
  cases ending <;> rfl

/-- A turn or step is refused as the emulator is in use, and leaves the driver behind
as `driver`, but that nobody may refer to it any more. -/
def IsRefused {α : Type} (number : Nat) (attempt : Exec (Option (Except Failure α)))
    (rig : Rig) (driver : Driver) : Prop :=
  ∃ later alive,
    attempt rig = .ended (.value (some (.error (.emulatorBusy .advance)))) later ∧
      later.emulators = rig.emulators ∧ later.driver number = { driver with alive }

/-- Whatever a refused attempt has made of the driver remains. -/
theorem isRefused_of_ended {α : Type} {driver after : Driver} {later : Rig}
    {body : Exec (Except Failure α)} (hdriver : rig.drivers[number]? = some driver)
    (hfree : driver.busy = false)
    (hbody : body (rig.entered (.driver number) (mark number)) =
      .ended (.value (.error (.emulatorBusy .advance))) later)
    (hemulators : later.emulators = rig.emulators)
    (hlater : later.drivers[number]? = some { after with busy := true })
    (hafter : after.busy = false) :
    IsRefused number (ifFree number body) rig after := by
  have hended := ifFree_of_ended hdriver hfree hbody
  obtain ⟨alive, hretired⟩ :=
    Rig.driver_retireAbandoned (later.leftBy (.driver number) (mark number)) number
  have hkept : (later.leftBy (.driver number) (mark number)).driver number = after := by
    cases after
    cases hafter
    simp [Rig.driver, Rig.leftBy, mark, Array.getElem?_modify, hlater]
  rw [hkept] at hretired
  refine ⟨_, alive, hended, ?_, hretired⟩
  rw [Rig.emulators_retireAbandoned]
  exact hemulators

section Busy

variable {driver : Driver} (hdriver : rig.drivers[number]? = some driver)

include hdriver

theorem getElem?_entered :
    (rig.entered (.driver number) (mark number)).drivers[number]? =
      some { driver with busy := true } := by
  simp [Rig.entered, mark, Array.getElem?_modify, hdriver]

variable (hfree : driver.busy = false)
  (hbusy : (rig.emulator driver.emulator).isBusy = true)

include hbusy

theorem emulator_of_entered :
    ((rig.entered (.driver number) (mark number)).emulator
      ((rig.entered (.driver number) (mark number)).driver number).emulator).isBusy =
        true := by
  have hentered : (rig.entered (.driver number) (mark number)).driver number =
      { driver with busy := true } := by
    rw [Rig.driver, getElem?_entered hdriver]
    rfl
  rw [hentered]
  exact hbusy

include hfree

theorem isRefused_turn (hrunning : rig.pace.running = true)
    (measuredRate : Option Binary64) :
    IsRefused number (ifFree number (turn number measuredRate)) rig
      (driver.begun measuredRate) := by
  have hentered : (rig.entered (.driver number) (mark number)).pace.running = true :=
    hrunning
  have hturn := turn_of_busy hentered (emulator_of_entered hdriver hbusy) measuredRate
  have hbegun : begun measuredRate { driver with busy := true } =
      { driver.begun measuredRate with busy := true } :=
    applyPending_busy { driver with
      measuredRate
      stats := { driver.stats with turns := driver.stats.turns + 1 } } true
  -- The mark of the turn is taken off again, so the driver is free as it was before.
  have hidle : (driver.begun measuredRate).busy = false := by
    rw [← hfree]
    exact busy_applyPending _
  refine isRefused_of_ended hdriver hfree hturn rfl ?_ hidle
  rw [← hbegun]
  simp [opened, Array.getElem?_modify, getElem?_entered hdriver]

theorem isRefused_step :
    IsRefused number (ifFree number (step number)) rig driver :=
  isRefused_of_ended hdriver hfree (step_of_busy (emulator_of_entered hdriver hbusy)) rfl
    (getElem?_entered hdriver) hfree

end Busy

end Driver

end Cadence
