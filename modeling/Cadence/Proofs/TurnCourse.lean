import Cadence.Proofs.StepTempo

/-!
The course of a turn.  A turn is counted and takes over what it is timed by.  Unless the
emulation is paused it then has a frame's worth of cycles, up to the first that fails, and,
if none has, activates a batch of renders, which ends with the first that fails.
-/

namespace Cadence

open Exec Contract

namespace Driver

/-- A driver with so many more cycles and renders behind it. -/
def tallied (cycles renders : Nat) (driver : Driver) : Driver :=
  { driver with
    stats :=
      { driver.stats with
        cycles := driver.stats.cycles + cycles
        renders := driver.stats.renders + renders } }

/-- How many renders are planned if they are activated now. -/
def plannedRenders (number : Nat) (rig : Rig) : Nat :=
  ((rig.driver number).render.plan (clockTime (rig.driver number).timebase rig)).1

/-- The rig when the renders have been activated: the baseline has moved, and none of them
has been made yet. -/
def rendersActivated (number : Nat) (rig : Rig) : Rig :=
  let driver := rig.driver number
  let now := clockTime driver.timebase rig
  { rig with
    drivers := rig.drivers.modify number ({ · with render := (driver.render.plan now).2 })
    journal := .activated number driver.render (plannedRenders number rig) ::
      ((driver.render.planNotice now).reverse.map Event.logged ++ rig.journal) }

/-- Renders of a driver, one after the other, of which only the last one may fail. -/
inductive Renders (play : Play) (number : Nat) : Nat → Rig → Ending Verdict → Rig → Prop
  | done {rig} : Renders play number 0 rig (.value (.ok ())) rig
  | fails {rig ending later}
      (hrender : (renderOnce number rig).run play = (ending, later))
      (hfails : ∀ answer, ending ≠ .value (.ok answer)) :
      Renders play number 1 rig ending later
  | next {calls rig answer middle ending later}
      (hrender : (renderOnce number rig).run play = (.value (.ok answer), middle))
      (hrest : Renders play number calls middle ending later) :
      Renders play number (calls + 1) rig ending later

/-- What becomes of a rig in a turn that has begun. -/
inductive TurnCourse (play : Play) (number : Nat) (rig : Rig) :
    Ending (Except Failure Turn) → Rig → Prop
  | pauses (hpaused : rig.pace.running = false) :
      TurnCourse play number rig (.value (.ok .paused)) (changed number countPaused rig)
  | cut {emulator calls ending outcome advanced} (hrunning : rig.pace.running = true)
      (hemulator : (rig.driver number).emulator = emulator)
      (hcycles : Cycles play number emulator calls
        (rig.entered (.emulator emulator) (Emulator.mark emulator)) ending advanced)
      (hcalls : calls ≤ rig.pace.rate.cycles.toNat) (hpasses : ending.PassesOn outcome) :
      TurnCourse play number rig outcome
        (advanced.leftBy (.emulator emulator) (Emulator.mark emulator))
  | renderFails {emulator answer advanced between renders ending outcome later}
      (hrunning : rig.pace.running = true)
      (hemulator : (rig.driver number).emulator = emulator)
      (hcycles : Cycles play number emulator rig.pace.rate.cycles.toNat
        (rig.entered (.emulator emulator) (Emulator.mark emulator))
        (.value (.ok answer)) advanced)
      (hbetween : advanced.leftBy (.emulator emulator) (Emulator.mark emulator) = between)
      (hrenders : Renders play number renders (rendersActivated number between) ending later)
      (hplanned : renders ≤ plannedRenders number between)
      (hpasses : ending.PassesOn outcome) :
      TurnCourse play number rig outcome later
  | completes {emulator answer advanced between rendered later}
      (hrunning : rig.pace.running = true)
      (hemulator : (rig.driver number).emulator = emulator)
      (hcycles : Cycles play number emulator rig.pace.rate.cycles.toNat
        (rig.entered (.emulator emulator) (Emulator.mark emulator))
        (.value (.ok answer)) advanced)
      (hbetween : advanced.leftBy (.emulator emulator) (Emulator.mark emulator) = between)
      (hrenders : Renders play number (plannedRenders number between)
        (rendersActivated number between) (.value (.ok rendered)) later) :
      TurnCourse play number rig
        (.value (.ok (.ran rig.pace.rate.cycles (.ofCount (plannedRenders number between)))))
        (changed number (tallied 0 (plannedRenders number between)) later)

section Course

variable {number : Nat} {play : Play} {rig later : Rig} {ending : Ending Verdict}

/-- Renders are made one after the other, up to the first that fails. -/
theorem exists_renders (times : Nat)
    (hrun : (renderTimes number times rig).run play = (ending, later)) :
    ∃ calls ≤ times, Renders play number calls rig ending later ∧
      ∀ answer, ending = .value (.ok answer) → calls = times := by
  induction times generalizing rig with
  | zero =>
      cases hrun
      exact ⟨0, Nat.le_refl _, .done, fun _ _ => rfl⟩
  | succ times ih =>
      rw [renderTimes, bind_apply] at hrun
      rcases hrender : (renderOnce number rig).run play with ⟨rendered, middle⟩
      by_cases hok : ∃ answer, rendered = .value (.ok answer)
      · obtain ⟨answer, rfl⟩ := hok
        rw [Progress.run_andThen, hrender] at hrun
        obtain ⟨calls, hcalls, hrenders, hall⟩ := ih hrun
        exact ⟨calls + 1, by omega, .next hrender hrenders,
          fun answer h => congrArg (· + 1) (hall answer h)⟩
      · have hfails := not_exists.mp hok
        obtain ⟨hpasses, rfl⟩ := passesOn_of_run hrun hrender hfails fun _ _ => rfl
        obtain rfl := hpasses.eq
        exact ⟨1, by omega, .fails hrender hfails, fun answer h => absurd h (hfails answer)⟩

/-- An activation moves the baseline and then makes the planned renders. -/
theorem run_activateRender
    (hrender : (renderTimes number (plannedRenders number rig)
      (rendersActivated number rig)).run play = (ending, later)) :
    (activateRender number rig).run play =
      (ending.map fun verdict =>
        verdict.map fun _ => Activation.ofCount (plannedRenders number rig), later) := by
  change ((renderTimes number (plannedRenders number rig)
    (rendersActivated number rig)).andThen _).run play = _
  rw [Progress.run_andThen, hrender]
  rcases ending with (failure | answer) | cause | _ <;> rfl

/-- If its emulator is free, a turn takes its course. -/
theorem course_carryOn {outcome : Ending (Except Failure Turn)}
    (hfree : (rig.emulator (rig.driver number).emulator).isBusy = false)
    (hrun : (carryOn number rig).run play = (outcome, later)) :
    TurnCourse play number rig outcome later := by
  cases hrunning : rig.pace.running with
  | false =>
      rw [run_carryOn_paused play hrunning] at hrun
      cases hrun
      exact .pauses hrunning
  | true =>
      obtain ⟨emulator, hemulator⟩ : ∃ emulator, (rig.driver number).emulator = emulator :=
        ⟨_, rfl⟩
      rw [hemulator] at hfree
      rcases hadvanced : (advanceTimes number emulator rig.pace.rate.cycles.toNat
        (rig.entered (.emulator emulator) (Emulator.mark emulator))).run play with
        ⟨advancing, advanced⟩
      have hadvance := run_advance hemulator hfree hadvanced
      obtain ⟨calls, hcalls, hcycles, hall⟩ := exists_cycles _ hadvanced
      simp only [carryOn, bind_apply, look_apply, Progress.andThen, hrunning, Bool.not_true,
        Bool.false_eq_true, if_false] at hrun
      by_cases hok : ∃ answer, advancing = .value (.ok answer)
      · obtain ⟨answer, rfl⟩ := hok
        obtain rfl := hall answer rfl
        obtain ⟨between, hbetween⟩ : ∃ between,
            advanced.leftBy (.emulator emulator) (Emulator.mark emulator) = between := ⟨_, rfl⟩
        rw [hbetween] at hadvance
        rcases hrender : (renderTimes number (plannedRenders number between)
          (rendersActivated number between)).run play with ⟨rendering, rendered⟩
        obtain ⟨renders, hplanned, hrenders, hcomplete⟩ := exists_renders _ hrender
        have hactivate := run_activateRender hrender
        rw [Progress.run_andThen, hadvance] at hrun
        change ((activateRender number between).andThen _).run play = _ at hrun
        by_cases hok : ∃ answer, rendering = .value (.ok answer)
        · obtain ⟨answer, rfl⟩ := hok
          obtain rfl := hcomplete answer rfl
          rw [Progress.run_andThen, hactivate] at hrun
          simp only [Ending.map, Except.map, modifyStats, modify, bind_apply, update_apply,
            Progress.andThen, Activation.count_ofCount] at hrun
          cases hrun
          exact .completes hrunning hemulator hcycles hbetween hrenders
        · have hfails (answer : Activation) :
              (rendering.map fun verdict => verdict.map fun _ =>
                Activation.ofCount (plannedRenders number between)) ≠
                  .value (.ok answer) := by
            intro hanswer
            rcases rendering with (failure | result) | cause | _
            · cases hanswer
            · exact hok ⟨result, rfl⟩
            · cases hanswer
            · cases hanswer
          obtain ⟨hpasses, rfl⟩ := passesOn_of_run hrun hactivate hfails fun _ _ => rfl
          exact .renderFails hrunning hemulator hcycles hbetween hrenders hplanned
            hpasses.of_map
      · obtain ⟨hpasses, rfl⟩ :=
          passesOn_of_run hrun hadvance (not_exists.mp hok) fun _ _ => rfl
        exact .cut hrunning hemulator hcycles hcalls hpasses

end Course

end Driver

end Cadence
