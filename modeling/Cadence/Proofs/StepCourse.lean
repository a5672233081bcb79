import Cadence.Proofs.Exclusion
import Cadence.Proofs.PaceProtocol
import Cadence.Proofs.Refusals
import Cadence.Proofs.WatchedDrivers

/-!
The course of a step.  A step has a frame's worth of cycles, up to the first that fails,
and one render if none has.  Turns and what they are timed by are of no concern to it.
-/

namespace Cadence

open Exec Contract

/-- What goes wrong is passed on as it is. -/
inductive Ending.PassesOn {α β : Type} :
    Ending (Except Failure α) → Ending (Except Failure β) → Prop
  | failed (failure : Failure) :
      PassesOn (.value (.error failure)) (.value (.error failure))
  | panicked (cause : Panic) : PassesOn (.panicked cause) (.panicked cause)
  | exhausted : PassesOn .exhausted .exhausted

/-- What ends a call of the kind of the whole is the end of the whole. -/
theorem Ending.PassesOn.eq {α : Type} {ending outcome : Ending (Except Failure α)}
    (h : ending.PassesOn outcome) : outcome = ending := by
  cases h <;> rfl

theorem Ending.PassesOn.of_map {α β γ : Type} {answer : α → γ}
    {ending : Ending (Except Failure α)} {outcome : Ending (Except Failure β)}
    (h : (ending.map fun verdict => verdict.map answer).PassesOn outcome) :
    ending.PassesOn outcome := by
  rcases ending with (failure | result) | cause | _
  · cases h
    exact .failed failure
  · cases h
  · cases h
    exact .panicked cause
  · cases h
    exact .exhausted

namespace Driver

/-- A cycle is counted. -/
def cycleCounted (number : Nat) (rig : Rig) : Rig :=
  { rig with
    drivers := rig.drivers.modify number fun driver =>
      { driver with stats := { driver.stats with cycles := driver.stats.cycles + 1 } } }

/-- A render is counted. -/
def renderCounted (number : Nat) (rig : Rig) : Rig :=
  { rig with
    drivers := rig.drivers.modify number fun driver =>
      { driver with stats := { driver.stats with renders := driver.stats.renders + 1 } } }

/-- Calls of an emulator for one cycle each, one after the other, of which only the last
one may fail.  The driver counts those that go well. -/
inductive Cycles (play : Play) (number emulator : Nat) :
    Nat → Rig → Ending Verdict → Rig → Prop
  | done {rig} : Cycles play number emulator 0 rig (.value (.ok ())) rig
  | fails {rig ending later}
      (hcall : (Emulator.advance emulator rig).run play = (ending, later))
      (hfails : ∀ answer, ending ≠ .value (.ok answer)) :
      Cycles play number emulator 1 rig ending later
  | next {calls rig answer middle ending later}
      (hcall : (Emulator.advance emulator rig).run play = (.value (.ok answer), middle))
      (hrest : Cycles play number emulator calls (cycleCounted number middle) ending later) :
      Cycles play number emulator (calls + 1) rig ending later

/-- What becomes of a rig in a step that has begun: either a cycle fails and that is all,
or there are as many as in a frame, and then one render. -/
inductive StepCourse (play : Play) (number : Nat) (rig : Rig) : Ending Verdict → Rig → Prop
  | cut {emulator calls ending later} (hemulator : (rig.driver number).emulator = emulator)
      (hcycles : Cycles play number emulator calls
        (rig.entered (.emulator emulator) (Emulator.mark emulator)) ending later)
      (hcalls : calls ≤ rig.pace.rate.cycles.toNat)
      (hfails : ∀ answer, ending ≠ .value (.ok answer)) :
      StepCourse play number rig ending
        (later.leftBy (.emulator emulator) (Emulator.mark emulator))
  | renderFails {emulator answer advanced ending later}
      (hemulator : (rig.driver number).emulator = emulator)
      (hcycles : Cycles play number emulator rig.pace.rate.cycles.toNat
        (rig.entered (.emulator emulator) (Emulator.mark emulator))
        (.value (.ok answer)) advanced)
      (hrender : (renderOnce number
        (advanced.leftBy (.emulator emulator) (Emulator.mark emulator))).run play =
          (ending, later))
      (hfails : ∀ answer, ending ≠ .value (.ok answer)) :
      StepCourse play number rig ending later
  | renders {emulator answer rendered advanced later}
      (hemulator : (rig.driver number).emulator = emulator)
      (hcycles : Cycles play number emulator rig.pace.rate.cycles.toNat
        (rig.entered (.emulator emulator) (Emulator.mark emulator))
        (.value (.ok answer)) advanced)
      (hrender : (renderOnce number
        (advanced.leftBy (.emulator emulator) (Emulator.mark emulator))).run play =
          (.value (.ok rendered), later)) :
      StepCourse play number rig (.value (.ok ())) (renderCounted number later)

section Course

variable {number emulator : Nat} {play : Play} {rig later : Rig} {ending : Ending Verdict}

/-- What goes wrong is the end of the whole. -/
theorem passesOn_of_run {α β : Type} {ending : Ending (Except Failure α)}
    {outcome : Ending (Except Failure β)} {last : Rig}
    {progress : Progress (Except Failure α)}
    {next : Except Failure α → Exec (Except Failure β)}
    (hwhole : (progress.andThen next).run play = (outcome, last))
    (hrun : progress.run play = (ending, later))
    (hfails : ∀ answer, ending ≠ .value (.ok answer))
    (hnext : ∀ failure rig,
      next (.error failure) rig = .ended (.value (.error failure)) rig) :
    ending.PassesOn outcome ∧ last = later := by
  rw [Progress.run_andThen, hrun] at hwhole
  cases ending with
  | value verdict =>
      cases verdict with
      | error failure =>
          have hends := congrArg (Progress.run play) (hnext failure later)
          cases hends.symm.trans hwhole
          exact ⟨.failed failure, rfl⟩
      | ok answer => exact absurd rfl (hfails answer)
  | panicked cause =>
      cases hwhole
      exact ⟨.panicked cause, rfl⟩
  | exhausted =>
      cases hwhole
      exact ⟨.exhausted, rfl⟩

/-- Cycles are made one after the other, up to the first that fails. -/
theorem exists_cycles (times : Nat)
    (hrun : (advanceTimes number emulator times rig).run play = (ending, later)) :
    ∃ calls ≤ times, Cycles play number emulator calls rig ending later ∧
      ∀ answer, ending = .value (.ok answer) → calls = times := by
  induction times generalizing rig with
  | zero =>
      cases hrun
      exact ⟨0, Nat.le_refl _, .done, fun _ _ => rfl⟩
  | succ times ih =>
      rw [advanceTimes, bind_apply] at hrun
      rcases hcall : (Emulator.advance emulator rig).run play with ⟨called, middle⟩
      by_cases hok : ∃ answer, called = .value (.ok answer)
      · obtain ⟨answer, rfl⟩ := hok
        rw [Progress.run_andThen, hcall] at hrun
        obtain ⟨calls, hcalls, hcycles, hall⟩ := ih hrun
        exact ⟨calls + 1, by omega, .next hcall hcycles,
          fun answer h => congrArg (· + 1) (hall answer h)⟩
      · have hfails := not_exists.mp hok
        obtain ⟨hpasses, rfl⟩ := passesOn_of_run hrun hcall hfails fun _ _ => rfl
        obtain rfl := hpasses.eq
        exact ⟨1, by omega, .fails hcall hfails, fun answer h => absurd h (hfails answer)⟩

/-- A driver advances an emulator that is free as often as it has to. -/
theorem run_advance {cycles : UInt32} (hemulator : (rig.driver number).emulator = emulator)
    (hfree : (rig.emulator emulator).isBusy = false)
    (hrun : (advanceTimes number emulator cycles.toNat
      (rig.entered (.emulator emulator) (Emulator.mark emulator))).run play =
        (ending, later)) :
    (advance number cycles rig).run play =
      (ending, later.leftBy (.emulator emulator) (Emulator.mark emulator)) := by
  have hstarts : advance number cycles rig = Emulator.whenFree emulator .advance
      (advanceTimes number emulator cycles.toNat) rig := by
    rw [← hemulator, advance_eq]
    rfl
  rw [hstarts, Emulator.whenFree_of_free hfree, Emulator.occupying, within_apply,
    Progress.run_atEnd]
  exact congrArg (fun reached : Ending Verdict × Rig => (reached.1,
    reached.2.leftBy (.emulator emulator) (Emulator.mark emulator))) hrun

end Course

/-! ### The work of the emulator -/

section Work

variable {fact : Rig.Fact} {mine : List Part} {depth number emulator calls : Nat}
  {rig later : Rig} {ending : Ending Verdict}

/-- A call of a routine leaves the parts under way alone. -/
theorem attends_call (hkept : fact.Kept) (hrig : rig.Orderly fact) (routine : Nat)
    (occasion : Occasion) :
    rig.Attends fact [] ((call routine occasion rig).run (Script.playWithin depth)).2 := by
  have hcalls : (secluding fact []).Ignores .calls := Seclusion.ignores (by decide)
  have hhonoured : (secluding fact []).Honoured (Script.playWithin depth) :=
    (Seclusion.soundOrders hkept).honoured depth
  exact (hcalls.sound_call routine occasion rig
    ⟨hrig, fun _ hpart => absurd hpart List.not_mem_nil⟩).run hhonoured

/-- A cycle is one piece of the work of its emulator, whatever user code does
meanwhile. -/
theorem work_advance (depth : Nat) (hkept : fact.Kept) (hfinds : (secluding fact mine).finds rig)
    (hemulator : .emulator emulator ∈ mine) :
    workOf (.emulator emulator)
        ((Emulator.advance emulator rig).run (Script.playWithin depth)).2.journal =
      .advanced emulator :: workOf (.emulator emulator) rig.journal := by
  obtain ⟨noted, hnoted⟩ : ∃ noted : Rig,
      { rig with journal := .advanced emulator :: rig.journal } = noted := ⟨_, rfl⟩
  have hattends : rig.Attends fact mine noted := by
    have hstart : (secluding fact mine).leaves rig (.value ()) rig :=
      (secluding fact mine).refl hfinds
    rw [← hnoted]
    exact Seclusion.admits_work rfl rfl hemulator hstart
  have hwork : workOf (.emulator emulator) noted.journal =
      .advanced emulator :: workOf (.emulator emulator) rig.journal := by
    rw [← hnoted]
    exact workOf_cons_self rfl
  rw [← hwork]
  simp only [Emulator.advance, bind_apply, record_apply, look_apply, Progress.andThen, hnoted]
  cases (noted.emulator emulator).machine with
  | card card => rfl
  | scripted picture advances onAdvance onRender =>
      have hcalled : noted.Attends fact []
          ((call onAdvance .plain noted).run (Script.playWithin depth)).2 :=
        attends_call hkept hattends.orderly onAdvance .plain
      have hspares :=
        hcalled.spares _ (hattends.holds_later _ hemulator) List.not_mem_nil
      change workOf _ (((call onAdvance .plain noted).andThen _).run _).2.journal = _
      rw [← hspares.work, Progress.run_andThen]
      rcases (call onAdvance .plain noted).run (Script.playWithin depth) with ⟨called, middle⟩
      cases called with
      | value verdict => cases verdict <;> rfl
      | panicked cause => rfl
      | exhausted => rfl

/-- However a cycle ends, what is under way then has been so before. -/
theorem finds_advance (depth : Nat) (hkept : fact.Kept) (hfinds : (secluding fact mine).finds rig)
    (hemulator : .emulator emulator ∈ mine) :
    (secluding fact mine).finds
      ((Emulator.advance emulator rig).run (Script.playWithin depth)).2 := by
  have hhonoured : (secluding fact mine).Honoured (Script.playWithin depth) :=
    (Seclusion.soundOrders hkept).honoured depth
  have hleaves := (Emulator.sound_advance (Seclusion.allowsCycles hemulator) rig
    hfinds).run hhonoured
  exact ⟨hleaves.orderly, hleaves.holds_later⟩

/-- As many cycles as are made are the work of the emulator meanwhile, and nothing
else is. -/
theorem Cycles.work
    (h : Cycles (Script.playWithin depth) number emulator calls rig ending later)
    (hkept : fact.Kept) (hfinds : (secluding fact mine).finds rig)
    (hnumber : .driver number ∈ mine) (hemulator : .emulator emulator ∈ mine) :
    workOf (.emulator emulator) later.journal =
      List.replicate calls (.advanced emulator) ++
        workOf (.emulator emulator) rig.journal := by
  induction h with
  | done => rfl
  | @fails rig ending later hcall hfails =>
      have hwork := work_advance depth hkept hfinds hemulator
      rw [hcall] at hwork
      exact hwork
  | @next calls rig answer middle ending later hcall hrest ih =>
      have hwork := work_advance depth hkept hfinds hemulator
      have hmiddle := finds_advance depth hkept hfinds hemulator
      rw [hcall] at hwork hmiddle
      have hcounts : (secluding fact mine).Admits (cycleCounted number) :=
        Seclusion.admits_driver (fun _ => rfl) (Or.inl hnumber)
      have hstart : (secluding fact mine).leaves middle (.value ()) middle :=
        (secluding fact mine).refl hmiddle
      have hcounted : (secluding fact mine).finds (cycleCounted number middle) :=
        (secluding fact mine).keeps hmiddle (hcounts hstart)
      have hsame : (cycleCounted number middle).journal = middle.journal := rfl
      rw [ih hcounted, hsame, hwork, List.replicate_succ', List.append_assoc]
      rfl

end Work

end Driver

end Cadence
