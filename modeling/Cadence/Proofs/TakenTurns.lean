import Cadence.Proofs.SingleRenders
import Cadence.Proofs.TurnCourse

/-!
Turns taken.  What a turn has done to its driver, and which work the driver and its
emulator have had of it, whatever user code does in its cycles and renders and wherever
it ends.
-/

namespace Cadence

open Exec Contract

namespace Driver

/-- What is a driver's own, apart from its display, and the turns, steps and activations
that its work consists of. -/
def conduct (driver : Driver) (work : List Event) : Driver × List Event :=
  ({ driver.core with display := default }, work.filter Event.isBeat)

theorem core_tallied (cycles renders : Nat) (driver : Driver) :
    (driver.tallied cycles renders).core = driver.core.tallied cycles renders := rfl

theorem tallied_tallied (driver : Driver) (first second more others : Nat) :
    (driver.tallied first second).tallied more others =
      driver.tallied (first + more) (second + others) := by
  simp [tallied, Nat.add_assoc]

theorem conduct_event {event : Event} (hevent : event.isBeat = false) (driver : Driver)
    (work : List Event) : conduct driver (event :: work) = conduct driver work :=
  congrArg (Prod.mk _) (List.filter_cons_of_neg (ne_true_of_eq_false hevent))

section Stages

variable {fact : Rig.Fact} {depth number emulator calls : Nat} {rig later : Rig}
  {measuredRate : Option Binary64} {ending : Ending Verdict} {part : Part}

/-! ### The beginning and the end -/

theorem workOf_logged (lines : List Log.Line) (journal : List Event) :
    workOf part (lines.map Event.logged ++ journal) = workOf part journal := by
  rw [workOf, workOf, List.filter_append, List.filter_map]
  simp [Function.comp_def, Event.worker]

theorem workOf_turnStarted_self :
    workOf (.driver number) (turnStarted number measuredRate rig).journal =
      .turnBegan number :: workOf (.driver number) rig.journal := by
  have hentered : (Event.entered (.driver number)).worker ≠ some (.driver number) := by
    simp [Event.worker]
  rw [turnStarted, opened, workOf_logged, workOf_cons_self rfl]
  exact congrArg _ (workOf_cons_of_ne hentered)

theorem workOf_turnStarted (hpart : part ≠ .driver number) :
    workOf part (turnStarted number measuredRate rig).journal = workOf part rig.journal := by
  have hentered : (Event.entered (.driver number)).worker ≠ some part := by
    simp [Event.worker]
  have hbegan : (Event.turnBegan number).worker ≠ some part := by
    simpa [Event.worker, eq_comm] using hpart
  rw [turnStarted, opened, workOf_logged, workOf_cons_of_ne hbegan]
  exact workOf_cons_of_ne hentered

theorem core_begun_busy (driver : Driver) :
    (begun measuredRate { driver with busy := true }).core =
      (begun measuredRate driver).core := by
  have hbusy : begun measuredRate { driver with busy := true } =
      { begun measuredRate driver with busy := true } :=
    applyPending_busy { driver with
      measuredRate
      stats := { driver.stats with turns := driver.stats.turns + 1 } } true
  rw [hbusy]
  rfl

theorem core_turnStarted (hsize : number < rig.drivers.size) :
    ((turnStarted number measuredRate rig).driver number).core =
      ((rig.driver number).begun measuredRate).core := by
  have hmarked : number < (rig.entered (.driver number) (mark number)).drivers.size :=
    (Array.size_modify ..).symm ▸ hsize
  have hentered : (rig.entered (.driver number) (mark number)).driver number =
      { rig.driver number with busy := true } := driver_modify hsize _
  have hbegun : (turnStarted number measuredRate rig).driver number =
      begun measuredRate ((rig.entered (.driver number) (mark number)).driver number) :=
    driver_modify hmarked _
  rw [hbegun, hentered, core_begun_busy]

/-- The end of a turn is no work. -/
theorem workOf_turnOver : workOf part (turnOver number rig).journal = workOf part rig.journal := by
  refine Rig.retireAbandoned_induct
    (fun later => workOf part later.journal = workOf part rig.journal)
    (fun other later _ hlater => ?_) ?_
  · have hends : (Event.unsubscribed (.driver other)).worker ≠ some part := by
      simp [Event.worker]
    exact (workOf_cons_of_ne hends).trans hlater
  · have hleft : (Event.left (.driver number)).worker ≠ some part := by
      simp [Event.worker]
    exact workOf_cons_of_ne hleft

theorem core_turnOver :
    ((turnOver number rig).driver number).core = (rig.driver number).core := by
  obtain ⟨alive, hdriver⟩ :=
    Rig.driver_retireAbandoned (rig.leftBy (.driver number) (mark number)) number
  rw [turnOver, hdriver]
  exact (Seclusion.marks_driver number).core false rig number

/-- The driver is under way when its turn has begun. -/
theorem finds_turnStarted (hrig : rig.Orderly fact) (hsize : number < rig.drivers.size)
    (hfree : (rig.driver number).busy = false) :
    (secluding fact [.driver number]).finds (turnStarted number measuredRate rig) := by
  obtain ⟨hfinds, -⟩ := finds_entered hrig hsize hfree
  have hopens := Seclusion.soundAt_openTurn hfinds List.mem_cons_self rfl measuredRate
  rw [SoundAt, openTurn_eq] at hopens
  exact (secluding fact [.driver number]).keeps hfinds hopens

/-! ### Cycles -/

/-- User code in a cycle leaves the driver alone. -/
theorem spares_advance (depth : Nat) (hkept : fact.Kept)
    (hfinds : (secluding fact [.emulator emulator, .driver number]).finds rig) :
    rig.Spares (.driver number)
      ((Emulator.advance emulator rig).run (Script.playWithin depth)).2 := by
  have hhonoured : (secluding fact [.emulator emulator]).Honoured (Script.playWithin depth) :=
    (Seclusion.soundOrders hkept).honoured depth
  have hused : (secluding fact [.emulator emulator]).finds rig :=
    ⟨hfinds.1, fun part hpart => hfinds.2 part (by simp_all)⟩
  have hattends := (Emulator.sound_advance (Seclusion.allowsCycles List.mem_cons_self)
    rig hused).run hhonoured
  exact hattends.spares _ (hfinds.2 _ (by simp)) (by simp)

theorem attends_advance (depth : Nat) (hkept : fact.Kept)
    (hfinds : (secluding fact [.emulator emulator, .driver number]).finds rig) :
    rig.Attends fact [.emulator emulator, .driver number]
      ((Emulator.advance emulator rig).run (Script.playWithin depth)).2 :=
  have hhonoured : (secluding fact [.emulator emulator, .driver number]).Honoured
      (Script.playWithin depth) := (Seclusion.soundOrders hkept).honoured depth
  (Emulator.sound_advance (Seclusion.allowsCycles List.mem_cons_self) rig hfinds).run
    hhonoured

/-- A cycle is counted while its driver is under way. -/
theorem attends_cycleCounted
    (hfinds : (secluding fact [.emulator emulator, .driver number]).finds rig) :
    rig.Attends fact [.emulator emulator, .driver number] (cycleCounted number rig) ∧
      (cycleCounted number rig).driver number = (rig.driver number).tallied 1 0 := by
  have hcounts : (secluding fact [.emulator emulator, .driver number]).Admits
      (cycleCounted number) :=
    Seclusion.admits_driver (fun _ => rfl) (Or.inl (by simp))
  have hstart : (secluding fact [.emulator emulator, .driver number]).leaves rig
      (.value ()) rig := (secluding fact _).refl hfinds
  have hsize := Seclusion.size_of_knows
    (hfinds.1.known (.driver number) (hfinds.2 _ (by simp)))
  exact ⟨hcounts hstart, driver_modify hsize _⟩

/-- What cycles have done: as many as went well are counted, and nothing else has become
of the driver. -/
structure Cycled (fact : Rig.Fact) (number emulator calls gained : Nat) (rig : Rig)
    (ending : Ending Verdict) (later : Rig) : Prop where
  attends : rig.Attends fact [.emulator emulator, .driver number] later
  ends : (∃ answer, ending = .value (.ok answer)) ∧ calls = gained ∨
    (∀ answer, ending ≠ .value (.ok answer)) ∧ calls = gained + 1
  core : (later.driver number).core = ((rig.driver number).tallied gained 0).core
  work : workOf (.driver number) later.journal = workOf (.driver number) rig.journal

theorem Cycles.exists_gained
    (h : Cycles (Script.playWithin depth) number emulator calls rig ending later)
    (hkept : fact.Kept)
    (hfinds : (secluding fact [.emulator emulator, .driver number]).finds rig) :
    ∃ gained, Cycled fact number emulator calls gained rig ending later := by
  induction h with
  | done => exact ⟨0, .refl hfinds.1 hfinds.2, .inl ⟨⟨_, rfl⟩, rfl⟩, rfl, rfl⟩
  | @fails rig ending later hcall hfails =>
      have hattends := attends_advance depth hkept hfinds
      have hspares := spares_advance depth hkept hfinds
      rw [hcall] at hattends hspares
      exact ⟨0, hattends, .inr ⟨hfails, rfl⟩, Belonging.driver.inj hspares.belonging,
        hspares.work⟩
  | @next calls rig answer middle ending later hcall hrest ih =>
      have hattends := attends_advance depth hkept hfinds
      have hspares := spares_advance depth hkept hfinds
      rw [hcall] at hattends hspares
      obtain ⟨hcounts, hdriver⟩ :=
        attends_cycleCounted ⟨hattends.orderly, hattends.holds_later⟩
      obtain ⟨gained, hcycled⟩ := ih ⟨hcounts.orderly, hcounts.holds_later⟩
      have hcore := Belonging.driver.inj hspares.belonging
      refine ⟨gained + 1, (hattends.trans hcounts).trans hcycled.attends, ?_, ?_,
        hcycled.work.trans hspares.work⟩
      · rcases hcycled.ends with ⟨hok, hcalls⟩ | ⟨hfails, hcalls⟩
        · exact .inl ⟨hok, congrArg (· + 1) hcalls⟩
        · exact .inr ⟨hfails, congrArg (· + 1) hcalls⟩
      · rw [hcycled.core, hdriver, tallied_tallied, core_tallied, hcore, Nat.add_comm 1]
        rfl

/-! ### Renders -/

/-- Renders show in the display and nowhere else. -/
theorem Renders.attends
    (h : Renders (Script.playWithin depth) number calls rig ending later)
    (hkept : fact.Kept) (hfinds : (secluding fact [.driver number]).finds rig) :
    rig.Attends fact [.driver number] later ∧
      later.seen conduct number = rig.seen conduct number := by
  have hrenders {rig : Rig} (hfinds : (secluding fact [.driver number]).finds rig) :
      rig.Attends fact [.driver number]
          ((renderOnce number rig).run (Script.playWithin depth)).2 ∧
        ((renderOnce number rig).run (Script.playWithin depth)).2.seen conduct number =
          rig.seen conduct number := by
    have hsound : (watching conduct number).Sound (renderOnce number) :=
      Watching.sound_renderOnce_of_beats conduct_event fun _ _ _ => rfl
    exact Watching.attends depth hkept (fun _ _ => rfl)
      (sound_renderOnce (Seclusion.allowsWork List.mem_cons_self) rig hfinds)
      ((hsound rig trivial).imp fun _ _ hleaves => hleaves.1)
  induction h with
  | done => exact ⟨.refl hfinds.1 hfinds.2, rfl⟩
  | @fails rig ending later hrender hfails =>
      have hattends := hrenders hfinds
      rw [hrender] at hattends
      exact hattends
  | @next calls rig answer middle ending later hrender hrest ih =>
      obtain ⟨hattends, hseen⟩ := hrenders hfinds
      rw [hrender] at hattends hseen
      obtain ⟨hlater, hsame⟩ := ih ⟨hattends.orderly, hattends.holds_later⟩
      exact ⟨hattends.trans hlater, hsame.trans hseen⟩

theorem finds_rendersActivated (hfinds : (secluding fact [.driver number]).finds rig) :
    (secluding fact [.driver number]).finds (rendersActivated number rig) := by
  have hlogs (lines : List Log.Line) : (secluding fact [.driver number]).Admits fun rig =>
      { rig with journal := lines.map Event.logged ++ rig.journal } :=
    (Seclusion.ignores (by decide)).admits_log lines
  have hactivates (timing : Debouncer) (count : Nat) :
      (secluding fact [.driver number]).Admits fun rig =>
        { rig with journal := .activated number timing count :: rig.journal } :=
    Seclusion.admits_work rfl rfl List.mem_cons_self
  have hplans (render : Debouncer) : (secluding fact [.driver number]).Admits fun rig =>
      { rig with drivers := rig.drivers.modify number ({ · with render }) } :=
    Seclusion.admits_driver (fun _ => rfl) (Or.inl List.mem_cons_self)
  have hstart : (secluding fact [.driver number]).leaves rig (.value ()) rig :=
    (secluding fact _).refl hfinds
  exact (secluding fact _).keeps hfinds
    (hplans _ (hactivates _ _ (hlogs _ hstart)))

theorem conduct_rendersActivated (hsize : number < rig.drivers.size) :
    (rendersActivated number rig).seen conduct number =
      ({ (rig.driver number).core with
          render := ((rig.driver number).render.plan
            (clockTime (rig.driver number).timebase rig)).2
          display := default },
        .activated number (rig.driver number).render (plannedRenders number rig) ::
          (workOf (.driver number) rig.journal).filter Event.isBeat) := by
  have hdriver : (rendersActivated number rig).driver number =
      { rig.driver number with
        render := ((rig.driver number).render.plan
          (clockTime (rig.driver number).timebase rig)).2 } := driver_modify hsize _
  have hwork : workOf (.driver number) (rendersActivated number rig).journal =
      .activated number (rig.driver number).render (plannedRenders number rig) ::
        workOf (.driver number) rig.journal := by
    rw [rendersActivated, workOf_cons_self rfl, workOf_logged]
  rw [Rig.seen, hdriver, hwork]
  rfl

theorem conduct_turnOver :
    (turnOver number rig).seen conduct number = rig.seen conduct number := by
  rw [Rig.seen, Rig.seen, conduct, conduct, core_turnOver, workOf_turnOver]

end Stages

/-! ### Whole turns -/

/-- A turn that finds the emulation paused: it is counted, and all that it does besides is
what every turn begins with. -/
structure TurnPauses (number : Nat) (measuredRate : Option Binary64) (rig : Rig)
    (ending : Ending (Option (Except Failure Turn))) (later : Rig) : Prop where
  ending : ending = .value (some (.ok .paused))
  course : later = turnOver number
    (changed number countPaused (turnStarted number measuredRate rig))
  /-- Neither the display nor any emulator is used. -/
  work : workOf (.driver number) later.journal =
    .turnBegan number :: workOf (.driver number) rig.journal
  others : ∀ part, part ≠ .driver number →
    workOf part later.journal = workOf part rig.journal
  core : (later.driver number).core =
    (countPaused ((rig.driver number).begun measuredRate)).core

/-- What a turn has come to when it has called for so many cycles: nothing but those that
went well shows in its driver, and neither the display nor the emulator has been asked for
anything else. -/
structure CyclesDone (number calls gained : Nat) (measuredRate : Option Binary64)
    (rig later : Rig) : Prop where
  emulated : workOf (.emulator (rig.driver number).emulator) later.journal =
    List.replicate calls (.advanced (rig.driver number).emulator) ++
      workOf (.emulator (rig.driver number).emulator) rig.journal
  work : workOf (.driver number) later.journal =
    .turnBegan number :: workOf (.driver number) rig.journal
  core : (later.driver number).core =
    (((rig.driver number).begun measuredRate).tallied gained 0).core

/-- A turn that is cut short by one of its cycles, the last of so many calls. -/
structure TurnCut (depth number calls : Nat) (measuredRate : Option Binary64) (rig : Rig)
    (ending : Ending (Option (Except Failure Turn))) (later : Rig) : Prop
    extends CyclesDone number calls (calls - 1) measuredRate rig later where
  pos : 0 < calls
  bound : calls ≤ rig.pace.rate.cycles.toNat
  /-- The last call fails, and its end is the end of the turn. -/
  course : ∃ emulator verdict outcome advanced, (rig.driver number).emulator = emulator ∧
    Cycles (Script.playWithin depth) number emulator calls
      ((turnStarted number measuredRate rig).entered (.emulator emulator)
        (Emulator.mark emulator)) verdict advanced ∧
    verdict.PassesOn outcome ∧ ending = outcome.map some ∧
    later = turnOver number (advanced.leftBy (.emulator emulator) (Emulator.mark emulator))

/-- The end of a turn with a batch of renders, of which so many were planned and made, and
how many of them are counted: all if all went well, and none otherwise. -/
inductive BatchEnds (number : Nat) (cycles : UInt32) (planned made : Nat)
    (verdict : Ending Verdict) (rendered : Rig) :
    Nat → Ending (Option (Except Failure Turn)) → Rig → Prop
  | complete (hok : verdict = .value (.ok ())) (hmade : made = planned) :
      BatchEnds number cycles planned made verdict rendered planned
        (.value (some (.ok (.ran cycles (.ofCount planned)))))
        (changed number (tallied 0 planned) rendered)
  | cut {outcome} (hpasses : verdict.PassesOn outcome) (hmade : made ≤ planned) :
      BatchEnds number cycles planned made verdict rendered 0 (outcome.map some) rendered

/-- A turn whose cycles go well.  It then activates its renders, on the rig `between`, makes
so many of them, and counts some. -/
structure TurnRenders (depth number made counted : Nat) (measuredRate : Option Binary64)
    (rig between : Rig) (ending : Ending (Option (Except Failure Turn))) (later : Rig) : Prop
    extends CyclesDone number rig.pace.rate.cycles.toNat rig.pace.rate.cycles.toNat
      measuredRate rig between where
  /-- First there are all cycles of a frame. -/
  cycles : ∃ emulator advanced, (rig.driver number).emulator = emulator ∧
    Cycles (Script.playWithin depth) number emulator rig.pace.rate.cycles.toNat
      ((turnStarted number measuredRate rig).entered (.emulator emulator)
        (Emulator.mark emulator)) (.value (.ok ())) advanced ∧
    advanced.leftBy (.emulator emulator) (Emulator.mark emulator) = between
  /-- Then the planned renders are made, up to the first that fails. -/
  renders : ∃ verdict rendered finished,
    Renders (Script.playWithin depth) number made (rendersActivated number between) verdict
      rendered ∧
    BatchEnds number rig.pace.rate.cycles (plannedRenders number between) made verdict
      rendered counted ending finished ∧
    later = turnOver number finished
  /-- There is one activation, with the interval and the baseline that the turn began
  with. -/
  beats : (workOf (.driver number) later.journal).filter Event.isBeat =
    .activated number ((rig.driver number).begun measuredRate).render
        (plannedRenders number between) ::
      .turnBegan number :: (workOf (.driver number) rig.journal).filter Event.isBeat
  /-- The baseline has moved as planned, whatever became of the renders. -/
  after : ({ (later.driver number).core with display := default } : Driver) =
    { (((rig.driver number).begun measuredRate).tallied rig.pace.rate.cycles.toNat
        counted).core with
      render := (((rig.driver number).begun measuredRate).render.plan
        (clockTime (rig.driver number).timebase between)).2
      display := default }

/-- What a turn of a driver comes to. -/
structure TakesTurn (depth number : Nat) (measuredRate : Option Binary64) (rig : Rig)
    (ending : Ending (Option (Except Failure Turn))) (later : Rig) : Prop where
  turns : (later.driver number).stats.turns = (rig.driver number).stats.turns + 1
  paused : rig.pace.running = false → TurnPauses number measuredRate rig ending later
  running : rig.pace.running = true →
    (∃ calls, TurnCut depth number calls measuredRate rig ending later) ∨
      ∃ made counted between,
        TurnRenders depth number made counted measuredRate rig between ending later
  /-- Each of its renders gives the display its status and at most one frame. -/
  render : ∀ moment, RendersOnce (Script.playWithin depth) number moment

section Whole

variable {fact : Rig.Fact} {depth number calls : Nat} {rig later : Rig}
  {measuredRate : Option Binary64} {ending : Ending Verdict}

theorem begun_stats (driver : Driver) :
    (driver.begun measuredRate).stats =
      { driver.stats with turns := driver.stats.turns + 1 } := by
  simp only [begun, applyPending]
  split <;> rfl

theorem begun_emulator (driver : Driver) :
    (driver.begun measuredRate).emulator = driver.emulator := by
  simp only [begun, applyPending]
  split <;> rfl

theorem begun_timebase (driver : Driver) :
    (driver.begun measuredRate).timebase = driver.timebase := by
  simp only [begun, applyPending]
  split <;> rfl

theorem emulator_turnStarted (hsize : number < rig.drivers.size) :
    ((turnStarted number measuredRate rig).driver number).emulator =
      (rig.driver number).emulator := by
  have hsame : ((turnStarted number measuredRate rig).driver number).core.emulator =
      ((rig.driver number).begun measuredRate).core.emulator :=
    congrArg Driver.emulator (core_turnStarted hsize)
  exact hsame.trans (begun_emulator _)

/-- Nothing becomes of the cycles when the turn is over. -/
theorem CyclesDone.over {gained : Nat}
    (h : CyclesDone number calls gained measuredRate rig later) :
    CyclesDone number calls gained measuredRate rig (turnOver number later) where
  emulated := by rw [workOf_turnOver, h.emulated]
  work := by rw [workOf_turnOver, h.work]
  core := by rw [core_turnOver, h.core]

/-- What the cycles of a turn come to. -/
theorem cyclesDone_of_cycles (hkept : fact.Kept) (hrig : rig.Orderly fact)
    (hsize : number < rig.drivers.size) (hfree : (rig.driver number).busy = false)
    {emulator : Nat} (hemulator : (rig.driver number).emulator = emulator)
    (hunused : (rig.emulator emulator).isBusy = false) {advanced : Rig}
    (hcycles : Cycles (Script.playWithin depth) number emulator calls
      ((turnStarted number measuredRate rig).entered (.emulator emulator)
        (Emulator.mark emulator)) ending advanced) :
    ∃ gained, ((∃ answer, ending = .value (.ok answer)) ∧ calls = gained ∨
        (∀ answer, ending ≠ .value (.ok answer)) ∧ calls = gained + 1) ∧
      CyclesDone number calls gained measuredRate rig
        (advanced.leftBy (.emulator emulator) (Emulator.mark emulator)) ∧
      (secluding fact [.driver number]).finds
        (advanced.leftBy (.emulator emulator) (Emulator.mark emulator)) := by
  have hmarks := Seclusion.marks_emulator emulator
  have hstarted : (secluding fact [.driver number]).finds
      (turnStarted number measuredRate rig) := finds_turnStarted hrig hsize hfree
  have hflag : (turnStarted number measuredRate rig).flag 0 (.emulator emulator) =
      some false := Seclusion.flag_of_free hunused
  have hcomes := Seclusion.finds_entered hmarks hstarted hflag
  obtain ⟨gained, hcycled⟩ := hcycles.exists_gained hkept hcomes
  have hleft := hcycled.attends.leave hmarks hstarted.1 hstarted.2 hflag
    fun _ => Part.noConfusion
  have hentered (part : Part) :
      workOf part ((turnStarted number measuredRate rig).entered (.emulator emulator)
        (Emulator.mark emulator)).journal =
      workOf part (turnStarted number measuredRate rig).journal :=
    workOf_cons_of_ne (by simp [Event.worker])
  have hgone (part : Part) :
      workOf part (advanced.leftBy (.emulator emulator) (Emulator.mark emulator)).journal =
        workOf part advanced.journal :=
    workOf_cons_of_ne (by simp [Event.worker])
  refine ⟨gained, hcycled.ends, ⟨?_, ?_, ?_⟩, hleft.orderly, hleft.holds_later⟩
  · rw [hemulator, hgone, hcycles.work hkept hcomes (by simp) (by simp), hentered,
      workOf_turnStarted Part.noConfusion]
  · rw [hgone, hcycled.work, hentered, workOf_turnStarted_self]
  · rw [core_tallied, ← core_turnStarted hsize]
    exact hcycled.core

/-- A driver whose cycles have gone well keeps to its plan of renders. -/
theorem conduct_renders (hkept : fact.Kept) {between rendered finished : Rig}
    {made counted : Nat} {cycles : UInt32} {verdict : Ending Verdict}
    {outcome : Ending (Option (Except Failure Turn))}
    (hbetween : (secluding fact [.driver number]).finds between)
    (hrenders : Renders (Script.playWithin depth) number made
      (rendersActivated number between) verdict rendered)
    (hends : BatchEnds number cycles (plannedRenders number between) made verdict rendered
      counted outcome finished) :
    (turnOver number finished).seen conduct number =
      ({ (((between.driver number).tallied 0 counted).core) with
          render := ((between.driver number).render.plan
            (clockTime (between.driver number).timebase between)).2
          display := default },
        .activated number (between.driver number).render (plannedRenders number between) ::
          (workOf (.driver number) between.journal).filter Event.isBeat) := by
  have hsize := Seclusion.size_of_knows
    (hbetween.1.known (.driver number) (hbetween.2 _ List.mem_cons_self))
  obtain ⟨hattends, hseen⟩ := hrenders.attends hkept (finds_rendersActivated hbetween)
  rw [conduct_rendersActivated hsize] at hseen
  rw [conduct_turnOver]
  cases hends with
  | cut hpasses hmade => exact hseen
  | complete hok hmade =>
      have hlater := Seclusion.size_of_knows
        (hattends.orderly.known (.driver number) (hattends.holds_later _ List.mem_cons_self))
      have hdriver : (changed number (tallied 0 (plannedRenders number between))
          rendered).driver number =
            (rendered.driver number).tallied 0 (plannedRenders number between) :=
        driver_modify hlater _
      obtain ⟨hcore, hbeats⟩ := Prod.mk.inj hseen
      rw [Rig.seen, hdriver]
      exact Prod.ext
        (congrArg (tallied 0 (plannedRenders number between)) hcore) hbeats

/-- The statistics are a driver's own. -/
theorem stats_of_core {driver other : Driver} (h : driver.core = other.core) :
    driver.stats = other.stats := by
  have hsame := congrArg Driver.stats h
  exact hsame

theorem stats_of_after {driver other : Driver} {render : Debouncer}
    (h : ({ driver.core with display := default } : Driver) =
      { other.core with render, display := default }) : driver.stats = other.stats := by
  have hsame := congrArg Driver.stats h
  exact hsame

theorem turnPauses (hsize : number < rig.drivers.size) :
    TurnPauses number measuredRate rig (.value (some (.ok .paused)))
      (turnOver number (changed number countPaused (turnStarted number measuredRate rig))) where
  ending := rfl
  course := rfl
  work := by
    rw [workOf_turnOver]
    change workOf _ (turnStarted number measuredRate rig).journal = _
    exact workOf_turnStarted_self
  others part hpart := by
    rw [workOf_turnOver]
    change workOf _ (turnStarted number measuredRate rig).journal = _
    exact workOf_turnStarted hpart
  core := by
    have hstarted : number < (turnStarted number measuredRate rig).drivers.size := by
      simp only [turnStarted, opened, Rig.entered, mark, Array.size_modify]
      exact hsize
    have hdriver : (changed number countPaused
        (turnStarted number measuredRate rig)).driver number =
          countPaused ((turnStarted number measuredRate rig).driver number) :=
      driver_modify hstarted _
    rw [core_turnOver, hdriver]
    exact congrArg countPaused (core_turnStarted hsize)

theorem turnRenders (hkept : fact.Kept) (hrig : rig.Orderly fact)
    (hsize : number < rig.drivers.size) (hfree : (rig.driver number).busy = false)
    (hunused : (rig.emulator (rig.driver number).emulator).isBusy = false)
    {made counted : Nat} {advanced between rendered finished : Rig}
    {verdict : Ending Verdict} {outcome : Ending (Option (Except Failure Turn))}
    (hcycles : Cycles (Script.playWithin depth) number (rig.driver number).emulator
      rig.pace.rate.cycles.toNat
      ((turnStarted number measuredRate rig).entered (.emulator (rig.driver number).emulator)
        (Emulator.mark (rig.driver number).emulator)) (.value (.ok ())) advanced)
    (hbetween : advanced.leftBy (.emulator (rig.driver number).emulator)
      (Emulator.mark (rig.driver number).emulator) = between)
    (hrenders : Renders (Script.playWithin depth) number made
      (rendersActivated number between) verdict rendered)
    (hends : BatchEnds number rig.pace.rate.cycles (plannedRenders number between) made
      verdict rendered counted outcome finished) :
    TurnRenders depth number made counted measuredRate rig between outcome
      (turnOver number finished) := by
  obtain ⟨gained, hgained, hdone, hfinds⟩ :=
    cyclesDone_of_cycles hkept hrig hsize hfree rfl hunused hcycles
  obtain ⟨-, rfl⟩ := hgained.resolve_right fun hfails => hfails.1 () rfl
  rw [hbetween] at hdone hfinds
  have hconduct := conduct_renders hkept hfinds hrenders hends
  have hrender : (between.driver number).render =
      ((rig.driver number).begun measuredRate).render := by
    have hsame := congrArg Driver.render hdone.core
    exact hsame
  have htimebase : (between.driver number).timebase = (rig.driver number).timebase := by
    have hsame := congrArg Driver.timebase hdone.core
    exact hsame.trans (begun_timebase _)
  rw [core_tallied, hdone.core, ← core_tallied, tallied_tallied, Nat.add_zero,
    Nat.zero_add, hdone.work, hrender, htimebase] at hconduct
  obtain ⟨hafter, hbeats⟩ := Prod.mk.inj hconduct
  exact
    { toCyclesDone := hdone
      cycles := ⟨_, advanced, rfl, hcycles, hbetween⟩
      renders := ⟨verdict, rendered, finished, hrenders, hends, rfl⟩
      beats := hbeats
      after := hafter }

/-- What a turn has made of a rig on which its driver and its emulator were free. -/
theorem takesTurn_of_course (hkept : fact.Kept) (hrig : rig.Orderly fact)
    (hsize : number < rig.drivers.size) (hfree : (rig.driver number).busy = false)
    (hunused : (rig.emulator (rig.driver number).emulator).isBusy = false)
    {outcome : Ending (Except Failure Turn)} {finished : Rig}
    (hcourse : TurnCourse (Script.playWithin depth) number
      (turnStarted number measuredRate rig) outcome finished) :
    TakesTurn depth number measuredRate rig (outcome.map some)
      (turnOver number finished) := by
  have hstarted : ((turnStarted number measuredRate rig).driver number).emulator =
      (rig.driver number).emulator := emulator_turnStarted hsize
  have hnever {prop : Prop} (hrunning : (turnStarted number measuredRate rig).pace.running =
      true) (hpaused : rig.pace.running = false) : prop :=
    (Bool.false_ne_true (hpaused.symm.trans hrunning)).elim
  have hrender (moment : Rig) := rendersOnce (Script.playWithin depth) number moment
  cases hcourse with
  | pauses hpaused =>
      have hpauses : TurnPauses number measuredRate rig _ _ := turnPauses hsize
      refine ⟨?_, fun _ => hpauses, fun hrunning => hnever hrunning hpaused, hrender⟩
      rw [stats_of_core hpauses.core]
      simp only [countPaused, begun_stats]
  | @cut emulator calls ending outcome advanced hrunning hemulator hcycles hcalls hpasses =>
      obtain rfl := hstarted.symm.trans hemulator
      obtain ⟨gained, hgained, hdone, -⟩ :=
        cyclesDone_of_cycles hkept hrig hsize hfree rfl hunused hcycles
      have hfails : ∀ answer, ending ≠ .value (.ok answer) := by
        rintro answer rfl
        cases hpasses
      obtain ⟨-, rfl⟩ := hgained.resolve_left fun hok => hfails _ hok.1.choose_spec
      refine ⟨?_, hnever hrunning, fun _ => .inl ⟨gained + 1, hdone.over,
        Nat.succ_pos _, hcalls, _, ending, outcome, advanced, rfl, hcycles, hpasses, rfl, rfl⟩,
        hrender⟩
      rw [stats_of_core hdone.over.core]
      simp only [tallied, begun_stats]
  | renderFails hrunning hemulator hcycles hbetween hrenders hplanned hpasses =>
      obtain rfl := hstarted.symm.trans hemulator
      have hwhole := turnRenders hkept hrig hsize hfree hunused hcycles hbetween hrenders
        (.cut hpasses hplanned)
      refine ⟨?_, hnever hrunning, fun _ => .inr ⟨_, _, _, hwhole⟩, hrender⟩
      rw [stats_of_after hwhole.after]
      simp only [tallied, begun_stats]
  | completes hrunning hemulator hcycles hbetween hrenders =>
      obtain rfl := hstarted.symm.trans hemulator
      have hwhole := turnRenders hkept hrig hsize hfree hunused hcycles hbetween hrenders
        (.complete rfl rfl)
      refine ⟨?_, hnever hrunning, fun _ => .inr ⟨_, _, _, hwhole⟩, hrender⟩
      rw [stats_of_after hwhole.after]
      simp only [tallied, begun_stats]

/-- However user code goes about it, a turn is counted, and unless the emulation is paused
it has the cycles that the pace asked for when it began, up to the first that fails, and
then one batch of renders, up to the first that fails. -/
theorem takesTurn {rate : Rate} {reportInterval : Nat}
    (hbecomes : (Rig.fresh rate reportInterval).Becomes rig)
    (hsize : number < rig.drivers.size) (hfree : (rig.driver number).busy = false)
    (hunused : (rig.emulator (rig.driver number).emulator).isBusy = false)
    {ending : Ending (Option (Except Failure Turn))}
    (hrun : (ifFree number (turn number measuredRate) rig).run (Script.playWithin depth) =
      (ending, later)) :
    TakesTurn depth number measuredRate rig ending later := by
  have horderly := hbecomes.orderly Rig.Fact.kept_true
  rcases hcarried : (carryOn number (turnStarted number measuredRate rig)).run
    (Script.playWithin depth) with ⟨outcome, finished⟩
  have hstarted : ((turnStarted number measuredRate rig).emulator
      ((turnStarted number measuredRate rig).driver number).emulator).isBusy = false := by
    rw [emulator_turnStarted hsize]
    exact hunused
  have hcourse := course_carryOn hstarted hcarried
  have hturn : (turn number measuredRate (rig.entered (.driver number) (mark number))).run
      (Script.playWithin depth) = (outcome, finished) := by
    rw [turn_entered]
    exact hcarried
  have hwhole := run_ifFree (getElem?_driver hsize) hfree hturn
  rw [hrun] at hwhole
  cases hwhole
  exact takesTurn_of_course Rig.Fact.kept_true horderly hsize hfree hunused hcourse

end Whole

/-- A driver whose emulator asks for fewer cycles and for a pause in the middle of a frame,
and breaks in its twenty-third cycle. -/
def meddling : Script :=
  .routine (fun call _ =>
    if call = 1 then
      .order (.pace (.setCycles 3)) fun _ =>
      .order (.pace (.setFrameTime 40)) fun _ =>
      .order (.pace (.setRunning false)) fun _ => .done .null
    else if call = 22 then .fail (.reported "broken")
    else .done .null) fun onAdvance =>
  .routine (fun _ _ => .done .null) fun quiet =>
  .order (.driver (.newEmulator
    (.scripted (Machine.countingPicture 8) 0 onAdvance quiet))) fun _ =>
  .order (.driver (.newDriver 0 (.scripted 8 none quiet) .standard .shared)) fun _ =>
    .done .null

def meddlingRig : Rig :=
  (meddling.playWithin 3 (.fresh .initial Duration.perSecond)).2

/-- A turn of the driver. -/
def turning : Script := .order (.driver (.turn 0 none)) fun _ => .done .null

def pausedRig : Rig := (turning.playWithin 3 meddlingRig).2

/-- Another turn, after which the emulation is resumed. -/
def waking : Script :=
  .order (.driver (.turn 0 none)) fun _ =>
  .order (.pace (.setRunning true)) fun _ => .done .null

def wokenRig : Rig := (waking.playWithin 3 pausedRig).2

/-- The first turn has all the cycles it began with, the second one is paused, and the third
one breaks after two of its three. -/
theorem takesTurn_meddling :
    let takes (rig : Rig) :=
      (ifFree 0 (turn 0 none) rig).run (Script.playWithin 2)
    (TakesTurn 2 0 none meddlingRig (takes meddlingRig).1 (takes meddlingRig).2 ∧
        ((takes meddlingRig).2.driver 0).stats = ⟨1, 0, 20, 1⟩) ∧
      (TakesTurn 2 0 none pausedRig (takes pausedRig).1 (takes pausedRig).2 ∧
        ((takes pausedRig).2.driver 0).stats = ⟨2, 1, 20, 1⟩) ∧
      (TakesTurn 2 0 none wokenRig (takes wokenRig).1 (takes wokenRig).2 ∧
        ((takes wokenRig).2.driver 0).stats = ⟨3, 1, 22, 1⟩ ∧
        (workOf (.emulator 0) (takes wokenRig).2.journal).length =
          3 + (workOf (.emulator 0) wokenRig.journal).length) := by
  intro takes
  have hmeddles : (Rig.fresh .initial Duration.perSecond).Becomes meddlingRig :=
    .after 3 meddling .start
  have hpauses : (Rig.fresh .initial Duration.perSecond).Becomes pausedRig :=
    .after 3 turning hmeddles
  have hwakes : (Rig.fresh .initial Duration.perSecond).Becomes wokenRig :=
    .after 3 waking hpauses
  refine ⟨⟨takesTurn hmeddles ?_ ?_ ?_ (Prod.eta _).symm, ?_⟩,
    ⟨takesTurn hpauses ?_ ?_ ?_ (Prod.eta _).symm, ?_⟩,
    takesTurn hwakes ?_ ?_ ?_ (Prod.eta _).symm, ?_, ?_⟩
  all_goals decide +kernel

end Driver

end Cadence
