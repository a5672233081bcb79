import Cadence.Proofs.Refusals

/-!
Mutual exclusion with guaranteed release.  On every rig that can arise, no part begins
while it is under way, the marks show exactly what is under way, and an attempt to begin
it again is refused.  However a run ends, nothing is under way afterwards that was not so
before.
-/

namespace Cadence

open Exec

/-! ### Refusals -/

section Refuses

variable (number : Nat) (rig : Rig)

/-- A driver refuses turns and steps, by hand, as a task and by message. -/
structure Driver.Refuses : Prop where
  turn : ∀ measuredRate,
    Driver.turnByHand number measuredRate rig = .ended (.value none) rig
  step : Driver.stepByHand number rig = .ended (.value none) rig
  task : ∀ frame, Driver.taskTurn number frame rig =
    .ended (.value (.error .driverReentered)) rig
  delivery : ∀ generation, ∃ lines : List Log.Line,
    Driver.deliverStep number generation rig =
      .ended (.value ()) { rig with journal := lines.map Event.logged ++ rig.journal }

/-- An emulator refuses to be used or taken away.  A turn that is refused on its account
has begun, which shows in its driver; a step has not changed its driver at all. -/
structure Emulator.Refuses : Prop where
  uses : ∀ phase body, Emulator.whenFree number phase body rig =
    .ended (.value (.error (.emulatorBusy phase))) rig
  hold : Emulator.hold number rig = .ended (.value false) rig
  turns : ∀ other driver measuredRate, rig.drivers[other]? = some driver →
    driver.busy = false → driver.emulator = number → rig.pace.running = true →
      Driver.IsRefused other (Driver.ifFree other (Driver.turn other measuredRate)) rig
        (driver.begun measuredRate)
  steps : ∀ other driver, rig.drivers[other]? = some driver →
    driver.busy = false → driver.emulator = number →
      Driver.IsRefused other (Driver.ifFree other (Driver.step other)) rig driver

/-- A part that is under way does not begin again: an attempt at it has an answer, but no
effect beyond a line in the journal and the next turn of a task. -/
def Rig.Refuses : Part → Prop
  | .driver number => Driver.Refuses number rig
  | .emulator number => Emulator.Refuses number rig
  | .task task => ∀ frame, Refresher.runTask frame task rig =
      .ended (.value (.error .taskReentered)) (Refresher.requestNext task rig)
  | .callback tag => ∀ place message, message.tag = tag → ∃ event line,
      event.crosses = false ∧ Mailbox.handle place message rig =
        .ended (.value false)
          { rig with journal := .logged line :: event :: rig.journal }
  | .debouncer number => ∀ {α : Type} (body : Debounced → Exec α),
      Debounced.ifFree number body rig = .ended (.value none) rig
  | .loop number => ∀ deadline,
      Loop.turnByHand number deadline rig = .ended (.value none) rig

/-- A part that is not under way may begin. -/
def Rig.Welcomes : Part → Prop
  | .driver number => number < rig.drivers.size → ∀ {α : Type} (body : Exec α),
      Driver.ifFree number body rig =
        (some <$> (within (.driver number) (Driver.mark number) body).ensuring
          Rig.retireAbandoned) rig
  | .emulator number => number < rig.emulators.size → (rig.emulator number).held = false →
      ∀ phase body, Emulator.whenFree number phase body rig =
        Emulator.occupying number body rig
  | .task task => ∀ entry frame, rig.refresher.tasks[task]? = some entry →
      Refresher.runTask frame task rig =
        ((within (.task task) (Refresher.markOnRig task)
          (Refresher.runBody frame entry.body)).ensuring
            (Refresher.requestNext task)) rig
  | .callback tag => ∀ place message entry, message.tag = tag →
      (rig.mailbox place).find? tag = some entry →
        Mailbox.handle place message rig =
          (do
            record (.delivered place message)
            within (.callback tag) (Mailbox.markOnRig place tag)
              (Mailbox.start entry.callback)
            return true : Exec Bool) rig
  | .debouncer number => ∀ entry, rig.debouncers[number]? = some entry →
      ∀ {α : Type} (body : Debounced → Exec α), Debounced.ifFree number body rig =
        (some <$> within (.debouncer number) (Debounced.mark number) (body entry)) rig
  | .loop number => ∀ loop deadline, rig.loops[number]? = some loop →
      Loop.turnByHand number deadline rig =
        (some <$> within (.loop number) (Loop.mark number)
          (Loop.turn loop.period 0 deadline)) rig

end Refuses

variable {fact : Rig.Fact} {rig : Rig}

namespace Rig.Orderly

variable (h : rig.Orderly fact)

include h

/-- A part that is under way, and is no callback, is marked. -/
theorem flag_of_underWay {part : Part} (hpart : part ∈ underWay rig.journal)
    (hcallback : ∀ tag, part ≠ .callback tag) : rig.flag 0 part = some true := by
  have hknown : (rig.flag 0 part).isSome = true := by
    have hknown := h.known part hpart
    cases part with
    | callback tag => exact absurd rfl (hcallback tag)
    | _ => exact hknown
  obtain ⟨flag, hflag⟩ := Option.isSome_iff_exists.mp hknown
  rw [hflag, (h.flags 0 part flag hflag).mpr hpart]

/-- A part that is not under way is not marked. -/
theorem flag_eq_false {place : Nat} {part : Part} {flag : Bool}
    (hpart : part ∉ underWay rig.journal) (hflag : rig.flag place part = some flag) :
    flag = false := by
  have hiff := h.flags place part flag hflag
  exact eq_false_of_ne_true fun htrue => hpart (hiff.mp htrue)

theorem driver_refuses {number : Nat} (hpart : .driver number ∈ underWay rig.journal) :
    Driver.Refuses number rig := by
  have hflag := h.flag_of_underWay hpart fun _ => Part.noConfusion
  obtain ⟨driver, hdriver, hbusy⟩ := Option.map_eq_some_iff.mp hflag
  have hrefuses {α : Type} (body : Exec α) :
      Driver.ifFree number body rig = .ended (.value none) rig :=
    Driver.ifFree_of_busy hdriver hbusy body
  constructor
  · intro measuredRate
    simp only [Driver.turnByHand, bind_apply, look_apply, Progress.andThen]
    split
    · rfl
    · exact hrefuses _
  · simp only [Driver.stepByHand, bind_apply, look_apply, Progress.andThen]
    split
    · rfl
    · exact hrefuses _
  · intro frame
    rw [Driver.taskTurn, bind_apply, hrefuses]
    rfl
  · intro generation
    simp only [Driver.deliverStep, bind_apply, look_apply, Progress.andThen]
    split
    · refine ⟨[Driver.stepNotice .driverBusy], ?_⟩
      rw [bind_apply, hrefuses]
      rfl
    · exact ⟨[], rfl⟩

theorem emulator_refuses {number : Nat} (hpart : .emulator number ∈ underWay rig.journal) :
    Emulator.Refuses number rig := by
  have hflag := h.flag_of_underWay hpart fun _ => Part.noConfusion
  obtain ⟨emulator, hemulator, huse⟩ := Option.map_eq_some_iff.mp hflag
  have hbusy : (rig.emulator number).isBusy = true := by
    rw [Rig.emulator, hemulator]
    exact Bool.or_eq_true_iff.mpr (Or.inl huse)
  constructor
  · exact Emulator.whenFree_of_busy hbusy
  · exact Emulator.hold_of_busy hbusy
  · rintro other driver measuredRate hdriver hfree rfl hrunning
    exact Driver.isRefused_turn hdriver hfree hbusy hrunning measuredRate
  · rintro other driver hdriver hfree rfl
    exact Driver.isRefused_step hdriver hfree hbusy

theorem callback_refuses {tag : Tag} (hpart : .callback tag ∈ underWay rig.journal) :
    rig.Refuses (.callback tag) := by
  rintro place message rfl
  simp only [Mailbox.handle, bind_apply, look_apply, Progress.andThen]
  cases hentry : (rig.mailbox place).find? message.tag with
  | none => exact ⟨.undeliverable place message, _, rfl, rfl⟩
  | some entry =>
      have hflag : rig.flag place (.callback message.tag) = some entry.executing := by
        rw [Rig.flag, hentry]
        rfl
      have hexecuting := (h.flags _ _ _ hflag).mpr hpart
      refine ⟨.reentrant place message, Mailbox.reenteredNotice message.tag, rfl, ?_⟩
      simp [hexecuting, Progress.andThen]

/-- What is under way does not begin again. -/
theorem refuses {part : Part} (hpart : part ∈ underWay rig.journal) :
    rig.Refuses part := by
  cases part with
  | driver number => exact h.driver_refuses hpart
  | emulator number => exact h.emulator_refuses hpart
  | callback tag => exact h.callback_refuses hpart
  | task task =>
      intro frame
      have hflag := h.flag_of_underWay hpart fun _ => Part.noConfusion
      obtain ⟨entry, hentry, hexecuting⟩ := Option.map_eq_some_iff.mp hflag
      exact Refresher.runTask_of_executing hentry hexecuting frame
  | debouncer number =>
      intro α body
      have hflag := h.flag_of_underWay hpart fun _ => Part.noConfusion
      obtain ⟨entry, hentry, hbusy⟩ := Option.map_eq_some_iff.mp hflag
      simp [Debounced.ifFree, Progress.andThen, hentry, hbusy]
  | loop number =>
      intro deadline
      have hflag := h.flag_of_underWay hpart fun _ => Part.noConfusion
      obtain ⟨loop, hloop, hbusy⟩ := Option.map_eq_some_iff.mp hflag
      simp [Loop.turnByHand, Progress.andThen, hloop, hbusy]

/-- What is not under way may begin. -/
theorem welcomes {part : Part} (hpart : part ∉ underWay rig.journal) :
    rig.Welcomes part := by
  cases part with
  | driver number =>
      intro hsize α body
      have hdriver := Driver.getElem?_driver hsize
      have hflag : rig.flag 0 (.driver number) = some (rig.driver number).busy := by
        rw [Rig.flag, hdriver]
        rfl
      exact Driver.ifFree_of_free hdriver (h.flag_eq_false hpart hflag) body
  | emulator number =>
      intro hsize hheld phase body
      have hflag : rig.flag 0 (.emulator number) = some (rig.emulator number).inUse := by
        rw [Rig.flag, Rig.emulator, Array.getElem?_eq_getElem hsize]
        rfl
      refine Emulator.whenFree_of_free ?_ phase body
      rw [Emulator.isBusy, h.flag_eq_false hpart hflag, hheld]
      rfl
  | task task =>
      intro entry frame hentry
      have hflag : rig.flag 0 (.task task) = some entry.executing := by
        rw [Rig.flag, hentry]
        rfl
      exact Refresher.runTask_of_free hentry (h.flag_eq_false hpart hflag) frame
  | callback tag =>
      rintro place message entry rfl hentry
      have hflag : rig.flag place (.callback message.tag) = some entry.executing := by
        rw [Rig.flag, hentry]
        rfl
      simp [Mailbox.handle, Progress.andThen, hentry, h.flag_eq_false hpart hflag]
  | debouncer number =>
      intro entry hentry α body
      have hflag : rig.flag 0 (.debouncer number) = some entry.busy := by
        rw [Rig.flag, hentry]
        rfl
      simp [Debounced.ifFree, Progress.andThen, hentry, h.flag_eq_false hpart hflag]
  | loop number =>
      intro loop deadline hloop
      have hflag : rig.flag 0 (.loop number) = some loop.busy := by
        rw [Rig.flag, hloop]
        rfl
      simp [Loop.turnByHand, Progress.andThen, hloop, h.flag_eq_false hpart hflag]

end Rig.Orderly

/-! ### Exclusion -/

/-- Whatever user code is handed, nothing is asked of it. -/
theorem Progress.respects_true {α : Type} {contract : Contract}
    (hallowed : ∀ order, contract.allowed order) (hfinds : ∀ rig, contract.finds rig)
    (progress : Progress α) : progress.Respects contract fun _ _ => True := by
  induction progress with
  | ended => trivial
  | handed script rig resume ih =>
      have hkeeps := script.keepsTo_all.imp fun order _ => hallowed order
      exact ⟨hfinds rig, hkeeps, fun ending later _ => ih ending later⟩

/-- Nothing is asked of drivers at rest. -/
theorem Rig.Fact.kept_true : Rig.Fact.Kept fun _ _ _ => True where
  absent _ := trivial
  fresh _ _ _ _ _ _ _ _ := trivial
  turns _ _ _ _ := Progress.respects_true (fun _ => trivial) (fun _ => trivial) _
  steps _ _ _ := Progress.respects_true (fun _ => trivial) (fun _ => trivial) _

namespace Rig

/-- No part has ever begun while it was under way, all work was done by parts under way,
and exactly what is under way is marked. -/
structure Exclusive (rig : Rig) : Prop where
  fitting : Lawful Event.Befits rig.journal
  nodup : (underWay rig.journal).Nodup
  marked : ∀ place part flag, rig.flag place part = some flag →
    (flag = true ↔ part ∈ underWay rig.journal)

/-- What has become of a rig while its parts under way were left alone. -/
structure Secludes (rig later : Rig) : Prop where
  stays : underWay later.journal = underWay rig.journal
  spares : ∀ part ∈ underWay rig.journal, rig.Spares part later

/-- Nothing is under way, so nothing is marked and everything may begin. -/
structure Rests (rig : Rig) : Prop where
  none : underWay rig.journal = []
  unmarked : ∀ place part flag, rig.flag place part = some flag → flag = false
  welcomes : ∀ part, rig.Welcomes part

variable {rate : Rate} {reportInterval : Nat}

/-- At every moment of every run parts exclude each other, and what is under way refuses to
begin again.  Whatever a script does and however it ends, it leaves the parts under way
alone and no others behind, and once nothing is under way everything may begin. -/
theorem excludes (hbecomes : (fresh rate reportInterval).Becomes rig) :
    rig.Exclusive ∧ (∀ part ∈ underWay rig.journal, rig.Refuses part) ∧
      (∀ part, part ∉ underWay rig.journal → rig.Welcomes part) ∧
        ∀ depth (script : Script), rig.Secludes (script.playWithin depth rig).2 ∧
          (underWay rig.journal = [] → (script.playWithin depth rig).2.Rests) := by
  -- All of it is read off two facts: the rig is orderly, and a script attends to it.
  have horderly := hbecomes.orderly Fact.kept_true
  refine ⟨⟨horderly.fitting, nodup_underWay horderly.fitting, horderly.flags⟩,
    fun part => horderly.refuses, fun part => horderly.welcomes, fun depth script => ?_⟩
  have hattends := horderly.attends Fact.kept_true depth script
  refine ⟨⟨hattends.stays, fun part hpart =>
    hattends.spares part hpart List.not_mem_nil⟩, fun hrests => ?_⟩
  have hnone := hattends.stays.trans hrests
  have hidle (part : Part) :
      part ∉ underWay (script.playWithin depth rig).2.journal := by
    rw [hnone]
    exact List.not_mem_nil
  exact ⟨hnone, fun place part flag => hattends.orderly.flag_eq_false (hidle part),
    fun part => hattends.orderly.welcomes (hidle part)⟩

end Rig

/-! ### Two drivers that share an emulator -/

/-- Where a computation stands. -/
def Progress.standing {α : Type} : Progress α → Rig
  | .ended _ rig => rig
  | .handed _ rig _ => rig

/-- Whether a computation has come to a script. -/
def Progress.isHanded {α : Type} : Progress α → Bool
  | .ended _ _ => false
  | .handed _ _ _ => true

/-- User code is in control where a computation has come to a script. -/
theorem Script.passes_standing {depth : Nat} {order : Order} {next : order.Answer → Script}
    (hhanded : (order.carryOut (depth + 1) rig).isHanded = true) :
    Script.Passes (depth + 1) (.order order next) rig
      (order.carryOut (depth + 1) rig).standing := by
  cases hprogress : order.carryOut (depth + 1) rig with
  | ended =>
      rw [hprogress] at hhanded
      cases hhanded
  | handed inner begun resume =>
      have hhands : (order.carryOut (depth + 1) rig).Hands (playWithin depth) inner begun := by
        rw [hprogress]
        exact .now
      exact .inside hhands .here

/-- Two drivers of one emulator, which turns the second driver in its first cycle. -/
def sharing : Script :=
  .routine (fun call _ =>
      if call = 0 then .order (.driver (.turn 1 none)) fun _ => .done .null
      else .done .null) fun routine =>
    .order (.driver (.newEmulator
        (.scripted (Machine.countingPicture 256) 0 routine routine))) fun _ =>
      .order (.driver (.newDriver 0 default .standard .shared)) fun _ =>
        .order (.driver (.newDriver 0 default .standard .shared)) fun _ => .done .null

/-- The rig of the two drivers in the first cycle of a turn of the first. -/
def sharedRig : Rig :=
  ((Order.driver (.turn 0 none)).carryOut 1
    (sharing.playWithin 1 (.fresh .initial Duration.perSecond)).2).standing

theorem becomes_sharedRig : (Rig.fresh .initial Duration.perSecond).Becomes sharedRig := by
  have hready := Rig.Becomes.after 1 sharing
    (.start : (Rig.fresh .initial Duration.perSecond).Becomes _)
  have hpasses : Script.Passes 1 (.order (.driver (.turn 0 none)) fun _ => .done .null)
      (sharing.playWithin 1 (.fresh .initial Duration.perSecond)).2 sharedRig :=
    Script.passes_standing (by decide +kernel)
  exact .midway hready hpasses

/-- The first driver and the emulator are under way and refuse, the second driver may have
a turn, and in the end everything may. -/
theorem Rig.excludes_sharing :
    underWay sharedRig.journal = [.emulator 0, .driver 0] ∧
      sharedRig.Exclusive ∧ sharedRig.Refuses (.driver 0) ∧
        sharedRig.Refuses (.emulator 0) ∧ sharedRig.Welcomes (.driver 1) ∧
          (sharing.playWithin 1 (.fresh .initial Duration.perSecond)).2.Rests := by
  have hunder : underWay sharedRig.journal = [.emulator 0, .driver 0] := by decide +kernel
  obtain ⟨hexclusive, hrefuses, hwelcomes, _⟩ := excludes becomes_sharedRig
  obtain ⟨_, _, _, hruns⟩ :=
    excludes (.start : (fresh .initial Duration.perSecond).Becomes _)
  refine ⟨hunder, hexclusive, hrefuses _ ?_, hrefuses _ ?_, hwelcomes _ ?_,
    (hruns 1 sharing).2 rfl⟩
  · simp [hunder]
  · simp [hunder]
  · simp [hunder]

/-- A turn of the second driver is refused as the emulator is in use, and counted all the
same. -/
theorem Driver.counted_though_refused : ∃ later,
    Driver.turnByHand 1 none sharedRig =
        .ended (.value (some (.error (.emulatorBusy .advance)))) later ∧
      (sharedRig.driver 1).stats = ⟨0, 0, 0, 0⟩ ∧ (later.driver 1).stats = ⟨1, 0, 0, 0⟩ := by
  have horderly := becomes_sharedRig.orderly Rig.Fact.kept_true
  have hunder : .emulator 0 ∈ underWay sharedRig.journal := by decide +kernel
  have hdriver : sharedRig.drivers[1]? = some (sharedRig.driver 1) :=
    getElem?_driver (by decide +kernel)
  have hstats : (sharedRig.driver 1).stats = ⟨0, 0, 0, 0⟩ := by decide +kernel
  obtain ⟨later, alive, hended, _, hlater⟩ :=
    (horderly.emulator_refuses hunder).turns 1 (sharedRig.driver 1) none hdriver
      (by decide +kernel) (by decide +kernel) (by decide +kernel)
  refine ⟨later, ?_, hstats, ?_⟩
  · have hhandle : (sharedRig.driver 1).handle = true := by decide +kernel
    rw [← hended]
    simp [turnByHand, Progress.andThen, hhandle]
  · have hcounted : ((sharedRig.driver 1).begun none).stats = ⟨1, 0, 0, 0⟩ := by
      decide +kernel
    rw [hlater]
    exact hcounted

end Cadence
