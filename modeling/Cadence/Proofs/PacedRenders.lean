import Cadence.Proofs.RenderCap
import Cadence.Proofs.TurnInterval

/-!
Renders are paced by the frame time.  The interval of a driver's renders is that of
the frame time held when its last turn began, and a change of the frame time takes
effect with its next turn, however runs, announcements and turns nest.
-/

namespace Cadence

open Pacing

section Becomes

variable {rate : Rate} {reportInterval : Nat} {rig : Rig}

/-- What is known of the caps holds at every moment of every run. -/
theorem Pacing.Steps.capped {after : Pacing × List Notice}
    (hsteps : Steps ((Rig.fresh rate reportInterval).pacing, []) after) :
    Capped rate.clamped after.1 after.2 := by
  induction hsteps with
  | refl =>
      have hnone (property : Nat → Cap → Prop) :
          AtEach (Rig.fresh rate reportInterval).pacing.caps property := by
        intro number cap hcap
        simp [Rig.pacing, Rig.fresh] at hcap
      have hcreated (number : Nat) : .subscribed (.driver number) ∉
          (Rig.fresh rate reportInterval).pacing.journal := List.not_mem_nil
      exact ⟨⟨rfl, rfl⟩, fun number hmem => absurd hmem (hcreated number),
        hnone _, hnone _⟩
  | tail _ hstep ih => exact ih.step hstep

theorem Rig.Becomes.paced {start : Rig} (h : start.Becomes rig) :
    ∃ notices, Steps (start.pacing, []) (rig.pacing, notices) := by
  have hsound := soundOrders start.pacing
  induction h with
  | start => exact ⟨[], .refl⟩
  | midway _ hpasses ih =>
      exact hsound.finds_moment hpasses (Script.keepsTo_all _) ih
  | after depth script _ ih =>
      obtain ⟨notices, hsteps⟩ := ih
      obtain ⟨left, hleft, _⟩ := hsound.honoured depth script _
        script.keepsTo_all ⟨notices, hsteps⟩
      exact ⟨left ++ notices, hsteps.trans (hleft notices)⟩

theorem Rig.Becomes.capped (h : (Rig.fresh rate reportInterval).Becomes rig) :
    ∃ notices, Capped rate.clamped rig.pacing notices := by
  obtain ⟨notices, hsteps⟩ := h.paced
  exact ⟨notices, Steps.capped hsteps⟩

/-- Announcements end with the script in which they were made, unless it is cut
short. -/
theorem Rig.Becomes.allAnnounced (h : (Rig.fresh rate reportInterval).Becomes rig)
    (hannounced : AllAnnounced rig.journal) {depth : Nat} {script : Script}
    (hvalue : (script.playWithin depth rig).1.isValue = true) :
    AllAnnounced (script.playWithin depth rig).2.journal := by
  obtain ⟨notices, hsteps⟩ := h.paced
  have hcounted := (Steps.capped hsteps).counted
  obtain rfl := hcounted.allAnnounced_iff.mp hannounced
  obtain ⟨left, hleft, hnone⟩ :=
    (soundOrders (Rig.fresh rate reportInterval).pacing).honoured depth script rig
      script.keepsTo_all ⟨[], hsteps⟩
  rw [Ending.isValue_plain] at hnone
  obtain rfl := hnone hvalue
  have hlater := Steps.capped (hsteps.trans (hleft []))
  exact hlater.counted.allAnnounced_iff.mpr rfl

end Becomes

namespace Driver

/-- A driver's cap follows the pace of its rig. -/
structure Follows (start : Rate) (rig : Rig) (number : Nat) (driver : Driver) :
    Prop where
  /-- Outside announcements no other frame time is awaited than the one held. -/
  awaits : AllAnnounced rig.journal → driver.alive = true →
    (driver.pending = none ∨ driver.pending = some rig.pace.rate.frameTime) ∧
      (driver.throttle = true → driver.pending = none →
        driver.render.interval = intervalOfFrameTime rig.pace.rate.frameTime)
  /-- A turn that begins outside announcements takes over what is held. -/
  takes : AllAnnounced rig.journal → driver.alive = true →
    driver.applyPending.render.interval =
      if driver.throttle then intervalOfFrameTime rig.pace.rate.frameTime else 0
  capped : driver.alive = true → driver.throttle = true → ∀ rate,
    cappingRate start number rig.journal = some rate →
      driver.render.interval = intervalOfFrameTime rate.frameTime
  uncapped : driver.throttle = false → driver.render.interval = 0
  activated : ActivatedInTime start rig.journal number driver.throttle

theorem follows_of_capped {start : Rate} {rig : Rig} {notices : List Notice}
    (h : Capped start rig.pacing notices) {number : Nat} {driver : Driver}
    (hdriver : rig.drivers[number]? = some driver) :
    driver.Follows start rig number := by
  have hcap : (rig.drivers.map Driver.cap)[number]? = some driver.cap := by
    rw [Array.getElem?_map, hdriver]
    rfl
  have hcapping := h.capping number driver.cap hcap
  have hfits (hannounced : AllAnnounced rig.journal) :=
    h.fits hannounced number driver.cap hcap
  constructor
  · intro hannounced halive
    have hfit := hfits hannounced halive
    exact ⟨hfit.pending, hfit.interval⟩
  · intro hannounced halive
    have hinterval : driver.applyPending.render.interval =
        driver.cap.applied.interval :=
      congrArg Cap.interval (cap_applyPending driver)
    rw [hinterval]
    split
    · rename_i hthrottle
      exact (hfits hannounced halive).interval_applied hthrottle
    · rename_i hthrottle
      have hfalse : driver.cap.throttle = false := eq_false_of_ne_true hthrottle
      rw [Cap.interval_applied_of_not_throttle hfalse]
      exact hcapping.uncapped hfalse
  · exact hcapping.interval
  · exact hcapping.uncapped
  · exact hcapping.activated

/-- The caps of all drivers follow the pace, at every moment of every run, and
turns keep to the frame time that they take over. -/
theorem followsPace {rate : Rate} {reportInterval : Nat} {rig : Rig}
    (hbecomes : (Rig.fresh rate reportInterval).Becomes rig) :
    rig.pace.rate = held rate.clamped rig.journal ∧
      (∀ number (driver : Driver), rig.drivers[number]? = some driver →
        driver.Follows rate.clamped rig number) ∧
      (∀ depth (script : Script), (script.playWithin depth rig).1.isValue = true →
        AllAnnounced rig.journal →
          AllAnnounced (script.playWithin depth rig).2.journal) ∧
      ∀ moment number depth measuredRate, number < moment.drivers.size →
        (moment.driver number).busy = false →
          TurnKeeps depth number measuredRate
            (moment.driver number).applyPending.render.interval moment := by
  obtain ⟨notices, hcapped⟩ := hbecomes.capped
  refine ⟨hcapped.counted.rate, ?_, ?_, ?_⟩
  · exact fun number driver hdriver => follows_of_capped hcapped hdriver
  · exact fun depth script hvalue hannounced =>
      hbecomes.allAnnounced hannounced hvalue
  · exact fun moment number depth measuredRate hsize hfree =>
      turnKeeps depth measuredRate hsize hfree

/-- A driver whose emulator asks for longer frames in the middle of a turn. -/
def slowing : Script :=
  .routine (fun call _ =>
      if call = 0 then
        .order (.pace (.setFrameTime (Binary64.ofNat 50))) fun _ => .done .null
      else .done .null) fun routine =>
    .order (.driver (.newEmulator
        (.scripted (Machine.countingPicture 256) 0 routine routine))) fun _ =>
      .order (.driver (.newDriver 0 default .standard .shared)) fun _ =>
        .order (.driver (.turn 0 none)) fun _ => .done .null

def slowedRig : Rig :=
  (slowing.playWithin 3 (Rig.fresh .initial Duration.perSecond)).2

/-- The change takes effect with the next turn. -/
theorem followsPace_slowed :
    AllAnnounced slowedRig.journal ∧
      (slowedRig.driver 0).Follows Rate.initial.clamped slowedRig 0 ∧
      (slowedRig.driver 0).render.interval = Duration.ofMillis 16 ∧
      TurnKeeps 3 0 none (Duration.ofMillis 50) slowedRig := by
  have hbecomes : (Rig.fresh .initial Duration.perSecond).Becomes slowedRig :=
    .after 3 slowing .start
  have hsize : 0 < slowedRig.drivers.size := by decide +kernel
  have hdriver : slowedRig.drivers[0]? = some (slowedRig.driver 0) := by
    rw [Rig.driver, Array.getElem?_eq_getElem hsize]
    rfl
  have htaken : (slowedRig.driver 0).applyPending.render.interval =
      Duration.ofMillis 50 := by decide +kernel
  obtain ⟨_, hfollows, _, hturns⟩ := followsPace hbecomes
  refine ⟨by decide +kernel, hfollows 0 _ hdriver, by decide +kernel, ?_⟩
  rw [← htaken]
  exact hturns slowedRig 0 3 none hsize (by decide +kernel)

end Driver

end Cadence
