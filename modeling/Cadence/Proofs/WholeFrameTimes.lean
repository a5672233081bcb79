import Cadence.Proofs.FrameTimeRounding
import Cadence.Proofs.PacedRenders

/-!
Drivers at frame times of whole milliseconds.  A driver that caps its renders takes
such a time over when it is created and when its turns begin, and is off by a
millisecond just where the rounding is.
-/

namespace Cadence

open Pacing

namespace Driver

/-- The drivers of a rig that cap their renders take an interval over. -/
structure RendersAt (rig : Rig) (interval : Nat) : Prop where
  created : ∀ depth emulator display catchUp timebase, ∃ later,
    (Order.driver (.newDriver emulator display ⟨true, catchUp⟩ timebase)).perform
        (depth + 1) rig = (.value rig.drivers.size, later) ∧
      (later.driver rig.drivers.size).render.interval = interval
  /-- Outside announcements, turns go by the frame time that is held. -/
  turned : AllAnnounced rig.journal → ∀ number (driver : Driver),
    rig.drivers[number]? = some driver → driver.alive = true →
      driver.throttle = true → driver.busy = false →
        ∀ depth measuredRate, TurnKeeps depth number measuredRate interval rig

variable {rate : Rate} {reportInterval : Nat} {rig : Rig} {millis interval : Nat}

theorem exists_created (depth emulator : Nat) (display : Display) (catchUp : Bool)
    (timebase : Timebase) :
    ∃ later, (Order.driver (.newDriver emulator display ⟨true, catchUp⟩
        timebase)).perform (depth + 1) rig = (.value rig.drivers.size, later) ∧
      (later.driver rig.drivers.size).render.interval =
        intervalOfFrameTime rig.pace.rate.frameTime := by
  have hcap :
      (fresh emulator display ⟨true, catchUp⟩ timebase rig.pace.rate).cap.interval =
        intervalOfFrameTime rig.pace.rate.frameTime := by
    simp only [cap_fresh, Cap.fresh, if_true]
  generalize hdriver : fresh emulator display ⟨true, catchUp⟩ timebase rig.pace.rate =
    driver at hcap
  obtain ⟨later, hrun, hdrivers⟩ : ∃ later, (Order.driver (.newDriver emulator display
      ⟨true, catchUp⟩ timebase)).perform (depth + 1) rig =
        (.value rig.drivers.size, later) ∧ later.drivers = rig.drivers.push driver := by
    rw [← hdriver]
    exact ⟨_, rfl, rfl⟩
  refine ⟨later, hrun, ?_⟩
  rw [Rig.driver, hdrivers, Array.getElem?_push_size, Option.getD_some]
  exact hcap

theorem turnKeeps_of_takes {number : Nat} {driver : Driver}
    (hdriver : rig.drivers[number]? = some driver) (hfree : driver.busy = false)
    (htakes : driver.applyPending.render.interval = interval) (depth : Nat)
    (measuredRate : Option Binary64) :
    TurnKeeps depth number measuredRate interval rig := by
  obtain ⟨hsize, hentry⟩ := Array.getElem?_eq_some_iff.mp hdriver
  have hself : rig.driver number = driver := by
    rw [Rig.driver, hdriver]
    rfl
  rw [← htakes, ← hself]
  apply turnKeeps depth measuredRate hsize
  rw [hself]
  exact hfree

theorem interval_applyPending {driver : Driver} {frameTime : Binary64}
    (hthrottle : driver.throttle = true) (hpending : driver.pending = some frameTime) :
    driver.applyPending.render.interval = intervalOfFrameTime frameTime := by
  simp [applyPending, hpending, hthrottle, Debouncer.withInterval]

theorem rendersAt_of_capped {start : Rate} {notices : List Notice}
    (h : Capped start rig.pacing notices) :
    RendersAt rig (intervalOfFrameTime rig.pace.rate.frameTime) where
  created := exists_created
  turned hannounced number driver hdriver halive hthrottle hfree := by
    apply turnKeeps_of_takes hdriver hfree
    have htakes := (follows_of_capped h hdriver).takes hannounced halive
    rw [htakes, if_pos hthrottle]

/-- Renders at a frame time of whole milliseconds are at intervals of as many
milliseconds or one less, and the rounded frame rate says which. -/
theorem keepsWholeMillis (hbecomes : (Rig.fresh rate reportInterval).Becomes rig)
    (hpos : 0 < millis) (hlt : Duration.ofMillis millis < 2 * hiddenBit) :
    (rig.pace.rate.frameTime = Binary64.ofNat millis →
      RendersAt rig (Duration.ofMillis (keptMillis millis))) ∧
    (∀ number (driver : Driver), rig.drivers[number]? = some driver →
      driver.throttle = true → driver.busy = false →
        driver.pending = some (Binary64.ofNat millis) → ∀ depth measuredRate,
          TurnKeeps depth number measuredRate
            (Duration.ofMillis (keptMillis millis)) rig) ∧
    (keptMillis millis = millis ∧ IsHonoured millis ∨
      keptMillis millis + 1 = millis ∧ ¬ IsHonoured millis) := by
  have hinterval := intervalOfFrameTime_ofNat hpos hlt
  obtain ⟨notices, hcapped⟩ := hbecomes.capped
  refine ⟨fun hframe => ?_, ?_, keptMillis_cases hpos⟩
  · have hrenders := rendersAt_of_capped hcapped
    rw [hframe, hinterval] at hrenders
    exact hrenders
  · intro number driver hdriver hthrottle hfree hpending
    apply turnKeeps_of_takes hdriver hfree
    rw [interval_applyPending hthrottle hpending, hinterval]

/-- A driver that is created at fifteen milliseconds and told of twenty-nine. -/
def lengthening : Script :=
  .order (.driver (.newEmulator (.card default))) fun _ =>
    .order (.driver (.newDriver 0 default .standard .shared)) fun _ =>
      .order (.pace (.setFrameTime (Binary64.ofNat 29))) fun _ => .done .null

def lengthenedRig : Rig :=
  (lengthening.playWithin 2 (Rig.fresh ⟨20, Binary64.ofNat 15⟩ Duration.perSecond)).2

/-- It renders every fourteen milliseconds, and every twenty-eight from its turn on. -/
theorem keepsWholeMillis_shortened :
    (lengthenedRig.driver 0).render.interval = Duration.ofMillis 14 ∧
      lengthenedRig.pace.rate.frameTime = Binary64.ofNat 29 ∧
      RendersAt lengthenedRig (Duration.ofMillis 28) ∧
      TurnKeeps 2 0 none (Duration.ofMillis 28) lengthenedRig ∧ ¬ IsHonoured 29 := by
  have hbecomes : (Rig.fresh ⟨20, Binary64.ofNat 15⟩ Duration.perSecond).Becomes
      lengthenedRig := .after 2 lengthening .start
  have hframe : lengthenedRig.pace.rate.frameTime = Binary64.ofNat 29 := by
    decide +kernel
  have hdriver := getElem?_driver
    (by decide +kernel : 0 < lengthenedRig.drivers.size)
  have hshort : ¬ IsHonoured 29 := by decide +kernel
  have hkept : keptMillis 29 = 28 := if_neg hshort
  obtain ⟨hrenders, hturns, _⟩ :=
    keepsWholeMillis hbecomes (by decide : 0 < 29) (by decide)
  rw [hkept] at hrenders hturns
  exact ⟨by decide +kernel, hframe, hrenders hframe,
    hturns 0 _ hdriver (by decide +kernel) (by decide +kernel) (by decide +kernel) 2 none,
    hshort⟩

end Driver

end Cadence
