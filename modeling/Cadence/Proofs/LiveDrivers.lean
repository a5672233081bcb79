import Cadence.Proofs.References

/-!
Live drivers.  Wherever user code is in control, exactly those drivers are alive
that something refers to: by hand a driver is used through its handle, messages
reach live drivers only, and the turn of a task that is under way is owed to its
driver until the next one has been requested.
-/

namespace Cadence

open Exec Contract

/-- Drivers are settled wherever user code is in control, which restores the batches
that were under way. -/
def settling : Contract where
  allowed _ := True
  finds := Rig.Settled
  leaves rig _ later := later.Settled ∧
    later.refresher.batches = rig.refresher.batches ∧
      rig.refresher.KeepsTasks later.refresher
  refl hsettled := ⟨hsettled, rfl, .refl _⟩
  trans hfirst hsecond :=
    ⟨hsecond.1, hsecond.2.1.trans hfirst.2.1, hfirst.2.2.trans hsecond.2.2⟩
  keeps _ hleaves := hleaves.1
  bound _ := Rig.keepsTo_all _
  enrolls hsettled _ := ⟨hsettled, rfl, .refl _⟩

namespace Settling

variable {rig : Rig} {number : Nat}

theorem admits_of_settled {change : Rig → Rig}
    (hsettled : ∀ {rig : Rig}, rig.Settled → (change rig).Settled)
    (hbatches : ∀ rig : Rig, (change rig).refresher.batches = rig.refresher.batches)
    (htasks : ∀ rig : Rig, rig.refresher.KeepsTasks (change rig).refresher) :
    settling.Admits change := by
  intro rig ending middle hleaves
  exact ⟨hsettled hleaves.1, (hbatches middle).trans hleaves.2.1,
    hleaves.2.2.trans (htasks middle)⟩

/-- What concerns neither drivers nor refreshes. -/
theorem admits_aside {change : Rig → Rig}
    (hdrivers : ∀ rig, (change rig).drivers = rig.drivers)
    (hrefresher : ∀ rig, (change rig).refresher = rig.refresher) :
    settling.Admits change := by
  refine admits_of_settled (fun {rig} hsettled => ?_) (fun rig => ?_) fun rig => ?_
  · refine hsettled.of_tenures (fun number => ?_) fun number => ?_
    · rw [Rig.driver, hdrivers]
      rfl
    · rw [hrefresher]
  · rw [hrefresher]
  · rw [hrefresher]
    exact .refl _

theorem admits_event (event : Event) : settling.Admits fun rig =>
    { rig with journal := event :: rig.journal } :=
  admits_aside (fun _ => rfl) fun _ => rfl

theorem ignores_touch {facet : Facet}
    (hfacet : facet ∉ [.timing, .marks, .handles, .refreshes]) :
    settling.Ignores facet := by
  intro rig ending middle later hleaves htouch
  cases htouch with
  | event event => exact admits_event event hleaves
  | timing => simp at hfacet
  | marks => simp at hfacet
  | handles => simp at hfacet
  | refreshes => simp at hfacet
  | _ => exact hleaves

theorem ignoresAll_ambience : settling.IgnoresAll Facet.ambience := by
  intro facet hfacet
  apply ignores_touch
  revert facet
  decide

theorem admits_modify {change : Driver → Driver}
    (hchange : ∀ driver, (change driver).tenure = driver.tenure) :
    settling.Admits fun rig =>
      { rig with drivers := rig.drivers.modify number change } :=
  admits_of_settled (fun hsettled => hsettled.of_tenures
      (fun other => Driver.view_modify Driver.tenure change hchange _ other number)
      fun _ => rfl)
    (fun _ => rfl) fun _ => .refl _

/-! ### Turns and steps -/

theorem allowsShowing (number : Nat) : settling.AllowsShowing number where
  logs := ignores_touch (by decide)
  calls := ignores_touch (by decide)
  modifies hfooting hhandle := by
    refine admits_modify fun driver => ?_
    have hkept := hfooting driver
    rw [Driver.tenure, hhandle]
    simp only [Driver.footing, Driver.cap, Prod.mk.injEq, Cap.mk.injEq] at hkept
    rw [hkept.2, hkept.1.2.2.2]
    rfl
  shows _ := admits_event _

theorem allowsWork (number : Nat) : settling.AllowsWork number := by
  have hemulators : settling.Ignores .emulators := ignores_touch (by decide)
  have hcycles (emulator : Nat) : settling.AllowsCycles emulator := by
    refine .of_ignores (fun facet hfacet => ignores_touch ?_) emulator
    revert facet
    decide
  exact
    { toAllowsShowing := allowsShowing number
      advances := fun emulator times => Emulator.sound_whenFree hemulators
        (Driver.sound_advanceTimes (hcycles emulator)
          (Driver.sound_modifyStats (allowsShowing number) _) times) emulator _
      renders := fun emulator => Emulator.sound_whenFree hemulators
        (Driver.sound_renderAndDraw (allowsShowing number) (hcycles emulator)) emulator _ }

theorem sound_turn (number : Nat) (measuredRate : Option Binary64) :
    settling.Sound (Driver.turn number measuredRate) := by
  refine Driver.sound_turn (allowsWork number) (fun rig hfinds => ?_) ?_
  · exact Driver.soundAt_openTurn (allowsShowing number) hfinds measuredRate
      ((admits_event _).sound rig hfinds) (admits_modify Driver.tenure_applyPending)
  · exact Driver.sound_activateRender (allowsWork number) (fun _ _ => admits_event _)
      fun _ => admits_modify fun _ => rfl

theorem sound_step (number : Nat) : settling.Sound (Driver.step number) :=
  Driver.sound_step (allowsWork number) (admits_event _).sound

theorem driver_mark_self (hsize : number < rig.drivers.size) (busy : Bool) :
    (Driver.mark number busy rig).driver number = { rig.driver number with busy } :=
  Driver.driver_modify hsize _

theorem driver_mark_of_ne {other : Nat} (h : other ≠ number) (busy : Bool) (rig : Rig) :
    (Driver.mark number busy rig).driver other = rig.driver other := by
  rw [Rig.driver, Driver.mark, Array.getElem?_modify, if_neg h.symm]
  rfl

/-- A live driver may be kept busy. -/
theorem settled_entered (h : rig.Settled) (halive : (rig.driver number).alive = true)
    (journal : List Event) :
    ({ Driver.mark number true rig with journal } : Rig).Settled := by
  intro other
  change ((Driver.mark number true rig).driver other).alive =
    (Driver.mark number true rig).isReferenced other
  by_cases hother : other = number
  · subst hother
    rw [Rig.isReferenced, driver_mark_self (Driver.size_of_alive halive), halive]
    simp
  · rw [Rig.isReferenced, driver_mark_of_ne hother]
    exact h other

/-- Drivers that nothing refers to any more are let go. -/
theorem leaves_retireAbandoned {later : Rig} (ending : Ending Unit) (hhoused : later.Housed)
    (hbatches : later.refresher.batches = rig.refresher.batches)
    (htasks : rig.refresher.KeepsTasks later.refresher) :
    settling.leaves rig ending later.retireAbandoned := by
  refine ⟨hhoused.settles, ?_, ?_⟩
  · rw [Rig.refresher_retireAbandoned]
    exact hbatches
  · rw [Rig.refresher_retireAbandoned]
    exact htasks

/-- Whatever keeps a live driver busy, it is let go afterwards if nothing else refers to
it. -/
theorem soundAt_ifFree {α : Type} {body : Exec α} (hbody : settling.Sound body)
    (hfinds : rig.Settled) (halive : (rig.driver number).alive = true) :
    settling.SoundAt rig (Driver.ifFree number body) := by
  have hdriver := Driver.getElem?_driver (Driver.size_of_alive halive)
  cases hbusy : (rig.driver number).busy with
  | true =>
      rw [SoundAt, Driver.ifFree_of_busy hdriver hbusy]
      exact settling.refl hfinds
  | false =>
      rw [SoundAt, Driver.ifFree_of_free hdriver hbusy]
      refine SoundAt.map ?_ hfinds some
      rw [SoundAt, ensuring_apply, within_apply, Progress.respects_atEnd,
        Progress.respects_atEnd]
      refine (hbody _ (settled_entered hfinds halive _)).imp fun ending later hleaves => ?_
      obtain ⟨hsettled, hbatches, htasks⟩ := hleaves
      have hhoused : (Driver.mark number false later).Housed :=
        hsettled.housed.modify (fun _ => rfl) (fun _ => id) fun _ => Bool.noConfusion
      have hleft : ({ Driver.mark number false later with
          journal := .left (.driver number) :: later.journal } : Rig).Housed := hhoused
      exact leaves_retireAbandoned ending.plain hleft hbatches htasks

theorem soundAt_taskTurn (hfinds : rig.Settled)
    (halive : (rig.driver number).alive = true) (frame : FrameTime) :
    settling.SoundAt rig (Driver.taskTurn number frame) := by
  apply (soundAt_ifFree (sound_turn number frame.measuredRate) hfinds halive).bind hfinds
  intro result
  split <;> exact sound_pure _

theorem sound_turnByHand (number : Nat) (measuredRate : Option Binary64) :
    settling.Sound (Driver.turnByHand number measuredRate) := by
  apply sound_of_look
  intro rig hfinds
  split
  · exact sound_pure _ rig hfinds
  · rename_i hhandle
    exact soundAt_ifFree (sound_turn number measuredRate) hfinds
      (hfinds.alive_of_handle (by simpa using hhandle))

theorem sound_stepByHand (number : Nat) : settling.Sound (Driver.stepByHand number) := by
  apply sound_of_look
  intro rig hfinds
  split
  · exact sound_pure _ rig hfinds
  · rename_i hhandle
    exact soundAt_ifFree (sound_step number) hfinds
      (hfinds.alive_of_handle (by simpa using hhandle))

theorem sound_deliverStep (number generation : Nat) :
    settling.Sound (Driver.deliverStep number generation) := by
  have hdiary : settling.Ignores .diary := ignores_touch (by decide)
  apply sound_of_look
  intro rig hfinds
  split
  · rename_i hlive
    apply (soundAt_ifFree (sound_step number) hfinds hlive.1).bind hfinds
    intro result
    split
    · exact hdiary.sound_log _
    · exact hdiary.sound_log _
    · exact sound_pure ()
  · exact sound_pure () rig hfinds

/-- A driver whose handle is dropped is let go if nothing else refers to it. -/
theorem sound_dropHandle (number : Nat) : settling.Sound (Driver.dropHandle number) := by
  intro rig hfinds
  have hhoused : ({ rig with
      drivers := rig.drivers.modify number ({ · with handle := false }) } : Rig).Housed :=
    hfinds.housed.modify (fun _ => rfl) (fun _ => Bool.noConfusion) fun _ => id
  exact leaves_retireAbandoned (.value ()) hhoused rfl (.refl _)

theorem allowsFleet : settling.AllowsFleet where
  builds _ := admits_aside (fun _ => rfl) fun _ => rfl
  holds _ := Emulator.sound_hold (admits_aside (fun _ => rfl) fun _ => rfl)
  turns := sound_turnByHand
  steps := sound_stepByHand
  drops := sound_dropHandle

/-! ### The pace and the mail -/

/-- A new driver has a handle. -/
theorem settled_push (h : rig.Settled) {driver : Driver} (halive : driver.alive = true)
    (hhandle : driver.handle = true) :
    ({ rig with drivers := rig.drivers.push driver } : Rig).Settled := by
  intro number
  by_cases hnew : number = rig.drivers.size
  · have hdriver : ({ rig with drivers := rig.drivers.push driver } : Rig).driver number =
        driver := by
      rw [Rig.driver, hnew, Array.getElem?_push_size]
      rfl
    rw [Rig.isReferenced, hdriver, halive, hhandle]
    rfl
  · have hdriver : ({ rig with drivers := rig.drivers.push driver } : Rig).driver number =
        rig.driver number := by
      rw [Rig.driver, Array.getElem?_push, if_neg hnew]
      rfl
    rw [Rig.isReferenced, hdriver]
    exact h number

theorem allowsPacing : settling.AllowsPacing := by
  refine Pace.Aside.allowsPacing (ignores_touch (by decide)) (ignores_touch (by decide))
    (ignores_touch (by decide)) (fun _ _ => ?_) fun _ _ _ _ _ => ?_
  · exact admits_modify fun _ => rfl
  · exact admits_of_settled (fun hsettled => settled_push hsettled rfl rfl) (fun _ => rfl)
      fun _ => .refl _

theorem sound_startMail (callback : Callback) :
    settling.Sound (Mailbox.start callback) := by
  cases callback with
  | routine routine =>
      have hcalls : settling.Ignores .calls := ignores_touch (by decide)
      exact hcalls.sound_callQuietly _ _
  | step number generation => exact sound_deliverStep number generation

theorem allowsMail : settling.AllowsMail :=
  Mailbox.allowsMail_of_starts ignoresAll_ambience (ignores_touch (by decide))
    sound_startMail

end Settling

end Cadence
