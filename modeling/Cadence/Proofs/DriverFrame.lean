import Cadence.Proofs.Frame

/-!
Frames of emulators and drivers.  Cycles and renders touch nothing but emulators,
displays and statistics.  A turn keeps to every contract that allows it to begin
and to activate its renders.
-/

namespace Cadence

open Exec Contract

variable {contract : Contract}

namespace Facet

/-- What cycles of an emulator touch. -/
def emulation : List Facet := [.diary, .calls, .emulators]

/-- What turns and steps touch besides the timing of renders. -/
def rendering : List Facet := [.diary, .calls, .emulators, .handles]

theorem emulation_subset_rendering : emulation ⊆ rendering := by
  decide

end Facet

/-- What cycles and frames do to an emulator is admitted. -/
structure Contract.AllowsCycles (contract : Contract) (emulator : Nat) : Prop where
  calls : contract.Ignores .calls
  modifies : ∀ {change : Emulator → Emulator},
    (∀ emulator, (change emulator).inUse = emulator.inUse) →
      contract.Admits fun rig =>
        { rig with emulators := rig.emulators.modify emulator change }
  advanced : contract.Admits fun rig =>
    { rig with journal := .advanced emulator :: rig.journal }
  rendered : contract.Admits fun rig =>
    { rig with journal := .rendered emulator :: rig.journal }

theorem Contract.AllowsCycles.of_ignores
    (hignores : contract.IgnoresAll Facet.emulation) (emulator : Nat) :
    contract.AllowsCycles emulator := by
  have hemulators := hignores .emulators (by decide)
  exact
    { calls := hignores .calls (by decide)
      modifies := fun _ => hemulators.admits fun _ => .emulators _
      advanced := hemulators.admits_event rfl
      rendered := hemulators.admits_event rfl }

namespace Emulator

/-- Uses an emulator, unless it is busy. -/
def whenFree (number : Nat) (phase : EmulatorPhase) (body : Exec Verdict) :
    Exec Verdict := do
  if (← look (·.emulator number)).isBusy then
    return .error (.emulatorBusy phase)
  occupying number body

section Frame

variable {number : Nat} (hcycles : contract.AllowsCycles number)

include hcycles

theorem sound_modify {change : Emulator → Emulator}
    (hchange : ∀ emulator, (change emulator).inUse = emulator.inUse) :
    contract.Sound (modify number change) :=
  (hcycles.modifies hchange).sound

theorem sound_advance : contract.Sound (advance number) := by
  apply hcycles.advanced.sound.seq
  apply (sound_look _).bind
  intro emulator
  split
  · refine (sound_modify hcycles fun emulator => ?_).bind fun _ => sound_pure _
    split <;> rfl
  · apply (hcycles.calls.sound_call _ _).bind
    intro verdict
    split
    · exact sound_pure _
    · refine (sound_modify hcycles fun emulator => ?_).bind fun _ => sound_pure _
      split <;> rfl

theorem sound_render : contract.Sound (render number) := by
  apply hcycles.rendered.sound.seq
  apply (sound_look _).bind
  intro emulator
  split
  · exact (sound_look _).bind fun _ => sound_pure _
  · apply (hcycles.calls.sound_call _ _).bind
    intro verdict
    split
    · exact sound_pure _
    · exact (sound_look _).bind fun _ => sound_pure _

end Frame

theorem sound_hold {number : Nat}
    (hholds : contract.Admits fun rig =>
      { rig with
        emulators := rig.emulators.modify number ({ · with held := true }) }) :
    contract.Sound (hold number) := by
  apply (sound_look _).bind
  intro emulator
  split
  · exact sound_pure _
  · exact hholds.sound.bind fun _ => sound_pure _

theorem sound_whenFree (hemulators : contract.Ignores .emulators)
    {body : Exec Verdict} (hbody : contract.Sound body) (number : Nat)
    (phase : EmulatorPhase) : contract.Sound (whenFree number phase body) := by
  have hmark (inUse : Bool) : contract.Admits (mark number inUse) :=
    hemulators.admits fun _ => .emulators _
  apply (sound_look _).bind
  intro emulator
  split
  · exact sound_pure _
  · refine hbody.within ?_ ?_
    · exact (hmark true).comp (hemulators.admits_event rfl)
    · exact (hmark false).comp (hemulators.admits_event rfl)

end Emulator

/-- What a driver's display may be given is admitted. -/
structure Contract.AllowsDisplay (contract : Contract) (number : Nat) : Prop where
  calls : contract.Ignores .calls
  paints : ∀ display, contract.Admits fun rig =>
    { rig with drivers := rig.drivers.modify number ({ · with display }) }
  statuses : ∀ text, contract.Admits fun rig =>
    { rig with journal := .statusSet number text :: rig.journal }
  frames : ∀ bytes, contract.Admits fun rig =>
    { rig with journal := .drawn number bytes :: rig.journal }

namespace Driver

/-- Taking an announced frame time over has to do with the timing of renders alone. -/
theorem applyPending_with (driver : Driver) (measuredRate : Option Binary64)
    (stats : DriverStats) :
    ({ driver with measuredRate, stats } : Driver).applyPending =
      { driver.applyPending with measuredRate, stats } := by
  simp only [applyPending]
  split <;> rfl

theorem applyPending_busy (driver : Driver) (busy : Bool) :
    ({ driver with busy } : Driver).applyPending = { driver.applyPending with busy } := by
  simp only [applyPending]
  split <;> rfl

theorem applyPending_idem (driver : Driver) :
    driver.applyPending.applyPending = driver.applyPending := by
  obtain ⟨_, _, _, _, _, pending, _, _, _, _, _, _⟩ := driver
  cases pending <;> rfl

theorem handle_applyPending (driver : Driver) :
    driver.applyPending.handle = driver.handle := by
  unfold applyPending
  split <;> rfl

theorem alive_applyPending (driver : Driver) :
    driver.applyPending.alive = driver.alive := by
  unfold applyPending
  split <;> rfl

theorem busy_applyPending (driver : Driver) :
    driver.applyPending.busy = driver.busy := by
  unfold applyPending
  split <;> rfl

section Display

variable {number : Nat} (hdisplay : contract.AllowsDisplay number)

include hdisplay

theorem sound_setStatus (text : String) :
    contract.Sound (setStatus number text) := by
  have hrecord : contract.Sound (record (.statusSet number text)) :=
    (hdisplay.statuses text).sound
  apply (sound_look _).bind
  intro driver
  split
  · exact hrecord.bind fun _ => (hdisplay.paints _).sound
  · exact sound_pure ()
  · exact hrecord.bind fun _ => hdisplay.calls.sound_callQuietly _ _
  · exact hrecord.bind fun _ => (hdisplay.paints _).sound

theorem sound_draw (bytes : Array UInt8) :
    contract.Sound (draw number bytes) := by
  apply (hdisplay.frames bytes).sound.seq
  apply (sound_look _).bind
  intro driver
  split
  · exact (hdisplay.paints _).sound.bind fun _ => sound_pure _
  · exact hdisplay.calls.sound_call _ _
  · split
    · exact sound_unwind _
    · exact sound_pure _
    · exact (hdisplay.paints _).sound.bind fun _ => sound_pure _

/-- A render is sound if the display may be given its frame and may take it. -/
theorem sound_renderAndDraw_of_display
    (hdraws : contract.Admits fun rig =>
      { rig with journal := .drawSucceeded number :: rig.journal }) {emulator : Nat}
    (hcycles : contract.AllowsCycles emulator) :
    contract.Sound (renderAndDraw number emulator) := by
  apply (Emulator.sound_render hcycles).bind
  intro frame
  split
  · exact sound_pure _
  · apply (sound_look _).bind
    intro expected
    split
    · exact sound_pure _
    · apply (sound_draw hdisplay _).bind
      intro verdict
      split
      · exact sound_pure _
      · exact hdraws.sound.bind fun _ => sound_pure _

end Display

/-- So many cycles are sound if each is, and may be counted. -/
theorem sound_advanceTimes {number emulator : Nat}
    (hcycles : contract.AllowsCycles emulator)
    (hcounts : contract.Sound (modifyStats number fun stats =>
      { stats with cycles := stats.cycles + 1 })) (times : Nat) :
    contract.Sound (advanceTimes number emulator times) := by
  induction times with
  | zero => exact sound_pure _
  | succ times ih =>
      apply (Emulator.sound_advance hcycles).bind
      intro verdict
      split
      · exact sound_pure _
      · exact hcounts.bind fun _ => ih

end Driver

/-- What a display is given, and that it took it. -/
def Event.isShowingOf (number : Nat) : Event → Bool
  | .statusSet other _ => other == number
  | .drawn other _ => other == number
  | .drawSucceeded other => other == number
  | _ => false

/-- What a driver does to itself in a turn or step is admitted, apart from the
timing of its renders. -/
structure Contract.AllowsShowing (contract : Contract) (number : Nat) : Prop where
  logs : contract.Ignores .diary
  calls : contract.Ignores .calls
  modifies : ∀ {change : Driver → Driver},
    (∀ driver, (change driver).footing = driver.footing) →
      (∀ driver, (change driver).handle = driver.handle) →
        contract.Admits fun rig =>
          { rig with drivers := rig.drivers.modify number change }
  shows : ∀ {event : Event}, event.isShowingOf number = true →
    contract.Admits fun rig => { rig with journal := event :: rig.journal }

theorem Event.facet_of_isShowingOf {event : Event} {number : Nat}
    (h : event.isShowingOf number = true) : event.facet = .handles := by
  cases event with
  | statusSet => rfl
  | drawn => rfl
  | drawSucceeded => rfl
  | _ => cases h

theorem Contract.AllowsShowing.of_ignores
    (hignores : contract.IgnoresAll Facet.rendering) (number : Nat) :
    contract.AllowsShowing number := by
  have hhandles := hignores .handles (by decide)
  exact
    { logs := hignores .diary (by decide)
      calls := hignores .calls (by decide)
      modifies := fun hfooting _ => hhandles.admits_driver number hfooting
      shows := fun hevent =>
        hhandles.admits_event (Event.facet_of_isShowingOf hevent) }

namespace Driver

section Showing

variable {number : Nat} (hshowing : contract.AllowsShowing number)

include hshowing

theorem sound_modifyStats (change : DriverStats → DriverStats) :
    contract.Sound (modifyStats number change) := by
  have hcounts : contract.Admits fun rig =>
      { rig with
        drivers := rig.drivers.modify number fun driver =>
          { driver with stats := change driver.stats } } :=
    hshowing.modifies (fun _ => rfl) fun _ => rfl
  exact hcounts.sound

/-- A turn opens soundly where it may begin, if the announced frame time may be taken
over. -/
theorem soundAt_openTurn {rig : Rig} (hfinds : contract.finds rig)
    (measuredRate : Option Binary64)
    (hbegins : contract.SoundAt rig (record (.turnBegan number)))
    (htakes : contract.Admits fun rig =>
      { rig with drivers := rig.drivers.modify number applyPending }) :
    contract.SoundAt rig (openTurn number measuredRate) := by
  have hmeasures : contract.Admits fun rig =>
      { rig with drivers := rig.drivers.modify number ({ · with measuredRate }) } :=
    hshowing.modifies (fun _ => rfl) fun _ => rfl
  apply hbegins.bind hfinds
  intro _
  apply (sound_modifyStats hshowing _).seq
  apply hmeasures.sound.seq
  apply (sound_look _).bind
  intro driver
  exact (hshowing.logs.sound_log _).seq htakes.sound

theorem allowsDisplay : contract.AllowsDisplay number where
  calls := hshowing.calls
  paints _ := hshowing.modifies (fun _ => rfl) fun _ => rfl
  statuses _ := hshowing.shows (beq_self_eq_true number)
  frames _ := hshowing.shows (beq_self_eq_true number)

theorem sound_renderAndDraw {emulator : Nat}
    (hcycles : contract.AllowsCycles emulator) :
    contract.Sound (renderAndDraw number emulator) :=
  sound_renderAndDraw_of_display (allowsDisplay hshowing)
    (hshowing.shows (beq_self_eq_true number)) hcycles

end Showing

end Driver

/-- What a driver does in a turn or step is admitted, and the emulators that it
uses may be used. -/
structure Contract.AllowsWork (contract : Contract) (number : Nat) : Prop
    extends contract.AllowsShowing number where
  advances : ∀ emulator times, contract.Sound
    (Emulator.whenFree emulator .advance
      (Driver.advanceTimes number emulator times))
  renders : ∀ emulator, contract.Sound
    (Emulator.whenFree emulator .render (Driver.renderAndDraw number emulator))

theorem Contract.AllowsWork.of_ignores
    (hignores : contract.IgnoresAll Facet.rendering) (number : Nat) :
    contract.AllowsWork number := by
  have hshowing := AllowsShowing.of_ignores hignores number
  have hcycles (emulator : Nat) : contract.AllowsCycles emulator :=
    .of_ignores (hignores.of_subset Facet.emulation_subset_rendering) emulator
  have hemulators := hignores .emulators (by decide)
  exact
    { toAllowsShowing := hshowing
      advances := fun emulator times => Emulator.sound_whenFree hemulators
        (Driver.sound_advanceTimes (hcycles emulator)
          (Driver.sound_modifyStats hshowing _) times) emulator _
      renders := fun emulator => Emulator.sound_whenFree hemulators
        (Driver.sound_renderAndDraw hshowing (hcycles emulator)) emulator _ }

namespace Driver

theorem renderOnce_eq (number : Nat) :
    renderOnce number = (do
      setStatus number (← look fun rig =>
        statusLine rig.pace.rate rig.pace.running (rig.driver number).measuredRate)
      let emulator ← look fun rig => (rig.driver number).emulator
      Emulator.whenFree emulator .render (renderAndDraw number emulator)) := rfl

theorem advance_eq (number : Nat) (cycles : UInt32) :
    advance number cycles = (do
      let emulator ← look fun rig => (rig.driver number).emulator
      Emulator.whenFree emulator .advance
        (advanceTimes number emulator cycles.toNat)) := rfl

section Work

variable {number : Nat} (hwork : contract.AllowsWork number)

include hwork

theorem sound_renderOnce : contract.Sound (renderOnce number) := by
  rw [renderOnce_eq]
  apply (sound_look _).bind
  intro status
  apply (sound_setStatus (allowsDisplay hwork.toAllowsShowing) status).seq
  exact (sound_look _).bind fun emulator => hwork.renders emulator

theorem sound_advance (cycles : UInt32) :
    contract.Sound (advance number cycles) := by
  rw [advance_eq]
  exact (sound_look _).bind fun emulator => hwork.advances emulator _

theorem sound_renderTimes (times : Nat) :
    contract.Sound (renderTimes number times) := by
  induction times with
  | zero => exact sound_pure _
  | succ times ih =>
      apply (sound_renderOnce hwork).bind
      intro verdict
      split
      · exact sound_pure _
      · exact ih

/-- An activation is sound if it may be noted and the renders may be planned. -/
theorem sound_activateRender
    (hactivates : ∀ timing count, contract.Admits fun rig =>
      { rig with journal := .activated number timing count :: rig.journal })
    (hplans : ∀ render, contract.Admits fun rig =>
      { rig with drivers := rig.drivers.modify number ({ · with render }) }) :
    contract.Sound (activateRender number) := by
  apply (sound_look _).bind
  intro driver
  apply (sound_look _).bind
  intro now
  apply (hwork.logs.sound_log _).seq
  apply (hactivates _ _).sound.seq
  apply (hplans _).sound.seq
  apply (sound_renderTimes hwork _).bind
  intro verdict
  split <;> exact sound_pure _

/-- A step is sound where it may begin. -/
theorem soundAt_step {rig : Rig} (hfinds : contract.finds rig)
    (hbegins : contract.SoundAt rig (record (.stepBegan number))) :
    contract.SoundAt rig (step number) := by
  apply hbegins.bind hfinds
  intro _
  apply (sound_look _).bind
  intro rate
  apply (sound_advance hwork _).bind
  intro verdict
  split
  · exact sound_pure _
  · apply (sound_renderOnce hwork).bind
    intro rendered
    split
    · exact sound_pure _
    · exact (sound_modifyStats hwork.toAllowsShowing _).bind fun _ => sound_pure _

theorem sound_step (hbegins : contract.Sound (record (.stepBegan number))) :
    contract.Sound (step number) :=
  fun rig hfinds => soundAt_step hwork hfinds (hbegins rig hfinds)

/-- A turn is sound where it may begin, if it may activate its renders. -/
theorem soundAt_turn {rig : Rig} {measuredRate : Option Binary64}
    (hfinds : contract.finds rig)
    (hopens : contract.SoundAt rig (openTurn number measuredRate))
    (hactivates : contract.Sound (activateRender number)) :
    contract.SoundAt rig (turn number measuredRate) := by
  have hcounts := sound_modifyStats hwork.toAllowsShowing
  apply hopens.bind hfinds
  intro _
  apply (sound_look _).bind
  intro running
  split
  · exact (hcounts _).bind fun _ => sound_pure _
  · apply (sound_look _).bind
    intro rate
    apply (sound_advance hwork _).bind
    intro verdict
    split
    · exact sound_pure _
    · apply hactivates.bind
      intro rendered
      split
      · exact sound_pure _
      · exact (hcounts _).bind fun _ => sound_pure _

theorem sound_turn {measuredRate : Option Binary64}
    (hopens : contract.Sound (openTurn number measuredRate))
    (hactivates : contract.Sound (activateRender number)) :
    contract.Sound (turn number measuredRate) :=
  fun rig hfinds => soundAt_turn hwork hfinds (hopens rig hfinds) hactivates

end Work

section Free

variable {α : Type} {number : Nat} {rig : Rig}

theorem ifFree_of_missing (hmissing : rig.drivers[number]? = none)
    (body : Exec α) : ifFree number body rig = .ended (.value none) rig := by
  simp [ifFree, Progress.andThen, hmissing]

/-- A driver in the middle of a turn or step refuses. -/
theorem ifFree_of_busy {driver : Driver}
    (hdriver : rig.drivers[number]? = some driver) (hbusy : driver.busy = true)
    (body : Exec α) : ifFree number body rig = .ended (.value none) rig := by
  simp [ifFree, Progress.andThen, hdriver, hbusy]

theorem ifFree_of_free {driver : Driver}
    (hdriver : rig.drivers[number]? = some driver) (hfree : driver.busy = false)
    (body : Exec α) :
    ifFree number body rig =
      (some <$> (within (.driver number) (mark number) body).ensuring
        Rig.retireAbandoned) rig := by
  simp [ifFree, Progress.andThen, hdriver, hfree]

/-- What keeps a driver busy is sound if its mark may be set. -/
theorem sound_ifFree
    (henters : contract.Admits fun rig =>
      { mark number true rig with journal := .entered (.driver number) :: rig.journal })
    (hleaves : contract.Admits fun rig =>
      { mark number false rig with journal := .left (.driver number) :: rig.journal })
    (hretires : contract.Admits Rig.retireAbandoned) {body : Exec α}
    (hbody : contract.Sound body) : contract.Sound (ifFree number body) := by
  apply (sound_look _).bind
  intro driver
  split
  · exact sound_pure _
  · split
    · exact sound_pure _
    · exact ((hbody.within henters hleaves).ensuring hretires).map some

end Free

theorem admits_mark (hmarks : contract.Ignores .marks) (number : Nat)
    (busy : Bool) : contract.Admits (mark number busy) :=
  hmarks.admits fun rig =>
    .marks (map_modify_of_eq rig.drivers number fun _ => rfl)

theorem sound_ifFree_of_ignores (hmarks : contract.Ignores .marks)
    (hretires : contract.Admits Rig.retireAbandoned) {α : Type} {body : Exec α}
    (hbody : contract.Sound body) (number : Nat) :
    contract.Sound (ifFree number body) :=
  sound_ifFree
    ((admits_mark hmarks number true).comp (hmarks.admits_event rfl))
    ((admits_mark hmarks number false).comp (hmarks.admits_event rfl))
    hretires hbody

end Driver

/-- Turns and steps of drivers are sound, and so is the end of a driver. -/
structure Contract.AllowsTurns (contract : Contract) : Prop where
  turns : ∀ number measuredRate,
    contract.Sound (Driver.ifFree number (Driver.turn number measuredRate))
  steps : ∀ number, contract.Sound (Driver.ifFree number (Driver.step number))
  retires : contract.Admits Rig.retireAbandoned

/-- A contract that ignores marks allows turns if it allows what they do to
the timing of renders. -/
theorem Contract.AllowsTurns.of_timing
    (hignores : contract.IgnoresAll Facet.rendering)
    (hmarks : contract.Ignores .marks)
    (hopens : ∀ number measuredRate,
      contract.Sound (Driver.openTurn number measuredRate))
    (hactivates : ∀ number, contract.Sound (Driver.activateRender number))
    (hretires : contract.Admits Rig.retireAbandoned) : contract.AllowsTurns := by
  have hwork (number : Nat) : contract.AllowsWork number :=
    .of_ignores hignores number
  have hhandles := hignores .handles (by decide)
  exact
    { turns := fun number measuredRate =>
        Driver.sound_ifFree_of_ignores hmarks hretires
          (Driver.sound_turn (hwork number) (hopens number measuredRate)
            (hactivates number)) number
      steps := fun number =>
        Driver.sound_ifFree_of_ignores hmarks hretires
          (Driver.sound_step (hwork number) (hhandles.sound_record rfl)) number
      retires := hretires }

theorem Rig.retireAbandoned_induct (property : Rig → Prop)
    (hretire : ∀ number rig, rig.isAbandoned number = true → property rig →
      property (rig.retire number))
    {rig : Rig} (hrig : property rig) : property rig.retireAbandoned := by
  unfold retireAbandoned
  induction List.range rig.drivers.size generalizing rig with
  | nil => exact hrig
  | cons number rest ih =>
      rw [List.foldl_cons]
      apply ih
      split
      · rename_i habandoned
        exact hretire number rig habandoned hrig
      · exact hrig

theorem Rig.refresher_retireAbandoned (rig : Rig) :
    rig.retireAbandoned.refresher = rig.refresher :=
  retireAbandoned_induct (fun later => later.refresher = rig.refresher)
    (fun _ _ _ hlater => hlater) rfl

theorem Contract.admits_retireAbandoned
    (hretire : ∀ number, contract.Admits (·.retire number)) :
    contract.Admits Rig.retireAbandoned := by
  intro rig ending middle hleaves
  exact Rig.retireAbandoned_induct (contract.leaves rig ending)
    (fun number _ _ hmoment => hretire number hmoment) hleaves

/-- Everything is well with a contract that is not concerned with timing. -/
theorem Contract.AllowsTurns.of_ignores
    (hignores : contract.IgnoresAll Facet.rendering)
    (hmarks : contract.Ignores .marks) (hpace : contract.Ignores .pace)
    (htiming : contract.Ignores .timing) : contract.AllowsTurns := by
  refine .of_timing hignores hmarks (fun number measuredRate rig hfinds => ?_)
    (fun number => ?_) (admits_retireAbandoned fun number => ?_)
  · exact Driver.soundAt_openTurn (.of_ignores hignores number) hfinds measuredRate
      (htiming.sound_record rfl rig hfinds) (htiming.admits fun _ => .timing _)
  · exact Driver.sound_activateRender (.of_ignores hignores number)
      (fun _ _ => htiming.admits_event rfl) fun _ => htiming.admits fun _ => .timing _
  · have hunsubscribed : contract.Admits fun rig =>
        { rig with pace := rig.pace.unsubscribe (.driver number) } :=
      hpace.admits fun _ => .pace _
    have hended : contract.Admits fun rig =>
        { rig with
          drivers := rig.drivers.modify number ({ · with alive := false }) } :=
      htiming.admits fun _ => .timing _
    exact (hunsubscribed.comp hended).comp (hpace.admits_event rfl)

namespace Driver

section Turns

variable (hturns : contract.AllowsTurns)

include hturns

theorem sound_taskTurn (number : Nat) (frame : FrameTime) :
    contract.Sound (taskTurn number frame) := by
  apply (hturns.turns number frame.measuredRate).bind
  intro result
  split <;> exact sound_pure _

theorem sound_turnByHand (number : Nat) (measuredRate : Option Binary64) :
    contract.Sound (turnByHand number measuredRate) := by
  apply (sound_look _).bind
  intro driver
  split
  · exact sound_pure _
  · exact hturns.turns number measuredRate

theorem sound_stepByHand (number : Nat) :
    contract.Sound (stepByHand number) := by
  apply (sound_look _).bind
  intro driver
  split
  · exact sound_pure _
  · exact hturns.steps number

theorem sound_deliverStep (hdiary : contract.Ignores .diary)
    (number generation : Nat) :
    contract.Sound (deliverStep number generation) := by
  apply (sound_look _).bind
  intro driver
  split
  · apply (hturns.steps number).bind
    intro result
    split
    · exact hdiary.sound_log _
    · exact hdiary.sound_log _
    · exact sound_pure ()
  · exact sound_pure ()

theorem sound_dropHandle {number : Nat}
    (hdrops : contract.Admits fun rig =>
      { rig with
        drivers := rig.drivers.modify number ({ · with handle := false }) }) :
    contract.Sound (dropHandle number) :=
  (hdrops.comp hturns.retires).sound

end Turns

end Driver

end Cadence
