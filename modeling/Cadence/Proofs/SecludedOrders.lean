import Cadence.Proofs.SecludedParts

/-!
Turns, steps and everything else that executes a part, in seclusion.  Whatever a fact
says of drivers at rest, it is kept by every order if turns and steps keep it.
-/

namespace Cadence

open Exec Contract

/-- User code that leaves a driver alone. -/
def sparing (number : Nat) : Contract where
  allowed _ := True
  finds _ := True
  leaves rig _ later := rig.Spares (.driver number) later ∧
    (number < rig.drivers.size → number < later.drivers.size)
  refl _ := ⟨.refl _ _, id⟩
  trans hfirst hsecond := ⟨hfirst.1.trans hsecond.1, hsecond.2 ∘ hfirst.2⟩
  keeps _ _ := trivial
  bound _ := Rig.keepsTo_all _
  enrolls _ _ := ⟨⟨rfl, rfl⟩, id⟩

/-- A fact that holds of a driver on a rig without one, that new drivers have, and that
turns and steps keep, whatever is done meanwhile by those who leave the driver alone. -/
structure Rig.Fact.Kept (fact : Rig.Fact) : Prop where
  absent : ∀ number, fact number (default : Driver).core []
  fresh : ∀ number work emulator display options timebase rate,
    fact number (default : Driver).core work →
      fact number (Driver.fresh emulator display options timebase rate).core work
  turns : ∀ {rig} number measuredRate, number < rig.drivers.size → rig.Has fact number →
    (Driver.turn number measuredRate rig).Respects (sparing number)
      fun _ later => later.Has fact number
  steps : ∀ {rig} number, number < rig.drivers.size → rig.Has fact number →
    (Driver.step number rig).Respects (sparing number)
      fun _ later => later.Has fact number

namespace Seclusion

variable {fact : Rig.Fact} {mine : List Part} {rig later : Rig}

theorem ignoresAmbience : (secluding fact mine).IgnoresAll Facet.ambience := by
  intro facet hfacet
  have hsubset : Facet.ambience ⊆ aloof := by decide
  exact ignores (hsubset hfacet)

/-! ### Emulators -/

/-- An emulator that is free is not under way. -/
theorem flag_of_free {number : Nat} (hfree : (rig.emulator number).isBusy = false) :
    rig.flag 0 (.emulator number) = some false := by
  rw [Rig.emulator] at hfree
  rw [Rig.flag]
  cases hentry : rig.emulators[number]? with
  | none =>
      rw [hentry] at hfree
      cases hfree
  | some emulator =>
      rw [hentry] at hfree
      have huse := (Bool.or_eq_false_iff.mp hfree).1
      exact congrArg some huse

theorem sound_whenFree {number : Nat} (phase : EmulatorPhase) {body : Exec Verdict}
    (hbody : (secluding fact (.emulator number :: mine)).Sound body) :
    (secluding fact mine).Sound (Emulator.whenFree number phase body) := by
  intro rig hfinds
  simp only [Emulator.whenFree, bind_apply, look_apply, Progress.andThen]
  split
  · exact (secluding fact mine).refl hfinds
  · rename_i hfree
    exact soundAt_within_of_sound (marks_emulator number) hfinds
      (flag_of_free (eq_false_of_ne_true hfree)) (fun _ => Part.noConfusion) hbody

/-- An emulator is taken away only if nobody uses it. -/
theorem sound_hold (number : Nat) :
    (secluding fact mine).Sound (Emulator.hold number) := by
  intro rig hfinds
  simp only [Emulator.hold, Emulator.modify, bind_apply, look_apply, Progress.andThen]
  split
  · exact (secluding fact mine).refl hfinds
  · rename_i hfree
    have hidle := hfinds.1.not_underWay (flag_of_free (eq_false_of_ne_true hfree))
    have hinUse (emulator : Emulator) :
        { emulator with held := true }.inUse = emulator.inUse := rfl
    refine Rig.Attends.quiet hfinds.1 hfinds.2 ?_ rfl rfl (fun _ _ => rfl) ?_
    · exact Rig.flag_congr (fun _ => rfl)
        (map_getElem?_modify hinUse rig.emulators number) (fun _ => rfl)
        (fun _ _ => rfl) (fun _ => rfl) fun _ => rfl
    · intro part hpart _
      cases part with
      | emulator other =>
          have hother : number ≠ other := by
            rintro rfl
            exact hidle hpart
          exact congrArg Belonging.emulator
            ((Array.getElem?_modify ..).trans (if_neg hother))
      | _ => rfl

/-! ### Turns and steps -/

theorem allowsWork {number : Nat} (hnumber : .driver number ∈ mine) :
    (secluding fact mine).AllowsWork number where
  toAllowsShowing := allowsShowing hnumber
  advances _ times := sound_whenFree _ (Driver.sound_advanceTimes
    (allowsCycles List.mem_cons_self)
    (Driver.sound_modifyStats (allowsShowing (List.mem_cons_of_mem _ hnumber)) _) times)
  renders _ := sound_whenFree _ (Driver.sound_renderAndDraw
    (allowsShowing (List.mem_cons_of_mem _ hnumber)) (allowsCycles List.mem_cons_self))

/-- A turn or step begins when its driver has come. -/
theorem soundAt_begin {event : Event} {number : Nat}
    (hfinds : (secluding fact mine).finds rig) (hnumber : .driver number ∈ mine)
    (hbegins : event.beginner = some number)
    (hhead : rig.journal.head? = some (.entered (.driver number))) :
    (secluding fact mine).SoundAt rig (record event) := by
  have hworker := Event.worker_of_beginner hbegins
  refine attends_note hfinds.1 hfinds.2 ?_ (.of_beginner hbegins hhead) ?_
  · cases event with
    | entered => cases hbegins
    | left => cases hbegins
    | _ => rfl
  · intro part hpart
    rw [hworker] at hpart
    cases hpart
    exact hnumber

theorem soundAt_openTurn {number : Nat} (hfinds : (secluding fact mine).finds rig)
    (hnumber : .driver number ∈ mine)
    (hhead : rig.journal.head? = some (.entered (.driver number)))
    (measuredRate : Option Binary64) :
    (secluding fact mine).SoundAt rig (Driver.openTurn number measuredRate) := by
  have hbegins : (secluding fact mine).SoundAt rig (record (.turnBegan number)) :=
    soundAt_begin hfinds hnumber rfl hhead
  exact Driver.soundAt_openTurn (allowsShowing hnumber) hfinds measuredRate hbegins
    (admits_driver Driver.busy_applyPending (Or.inl hnumber))

theorem sound_activateRender {number : Nat} (hnumber : .driver number ∈ mine) :
    (secluding fact mine).Sound (Driver.activateRender number) := by
  exact Driver.sound_activateRender (allowsWork hnumber)
    (fun _ _ => admits_work rfl rfl hnumber)
    fun _ => admits_driver (fun _ => rfl) (Or.inl hnumber)

theorem admits_retireAbandoned : (secluding fact mine).Admits Rig.retireAbandoned := by
  refine Contract.admits_retireAbandoned fun number => ?_
  have hpace : (secluding fact mine).Admits fun rig =>
      { rig with pace := rig.pace.unsubscribe (.driver number) } :=
    (ignores (by decide)).admits fun _ => .pace _
  have hends : (secluding fact mine).Admits fun rig =>
      { rig with drivers := rig.drivers.modify number ({ · with alive := false }) } :=
    admits_driver (fun _ => rfl) (Or.inr fun _ => rfl)
  exact (hpace.comp hends).comp (admits_plain rfl rfl)

theorem size_of_knows {number : Nat} (h : rig.Knows (.driver number)) :
    number < rig.drivers.size := by
  by_contra hsize
  have hnone : rig.drivers[number]? = none := Array.getElem?_eq_none (Nat.le_of_not_lt hsize)
  have hflag : (rig.flag 0 (.driver number)).isSome = true := h
  rw [Rig.flag, hnone] at hflag
  cases hflag

/-- A driver that is under way, and what it does besides, is left alone by user code. -/
theorem respects_merge {α : Type} {number : Nat} (hnumber : .driver number ∉ mine)
    {post other : Ending α → Rig → Prop} {progress : Progress α}
    (hpost : progress.Respects (secluding fact (.driver number :: mine)) post)
    (hother : progress.Respects (sparing number) other) :
    progress.Respects (secluding fact mine) fun ending rig =>
      post ending rig ∧ other ending rig := by
  induction progress with
  | ended => exact ⟨hpost, hother⟩
  | handed script rig resume ih =>
      have hunder := hpost.1.2 _ List.mem_cons_self
      refine ⟨⟨hpost.1.1, fun part hpart => hpost.1.2 part (List.mem_cons_of_mem _ hpart)⟩,
        hpost.2.1, fun ending later hlater => ?_⟩
      have hstill : .driver number ∈ underWay later.journal := by
        rw [hlater.stays]
        exact hunder
      -- The driver is still under way, so user code did not touch it, which is all that
      -- the second contract takes for granted of it.
      refine ih ending later (hpost.2.2 ending later (hlater.widen hunder))
        (hother.2.2 ending later ⟨hlater.spares _ hunder hnumber, fun _ => ?_⟩)
      exact size_of_knows (hlater.orderly.known _ hstill)

/-- What a driver does when it has come is sound if it is so in itself, and if it leaves
the driver as drivers at rest should be. -/
theorem sound_ifFree {α : Type} {number : Nat} {body : Exec α}
    (hbody : ∀ {rig}, (secluding fact (.driver number :: mine)).finds rig →
      rig.journal.head? = some (.entered (.driver number)) →
        (secluding fact (.driver number :: mine)).SoundAt rig body)
    (hkeeps : ∀ {rig}, number < rig.drivers.size → rig.Has fact number →
      (body rig).Respects (sparing number) fun _ later => later.Has fact number) :
    (secluding fact mine).Sound (Driver.ifFree number body) := by
  intro rig hfinds
  cases hdriver : rig.drivers[number]? with
  | none =>
      rw [Driver.ifFree_of_missing hdriver]
      exact (secluding fact mine).refl hfinds
  | some driver =>
      by_cases hbusy : driver.busy = true
      · rw [Driver.ifFree_of_busy hdriver hbusy]
        exact (secluding fact mine).refl hfinds
      · have hfree : driver.busy = false := eq_false_of_ne_true hbusy
        have hflag : rig.flag 0 (.driver number) = some false := by
          rw [Rig.flag, hdriver]
          exact congrArg some hfree
        have hidle := hfinds.1.not_underWay hflag
        have hentered := finds_entered (marks_driver number) hfinds hflag
        have hsize := size_of_knows (hentered.1.known _ List.mem_cons_self)
        have hcore : ((rig.entered (.driver number) (Driver.mark number)).driver
            number).core = (rig.driver number).core :=
          (marks_driver number).core true rig number
        have hhas : (rig.entered (.driver number) (Driver.mark number)).Has fact number := by
          rw [Rig.Has, hcore]
          exact hfinds.1.rests number hidle
        have hmerged := respects_merge (fun hmem => hidle (hfinds.2 _ hmem))
          (hbody hentered rfl) (hkeeps hsize hhas)
        rw [Driver.ifFree_of_free hdriver hfree]
        refine SoundAt.map (SoundAt.ensuring ?_ admits_retireAbandoned) hfinds some
        refine soundAt_within (marks_driver number) hfinds hflag
          (hmerged.imp fun _ _ hlater => ⟨hlater.1, fun other hother => ?_⟩)
        cases hother
        exact hlater.2

theorem soundAt_turn {number : Nat} (hfinds : (secluding fact mine).finds rig)
    (hnumber : .driver number ∈ mine)
    (hhead : rig.journal.head? = some (.entered (.driver number)))
    (measuredRate : Option Binary64) :
    (secluding fact mine).SoundAt rig (Driver.turn number measuredRate) :=
  Driver.soundAt_turn (allowsWork hnumber) hfinds
    (soundAt_openTurn hfinds hnumber hhead measuredRate) (sound_activateRender hnumber)

theorem soundAt_step {number : Nat} (hfinds : (secluding fact mine).finds rig)
    (hnumber : .driver number ∈ mine)
    (hhead : rig.journal.head? = some (.entered (.driver number))) :
    (secluding fact mine).SoundAt rig (Driver.step number) :=
  Driver.soundAt_step (allowsWork hnumber) hfinds
    (soundAt_begin hfinds hnumber rfl hhead)

theorem allowsTurns (hkept : fact.Kept) : (secluding fact mine).AllowsTurns where
  turns number measuredRate := sound_ifFree
    (fun hfinds hhead => soundAt_turn hfinds List.mem_cons_self hhead measuredRate)
    (hkept.turns number measuredRate)
  steps number := sound_ifFree
    (fun hfinds hhead => soundAt_step hfinds List.mem_cons_self hhead)
    (hkept.steps number)
  retires := admits_retireAbandoned

/-! ### Refreshes -/

theorem admits_refresher (change : Refresher → Refresher)
    (hchange : ∀ refresher, (change refresher).tasks = refresher.tasks) :
    (secluding fact mine).Admits fun rig =>
      { rig with refresher := change rig.refresher } := by
  refine admits_quiet (fun rig => ?_) (fun _ => rfl) (fun _ => rfl) fun rig part _ => ?_
  · refine Rig.flag_congr (fun _ => rfl) (fun _ => rfl) (fun number => ?_)
      (fun _ _ => rfl) (fun _ => rfl) fun _ => rfl
    show (change rig.refresher).tasks[number]?.map _ = _
    rw [hchange]
  · cases part <;> rfl

/-- A task refuses while it executes. -/
theorem sound_runTask {frame : FrameTime} {task : Nat}
    (hbody : ∀ body, (secluding fact (.task task :: mine)).Sound
      (Refresher.runBody frame body)) :
    (secluding fact mine).Sound (Refresher.runTask frame task) := by
  have hnext : (secluding fact mine).Admits (Refresher.requestNext task) := by
    refine Refresher.admits_requestNext ?_ (fun _ => admits_plain rfl rfl) task
    exact fun hchange => admits_refresher _ hchange.tasks
  intro rig hfinds
  simp only [Refresher.runTask, bind_apply, look_apply, Progress.andThen]
  cases hentry : rig.refresher.tasks[task]? with
  | none => exact (secluding fact mine).refl hfinds
  | some entry =>
      refine SoundAt.ensuring ?_ hnext
      split
      · exact (secluding fact mine).refl hfinds
      · rename_i hfree
        have hflag : rig.flag 0 (.task task) = some false := by
          rw [Rig.flag, hentry]
          exact congrArg some (eq_false_of_ne_true hfree)
        exact soundAt_within_of_sound (marks_task task) hfinds hflag
          (fun _ => Part.noConfusion) (hbody _)

theorem allowsMoves (hturns : ∀ mine, (secluding fact mine).AllowsTurns) :
    (secluding fact mine).AllowsMoves where
  changes hchange := admits_refresher _ hchange.tasks
  recurs := admits_recur
  runs _ _ := sound_runTask (Refresher.Aside.sound_runBody
    (ignoresAmbience.of_subset Facet.asides_subset_ambience) (hturns _) _)
  events event hfacet hpassing := by
    cases event with
    | entered => cases hpassing
    | left => cases hpassing
    | refreshOpened => cases hpassing
    | ended => cases hpassing
    | requested => exact admits_plain rfl rfl
    | began => exact admits_plain rfl rfl
    | stopped => exact admits_plain rfl rfl
    | _ => cases hfacet
  concludes frame request verdict := by
    have hends : (secluding fact mine).Admits fun rig =>
        { rig with refresher := rig.refresher.endRequest } :=
      admits_refresher _ (Refresher.Shifts.modifyBatch _).tasks
    have hended : (secluding fact mine).Admits fun rig =>
        { rig with journal := .ended frame request verdict :: rig.journal } :=
      admits_plain rfl rfl
    have hover := (hends.comp hended).comp admits_retireAbandoned
    cases verdict with
    | ok answer => exact hover
    | error failure =>
        have hcounts : (secluding fact mine).Admits fun rig =>
            { rig with
              refresher :=
                { rig.refresher with failures := rig.refresher.failures + 1 } } :=
          admits_refresher
            (fun refresher => { refresher with failures := refresher.failures + 1 })
            fun _ => rfl
        exact hover.comp (hcounts.comp (admits_plain rfl rfl))

theorem admits_opensOnRig (now : Nat) :
    (secluding fact mine).Admits (Refresher.opensOnRig now) := by
  have hopens : (secluding fact mine).Admits fun rig =>
      { rig with refresher := (rig.refresher.openBatch now).2 } :=
    admits_refresher (fun refresher => (refresher.openBatch now).2) fun _ => rfl
  exact fun _ _ _ hleaves => admits_plain rfl rfl (hopens hleaves)

theorem allowsRefreshes (hturns : ∀ mine, (secluding fact mine).AllowsTurns) :
    (secluding fact mine).AllowsRefreshes :=
  Refresher.Aside.allowsRefreshes (allowsMoves hturns)
    (ignoresAmbience.of_subset Facet.asides_subset_ambience) (hturns mine)
    (fun _ => admits_driver (fun _ => rfl) (Or.inr fun _ => rfl))
    fun now => admits_opensOnRig now

/-! ### Mail -/

/-- A mailbox may change in anything but what is registered. -/
theorem flag_mailboxes {mailboxes : Array Mailbox} {nextTag nextMessage : Nat}
    (hregistrations : ∀ place : Nat,
      (mailboxes[place]?.getD .empty).registrations = (rig.mailbox place).registrations) :
    ({ rig with mailboxes, nextTag, nextMessage } : Rig).flag = rig.flag := by
  refine Rig.flag_congr (fun _ => rfl) (fun _ => rfl) (fun _ => rfl) (fun place tag => ?_)
    (fun _ => rfl) fun _ => rfl
  rw [Mailbox.find?, Mailbox.find?, ← hregistrations place]
  rfl

theorem registrations_modify (change : Mailbox → Mailbox)
    (hchange : ∀ mailbox, (change mailbox).registrations = mailbox.registrations)
    (rig : Rig) (number place : Nat) :
    ((rig.mailboxes.modify number change)[place]?.getD .empty).registrations =
      (rig.mailbox place).registrations := by
  rw [Rig.mailbox, Array.getElem?_modify]
  split
  · cases rig.mailboxes[place]? with
    | none => rfl
    | some mailbox => exact hchange mailbox
  · rfl

theorem sound_openMailbox :
    (secluding fact mine).Sound (Mailbox.perform .newMailbox) := by
  have hpushes : (secluding fact mine).Admits fun rig =>
      { rig with mailboxes := rig.mailboxes.push .empty } := by
    refine admits_quiet (fun rig => ?_) (fun _ => rfl) (fun _ => rfl) fun _ part _ => ?_
    · refine flag_mailboxes fun place => ?_
      rw [Rig.mailbox, Array.getElem?_push]
      split
      · rename_i hplace
        rw [hplace, Array.getElem?_eq_none (Nat.le_refl _)]
        rfl
      · rfl
    · cases part <;> rfl
  apply (sound_look _).bind
  intro number
  exact hpushes.sound.bind fun _ => sound_pure _

theorem sound_send (number : Nat) (tag : Tag) :
    (secluding fact mine).Sound (Mailbox.send number tag) := by
  have hposts (message : Message) : (secluding fact mine).Admits fun rig =>
      { rig with
        nextMessage := rig.nextMessage + 1
        mailboxes := rig.mailboxes.modify number (·.post message) } := by
    refine admits_quiet (fun rig => ?_) (fun _ => rfl) (fun _ => rfl) fun _ part _ => ?_
    · exact flag_mailboxes (registrations_modify (·.post message) (fun _ => rfl) rig number)
    · cases part <;> rfl
  have hposted (message : Message) : (secluding fact mine).Admits fun rig =>
      { rig with journal := .posted number message :: rig.journal } :=
    admits_plain rfl rfl
  apply (sound_look _).bind
  intro size
  split
  · apply (sound_look _).bind
    intro serial
    exact (hposts _).sound.seq (hposted _).sound
  · exact sound_pure _

theorem sound_withdraw (number : Nat) (tag : Tag) :
    (secluding fact mine).Sound (Mailbox.withdraw number tag) := by
  have hdiary : (secluding fact mine).Ignores .diary := ignores (by decide)
  have hcancels : (secluding fact mine).Admits fun rig =>
      { rig with mailboxes := rig.mailboxes.modify number (·.cancel tag) } := by
    refine admits fun rig hrig hmine => ?_
    refine .shrink hrig hmine ?_ (fun part hpart => ?_) (Nat.le_refl _) rfl
      (fun _ _ => rfl) fun part _ _ => ?_
    · intro place part flag hflag
      cases part with
      | callback other =>
          change (((rig.mailboxes.modify number (·.cancel tag))[place]?.getD
            .empty).find? other).map (·.executing) = some flag at hflag
          rw [Rig.mailbox_modify (·.cancel tag) rfl rig number place] at hflag
          split at hflag
          · rw [Mailbox.find?_cancel] at hflag
            split at hflag
            · cases hflag
            · exact hflag
          · exact hflag
      | _ => exact hflag
    · cases part <;> exact hpart
    · cases part <;> rfl
  have hcancelled : (secluding fact mine).Admits fun rig =>
      { rig with journal := .cancelled number tag :: rig.journal } :=
    admits_plain rfl rfl
  apply (sound_look _).bind
  intro found
  apply hcancels.sound.seq
  split
  · apply hcancelled.sound.seq
    exact (hdiary.sound_log _).bind fun _ => sound_pure _
  · exact sound_pure _

/-- A callback that is registered is found by its tag where it was registered, and no
other is found that was not there. -/
theorem flag_register {number spot : Nat} {tag other : Tag} {callback : Callback}
    {flag : Bool}
    (hflag : ({ rig with
      mailboxes := rig.mailboxes.modify number (·.register tag callback) } : Rig).flag
        spot (.callback other) = some flag) :
    (other = tag ∧ flag = false ∧ spot = number) ∨
      rig.flag spot (.callback other) = some flag := by
  change (((rig.mailboxes.modify number (·.register tag callback))[spot]?.getD
    .empty).find? other).map (·.executing) = some flag at hflag
  rw [Array.getElem?_modify] at hflag
  split at hflag
  · rename_i hspot
    cases hentry : rig.mailboxes[spot]? with
    | none =>
        rw [hentry] at hflag
        cases hflag
    | some mailbox =>
        have hmailbox : rig.mailbox spot = mailbox := by
          rw [Rig.mailbox, hentry]
          rfl
        rw [hentry, Option.map_some, Option.getD_some, Mailbox.find?_register] at hflag
        cases hfound : mailbox.find? other with
        | some entry =>
            rw [hfound, Option.some_or] at hflag
            rw [Rig.flag, hmailbox, hfound]
            exact Or.inr hflag
        | none =>
            rw [hfound, Option.none_or] at hflag
            split at hflag
            · rename_i htag
              exact Or.inl ⟨htag.symm, (Option.some.inj hflag).symm, hspot.symm⟩
            · cases hflag
  · exact Or.inr hflag

/-- A callback is registered under a tag that nobody has used. -/
theorem attends_register (hfinds : (secluding fact mine).finds rig) (number : Nat)
    (callback : Callback) :
    rig.Attends fact mine
      { rig with
        nextTag := rig.nextTag + 1
        mailboxes := rig.mailboxes.modify number
          (·.register ⟨rig.nextTag⟩ callback) } := by
  have hunknown : ¬ rig.Knows (.callback ⟨rig.nextTag⟩) := Nat.lt_irrefl rig.nextTag
  refine Rig.Creates.attends (?_ : rig.Creates _ number _) hfinds.1 hfinds.2 hunknown
    fun _ => Part.noConfusion
  refine ⟨fun spot other flag hflag => ?_, fun other hother => ?_, ?_, Nat.le_succ _, rfl,
    fun other _ => ?_⟩
  · cases other with
    | callback tag =>
        rcases flag_register hflag with ⟨rfl, hfree, rfl⟩ | hold
        · exact Or.inl ⟨rfl, hfree, fun _ _ => rfl⟩
        · exact Or.inr hold
    | _ => exact Or.inr hflag
  · cases other with
    | callback tag => exact Nat.lt_succ_of_lt hother
    | _ => exact hother
  · rintro tag ⟨⟩
    exact Nat.lt_succ_self _
  · cases other <;> rfl

theorem sound_enter (number : Nat) (callback : Callback) :
    (secluding fact mine).Sound (Mailbox.enter number callback) := by
  have hdiary : (secluding fact mine).Ignores .diary := ignores (by decide)
  have hregistered (tag : Tag) : (secluding fact mine).Admits fun rig =>
      { rig with journal := .registered number tag :: rig.journal } :=
    admits_plain rfl rfl
  intro rig hfinds
  have hattends := attends_register hfinds number callback
  simp only [Mailbox.enter, bind_apply, look_apply, update_apply, Progress.andThen]
  split
  · have hnotes : (secluding fact mine).Sound (do
        record (.registered number ⟨rig.nextTag⟩)
        log [Mailbox.registeredNotice ⟨rig.nextTag⟩]
        return (⟨rig.nextTag⟩ : Tag)) :=
      (hregistered _).sound.seq ((hdiary.sound_log _).bind fun _ => sound_pure _)
    have hlater := (secluding fact mine).keeps hfinds hattends
    exact (hnotes _ hlater).imp fun _ _ hrest => hattends.trans hrest
  · exact hattends

/-- A callback is skipped while it executes. -/
theorem sound_handle (hturns : ∀ mine, (secluding fact mine).AllowsTurns) (number : Nat)
    (message : Message) : (secluding fact mine).Sound (Mailbox.handle number message) := by
  have hdiary : (secluding fact mine).Ignores .diary := ignores (by decide)
  have hskips {event : Event} (hcrosses : event.crosses = false)
      (hworker : event.worker = none) (lines : List Log.Line) :
      (secluding fact mine).Sound (do record event; log lines; return false) := by
    apply (admits_plain hcrosses hworker).sound.seq
    exact (hdiary.sound_log _).bind fun _ => sound_pure _
  intro rig hfinds
  simp only [Mailbox.handle, bind_apply, look_apply, Progress.andThen]
  cases hentry : (rig.mailbox number).find? message.tag with
  | none => exact hskips rfl rfl _ rig hfinds
  | some entry =>
      dsimp only
      split
      · exact hskips rfl rfl _ rig hfinds
      · rename_i hfree
        have hstart : (secluding fact mine).leaves rig (.value ()) rig :=
          (secluding fact mine).refl hfinds
        have hdelivered : rig.Attends fact mine
            { rig with journal := .delivered number message :: rig.journal } :=
          admits_plain rfl rfl hstart
        have hflag : rig.flag number (.callback message.tag) = some false := by
          rw [Rig.flag, hentry]
          exact congrArg some (eq_false_of_ne_true hfree)
        have hlater := (secluding fact mine).keeps hfinds hdelivered
        have hstarts := soundAt_within_of_sound (marks_callback number message.tag) hlater
          hflag (fun _ => Part.noConfusion)
          (Mailbox.sound_start ignoresAmbience (hturns _) entry.callback)
        exact (SoundAt.bind hstarts hlater fun _ => sound_pure true).imp
          fun _ _ hrest => hdelivered.trans hrest

theorem allowsMail (hturns : ∀ mine, (secluding fact mine).AllowsTurns) :
    (secluding fact mine).AllowsMail where
  opens := sound_openMailbox
  enters := sound_enter
  sends := sound_send
  withdraws := sound_withdraw
  delivers number := by
    have htakes : (secluding fact mine).Admits fun rig =>
        { rig with
          mailboxes := rig.mailboxes.modify number ({ · with queue := [] }) } := by
      refine admits_quiet (fun rig => ?_) (fun _ => rfl) (fun _ => rfl) fun _ part _ => ?_
      · exact flag_mailboxes
          (registrations_modify ({ · with queue := [] }) (fun _ => rfl) rig number)
      · cases part <;> rfl
    exact Mailbox.sound_deliver htakes (fun _ => (admits_plain rfl rfl).sound)
      (sound_handle hturns number)

/-! ### The bench, the fleet and loops -/

theorem sound_debouncerIfFree {α : Type} {number : Nat} {body : Debounced → Exec α}
    (hbody : ∀ entry, (secluding fact (.debouncer number :: mine)).Sound (body entry)) :
    (secluding fact mine).Sound (Debounced.ifFree number body) := by
  intro rig hfinds
  simp only [Debounced.ifFree, bind_apply, look_apply, Progress.andThen]
  cases hentry : rig.debouncers[number]? with
  | none => exact (secluding fact mine).refl hfinds
  | some entry =>
      dsimp only
      split
      · exact (secluding fact mine).refl hfinds
      · rename_i hfree
        have hflag : rig.flag 0 (.debouncer number) = some false := by
          rw [Rig.flag, hentry]
          exact congrArg some (eq_false_of_ne_true hfree)
        exact SoundAt.map (soundAt_within_of_sound (marks_debouncer number) hfinds hflag
          (fun _ => Part.noConfusion) (hbody entry)) hfinds some

theorem allowsBench : (secluding fact mine).AllowsBench where
  measures := RateMeter.sound_perform ignoresAmbience fun _ =>
    admits_quiet (fun _ => rfl) (fun _ => rfl) (fun _ => rfl)
      fun _ part _ => by cases part <;> rfl
  debounces _ _ := by
    have htimes (number : Nat) (timing : Debouncer) :
        (secluding fact (.debouncer number :: mine)).Admits fun rig =>
          { rig with
            debouncers := rig.debouncers.modify number ({ · with timing }) } := by
      have hbusy (entry : Debounced) : { entry with timing }.busy = entry.busy := rfl
      refine admits_quiet (fun rig => ?_) (fun _ => rfl) (fun _ => rfl) ?_
      · exact Rig.flag_congr (fun _ => rfl) (fun _ => rfl) (fun _ => rfl) (fun _ _ => rfl)
          (map_getElem?_modify hbusy rig.debouncers number) fun _ => rfl
      · intro rig part hpart
        cases part with
        | debouncer other =>
            have hother : number ≠ other := by
              rintro rfl
              exact hpart List.mem_cons_self
            exact congrArg Belonging.debouncer
              ((Array.getElem?_modify ..).trans (if_neg hother))
        | _ => rfl
    refine Debounced.sound_perform ignoresAmbience admits_pushDebouncer
      (fun number _ => ?_) (fun number _ => ?_) fun number adjustment _ => ?_
    · exact sound_debouncerIfFree (Debounced.sound_activate ignoresAmbience (htimes number))
    · exact sound_debouncerIfFree fun entry =>
        Debounced.sound_callTimes ignoresAmbience entry 1
    · exact sound_debouncerIfFree
        (Debounced.sound_adjust ignoresAmbience (htimes number) adjustment)

theorem allowsFleet (hturns : (secluding fact mine).AllowsTurns) :
    (secluding fact mine).AllowsFleet where
  builds := admits_pushEmulator
  holds := sound_hold
  turns := Driver.sound_turnByHand hturns
  steps := Driver.sound_stepByHand hturns
  drops _ := Driver.sound_dropHandle hturns
    (admits_driver (fun _ => rfl) (Or.inr fun _ => rfl))

theorem allowsLoops (hturns : ∀ mine, (secluding fact mine).AllowsTurns) :
    (secluding fact mine).AllowsLoops where
  builds := admits_pushLoop
  turns {deadline} _ number := by
    have hturn (period : Nat) : (secluding fact (.loop number :: mine)).Sound
        (Loop.turn period 0 deadline) :=
      Loop.sound_turn ignoresAmbience (allowsMail hturns) (allowsRefreshes hturns).refreshes
        period 0 deadline
    intro rig hfinds
    simp only [Loop.turnByHand, bind_apply, look_apply, Progress.andThen]
    cases hentry : rig.loops[number]? with
    | none => exact (secluding fact mine).refl hfinds
    | some loop =>
        dsimp only
        split
        · exact (secluding fact mine).refl hfinds
        · rename_i hfree
          have hflag : rig.flag 0 (.loop number) = some false := by
            rw [Rig.flag, hentry]
            exact congrArg some (eq_false_of_ne_true hfree)
          exact SoundAt.map (soundAt_within_of_sound (marks_loop number) hfinds hflag
            (fun _ => Part.noConfusion) (hturn _)) hfinds some

/-! ### All orders -/

theorem allowsPacing (hkept : fact.Kept) : (secluding fact mine).AllowsPacing := by
  refine Pace.Aside.allowsPacing (ignores (by decide)) (ignores (by decide))
    (ignores (by decide)) ?_ ?_
  · exact fun _ _ => admits_driver (fun _ => rfl) (Or.inr fun _ => rfl)
  · exact fun emulator display options timebase rate => admits_pushDriver _ rfl
      fun number work => hkept.fresh number work emulator display options timebase rate

/-- Every order leaves the parts under way alone. -/
theorem soundOrders (hkept : fact.Kept) : (secluding fact mine).SoundOrders := by
  have hturns (mine : List Part) : (secluding fact mine).AllowsTurns := allowsTurns hkept
  have hrefreshes : (secluding fact mine).AllowsRefreshes := allowsRefreshes hturns
  have hpacing : (secluding fact mine).AllowsPacing := allowsPacing hkept
  refine soundOrders_of_parts ignoresAmbience hpacing
    hrefreshes.toAllowsRequests (allowsMail hturns) allowsBench
    (allowsFleet (hturns mine)) (allowsLoops hturns) ⟨fun order _ => ?_⟩ fun _ _ _ => hrefreshes.refreshes
  exact Controls.sound_perform ignoresAmbience (ignores (by decide)) hpacing
    hrefreshes.toAllowsRequests (allowsMail hturns) order

end Seclusion

namespace Rig

variable {fact : Fact} {rate : Rate} {reportInterval : Nat} {rig : Rig}

theorem orderly_fresh (hkept : fact.Kept) : (fresh rate reportInterval).Orderly fact := by
  have hflag (place : Nat) (part : Part) :
      (fresh rate reportInterval).flag place part = none := by
    cases part with
    | callback tag =>
        have hmailbox : (fresh rate reportInterval).mailbox place = .empty := by
          cases place <;> rfl
        rw [flag, hmailbox]
        rfl
    | _ => rfl
  constructor
  · trivial
  · intro place part flag hpart
    rw [hflag] at hpart
    cases hpart
  · exact fun part hpart => absurd hpart List.not_mem_nil
  · intro place tag hpart
    rw [hflag] at hpart
    cases hpart
  · intro place other tag hpart
    rw [hflag] at hpart
    cases hpart
  · exact fun number _ => hkept.absent number

/-- Every rig that can arise is orderly, at every moment. -/
theorem Becomes.orderly (hkept : fact.Kept) (h : (fresh rate reportInterval).Becomes rig) :
    rig.Orderly fact := by
  have horders : (secluding fact []).SoundOrders := Seclusion.soundOrders hkept
  have hnobody (rig : Rig) : ∀ part ∈ [], part ∈ underWay rig.journal :=
    fun part hpart => absurd hpart List.not_mem_nil
  induction h with
  | start => exact orderly_fresh hkept
  | midway _ hpasses ih =>
      exact (horders.finds_moment hpasses (Script.keepsTo_all _) ⟨ih, hnobody _⟩).1
  | after depth script _ ih =>
      exact (horders.honoured depth script _ script.keepsTo_all ⟨ih, hnobody _⟩).orderly

/-- A run leaves the parts under way alone, and no others behind. -/
theorem Orderly.attends (hkept : fact.Kept) (h : rig.Orderly fact) (depth : Nat)
    (script : Script) : rig.Attends fact [] (script.playWithin depth rig).2 := by
  have horders : (secluding fact []).SoundOrders := Seclusion.soundOrders hkept
  exact horders.honoured depth script rig script.keepsTo_all
    ⟨h, fun part hpart => absurd hpart List.not_mem_nil⟩

end Rig

end Cadence
