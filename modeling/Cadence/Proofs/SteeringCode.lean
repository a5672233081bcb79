import Cadence.Proofs.ScheduledTurns

/-!
Steering code.  User code that keeps to the clock, the pace and the commands finds nothing
of a rig but what the turns of a driver are timed by, so it goes the same way on all rigs
that agree on this.
-/

namespace Cadence

open Exec

/-- An order that moves the clock, or sets the pace and lets none but some routines
listen to it, or gives a command that is not the last one. -/
def Order.Steers (listeners : List Nat) : Order → Prop
  | .clock (.tick _) => False
  | .clock _ => True
  | .pace (.subscribe routine) => routine ∈ listeners
  | .pace .describe => False
  | .pace _ => True
  | .control (.setStep _) => True
  | .control (.apply command) => command ≠ .quit
  | .control (.arrive _) => True
  | .control (.load _) => True
  | .note _ => True
  | _ => False

/-- User code that gives such orders only. -/
def Script.Steers (listeners : List Nat) : Script → Prop
  | .done _ => True
  | .fail _ => True
  | .panic _ => True
  | .order asked next =>
      asked.Steers listeners ∧ ∀ answer, (next answer).Steers listeners
  | .routine _ _ => False

/-- Those who listen to the pace steer. -/
structure Schedule.Steered (listeners : List Nat) (schedule : Schedule) : Prop where
  observers : ∀ caller routine,
    .caller caller routine ∈ schedule.pace.observers → routine ∈ listeners
  courses : ∀ routine entry, schedule.listener routine = some entry →
    ∀ call occasion, (entry.course call occasion).Steers listeners

namespace Schedule

theorem Steered.called {listeners : List Nat} {schedule : Schedule}
    (h : schedule.Steered listeners) (routine : Nat) :
    (schedule.called routine).Steered listeners := by
  refine ⟨h.observers, fun other entry hentry => ?_⟩
  simp only [Schedule.called] at hentry
  split at hentry
  · obtain ⟨old, hold, rfl⟩ := Option.map_eq_some_iff.mp hentry
    exact h.courses other old hold
  · exact h.courses other entry hentry

end Schedule

namespace Driver

variable {depth : Nat} {listeners : List Nat} {number : Nat} {equipment : Equipment}
  {schedule next : Schedule} {busy inUse : Bool} {rig : Rig} {play : Play} {α β : Type}

/-! ### Changes of a schedule -/

namespace Steady

variable (h : Steady depth listeners number equipment schedule busy inUse rig)

include h

/-- Who turns by a clock is timed by it. -/
theorem clock (now : Nat) :
    Steady depth listeners number equipment { schedule with now } busy inUse
      { rig with now } :=
  ⟨h.size, h.busy, h.inUse, h.held, h.equipped,
    h.obliges.mono fun _ _ => id,
    congrArg (fun schedule => { schedule with now }) h.timed, h.kept⟩

/-- What is aside of the schedule may be anything. -/
theorem aside (meters : Array RateMeter) (nextMessage : Nat) (mailboxes : Array Mailbox)
    (stepTag : Option Tag) (keyboard canned : Input) :
    Steady depth listeners number equipment schedule busy inUse
      { rig with meters, nextMessage, mailboxes, stepTag, keyboard, canned } :=
  ⟨h.size, h.busy, h.inUse, h.held, h.equipped,
    h.obliges.mono fun _ _ => id, h.timed, h.kept⟩

/-- The pace changes in the same way whether other drivers observe it or not. -/
theorem pace (change : Pace → Pace)
    (hseen : ∀ pace, (change pace).seenBy number = change (pace.seenBy number)) :
    Steady depth listeners number equipment
      { schedule with pace := change schedule.pace } busy inUse
      { rig with pace := change rig.pace } := by
  refine ⟨h.size, h.busy, h.inUse, h.held, h.equipped,
    h.obliges.mono fun _ _ => id, ?_, h.kept⟩
  rw [← h.timed, Rig.schedule, hseen]
  rfl

/-- A driver that observes the pace notes the frame time down. -/
theorem told (millis : Binary64) :
    Steady depth listeners number equipment { schedule with pending := some millis } busy
      inUse { rig with
        drivers := rig.drivers.modify number ({ · with pending := some millis }) } := by
  refine h.modify rfl h.busy ?_
  have hmodified : ({ rig with
      drivers := rig.drivers.modify number ({ · with pending := some millis }) } :
      Rig).driver number = { rig.driver number with pending := some millis } :=
    driver_modify h.size _
  rw [← h.timed, Rig.schedule, hmodified]
  rfl

end Steady

/-! ### Regular computations -/

/-- From a schedule on, a computation comes to an ending and to another schedule,
whatever else there is on the rig. -/
def Reaches (depth : Nat) (listeners : List Nat) (number : Nat) (equipment : Equipment)
    (play : Play) (x : Exec α) (schedule : Schedule) (ending : Ending α)
    (next : Schedule) : Prop :=
  ∀ rig, Steady depth listeners number equipment schedule false false rig →
    ∃ later, (x rig).run play = (ending, later) ∧
      Steady depth listeners number equipment next false false later

/-- What a computation comes to is a matter of the schedule alone. -/
def Regular (depth : Nat) (listeners : List Nat) (number : Nat) (equipment : Equipment)
    (play : Play) (x : Exec α) : Prop :=
  ∀ schedule, schedule.Steered listeners → ∃ ending next, next.Steered listeners ∧
    Reaches depth listeners number equipment play x schedule ending next

section Regular

theorem regular_pure (a : α) :
    Regular depth listeners number equipment play (pure a : Exec α) :=
  fun schedule hsteered => ⟨.value a, schedule, hsteered, fun rig hrig => ⟨rig, rfl, hrig⟩⟩

theorem Reaches.bind {first : Exec α} {rest : α → Exec β} {middle : Schedule} {a : α}
    {ending : Ending β}
    (hfirst : Reaches depth listeners number equipment play first schedule (.value a)
      middle)
    (hrest : Reaches depth listeners number equipment play (rest a) middle ending next) :
    Reaches depth listeners number equipment play (first >>= rest) schedule ending next := by
  intro rig hrig
  obtain ⟨later, hrun, hlater⟩ := hfirst rig hrig
  obtain ⟨last, hrestRun, hlast⟩ := hrest later hlater
  refine ⟨last, ?_, hlast⟩
  rw [bind_apply, Progress.run_andThen, hrun]
  exact hrestRun

/-- What does not come to a value is the end of the whole. -/
theorem Reaches.panics {first : Exec α} {rest : α → Exec β} {cause : Panic}
    (hfirst : Reaches depth listeners number equipment play first schedule
      (.panicked cause) next) :
    Reaches depth listeners number equipment play (first >>= rest) schedule
      (.panicked cause) next := by
  intro rig hrig
  obtain ⟨later, hrun, hlater⟩ := hfirst rig hrig
  exact ⟨later, by rw [bind_apply, Progress.run_andThen, hrun], hlater⟩

theorem Reaches.exhausts {first : Exec α} {rest : α → Exec β}
    (hfirst : Reaches depth listeners number equipment play first schedule .exhausted
      next) :
    Reaches depth listeners number equipment play (first >>= rest) schedule .exhausted
      next := by
  intro rig hrig
  obtain ⟨later, hrun, hlater⟩ := hfirst rig hrig
  exact ⟨later, by rw [bind_apply, Progress.run_andThen, hrun], hlater⟩

theorem Regular.bind {first : Exec α} {rest : α → Exec β}
    (hfirst : Regular depth listeners number equipment play first)
    (hrest : ∀ a, Regular depth listeners number equipment play (rest a)) :
    Regular depth listeners number equipment play (first >>= rest) := by
  intro schedule hsteered
  obtain ⟨ending, middle, hmiddle, hreaches⟩ := hfirst schedule hsteered
  cases ending with
  | value a =>
      obtain ⟨ending, next, hnext, hrestReaches⟩ := hrest a middle hmiddle
      exact ⟨ending, next, hnext, hreaches.bind hrestReaches⟩
  | panicked cause => exact ⟨.panicked cause, middle, hmiddle, hreaches.panics⟩
  | exhausted => exact ⟨.exhausted, middle, hmiddle, hreaches.exhausts⟩

theorem Regular.seq {first : Exec Unit} {rest : Exec α}
    (hfirst : Regular depth listeners number equipment play first)
    (hrest : Regular depth listeners number equipment play rest) :
    Regular depth listeners number equipment play (first >>= fun _ => rest) :=
  hfirst.bind fun _ => hrest

/-- A look shows a part of the schedule. -/
theorem reaches_look {view : Rig → α} (part : Schedule → α)
    (hview : ∀ rig, view rig = part (rig.schedule listeners number)) :
    Reaches depth listeners number equipment play (look view) schedule
      (.value (part schedule)) schedule := by
  intro rig hrig
  refine ⟨rig, ?_, hrig⟩
  rw [look_apply, Progress.run, hview, hrig.timed]

theorem regular_look {view : Rig → α} (part : Schedule → α)
    (hview : ∀ rig, view rig = part (rig.schedule listeners number)) :
    Regular depth listeners number equipment play (look view) :=
  fun schedule hsteered =>
    ⟨.value (part schedule), schedule, hsteered, reaches_look part hview⟩

/-- What a look shows may be relied on. -/
theorem regular_look_bind {view : Rig → α} {rest : α → Exec β} (part : Schedule → α)
    (good : α → Prop) (hview : ∀ rig, view rig = part (rig.schedule listeners number))
    (hgood : ∀ schedule, schedule.Steered listeners → good (part schedule))
    (hrest : ∀ a, good a → Regular depth listeners number equipment play (rest a)) :
    Regular depth listeners number equipment play (look view >>= rest) := by
  intro schedule hsteered
  obtain ⟨ending, next, hnext, hreaches⟩ :=
    hrest (part schedule) (hgood schedule hsteered) schedule hsteered
  exact ⟨ending, next, hnext, (reaches_look part hview).bind hreaches⟩

/-- A change that makes one schedule of another. -/
theorem regular_update {change : Rig → Rig} (move : Schedule → Schedule)
    (hsteered : ∀ schedule, schedule.Steered listeners → (move schedule).Steered listeners)
    (hchange : ∀ schedule rig,
      Steady depth listeners number equipment schedule false false rig →
        Steady depth listeners number equipment (move schedule) false false (change rig)) :
    Regular depth listeners number equipment play (update change) :=
  fun schedule hschedule => ⟨.value (), move schedule, hsteered schedule hschedule,
    fun rig hrig => ⟨change rig, rfl, hchange schedule rig hrig⟩⟩

/-- What is written down is of no concern. -/
theorem regular_record (event : Event) :
    Regular depth listeners number equipment play (record event) :=
  regular_update id (fun _ h => h) fun _ _ h => h.note _

theorem regular_log (lines : List Log.Line) :
    Regular depth listeners number equipment play (log lines) :=
  regular_update id (fun _ h => h) fun _ _ h => h.note _

/-- Everyone who steers goes the same way wherever the schedule is the same. -/
def PlaysRegularly (depth : Nat) (listeners : List Nat) (number : Nat) (equipment : Equipment)
    (play : Play) : Prop :=
  ∀ script : Script, script.Steers listeners →
    Regular depth listeners number equipment play (handOver script)

/-- A routine that listens to the pace goes by the schedule, if it steers. -/
theorem regular_call (hplay : PlaysRegularly depth listeners number equipment play) {routine : Nat}
    (hroutine : routine ∈ listeners) (occasion : Occasion) :
    Regular depth listeners number equipment play (call routine occasion) := by
  refine regular_look_bind (·.listener routine)
    (fun found => ∀ entry, found = some entry →
      ∀ call occasion, (entry.course call occasion).Steers listeners)
    (fun rig => (if_pos hroutine).symm)
    (fun schedule hsteered entry => hsteered.courses routine entry) fun found hsteers => ?_
  split
  · exact regular_pure _
  · rename_i entry
    have hcalled : Regular depth listeners number equipment play (update fun rig =>
        { rig with
          routines := rig.routines.modify routine fun entry =>
            { entry with calls := entry.calls + 1 } }) :=
      regular_update (·.called routine) (fun _ h => h.called routine) fun _ _ h =>
        h.called routine
    apply hcalled.seq
    exact (hplay _ (hsteers entry rfl _ _)).bind fun _ => regular_pure _

end Regular

/-! ### The pace -/

section Pace

theorem regular_modifyPace {change : Pace → Pace}
    (hseen : ∀ pace, (change pace).seenBy number = change (pace.seenBy number))
    (hlisteners : ∀ pace caller routine, .caller caller routine ∈ (change pace).observers →
      .caller caller routine ∈ pace.observers ∨ routine ∈ listeners) :
    Regular depth listeners number equipment play (Pace.modify change) := by
  refine regular_update (fun schedule => { schedule with pace := change schedule.pace })
    (fun schedule h => ⟨fun caller routine hobserver => ?_, h.courses⟩)
    fun _ _ h => h.pace change hseen
  exact (hlisteners _ caller routine hobserver).elim (h.observers caller routine) id

theorem regular_tell (hplay : PlaysRegularly depth listeners number equipment play)
    (rate : Rate) {observer : Observer}
    (hlistens : ∀ caller routine, observer = .caller caller routine → routine ∈ listeners) :
    Regular depth listeners number equipment play (Pace.tell rate observer) := by
  apply (regular_record _).seq
  cases observer with
  | driver other =>
      by_cases hother : other = number
      · subst hother
        exact regular_update (fun schedule =>
          { schedule with pending := some rate.frameTime })
          (fun _ h => ⟨h.observers, h.courses⟩) fun _ _ h => h.told rate.frameTime
      · exact regular_update id (fun _ h => h) fun _ _ h => h.other hother _
  | caller caller routine =>
      exact (regular_call hplay (hlistens caller routine rfl) _).bind fun _ => regular_pure ()

/-- While observers are told of a rate, other drivers do not count. -/
theorem reaches_announce_append {rate : Rate} {others rest : List Observer}
    {ending : Ending Unit} (hrate : schedule.pace.rate = rate)
    (hothers : ∀ observer ∈ others, ¬ observer.concerns number = true)
    (hrest : Reaches depth listeners number equipment play (Pace.announce rate rest) schedule
      ending next) :
    Reaches depth listeners number equipment play (Pace.announce rate (others ++ rest))
      schedule ending next := by
  induction others with
  | nil => exact hrest
  | cons observer others ih =>
      have htold : Reaches depth listeners number equipment play (Pace.tell rate observer)
          schedule (.value ()) schedule := by
        cases observer with
        | caller caller routine => exact absurd rfl (hothers _ List.mem_cons_self)
        | driver other =>
            have hother : other ≠ number := by
              have hconcerns := hothers _ List.mem_cons_self
              rwa [Observer.concerns, beq_iff_eq] at hconcerns
            exact fun rig hrig => ⟨_, rfl, (hrig.note _).other hother _⟩
      have hlook : Reaches depth listeners number equipment play (look (·.pace.rate)) schedule
          (.value schedule.pace.rate) schedule := reaches_look (·.pace.rate) fun _ => rfl
      refine htold.bind (hlook.bind ?_)
      rw [if_pos hrate]
      exact ih fun observer hobserver => hothers observer (List.mem_cons_of_mem _ hobserver)

/-- Whichever other drivers observe the pace, what becomes of the schedule is a matter of
those who count. -/
theorem regular_announce (hplay : PlaysRegularly depth listeners number equipment play)
    (rate : Rate) {seen : List Observer}
    (hlisten : ∀ caller routine, .caller caller routine ∈ seen → routine ∈ listeners) :
    ∀ schedule, schedule.Steered listeners → schedule.pace.rate = rate →
      ∃ ending next, next.Steered listeners ∧
        ∀ observers, observers.filter (Observer.concerns number) = seen →
          Reaches depth listeners number equipment play (Pace.announce rate observers)
            schedule ending next := by
  induction seen with
  | nil =>
      intro schedule hsteered hrate
      refine ⟨.value (), schedule, hsteered, fun observers hobservers => ?_⟩
      have hothers := List.filter_eq_nil_iff.mp hobservers
      have hnobody : Reaches depth listeners number equipment play (Pace.announce rate [])
          schedule (.value ()) schedule := fun rig hrig => ⟨rig, rfl, hrig⟩
      rw [← List.append_nil observers]
      exact reaches_announce_append hrate hothers hnobody
  | cons observer seen ih =>
      intro schedule hsteered hrate
      have htold : Regular depth listeners number equipment play (Pace.tell rate observer) :=
        regular_tell hplay rate fun caller routine hobserver =>
          hlisten caller routine (hobserver ▸ List.mem_cons_self)
      have hrest := ih fun caller routine hobserver =>
        hlisten caller routine (List.mem_cons_of_mem _ hobserver)
      -- The first who counts may change the rate, and then nobody else is told.
      have hfirst : ∃ ending next, next.Steered listeners ∧
          ∀ rest, rest.filter (Observer.concerns number) = seen →
            Reaches depth listeners number equipment play
              (Pace.announce rate (observer :: rest)) schedule ending next := by
        obtain ⟨ending, middle, hmiddle, hreaches⟩ := htold schedule hsteered
        have hlook : Reaches depth listeners number equipment play (look (·.pace.rate)) middle
            (.value middle.pace.rate) middle := reaches_look (·.pace.rate) fun _ => rfl
        cases ending with
        | value answer =>
            by_cases hcurrent : middle.pace.rate = rate
            · obtain ⟨ending, next, hnext, hrest⟩ := hrest middle hmiddle hcurrent
              refine ⟨ending, next, hnext, fun rest hseen => ?_⟩
              refine hreaches.bind (hlook.bind ?_)
              rw [if_pos hcurrent]
              exact hrest rest hseen
            · refine ⟨.value (), middle, hmiddle, fun rest _ => ?_⟩
              refine hreaches.bind (hlook.bind ?_)
              rw [if_neg hcurrent]
              exact fun rig hrig => ⟨rig, rfl, hrig⟩
        | panicked cause =>
            exact ⟨.panicked cause, middle, hmiddle, fun rest _ => hreaches.panics⟩
        | exhausted => exact ⟨.exhausted, middle, hmiddle, fun rest _ => hreaches.exhausts⟩
      obtain ⟨ending, next, hnext, hfirst⟩ := hfirst
      refine ⟨ending, next, hnext, fun observers hobservers => ?_⟩
      obtain ⟨others, rest, rfl, hothers, -, hseen⟩ := List.filter_eq_cons_iff.mp hobservers
      exact reaches_announce_append hrate hothers (hfirst rest hseen)

theorem regular_adopt (hplay : PlaysRegularly depth listeners number equipment play)
    (rate : Rate) :
    Regular depth listeners number equipment play (Pace.adopt rate) := by
  have hannounced (schedule : Schedule) (hsteered : schedule.Steered listeners)
      (hrate : schedule.pace.rate = rate) :
      ∃ ending next, next.Steered listeners ∧
        Reaches depth listeners number equipment play (do
          Pace.announce rate (← look (·.pace.observers))
          record (.announced rate)) schedule ending next := by
    obtain ⟨ending, middle, hmiddle, hreaches⟩ :=
      regular_announce hplay rate hsteered.observers schedule hsteered hrate
    have hrecorded : Reaches depth listeners number equipment play (record (.announced rate))
        middle (.value ()) middle := fun rig hrig => ⟨_, rfl, hrig.note _⟩
    have hseen {rig : Rig}
        (hrig : Steady depth listeners number equipment schedule false false rig) :
        rig.pace.observers.filter (Observer.concerns number) = schedule.pace.observers :=
      congrArg (·.pace.observers) hrig.timed
    cases ending with
    | value answer =>
        exact ⟨.value (), middle, hmiddle, fun rig hrig =>
          ((hreaches _ (hseen hrig)).bind hrecorded) rig hrig⟩
    | panicked cause =>
        exact ⟨.panicked cause, middle, hmiddle, fun rig hrig =>
          (hreaches _ (hseen hrig)).panics rig hrig⟩
    | exhausted =>
        exact ⟨.exhausted, middle, hmiddle, fun rig hrig =>
          (hreaches _ (hseen hrig)).exhausts rig hrig⟩
  intro schedule hsteered
  obtain ⟨ending, next, hnext, hreaches⟩ := hannounced
    { schedule with pace := { schedule.pace with rate } }
    ⟨hsteered.observers, hsteered.courses⟩ rfl
  refine ⟨ending, next, hnext, fun rig hrig => ?_⟩
  have hstored : Steady depth listeners number equipment
      { schedule with pace := { schedule.pace with rate } } false false
      { rig with pace := { rig.pace with rate } } :=
    hrig.pace ({ · with rate }) fun _ => rfl
  exact hreaches _ ((hstored.note _).note _)

theorem regular_setCycles (hplay : PlaysRegularly depth listeners number equipment play)
    (cycles : UInt32) :
    Regular depth listeners number equipment play (Pace.setCycles cycles) := by
  apply (regular_log _).seq
  apply (regular_look (·.pace.rate) fun _ => rfl).bind
  intro rate
  split
  · exact regular_pure _
  · exact (regular_adopt hplay _).bind fun _ => regular_pure _

theorem regular_setFrameTime (hplay : PlaysRegularly depth listeners number equipment play)
    (millis : Binary64) :
    Regular depth listeners number equipment play (Pace.setFrameTime millis) := by
  apply (regular_log _).seq
  apply (regular_look (·.pace.rate) fun _ => rfl).bind
  intro rate
  split
  · exact regular_pure _
  · exact (regular_adopt hplay _).bind fun _ => regular_pure _

theorem regular_setRunning (running : Bool) :
    Regular depth listeners number equipment play (Pace.setRunning running) := by
  apply (regular_look (·.pace.running) fun _ => rfl).bind
  intro before
  exact (regular_log _).seq (regular_modifyPace (fun _ => rfl) fun _ _ _ => Or.inl)

theorem regular_toggleRunning :
    Regular depth listeners number equipment play Pace.toggleRunning := by
  apply (regular_look (·.pace.running) fun _ => rfl).bind
  intro running
  exact (regular_setRunning _).bind fun _ => regular_pure _

theorem regular_observe {routine : Nat} (hroutine : routine ∈ listeners) :
    Regular depth listeners number equipment play (Pace.observe routine) := by
  apply (regular_look (·.pace.nextCaller) fun _ => rfl).bind
  intro caller
  have hsubscribed : Regular depth listeners number equipment play
      (Pace.modify (·.subscribe routine)) := by
    refine regular_modifyPace (fun pace => ?_) fun pace other listener hobserver => ?_
    · rw [Pace.seenBy, Pace.subscribe, List.filter_append]
      rfl
    · rcases List.mem_append.mp hobserver with hold | hnew
      · exact Or.inl hold
      · cases List.mem_singleton.mp hnew
        exact Or.inr hroutine
  apply hsubscribed.seq
  exact (regular_record _).bind fun _ => regular_pure _

theorem regular_forget (caller : Nat) :
    Regular depth listeners number equipment play (Pace.forget caller) := by
  have hseen (pace : Pace) : pace.isSubscribed (.caller caller) =
      (pace.seenBy number).isSubscribed (.caller caller) := by
    simp only [Pace.isSubscribed, Pace.seenBy, List.any_filter]
    congr 1
    funext observer
    cases observer <;> simp [Observer.concerns, Observer.id]
  apply (regular_look (·.pace.isSubscribed (.caller caller)) fun rig => hseen rig.pace).bind
  intro found
  have hforgotten : Regular depth listeners number equipment play
      (Pace.modify (·.unsubscribe (.caller caller))) := by
    refine regular_modifyPace (fun pace => ?_) fun pace other listener hobserver =>
      Or.inl (List.mem_filter.mp hobserver).1
    simp only [Pace.seenBy, Pace.unsubscribe, List.filter_filter, Bool.and_comm]
  apply hforgotten.seq
  split
  · exact (regular_record _).bind fun _ => regular_pure _
  · exact regular_pure _

end Pace

/-! ### Commands -/

section Commands

open Controls

/-- What answers always the same and changes nothing that turns are timed by. -/
theorem regular_aside {x : Exec α} {a : α}
    (haside : ∀ schedule rig,
      Steady depth listeners number equipment schedule false false rig →
        ∃ later, (x rig).run play = (.value a, later) ∧
          Steady depth listeners number equipment schedule false false later) :
    Regular depth listeners number equipment play x :=
  fun schedule hsteered => ⟨.value a, schedule, hsteered, haside schedule⟩

/-- A message is posted, if there is a mailbox for it. -/
theorem exists_send (mailbox : Nat) (tag : Tag)
    (hrig : Steady depth listeners number equipment schedule false false rig) :
    ∃ later, (Mailbox.send mailbox tag rig).run play = (.value (), later) ∧
      Steady depth listeners number equipment schedule false false later := by
  simp only [Mailbox.send, bind_apply, look_apply, Progress.andThen]
  split
  · exact ⟨_, rfl, (hrig.aside ..).note _⟩
  · exact ⟨rig, rfl, hrig⟩

/-- A step that is asked for is a message, and does not show before it is delivered. -/
theorem exists_apply_step (tag : Option Tag)
    (hrig : Steady depth listeners number equipment schedule false false rig) :
    ∃ later, (Controls.apply tag .step rig).run play = (.value (), later) ∧
      Steady depth listeners number equipment schedule false false later := by
  cases tag with
  | none => exact ⟨_, rfl, ((hrig.note _).note _).note _⟩
  | some tag => exact exists_send 0 tag ((hrig.note _).note _)

/-- A command goes by the rate it finds. -/
theorem regular_apply (hplay : PlaysRegularly depth listeners number equipment play)
    {command : Command} (hquit : command ≠ .quit) :
    Regular depth listeners number equipment play (Controls.apply none command) := by
  apply (regular_record _).seq
  apply (regular_log _).seq
  apply (regular_look (·.pace.rate) fun _ => rfl).bind
  intro rate
  cases command with
  | toggleRunning => exact regular_toggleRunning.bind fun _ => regular_pure _
  | step => exact regular_log _
  | moreCycles => exact (regular_setCycles hplay _).bind fun _ => regular_pure _
  | fewerCycles => exact (regular_setCycles hplay _).bind fun _ => regular_pure _
  | longerFrame => exact (regular_setFrameTime hplay _).bind fun _ => regular_pure _
  | shorterFrame => exact (regular_setFrameTime hplay _).bind fun _ => regular_pure _
  | quit => exact absurd rfl hquit

/-- Only a step that is asked for goes by the tag, and it is aside. -/
theorem regular_command (hplay : PlaysRegularly depth listeners number equipment play)
    {command : Command} (hquit : command ≠ .quit) :
    Regular depth listeners number equipment play (do
      Controls.apply (← look (·.stepTag)) command) := by
  by_cases hstep : command = .step
  · subst hstep
    exact regular_aside fun schedule rig hrig => exists_apply_step rig.stepTag hrig
  · have hsame (tag : Option Tag) :
        Controls.apply tag command = Controls.apply none command := by
      cases command with
      | step => exact absurd rfl hstep
      | _ => rfl
    intro schedule hsteered
    obtain ⟨ending, next, hnext, hreaches⟩ := regular_apply hplay hquit schedule hsteered
    refine ⟨ending, next, hnext, fun rig hrig => ?_⟩
    rw [bind_apply, look_apply, Progress.andThen, hsame]
    exact hreaches rig hrig

end Commands

/-! ### User code -/

theorem regular_carryOut (hplay : PlaysRegularly depth listeners number equipment play)
    (limit : Nat) {order : Order} (hsteers : order.Steers listeners) :
    Regular depth listeners number equipment play (order.carryOut limit) := by
  cases order with
  | clock order =>
      cases order with
      | advance duration =>
          exact regular_update (fun schedule => { schedule with now := schedule.now + duration })
            (fun _ h => ⟨h.observers, h.courses⟩) fun schedule rig h => by
              have hnow : rig.now = schedule.now := congrArg Schedule.now h.timed
              rw [← hnow]
              exact h.clock _
      | advanceTo instant =>
          exact regular_update
            (fun schedule => { schedule with now := Nat.max schedule.now instant })
            (fun _ h => ⟨h.observers, h.courses⟩) fun schedule rig h => by
              have hnow : rig.now = schedule.now := congrArg Schedule.now h.timed
              rw [← hnow]
              exact h.clock _
      | newMeter window => exact regular_update id (fun _ h => h) fun _ _ h => h.aside ..
      | tick meter => cases hsteers
  | pace order =>
      cases order with
      | rate => exact regular_look (·.pace.rate) fun _ => rfl
      | setCycles cycles => exact regular_setCycles hplay cycles
      | setFrameTime millis => exact regular_setFrameTime hplay millis
      | setRunning running => exact regular_setRunning running
      | toggleRunning => exact regular_toggleRunning
      | subscribe routine => exact regular_observe hsteers
      | unsubscribe caller => exact regular_forget caller
      | describe => cases hsteers
  | note datum => exact regular_record _
  | mail order => cases hsteers
  | refresh order => cases hsteers
  | debounce order => cases hsteers
  | driver order => cases hsteers
  | loop order => cases hsteers
  | control order =>
      cases order with
      | setStep tag => exact regular_update id (fun _ h => h) fun _ _ h => h.aside ..
      | apply command => exact regular_command hplay hsteers
      | arrive events => exact regular_update id (fun _ h => h) fun _ _ h => h.aside ..
      | load commands => exact regular_update id (fun _ h => h) fun _ _ h => h.aside ..
      | peek source => cases hsteers
      | flush source => cases hsteers
      | pump source => cases hsteers

/-- A script goes by the schedule if its orders do. -/
theorem plays_playWith {perform : (order : Order) → Rig → Ending order.Answer × Rig}
    (hperform : ∀ order : Order, order.Steers listeners → ∀ schedule,
      schedule.Steered listeners → ∃ ending next, next.Steered listeners ∧
        ∀ rig, Steady depth listeners number equipment schedule false false rig →
          ∃ later, perform order rig = (ending, later) ∧
            Steady depth listeners number equipment next false false later) :
    PlaysRegularly depth listeners number equipment (Script.playWith perform) := by
  intro script
  induction script with
  | done answer =>
      exact fun _ schedule hsteered =>
        ⟨.value (.ok answer), schedule, hsteered, fun rig hrig => ⟨rig, rfl, hrig⟩⟩
  | fail failure =>
      exact fun _ schedule hsteered =>
        ⟨.value (.error failure), schedule, hsteered, fun rig hrig => ⟨rig, rfl, hrig⟩⟩
  | panic cause =>
      exact fun _ schedule hsteered =>
        ⟨.panicked cause, schedule, hsteered, fun rig hrig => ⟨rig, rfl, hrig⟩⟩
  | order asked rest ih =>
      intro hsteers schedule hsteered
      obtain ⟨ending, middle, hmiddle, hreaches⟩ := hperform asked hsteers.1 schedule hsteered
      have hplayed (rig : Rig) : (handOver (.order asked rest) rig).run
          (Script.playWith perform) = (Script.order asked rest).playWith perform rig := by
        rw [handOver_apply, Progress.run]
        rfl
      cases ending with
      | value answer =>
          obtain ⟨ending, next, hnext, hrest⟩ := ih answer (hsteers.2 answer) middle hmiddle
          refine ⟨ending, next, hnext, fun rig hrig => ?_⟩
          obtain ⟨later, hasked, hlater⟩ := hreaches rig hrig
          rw [hplayed, Script.playWith, hasked]
          exact hrest later hlater
      | panicked cause =>
          refine ⟨.panicked cause, middle, hmiddle, fun rig hrig => ?_⟩
          obtain ⟨later, hasked, hlater⟩ := hreaches rig hrig
          exact ⟨later, by rw [hplayed, Script.playWith, hasked], hlater⟩
      | exhausted =>
          refine ⟨.exhausted, middle, hmiddle, fun rig hrig => ?_⟩
          obtain ⟨later, hasked, hlater⟩ := hreaches rig hrig
          exact ⟨later, by rw [hplayed, Script.playWith, hasked], hlater⟩
  | routine course rest => exact fun hsteers => hsteers.elim

/-- However deep its orders nest, code that steers goes by the schedule. -/
theorem plays_playWithin (limit : Nat) :
    PlaysRegularly depth listeners number equipment (Script.playWithin limit) := by
  -- Those who listen to the pace are one level deeper than the order that tells them.
  induction limit with
  | zero =>
      exact plays_playWith fun _ _ schedule hsteered =>
        ⟨.exhausted, schedule, hsteered, fun rig hrig => ⟨rig, rfl, hrig⟩⟩
  | succ limit ih =>
      exact plays_playWith fun order hsteers => regular_carryOut ih (limit + 1) hsteers

end Driver

end Cadence
