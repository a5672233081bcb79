import Cadence.Proofs.StepCourse

/-!
The tempo of a driver.  Whatever user code does in a step of a driver, the driver has the
turns it had before, and what the next one is timed by stays as it is, unless somebody
stores a rate meanwhile.
-/

namespace Cadence

open Exec Contract

/-- Whether an event begins a turn or step, or activates renders. -/
def Event.isBeat : Event → Bool
  | .turnBegan _ => true
  | .stepBegan _ => true
  | .activated _ _ _ => true
  | _ => false

namespace Watching

section Beats

variable {β : Type} {view : Driver → List Event → β} {number : Nat}
  (hbeats : ∀ {event : Event}, event.isBeat = false →
    ∀ driver work, view driver (event :: work) = view driver work)

include hbeats

/-- No work on emulators is a beat. -/
theorem ignoresEmulation_of_beats : (watching view number).IgnoresAll Facet.emulation := by
  refine ignoresEmulation fun event hfacet => hbeats ?_
  cases event with
  | turnBegan => simp [Event.facet, Facet.emulation] at hfacet
  | stepBegan => simp [Event.facet, Facet.emulation] at hfacet
  | activated => simp [Event.facet, Facet.emulation] at hfacet
  | _ => rfl

/-- A render has no beats; it shows in the display. -/
theorem sound_renderOnce_of_beats
    (hpaints : ∀ (driver : Driver) display work,
      view { driver with display } work = view driver work) :
    (watching view number).Sound (Driver.renderOnce number) := by
  have hignores : (watching view number).IgnoresAll Facet.emulation :=
    ignoresEmulation_of_beats hbeats
  have hdisplay : (watching view number).AllowsDisplay number :=
    { calls := hignores .calls (by decide)
      paints := fun display =>
        admits_driver ({ · with display }) (fun driver => hpaints driver display) _
      statuses := fun _ => admits_event (hbeats rfl)
      frames := fun _ => admits_event (hbeats rfl) }
  exact sound_renderOnce hignores hdisplay (admits_event (hbeats rfl))

end Beats

end Watching

/-- How far a driver has come with its turns, what they are timed by, and which turns and
steps it has begun and when it has activated its renders. -/
structure Tempo where
  render : Debouncer
  throttle : Bool
  timebase : Timebase
  turns : Nat
  pausedTurns : Nat
  beats : List Event

namespace Tempo

/-- The tempo of a driver with some work behind it. -/
def of (driver : Driver) (work : List Event) : Tempo where
  render := driver.render
  throttle := driver.throttle
  timebase := driver.timebase
  turns := driver.stats.turns
  pausedTurns := driver.stats.pausedTurns
  beats := work.filter Event.isBeat

variable {number : Nat} {fact : Rig.Fact} {rig later : Rig}

theorem of_event {event : Event} (hevent : event.isBeat = false) (driver : Driver)
    (work : List Event) : of driver (event :: work) = of driver work :=
  congrArg (mk _ _ _ _ _) (List.filter_cons_of_neg (ne_true_of_eq_false hevent))

theorem sound_modifyStats {change : DriverStats → DriverStats}
    (hturns : ∀ stats, (change stats).turns = stats.turns)
    (hpausedTurns : ∀ stats, (change stats).pausedTurns = stats.pausedTurns) :
    (watching of number).Sound (Driver.modifyStats number change) := by
  refine (Watching.admits_driver (fun driver => { driver with stats := change driver.stats })
    (fun driver work => ?_) number).sound
  rw [of, of, hturns, hpausedTurns]

end Tempo

/-! ### Frame times -/

namespace Pacing

/-- What frame time a driver waits to take over. -/
def awaited (state : Pacing) (number : Nat) : Option (Option Binary64) :=
  state.caps[number]?.map Cap.pending

/-- What has become of a pace since some state: unless a rate has been stored or a turn of
a driver has begun, nothing is being announced and the driver waits for what it did. -/
structure Waits (number : Nat) (start state : Pacing) (notices : List Notice) : Prop where
  size : number < state.caps.size
  since : ∃ events, state.journal = events ++ start.journal ∧
    ((∀ rate, .stored rate ∉ events) → .turnBegan number ∉ events →
      notices = [] ∧ state.awaited number = start.awaited number)

namespace Waits

variable {number : Nat} {start state later : Pacing} {notices left : List Notice}

theorem refl (hsize : number < start.caps.size) : Waits number start start [] :=
  ⟨hsize, [], rfl, fun _ _ => ⟨rfl, rfl⟩⟩

/-- An event after which nothing else is announced and the driver waits for the same. -/
theorem note (h : Waits number start state notices) {event : Event}
    (hsize : state.caps.size ≤ later.caps.size)
    (hjournal : later.journal = event :: state.journal)
    (hkept : (∀ rate, event ≠ .stored rate) → event ≠ .turnBegan number →
      notices = [] → left = [] ∧ later.awaited number = state.awaited number) :
    Waits number start later left := by
  obtain ⟨events, hevents, hwaits⟩ := h.since
  refine ⟨Nat.lt_of_lt_of_le h.size hsize, event :: events, ?_, fun hstored hbegan => ?_⟩
  · rw [hjournal, hevents]
    rfl
  · obtain ⟨hnone, hawaited⟩ := hwaits
      (fun rate hmem => hstored rate (List.mem_cons_of_mem _ hmem))
      fun hmem => hbegan (List.mem_cons_of_mem _ hmem)
    obtain ⟨hleft, hsame⟩ := hkept
      (fun rate heq => hstored rate (heq ▸ List.mem_cons_self))
      (fun heq => hbegan (heq ▸ List.mem_cons_self)) hnone
    exact ⟨hleft, hsame.trans hawaited⟩

end Waits

theorem awaited_modify {caps : Array Cap} {number other : Nat} {change : Cap → Cap}
    (hchange : other = number → ∀ cap, (change cap).pending = cap.pending) :
    (caps.modify other change)[number]?.map Cap.pending = caps[number]?.map Cap.pending := by
  rw [Array.getElem?_modify]
  split
  · rename_i heq
    rw [Option.map_map]
    exact congrArg (Option.map · _) (funext (hchange heq))
  · rfl

/-- Frame times are announced by those who store a rate, and taken over by turns. -/
theorem Waits.step {number : Nat} {start : Pacing} {state later : Pacing × List Notice}
    (h : Waits number start state.1 state.2) (hstep : Step state later) :
    Waits number start later.1 later.2 := by
  cases hstep with
  | aside hpace htiming => exact h.note (Nat.le_refl _) rfl fun _ _ hnone => ⟨hnone, rfl⟩
  | store hsets => exact h.note (Nat.le_refl _) rfl fun hstored => absurd rfl (hstored _)
  | @tell state observer rest notices =>
      refine h.note ?_ rfl fun _ _ hnone => absurd hnone (List.cons_ne_nil _ _)
      cases observer with
      | caller => exact Nat.le_refl _
      | driver other => exact Nat.le_of_eq (Array.size_modify ..).symm
  | announce hover =>
      exact h.note (Nat.le_refl _) rfl fun _ _ hnone => absurd hnone (List.cons_ne_nil _ _)
  | subscribe => exact h.note (Nat.le_refl _) rfl fun _ _ hnone => ⟨hnone, rfl⟩
  | unsubscribe => exact h.note (Nat.le_refl _) rfl fun _ _ hnone => ⟨hnone, rfl⟩
  | @create state notices throttle =>
      have hsize := h.size
      refine h.note ?_ rfl fun _ _ hnone => ⟨hnone, ?_⟩
      · exact Nat.le_of_lt ((Array.size_push ..).symm ▸ Nat.lt_succ_self _)
      · change (state.caps.push _)[number]?.map Cap.pending = _
        rw [Array.getElem?_push_lt hsize]
        exact congrArg _ (Array.getElem?_eq_getElem hsize).symm
  | retire other =>
      refine h.note (Nat.le_of_eq (Array.size_modify ..).symm) rfl fun _ _ hnone =>
        ⟨hnone, awaited_modify fun _ _ => rfl⟩
  | turns other =>
      refine h.note (Nat.le_of_eq (Array.size_modify ..).symm) rfl fun _ hbegan hnone =>
        ⟨hnone, awaited_modify fun heq => ?_⟩
      exact absurd (congrArg Event.turnBegan heq) hbegan
  | activates other timing count htiming =>
      exact h.note (Nat.le_refl _) rfl fun _ _ hnone => ⟨hnone, rfl⟩

theorem Waits.steps {number : Nat} {start : Pacing} {state : Pacing × List Notice}
    (hsize : number < start.caps.size) (hsteps : Steps (start, []) state) :
    Waits number start state.1 state.2 := by
  induction hsteps with
  | refl => exact .refl hsize
  | tail _ hstep ih => exact ih.step hstep

end Pacing

/-! ### Delivered steps -/

namespace Driver

/-- The rig when a step has begun. -/
def stepBegun (number : Nat) (rig : Rig) : Rig :=
  let entered := rig.entered (.driver number) (mark number)
  { entered with journal := .stepBegan number :: entered.journal }

/-- What a delivery makes of a step that is over: its failure is logged. -/
def delivered (number : Nat) (ending : Ending Verdict) (rig : Rig) : Ending Unit × Rig :=
  let last := (rig.leftBy (.driver number) (mark number)).retireAbandoned
  match ending with
  | .value (.ok _) => (.value (), last)
  | .value (.error failure) =>
      (.value (), { last with journal := .logged (stepNotice failure) :: last.journal })
  | .panicked cause => (.panicked cause, last)
  | .exhausted => (.exhausted, last)

/-- What is known of a step that is delivered to a driver that is free, with an emulator
that is free. -/
structure Stepped (depth number : Nat) (rig : Rig) (ending : Ending Unit) (later : Rig) :
    Prop where
  course : ∃ verdict finished,
    StepCourse (Script.playWithin depth) number (stepBegun number rig) verdict finished ∧
      (ending, later) = delivered number verdict finished
  cycles : ∀ {emulator calls verdict advanced}, (rig.driver number).emulator = emulator →
    Cycles (Script.playWithin depth) number emulator calls
      ((stepBegun number rig).entered (.emulator emulator) (Emulator.mark emulator))
      verdict advanced →
    workOf (.emulator emulator) advanced.journal =
      List.replicate calls (.advanced emulator) ++ workOf (.emulator emulator) rig.journal
  tempo : later.seen Tempo.of number =
    { rig.seen Tempo.of number with
      beats := .stepBegan number :: (rig.seen Tempo.of number).beats }
  pending : ∃ events, later.journal = events ++ rig.journal ∧
    ((∀ rate, .stored rate ∉ events) →
      (later.driver number).pending = (rig.driver number).pending)

section Delivery

variable {fact : Rig.Fact} {depth number generation : Nat} {rig later finished : Rig}
  {ending : Ending Unit} {verdict : Ending Verdict} {play : Play}

/-- A driver that is free comes when a step begins. -/
theorem finds_entered (hrig : rig.Orderly fact) (hsize : number < rig.drivers.size)
    (hfree : (rig.driver number).busy = false) :
    (secluding fact [.driver number]).finds (rig.entered (.driver number) (mark number)) ∧
      .driver number ∉ underWay rig.journal := by
  have hflag : rig.flag 0 (.driver number) = some false := by
    rw [Rig.flag, getElem?_driver hsize]
    exact congrArg some hfree
  have hfinds : (secluding fact []).finds rig :=
    ⟨hrig, fun _ hpart => absurd hpart List.not_mem_nil⟩
  exact ⟨Seclusion.finds_entered (Seclusion.marks_driver number) hfinds hflag,
    hrig.not_underWay hflag⟩

end Delivery

end Driver

end Cadence
