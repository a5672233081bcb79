import Cadence.Proofs.OrderFrame

/-!
A turn keeps its interval.  While a driver is busy none of its turns begins and the
interval of its renders stays, whatever user code does.  Renders of a turn are
activated with the interval that was taken over when the turn began.
-/

namespace Cadence

open Exec Contract

/-- Whether a turn of a driver begins or activates its renders. -/
def Event.isTurnOf (number : Nat) : Event → Bool
  | .turnBegan other => other == number
  | .activated other _ _ => other == number
  | _ => false

theorem Event.isTurnOf_of_facet {event : Event} (htiming : event.facet ≠ .timing)
    (number : Nat) : event.isTurnOf number = false := by
  cases event with
  | turnBegan => exact absurd rfl htiming
  | activated => exact absurd rfl htiming
  | _ => rfl

/-- The events of a driver's turns since some state, the last one first. -/
def Rig.Since (number : Nat) (rig : Rig) (own : List Event) (later : Rig) : Prop :=
  ∃ events, later.journal = events ++ rig.journal ∧
    events.filter (Event.isTurnOf number) = own

namespace Rig.Since

variable {number : Nat} {rig middle later : Rig}

theorem refl (hjournal : later.journal = rig.journal) : rig.Since number [] later :=
  ⟨[], hjournal, rfl⟩

theorem trans {first second : List Event} (hfirst : rig.Since number first middle)
    (hsecond : middle.Since number second later) :
    rig.Since number (second ++ first) later := by
  obtain ⟨older, holder, rfl⟩ := hfirst
  obtain ⟨newer, hnewer, rfl⟩ := hsecond
  refine ⟨newer ++ older, ?_, List.filter_append newer older⟩
  rw [hnewer, holder, List.append_assoc]

theorem aside {event : Event} (hevent : event.isTurnOf number = false)
    (hjournal : later.journal = event :: rig.journal) : rig.Since number [] later :=
  ⟨[event], hjournal, List.filter_cons_of_neg (ne_true_of_eq_false hevent)⟩

theorem own {event : Event} (hevent : event.isTurnOf number = true)
    (hjournal : later.journal = event :: rig.journal) :
    rig.Since number [event] later :=
  ⟨[event], hjournal, List.filter_cons_of_pos hevent⟩

theorem logged {lines : List Log.Line}
    (hjournal : later.journal = lines.map Event.logged ++ rig.journal) :
    rig.Since number [] later := by
  refine ⟨lines.map Event.logged, hjournal, ?_⟩
  rw [List.filter_map]
  simp [Function.comp_def, Event.isTurnOf]

end Rig.Since

namespace Driver

/-- A driver is busy, with a given interval of its renders. -/
structure Engaged (number interval : Nat) (rig : Rig) : Prop where
  busy : (rig.driver number).busy = true
  interval : (rig.driver number).render.interval = interval

namespace Engaged

variable {number interval : Nat} {rig : Rig}

theorem size (h : Engaged number interval rig) : number < rig.drivers.size :=
  size_of_busy h.busy

theorem of_footing (h : Engaged number interval rig) {drivers : Array Driver}
    (hfooting : drivers.map footing = rig.drivers.map footing) :
    Engaged number interval { rig with drivers } := by
  have hsame : footing (({ rig with drivers } : Rig).driver number) =
      footing (rig.driver number) := by
    have hentry := congrArg (·[number]?.getD (footing default)) hfooting
    simp only [Array.getElem?_map, Option.getD_map] at hentry
    exact hentry
  constructor
  · rw [← h.busy]
    exact congrArg Prod.snd hsame
  · rw [← h.interval]
    exact congrArg (·.1.interval) hsame

theorem push (h : Engaged number interval rig) (driver : Driver) :
    Engaged number interval { rig with drivers := rig.drivers.push driver } := by
  have hkept : ({ rig with drivers := rig.drivers.push driver } : Rig).driver
      number = rig.driver number := by
    simp [Rig.driver, Array.getElem?_push, Nat.ne_of_lt h.size]
  constructor
  · rw [hkept]
    exact h.busy
  · rw [hkept]
    exact h.interval

theorem modify (h : Engaged number interval rig) {other : Nat}
    {change : Driver → Driver}
    (hchange : other = number → ∀ driver : Driver,
      (change driver).busy = driver.busy ∧
        (change driver).render.interval = driver.render.interval) :
    Engaged number interval
      { rig with drivers := rig.drivers.modify other change } := by
  by_cases hother : other = number
  · have hmodified : ({ rig with drivers := rig.drivers.modify other change } :
        Rig).driver number = change (rig.driver number) := by
      subst hother
      exact driver_modify h.size change
    obtain ⟨hbusy, hinterval⟩ := hchange hother (rig.driver number)
    constructor
    · rw [hmodified, hbusy]
      exact h.busy
    · rw [hmodified, hinterval]
      exact h.interval
  · have hkept : ({ rig with drivers := rig.drivers.modify other change } :
        Rig).driver number = rig.driver number := by
      simp [Rig.driver, Array.getElem?_modify, hother]
    constructor
    · rw [hkept]
      exact h.busy
    · rw [hkept]
      exact h.interval

theorem of_drivers {later : Rig} (h : Engaged number interval rig)
    (hdrivers : later.drivers = rig.drivers) : Engaged number interval later := by
  have hkept : later.driver number = rig.driver number := by
    simp [Rig.driver, hdrivers]
  constructor
  · rw [hkept]
    exact h.busy
  · rw [hkept]
    exact h.interval

/-! ### User code while a driver is busy -/

/-- While a driver is busy, it stays so, and has no other turn. -/
def contract (number interval : Nat) : Contract where
  allowed _ := True
  finds := Engaged number interval
  leaves rig _ later := Engaged number interval later ∧ rig.Since number [] later
  refl hfinds := ⟨hfinds, .refl rfl⟩
  trans hfirst hsecond := ⟨hsecond.1, hfirst.2.trans hsecond.2⟩
  keeps _ hleaves := hleaves.1
  bound _ := Rig.keepsTo_all _
  enrolls hfinds _ := ⟨hfinds.of_drivers rfl, .refl rfl⟩

section Contract

/-- A change of the drivers that leaves a busy one alone. -/
theorem admits_drivers {change : Rig → Rig}
    (hengaged : ∀ rig, Engaged number interval rig →
      Engaged number interval (change rig))
    (hjournal : ∀ rig, (change rig).journal = rig.journal) :
    (contract number interval).Admits change := by
  rintro rig ending middle ⟨hmiddle, hsince⟩
  exact ⟨hengaged middle hmiddle, hsince.trans (.refl (hjournal middle))⟩

theorem admits_event {event : Event} (hevent : event.isTurnOf number = false) :
    (contract number interval).Admits fun rig =>
      { rig with journal := event :: rig.journal } := by
  rintro rig ending middle ⟨hmiddle, hsince⟩
  exact ⟨hmiddle.of_drivers rfl, hsince.trans (.aside hevent rfl)⟩

theorem ignores_touch {facet : Facet} (htiming : facet ≠ .timing)
    (hmarks : facet ≠ .marks) :
    (contract number interval).Ignores facet := by
  intro rig ending middle later hleaves htouch
  cases htouch with
  | timing => exact absurd rfl htiming
  | marks => exact absurd rfl hmarks
  | event event hevent =>
      have haside : event.facet ≠ .timing := hevent ▸ htiming
      exact admits_event (Event.isTurnOf_of_facet haside number) hleaves
  | handles hfooting =>
      exact ⟨hleaves.1.of_footing hfooting, hleaves.2⟩
  | _ => exact ⟨hleaves.1.of_drivers rfl, hleaves.2⟩

theorem ignoresAll_sides :
    (contract number interval).IgnoresAll Facet.sides := by
  intro facet hfacet
  apply ignores_touch
  · rintro rfl
    exact absurd hfacet (by decide)
  · rintro rfl
    exact absurd hfacet (by decide)

theorem ignoresAll_rendering :
    (contract number interval).IgnoresAll Facet.rendering :=
  ignoresAll_sides.of_subset Facet.rendering_subset_sides

theorem admits_modify {other : Nat} {change : Driver → Driver}
    (hchange : other = number → ∀ driver : Driver,
      (change driver).busy = driver.busy ∧
        (change driver).render.interval = driver.render.interval) :
    (contract number interval).Admits fun rig =>
      { rig with drivers := rig.drivers.modify other change } :=
  admits_drivers (fun _ hrig => hrig.modify hchange) fun _ => rfl

theorem admits_retire (other : Nat) :
    (contract number interval).Admits (·.retire other) := by
  have hpace : (contract number interval).Ignores .pace :=
    ignores_touch (by decide) (by decide)
  have hunsubscribed : (contract number interval).Admits fun rig =>
      { rig with pace := rig.pace.unsubscribe (.driver other) } :=
    hpace.admits fun _ => .pace _
  have hended : (contract number interval).Admits fun rig =>
      { rig with
        drivers := rig.drivers.modify other ({ · with alive := false }) } :=
    admits_modify fun _ _ => ⟨rfl, rfl⟩
  exact (hunsubscribed.comp hended).comp (hpace.admits_event rfl)

section Other

variable {other : Nat} (hother : other ≠ number)

include hother

theorem sound_openTurn (measuredRate : Option Binary64) :
    (contract number interval).Sound (openTurn other measuredRate) := by
  have hbegan : (Event.turnBegan other).isTurnOf number = false :=
    beq_false_of_ne hother
  intro rig hfinds
  exact soundAt_openTurn (.of_ignores ignoresAll_rendering other) hfinds measuredRate
    ((admits_event hbegan).sound rig hfinds) (admits_modify fun heq => absurd heq hother)

theorem sound_activateRender :
    (contract number interval).Sound (activateRender other) := by
  have hactivated (timing : Debouncer) (count : Nat) :
      (Event.activated other timing count).isTurnOf number = false :=
    beq_false_of_ne hother
  exact Driver.sound_activateRender (.of_ignores ignoresAll_rendering other)
    (fun _ _ => admits_event (hactivated _ _))
    fun _ => admits_modify fun heq => absurd heq hother

end Other

/-- A busy driver is refused; any other may have its turn or step. -/
theorem sound_ifFree {α : Type} {other : Nat} {body : Exec α}
    (hbody : other ≠ number → (contract number interval).Sound body) :
    (contract number interval).Sound (ifFree other body) := by
  -- Turns of the driver itself would break the contract, but they do not come
  -- about: the mark is looked at first.
  by_cases hother : other = number
  · subst hother
    intro rig hfinds
    rw [ifFree_of_busy (getElem?_driver hfinds.size) hfinds.busy]
    exact (contract other interval).refl hfinds
  · have hmark (busy : Bool) :
        (contract number interval).Admits (mark other busy) :=
      admits_modify fun heq => absurd heq hother
    exact Driver.sound_ifFree ((hmark true).comp (admits_event rfl))
      ((hmark false).comp (admits_event rfl))
      (admits_retireAbandoned admits_retire) (hbody hother)

theorem allowsTurns : (contract number interval).AllowsTurns where
  turns other measuredRate := sound_ifFree fun hother =>
    sound_turn (.of_ignores ignoresAll_rendering other)
      (sound_openTurn hother measuredRate) (sound_activateRender hother)
  steps other := sound_ifFree fun _ =>
    sound_step (.of_ignores ignoresAll_rendering other) (admits_event rfl).sound
  retires := admits_retireAbandoned admits_retire

theorem allowsPacing : (contract number interval).AllowsPacing :=
  Pace.Aside.allowsPacing (ignores_touch (by decide) (by decide))
    (ignores_touch (by decide) (by decide)) (ignores_touch (by decide) (by decide))
    (fun _ _ => admits_modify fun _ _ => ⟨rfl, rfl⟩)
    (fun _ _ _ _ _ => admits_drivers (fun _ hrig => hrig.push _) fun _ => rfl)

theorem soundOrders (number interval : Nat) :
    (contract number interval).SoundOrders :=
  Contract.soundOrders ignoresAll_sides allowsPacing allowsTurns
    (.of_ignores (ignores_touch (by decide) (by decide)) ignoresAll_rendering
      allowsTurns)

end Contract

end Engaged

/-! ### A turn -/

/-- The turn that came about, unless it failed. -/
def finished : Ending (Except Failure Turn) → Option Turn
  | .value (.ok turn) => some turn
  | _ => none

/-- The turn that came about, unless it failed or was refused. -/
def outcome : Ending (Option (Except Failure Turn)) → Option Turn
  | .value (some (.ok turn)) => some turn
  | _ => none

/-- A turn and what the journal has of it besides its beginning: renders are
activated with the interval at hand, by every turn that runs. -/
inductive Timed (number interval : Nat) : Option Turn → List Event → Prop
  | failed : Timed number interval none []
  | paused : Timed number interval (some .paused) []
  | broken {timing : Debouncer} {count : Nat} (htiming : timing.interval = interval) :
      Timed number interval none [.activated number timing count]
  | ran {timing : Debouncer} {count : Nat} {cycles : UInt32}
      (htiming : timing.interval = interval) :
      Timed number interval (some (.ran cycles (.ofCount count)))
        [.activated number timing count]

section Turn

variable {number interval : Nat} {rig : Rig}

/-- A turn takes over the awaited frame time before anything else happens. -/
theorem openTurn_apply (measuredRate : Option Binary64)
    (hbusy : (rig.driver number).busy = true)
    (hinterval : (rig.driver number).applyPending.render.interval = interval) :
    ∃ later, openTurn number measuredRate rig = .ended (.value ()) later ∧
      Engaged number interval later ∧
        rig.Since number [.turnBegan number] later := by
  have hsize := size_of_busy hbusy
  simp only [openTurn, modifyStats, modify, bind_apply, record_apply,
    update_apply, look_apply, log_apply, Progress.andThen]
  refine ⟨_, rfl, ?_, ?_⟩
  · have hentry := Array.getElem?_eq_getElem hsize
    simp only [Rig.driver, hentry, Option.getD_some] at hbusy hinterval
    constructor
    · simp only [Rig.driver, Array.getElem?_modify, if_true, hentry,
        Option.map_some, Option.getD_some, busy_applyPending]
      exact hbusy
    · simp only [Rig.driver, Array.getElem?_modify, if_true, hentry,
        Option.map_some, Option.getD_some]
      rw [← hinterval]
      unfold applyPending
      cases rig.drivers[number].pending <;> rfl
  · have hbegan : rig.Since number [.turnBegan number]
        { rig with journal := .turnBegan number :: rig.journal } :=
      .own (beq_self_eq_true number) rfl
    exact hbegan.trans (.logged rfl)

theorem respects_activateRender (hrig : Engaged number interval rig) :
    (activateRender number rig).Respects (Engaged.contract number interval)
      fun ending later => Engaged number interval later ∧
        ∃ timing count, timing.interval = interval ∧
          rig.Since number [.activated number timing count] later ∧
            ∀ rendered, ending = .value (.ok rendered) →
              rendered = .ofCount count := by
  simp only [activateRender, modify, bind_apply, record_apply, update_apply,
    look_apply, log_apply, Progress.andThen, Progress.respects_andThen]
  generalize hplan : (rig.driver number).render.plan
    (clockTime (rig.driver number).timebase rig) = plan
  obtain ⟨count, timing⟩ := plan
  have htiming : timing.interval = interval := by
    have hkept := Debouncer.interval_plan (rig.driver number).render
      (clockTime (rig.driver number).timebase rig)
    rw [hplan] at hkept
    rw [← hrig.interval, ← hkept]
  have hplanned : Engaged number interval
      { rig with
        drivers := rig.drivers.modify number ({ · with render := timing }) } := by
    have hdriver : ({ rig with
        drivers := rig.drivers.modify number ({ · with render := timing }) } :
          Rig).driver number = { rig.driver number with render := timing } :=
      driver_modify hrig.size _
    exact ⟨(congrArg Driver.busy hdriver).trans hrig.busy,
      (congrArg (·.render.interval) hdriver).trans htiming⟩
  have hlogged (lines : List Log.Line) : rig.Since number []
      { rig with journal := lines.map Event.logged ++ rig.journal } := .logged rfl
  have hactivates :
      (Event.activated number (rig.driver number).render count).isTurnOf number :=
    beq_self_eq_true number
  have hactivated (lines : List Log.Line) (drivers : Array Driver) :
      rig.Since number [.activated number (rig.driver number).render count]
        { rig with
          drivers
          journal := .activated number (rig.driver number).render count ::
            (lines.map Event.logged ++ rig.journal) } :=
    (hlogged lines).trans (.own hactivates rfl)
  refine (sound_renderTimes (.of_ignores Engaged.ignoresAll_rendering number) _ _ ?_).imp ?_
  · exact hplanned.of_drivers rfl
  rintro ending later ⟨hlater, hsince⟩
  have hsince := (hactivated _ _).trans hsince
  cases ending with
  | value verdict =>
      cases verdict with
      | error failure =>
          exact ⟨hlater, _, count, hrig.interval, hsince, fun _ heq => by cases heq⟩
      | ok done =>
          refine ⟨hlater, _, count, hrig.interval, hsince, fun rendered heq => ?_⟩
          cases heq
          rfl
  | panicked cause =>
      exact ⟨hlater, _, count, hrig.interval, hsince, fun _ heq => by cases heq⟩
  | exhausted =>
      exact ⟨hlater, _, count, hrig.interval, hsince, fun _ heq => by cases heq⟩

/-- What is left of a turn after its beginning. -/
theorem respects_turn (measuredRate : Option Binary64)
    (hbusy : (rig.driver number).busy = true)
    (hinterval : (rig.driver number).applyPending.render.interval = interval) :
    (turn number measuredRate rig).Respects (Engaged.contract number interval)
      fun ending later => Engaged number interval later ∧
        ∃ own, rig.Since number (own ++ [.turnBegan number]) later ∧
          Timed number interval (finished ending) own := by
  obtain ⟨opened, hopens, hengaged, hbegan⟩ :=
    openTurn_apply measuredRate hbusy hinterval
  rw [turn, bind_apply, hopens]
  simp only [Progress.andThen, bind_apply, look_apply]
  split
  · refine ⟨hengaged.modify fun _ _ => ⟨rfl, rfl⟩, [], ?_, .paused⟩
    exact hbegan.trans (.refl rfl)
  · simp only [bind_apply, look_apply, Progress.andThen, Progress.respects_andThen]
    refine (sound_advance (.of_ignores Engaged.ignoresAll_rendering number) _ opened
      hengaged).imp ?_
    rintro ending advanced ⟨hadvanced, hsince⟩
    have hsince := hbegan.trans hsince
    cases ending with
    | panicked cause => exact ⟨hadvanced, [], hsince, .failed⟩
    | exhausted => exact ⟨hadvanced, [], hsince, .failed⟩
    | value verdict =>
        cases verdict with
        | error failure => exact ⟨hadvanced, [], hsince, .failed⟩
        | ok done =>
            simp only [Progress.Rest, bind_apply, Progress.respects_andThen]
            apply (respects_activateRender hadvanced).imp
            rintro ending activated ⟨hactivated, timing, count, htiming, hrest, hcount⟩
            have hrest := hsince.trans hrest
            cases ending with
            | panicked cause => exact ⟨hactivated, _, hrest, .broken htiming⟩
            | exhausted => exact ⟨hactivated, _, hrest, .broken htiming⟩
            | value verdict =>
                cases verdict with
                | error failure => exact ⟨hactivated, _, hrest, .broken htiming⟩
                | ok rendered =>
                    obtain rfl := hcount rendered rfl
                    refine ⟨hactivated.modify fun _ _ => ⟨rfl, rfl⟩, _, ?_,
                      .ran htiming⟩
                    exact hrest.trans (.refl rfl)

end Turn

/-- What is known of a turn.  Throughout, whatever user code does, the interval of
the renders is the one taken over at its beginning, and so it is afterwards. -/
structure TurnKeeps (depth number : Nat) (measuredRate : Option Binary64)
    (interval : Nat) (rig : Rig) : Prop where
  meanwhile : ∀ script begun moment,
    (ifFree number (turn number measuredRate) rig).Hands
      (Script.playWithin depth) script begun →
    script.Passes depth begun moment →
      (moment.driver number).render.interval = interval
  afterwards : ∀ ending later,
    (ifFree number (turn number measuredRate) rig).run
      (Script.playWithin depth) = (ending, later) →
    (later.driver number).render.interval = interval ∧
      ∃ own, rig.Since number (own ++ [.turnBegan number]) later ∧
        Timed number interval (outcome ending) own

section Turn

variable {number : Nat} {rig : Rig}

/-- When a driver is released, and perhaps retired, its interval stays. -/
theorem release {interval : Nat} {own : List Event} {middle : Rig}
    (hinterval : (middle.driver number).render.interval = interval)
    (hsince : rig.Since number own middle) :
    let later := Rig.retireAbandoned { mark number false middle with
      journal := .left (.driver number) :: middle.journal }
    (later.driver number).render.interval = interval ∧
      rig.Since number own later := by
  refine Rig.retireAbandoned_induct (fun later =>
    (later.driver number).render.interval = interval ∧ rig.Since number own later)
    ?_ ?_
  · rintro other moment - ⟨hinterval, hsince⟩
    refine ⟨?_, hsince.trans (.aside rfl rfl)⟩
    rw [← hinterval]
    exact view_modify (·.render.interval) ({ · with alive := false })
      (fun _ => rfl) moment number other
  · refine ⟨?_, hsince.trans (.aside rfl rfl)⟩
    rw [← hinterval]
    exact view_modify (·.render.interval) ({ · with busy := false })
      (fun _ => rfl) middle number number

theorem respects_ifFree_turn (measuredRate : Option Binary64)
    (hsize : number < rig.drivers.size) (hfree : (rig.driver number).busy = false) :
    (ifFree number (turn number measuredRate) rig).Respects
      (Engaged.contract number (rig.driver number).applyPending.render.interval)
      fun ending later =>
        (later.driver number).render.interval =
          (rig.driver number).applyPending.render.interval ∧
        ∃ own, rig.Since number (own ++ [.turnBegan number]) later ∧
          Timed number (rig.driver number).applyPending.render.interval
            (outcome ending) own := by
  rw [ifFree_of_free (getElem?_driver hsize) hfree]
  simp only [map_apply, ensuring_apply, within_apply]
  apply Progress.respects_andThen.mpr
  apply Progress.respects_atEnd.mpr
  apply Progress.respects_atEnd.mpr
  have hmarked : (mark number true rig).driver number =
      { rig.driver number with busy := true } := driver_modify hsize _
  refine (respects_turn measuredRate ?_ ?_).imp ?_
  · exact congrArg Driver.busy hmarked
  · refine (congrArg (·.applyPending.render.interval) hmarked).trans ?_
    unfold applyPending
    cases (rig.driver number).pending <;> rfl
  · rintro ending later ⟨hengaged, own, hsince, htimed⟩
    have hbefore : rig.Since number []
        { mark number true rig with
          journal := .entered (.driver number) :: rig.journal } := .aside rfl rfl
    have hown := hbefore.trans hsince
    rw [List.append_nil] at hown
    have hreleased := release hengaged.interval hown
    cases ending with
    | value result =>
        refine ⟨hreleased.1, own, hreleased.2, ?_⟩
        cases result <;> exact htimed
    | panicked cause => exact ⟨hreleased.1, own, hreleased.2, htimed⟩
    | exhausted => exact ⟨hreleased.1, own, hreleased.2, htimed⟩

/-- A turn keeps to the frame time that it takes over. -/
theorem turnKeeps (depth : Nat) (measuredRate : Option Binary64)
    (hsize : number < rig.drivers.size) (hfree : (rig.driver number).busy = false) :
    TurnKeeps depth number measuredRate
      (rig.driver number).applyPending.render.interval rig := by
  have hrespects := respects_ifFree_turn measuredRate hsize hfree
  have hsound := Engaged.soundOrders number
    (rig.driver number).applyPending.render.interval
  constructor
  · intro script begun moment hhands hpasses
    have hbegun := hrespects.hands (hsound.honoured depth) hhands
    have hmoment := hsound.finds_moment hpasses hbegun.2 hbegun.1
    exact hmoment.interval
  · intro ending later hrun
    have hends := hrespects.run (hsound.honoured depth)
    rw [hrun] at hends
    exact hends

end Turn

end Driver

end Cadence
