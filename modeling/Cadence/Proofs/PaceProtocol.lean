import Mathlib.Logic.Relation
import Cadence.Proofs.OrderFrame

/-!
The protocol of the pace.  A rate that is stored is announced to those who
observe at that moment, one after the other, until somebody stores another one.
Announcements nest; whatever happens on a rig, its pace and the caps of its
drivers take the steps below and no others.
-/

namespace Cadence

open Contract

/-- What the pace of a rig and the caps of its drivers have come to. -/
structure Pacing where
  rate : Rate
  observers : List Observer
  nextCaller : Nat
  caps : Array Cap
  journal : List Event

def Rig.pacing (rig : Rig) : Pacing where
  rate := rig.pace.rate
  observers := rig.pace.observers
  nextCaller := rig.pace.nextCaller
  caps := rig.drivers.map Driver.cap
  journal := rig.journal

/-- An announcement under way: of which rate, and who is still to be told. -/
structure Notice where
  rate : Rate
  waiting : List Observer

namespace Cap

/-- The cap of a new driver. -/
def fresh (throttle : Bool) (rate : Rate) : Cap where
  throttle
  pending := none
  interval := if throttle then Driver.intervalOfFrameTime rate.frameTime else 0
  alive := true

/-- The announced frame time is taken over. -/
def applied (cap : Cap) : Cap :=
  match cap.pending with
  | none => cap
  | some millis =>
      { cap with
        pending := none
        interval :=
          if cap.throttle then Driver.intervalOfFrameTime millis
          else cap.interval }

/-- A frame time is announced. -/
def awaiting (cap : Cap) (millis : Binary64) : Cap :=
  { cap with pending := some millis }

def retired (cap : Cap) : Cap := { cap with alive := false }

end Cap

@[simp] theorem Driver.cap_applyPending (driver : Driver) :
    driver.applyPending.cap = driver.cap.applied := by
  unfold applyPending Cap.applied
  cases hpending : driver.pending with
  | none => simp [Driver.cap, hpending]
  | some millis =>
      cases hthrottle : driver.throttle <;>
        simp [Driver.cap, hpending, hthrottle, Debouncer.withInterval]

theorem Driver.cap_fresh (emulator : Nat) (display : Display)
    (options : Driver.Options) (timebase : Timebase) (rate : Rate) :
    (Driver.fresh emulator display options timebase rate).cap =
      Cap.fresh options.throttle rate := rfl

namespace Pacing

def note (state : Pacing) (event : Event) : Pacing :=
  { state with journal := event :: state.journal }

def store (state : Pacing) (rate : Rate) : Pacing :=
  { state with rate, journal := .stored rate :: state.journal }

/-- An observer is told the rate; a driver notes its frame time down. -/
def tell (state : Pacing) (observer : Observer) : Pacing :=
  { state with
    caps :=
      match observer with
      | .caller _ _ => state.caps
      | .driver number => state.caps.modify number (·.awaiting state.rate.frameTime)
    journal := .told observer.id state.rate :: state.journal }

def subscribe (state : Pacing) (observer : Observer) : Pacing :=
  { state with
    observers := state.observers ++ [observer]
    journal := .subscribed observer.id :: state.journal }

/-- A caller observes the pace, under a number that nobody has had. -/
def welcome (state : Pacing) (routine : Nat) : Pacing :=
  { state.subscribe (.caller state.nextCaller routine) with
    nextCaller := state.nextCaller + 1 }

def unsubscribe (state : Pacing) (id : ObserverId) : Pacing :=
  { state with
    observers := state.observers.filter fun observer => observer.id != id
    journal := .unsubscribed id :: state.journal }

/-- A new driver observes the pace. -/
def create (state : Pacing) (throttle : Bool) : Pacing :=
  { state with
    caps := state.caps.push (.fresh throttle state.rate) }.subscribe
      (.driver state.caps.size)

def retire (state : Pacing) (number : Nat) : Pacing :=
  { state with caps := state.caps.modify number Cap.retired }.unsubscribe
    (.driver number)

/-- A driver's turn begins. -/
def beginTurn (state : Pacing) (number : Nat) : Pacing :=
  { state with caps := state.caps.modify number Cap.applied }.note
    (.turnBegan number)

/-- What can happen to a pace and the announcements under way, the innermost
first. -/
inductive Step : Pacing × List Notice → Pacing × List Notice → Prop
  | aside {state notices event} (hpace : event.facet ≠ .pace)
      (htiming : event.facet ≠ .timing) :
      Step (state, notices) (state.note event, notices)
  | store {state notices} {rate : Rate} (hsets : state.rate.Sets rate) :
      Step (state, notices)
        (state.store rate, ⟨rate, state.observers⟩ :: notices)
  | tell {state : Pacing} {observer rest notices} :
      Step (state, ⟨state.rate, observer :: rest⟩ :: notices)
        (state.tell observer, ⟨state.rate, rest⟩ :: notices)
  | announce {state rate waiting notices}
      (hover : waiting = [] ∨ state.rate ≠ rate) :
      Step (state, ⟨rate, waiting⟩ :: notices)
        (state.note (.announced rate), notices)
  | subscribe {state notices} (routine : Nat) :
      Step (state, notices) (state.welcome routine, notices)
  | unsubscribe {state notices} (number : Nat)
      (hfound : .caller number ∈ state.observers.map Observer.id) :
      Step (state, notices) (state.unsubscribe (.caller number), notices)
  | create {state notices} (throttle : Bool) :
      Step (state, notices) (state.create throttle, notices)
  | retire {state notices} (number : Nat)
      (halive : (state.caps[number]?.map Cap.alive) = some true) :
      Step (state, notices) (state.retire number, notices)
  | turns {state notices} (number : Nat) :
      Step (state, notices) (state.beginTurn number, notices)
  | activates {state notices} (number : Nat) (timing : Debouncer) (count : Nat)
      (htiming : ∀ cap, state.caps[number]? = some cap →
        timing.interval = cap.interval) :
      Step (state, notices)
        (state.note (.activated number timing count), notices)

/-- A run of a pace. -/
abbrev Steps : Pacing × List Notice → Pacing × List Notice → Prop :=
  Relation.ReflTransGen Step

/-- Some lines are logged. -/
def logged (state : Pacing) (lines : List Log.Line) : Pacing :=
  { state with journal := lines.map Event.logged ++ state.journal }

theorem steps_logged {state : Pacing} {notices : List Notice}
    (lines : List Log.Line) :
    Steps (state, notices) (state.logged lines, notices) := by
  induction lines with
  | nil => exact .refl
  | cons line rest ih =>
      exact ih.tail (.aside (Facet.noConfusion) (Facet.noConfusion))

/-- Runs from a given state: an ended computation has no announcement of its own
under way, and one that is cut short may leave some behind. -/
def contract (start : Pacing) : Contract where
  allowed _ := True
  finds rig := ∃ notices, Steps (start, []) (rig.pacing, notices)
  leaves rig ending later :=
    ∃ left, (∀ notices,
      Steps (rig.pacing, notices) (later.pacing, left ++ notices)) ∧
        (ending.isValue = true → left = [])
  refl _ := ⟨[], fun _ => .refl, fun _ => rfl⟩
  trans := by
    rintro rig middle later ending ⟨first, hfirst, hnone⟩ ⟨left, hleft, hvalue⟩
    obtain rfl := hnone rfl
    exact ⟨left, fun notices => (hfirst notices).trans (hleft notices), hvalue⟩
  keeps := by
    rintro rig later ⟨notices, hfinds⟩ ⟨left, hleft, _⟩
    exact ⟨left ++ notices, hfinds.trans (hleft notices)⟩
  bound _ := Rig.keepsTo_all _
  enrolls := fun _ _ => ⟨[], fun _ => .refl, fun _ => rfl⟩

variable {start : Pacing}

/-- Steps that concern no announcement can be taken at any time. -/
theorem leaves_tail {rig middle later : Rig} {ending : Ending Unit}
    (hleaves : (contract start).leaves rig ending middle)
    (hsteps : ∀ notices,
      Steps (middle.pacing, notices) (later.pacing, notices)) :
    (contract start).leaves rig ending later := by
  obtain ⟨left, hleft, hvalue⟩ := hleaves
  exact ⟨left, fun notices => (hleft notices).trans (hsteps _), hvalue⟩

theorem pacing_of_caps {rig : Rig} {drivers : Array Driver} {caps : Array Cap}
    (hcaps : drivers.map Driver.cap = caps) (journal : List Event) :
    ({ rig with drivers, journal } : Rig).pacing =
      { rig.pacing with caps, journal } := by
  rw [← hcaps]
  rfl

theorem ignores_touch {facet : Facet} (hpace : facet ≠ .pace)
    (htiming : facet ≠ .timing) : (contract start).Ignores facet := by
  intro rig ending middle later hleaves htouch
  cases htouch with
  | pace => exact absurd rfl hpace
  | timing => exact absurd rfl htiming
  | event event hevent =>
      refine leaves_tail hleaves fun notices => .single ?_
      exact .aside (hevent ▸ hpace) (hevent ▸ htiming)
  | @marks _ drivers hcaps =>
      refine leaves_tail hleaves fun notices => ?_
      rw [pacing_of_caps hcaps middle.journal]
      exact .refl
  | @handles _ drivers hfooting =>
      have hcaps := congrArg (Array.map Prod.fst) hfooting
      simp only [Array.map_map] at hcaps
      refine leaves_tail hleaves fun notices => ?_
      rw [pacing_of_caps hcaps middle.journal]
      exact .refl
  | _ => exact hleaves

theorem ignoresAll_sides : (contract start).IgnoresAll Facet.sides := by
  intro facet hfacet
  apply ignores_touch
  · rintro rfl
    exact absurd hfacet (by decide)
  · rintro rfl
    exact absurd hfacet (by decide)

theorem ignoresAll_rendering : (contract start).IgnoresAll Facet.rendering :=
  ignoresAll_sides.of_subset Facet.rendering_subset_sides

/-! ### Turns -/

theorem pacing_retire (rig : Rig) (number : Nat) :
    (rig.retire number).pacing = rig.pacing.retire number := by
  have hcaps : (rig.drivers.modify number fun driver =>
      { driver with alive := false }).map Driver.cap =
        (rig.drivers.map Driver.cap).modify number Cap.retired :=
    Driver.map_cap_modify rig.drivers number _ fun _ => rfl
  simp [Rig.pacing, Rig.retire, retire, unsubscribe, Pace.unsubscribe, hcaps]

/-- A driver that is abandoned is alive. -/
theorem alive_of_isAbandoned {rig : Rig} {number : Nat}
    (h : rig.isAbandoned number = true) :
    (rig.pacing.caps[number]?.map Cap.alive) = some true := by
  have halive : (rig.driver number).alive = true := (Bool.and_eq_true_iff.mp h).1
  have hsize := Driver.size_of_alive halive
  change ((rig.drivers.map Driver.cap)[number]?.map Cap.alive) = some true
  rw [Array.getElem?_map, Driver.getElem?_driver hsize]
  exact congrArg some halive

theorem admits_retireAbandoned : (contract start).Admits Rig.retireAbandoned := by
  intro rig ending middle hleaves
  refine Rig.retireAbandoned_induct ((contract start).leaves rig ending)
    (fun number moment habandoned hmoment => ?_) hleaves
  refine leaves_tail hmoment fun notices => .single ?_
  rw [pacing_retire]
  exact .retire number (alive_of_isAbandoned habandoned)

theorem map_cap_openTurn (drivers : Array Driver) (number : Nat)
    {first second : Driver → Driver} (hfirst : ∀ driver, (first driver).cap = driver.cap)
    (hsecond : ∀ driver, (second driver).cap = driver.cap) :
    (((drivers.modify number first).modify number second).modify number
      Driver.applyPending).map Driver.cap =
        (drivers.map Driver.cap).modify number Cap.applied := by
  rw [Driver.map_cap_modify _ _ _ Driver.cap_applyPending,
    Driver.map_modify_of_eq _ _ hsecond, Driver.map_modify_of_eq _ _ hfirst]

theorem sound_openTurn (number : Nat) (measuredRate : Option Binary64) :
    (contract start).Sound (Driver.openTurn number measuredRate) := by
  intro rig _
  simp only [Driver.openTurn, Driver.modifyStats, Driver.modify, Exec.bind_apply,
    Exec.record_apply, Exec.update_apply, Exec.look_apply, Exec.log_apply,
    Progress.andThen, Progress.respects_ended]
  refine ⟨[], fun notices => ?_, fun _ => rfl⟩
  have hbegun : Steps (rig.pacing, notices)
      (rig.pacing.beginTurn number, notices) := .single (.turns number)
  refine hbegun.trans ?_
  rw [pacing_of_caps (map_cap_openTurn rig.drivers number ?_ ?_)]
  · exact steps_logged _
  · exact fun _ => rfl
  · exact fun _ => rfl

/-- A render that is activated keeps its interval. -/
theorem map_cap_plan (rig : Rig) (number now : Nat) :
    (rig.drivers.modify number fun driver =>
      { driver with render := ((rig.driver number).render.plan now).2 }).map
        Driver.cap = rig.drivers.map Driver.cap := by
  apply Array.ext
  · simp
  · intro index hleft hright
    simp only [Array.getElem_map, Array.getElem_modify]
    split
    · rename_i hnumber
      subst hnumber
      have hindex : number < rig.drivers.size := by simpa using hright
      simp [Driver.cap, Rig.driver, hindex]
    · rfl

theorem leaves_activated (start : Pacing) {rig : Rig} {drivers : Array Driver}
    (hcaps : drivers.map Driver.cap = rig.drivers.map Driver.cap)
    (number count : Nat) (lines : List Log.Line) :
    (contract start).leaves rig (.value ())
      { rig with
        drivers
        journal := .activated number (rig.driver number).render count ::
          (lines.map Event.logged ++ rig.journal) } := by
  refine ⟨[], fun notices => ?_, fun _ => rfl⟩
  have hlogged : Steps (rig.pacing, notices) (_, notices) := steps_logged lines
  have hactivates := hlogged.tail
    (.activates number (rig.driver number).render count ?_)
  · rw [pacing_of_caps hcaps]
    exact hactivates
  · intro cap hcap
    have hentry : (rig.drivers.map Driver.cap)[number]? = some cap := hcap
    rw [Array.getElem?_map, Option.map_eq_some_iff] at hentry
    obtain ⟨driver, hdriver, rfl⟩ := hentry
    simp [Rig.driver, hdriver, Driver.cap]

theorem sound_activateRender (number : Nat) :
    (contract start).Sound (Driver.activateRender number) := by
  intro rig hfinds
  simp only [Driver.activateRender, Driver.modify, Exec.bind_apply,
    Exec.record_apply, Exec.update_apply, Exec.look_apply, Exec.log_apply,
    Progress.andThen, Progress.respects_andThen]
  have hactivated := leaves_activated start
    (map_cap_plan rig number (Driver.clockTime (rig.driver number).timebase rig))
    number
  have hwork : (contract start).AllowsWork number :=
    .of_ignores ignoresAll_rendering number
  refine (Driver.sound_renderTimes hwork _ _
    ((contract start).keeps hfinds (hactivated _ _))).imp ?_
  intro ending later hleaves
  have hrun := (contract start).trans (hactivated _ _) hleaves
  cases ending with
  | value verdict => cases verdict <;> exact hrun
  | panicked cause => exact hrun
  | exhausted => exact hrun

theorem allowsTurns : (contract start).AllowsTurns :=
  .of_timing ignoresAll_rendering (ignores_touch (by decide) (by decide))
    sound_openTurn sound_activateRender admits_retireAbandoned

/-! ### Subscriptions -/

theorem sound_observe (routine : Nat) :
    (contract start).Sound (Pace.observe routine) := by
  intro rig _
  refine ⟨[], fun notices => .single ?_, fun _ => rfl⟩
  exact .subscribe routine

theorem sound_forget (number : Nat) :
    (contract start).Sound (Pace.forget number) := by
  intro rig _
  simp only [Pace.forget, Pace.modify, Exec.bind_apply, Exec.look_apply,
    Exec.update_apply, Progress.andThen]
  cases hfound : rig.pace.isSubscribed (.caller number) with
  | true =>
      have hobserves : .caller number ∈ rig.pacing.observers.map Observer.id := by
        obtain ⟨observer, hobserver, hid⟩ := List.any_eq_true.mp hfound
        exact List.mem_map.mpr ⟨observer, hobserver, eq_of_beq hid⟩
      exact ⟨[], fun notices => .single (.unsubscribe number hobserves), fun _ => rfl⟩
  | false =>
      have hkept : (rig.pace.unsubscribe (.caller number)).observers =
          rig.pace.observers := by
        rw [Pace.unsubscribe, List.filter_eq_self]
        intro observer hobserver
        rw [Pace.isSubscribed, List.any_eq_false] at hfound
        simpa using hfound observer hobserver
      refine ⟨[], fun notices => ?_, fun _ => rfl⟩
      unfold Rig.pacing
      rw [hkept]
      exact .refl

theorem pacing_create (rig : Rig) (journal : List Event) (emulator : Nat)
    (display : Display) (options : Driver.Options) (timebase : Timebase) :
    ({ rig with
        drivers := rig.drivers.push
          (.fresh emulator display options timebase rig.pace.rate)
        pace := rig.pace.subscribeDriver rig.drivers.size
        journal := .subscribed (.driver rig.drivers.size) :: journal } :
        Rig).pacing =
      { rig.pacing with journal }.create options.throttle := by
  have hsize : (rig.drivers.map Driver.cap).size = rig.drivers.size :=
    Array.size_map
  unfold Rig.pacing create subscribe
  rw [Array.map_push, Driver.cap_fresh, hsize]
  rfl

theorem sound_create (emulator : Nat) (display : Display)
    (options : Driver.Options) (timebase : Timebase) :
    (contract start).Sound (Driver.create emulator display options timebase) := by
  intro rig _
  simp only [Driver.create, Exec.bind_apply, Exec.look_apply, Exec.log_apply,
    Exec.update_apply, Exec.record_apply, Progress.andThen]
  refine ⟨[], fun notices => ?_, fun _ => rfl⟩
  have hlogged : Steps (rig.pacing, notices) (_, notices) :=
    steps_logged (Debouncer.idle.intervalNotice (Driver.fresh emulator display
      options timebase rig.pace.rate).render.interval).reverse
  refine hlogged.tail ?_
  rw [pacing_create]
  exact .create options.throttle

/-! ### Announcements -/

section Announce

variable {rate : Rate} {rig : Rig}

theorem pacing_tell (rig : Rig) (number : Nat) :
    ({ rig with
        drivers := rig.drivers.modify number fun driver =>
          { driver with pending := some rig.pace.rate.frameTime }
        journal := .told (.driver number) rig.pace.rate :: rig.journal } :
        Rig).pacing = rig.pacing.tell (.driver number) :=
  pacing_of_caps (Driver.map_cap_modify rig.drivers number _ fun _ => rfl) _

/-- An observer is told the rate before anything else happens to it. -/
theorem respects_tell {observer : Observer} {rest : List Observer}
    (hrate : rig.pace.rate = rate)
    (hfinds : ∃ notices,
      Steps (start, []) (rig.pacing, ⟨rate, observer :: rest⟩ :: notices)) :
    (Pace.tell rate observer rig).Respects (contract start) fun ending later =>
      ∃ left, (∀ notices,
        Steps (rig.pacing, ⟨rate, observer :: rest⟩ :: notices)
          (later.pacing, left ++ ⟨rate, rest⟩ :: notices)) ∧
        (ending.isValue = true → left = []) := by
  subst hrate
  cases observer with
  | driver number =>
      refine ⟨[], fun notices => .single ?_, fun _ => rfl⟩
      have htell : Step (rig.pacing, ⟨rig.pace.rate, .driver number :: rest⟩ ::
          notices) (_, ⟨rig.pace.rate, rest⟩ :: notices) := .tell
      rw [← pacing_tell] at htell
      exact htell
  | caller number routine =>
      obtain ⟨notices, hfinds⟩ := hfinds
      have hcalls : (contract start).Ignores .calls :=
        ignores_touch (by decide) (by decide)
      have hcalled := hcalls.sound_callQuietly routine (.rate rig.pace.rate)
        { rig with journal := .told (.caller number) rig.pace.rate :: rig.journal }
        ⟨_, hfinds.tail .tell⟩
      apply hcalled.imp
      rintro ending later ⟨left, hleft, hvalue⟩
      rw [Ending.isValue_plain] at hvalue
      exact ⟨left, fun notices => .head .tell (hleft _), hvalue⟩

theorem respects_announce (observers : List Observer)
    (hrate : rig.pace.rate = rate)
    (hfinds : ∃ notices,
      Steps (start, []) (rig.pacing, ⟨rate, observers⟩ :: notices)) :
    (Pace.announce rate observers rig).Respects (contract start)
      fun ending later => ∃ left, (∀ notices,
        Steps (rig.pacing, ⟨rate, observers⟩ :: notices)
          (later.pacing, left ++ notices)) ∧
        (ending.isValue = true → ∃ waiting, left = [⟨rate, waiting⟩] ∧
          (waiting = [] ∨ later.pace.rate ≠ rate)) := by
  -- On those who are still to be told.  What is left of an announcement that is
  -- cut short, or overtaken by another rate, stays on the stack as a notice.
  induction observers generalizing rig with
  | nil => exact ⟨[⟨rate, []⟩], fun _ => .refl, fun _ => ⟨[], rfl, Or.inl rfl⟩⟩
  | cons observer rest ih =>
      rw [Pace.announce, Exec.bind_apply, Progress.respects_andThen]
      apply (respects_tell hrate hfinds).imp
      rintro ending middle ⟨left, hleft, hvalue⟩
      have hcut : ∀ notices,
          Steps (rig.pacing, ⟨rate, observer :: rest⟩ :: notices)
            (middle.pacing, (left ++ [⟨rate, rest⟩]) ++ notices) := by
        intro notices
        rw [List.append_assoc]
        exact hleft notices
      cases ending with
      | panicked cause => exact ⟨_, hcut, Bool.noConfusion⟩
      | exhausted => exact ⟨_, hcut, Bool.noConfusion⟩
      | value done =>
          obtain rfl := hvalue rfl
          simp only [Progress.Rest, Exec.bind_apply, Exec.look_apply,
            Progress.andThen]
          split
          · rename_i hsame
            obtain ⟨notices, hfinds⟩ := hfinds
            apply (ih hsame ⟨notices, hfinds.trans (hleft notices)⟩).imp
            rintro ending later ⟨last, hlast, hover⟩
            exact ⟨last, fun notices => (hleft notices).trans (hlast notices),
              hover⟩
          · rename_i hother
            exact ⟨_, hcut, fun _ => ⟨rest, rfl, Or.inr hother⟩⟩

/-- A rate that is adopted is stored first, and announced then. -/
theorem respects_adopt (hfinds : (contract start).finds rig)
    (hsets : rig.pace.rate.Sets rate) :
    (Pace.adopt rate rig).Respects (contract start) fun ending later =>
      ∃ left, (∀ notices,
        Steps (rig.pacing.store rate, ⟨rate, rig.pace.observers⟩ :: notices)
          (later.pacing, left ++ notices)) ∧
        (ending.isValue = true → left = []) := by
  obtain ⟨notices, hfinds⟩ := hfinds
  simp only [Pace.adopt, Pace.modify, Exec.bind_apply, Exec.update_apply,
    Exec.record_apply, Exec.log_apply, Exec.look_apply, Progress.andThen,
    Progress.respects_andThen]
  have hlogged (notices : List Notice) : Steps (rig.pacing.store rate, notices)
      (_, notices) := steps_logged (Pace.rateNotice rate).reverse
  have hstored := hfinds.tail (.store hsets)
  refine (respects_announce rig.pace.observers ?_
    ⟨_, hstored.trans (hlogged _)⟩).imp ?_
  · rfl
  · rintro ending later ⟨left, hleft, hover⟩
    have hrun (notices : List Notice) := (hlogged _).trans (hleft notices)
    cases ending with
    | panicked cause => exact ⟨left, hrun, Bool.noConfusion⟩
    | exhausted => exact ⟨left, hrun, Bool.noConfusion⟩
    | value done =>
        obtain ⟨waiting, rfl, hdone⟩ := hover rfl
        exact ⟨[], fun notices => (hrun notices).tail (.announce hdone),
          fun _ => rfl⟩

theorem soundAt_adopt (hfinds : (contract start).finds rig)
    (hsets : rig.pace.rate.Sets rate) :
    (contract start).SoundAt rig (Pace.adopt rate) := by
  apply (respects_adopt hfinds hsets).imp
  rintro ending later ⟨left, hleft, hvalue⟩
  rw [← Ending.isValue_plain] at hvalue
  exact ⟨left, fun notices => .head (.store hsets) (hleft notices), hvalue⟩

end Announce

theorem allowsPacing : (contract start).AllowsPacing where
  adopts := soundAt_adopt
  observes := sound_observe
  forgets := sound_forget
  creates := sound_create

/-- Whatever user code orders, the pace goes by its protocol. -/
theorem soundOrders (start : Pacing) : (contract start).SoundOrders :=
  Contract.soundOrders ignoresAll_sides allowsPacing allowsTurns
    (.of_ignores (ignores_touch (by decide) (by decide)) ignoresAll_rendering
      allowsTurns)

end Pacing

end Cadence
