import Cadence.Proofs.DrawnFrames
import Cadence.Proofs.DriverFrame
import Cadence.Proofs.Handovers
import Cadence.Proofs.KeptFacts
import Cadence.Proofs.Refusals
import Cadence.Proofs.ScrollingCard
import Cadence.Proofs.Seclusion

/-!
Obliging code.  If the code behind an emulator and a display answers whatever it is
asked, and touches neither the clock nor the pace, then cycles and renders go well, and
all that turns are timed by stays as it is.
-/

namespace Cadence

open Exec

/-- A computation that starts well ends with a value, and as `post` says. -/
def Exec.Attains {α : Type} (play : Play) (pre : Rig → Prop) (x : Exec α)
    (post : α → Rig → Prop) : Prop :=
  ∀ rig, pre rig → ∃ a later, (x rig).run play = (.value a, later) ∧ post a later

section Attains

variable {α β : Type} {play : Play} {pre : Rig → Prop}

theorem Exec.Attains.bind {first : Exec α} {next : α → Exec β} {mid : α → Rig → Prop}
    {post : β → Rig → Prop} (hfirst : first.Attains play pre mid)
    (hnext : ∀ a, (next a).Attains play (mid a) post) :
    (first >>= next).Attains play pre post := by
  intro rig hrig
  obtain ⟨a, middle, hrun, hmiddle⟩ := hfirst rig hrig
  obtain ⟨b, later, hrest, hlater⟩ := hnext a middle hmiddle
  refine ⟨b, later, ?_, hlater⟩
  rw [bind_apply, Progress.run_andThen, hrun]
  exact hrest

end Attains

/-! ### What a driver works with -/

/-- What stays of a terminal whatever is drawn on it. -/
def Terminal.bare (screen : Terminal) : Terminal :=
  .blank screen.resolution screen.screen.sheet.columns screen.screen.sheet.rows

namespace Machine

/-- What stays of a machine however many cycles it has run. -/
def bare : Machine → Machine
  | .card _ => .card default
  | .scripted picture _ onAdvance onRender => .scripted picture 0 onAdvance onRender

/-- The routines behind a machine. -/
def routines : Machine → List Nat
  | .card _ => []
  | .scripted _ _ onAdvance onRender => [onAdvance, onRender]

/-- All frames of a machine have some size. -/
def Fills (size : Nat) : Machine → Prop
  | .card _ => size = TestCard.frameBytes
  | .scripted picture _ _ _ => ∀ advances, (picture advances).size = size

end Machine

/-- What stays of an emulator however many cycles it has run. -/
def Emulator.bare (emulator : Emulator) : Emulator :=
  { emulator with machine := emulator.machine.bare }

namespace Display

/-- What stays of a display whatever it has been given. -/
def bare : Display → Display
  | .counting _ _ => .counting 0 ""
  | .scripted size onStatus onDraw => .scripted size onStatus onDraw
  | .terminal screen => .terminal screen.bare

/-- The routines behind a display. -/
def routines : Display → List Nat
  | .scripted _ onStatus onDraw => onStatus.toList ++ [onDraw]
  | _ => []

/-- A display takes every frame of its size. -/
def IsWhole : Display → Prop
  | .terminal screen => screen.resolution.IsWhole ∧ screen.Fits Canvas.painter
  | _ => True

end Display

/-! ### Obliging code -/

/-- Whether an observer is a caller or a given driver. -/
def Observer.concerns (number : Nat) : Observer → Bool
  | .caller _ _ => true
  | .driver other => other == number

/-- The pace, but for the subscriptions of other drivers. -/
def Pace.seenBy (number : Nat) (pace : Pace) : Pace :=
  { pace with observers := pace.observers.filter (Observer.concerns number) }

/-- The end of another driver's subscription is not seen. -/
theorem Pace.seenBy_unsubscribe {number other : Nat} (h : other ≠ number) (pace : Pace) :
    (pace.unsubscribe (.driver other)).seenBy number = pace.seenBy number := by
  have hkept (observer : Observer) (hconcerns : observer.concerns number = true) :
      (observer.id != .driver other) = true := by
    cases observer with
    | caller => rfl
    | driver own =>
        rw [Observer.concerns, beq_iff_eq] at hconcerns
        subst hconcerns
        simp [Observer.id, Ne.symm h]
  simp only [seenBy, unsubscribe, List.filter_filter]
  congr 1
  refine List.filter_congr fun observer _ => ?_
  cases hconcerns : observer.concerns number with
  | false => rfl
  | true => simp [hkept observer hconcerns]

namespace Rig

/-- A driver is kept: it has a handle or a task. -/
def Keeps (rig : Rig) (number : Nat) : Prop :=
  (rig.driver number).handle = true ∨ rig.refresher.owesDriver number = true

/-- A driver that is kept is not abandoned. -/
theorem Keeps.isAbandoned {rig : Rig} {number : Nat} (h : rig.Keeps number) :
    rig.isAbandoned number = false := by
  rcases h with hhandle | howed
  · simp [Rig.isAbandoned, isReferenced, hhandle]
  · simp [Rig.isAbandoned, isReferenced, howed]

/-- The clock and the pace are as they were, but for the subscriptions of other drivers,
and nobody has been told of a rate who turns by it.  The driver is still busy, with the
emulator it had, and it is still kept. -/
structure Undisturbed (listeners : List Nat) (number : Nat) (rig later : Rig) : Prop where
  now : later.now = rig.now
  pace : later.pace.seenBy number = rig.pace.seenBy number
  pending : (later.driver number).pending = (rig.driver number).pending
  listeners : ∀ routine ∈ listeners, later.routines[routine]? = rig.routines[routine]?
  core : (later.driver number).core = (rig.driver number).core
  busy : (later.driver number).busy = (rig.driver number).busy
  emulator : (later.emulator (rig.driver number).emulator).bare =
    (rig.emulator (rig.driver number).emulator).bare
  kept : rig.Keeps number → later.Keeps number

end Rig

/-- A routine answers, whenever it is called in the middle of a turn or step of a driver,
and disturbs nobody. -/
def Course.Obliges (depth : Nat) (listeners : List Nat) (number : Nat) (course : Course) :
    Prop :=
  ∀ call occasion rig, (rig.driver number).busy = true →
    ∃ answer later,
      (course call occasion).playWithin depth rig = (.value (.ok answer), later) ∧
        rig.Undisturbed listeners number later

/-- What the turns of a driver are timed by. -/
structure Schedule where
  now : Nat
  pace : Pace
  render : Debouncer
  throttle : Bool
  timebase : Timebase
  pending : Option Binary64
  /-- What the routines do that listen to the pace, and how often they have done it. -/
  listener : Nat → Option Routine

/-- A routine that listens is called once more. -/
def Schedule.called (schedule : Schedule) (routine : Nat) : Schedule :=
  { schedule with
    listener := fun other =>
      if routine = other then
        (schedule.listener other).map fun entry => { entry with calls := entry.calls + 1 }
      else schedule.listener other }

/-- What a driver works with, as far as it stays the same. -/
structure Equipment where
  emulator : Nat
  machine : Machine
  display : Display

/-- The routines behind an emulator and a display. -/
def Equipment.routines (equipment : Equipment) : List Nat :=
  equipment.machine.routines ++ equipment.display.routines

namespace Rig

def schedule (listeners : List Nat) (number : Nat) (rig : Rig) : Schedule where
  now := rig.now
  pace := rig.pace.seenBy number
  render := (rig.driver number).render
  throttle := (rig.driver number).throttle
  timebase := (rig.driver number).timebase
  pending := (rig.driver number).pending
  listener routine := if routine ∈ listeners then rig.routines[routine]? else none

def equipment (number : Nat) (rig : Rig) : Equipment where
  emulator := (rig.driver number).emulator
  machine := (rig.emulator (rig.driver number).emulator).machine.bare
  display := (rig.driver number).display.bare

end Rig

/-- An emulator and a display that fit each other, and the code behind them obliges. -/
structure Equipment.Obliges (depth : Nat) (listeners : List Nat) (number : Nat)
    (equipment : Equipment) (rig : Rig) : Prop where
  fills : equipment.machine.Fills equipment.display.frameBytes
  whole : equipment.display.IsWhole
  aside : ∀ routine ∈ equipment.routines, routine ∉ listeners
  obliges : ∀ routine ∈ equipment.routines, ∃ course, rig.Runs routine course ∧
    course.Obliges depth listeners number

/-- It keeps obliging as long as its routines stay what they are. -/
theorem Equipment.Obliges.mono {depth : Nat} {listeners : List Nat} {number : Nat}
    {equipment : Equipment} {rig later : Rig}
    (h : equipment.Obliges depth listeners number rig)
    (hruns : ∀ routine course, rig.Runs routine course → later.Runs routine course) :
    equipment.Obliges depth listeners number later where
  fills := h.fills
  whole := h.whole
  aside := h.aside
  obliges routine hroutine := by
    obtain ⟨course, hcourse, hobliges⟩ := h.obliges routine hroutine
    exact ⟨course, hruns routine course hcourse, hobliges⟩

namespace Driver

/-- A driver at a point of its turns: what they are timed by, whether it is busy and its
emulator in use, and that it can rely on what it works with. -/
structure Steady (depth : Nat) (listeners : List Nat) (number : Nat) (equipment : Equipment)
    (schedule : Schedule) (busy inUse : Bool) (rig : Rig) : Prop where
  size : number < rig.drivers.size
  busy : (rig.driver number).busy = busy
  inUse : (rig.emulator equipment.emulator).inUse = inUse
  held : (rig.emulator equipment.emulator).held = false
  equipped : rig.equipment number = equipment
  obliges : equipment.Obliges depth listeners number rig
  timed : rig.schedule listeners number = schedule
  kept : rig.Keeps number

/-- What neither turns nor steps change of a driver. -/
def post (driver : Driver) : Nat × Display × Bool :=
  (driver.emulator, driver.display.bare, driver.handle)

/-- What the turns of a driver are timed by, of what is its own. -/
def timing (driver : Driver) : Debouncer × Bool × Timebase × Option Binary64 :=
  (driver.render, driver.throttle, driver.timebase, driver.pending)

variable {depth : Nat} {listeners : List Nat} {number : Nat} {equipment : Equipment}
  {schedule : Schedule} {busy inUse : Bool} {rig later : Rig}

namespace Steady

section Changes

variable (h : Steady depth listeners number equipment schedule busy inUse rig)

include h

theorem emulator_eq : (rig.driver number).emulator = equipment.emulator :=
  congrArg Equipment.emulator h.equipped

/-- An emulator that nobody holds is there. -/
theorem emulator_modify (change : Emulator → Emulator) :
    ({ rig with
      emulators := rig.emulators.modify equipment.emulator change } : Rig).emulator
        equipment.emulator = change (rig.emulator equipment.emulator) := by
  have hsize : equipment.emulator < rig.emulators.size := by
    by_contra hsize
    have hheld := h.held
    rw [Rig.emulator, Array.getElem?_eq_none (Nat.le_of_not_lt hsize)] at hheld
    cases hheld
  simp [Rig.emulator, Array.getElem?_modify, Array.getElem?_eq_getElem hsize]

theorem note (journal : List Event) :
    Steady depth listeners number equipment schedule busy inUse { rig with journal } :=
  ⟨h.size, h.busy, h.inUse, h.held, h.equipped,
    h.obliges.mono fun _ _ => id, h.timed, h.kept⟩

/-- The emulator changes in no more than how many cycles it has run, and in its mark. -/
theorem cycle {change : Emulator → Emulator} {used : Bool}
    (hinUse : ∀ emulator, emulator.inUse = inUse → (change emulator).inUse = used)
    (hheld : ∀ emulator, (change emulator).held = emulator.held)
    (hbare : ∀ emulator, (change emulator).machine.bare = emulator.machine.bare) :
    Steady depth listeners number equipment schedule busy used
      { rig with emulators := rig.emulators.modify equipment.emulator change } := by
  have hmodified := h.emulator_modify change
  refine ⟨h.size, h.busy, ?_, ?_, ?_,
    h.obliges.mono fun _ _ => id, h.timed, h.kept⟩
  · exact (congrArg Emulator.inUse hmodified).trans (hinUse _ h.inUse)
  · exact (congrArg Emulator.held hmodified).trans ((hheld _).trans h.held)
  · refine Eq.trans ?_ h.equipped
    refine congrArg (Equipment.mk _ · _) ?_
    change ((({ rig with
      emulators := rig.emulators.modify equipment.emulator change } : Rig).emulator
        (rig.driver number).emulator).machine.bare) = _
    rw [h.emulator_eq, hmodified]
    exact hbare _

theorem marked (used : Bool) :
    Steady depth listeners number equipment schedule busy used
      (Emulator.mark equipment.emulator used rig) :=
  h.cycle (fun _ _ => rfl) (fun _ => rfl) fun _ => rfl

/-- The driver changes in no more than what its display shows, its statistics, its timing
and its mark. -/
theorem modify {change : Driver → Driver} {next : Schedule} {marked : Bool}
    (hpost : (change (rig.driver number)).post = (rig.driver number).post)
    (hbusy : (change (rig.driver number)).busy = marked)
    (hnext : ({ rig with drivers := rig.drivers.modify number change } : Rig).schedule
      listeners number = next) :
    Steady depth listeners number equipment next marked inUse
      { rig with drivers := rig.drivers.modify number change } := by
  have hmodified : ({ rig with drivers := rig.drivers.modify number change } :
      Rig).driver number = change (rig.driver number) := driver_modify h.size change
  refine ⟨?_, (congrArg Driver.busy hmodified).trans hbusy, h.inUse, h.held, ?_,
    h.obliges.mono fun _ _ => id, hnext, h.kept.imp_left fun hhandle => ?_⟩
  · rw [Array.size_modify]
    exact h.size
  · have hemulator : (change (rig.driver number)).emulator = (rig.driver number).emulator :=
      congrArg Prod.fst hpost
    rw [← h.equipped]
    simp only [Rig.equipment, hmodified, hemulator]
    exact congrArg (Equipment.mk _ _) (congrArg (·.2.1) hpost)
  · rw [hmodified]
    exact (congrArg (·.2.2) hpost).trans hhandle

/-- A routine may be called. -/
theorem called (routine : Nat) :
    Steady depth listeners number equipment (schedule.called routine) busy inUse { rig with
      routines := rig.routines.modify routine fun entry =>
        { entry with calls := entry.calls + 1 } } := by
  refine ⟨h.size, h.busy, h.inUse, h.held, h.equipped,
    h.obliges.mono fun other course => (Rig.lasting_runs other course).touch (.called routine),
    ?_, h.kept⟩
  rw [← h.timed]
  refine congrArg (Schedule.mk _ _ _ _ _ _) (funext fun other => ?_)
  simp only [Rig.schedule, Array.getElem?_modify]
  by_cases hother : routine = other
  · simp only [if_pos hother]
    split <;> rfl
  · simp only [if_neg hother]

/-- Another driver does as it likes. -/
theorem other {other : Nat} (hother : other ≠ number) (change : Driver → Driver) :
    Steady depth listeners number equipment schedule busy inUse
      { rig with drivers := rig.drivers.modify other change } := by
  have hdriver : ({ rig with drivers := rig.drivers.modify other change } : Rig).driver
      number = rig.driver number := by
    simp [Rig.driver, Array.getElem?_modify, hother]
  refine ⟨?_, ?_, h.inUse, h.held, ?_, h.obliges.mono fun _ _ => id, ?_, ?_⟩
  · exact (Array.size_modify ..).symm ▸ h.size
  · rw [hdriver]
    exact h.busy
  · rw [Rig.equipment, hdriver]
    exact h.equipped
  · rw [Rig.schedule, hdriver]
    exact h.timed
  · rw [Rig.Keeps, hdriver]
    exact h.kept

/-- What others do about the pace for themselves is not seen. -/
theorem unseen {pace : Pace} (hseen : pace.seenBy number = rig.pace.seenBy number) :
    Steady depth listeners number equipment schedule busy inUse { rig with pace } := by
  refine ⟨h.size, h.busy, h.inUse, h.held, h.equipped, h.obliges.mono fun _ _ => id, ?_,
    h.kept⟩
  rw [← h.timed, Rig.schedule, hseen]
  rfl

/-- Others may be let go. -/
theorem retireAbandoned :
    Steady depth listeners number equipment schedule busy inUse rig.retireAbandoned := by
  refine Rig.retireAbandoned_induct (Steady depth listeners number equipment schedule busy
    inUse) (fun other rig habandoned h => ?_) h
  have hne : other ≠ number := by
    rintro rfl
    rw [h.kept.isAbandoned] at habandoned
    cases habandoned
  have hunseen := h.unseen (Pace.seenBy_unsubscribe hne rig.pace)
  have hended := hunseen.other hne ({ · with alive := false })
  exact hended.note (.unsubscribed (.driver other) :: rig.journal)

end Changes

end Steady

/-! ### Calls that go well -/

/-- A computation comes to its end, with a value that is good, and nothing changes that
turns are timed by. -/
def GoesWell {α : Type} (depth : Nat) (listeners : List Nat) (number : Nat)
    (equipment : Equipment) (inUse : Bool) (x : Exec α) (good : α → Prop) : Prop :=
  ∀ schedule, x.Attains (Script.playWithin depth)
    (Steady depth listeners number equipment schedule true inUse)
    fun a later => good a ∧
      Steady depth listeners number equipment schedule true inUse later

section GoesWell

variable {α β : Type} {good : α → Prop} {fine : β → Prop}

theorem GoesWell.bind {first : Exec α} {next : α → Exec β}
    (hfirst : GoesWell depth listeners number equipment inUse first good)
    (hnext : ∀ a, good a →
      GoesWell depth listeners number equipment inUse (next a) fine) :
    GoesWell depth listeners number equipment inUse (first >>= next) fine :=
  fun schedule => (hfirst schedule).bind fun a rig hrig => hnext a hrig.1 schedule rig hrig.2

end GoesWell

end Driver

end Cadence
