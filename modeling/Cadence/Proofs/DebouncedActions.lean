import Cadence.Proofs.ActionBatches
import Cadence.Proofs.FiringRate

/-!
The actions of a debouncer.  However user code uses a debouncer, and whatever its
action does, each activation calls the action as often as is due at that time, and
never more often than the interval allows.
-/

namespace Cadence

open Exec Contract

namespace Debounced

/-- How a debouncer is used from some state of its rig on, with its activations,
the latest first.  Meanwhile anything may happen that leaves it as it is. -/
inductive Usage (number : Nat) (start : Rig) : List Activated → Rig → Prop
  | start : Usage number start [] start
  | meanwhile {activations rig later} (h : Usage number start activations rig)
      (hstands : ∀ entry action, Stands number entry action rig →
        Stands number entry action later) :
      Usage number start activations later
  | activates {activations rig} (depth : Nat)
      (h : Usage number start activations rig) :
      Usage number start
        (⟨rig.now, (Order.debounce (.activate number)).handovers (depth + 1) rig,
          ((Order.debounce (.activate number)).perform (depth + 1) rig).1⟩ ::
            activations)
        ((Order.debounce (.activate number)).perform (depth + 1) rig).2

/-- User code may do whatever is not directed to the debouncer. -/
theorem Usage.passes {number depth : Nat} {start rig moment : Rig}
    {entry : Debounced} {action : Course} {script : Script}
    {activations : List Activated} (h : Usage number start activations rig)
    (hstands : Stands number entry action rig)
    (hkeeps : script.KeepsTo (Spares number entry))
    (hroutines : rig.KeepsTo (Spares number entry))
    (hpasses : script.Passes depth rig moment) :
    Usage number start activations moment := by
  refine h.meanwhile fun other course hother => ?_
  obtain rfl : entry = other :=
    Option.some.inj (hstands.held.symm.trans hother.held)
  obtain rfl : action = course :=
    Option.some.inj (hstands.action.symm.trans hother.action)
  exact ((soundOrders number entry action).finds_moment hpasses hkeeps
    ⟨hstands, hroutines⟩).1

/-- An activation whose action does not fail. -/
theorem activate_of_fine {number : Nat} {action : Course} {rig : Rig} {entry : Debounced}
    {depth : Nat} (hstands : Stands number entry action rig) (hfree : entry.busy = false)
    (hfine : ∀ call ∈
      (Order.debounce (.activate number)).handovers (depth + 1) rig,
        call.isFine entry.fallible = true) :
    ∃ later,
      (Order.debounce (.activate number)).perform (depth + 1) rig =
        (.value (some (.ok (.ofCount (entry.timing.plan rig.now).1))), later) ∧
      Stands number { entry with timing := (entry.timing.plan rig.now).2 } action
        later ∧
      ((Order.debounce (.activate number)).handovers (depth + 1) rig).length =
        (entry.timing.plan rig.now).1 ∧
      ∀ call ∈ (Order.debounce (.activate number)).handovers (depth + 1) rig,
        call.IsCallOf action := by
  obtain ⟨hlater, ending, hbatch, hanswer⟩ := activate_batch depth hstands hfree
  obtain ⟨hlength, rfl⟩ := hbatch.whole hfine
  exact ⟨_, Prod.ext hanswer rfl, hlater, hlength, hbatch.mine⟩

/-- What is promised of an activation, after a history of others. -/
structure KeepsRate (interval : Nat) (catchUp : Bool) (limit : Option Nat)
    (action : Course) (activated : Activated) (older : List Activated) : Prop where
  /-- The answer is the number of calls, and all of them are calls of the action. -/
  answers : activated.answer =
    .value (some (.ok (.ofCount activated.calls.length)))
  calls : ∀ call ∈ activated.calls, call.IsCallOf action
  /-- An activation is skipped exactly if something has fired before, an interval
  ago at most. -/
  skips : activated.calls = [] ↔
    ∃ last ∈ Debouncer.lastFiring older, activated.time ≤ last + interval
  /-- Two firings in succession are more than an interval apart. -/
  spaced : activated.calls ≠ [] →
    ∀ last ∈ Debouncer.lastFiring older, last + interval < activated.time
  first : Debouncer.lastFiring older = none → activated.calls.length = 1
  /-- Every other firing makes up for the intervals since the last one, and neither
  twice the interval nor their number is too large for the machine. -/
  runs : activated.calls ≠ [] → ∀ last ∈ Debouncer.lastFiring older,
    activated.calls.length =
        Debouncer.exactRuns interval catchUp limit (activated.time - last) ∧
      interval * 2 < UInt64.size * Duration.perSecond ∧
      (activated.time - last) / interval < UInt64.size
  /-- Never do calls outnumber the intervals since the first activation by more than
  one. -/
  total : ∀ first ∈ (activated :: older).getLast?,
    Debouncer.totalRuns (activated :: older) ≤
      1 + (activated.time - first.time) / interval

section Course

variable {number interval routine : Nat} {catchUp fallible : Bool}
  {limit : Option Nat} {action : Course} {start rig : Rig}
  {activations : List Activated}

/-- Where a debouncer stands after a history of activations. -/
structure Tracks (number interval routine : Nat) (catchUp fallible : Bool)
    (limit : Option Nat) (action : Course) (activations : List Activated)
    (rig : Rig) : Prop where
  stands : Stands number
    ⟨(Debouncer.ofInterval interval catchUp limit).firedAt
      (Debouncer.lastFiring activations), fallible, routine, false⟩ action rig
  regular : Debouncer.Regular interval catchUp limit activations
  answers : ∀ activated ∈ activations,
    activated.answer = .value (some (.ok (.ofCount activated.calls.length))) ∧
      ∀ call ∈ activated.calls, call.IsCallOf action

theorem Usage.tracks (h : Usage number start activations rig)
    (hpositive : 0 < interval)
    (hstart : Stands number
      ⟨.ofInterval interval catchUp limit, fallible, routine, false⟩ action start)
    (hfine : ∀ activated ∈ activations, ∀ call ∈ activated.calls,
      call.isFine fallible = true)
    (htimely : Debouncer.Timely activations) :
    Tracks number interval routine catchUp fallible limit action activations
      rig := by
  induction h with
  | start =>
      refine ⟨?_, trivial, by simp⟩
      rw [Debouncer.ofInterval_eq] at hstart ⊢
      exact hstart
  | meanwhile _ hstands ih =>
      have htracks := ih hfine htimely
      exact ⟨hstands _ _ htracks.stands, htracks.regular, htracks.answers⟩
  | activates depth _ ih =>
      have htracks := ih (fun activated hactivated =>
        hfine activated (List.mem_cons_of_mem _ hactivated)) htimely.2.2
      obtain ⟨later, hperform, hstands, hlength, hmine⟩ :=
        activate_of_fine htracks.stands rfl (hfine _ List.mem_cons_self)
      have hfollows := Debouncer.Follows.of_plan hpositive hlength htimely.2.1
      have hplan := Debouncer.firedAt_of_plan hpositive hlength htimely.2.1
      refine ⟨?_, ⟨hfollows, htracks.regular⟩, ?_⟩
      · rw [← hplan, hperform]
        exact hstands
      · intro activated hactivated
        rcases List.mem_cons.mp hactivated with rfl | holder
        · refine ⟨?_, hmine⟩
          rw [hperform, hlength]
        · exact htracks.answers activated holder

/-- However a debouncer is used, an activation fires exactly when more than an
interval has gone since the last firing, calls its action as often as is due, and
never takes the number of calls above the rate. -/
theorem keepsRate (hpositive : 0 < interval)
    (hstart : Stands number
      ⟨.ofInterval interval catchUp limit, fallible, routine, false⟩ action start)
    (husage : Usage number start activations rig)
    (hfine : ∀ activated ∈ activations, ∀ call ∈ activated.calls,
      call.isFine fallible = true)
    (htimely : Debouncer.Timely activations) {newer older : List Activated}
    {activated : Activated} (hsplit : activations = newer ++ activated :: older) :
    KeepsRate interval catchUp limit action activated older := by
  have htracks := husage.tracks hpositive hstart hfine htimely
  rw [hsplit] at htimely
  have hregular := htracks.regular
  rw [hsplit] at hregular
  have hmine := htracks.answers activated
    (hsplit ▸ List.mem_append_right _ List.mem_cons_self)
  have hfollows := hregular.suffix.1
  constructor
  · exact hmine.1
  · exact hmine.2
  · exact hfollows.skips
  · exact fun hfires last hlast => hfollows.spaced hfires hlast
  · exact hfollows.first
  · intro hfires last hlast
    have hspaced := hfollows.spaced hfires hlast
    have hspan := htimely.suffix.2.1 last hlast
    refine ⟨hfollows.runs last hlast hspaced, ?_, ?_⟩
    · simp only [UInt64.size, Duration.perSecond] at hspan ⊢
      omega
    · exact Nat.lt_of_le_of_lt (Nat.div_le_self _ _) hspan
  · exact fun first hfirst =>
      Debouncer.totalRuns_le hpositive hregular.suffix htimely.suffix hfirst

end Course

/-- A debouncer with catch-up, an interval of ten, and an action that does
nothing. -/
def catchingUp : Script :=
  .routine (fun _ _ => .done .null) fun routine =>
    .order (.debounce (.newDebouncer (.ofInterval 10 true none) false routine))
      fun _ => .done .null

def catchingUpRig : Rig :=
  (catchingUp.playWithin 1 (Rig.fresh .initial Duration.perSecond)).2

theorem Usage.waits {number : Nat} {start rig : Rig} {activations : List Activated}
    (h : Usage number start activations rig) (now : Nat) :
    Usage number start activations { rig with now } :=
  h.meanwhile fun _ _ hstands => hstands.of_eq rfl rfl

/-- After three intervals and a half the action runs three times, and soon after
that it is skipped. -/
theorem keepsRate_catchingUp : ∃ activations rig,
    Usage 0 catchingUpRig activations rig ∧
      activations.map (fun activated => (activated.time, activated.calls.length)) =
        [(40, 0), (35, 3), (0, 1)] ∧
      ∀ newer activated older, activations = newer ++ activated :: older →
        KeepsRate 10 true none (fun _ _ => .done .null) activated older := by
  have hunused : Usage 0 catchingUpRig [] catchingUpRig := .start
  have husage := ((((hunused.activates 0).waits 35).activates 0).waits 40).activates 0
  have hstart : Stands 0 ⟨.ofInterval 10 true none, false, 0, false⟩
      (fun _ _ => .done .null) catchingUpRig := by
    refine ⟨rfl, ?_⟩
    rw [Rig.courses, Array.getElem?_map]
    rfl
  refine ⟨_, _, husage, ?_, fun newer activated older hsplit => ?_⟩
  · decide +kernel
  · refine keepsRate (by decide) hstart husage ?_ ?_ hsplit
    · decide +kernel
    · decide +kernel

end Debounced

end Cadence
