import Cadence.Duration
import Cadence.Log

/-!
Debouncing.  Activations may come as often as they like; the action behind
them runs at most once per interval.  With catch-up on, an activation that
comes after more than two intervals runs it once for each interval gone.

A debouncer is the timing alone: `plan` says how often the action runs at an
instant and moves the baseline before it does, so neither a slow nor a failing
action has any influence on later activations.
-/

namespace Cadence

/-- Outcome of an activation. -/
inductive Activation
  | fired (count : Nat)
  | skipped
deriving DecidableEq, Repr

namespace Activation

def ofCount (count : Nat) : Activation :=
  if count = 0 then .skipped else .fired count

/-- How often the action ran. -/
def count : Activation → Nat
  | .fired count => count
  | .skipped => 0

def hasFired : Activation → Bool
  | .fired _ => true
  | .skipped => false

@[simp] theorem count_ofCount (n : Nat) : (ofCount n).count = n := by
  by_cases h : n = 0
  · simp [ofCount, count, h]
  · simp [ofCount, count, h]

/-- An activation is a skip exactly when its action does not run. -/
@[simp] theorem ofCount_eq_skipped_iff {n : Nat} :
    ofCount n = .skipped ↔ n = 0 := by
  by_cases h : n = 0
  · simp [ofCount, h]
  · simp [ofCount, h]

end Activation

/-- The timing of a debouncer; an interval of zero disables it. -/
structure Debouncer where
  interval : Nat
  lastActivation : Option Nat
  catchUp : Bool
  catchUpLimit : Option Nat
deriving DecidableEq, Repr

namespace Debouncer

/-- Disabled, without catch-up. -/
def idle : Debouncer := ⟨0, none, false, none⟩

instance : Inhabited Debouncer := ⟨idle⟩

def isEnabled (debouncer : Debouncer) : Bool := debouncer.interval != 0

/-- Bounds the runs of one activation, to at least one. -/
def limitedTo (debouncer : Debouncer) (limit : Nat) : Debouncer :=
  { debouncer with catchUpLimit := some (Nat.max limit 1) }

/-- The interval for a rate: the whole milliseconds between activations, none
at all for rates that are not positive. -/
def intervalOfRate (perSecond : Binary64) : Nat :=
  if Binary64.lt 0 perSecond then
    Duration.ofMillisRounded (Binary64.ofNat 1000 / perSecond).floor
  else 0

def withInterval (debouncer : Debouncer) (interval : Nat) : Debouncer :=
  { debouncer with interval }

/-- A debouncer with an interval in milliseconds, if one is given, and a bound on
its runs, if one is given. -/
def ofSettings (millis : Option Binary64) (catchUp : Bool)
    (limit : Option Nat) : Debouncer :=
  let timed : Debouncer :=
    { idle with interval := (millis.map Duration.ofMillisRounded).getD 0, catchUp }
  (limit.map timed.limitedTo).getD timed

/-- Forgets the last activation, so that the next one fires. -/
def reset (debouncer : Debouncer) : Debouncer :=
  { debouncer with lastActivation := none }

/-- Counts of runs are machine words. -/
def countLimit : Nat := UInt64.size

/-- Whether so much time has gone that missed runs are made up for. -/
def isBehind (debouncer : Debouncer) (elapsed : Nat) : Bool :=
  debouncer.catchUp && debouncer.interval * 2 < elapsed

/-- How often the action runs when `elapsed`, more than an interval, has gone
since the last activation. -/
def runsAfter (debouncer : Debouncer) (elapsed : Nat) : Nat :=
  if debouncer.isBehind elapsed then
    let behind := elapsed / debouncer.interval % countLimit
    match debouncer.catchUpLimit with
    | none => behind
    | some limit => min behind limit
  else 1

/-- How often the action runs for an activation at `now`, and the debouncer
with its baseline moved forward if it does. -/
def plan (debouncer : Debouncer) (now : Nat) : Nat × Debouncer :=
  if debouncer.interval = 0 then (1, debouncer)
  else
    match debouncer.lastActivation with
    | none => (1, { debouncer with lastActivation := some now })
    | some last =>
        let elapsed := Duration.since now last
        if elapsed ≤ debouncer.interval then (0, debouncer)
        else
          (debouncer.runsAfter elapsed,
            { debouncer with lastActivation := some now })

/-- A disabled debouncer always runs its action and remembers nothing. -/
theorem plan_of_disabled {debouncer : Debouncer} (h : debouncer.interval = 0)
    (now : Nat) : debouncer.plan now = (1, debouncer) := by
  simp [plan, h]

/-- The first activation runs the action. -/
theorem plan_of_fresh {debouncer : Debouncer} (h : debouncer.interval ≠ 0)
    (hlast : debouncer.lastActivation = none) (now : Nat) :
    debouncer.plan now = (1, { debouncer with lastActivation := some now }) := by
  simp [plan, h, hlast]

/-- Up to an interval after the last activation, nothing happens. -/
theorem plan_of_early {debouncer : Debouncer} {last now : Nat}
    (h : debouncer.interval ≠ 0) (hlast : debouncer.lastActivation = some last)
    (hearly : Duration.since now last ≤ debouncer.interval) :
    debouncer.plan now = (0, debouncer) := by
  simp [plan, h, hlast, hearly]

/-- Later the action runs, and the baseline moves to now. -/
theorem plan_of_late {debouncer : Debouncer} {last now : Nat}
    (h : debouncer.interval ≠ 0) (hlast : debouncer.lastActivation = some last)
    (hlate : debouncer.interval < Duration.since now last) :
    debouncer.plan now =
      (debouncer.runsAfter (Duration.since now last),
        { debouncer with lastActivation := some now }) := by
  simp [plan, h, hlast, Nat.not_le.2 hlate]

/-- Activations do not touch the settings. -/
theorem plan_settings (debouncer : Debouncer) (now : Nat) :
    (debouncer.plan now).2 =
      { debouncer with lastActivation := (debouncer.plan now).2.lastActivation } := by
  unfold plan
  split
  · rfl
  · split
    · rfl
    · dsimp only
      split <;> rfl

@[simp] theorem interval_plan (debouncer : Debouncer) (now : Nat) :
    (debouncer.plan now).2.interval = debouncer.interval := by
  rw [plan_settings]

/-- Without catch-up an action runs once. -/
theorem runsAfter_of_not_catchUp {debouncer : Debouncer}
    (h : debouncer.catchUp = false) (elapsed : Nat) :
    debouncer.runsAfter elapsed = 1 := by
  simp [runsAfter, isBehind, h]

private def line (level : Log.Level) (message : String) : Log.Line :=
  ⟨level, Log.targetOf "debounce", message⟩

def planNotice (debouncer : Debouncer) (now : Nat) : List Log.Line :=
  match debouncer.lastActivation with
  | none => []
  | some last =>
      let elapsed := Duration.since now last
      if debouncer.interval ≠ 0 ∧ debouncer.isBehind elapsed then
        [line .debug ("catching up " ++ Nat.repr (debouncer.runsAfter elapsed) ++
          " activations after " ++ Duration.text elapsed)]
      else []

def intervalNotice (debouncer : Debouncer) (interval : Nat) : List Log.Line :=
  if interval = debouncer.interval then []
  else
    [line .trace ("debounce interval " ++ Duration.text debouncer.interval ++ " -> " ++
      Duration.text interval)]

end Debouncer

end Cadence
