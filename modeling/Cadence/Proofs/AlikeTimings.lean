import Cadence.Proofs.DebouncedActions

/-!
What decides when a debouncer fires.  Debouncers that are told the same at the same
times move their baselines alike, whatever else they are set to and whatever becomes of
their calls.  They also skip the same activations, but for one thing: counts of missed
runs are cut down to machine words, and a count that is cut down to nothing is a skip.
-/

namespace Cadence

namespace Debouncer

/-- Whether the last firing, if any, is more than an interval ago; without an interval
everything is due. -/
def IsDue (interval : Nat) (last : Option Nat) (now : Nat) : Prop :=
  interval = 0 ∨ ∀ time ∈ last, time + interval < now

/-- Whether so many intervals have gone since the last firing that nothing is left of
their number in a machine word. -/
def Overruns (interval : Nat) (last : Option Nat) (now : Nat) : Prop :=
  ∃ time ∈ last, countLimit ≤ (now - time) / interval ∧
    (now - time) / interval % countLimit = 0

section Plan

variable {interval now : Nat} {catchUp : Bool} {limit last : Option Nat}

theorem interval_firedAt :
    ((ofInterval interval catchUp limit).firedAt last).interval = interval := by
  rw [ofInterval_eq, firedAt]

/-- A count is cut down to nothing when its activation overruns, and only then. -/
theorem runsAfter_eq_zero_iff (hpositive : 0 < interval) {elapsed : Nat} :
    ((ofInterval interval catchUp limit).firedAt last).runsAfter elapsed = 0 ↔
      catchUp = true ∧ countLimit ≤ elapsed / interval ∧
        elapsed / interval % countLimit = 0 := by
  have hbehind : countLimit ≤ elapsed / interval → interval * 2 < elapsed := by
    intro hmany
    have hspan := (Nat.le_div_iff_mul_le hpositive).mp hmany
    simp only [countLimit, UInt64.size] at hspan
    omega
  have hcut : interval * 2 < elapsed → elapsed / interval % countLimit = 0 →
      countLimit ≤ elapsed / interval := by
    intro hlate hnone
    by_contra hfew
    have htwo := (Nat.le_div_iff_mul_le (y := elapsed) hpositive).mpr
      (Nat.mul_comm interval 2 ▸ Nat.le_of_lt hlate)
    rw [Nat.mod_eq_of_lt (Nat.lt_of_not_le hfew)] at hnone
    omega
  have hlimited (limit : Nat) :
      min (elapsed / interval % countLimit) (max limit 1) = 0 ↔
        elapsed / interval % countLimit = 0 := by
    omega
  simp only [ofInterval_eq, firedAt, runsAfter, isBehind, Bool.and_eq_true,
    decide_eq_true_eq]
  split
  · rename_i hlate
    have hcounts : elapsed / interval % countLimit = 0 ↔
        catchUp = true ∧ countLimit ≤ elapsed / interval ∧
          elapsed / interval % countLimit = 0 :=
      ⟨fun hnone => ⟨hlate.1, hcut hlate.2 hnone, hnone⟩, fun h => h.2.2⟩
    cases limit with
    | none => exact hcounts
    | some limit => exact (hlimited limit).trans hcounts
  · rename_i hearly
    exact iff_of_false Nat.one_ne_zero fun h => hearly ⟨h.1, hbehind h.2.1⟩

/-- The plans of a debouncer in all its settings: disabled, first firing, skip, and
later firing. -/
theorem plan_settled (interval : Nat) (last : Option Nat) (now : Nat) :
    ∃ next, ∀ catchUp limit,
      (((ofInterval interval catchUp limit).firedAt last).plan now).2 =
          (ofInterval interval catchUp limit).firedAt next ∧
        ((((ofInterval interval catchUp limit).firedAt last).plan now).1 = 0 ↔
          ¬ IsDue interval last now ∨ catchUp = true ∧ Overruns interval last now) := by
  rcases Nat.eq_zero_or_pos interval with rfl | hpositive
  · refine ⟨last, fun catchUp limit => ?_⟩
    rw [plan_of_disabled interval_firedAt]
    refine ⟨rfl, iff_of_false Nat.one_ne_zero ?_⟩
    rintro (hearly | ⟨-, time, -, hmany, -⟩)
    · exact hearly (.inl rfl)
    · rw [Nat.div_zero] at hmany
      exact absurd hmany (by decide)
  have henabled (catchUp : Bool) (limit : Option Nat) :
      ((ofInterval interval catchUp limit).firedAt last).interval ≠ 0 := by
    rw [interval_firedAt]
    exact Nat.ne_of_gt hpositive
  cases last with
  | none =>
      refine ⟨some now, fun catchUp limit => ?_⟩
      rw [plan_of_fresh (henabled catchUp limit) rfl]
      refine ⟨rfl, iff_of_false Nat.one_ne_zero ?_⟩
      rintro (hearly | ⟨-, time, htime, -⟩)
      · exact hearly (.inr (by simp))
      · cases htime
  | some time =>
      by_cases hearly : Duration.since now time ≤ interval
      · refine ⟨some time, fun catchUp limit => ?_⟩
        rw [plan_of_early (henabled catchUp limit) rfl
          (interval_firedAt.symm ▸ hearly)]
        refine ⟨rfl, iff_of_true rfl (.inl ?_)⟩
        rintro (hzero | hlate)
        · exact Nat.ne_of_gt hpositive hzero
        · have hlate := hlate time rfl
          simp only [Duration.since] at hearly
          omega
      · refine ⟨some now, fun catchUp limit => ?_⟩
        have hlate := Nat.lt_of_not_le hearly
        rw [plan_of_late (henabled catchUp limit) rfl
          (interval_firedAt.symm ▸ hlate)]
        have hdue : IsDue interval (some time) now := by
          refine .inr fun other hother => ?_
          obtain rfl := Option.some.inj hother
          simp only [Duration.since] at hlate
          omega
        refine ⟨rfl, (runsAfter_eq_zero_iff hpositive).trans ?_⟩
        simp [hdue, Overruns, Duration.since]

/-- Without catch-up, or with a limit of one, no more than one call is planned. -/
theorem plan_le_one (hsingle : catchUp = true → limit = some 1) (now : Nat) :
    (((ofInterval interval catchUp limit).firedAt last).plan now).1 ≤ 1 := by
  have hruns (elapsed : Nat) :
      ((ofInterval interval catchUp limit).firedAt last).runsAfter elapsed ≤ 1 := by
    simp only [ofInterval_eq, firedAt, runsAfter, isBehind, Bool.and_eq_true]
    split
    · rename_i hbehind
      rw [hsingle hbehind.1]
      exact Nat.min_le_right _ _
    · exact Nat.le_refl 1
  unfold plan
  split
  · exact Nat.le_refl 1
  · split
    · exact Nat.le_refl 1
    · dsimp only
      split
      · exact Nat.zero_le 1
      · exact hruns _

end Plan

end Debouncer

namespace Debounced.Batch

variable {action otherAction : Course} {fallible : Bool} {planned otherPlanned : Nat}
  {calls otherCalls : List Handover} {ending otherEnding : Ending Verdict}

theorem length_of_le_one (h : Batch action fallible planned calls ending)
    (hplanned : planned ≤ 1) : calls.length = planned := by
  have hbound := h.bound
  have hnone := h.eq_nil_iff
  rw [← List.length_eq_zero_iff] at hnone
  omega

/-- A batch ends as the first of its calls that goes wrong does, if any. -/
theorem ending_eq (h : Batch action fallible planned calls ending) :
    ending = match calls.find? fun call => !call.isFine fallible with
      | none => .value (.ok ())
      | some call => call.verdict := by
  cases hfind : calls.find? fun call => !call.isFine fallible with
  | none =>
      refine (h.whole fun call hcall => ?_).2
      simpa using List.find?_eq_none.mp hfind call hcall
  | some call =>
      obtain ⟨hwrong, before, after, hsplit, -⟩ := List.find?_eq_some_iff_append.mp hfind
      exact (h.cut before call after hsplit (by simpa using hwrong)).2

/-- Batches of calls that end the same end the same. -/
theorem ending_congr (h : Batch action fallible planned calls ending)
    (hother : Batch otherAction fallible otherPlanned otherCalls otherEnding)
    (hcalls : calls.map (·.ending) = otherCalls.map (·.ending)) :
    ending = otherEnding := by
  rw [h.ending_eq, hother.ending_eq]
  clear h hother
  induction calls generalizing otherCalls with
  | nil =>
      obtain rfl := List.map_eq_nil_iff.mp hcalls.symm
      rfl
  | cons call rest ih =>
      cases otherCalls with
      | nil => cases hcalls
      | cons other others =>
          obtain ⟨hhead, hrest⟩ := List.cons.inj hcalls
          have hfine : call.isFine fallible = other.isFine fallible := by
            simp only [Handover.isFine, hhead]
          have hverdict : call.verdict = other.verdict := by
            simp only [Handover.verdict, hhead]
          simp only [List.find?_cons, ← hfine]
          cases call.isFine fallible with
          | true => exact ih hrest
          | false => exact hverdict

end Debounced.Batch

namespace Debounced

open Debouncer Exec

/-- What debouncers need not have in common: where they are, whether and how far they
catch up, and what they call. -/
structure Fitting where
  number : Nat
  catchUp : Bool
  limit : Option Nat
  fallible : Bool
  routine : Nat
  action : Course

namespace Fitting

/-- No more than one call is due to the debouncer at a time. -/
def IsSingle (fitting : Fitting) : Prop :=
  fitting.catchUp = true → fitting.limit = some 1

def timing (fitting : Fitting) (interval : Nat) (last : Option Nat) : Debouncer :=
  (ofInterval interval fitting.catchUp fitting.limit).firedAt last

theorem timing_eq (fitting : Fitting) (interval : Nat) (last : Option Nat) :
    fitting.timing interval last =
      ⟨interval, last, fitting.catchUp, fitting.limit.map (Nat.max · 1)⟩ := by
  rw [timing, ofInterval_eq, firedAt]

/-- The debouncer stands on a rig with an interval and a last activation. -/
def Shows (fitting : Fitting) (interval : Nat) (last : Option Nat) (rig : Rig) : Prop :=
  Stands fitting.number
    ⟨fitting.timing interval last, fitting.fallible, fitting.routine, false⟩
    fitting.action rig

/-- What the debouncer does when it is activated. -/
def activated (fitting : Fitting) (depth : Nat) (rig : Rig) : Activated :=
  ⟨rig.now, (Order.debounce (.activate fitting.number)).handovers (depth + 1) rig,
    ((Order.debounce (.activate fitting.number)).perform (depth + 1) rig).1⟩

end Fitting

/-- Changes of the settings that decide when a debouncer fires. -/
def setsTiming : Adjustment → Bool
  | .reset | .rate _ | .interval _ => true
  | .catchUp _ | .limit _ => false

/-- Two debouncers, each on a rig of its own, that are told the same: they are activated
at the same times, and adjusted in the same way.  Meanwhile anything may happen to either
rig that leaves its debouncer as it is. -/
inductive Paired (first second : Fitting) (start mateStart : Rig) : Rig → Rig → Prop
  | start : Paired first second start mateStart start mateStart
  | meanwhile {rig mate later mateLater}
      (h : Paired first second start mateStart rig mate)
      (hfirst : ∀ entry action, Stands first.number entry action rig →
        Stands first.number entry action later)
      (hsecond : ∀ entry action, Stands second.number entry action mate →
        Stands second.number entry action mateLater) :
      Paired first second start mateStart later mateLater
  | activates {rig mate} (depth mateDepth : Nat)
      (h : Paired first second start mateStart rig mate) (htime : rig.now = mate.now) :
      Paired first second start mateStart
        ((Order.debounce (.activate first.number)).perform (depth + 1) rig).2
        ((Order.debounce (.activate second.number)).perform (mateDepth + 1) mate).2
  | adjusts {rig mate} (depth mateDepth : Nat) {adjustment : Adjustment}
      (hsets : setsTiming adjustment = true)
      (h : Paired first second start mateStart rig mate) :
      Paired first second start mateStart
        ((Order.debounce (.adjust first.number adjustment)).perform (depth + 1) rig).2
        ((Order.debounce (.adjust second.number adjustment)).perform
          (mateDepth + 1) mate).2

/-- An adjustment takes effect whenever the debouncer is free. -/
theorem stands_adjust {number : Nat} {entry : Debounced} {action : Course} {rig : Rig}
    (depth : Nat) (adjustment : Adjustment) (hstands : Stands number entry action rig)
    (hfree : entry.busy = false) :
    Stands number { entry with timing := adjusted entry.timing adjustment } action
      ((Order.debounce (.adjust number adjustment)).perform (depth + 1) rig).2 := by
  have hmarked := hstands.modify_self ({ · with busy := true }) rfl
  have hmoved := hmarked.modify_self
    ({ · with timing := adjusted entry.timing adjustment }) rfl
  have hfreed := hmoved.modify_self ({ · with busy := false }) rfl
  have hperform : (Order.debounce (.adjust number adjustment)).perform (depth + 1) rig =
      (perform (.adjust number adjustment) rig).run (Script.playWithin depth) := rfl
  rw [hperform]
  simp only [perform, ifFree, bind_apply, look_apply, Progress.andThen, hstands.held, hfree,
    Bool.false_eq_true, if_false, map_apply, within_apply, adjust, log_apply, modify,
    update_apply, Progress.atEnd, Progress.run]
  exact hfreed.of_eq rfl rfl

/-- What an activation does, so long after the last one. -/
structure Fitting.Fires (fitting : Fitting) (interval : Nat) (last : Option Nat)
    (activated : Activated) : Prop where
  /-- It is skipped if it is not due, and if its count is cut down to nothing. -/
  skips : activated.answer = .value (some (.ok .skipped)) ↔
    ¬ IsDue interval last activated.time ∨
      fitting.catchUp = true ∧ Overruns interval last activated.time
  /-- Otherwise it makes the planned calls, up to the first that goes wrong. -/
  batch : ∃ ending,
    Batch fitting.action fitting.fallible
      ((fitting.timing interval last).plan activated.time).1 activated.calls ending ∧
    activated.answer =
      answerOf ((fitting.timing interval last).plan activated.time).1 ending
  /-- A call that fails, if failures count, is the last, and its error the answer. -/
  fails : fitting.fallible = true → ∀ before call after failure,
    activated.calls = before ++ call :: after → call.ending = .value (.error failure) →
      after = [] ∧ activated.answer = .value (some (.error failure))

/-- What two debouncers have in common when they are activated at the same time. -/
structure Alike (first second : Fitting) (interval : Nat) (last : Option Nat)
    (ours theirs : Activated) : Prop where
  fires : first.Fires interval last ours
  mateFires : second.Fires interval last theirs
  /-- They are skipped alike, except that only catch-up overruns. -/
  skips : (Overruns interval last ours.time → first.catchUp = second.catchUp) →
    (ours.answer = .value (some (.ok .skipped)) ↔
      theirs.answer = .value (some (.ok .skipped)))
  /-- With a limit of one, catch-up makes as many calls as there are without it, and
  answers the same if they end the same. -/
  single : (Overruns interval last ours.time → first.catchUp = second.catchUp) →
    first.IsSingle → second.IsSingle →
      ours.calls.length = theirs.calls.length ∧
        (first.fallible = second.fallible →
          ours.calls.map (·.ending) = theirs.calls.map (·.ending) →
            ours.answer = theirs.answer)

section Course

variable {first second fitting : Fitting} {interval : Nat} {last : Option Nat}
  {start mateStart rig mate : Rig} {ours theirs : Activated}

theorem Fitting.Fires.of_batch {activated : Activated} {ending : Ending Verdict}
    (hbatch : Batch fitting.action fitting.fallible
      ((fitting.timing interval last).plan activated.time).1 activated.calls ending)
    (hanswer : activated.answer =
      answerOf ((fitting.timing interval last).plan activated.time).1 ending) :
    fitting.Fires interval last activated where
  skips := by
    obtain ⟨_, hplan⟩ := plan_settled interval last activated.time
    rw [hanswer]
    exact hbatch.answers_skipped_iff.trans (hplan fitting.catchUp fitting.limit).2
  batch := ⟨ending, hbatch, hanswer⟩
  fails hfallible before call after failure hsplit hfails := by
    have hwrong : call.isFine fitting.fallible = false := by
      simp [Handover.isFine, hfails, hfallible]
    obtain ⟨hafter, rfl⟩ := hbatch.cut before call after hsplit hwrong
    refine ⟨hafter, ?_⟩
    rw [hanswer, Handover.verdict, hfails]
    rfl

/-- An activation fires as its timing says, and moves the baseline in a way that
depends on neither the settings nor the calls. -/
theorem Fitting.Shows.activate (h : fitting.Shows interval last rig) (depth : Nat)
    {next : Option Nat}
    (hnext : ((fitting.timing interval last).plan rig.now).2 =
      fitting.timing interval next) :
    fitting.Shows interval next
        ((Order.debounce (.activate fitting.number)).perform (depth + 1) rig).2 ∧
      fitting.Fires interval last (fitting.activated depth rig) := by
  obtain ⟨hstands, ending, hbatch, hanswer⟩ := activate_batch depth h rfl
  dsimp only at hstands hbatch hanswer
  rw [hnext] at hstands
  exact ⟨hstands, .of_batch hbatch hanswer⟩

/-- The interval and the last activation after an adjustment. -/
def adjustedTo (interval : Nat) (last : Option Nat) : Adjustment → Nat × Option Nat
  | .reset => (interval, none)
  | .rate perSecond => (intervalOfRate perSecond, last)
  | .interval interval => (interval, last)
  | .catchUp _ | .limit _ => (interval, last)

theorem Fitting.Shows.adjust (h : fitting.Shows interval last rig) (depth : Nat)
    {adjustment : Adjustment} (hsets : setsTiming adjustment = true) :
    fitting.Shows (adjustedTo interval last adjustment).1
      (adjustedTo interval last adjustment).2
      ((Order.debounce (.adjust fitting.number adjustment)).perform (depth + 1) rig).2 := by
  have hstands := stands_adjust depth adjustment h rfl
  have htiming : adjusted (fitting.timing interval last) adjustment =
      fitting.timing (adjustedTo interval last adjustment).1
        (adjustedTo interval last adjustment).2 := by
    cases adjustment with
    | reset => rfl
    | rate perSecond =>
        simp only [adjusted, adjustedTo, withInterval, Fitting.timing_eq]
    | interval chosen =>
        simp only [adjusted, adjustedTo, withInterval, Fitting.timing_eq]
    | catchUp => cases hsets
    | limit => cases hsets
  dsimp only at hstands
  rw [htiming] at hstands
  exact hstands

/-- Debouncers that are told the same have the same interval and the same last
activation. -/
theorem Paired.shows_alike (h : Paired first second start mateStart rig mate)
    (hfirst : first.Shows interval last start)
    (hsecond : second.Shows interval last mateStart) :
    ∃ interval last, first.Shows interval last rig ∧ second.Shows interval last mate := by
  induction h with
  | start => exact ⟨interval, last, hfirst, hsecond⟩
  | meanwhile _ hleft hright ih =>
      obtain ⟨interval, last, hours, htheirs⟩ := ih
      exact ⟨interval, last, hleft _ _ hours, hright _ _ htheirs⟩
  | @activates rig mate depth mateDepth _ htime ih =>
      obtain ⟨interval, last, hours, htheirs⟩ := ih
      obtain ⟨next, hplan⟩ := plan_settled interval last rig.now
      exact ⟨interval, next, (hours.activate depth (hplan _ _).1).1,
        (htheirs.activate mateDepth (htime ▸ (hplan _ _).1)).1⟩
  | adjusts depth mateDepth hsets _ ih =>
      obtain ⟨interval, last, hours, htheirs⟩ := ih
      exact ⟨_, _, hours.adjust depth hsets, htheirs.adjust mateDepth hsets⟩

theorem Fitting.Fires.alike (hours : first.Fires interval last ours)
    (htheirs : second.Fires interval last theirs) (htime : ours.time = theirs.time) :
    Alike first second interval last ours theirs := by
  have hskips : (Overruns interval last ours.time → first.catchUp = second.catchUp) →
      (ours.answer = .value (some (.ok .skipped)) ↔
        theirs.answer = .value (some (.ok .skipped))) := by
    intro hcatchUp
    rw [hours.skips, htheirs.skips, ← htime]
    exact or_congr_right (and_congr_left fun hoverruns => by rw [hcatchUp hoverruns])
  refine ⟨hours, htheirs, hskips, fun hcatchUp hfirst hsecond => ?_⟩
  obtain ⟨ending, hbatch, hanswer⟩ := hours.batch
  obtain ⟨mateEnding, hmateBatch, hmateAnswer⟩ := htheirs.batch
  have hone : ((first.timing interval last).plan ours.time).1 ≤ 1 :=
    plan_le_one hfirst ours.time
  have hmateOne : ((second.timing interval last).plan theirs.time).1 ≤ 1 :=
    plan_le_one hsecond theirs.time
  -- At most one call is planned for either, and none for both or for neither.
  have hplanned : ((first.timing interval last).plan ours.time).1 =
      ((second.timing interval last).plan theirs.time).1 := by
    have hnone := hskips hcatchUp
    rw [hanswer, hmateAnswer, hbatch.answers_skipped_iff,
      hmateBatch.answers_skipped_iff] at hnone
    omega
  refine ⟨?_, fun hfallible hendings => ?_⟩
  · rw [hbatch.length_of_le_one hone, hmateBatch.length_of_le_one hmateOne, hplanned]
  · rw [← hfallible] at hmateBatch
    rw [hanswer, hmateAnswer, hplanned, hbatch.ending_congr hmateBatch hendings]

/-- Whatever two debouncers are set to and whatever their calls do, as long as they are
told the same they have the same interval and the same last activation, and fire alike
unless the machine cuts a count down to nothing. -/
theorem timesAlike (hfirst : first.Shows interval last start)
    (hsecond : second.Shows interval last mateStart)
    (h : Paired first second start mateStart rig mate) :
    ∃ interval last, first.Shows interval last rig ∧ second.Shows interval last mate ∧
      ∀ depth mateDepth, rig.now = mate.now →
        Alike first second interval last (first.activated depth rig)
          (second.activated mateDepth mate) := by
  obtain ⟨interval, last, hours, htheirs⟩ := h.shows_alike hfirst hsecond
  refine ⟨interval, last, hours, htheirs, fun depth mateDepth htime => ?_⟩
  obtain ⟨next, hplan⟩ := plan_settled interval last rig.now
  exact (hours.activate depth (hplan _ _).1).2.alike
    (htheirs.activate mateDepth (htime ▸ (hplan _ _).1)).2 htime

theorem Paired.waits (h : Paired first second start mateStart rig mate) (now : Nat) :
    Paired first second start mateStart { rig with now } { mate with now } :=
  h.meanwhile (fun _ _ hstands => hstands.of_eq rfl rfl)
    fun _ _ hstands => hstands.of_eq rfl rfl

end Course

/-- A debouncer with the shortest interval there is, a limit of one, and an action that
does nothing. -/
def brisk (catchUp : Bool) : Fitting :=
  ⟨0, catchUp, some 1, false, 0, fun _ _ => .done .null⟩

def briskScript (catchUp : Bool) : Script :=
  .routine (fun _ _ => .done .null) fun routine =>
    .order (.debounce (.newDebouncer (.ofInterval 1 catchUp (some 1)) false routine))
      fun _ => .done .null

def briskRig (catchUp : Bool) : Rig :=
  ((briskScript catchUp).playWithin 1 (Rig.fresh .initial Duration.perSecond)).2

/-- After as many intervals as a machine word has values, the debouncer with catch-up
skips an activation, while the one without fires. -/
theorem not_skipped_alike : ∃ rig mate interval last,
    Paired (brisk true) (brisk false) (briskRig true) (briskRig false) rig mate ∧
      rig.now = mate.now ∧
      (brisk true).Shows interval last rig ∧ (brisk false).Shows interval last mate ∧
      Alike (brisk true) (brisk false) interval last ((brisk true).activated 0 rig)
        ((brisk false).activated 0 mate) ∧
      ((brisk true).activated 0 rig).answer = .value (some (.ok .skipped)) ∧
      ((brisk false).activated 0 mate).answer = .value (some (.ok (.fired 1))) := by
  have hstart (catchUp : Bool) : (brisk catchUp).Shows 1 none (briskRig catchUp) := by
    refine ⟨by cases catchUp <;> rfl, ?_⟩
    rw [Rig.courses, Array.getElem?_map]
    rfl
  have hpaired : Paired (brisk true) (brisk false) (briskRig true) (briskRig false)
      (briskRig true) (briskRig false) := .start
  have hlate := (hpaired.activates 0 0 rfl).waits UInt64.size
  obtain ⟨interval, last, hours, htheirs, halike⟩ :=
    timesAlike (hstart true) (hstart false) hlate
  refine ⟨_, _, interval, last, hlate, rfl, hours, htheirs, halike 0 0 rfl, ?_, ?_⟩
  · rfl
  · rfl

end Debounced

end Cadence
