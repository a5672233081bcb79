import Cadence.Proofs.Handovers
import Cadence.Proofs.HeldDebouncer

/-!
Batches of calls.  An activation moves the baseline of its debouncer and then calls the
action as often as was planned, or up to the first call that goes wrong.  Nothing that a
call does has any influence on the timing.
-/

namespace Cadence

open Exec Contract

namespace Handover

/-- A call that went well; the failures of an action that is not fallible do not
count. -/
def isFine (fallible : Bool) (call : Handover) : Bool :=
  match call.ending with
  | .value (.ok _) => true
  | .value (.error _) => !fallible
  | _ => false

/-- One of the calls of an action. -/
def IsCallOf (action : Course) (call : Handover) : Prop :=
  ∃ count, call.script = action count .plain

/-- How a call ended, without its answer. -/
def verdict (call : Handover) : Ending Verdict :=
  call.ending.map fun answer => answer.map fun _ => ()

end Handover

namespace Debounced

/-- The calls of a batch of which so many were planned, and what the batch ends with: all
of them if all go well, and otherwise those up to the first that does not, which ends the
batch in its own way. -/
structure Batch (action : Course) (fallible : Bool) (planned : Nat)
    (calls : List Handover) (ending : Ending Verdict) : Prop where
  mine : ∀ call ∈ calls, call.IsCallOf action
  bound : calls.length ≤ planned
  whole : (∀ call ∈ calls, call.isFine fallible = true) →
    calls.length = planned ∧ ending = .value (.ok ())
  cut : ∀ before call after, calls = before ++ call :: after →
    call.isFine fallible = false → after = [] ∧ ending = call.verdict

namespace Batch

variable {action : Course} {fallible : Bool} {planned : Nat} {call : Handover}
  {calls : List Handover} {ending : Ending Verdict}

theorem nil : Batch action fallible 0 [] (.value (.ok ())) where
  mine := by simp
  bound := Nat.le_refl 0
  whole _ := ⟨rfl, rfl⟩
  cut := by simp

/-- A call that goes wrong is the last one. -/
theorem single (hmine : call.IsCallOf action) (hwrong : call.isFine fallible = false) :
    Batch action fallible (planned + 1) [call] call.verdict where
  mine := by simpa using hmine
  bound := Nat.le_add_left 1 planned
  whole hfine := by
    rw [hfine call List.mem_cons_self] at hwrong
    cases hwrong
  cut before other after hsplit _ := by
    cases before with
    | nil =>
        cases hsplit
        exact ⟨rfl, rfl⟩
    | cons first rest => simp at hsplit

/-- After a call that goes well the batch goes on. -/
theorem cons (h : Batch action fallible planned calls ending)
    (hmine : call.IsCallOf action) (hfine : call.isFine fallible = true) :
    Batch action fallible (planned + 1) (call :: calls) ending where
  mine := by
    intro other hother
    rcases List.mem_cons.mp hother with rfl | hrest
    · exact hmine
    · exact h.mine other hrest
  bound := Nat.succ_le_succ h.bound
  whole hall := by
    have hrest := h.whole fun other hother => hall other (List.mem_cons_of_mem _ hother)
    exact ⟨congrArg (· + 1) hrest.1, hrest.2⟩
  cut before other after hsplit hwrong := by
    cases before with
    | nil =>
        cases hsplit
        rw [hfine] at hwrong
        cases hwrong
    | cons first rest => exact h.cut rest other after (List.cons.inj hsplit).2 hwrong

/-- Nothing is called exactly if nothing was planned. -/
theorem eq_nil_iff (h : Batch action fallible planned calls ending) :
    calls = [] ↔ planned = 0 := by
  constructor
  · rintro rfl
    exact (h.whole (by simp)).1.symm
  · rintro rfl
    exact List.length_eq_zero_iff.mp (Nat.le_zero.mp h.bound)

end Batch

section Activation

variable {number : Nat} {held : Debounced} {action : Course} {rig : Rig}
  {play : Play}

/-- What is left of some calls after the first one. -/
def callRest (caller : Debounced) (times : Nat) :
    Ending (Except Failure Datum) → Rig → Progress Verdict
  | .value (.ok _), rig => callTimes caller times rig
  | .value (.error failure), rig =>
      if caller.fallible then .ended (.value (.error failure)) rig
      else callTimes caller times rig
  | .panicked cause, rig => .ended (.panicked cause) rig
  | .exhausted, rig => .ended .exhausted rig

theorem callTimes_succ {caller : Debounced} {entry : Routine}
    (hentry : rig.routines[caller.routine]? = some entry) (times : Nat) :
    callTimes caller (times + 1) rig =
      .handed (entry.course entry.calls .plain)
        { rig with
          routines := rig.routines.modify caller.routine fun entry =>
            { entry with calls := entry.calls + 1 } }
        (callRest caller times) := by
  simp only [callTimes, bind_apply, call_apply hentry, Progress.andThen]
  congr 1
  funext ending later
  rcases ending with (failure | answer) | cause | _
  · by_cases hfallible : caller.fallible = true
    · simp [callRest, Progress.andThen, Except.map, hfallible]
    · simp [callRest, Progress.andThen, Except.map, hfallible]
  · rfl
  · rfl
  · rfl

theorem callRest_of_fine {caller : Debounced} {call : Handover}
    (hfine : call.isFine caller.fallible = true) (times : Nat) (rig : Rig) :
    callRest caller times call.ending rig = callTimes caller times rig := by
  obtain ⟨script, ending⟩ := call
  rcases ending with (failure | answer) | cause | _
  · have hforgiven : caller.fallible = false := by
      simpa [Handover.isFine] using hfine
    simp [callRest, hforgiven]
  · rfl
  · simp [Handover.isFine] at hfine
  · simp [Handover.isFine] at hfine

theorem callRest_of_wrong {caller : Debounced} {call : Handover}
    (hwrong : call.isFine caller.fallible = false) (times : Nat) (rig : Rig) :
    callRest caller times call.ending rig = .ended call.verdict rig := by
  obtain ⟨script, ending⟩ := call
  rcases ending with (failure | answer) | cause | _
  · have hfallible : caller.fallible = true := by
      simpa [Handover.isFine] using hwrong
    simp [callRest, hfallible, Handover.verdict, Ending.map, Except.map]
  · simp [Handover.isFine] at hwrong
  · rfl
  · rfl

/-- Whatever an action does, it is called up to the first call that goes wrong, nothing
else is called, and the debouncer stays as it is. -/
theorem callTimes_batch
    (hplay : (contract number held action).Honoured play) (caller : Debounced)
    (hroutine : caller.routine = held.routine) (times : Nat)
    (hfinds : (contract number held action).finds rig) :
    (contract number held action).finds ((callTimes caller times rig).run play).2 ∧
      Batch action caller.fallible times ((callTimes caller times rig).handovers play)
        ((callTimes caller times rig).run play).1 := by
  induction times generalizing rig with
  | zero => exact ⟨hfinds, .nil⟩
  | succ times ih =>
      have haction := hfinds.1.action
      rw [← hroutine, Rig.courses, Array.getElem?_map,
        Option.map_eq_some_iff] at haction
      obtain ⟨entry, hentry, rfl⟩ := haction
      have hcalls : (contract number held entry.course).Ignores .calls :=
        ignores_touch (by decide)
      have hfound : (contract number held entry.course).leaves rig (.value ())
          rig := (contract number held entry.course).refl hfinds
      have hplayed := hplay (entry.course entry.calls .plain) _
        (hfinds.2 entry (Array.mem_of_getElem? hentry) _ _)
        (hcalls hfound (.called caller.routine))
      rw [callTimes_succ hentry]
      simp only [Progress.handovers, Progress.run]
      rcases hscript : play (entry.course entry.calls .plain) _ with ⟨ending, later⟩
      rw [hscript] at hplayed
      have hmine : (⟨entry.course entry.calls .plain, ending⟩ : Handover).IsCallOf
        entry.course := ⟨entry.calls, rfl⟩
      cases hfine : Handover.isFine caller.fallible
        ⟨entry.course entry.calls .plain, ending⟩ with
      | true =>
          have hrest := callRest_of_fine hfine times later
          simp only at hrest
          rw [hrest]
          obtain ⟨hlater, hbatch⟩ := ih hplayed
          exact ⟨hlater, hbatch.cons hmine hfine⟩
      | false =>
          have hrest := callRest_of_wrong hfine times later
          simp only at hrest
          rw [hrest]
          exact ⟨hplayed, .single hmine hfine⟩

/-- A rig at the moment at which the calls of an activation begin. -/
def activating (number : Nat) (entry : Debounced) (rig : Rig) : Rig :=
  { rig with
    debouncers := (rig.debouncers.modify number
      ({ · with busy := true })).modify number
        ({ · with timing := (entry.timing.plan rig.now).2 })
    journal := (entry.timing.planNotice rig.now).reverse.map Event.logged ++
      .entered (.debouncer number) :: rig.journal }

/-- The end of an activation. -/
def activated (number : Nat) (rig : Rig) : Rig :=
  { mark number false rig with journal := .left (.debouncer number) :: rig.journal }

/-- What an activation answers when its batch, of which so many calls were planned, has
ended. -/
def answerOf (planned : Nat) (ending : Ending Verdict) :
    Ending (Option (Except Failure Activation)) :=
  ending.map fun verdict => some (verdict.map fun _ => .ofCount planned)

/-- An activation is skipped exactly if no calls were planned. -/
theorem Batch.answers_skipped_iff {fallible : Bool} {planned : Nat}
    {calls : List Handover} {ending : Ending Verdict}
    (h : Batch action fallible planned calls ending) :
    answerOf planned ending = .value (some (.ok .skipped)) ↔ planned = 0 := by
  constructor
  · intro hskipped
    rcases ending with (failure | _) | cause | _
    · simp [answerOf, Ending.map, Except.map] at hskipped
    · simpa [answerOf, Ending.map, Except.map] using hskipped
    · simp [answerOf, Ending.map] at hskipped
    · simp [answerOf, Ending.map] at hskipped
  · rintro rfl
    obtain rfl := h.eq_nil_iff.mpr rfl
    obtain ⟨-, rfl⟩ := h.whole (by simp)
    rfl

theorem perform_activate {entry : Debounced}
    (hentry : rig.debouncers[number]? = some entry) (hfree : entry.busy = false) :
    perform (.activate number) rig =
      (((callTimes entry (entry.timing.plan rig.now).1
        (activating number entry rig)).andThen fun verdict =>
          pure (verdict.map fun _ => .ofCount (entry.timing.plan rig.now).1)).atEnd
        (activated number)).andThen fun answer => pure (some answer) := by
  simp only [perform, ifFree, bind_apply, look_apply, Progress.andThen, hentry, hfree,
    Bool.false_eq_true, if_false, map_apply, within_apply]
  congr 2
  simp only [activate, bind_apply, look_apply, log_apply, modify, update_apply,
    Progress.andThen]
  congr 1
  funext verdict later
  cases verdict <;> rfl

/-- An activation moves the baseline as its plan says, whatever becomes of the calls, and
answers what its batch ended with. -/
theorem activate_batch {entry : Debounced} (depth : Nat)
    (hstands : Stands number entry action rig) (hfree : entry.busy = false) :
    Stands number { entry with timing := (entry.timing.plan rig.now).2 } action
        ((Order.debounce (.activate number)).perform (depth + 1) rig).2 ∧
      ∃ ending,
        Batch action entry.fallible (entry.timing.plan rig.now).1
          ((Order.debounce (.activate number)).handovers (depth + 1) rig) ending ∧
        ((Order.debounce (.activate number)).perform (depth + 1) rig).1 =
          answerOf (entry.timing.plan rig.now).1 ending := by
  have happly := perform_activate hstands.held hfree
  have hcalls : (Order.debounce (.activate number)).handovers (depth + 1) rig =
      (callTimes entry (entry.timing.plan rig.now).1
        (activating number entry rig)).handovers (Script.playWithin depth) := by
    show (perform (.activate number) rig).handovers (Script.playWithin depth) = _
    rw [happly, Progress.handovers_andThen_of_nil (fun _ _ => rfl),
      Progress.handovers_atEnd, Progress.handovers_andThen_of_nil (fun _ _ => rfl)]
  have hperform : (Order.debounce (.activate number)).perform (depth + 1) rig =
      (perform (.activate number) rig).run (Script.playWithin depth) := rfl
  -- While the calls are made the debouncer is busy, with its baseline moved.
  let held : Debounced :=
    { entry with timing := (entry.timing.plan rig.now).2, busy := true }
  have hheld : Stands number held action (activating number entry rig) := by
    have hmarked := hstands.modify_self ({ · with busy := true }) rfl
    have hmoved := hmarked.modify_self
      ({ · with timing := (entry.timing.plan rig.now).2 }) rfl
    exact hmoved.of_eq rfl rfl
  have hroutines : (activating number entry rig).KeepsTo (Spares number held) :=
    fun routine _ call occasion =>
      (routine.course call occasion).keepsTo_all.imp fun _ _ => Or.inl rfl
  obtain ⟨hlater, hbatch⟩ := callTimes_batch
    ((soundOrders number held action).honoured depth) entry rfl
    (entry.timing.plan rig.now).1 ⟨hheld, hroutines⟩
  have hfreed := hlater.1.modify_self ({ · with busy := false }) rfl
  have hsame : ({ held with busy := false } : Debounced) =
      { entry with timing := (entry.timing.plan rig.now).2 } := by
    simp [held, hfree]
  rw [hsame] at hfreed
  rw [hcalls, hperform, happly, Progress.run_andThen, Progress.run_atEnd,
    Progress.run_andThen]
  rcases hrun : (callTimes entry (entry.timing.plan rig.now).1
    (activating number entry rig)).run (Script.playWithin depth) with ⟨ending, later⟩
  rw [hrun] at hbatch hfreed
  refine ⟨?_, ending, hbatch, ?_⟩
  · cases ending <;> exact hfreed.of_eq rfl rfl
  · cases ending <;> rfl

end Activation

end Debounced

end Cadence
