import Mathlib.Data.List.Chain
import Cadence.Proofs.DebouncedActions

/-!
How often a debouncer without catch-up fires.  It takes every firing it can get, and
no choice among its activations that keeps the interval is larger than the one it
makes: where another choice has fired as often, it has fired no earlier.
-/

namespace Cadence

namespace Debouncer

/-- Times, the latest first, of which any two in succession are more than an interval
apart. -/
def Spaced (interval : Nat) (times : List Nat) : Prop :=
  times.IsChain fun later earlier => earlier + interval < later

/-- When some activations came. -/
def timesOf (activations : List Activated) : List Nat := activations.map (·.time)

/-- The activations of a history that fired. -/
def fired (activations : List Activated) : List Activated :=
  activations.filter fun activated => !activated.calls.isEmpty

/-- An activation answers that it was skipped exactly if it makes no call. -/
def Truthful (activated : Activated) : Prop :=
  activated.answer = .value (some (.ok .skipped)) ↔ activated.calls = []

/-- The firings of a history are spaced, and no spaced choice among its activations is
larger. -/
structure FiresMost (interval : Nat) (activations : List Activated) : Prop where
  truthful : ∀ activated ∈ activations, Truthful activated
  spaced : Spaced interval (timesOf (fired activations))
  most : ∀ chosen, chosen.Sublist activations → Spaced interval (timesOf chosen) →
    chosen.length ≤ (fired activations).length

/-- A history in which whatever can fire does: only what comes an interval after the
last firing at most is skipped. -/
def Greedy (interval : Nat) : List Activated → Prop
  | [] => True
  | activated :: older =>
      (activated.calls = [] ↔
        ∃ last ∈ lastFiring older, activated.time ≤ last + interval) ∧
          Greedy interval older

/-- A history in which the time does not go back. -/
def Ordered (activations : List Activated) : Prop :=
  activations.Pairwise fun later earlier => earlier.time ≤ later.time

instance : DecidablePred Ordered := fun _ =>
  inferInstanceAs (Decidable (List.Pairwise _ _))

instance (interval : Nat) : DecidablePred (Spaced interval) := fun _ =>
  inferInstanceAs (Decidable (List.IsChain _ _))

section Fired

variable {interval : Nat} {activated : Activated} {older : List Activated}

theorem fired_of_skips (hskips : activated.calls = []) :
    fired (activated :: older) = fired older := by
  simp [fired, hskips]

theorem fired_of_fires (hfires : activated.calls ≠ []) :
    fired (activated :: older) = activated :: fired older := by
  simp [fired, hfires]

theorem lastFiring_of_skips (hskips : activated.calls = []) :
    lastFiring (activated :: older) = lastFiring older := by
  rw [lastFiring, if_pos hskips]

theorem lastFiring_of_fires (hfires : activated.calls ≠ []) :
    lastFiring (activated :: older) = some activated.time := by
  rw [lastFiring, if_neg hfires]

theorem head?_fired (activations : List Activated) :
    (fired activations).head?.map (·.time) = lastFiring activations := by
  induction activations with
  | nil => rfl
  | cons activated older ih =>
      by_cases hskips : activated.calls = []
      · rw [fired_of_skips hskips, lastFiring_of_skips hskips, ih]
      · rw [fired_of_fires hskips, lastFiring_of_fires hskips]
        rfl

theorem spaced_cons :
    Spaced interval (timesOf (activated :: older)) ↔
      (∀ earlier ∈ older.head?, earlier.time + interval < activated.time) ∧
        Spaced interval (timesOf older) := by
  simp only [Spaced, timesOf, List.isChain_map, List.isChain_cons]

/-- The time of a last firing is past. -/
theorem Ordered.lastFiring_le (h : Ordered (activated :: older)) {last : Nat}
    (hlast : last ∈ lastFiring older) : last ≤ activated.time := by
  obtain ⟨earlier, hearlier, rfl⟩ := time_of_lastFiring hlast
  exact (List.pairwise_cons.mp h).1 earlier hearlier

end Fired

namespace Greedy

variable {interval : Nat} {activations : List Activated}

theorem spaced (h : Greedy interval activations) :
    Spaced interval (timesOf (fired activations)) := by
  induction activations with
  | nil => exact .nil
  | cons activated older ih =>
      by_cases hskips : activated.calls = []
      · rw [fired_of_skips hskips]
        exact ih h.2
      · rw [fired_of_fires hskips]
        refine spaced_cons.mpr ⟨fun earlier hearlier => ?_, ih h.2⟩
        have hlast : earlier.time ∈ lastFiring older := by
          rw [← head?_fired]
          exact Option.mem_map_of_mem _ hearlier
        exact Nat.lt_of_not_le fun hsoon =>
          hskips (h.1.mpr ⟨earlier.time, hlast, hsoon⟩)

/-- The greedy choice stays ahead: no spaced choice is larger, and none that is as
large ends earlier. -/
theorem stays_ahead (h : Greedy interval activations) (hordered : Ordered activations)
    {chosen : List Activated} (hchosen : chosen.Sublist activations)
    (hspaced : Spaced interval (timesOf chosen)) :
    chosen.length ≤ (fired activations).length ∧
      (chosen.length = (fired activations).length →
        ∀ last ∈ lastFiring activations, ∀ latest ∈ chosen.head?,
          last ≤ latest.time) := by
  induction activations generalizing chosen with
  | nil =>
      obtain rfl := List.sublist_nil.mp hchosen
      exact ⟨Nat.le_refl _, fun _ => by simp⟩
  | cons activated older ih =>
      have holder : Ordered older := (List.pairwise_cons.mp hordered).2
      rcases List.sublist_cons_iff.mp hchosen with hpassed | ⟨rest, rfl, hrest⟩
      · -- The choice does without the latest activation.
        obtain ⟨hlength, hends⟩ := ih h.2 holder hpassed hspaced
        by_cases hskips : activated.calls = []
        · rw [fired_of_skips hskips, lastFiring_of_skips hskips]
          exact ⟨hlength, hends⟩
        · rw [fired_of_fires hskips, List.length_cons]
          exact ⟨by omega, fun hequal => by omega⟩
      · obtain ⟨hgap, hspaced⟩ := spaced_cons.mp hspaced
        obtain ⟨hlength, hends⟩ := ih h.2 holder hrest hspaced
        by_cases hskips : activated.calls = []
        · -- What is skipped here is too near to the last firing.  A choice that takes
          -- it has fired less often before, for otherwise its last firing is no
          -- earlier, and too near as well.
          rw [fired_of_skips hskips, lastFiring_of_skips hskips, List.length_cons]
          obtain ⟨last, hlast, hsoon⟩ := h.1.mp hskips
          have hbehind : rest.length ≠ (fired older).length := by
            intro hequal
            cases rest with
            | nil =>
                have hnone : fired older = [] := List.length_eq_zero_iff.mp hequal.symm
                rw [← head?_fired, hnone] at hlast
                cases hlast
            | cons latest earlier =>
                have hlatest := hends hequal last hlast latest rfl
                have := hgap latest rfl
                omega
          refine ⟨by omega, fun _ other hother latest hlatest => ?_⟩
          obtain rfl : activated = latest := Option.some.inj hlatest
          exact hordered.lastFiring_le hother
        · rw [fired_of_fires hskips, lastFiring_of_fires hskips, List.length_cons,
            List.length_cons]
          refine ⟨by omega, fun _ other hother latest hlatest => ?_⟩
          obtain rfl : activated = latest := Option.some.inj hlatest
          exact Nat.le_of_eq (Option.some.inj hother).symm

theorem greatest (h : Greedy interval activations) (hordered : Ordered activations)
    (htruthful : ∀ activated ∈ activations, Truthful activated) :
    FiresMost interval activations where
  truthful := htruthful
  spaced := h.spaced
  most _ hchosen hspaced := (h.stays_ahead hordered hchosen hspaced).1

end Greedy

/-- Activations at more times fire no less often. -/
theorem FiresMost.length_le {interval : Nat} {activations more : List Activated}
    (hmore : FiresMost interval more) (h : FiresMost interval activations)
    (htimes : (timesOf activations).Sublist (timesOf more)) :
    (fired activations).length ≤ (fired more).length := by
  have hfired : (timesOf (fired activations)).Sublist (timesOf more) :=
    (List.filter_sublist.map _).trans htimes
  obtain ⟨chosen, hchosen, hsame⟩ := List.sublist_map_iff.mp hfired
  have hspaced : Spaced interval (timesOf chosen) := by
    rw [timesOf, ← hsame]
    exact h.spaced
  calc (fired activations).length = (timesOf (fired activations)).length := by
        rw [timesOf, List.length_map]
    _ = chosen.length := by rw [hsame, List.length_map]
    _ ≤ (fired more).length := hmore.most chosen hchosen hspaced

/-- Without catch-up an activation is skipped soon after the last firing, and makes
one call otherwise. -/
theorem plan_of_not_catchUp {interval : Nat} (hpositive : 0 < interval)
    (limit last : Option Nat) (now : Nat) :
    let fresh := ofInterval interval false limit
    ((∃ time ∈ last, now ≤ time + interval) ∧
        (fresh.firedAt last).plan now = (0, fresh.firedAt last)) ∨
      (¬ (∃ time ∈ last, now ≤ time + interval) ∧
        (fresh.firedAt last).plan now = (1, fresh.firedAt (some now))) := by
  intro fresh
  rcases plan_cases hpositive false limit last now with
    ⟨rfl, hplan⟩ | ⟨time, htime, hearly, hplan⟩ | ⟨time, htime, hlate, hplan⟩
  · exact .inr ⟨by simp, hplan⟩
  · exact .inl ⟨⟨time, htime, hearly⟩, hplan⟩
  · refine .inr ⟨?_, ?_⟩
    · rintro ⟨other, hother, hearly⟩
      obtain rfl := Option.mem_unique htime hother
      exact absurd hearly (Nat.not_le_of_lt hlate)
    · rw [hplan, runsAfter_of_not_catchUp]
      rw [firedAt, ofInterval_eq]

end Debouncer

namespace Debounced

open Debouncer

/-- The activations, the latest first, of a debouncer without catch-up that was fresh
before them, however it is used. -/
def PlainHistory (interval : Nat) (activations : List Activated) : Prop :=
  ∃ number limit fallible routine action start rig,
    Stands number ⟨.ofInterval interval false limit, fallible, routine, false⟩ action
      start ∧
    Usage number start activations rig ∧ Ordered activations

section Course

variable {number interval routine : Nat} {fallible : Bool} {limit : Option Nat}
  {action : Course} {start rig : Rig} {activations : List Activated}

theorem truthful_of_batch (time : Nat) {planned : Nat} {calls : List Handover}
    {ending : Ending Verdict} {answer : Ending (Option (Except Failure Activation))}
    (hbatch : Batch action fallible planned calls ending)
    (hanswer : answer = answerOf planned ending) : Truthful ⟨time, calls, answer⟩ := by
  rw [Truthful, hanswer]
  exact hbatch.answers_skipped_iff.trans hbatch.eq_nil_iff.symm

/-- A debouncer without catch-up takes every firing it can get, whatever becomes of the
calls. -/
theorem Usage.greedy (h : Usage number start activations rig)
    (hpositive : 0 < interval)
    (hstart : Stands number
      ⟨.ofInterval interval false limit, fallible, routine, false⟩ action start) :
    Stands number
        ⟨(Debouncer.ofInterval interval false limit).firedAt (lastFiring activations),
          fallible, routine, false⟩ action rig ∧
      Greedy interval activations ∧ ∀ activated ∈ activations, Truthful activated := by
  induction h with
  | start =>
      refine ⟨?_, trivial, by simp⟩
      rw [Debouncer.ofInterval_eq] at hstart ⊢
      exact hstart
  | meanwhile _ hstands ih => exact ⟨hstands _ _ ih.1, ih.2⟩
  | @activates older before depth _ ih =>
      obtain ⟨hstands, hgreedy, htruthful⟩ := ih
      obtain ⟨hlater, ending, hbatch, hanswer⟩ := activate_batch depth hstands rfl
      have hnil := hbatch.eq_nil_iff
      have htruthful := List.forall_mem_cons.mpr
        ⟨truthful_of_batch before.now hbatch hanswer, htruthful⟩
      dsimp only at hlater hnil
      rcases plan_of_not_catchUp hpositive limit (lastFiring older) before.now with
        ⟨hsoon, hplan⟩ | ⟨hlate, hplan⟩
      · rw [hplan] at hlater hnil
        have hskips := hnil.mpr rfl
        rw [lastFiring_of_skips hskips]
        exact ⟨hlater, ⟨iff_of_true hskips hsoon, hgreedy⟩, htruthful⟩
      · rw [hplan] at hlater hnil
        have hfires : _ ≠ [] := fun hskips => Nat.one_ne_zero (hnil.mp hskips)
        rw [lastFiring_of_fires hfires]
        exact ⟨hlater, ⟨iff_of_false hfires hlate, hgreedy⟩, htruthful⟩

end Course

/-- A debouncer without catch-up fires as often as the interval allows, and activating
it at more times never makes it fire less often. -/
theorem firesMost {interval : Nat} {activations : List Activated}
    (hpositive : 0 < interval) (h : PlainHistory interval activations) :
    FiresMost interval activations ∧
      ∀ more, PlainHistory interval more →
        (timesOf activations).Sublist (timesOf more) →
          (fired activations).length ≤ (fired more).length := by
  have hmost {history : List Activated} (hplain : PlainHistory interval history) :
      FiresMost interval history := by
    obtain ⟨_, _, _, _, _, _, _, hstart, husage, hordered⟩ := hplain
    obtain ⟨-, hgreedy, htruthful⟩ := husage.greedy hpositive hstart
    exact hgreedy.greatest hordered htruthful
  exact ⟨hmost h, fun more hmore htimes => (hmost hmore).length_le (hmost h) htimes⟩

/-- A debouncer with an interval of ten, and an action that can only fail. -/
def failing : Script :=
  .routine (fun _ _ => .fail (.reported "broken")) fun routine =>
    .order (.debounce (.newDebouncer (.ofInterval 10 false none) true routine))
      fun _ => .done .null

def failingRig : Rig :=
  (failing.playWithin 1 (Rig.fresh .initial Duration.perSecond)).2

/-- One more activation costs the next one its firing, and gains two. -/
theorem firesMost_failing : ∃ sparse dense,
    timesOf sparse = [24, 15, 0] ∧ timesOf (fired sparse) = [15, 0] ∧
      timesOf dense = [24, 15, 11, 0] ∧ timesOf (fired dense) = [24, 11, 0] ∧
        FiresMost 10 sparse ∧ (fired sparse).length ≤ (fired dense).length := by
  have hstart : Stands 0 ⟨.ofInterval 10 false none, true, 0, false⟩
      (fun _ _ => .fail (.reported "broken")) failingRig := by
    refine ⟨rfl, ?_⟩
    rw [Rig.courses, Array.getElem?_map]
    rfl
  have hunused : Usage 0 failingRig [] failingRig := .start
  have hfirst := hunused.activates 0
  have hsparse := (((hfirst.waits 15).activates 0).waits 24).activates 0
  have hdense :=
    (((((hfirst.waits 11).activates 0).waits 15).activates 0).waits 24).activates 0
  have hplain {activations : List Activated} {rig : Rig}
      (h : Usage 0 failingRig activations rig) (hordered : Ordered activations) :
      PlainHistory 10 activations :=
    ⟨_, _, _, _, _, _, _, hstart, h, hordered⟩
  obtain ⟨hmost, hmore⟩ := firesMost (by decide) (hplain hsparse (by decide +kernel))
  refine ⟨_, _, ?_, ?_, ?_, ?_, hmost,
    hmore _ (hplain hdense (by decide +kernel)) (by decide +kernel)⟩
  all_goals decide +kernel

end Debounced

end Cadence
