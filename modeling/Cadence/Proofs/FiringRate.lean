import Mathlib.Algebra.GroupWithZero.Nat
import Mathlib.Order.Lattice
import Cadence.Proofs.Handovers

/-!
The rate at which a debouncer fires.  Activations follow each other in a history,
the latest first, and what each of them does depends on when the last one before it
fired and on nothing else.
-/

namespace Cadence

/-- One activation of a debouncer: when it came, what it called, and its answer. -/
structure Activated where
  time : Nat
  calls : List Handover
  answer : Ending (Option (Except Failure Activation))

namespace Debouncer

/-- A debouncer that has not been activated, with a bound on its runs if one is
given. -/
def ofInterval (interval : Nat) (catchUp : Bool) (limit : Option Nat) :
    Debouncer :=
  let timed : Debouncer := { idle with interval, catchUp }
  (limit.map timed.limitedTo).getD timed

theorem ofInterval_eq (interval : Nat) (catchUp : Bool) (limit : Option Nat) :
    ofInterval interval catchUp limit =
      ⟨interval, none, catchUp, limit.map (Nat.max · 1)⟩ := by
  cases limit <;> rfl

/-- A debouncer that has last fired at a given time, if ever. -/
def firedAt (debouncer : Debouncer) (lastActivation : Option Nat) : Debouncer :=
  { debouncer with lastActivation }

/-- How many runs are due when `elapsed`, more than an interval, has gone: one for
each whole interval, except that two intervals exactly count as one. -/
def missedRuns (interval elapsed : Nat) : Nat :=
  if elapsed = 2 * interval then 1 else elapsed / interval

/-- How often an action is to run when `elapsed`, more than an interval, has
gone. -/
def exactRuns (interval : Nat) (catchUp : Bool) (limit : Option Nat)
    (elapsed : Nat) : Nat :=
  if catchUp then
    match limit with
    | none => missedRuns interval elapsed
    | some limit => min (missedRuns interval elapsed) (max limit 1)
  else 1

/-- When the last activation of a history that fired came. -/
def lastFiring : List Activated → Option Nat
  | [] => none
  | activated :: older =>
      if activated.calls = [] then lastFiring older else some activated.time

/-- How often the action ran in the course of a history. -/
def totalRuns (activations : List Activated) : Nat :=
  (activations.map (·.calls.length)).sum

/-- The time does not go back in a history, and no more than a machine word of
nanoseconds goes by without a firing. -/
def Timely : List Activated → Prop
  | [] => True
  | activated :: older =>
      (∀ earlier ∈ older, earlier.time ≤ activated.time) ∧
        (∀ last ∈ lastFiring older, activated.time - last < UInt64.size) ∧
          Timely older

instance decidableTimely : DecidablePred Timely
  | [] => .isTrue trivial
  | activated :: older =>
      have := decidableTimely older
      inferInstanceAs (Decidable
        ((∀ earlier ∈ older, earlier.time ≤ activated.time) ∧
          (∀ last ∈ lastFiring older, activated.time - last < UInt64.size) ∧
            Timely older))

section Runs

variable {interval elapsed : Nat}

theorem one_le_missedRuns (hpositive : 0 < interval) (hlate : interval < elapsed) :
    1 ≤ missedRuns interval elapsed := by
  unfold missedRuns
  split
  · exact Nat.le_refl 1
  · exact (Nat.le_div_iff_mul_le hpositive).mpr (by omega)

theorem missedRuns_le (hpositive : 0 < interval) (hlate : interval < elapsed) :
    missedRuns interval elapsed ≤ elapsed / interval := by
  unfold missedRuns
  split
  · exact (Nat.le_div_iff_mul_le hpositive).mpr (by omega)
  · exact Nat.le_refl _

theorem missedRuns_of_le (hlate : interval < elapsed)
    (hearly : elapsed ≤ 2 * interval) : missedRuns interval elapsed = 1 := by
  unfold missedRuns
  split
  · rfl
  · exact (Nat.div_eq_iff (by omega)).mpr (by omega)

theorem missedRuns_of_lt (h : 2 * interval < elapsed) :
    missedRuns interval elapsed = elapsed / interval :=
  if_neg (by omega)

/-- An activation that fires runs its action at least once. -/
theorem one_le_exactRuns (hpositive : 0 < interval) (hlate : interval < elapsed)
    (catchUp : Bool) (limit : Option Nat) :
    1 ≤ exactRuns interval catchUp limit elapsed := by
  have hmissed := one_le_missedRuns hpositive hlate
  unfold exactRuns
  cases catchUp with
  | false => exact Nat.le_refl 1
  | true =>
      cases limit with
      | none => exact hmissed
      | some limit => exact le_min hmissed (le_max_right limit 1)

/-- No activation runs its action more often than intervals have gone. -/
theorem exactRuns_le (hpositive : 0 < interval) (hlate : interval < elapsed)
    (catchUp : Bool) (limit : Option Nat) :
    exactRuns interval catchUp limit elapsed ≤ elapsed / interval := by
  have hmissed := missedRuns_le hpositive hlate
  unfold exactRuns
  cases catchUp with
  | false => exact (one_le_missedRuns hpositive hlate).trans hmissed
  | true =>
      cases limit with
      | none => exact hmissed
      | some limit => exact (min_le_left _ _).trans hmissed

/-- What a debouncer plans is what is due, as long as it fits a machine word. -/
theorem runsAfter_ofInterval (catchUp : Bool) (limit last : Option Nat)
    (hlate : interval < elapsed) (hspan : elapsed < UInt64.size) :
    ((ofInterval interval catchUp limit).firedAt last).runsAfter elapsed =
      exactRuns interval catchUp limit elapsed := by
  have hfits : elapsed / interval % countLimit = elapsed / interval :=
    Nat.mod_eq_of_lt ((Nat.div_le_self elapsed interval).trans_lt hspan)
  rw [ofInterval_eq, firedAt, runsAfter, isBehind]
  cases catchUp with
  | false => rfl
  | true =>
      by_cases hbehind : 2 * interval < elapsed
      · have hmissed := missedRuns_of_lt hbehind
        rw [Nat.mul_comm] at hbehind
        cases limit <;> simp [exactRuns, hbehind, hfits, hmissed]
      · have hmissed := missedRuns_of_le hlate (Nat.le_of_not_lt hbehind)
        rw [Nat.mul_comm] at hbehind
        cases limit <;> simp [exactRuns, hbehind, hmissed]

end Runs

/-- What an activation does, after a history of others. -/
structure Follows (interval : Nat) (catchUp : Bool) (limit : Option Nat)
    (activated : Activated) (older : List Activated) : Prop where
  first : lastFiring older = none → activated.calls.length = 1
  /-- It is skipped exactly if the last firing is an interval ago at most. -/
  skips : activated.calls = [] ↔
    ∃ last ∈ lastFiring older, activated.time ≤ last + interval
  runs : ∀ last ∈ lastFiring older, last + interval < activated.time →
    activated.calls.length =
      exactRuns interval catchUp limit (activated.time - last)

namespace Follows

variable {interval : Nat} {catchUp : Bool} {limit : Option Nat}
  {activated : Activated} {older : List Activated}

/-- Two firings in succession are more than an interval apart. -/
theorem spaced (h : Follows interval catchUp limit activated older)
    (hfires : activated.calls ≠ []) {last : Nat}
    (hlast : last ∈ lastFiring older) : last + interval < activated.time := by
  by_contra hearly
  exact hfires (h.skips.mpr ⟨last, hlast, Nat.le_of_not_lt hearly⟩)

theorem length_le (h : Follows interval catchUp limit activated older)
    (hpositive : 0 < interval) (hfires : activated.calls ≠ []) {last : Nat}
    (hlast : last ∈ lastFiring older) :
    activated.calls.length ≤ (activated.time - last) / interval := by
  have hspaced := h.spaced hfires hlast
  rw [h.runs last hlast hspaced]
  exact exactRuns_le hpositive (by omega) catchUp limit

end Follows

/-- The three plans of a debouncer: the first firing, a skip, and a later firing. -/
theorem plan_cases {interval : Nat} (hpositive : 0 < interval) (catchUp : Bool)
    (limit last : Option Nat) (now : Nat) :
    let fresh := ofInterval interval catchUp limit
    (last = none ∧ (fresh.firedAt last).plan now = (1, fresh.firedAt (some now))) ∨
      (∃ time ∈ last, now ≤ time + interval ∧
        (fresh.firedAt last).plan now = (0, fresh.firedAt last)) ∨
      ∃ time ∈ last, time + interval < now ∧
        (fresh.firedAt last).plan now =
          ((fresh.firedAt last).runsAfter (now - time), fresh.firedAt (some now)) := by
  intro fresh
  have hinterval : (fresh.firedAt last).interval = interval := by
    simp only [fresh, ofInterval_eq]
    rfl
  have henabled : (fresh.firedAt last).interval ≠ 0 := by
    rw [hinterval]
    exact Nat.ne_of_gt hpositive
  rcases last with _ | time
  · exact Or.inl ⟨rfl, plan_of_fresh henabled rfl now⟩
  · by_cases hearly : now ≤ time + interval
    · refine Or.inr (Or.inl ⟨time, rfl, hearly, plan_of_early henabled rfl ?_⟩)
      rw [hinterval]
      exact Nat.sub_le_of_le_add (by omega)
    · refine Or.inr (Or.inr ⟨time, rfl, by omega, plan_of_late henabled rfl ?_⟩)
      rw [hinterval]
      exact Nat.lt_sub_of_add_lt (by omega)

section Plan

variable {interval : Nat} {catchUp : Bool} {limit : Option Nat}
  {activated : Activated} {older : List Activated}

/-- An activation that does what its debouncer plans goes by the rules. -/
theorem Follows.of_plan (hpositive : 0 < interval)
    (hruns : activated.calls.length =
      (((ofInterval interval catchUp limit).firedAt (lastFiring older)).plan
        activated.time).1)
    (hspan : ∀ last ∈ lastFiring older,
      activated.time - last < UInt64.size) :
    Follows interval catchUp limit activated older := by
  rcases plan_cases hpositive catchUp limit (lastFiring older) activated.time with
    ⟨hnone, hplan⟩ | ⟨last, hlast, hearly, hplan⟩ | ⟨last, hlast, hlate, hplan⟩
  · rw [hplan] at hruns
    have hfires : activated.calls ≠ [] := List.ne_nil_of_length_eq_add_one hruns
    exact ⟨fun _ => hruns, by simp [hnone, hfires], by simp [hnone]⟩
  · rw [hplan] at hruns
    have hskips : activated.calls = [] := List.length_eq_zero_iff.mp hruns
    refine ⟨fun hnone => ?_, ⟨fun _ => ⟨last, hlast, hearly⟩, fun _ => hskips⟩, ?_⟩
    · rw [hnone] at hlast
      cases hlast
    · intro other hother hlate
      obtain rfl := Option.mem_unique hlast hother
      exact absurd hearly (Nat.not_le_of_lt hlate)
  · have hgone : interval < activated.time - last := by omega
    have hexact := hruns.trans ((congrArg Prod.fst hplan).trans
      (runsAfter_ofInterval catchUp limit (lastFiring older) hgone
        (hspan last hlast)))
    have hpos := one_le_exactRuns hpositive hgone catchUp limit
    have hfires : activated.calls ≠ [] := by
      rw [← List.length_pos_iff, hexact]
      exact hpos
    refine ⟨fun hnone => ?_, ⟨fun hskips => absurd hskips hfires, ?_⟩, ?_⟩
    · rw [hnone] at hlast
      cases hlast
    · rintro ⟨other, hother, hearly⟩
      obtain rfl := Option.mem_unique hlast hother
      exact absurd hearly (Nat.not_le_of_lt hlate)
    · intro other hother _
      obtain rfl := Option.mem_unique hlast hother
      exact hexact

/-- The baseline of a debouncer is the time at which it last fired. -/
theorem firedAt_of_plan (hpositive : 0 < interval)
    (hruns : activated.calls.length =
      (((ofInterval interval catchUp limit).firedAt (lastFiring older)).plan
        activated.time).1)
    (hspan : ∀ last ∈ lastFiring older,
      activated.time - last < UInt64.size) :
    (((ofInterval interval catchUp limit).firedAt (lastFiring older)).plan
      activated.time).2 =
        (ofInterval interval catchUp limit).firedAt
          (lastFiring (activated :: older)) := by
  have hfollows := Follows.of_plan hpositive hruns hspan
  rw [lastFiring]
  rcases plan_cases hpositive catchUp limit (lastFiring older) activated.time with
    ⟨hnone, hplan⟩ | ⟨last, hlast, hearly, hplan⟩ | ⟨last, hlast, hlate, hplan⟩
  · rw [hplan] at hruns ⊢
    rw [if_neg (List.ne_nil_of_length_eq_add_one hruns)]
  · rw [hplan, if_pos (hfollows.skips.mpr ⟨last, hlast, hearly⟩)]
  · have hfires : activated.calls ≠ [] := by
      intro hskips
      obtain ⟨other, hother, hearly⟩ := hfollows.skips.mp hskips
      obtain rfl := Option.mem_unique hlast hother
      exact absurd hearly (Nat.not_le_of_lt hlate)
    rw [hplan, if_neg hfires]

end Plan

/-- A history in which each activation follows the ones before it. -/
def Regular (interval : Nat) (catchUp : Bool) (limit : Option Nat) :
    List Activated → Prop
  | [] => True
  | activated :: older =>
      Follows interval catchUp limit activated older ∧
        Regular interval catchUp limit older

theorem Regular.suffix {interval : Nat} {catchUp : Bool} {limit : Option Nat}
    {newer older : List Activated}
    (h : Regular interval catchUp limit (newer ++ older)) :
    Regular interval catchUp limit older := by
  induction newer with
  | nil => exact h
  | cons activated newer ih => exact ih h.2

theorem Timely.suffix {newer older : List Activated} (h : Timely (newer ++ older)) :
    Timely older := by
  induction newer with
  | nil => exact h
  | cons activated newer ih => exact ih h.2.2

section Total

variable {interval : Nat} {catchUp : Bool} {limit : Option Nat}

theorem time_of_lastFiring {activations : List Activated} {last : Nat}
    (h : last ∈ lastFiring activations) :
    ∃ activated ∈ activations, activated.time = last := by
  induction activations with
  | nil => cases h
  | cons activated older ih =>
      rw [lastFiring] at h
      split at h
      · obtain ⟨earlier, hearlier, htime⟩ := ih h
        exact ⟨earlier, List.mem_cons_of_mem _ hearlier, htime⟩
      · cases h
        exact ⟨activated, List.mem_cons_self, rfl⟩

/-- Up to the last firing, the action has run once and at most once more for each
interval since the first activation. -/
theorem totalRuns_le_of_lastFiring (hpositive : 0 < interval)
    {activations : List Activated}
    (hregular : Regular interval catchUp limit activations) {first : Activated}
    (hfirst : first ∈ activations.getLast?) :
    ∃ last ∈ lastFiring activations, first.time ≤ last ∧
      totalRuns activations ≤ 1 + (last - first.time) / interval := by
  induction activations with
  | nil => cases hfirst
  | cons activated older ih =>
      cases older with
      | nil =>
          obtain rfl : activated = first := Option.some.inj hfirst
          have hone := hregular.1.first rfl
          refine ⟨activated.time, ?_, Nat.le_refl _, ?_⟩
          · have hfires : activated.calls ≠ [] := by
              rw [← List.length_pos_iff, hone]
              exact Nat.one_pos
            simp [lastFiring, hfires]
          · simp [totalRuns, hone]
      | cons earlier oldest =>
          obtain ⟨last, hlast, hle, htotal⟩ := ih hregular.2 hfirst
          by_cases hskips : activated.calls = []
          · refine ⟨last, ?_, hle, ?_⟩
            · rw [lastFiring, if_pos hskips]
              exact hlast
            · simpa [totalRuns, hskips] using htotal
          · have hspaced := hregular.1.spaced hskips hlast
            have hruns := hregular.1.length_le hpositive hskips hlast
            refine ⟨activated.time, ?_, by omega, ?_⟩
            · rw [lastFiring, if_neg hskips]
              rfl
            · -- Whole intervals before the last firing and after it are whole
              -- intervals of the time between its ends.
              have hparts : (last - first.time) / interval +
                  (activated.time - last) / interval ≤
                    (last - first.time + (activated.time - last)) / interval :=
                Nat.div_add_div_le_add_div
              have hspan : last - first.time + (activated.time - last) =
                  activated.time - first.time := by omega
              rw [hspan] at hparts
              have hsum : totalRuns (activated :: earlier :: oldest) =
                  activated.calls.length + totalRuns (earlier :: oldest) :=
                List.sum_cons
              omega

/-- The action never runs more than once, and once more for each interval, since
the first activation. -/
theorem totalRuns_le (hpositive : 0 < interval) {activated first : Activated}
    {older : List Activated}
    (hregular : Regular interval catchUp limit (activated :: older))
    (htimely : Timely (activated :: older))
    (hfirst : first ∈ (activated :: older).getLast?) :
    totalRuns (activated :: older) ≤
      1 + (activated.time - first.time) / interval := by
  obtain ⟨last, hlast, hle, htotal⟩ :=
    totalRuns_le_of_lastFiring hpositive hregular hfirst
  have hpast : last ≤ activated.time := by
    obtain ⟨source, hsource, rfl⟩ := time_of_lastFiring hlast
    rcases List.mem_cons.mp hsource with rfl | hearlier
    · exact Nat.le_refl _
    · exact htimely.1 source hearlier
  have hspan := Nat.div_le_div_right (c := interval)
    (Nat.sub_le_sub_right hpast first.time)
  omega

end Total

end Debouncer

end Cadence
