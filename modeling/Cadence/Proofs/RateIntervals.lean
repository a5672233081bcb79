import Cadence.Proofs.RoundedIntervals
import Cadence.Rig.Bench

/-!
The interval that a debouncer is given for a rate.  A slower rate never gives a
shorter one, down to the rates at which the time between two activations overflows:
these disable the debouncer, as do rates above a thousand per second.
-/

namespace Cadence

/-- A point of the grid beyond a multiple of its spacing is the next multiple at
least. -/
theorem add_pow_le_of_onGrid {units bound shift : Nat} (h : OnGrid units)
    (hwide : 2 ^ (52 + shift) ≤ bound) (hdvd : 2 ^ shift ∣ bound)
    (hlt : bound < units) : bound + 2 ^ shift ≤ units := by
  have hunits := pow_dvd_of_onGrid h (Nat.le_of_lt (Nat.lt_of_le_of_lt hwide hlt))
  have hgap := Nat.le_of_dvd (Nat.sub_pos_of_lt hlt) (Nat.dvd_sub hunits hdvd)
  omega

namespace Binary64

open Magnitude

/-- One number is at most another, neither of them negative. -/
inductive Below : Binary64 → Binary64 → Prop
  | finite {small large : Magnitude} (hunits : small.units ≤ large.units) :
      Below (.finite false small) (.finite false large)
  | overflow {small : Magnitude} : Below (.finite false small) (.infinite false)
  | infinite : Below (.infinite false) (.infinite false)

theorem below_infinite (numerator denominator : Nat) :
    Below (ofUnitRatio false numerator denominator) (.infinite false) := by
  by_cases hlt : roundRatio numerator denominator < overflowUnits
  · rw [ofUnitRatio_of_lt hlt]
    exact .overflow
  · rw [ofUnitRatio_of_not_lt hlt]
    exact .infinite

theorem below_ofUnitRatio {a b c d : Nat} (hb : 0 < b) (hd : 0 < d)
    (hle : a * d ≤ c * b) : Below (ofUnitRatio false a b) (ofUnitRatio false c d) := by
  by_cases hlarge : roundRatio c d < overflowUnits
  · have hround := roundRatio_mono hb hd hle
    rw [ofUnitRatio_of_lt hlarge, ofUnitRatio_of_lt (Nat.lt_of_le_of_lt hround hlarge)]
    exact .finite hround
  · rw [ofUnitRatio_of_not_lt hlarge]
    exact below_infinite a b

namespace Below

variable {a b : Binary64}

theorem floor (h : a.Below b) : a.floor.Below b.floor := by
  cases h with
  | finite hunits =>
      rw [floor_finite, floor_finite]
      apply below_ofUnitRatio Nat.one_pos Nat.one_pos
      rw [Nat.mul_one, Nat.mul_one]
      exact Nat.mul_le_mul_right _ (Nat.div_le_div_right hunits)
  | overflow =>
      rw [floor_finite]
      exact below_infinite _ _
  | infinite => exact .infinite

theorem round (h : a.Below b) : a.round.Below b.round := by
  cases h with
  | finite hunits =>
      rw [round_finite, round_finite]
      apply below_ofUnitRatio Nat.one_pos Nat.one_pos
      rw [Nat.mul_one, Nat.mul_one]
      apply Nat.mul_le_mul_right _ (Nat.div_le_div_right _)
      omega
  | overflow =>
      rw [round_finite]
      exact below_infinite _ _
  | infinite => exact .infinite

theorem mul_ofNat {factor : Nat} (hfactor : factor < 2 * hiddenBit) (hpos : 0 < factor)
    (h : a.Below b) : (a * Binary64.ofNat factor).Below (b * Binary64.ofNat factor) := by
  rw [ofNat_of_lt hfactor]
  cases h with
  | finite hunits =>
      rw [mul_finite, mul_finite]
      apply below_ofUnitRatio unitsPerOne_pos unitsPerOne_pos
      exact Nat.mul_le_mul_right _ (Nat.mul_le_mul_right _ hunits)
  | overflow =>
      rw [mul_finite, infinite_mul_ofNat hpos]
      exact below_infinite _ _
  | infinite =>
      rw [infinite_mul_ofNat hpos]
      exact .infinite

theorem toNatUpTo (h : a.Below b) (bound : Nat) :
    a.toNatUpTo bound ≤ b.toNatUpTo bound := by
  cases h with
  | finite hunits =>
      have hwhole := Nat.div_le_div_right (c := unitsPerOne) hunits
      exact Nat.le_min.mpr
        ⟨Nat.le_trans (Nat.min_le_left _ _) hwhole, Nat.min_le_right _ _⟩
  | overflow => exact Nat.min_le_right _ _
  | infinite => exact Nat.le_refl _

end Below

/-- A positive number and its place in the order of numbers. -/
inductive Positive : Binary64 → Nat → Prop
  | infinite : Positive (.infinite false) overflowUnits
  | finite {magnitude : Magnitude} (hpos : 0 < magnitude.units) :
      Positive (.finite false magnitude) magnitude.units

theorem position_zero : position? 0 = some 0 := by
  decide +kernel

theorem exists_positive {a : Binary64} (h : 0 < a) : ∃ place, a.Positive place := by
  change Binary64.lt 0 a = true at h
  rw [lt, position_zero] at h
  cases a with
  | nan => cases h
  | infinite negative =>
      cases negative with
      | false => exact ⟨_, .infinite⟩
      | true =>
          have hplace := of_decide_eq_true h
          simp only [if_true] at hplace
          omega
  | finite negative magnitude =>
      cases negative with
      | false =>
          have hplace := of_decide_eq_true h
          simp only [Bool.false_eq_true, if_false] at hplace
          exact ⟨_, .finite (by omega)⟩
      | true =>
          have hplace := of_decide_eq_true h
          simp only [if_true] at hplace
          omega

namespace Positive

variable {a b : Binary64} {x y : Nat}

theorem pos (h : a.Positive x) : 0 < x := by
  cases h with
  | infinite => decide +kernel
  | finite hpos => exact hpos

theorem position (h : a.Positive x) : a.position? = some (x : Int) := by
  cases h <;> rfl

theorem lt_iff (ha : a.Positive x) (hb : b.Positive y) : a < b ↔ x < y := by
  change a.lt b = true ↔ _
  rw [lt, ha.position, hb.position, decide_eq_true_iff, Int.ofNat_lt]

theorem le_iff (ha : a.Positive x) (hb : b.Positive y) : a ≤ b ↔ x ≤ y := by
  change a.le b = true ↔ _
  rw [le, ha.position, hb.position, decide_eq_true_iff, Int.ofNat_le]

theorem not_lt_iff (ha : a.Positive x) (hb : b.Positive y) : ¬ a < b ↔ b ≤ a := by
  rw [ha.lt_iff hb, hb.le_iff ha, Nat.not_lt]

theorem not_le_iff (ha : a.Positive x) (hb : b.Positive y) : ¬ a ≤ b ↔ b < a := by
  rw [ha.le_iff hb, hb.lt_iff ha, Nat.not_le]

end Positive

theorem lt_of_lt_of_le {a b : Binary64} (hpos : 0 < a) (hle : a ≤ b) : 0 < b := by
  obtain ⟨x, ha⟩ := exists_positive hpos
  change a.le b = true at hle
  change Binary64.lt 0 b = true
  rw [le, ha.position] at hle
  rw [lt, position_zero]
  cases hb : b.position? with
  | none =>
      rw [hb] at hle
      cases hle
  | some y =>
      rw [hb] at hle
      have hplaces : (x : Int) ≤ y := of_decide_eq_true hle
      have := ha.pos
      exact decide_eq_true (by omega)

end Binary64

namespace Duration

open Binary64

theorem ofMillisRounded_of_pos {magnitude : Magnitude} (hpos : 0 < magnitude.units) :
    ofMillisRounded (.finite false magnitude) =
      (.finite false magnitude * Binary64.ofNat 1000000).round.toNatUpTo longest := by
  rw [ofMillisRounded, lt_zero_finite hpos]
  exact if_pos rfl

/-- More milliseconds give no shorter duration, as long as they are finite. -/
theorem ofMillisRounded_mono {a b : Binary64} (hfinite : b.isFinite = true)
    (h : a.Below b) : ofMillisRounded a ≤ ofMillisRounded b := by
  cases h with
  | overflow => cases hfinite
  | infinite => cases hfinite
  | @finite small large hunits =>
      rcases Nat.eq_zero_or_pos small.units with hzero | hpos
      · have hsmall : Binary64.lt 0 (.finite false small) = false := by
          rw [lt, position_zero]
          exact decide_eq_false fun hpos => by
            rw [if_neg Bool.false_ne_true, hzero] at hpos
            exact Int.lt_irrefl 0 hpos
        rw [ofMillisRounded, hsmall, Bool.and_false]
        exact Nat.zero_le _
      · have hproduct := (Below.finite hunits).mul_ofNat
          (show 1000000 < 2 * hiddenBit by decide) (by decide)
        rw [ofMillisRounded_of_pos hpos,
          ofMillisRounded_of_pos (Nat.lt_of_lt_of_le hpos hunits)]
        exact hproduct.round.toNatUpTo longest

end Duration

namespace Debouncer

open Binary64 Magnitude

/-- The fastest rate at which the time between two activations overflows. -/
def overflowRate : Binary64 := Binary64.ofRatio false 1000 (2 ^ 1024)

/-- The units of that rate. -/
def overflowPlace : Nat := 1000 * 2 ^ 50

theorem overflowRate_eq :
    overflowRate = .finite false ⟨overflowPlace, by decide +kernel⟩ := by
  decide +kernel

theorem positive_overflowRate : overflowRate.Positive overflowPlace := by
  rw [overflowRate_eq]
  exact .finite (by decide : 0 < overflowPlace)

theorem positive_thousand : Binary64.Positive 1000 (1000 * unitsPerOne) := by
  have hrate : (1000 : Binary64) = .finite false (.ofNat 1000 (by decide)) :=
    ofNat_of_lt (by decide)
  rw [hrate]
  exact .finite (Nat.mul_pos (by decide) unitsPerOne_pos)

section Finite

variable {rate slow fast : Magnitude}

theorem intervalOfRate_finite (hpos : 0 < rate.units) :
    intervalOfRate (.finite false rate) = Duration.ofMillisRounded
      (ofUnitRatio false (1000 * unitsPerOne * unitsPerOne) rate.units).floor := by
  rw [intervalOfRate, if_pos (lt_zero_finite hpos), thousand_div hpos]

/-- Slow rates are disabled by an overflow. -/
theorem intervalOfRate_of_le (hpos : 0 < rate.units) (hle : rate.units ≤ overflowPlace) :
    intervalOfRate (.finite false rate) = 0 := by
  have hover : overflowUnits ≤ roundRatio (1000 * unitsPerOne * unitsPerOne) rate.units :=
    calc overflowUnits
        ≤ roundRatio (1000 * unitsPerOne * unitsPerOne) overflowPlace := by decide +kernel
      _ ≤ roundRatio (1000 * unitsPerOne * unitsPerOne) rate.units :=
        roundRatio_mono (by decide) hpos (Nat.mul_le_mul_left _ hle)
  rw [intervalOfRate_finite hpos, ofUnitRatio_of_not_lt (Nat.not_lt_of_le hover)]
  rfl

/-- The next rate does not overflow, so none above does. -/
theorem lt_overflowUnits (hlt : overflowPlace < rate.units) :
    roundRatio (1000 * unitsPerOne * unitsPerOne) rate.units < overflowUnits := by
  have hnext : overflowPlace + 2 ^ 7 ≤ rate.units :=
    add_pow_le_of_onGrid rate.onGrid (by decide) (by decide) hlt
  calc roundRatio (1000 * unitsPerOne * unitsPerOne) rate.units
      ≤ roundRatio (1000 * unitsPerOne * unitsPerOne) (overflowPlace + 2 ^ 7) :=
        roundRatio_mono (Nat.zero_lt_of_lt hlt) (by decide) (Nat.mul_le_mul_left _ hnext)
    _ < overflowUnits := by decide +kernel

/-- Less than a millisecond is none. -/
theorem intervalOfRate_of_thousand_lt (hlt : 1000 * unitsPerOne < rate.units) :
    intervalOfRate (.finite false rate) = 0 := by
  have hpos := Nat.zero_lt_of_lt hlt
  have hnext : 1000 * unitsPerOne + 2 ^ 1031 ≤ rate.units :=
    add_pow_le_of_onGrid rate.onGrid (by decide +kernel) (by decide +kernel) hlt
  have hless : roundRatio (1000 * unitsPerOne * unitsPerOne) rate.units < unitsPerOne :=
    calc roundRatio (1000 * unitsPerOne * unitsPerOne) rate.units
        ≤ roundRatio (1000 * unitsPerOne * unitsPerOne) (1000 * unitsPerOne + 2 ^ 1031) :=
          roundRatio_mono hpos (by decide +kernel) (Nat.mul_le_mul_left _ hnext)
      _ < unitsPerOne := by decide +kernel
  have hfinite := Nat.lt_trans hless (by decide +kernel : unitsPerOne < overflowUnits)
  rw [intervalOfRate_finite hpos, ofUnitRatio_of_lt hfinite, floor_finite, wholePart,
    Nat.div_eq_of_lt hless]
  decide +kernel

theorem le_intervalOfRate (hlow : overflowPlace < rate.units)
    (hhigh : rate.units ≤ 1000 * unitsPerOne) :
    Duration.ofMillis 1 ≤ intervalOfRate (.finite false rate) := by
  have hpos := Nat.zero_lt_of_lt hlow
  have hfinite := lt_overflowUnits hlow
  have honce : 1 * unitsPerOne * rate.units ≤ 1000 * unitsPerOne * unitsPerOne := by
    rw [Nat.one_mul, Nat.mul_comm]
    exact Nat.mul_le_mul_right _ hhigh
  have hone := atLeast_ofUnitRatio (by decide) hpos honce
  rw [intervalOfRate_finite hpos]
  rw [ofUnitRatio_of_lt hfinite] at hone ⊢
  exact Duration.le_ofMillisRounded Nat.one_pos (by decide) (isFinite_floor _)
    (hone.floor (by decide))

theorem intervalOfRate_le (hlow : overflowPlace < slow.units)
    (hle : slow.units ≤ fast.units) :
    intervalOfRate (.finite false fast) ≤ intervalOfRate (.finite false slow) := by
  have hpos := Nat.zero_lt_of_lt hlow
  have hfast := Nat.lt_of_lt_of_le hpos hle
  have hbelow := below_ofUnitRatio hfast hpos
    (Nat.mul_le_mul_left (1000 * unitsPerOne * unitsPerOne) hle)
  rw [intervalOfRate_finite hpos, intervalOfRate_finite hfast]
  rw [ofUnitRatio_of_lt (lt_overflowUnits hlow)] at hbelow ⊢
  exact Duration.ofMillisRounded_mono (isFinite_floor _) hbelow.floor

end Finite

theorem intervalOfRate_infinite : intervalOfRate (.infinite false) = 0 := by
  decide +kernel

/-- A rate that is not too slow and not too fast gives a millisecond at least, and
any other one disables. -/
theorem intervalOfRate_cases {a : Binary64} (hpos : 0 < a) :
    (overflowRate < a ∧ a ≤ 1000) ∧ Duration.ofMillis 1 ≤ intervalOfRate a ∨
      ¬ (overflowRate < a ∧ a ≤ 1000) ∧ intervalOfRate a = 0 := by
  obtain ⟨x, ha⟩ := exists_positive hpos
  rw [positive_overflowRate.lt_iff ha, ha.le_iff positive_thousand]
  cases ha with
  | infinite =>
      have hfast : 1000 * unitsPerOne < overflowUnits := by decide +kernel
      exact .inr ⟨fun hrange => Nat.not_lt_of_le hrange.2 hfast, intervalOfRate_infinite⟩
  | @finite rate hunits =>
      by_cases hlow : overflowPlace < rate.units
      · by_cases hhigh : rate.units ≤ 1000 * unitsPerOne
        · exact .inl ⟨⟨hlow, hhigh⟩, le_intervalOfRate hlow hhigh⟩
        · exact .inr ⟨fun hrange => hhigh hrange.2,
            intervalOfRate_of_thousand_lt (Nat.lt_of_not_le hhigh)⟩
      · exact .inr ⟨fun hrange => hlow hrange.1,
          intervalOfRate_of_le hunits (Nat.le_of_not_lt hlow)⟩

theorem intervalOfRate_antitone {a b : Binary64} (hpos : 0 < a)
    (hlow : overflowRate < a) (hle : a ≤ b) : intervalOfRate b ≤ intervalOfRate a := by
  obtain ⟨x, ha⟩ := exists_positive hpos
  obtain ⟨y, hb⟩ := exists_positive (lt_of_lt_of_le hpos hle)
  rw [positive_overflowRate.lt_iff ha] at hlow
  rw [ha.le_iff hb] at hle
  cases hb with
  | infinite =>
      rw [intervalOfRate_infinite]
      exact Nat.zero_le _
  | @finite fast hfast =>
      cases ha with
      | infinite => exact absurd hle (Nat.not_le_of_lt fast.onGrid.1)
      | finite hslow => exact intervalOfRate_le hlow hle

theorem intervalOfRate_ne_zero_iff {a : Binary64} (hpos : 0 < a) :
    intervalOfRate a ≠ 0 ↔ overflowRate < a ∧ a ≤ 1000 := by
  rcases intervalOfRate_cases hpos with ⟨hrange, hmilli⟩ | ⟨hnot, hzero⟩
  · have hne := Nat.pos_iff_ne_zero.mp (Nat.lt_of_lt_of_le (by decide) hmilli)
    exact ⟨fun _ => hrange, fun _ => hne⟩
  · exact ⟨fun hne => absurd hzero hne, fun hrange => absurd hrange hnot⟩

theorem intervalOfRate_eq_zero_iff {a : Binary64} (hpos : 0 < a) :
    intervalOfRate a = 0 ↔ a ≤ overflowRate ∨ 1000 < a := by
  obtain ⟨x, ha⟩ := exists_positive hpos
  rw [← Decidable.not_not (p := intervalOfRate a = 0), ← ne_eq,
    intervalOfRate_ne_zero_iff hpos, Decidable.not_and_iff_not_or_not,
    positive_overflowRate.not_lt_iff ha, ha.not_le_iff positive_thousand]

theorem interval_adjusted (timing : Debouncer) (perSecond : Binary64) :
    (Debounced.adjusted timing (.rate perSecond)).interval =
      intervalOfRate perSecond := by
  simp only [Debounced.adjusted, withInterval]

theorem isEnabled_iff (timing : Debouncer) :
    timing.isEnabled = true ↔ timing.interval ≠ 0 :=
  bne_iff_ne

/-- A slower rate limits no less, unless it is so slow that its interval overflows
while that of the faster one does not. -/
theorem slowerLimitsMore (timing : Debouncer) {a b : Binary64} (hpos : 0 < a)
    (hle : a ≤ b) :
    let slow := Debounced.adjusted timing (.rate a)
    let fast := Debounced.adjusted timing (.rate b)
    (fast.interval ≤ slow.interval ↔
        overflowRate < a ∨ b ≤ overflowRate ∨ 1000 < b) ∧
      (slow.isEnabled = true ↔ overflowRate < a ∧ a ≤ 1000) ∧
      (slow.isEnabled = true → Duration.ofMillis 1 ≤ slow.interval) := by
  intro slow fast
  simp only [isEnabled_iff, slow, fast, interval_adjusted]
  have hfast := intervalOfRate_eq_zero_iff (lt_of_lt_of_le hpos hle)
  refine ⟨⟨fun hlimits => ?_, ?_⟩, intervalOfRate_ne_zero_iff hpos, fun hne => ?_⟩
  · by_cases hlow : overflowRate < a
    · exact .inl hlow
    · have hzero : intervalOfRate a = 0 := by
        by_contra hne
        exact hlow ((intervalOfRate_ne_zero_iff hpos).mp hne).1
      rw [hzero, Nat.le_zero] at hlimits
      exact .inr (hfast.mp hlimits)
  · rintro (hlow | hdisabled)
    · exact intervalOfRate_antitone hpos hlow hle
    · rw [hfast.mpr hdisabled]
      exact Nat.zero_le _
  · rcases intervalOfRate_cases hpos with ⟨_, hmilli⟩ | ⟨_, hzero⟩
    · exact hmilli
    · exact absurd hzero hne

/-- The slowest rate of all disables, while one activation per second is kept to. -/
theorem slowerLimitsMore_slowest :
    let slow := Debounced.adjusted .idle (.rate (Binary64.ofBits 1))
    let fast := Debounced.adjusted .idle (.rate 1)
    0 < Binary64.ofBits 1 ∧ Binary64.ofBits 1 ≤ 1 ∧ slow.isEnabled = false ∧
      fast.interval = Duration.ofMillis 1000 ∧ ¬ fast.interval ≤ slow.interval := by
  have hpos : 0 < Binary64.ofBits 1 := by decide +kernel
  have hle : Binary64.ofBits 1 ≤ 1 := by decide +kernel
  obtain ⟨hlimits, henabled, _⟩ := slowerLimitsMore .idle hpos hle
  have hslow : ¬ (overflowRate < Binary64.ofBits 1 ∧ Binary64.ofBits 1 ≤ 1000) := by
    decide +kernel
  have hnone : ¬ (overflowRate < Binary64.ofBits 1 ∨ 1 ≤ overflowRate ∨
      (1000 : Binary64) < 1) := by
    decide +kernel
  refine ⟨hpos, hle, ?_, by decide +kernel, fun h => hnone (hlimits.mp h)⟩
  exact Bool.eq_false_iff.mpr fun h => hslow (henabled.mp h)

end Debouncer

end Cadence
