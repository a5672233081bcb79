import Mathlib.Tactic.Linarith
import Cadence.Proofs.RateIntervals

/-!
Frame times of whole milliseconds.  Such a time is turned into a rate and back, each
quotient rounded to 53 bits, and floored.  It comes back as it was or a millisecond
shorter; the rounded rate says which.
-/

namespace Cadence

open Binary64 Magnitude

theorem roundHalfEven_error (numerator : Nat) {denominator : Nat}
    (hpos : 0 < denominator) :
    2 * numerator ≤
        2 * (denominator * roundHalfEven numerator denominator) + denominator ∧
      2 * (denominator * roundHalfEven numerator denominator) ≤
        2 * numerator + denominator := by
  have hsum := Nat.div_add_mod numerator denominator
  have hrest := Nat.mod_lt numerator hpos
  have hnext (quotient : Nat) : denominator * (quotient + 1) =
      denominator * quotient + denominator := Nat.mul_succ _ _
  unfold roundHalfEven
  generalize numerator / denominator = quotient at *
  generalize numerator % denominator = rest at *
  dsimp only
  split
  · omega
  · split
    · rw [hnext]
      omega
    · rcases Nat.mod_two_eq_zero_or_one quotient with heven | hodd
      · rw [heven, Nat.add_zero]
        omega
      · rw [hodd, hnext]
        omega

/-- A rounded quotient errs by at most one part in 2^53. -/
theorem roundRatio_error {numerator denominator : Nat} (hpos : 0 < denominator)
    (hcoarse : 2 ^ 52 ≤ numerator / denominator) :
    2 ^ 53 * numerator ≤
        2 ^ 53 * (denominator * roundRatio numerator denominator) + numerator ∧
      2 ^ 53 * (denominator * roundRatio numerator denominator) ≤
        2 ^ 53 * numerator + numerator := by
  have hne : numerator / denominator ≠ 0 := by omega
  have hlog : 52 ≤ (numerator / denominator).log2 := (Nat.le_log2 hne).mpr hcoarse
  have hspacing : gridSpacing (numerator / denominator) * 2 ^ 52 ≤
      numerator / denominator := by
    calc gridSpacing (numerator / denominator) * 2 ^ 52
        = 2 ^ ((numerator / denominator).log2 - 52) * 2 ^ 52 := rfl
      _ = 2 ^ (numerator / denominator).log2 := by
        rw [← Nat.pow_add, Nat.sub_add_cancel hlog]
      _ ≤ numerator / denominator := Nat.log2_self_le hne
  have hwidth :
      denominator * gridSpacing (numerator / denominator) * 2 ^ 52 ≤ numerator :=
    calc denominator * gridSpacing (numerator / denominator) * 2 ^ 52
        = denominator * (gridSpacing (numerator / denominator) * 2 ^ 52) :=
          Nat.mul_assoc _ _ _
      _ ≤ denominator * (numerator / denominator) := Nat.mul_le_mul_left _ hspacing
      _ ≤ numerator := Nat.mul_div_le _ _
  have hgrid : 0 < gridSpacing (numerator / denominator) := Nat.two_pow_pos _
  have herror := roundHalfEven_error numerator (Nat.mul_pos hpos hgrid)
  have hscaled : denominator * roundRatio numerator denominator =
      denominator * gridSpacing (numerator / denominator) *
        roundHalfEven numerator
          (denominator * gridSpacing (numerator / denominator)) := by
    unfold roundRatio
    ring
  rw [hscaled]
  omega

namespace Binary64

theorem units_ofNat_pos {n : Nat} (hpos : 0 < n) (h : n < 2 * hiddenBit) :
    0 < (Magnitude.ofNat n h).units := by
  rw [units_ofNat]
  exact Nat.mul_pos hpos unitsPerOne_pos

theorem ofNat_mul_ofNat {a b : Nat} (ha : a < 2 * hiddenBit) (hb : b < 2 * hiddenBit)
    (h : a * b < 2 * hiddenBit) :
    Binary64.ofNat a * Binary64.ofNat b = Binary64.ofNat (a * b) := by
  have hproduct : a * unitsPerOne * (b * unitsPerOne) =
      a * b * unitsPerOne * unitsPerOne := by ring
  rw [ofNat_of_lt ha, ofNat_of_lt hb, ofNat_of_lt h, mul_finite, units_ofNat, units_ofNat,
    hproduct]
  exact ofUnitRatio_of_onGrid (Magnitude.ofNat (a * b) h).onGrid unitsPerOne_pos false

theorem round_ofNat {n : Nat} (h : n < 2 * hiddenBit) :
    (Binary64.ofNat n).round = Binary64.ofNat n := by
  have hunits := unitsPerOne_pos
  have hnearest : (2 * (n * unitsPerOne) + unitsPerOne) / (2 * unitsPerOne) = n := by
    have hsum : 2 * (n * unitsPerOne) + unitsPerOne =
        unitsPerOne + 2 * unitsPerOne * n := by ring
    rw [hsum, Nat.add_mul_div_left _ _ (by omega), Nat.div_eq_of_lt (by omega),
      Nat.zero_add]
  rw [ofNat_of_lt h, round_finite, units_ofNat, hnearest, ← ofNat_of_lt h]
  rfl

theorem toNatUpTo_ofNat {n bound : Nat} (h : n < 2 * hiddenBit) (hle : n ≤ bound) :
    (Binary64.ofNat n).toNatUpTo bound = n := by
  rw [ofNat_of_lt h, toNatUpTo, wholePart, units_ofNat,
    Nat.mul_div_cancel _ unitsPerOne_pos, Nat.min_eq_left hle]
  exact if_neg Bool.false_ne_true

end Binary64

/-- Whole milliseconds are durations as they are. -/
theorem Duration.ofMillisRounded_ofNat {n : Nat} (h : ofMillis n < 2 * hiddenBit) :
    ofMillisRounded (Binary64.ofNat n) = ofMillis n := by
  have hn : n < 2 * hiddenBit :=
    Nat.lt_of_le_of_lt (Nat.le_mul_of_pos_right _ (by decide)) h
  rcases Nat.eq_zero_or_pos n with rfl | hpos
  · decide +kernel
  · have hproduct : Binary64.ofNat n * Binary64.ofNat 1000000 =
        Binary64.ofNat (ofMillis n) := ofNat_mul_ofNat hn (by decide) h
    rw [ofNat_of_lt hn, ofMillisRounded_of_pos (units_ofNat_pos hpos hn),
      ← ofNat_of_lt hn, hproduct, round_ofNat h]
    exact toNatUpTo_ofNat h (Nat.le_trans (Nat.le_of_lt h) (by decide))

/-- One is this power of two in units. -/
def unitShift : Nat := 1074

theorem two_pow_unitShift : 2 ^ unitShift = unitsPerOne := by
  decide +kernel

namespace Driver

/-- The units of the frame rate of a frame time of whole milliseconds. -/
def frameRateUnits (millis : Nat) : Nat :=
  roundRatio (1000 * unitsPerOne * unitsPerOne) (millis * unitsPerOne)

/-- The units of the time between frames at that rate, in milliseconds. -/
def frameTimeUnits (millis : Nat) : Nat :=
  roundRatio (1000 * unitsPerOne * unitsPerOne) (frameRateUnits millis)

/-- At the rounded frame rate the time between frames is no less than half-way from
the number before the frame time to the frame time. -/
def IsHonoured (millis : Nat) : Prop :=
  frameRateUnits millis * (2 ^ 53 * millis - 2 ^ millis.log2) ≤
    2 ^ 53 * (1000 * unitsPerOne)

instance (millis : Nat) : Decidable (IsHonoured millis) :=
  inferInstanceAs (Decidable (_ ≤ _))

/-- The milliseconds between renders at a frame time of whole milliseconds. -/
def keptMillis (millis : Nat) : Nat :=
  if IsHonoured millis then millis else millis - 1

section Millis

variable {millis : Nat}

theorem keptMillis_cases (hpos : 0 < millis) :
    keptMillis millis = millis ∧ IsHonoured millis ∨
      keptMillis millis + 1 = millis ∧ ¬ IsHonoured millis := by
  unfold keptMillis
  split
  · rename_i hhonoured
    exact .inl ⟨rfl, hhonoured⟩
  · rename_i hshort
    exact .inr ⟨Nat.sub_add_cancel hpos, hshort⟩

theorem frameRateUnits_error (hpos : 0 < millis) (hlt : millis < 2 ^ 52) :
    2 ^ 53 * (1000 * unitsPerOne) ≤
        2 ^ 53 * (millis * frameRateUnits millis) + 1000 * unitsPerOne ∧
      2 ^ 53 * (millis * frameRateUnits millis) ≤
        2 ^ 53 * (1000 * unitsPerOne) + 1000 * unitsPerOne := by
  have hcoarse : 2 ^ 52 ≤
      1000 * unitsPerOne * unitsPerOne / (millis * unitsPerOne) := by
    rw [Nat.mul_div_mul_right _ _ unitsPerOne_pos, Nat.le_div_iff_mul_le hpos]
    calc 2 ^ 52 * millis ≤ 2 ^ 52 * 2 ^ 52 := Nat.mul_le_mul_left _ (Nat.le_of_lt hlt)
      _ ≤ 1000 * unitsPerOne := by decide +kernel
  have herror := roundRatio_error (Nat.mul_pos hpos unitsPerOne_pos) hcoarse
  have hunits := unitsPerOne_pos
  change _ ≤ 2 ^ 53 * (millis * unitsPerOne * frameRateUnits millis) + _ ∧
    2 ^ 53 * (millis * unitsPerOne * frameRateUnits millis) ≤ _ at herror
  generalize frameRateUnits millis = rate at *
  generalize unitsPerOne = unit at *
  constructor
  · apply Nat.le_of_mul_le_mul_right _ hunits
    calc 2 ^ 53 * (1000 * unit) * unit = 2 ^ 53 * (1000 * unit * unit) := by ring
      _ ≤ 2 ^ 53 * (millis * unit * rate) + 1000 * unit * unit := herror.1
      _ = (2 ^ 53 * (millis * rate) + 1000 * unit) * unit := by ring
  · apply Nat.le_of_mul_le_mul_right _ hunits
    calc 2 ^ 53 * (millis * rate) * unit = 2 ^ 53 * (millis * unit * rate) := by ring
      _ ≤ 2 ^ 53 * (1000 * unit * unit) + 1000 * unit * unit := herror.2
      _ = (2 ^ 53 * (1000 * unit) + 1000 * unit) * unit := by ring

theorem two_thousand_le (hpos : 0 < millis) (hlt : millis < 2 ^ 52) :
    2 * (1000 * unitsPerOne) ≤ (2 * millis + 1) * frameRateUnits millis := by
  obtain ⟨herror, _⟩ := frameRateUnits_error hpos hlt
  generalize frameRateUnits millis = rate at *
  generalize 1000 * unitsPerOne = thousand at *
  apply Nat.le_of_mul_le_mul_left _ (Nat.mul_pos (Nat.two_pow_pos 53) hpos)
  have hsmall := Nat.mul_le_mul_right thousand (show 2 * millis + 1 ≤ 2 ^ 53 by omega)
  have hscaled := Nat.mul_le_mul_left (2 * millis + 1) herror
  linarith

theorem pred_mul_le (hpos : 0 < millis) (hlt : millis < 2 ^ 52) :
    (millis - 1) * frameRateUnits millis ≤ 1000 * unitsPerOne := by
  obtain ⟨_, herror⟩ := frameRateUnits_error hpos hlt
  obtain ⟨less, rfl⟩ := Nat.exists_eq_add_of_lt hpos
  simp only [Nat.zero_add, Nat.add_sub_cancel] at *
  generalize frameRateUnits (less + 1) = rate at *
  generalize 1000 * unitsPerOne = thousand at *
  apply Nat.le_of_mul_le_mul_left _ (Nat.mul_pos (Nat.two_pow_pos 53) hpos)
  have hsmall := Nat.mul_le_mul_right thousand (show less ≤ 2 ^ 53 by omega)
  have hscaled := Nat.mul_le_mul_left less herror
  linarith

theorem frameRateUnits_pos (hpos : 0 < millis) (hlt : millis < 2 ^ 52) :
    0 < frameRateUnits millis := by
  have hbound := two_thousand_le hpos hlt
  have hunits := unitsPerOne_pos
  apply Nat.pos_of_ne_zero
  intro hzero
  rw [hzero, Nat.mul_zero] at hbound
  omega

/-- A grid point that the exact time between frames does not exceed bounds it. -/
theorem frameTimeUnits_le {point : Nat} (hpos : 0 < frameRateUnits millis)
    (hpoint : OnGrid point)
    (hle : 1000 * unitsPerOne * unitsPerOne ≤ point * frameRateUnits millis) :
    frameTimeUnits millis ≤ point :=
  calc frameTimeUnits millis
      ≤ roundRatio (point * frameRateUnits millis) (frameRateUnits millis) :=
        roundRatio_mono hpos hpos (Nat.mul_le_mul_right _ hle)
    _ = point := roundRatio_of_onGrid hpoint hpos

theorem le_frameTimeUnits {point : Nat} (hpos : 0 < frameRateUnits millis)
    (hpoint : OnGrid point)
    (hle : point * frameRateUnits millis ≤ 1000 * unitsPerOne * unitsPerOne) :
    point ≤ frameTimeUnits millis :=
  calc point
      = roundRatio (point * frameRateUnits millis) (frameRateUnits millis) :=
        (roundRatio_of_onGrid hpoint hpos).symm
    _ ≤ frameTimeUnits millis :=
        roundRatio_mono hpos hpos (Nat.mul_le_mul_right _ hle)

/-- The rate of a power of two is exact. -/
theorem frameRateUnits_pow {exponent : Nat} (hle : exponent ≤ unitShift) :
    2 ^ exponent * frameRateUnits (2 ^ exponent) = 1000 * unitsPerOne := by
  have hunit : 2 ^ exponent * 2 ^ (unitShift - exponent) = unitsPerOne := by
    rw [← Nat.pow_add, Nat.add_sub_cancel' hle, two_pow_unitShift]
  have hpoint : OnGrid (1000 * Nat.pow 2 (unitShift - exponent)) :=
    onGrid_of_lt (by decide) (by unfold maxShift unitShift; omega)
  have hnumerator : 1000 * unitsPerOne * unitsPerOne =
      1000 * Nat.pow 2 (unitShift - exponent) * (2 ^ exponent * unitsPerOne) := by
    calc 1000 * unitsPerOne * unitsPerOne
        = 1000 * (2 ^ exponent * 2 ^ (unitShift - exponent)) * unitsPerOne := by
          rw [hunit]
      _ = 1000 * 2 ^ (unitShift - exponent) * (2 ^ exponent * unitsPerOne) := by ring
  rw [frameRateUnits, hnumerator, roundRatio_of_onGrid hpoint
    (Nat.mul_pos (Nat.two_pow_pos _) unitsPerOne_pos), ← hunit]
  change 2 ^ exponent * (1000 * 2 ^ (unitShift - exponent)) = _
  ring

/-- If the exact time between frames falls short of the frame time, the grid around
it is that around the frame time. -/
theorem gridSpacing_short (hpos : 0 < millis) (hlt : millis < 2 ^ 52)
    (hshort : 1000 * unitsPerOne < millis * frameRateUnits millis) :
    2 ^ (52 - millis.log2) *
        gridSpacing (1000 * unitsPerOne * unitsPerOne / frameRateUnits millis) =
      unitsPerOne := by
  have hne : millis ≠ 0 := Nat.pos_iff_ne_zero.mp hpos
  have hrate := frameRateUnits_pos hpos hlt
  have hlog : millis.log2 < 52 := (Nat.log2_lt hne).mpr hlt
  have hself : 2 ^ millis.log2 ≤ millis := Nat.log2_self_le hne
  have hbelow : 2 ^ millis.log2 ≤ millis - 1 := by
    have hpow : 2 ^ millis.log2 ≠ millis := by
      intro heq
      have hexact : 2 ^ millis.log2 * frameRateUnits (2 ^ millis.log2) =
          1000 * unitsPerOne := frameRateUnits_pow (by unfold unitShift; omega)
      rw [heq] at hexact
      omega
    omega
  have hlow : 2 ^ (millis.log2 + unitShift) ≤
      1000 * unitsPerOne * unitsPerOne / frameRateUnits millis := by
    rw [Nat.le_div_iff_mul_le hrate]
    calc 2 ^ (millis.log2 + unitShift) * frameRateUnits millis
        = 2 ^ millis.log2 * frameRateUnits millis * unitsPerOne := by
          rw [Nat.pow_add, two_pow_unitShift, Nat.mul_right_comm]
      _ ≤ (millis - 1) * frameRateUnits millis * unitsPerOne :=
          Nat.mul_le_mul_right _ (Nat.mul_le_mul_right _ hbelow)
      _ ≤ 1000 * unitsPerOne * unitsPerOne :=
          Nat.mul_le_mul_right _ (pred_mul_le hpos hlt)
  have hhigh : 1000 * unitsPerOne * unitsPerOne / frameRateUnits millis <
      2 ^ (millis.log2 + unitShift + 1) := by
    rw [Nat.div_lt_iff_lt_mul hrate]
    calc 1000 * unitsPerOne * unitsPerOne
        < millis * frameRateUnits millis * unitsPerOne :=
          Nat.mul_lt_mul_of_pos_right hshort unitsPerOne_pos
      _ ≤ 2 ^ (millis.log2 + 1) * frameRateUnits millis * unitsPerOne :=
          Nat.mul_le_mul_right _ (Nat.mul_le_mul_right _ (Nat.le_of_lt Nat.lt_log2_self))
      _ = 2 ^ (millis.log2 + unitShift + 1) * frameRateUnits millis := by
          rw [Nat.add_right_comm, Nat.pow_add _ (millis.log2 + 1),
            two_pow_unitShift, Nat.mul_right_comm]
  have hquotient := Nat.lt_of_lt_of_le (Nat.two_pow_pos _) hlow
  have hquotientLog :=
    (Nat.log2_eq_iff (Nat.pos_iff_ne_zero.mp hquotient)).mpr ⟨hlow, hhigh⟩
  have hshift : 52 - millis.log2 + (millis.log2 + unitShift - 52) = unitShift := by
    unfold unitShift
    omega
  rw [gridSpacing, hquotientLog]
  change 2 ^ (52 - millis.log2) * 2 ^ (millis.log2 + unitShift - 52) = unitsPerOne
  rw [← Nat.pow_add, hshift, two_pow_unitShift]

/-- A rounded quotient reaches an even multiple of the grid spacing if and only if
it is no less than half-way there. -/
theorem le_roundRatio_iff (numerator : Nat) {denominator count : Nat}
    (hpos : 0 < denominator) (hcount : 0 < count) (heven : count % 2 = 0) :
    count * gridSpacing (numerator / denominator) ≤ roundRatio numerator denominator ↔
      (2 * count - 1) * (denominator * gridSpacing (numerator / denominator)) ≤
        2 * numerator := by
  have hgrid : 0 < gridSpacing (numerator / denominator) := Nat.two_pow_pos _
  have hbelow : roundHalfEven numerator
      (denominator * gridSpacing (numerator / denominator)) ≤ count - 1 ↔ _ :=
    roundHalfEven_le_iff (Nat.mul_pos hpos hgrid)
  have hodd : (count - 1) % 2 ≠ 0 := by omega
  have hfactor : 2 * (count - 1) + 1 = 2 * count - 1 := by omega
  rw [hfactor] at hbelow
  simp only [hodd, and_false, or_false] at hbelow
  rw [roundRatio, Nat.mul_le_mul_right_iff hgrid, ← Nat.not_lt,
    Nat.lt_iff_le_pred hcount, hbelow, Nat.not_lt]

/-- The criterion, counted in halves of the grid spacing around the frame time. -/
theorem isHonoured_iff (hlog : millis.log2 ≤ 52) :
    IsHonoured millis ↔
      frameRateUnits millis * (2 * (millis * 2 ^ (52 - millis.log2)) - 1) ≤
        2 * 2 ^ (52 - millis.log2) * (1000 * unitsPerOne) := by
  have hpowers : 2 ^ 53 = 2 ^ millis.log2 * (2 * 2 ^ (52 - millis.log2)) := by
    rw [Nat.mul_left_comm, ← Nat.pow_add, Nat.add_sub_cancel' hlog]
    rfl
  have hleft : 2 ^ 53 * millis - 2 ^ millis.log2 =
      2 ^ millis.log2 * (2 * (millis * 2 ^ (52 - millis.log2)) - 1) := by
    rw [hpowers, Nat.mul_sub, Nat.mul_one]
    congr 1
    ring
  rw [IsHonoured, hleft, hpowers, Nat.mul_left_comm, Nat.mul_assoc (2 ^ millis.log2),
    Nat.mul_le_mul_left_iff (Nat.two_pow_pos _)]

/-- The frame time comes back, or a larger number does, if and only if it is
honoured: it has an even significand, so that a tie goes to it. -/
theorem le_frameTimeUnits_iff (hpos : 0 < millis) (hlt : millis < 2 ^ 52) :
    millis * unitsPerOne ≤ frameTimeUnits millis ↔ IsHonoured millis := by
  have hrate := frameRateUnits_pos hpos hlt
  rcases Nat.lt_or_ge (1000 * unitsPerOne) (millis * frameRateUnits millis) with
    hshort | hlong
  · have hne : millis ≠ 0 := Nat.pos_iff_ne_zero.mp hpos
    have hlog : millis.log2 < 52 := (Nat.log2_lt hne).mpr hlt
    have hunit := gridSpacing_short hpos hlt hshort
    have heven : millis * 2 ^ (52 - millis.log2) % 2 = 0 := by
      have hsucc : 52 - millis.log2 = 51 - millis.log2 + 1 := by omega
      rw [hsucc, Nat.pow_succ, ← Nat.mul_assoc]
      exact Nat.mul_mod_left _ 2
    have hcount := Nat.mul_pos hpos (Nat.two_pow_pos (52 - millis.log2))
    have hreaches := le_roundRatio_iff (1000 * unitsPerOne * unitsPerOne)
      hrate hcount heven
    rw [Nat.mul_assoc, hunit] at hreaches
    rw [frameTimeUnits, hreaches, isHonoured_iff (Nat.le_of_lt hlog)]
    have hgrid : 0 < gridSpacing (1000 * unitsPerOne * unitsPerOne /
        frameRateUnits millis) := Nat.two_pow_pos _
    generalize gridSpacing _ = spacing at *
    have hhalves : 2 * (1000 * unitsPerOne * unitsPerOne) =
        2 * 2 ^ (52 - millis.log2) * (1000 * unitsPerOne) * spacing := by
      calc 2 * (1000 * unitsPerOne * unitsPerOne)
          = 2 * (1000 * unitsPerOne * (2 ^ (52 - millis.log2) * spacing)) := by rw [hunit]
        _ = _ := by ring
    rw [hhalves, ← Nat.mul_assoc, Nat.mul_comm _ (frameRateUnits millis),
      Nat.mul_le_mul_right_iff hgrid]
  · have hpoint : OnGrid (millis * unitsPerOne) :=
      (Magnitude.ofNat millis (by unfold hiddenBit; omega)).onGrid
    have hback : millis * unitsPerOne ≤ frameTimeUnits millis := by
      apply le_frameTimeUnits hrate hpoint
      calc millis * unitsPerOne * frameRateUnits millis
          = millis * frameRateUnits millis * unitsPerOne := Nat.mul_right_comm _ _ _
        _ ≤ 1000 * unitsPerOne * unitsPerOne := Nat.mul_le_mul_right _ hlong
    refine ⟨fun _ => ?_, fun _ => hback⟩
    calc frameRateUnits millis * (2 ^ 53 * millis - 2 ^ millis.log2)
        ≤ frameRateUnits millis * (2 ^ 53 * millis) :=
          Nat.mul_le_mul_left _ (Nat.sub_le _ _)
      _ = 2 ^ 53 * (millis * frameRateUnits millis) := by ring
      _ ≤ 2 ^ 53 * (1000 * unitsPerOne) := Nat.mul_le_mul_left _ hlong

theorem frameTimeUnits_lt (hpos : 0 < millis) (hlt : millis < 2 ^ 52) :
    frameTimeUnits millis < (millis + 1) * unitsPerOne := by
  obtain ⟨shift, hshift, hunit⟩ : ∃ shift < maxShift, unitsPerOne = 2 * Nat.pow 2 shift :=
    ⟨1073, by decide, by decide +kernel⟩
  have hpoint : OnGrid ((2 * millis + 1) * Nat.pow 2 shift) :=
    onGrid_of_lt (by unfold hiddenBit; omega) (Nat.le_of_lt hshift)
  have hbound := two_thousand_le hpos hlt
  have hhalf : 0 < Nat.pow 2 shift := Nat.two_pow_pos shift
  calc frameTimeUnits millis ≤ (2 * millis + 1) * Nat.pow 2 shift := by
        apply frameTimeUnits_le (frameRateUnits_pos hpos hlt) hpoint
        calc 1000 * unitsPerOne * unitsPerOne
            = 2 * (1000 * unitsPerOne) * Nat.pow 2 shift := by
              rw [hunit]
              ring
          _ ≤ (2 * millis + 1) * frameRateUnits millis * Nat.pow 2 shift :=
              Nat.mul_le_mul_right _ hbound
          _ = (2 * millis + 1) * Nat.pow 2 shift * frameRateUnits millis :=
              Nat.mul_right_comm _ _ _
    _ < (2 * millis + 2) * Nat.pow 2 shift :=
        Nat.mul_lt_mul_of_pos_right (by omega) hhalf
    _ = (millis + 1) * unitsPerOne := by
        rw [hunit]
        ring

theorem pred_le_frameTimeUnits (hpos : 0 < millis) (hlt : millis < 2 ^ 52) :
    (millis - 1) * unitsPerOne ≤ frameTimeUnits millis := by
  have hpoint : OnGrid ((millis - 1) * unitsPerOne) :=
    (Magnitude.ofNat (millis - 1) (by unfold hiddenBit; omega)).onGrid
  apply le_frameTimeUnits (frameRateUnits_pos hpos hlt) hpoint
  calc (millis - 1) * unitsPerOne * frameRateUnits millis
      = (millis - 1) * frameRateUnits millis * unitsPerOne := Nat.mul_right_comm _ _ _
    _ ≤ 1000 * unitsPerOne * unitsPerOne :=
        Nat.mul_le_mul_right _ (pred_mul_le hpos hlt)

/-- The whole milliseconds between two frames are those of the frame time, or one
less. -/
theorem frameTimeUnits_div (hpos : 0 < millis) (hlt : millis < 2 ^ 52) :
    frameTimeUnits millis / unitsPerOne = keptMillis millis := by
  have hiff := le_frameTimeUnits_iff hpos hlt
  unfold keptMillis
  split
  · rename_i hhonoured
    exact Nat.div_eq_of_lt_le (hiff.mpr hhonoured) (frameTimeUnits_lt hpos hlt)
  · rename_i hshort
    apply Nat.div_eq_of_lt_le (pred_le_frameTimeUnits hpos hlt)
    rw [Nat.sub_add_cancel hpos]
    exact Nat.lt_of_not_le (mt hiff.mp hshort)

theorem frameRateUnits_le (hpos : 0 < millis) :
    frameRateUnits millis ≤ 1000 * unitsPerOne := by
  have hthousand : OnGrid (1000 * unitsPerOne) :=
    (Magnitude.ofNat 1000 (by decide)).onGrid
  calc frameRateUnits millis
      ≤ roundRatio (1000 * unitsPerOne * unitsPerOne) unitsPerOne :=
        roundRatio_mono (Nat.mul_pos hpos unitsPerOne_pos) unitsPerOne_pos
          (Nat.mul_le_mul_left _ (Nat.le_mul_of_pos_left _ hpos))
    _ = 1000 * unitsPerOne := roundRatio_of_onGrid hthousand unitsPerOne_pos

/-- A frame time of whole milliseconds asks for renders at intervals of as many, or
one less. -/
theorem intervalOfFrameTime_ofNat (hpos : 0 < millis)
    (hlt : Duration.ofMillis millis < 2 * hiddenBit) :
    intervalOfFrameTime (Binary64.ofNat millis) =
      Duration.ofMillis (keptMillis millis) := by
  have hsmall : millis < 2 ^ 52 := by
    unfold Duration.ofMillis hiddenBit at hlt
    omega
  have hgrid : millis < 2 * hiddenBit := by
    unfold hiddenBit
    omega
  have hrate := frameRateUnits_pos hpos hsmall
  have hrateFinite : frameRateUnits millis < overflowUnits :=
    Nat.lt_of_le_of_lt (frameRateUnits_le hpos) (by decide +kernel)
  have htimeFinite : frameTimeUnits millis < overflowUnits :=
    calc frameTimeUnits millis
      _ < (millis + 1) * unitsPerOne := frameTimeUnits_lt hpos hsmall
      _ ≤ 2 ^ 52 * unitsPerOne := Nat.mul_le_mul_right _ hsmall
      _ < overflowUnits := by decide +kernel
  have hkept : keptMillis millis ≤ millis := by
    unfold keptMillis
    split <;> omega
  obtain ⟨frames, hframes, hdiv⟩ : ∃ frames : Magnitude,
      frames.units = frameRateUnits millis ∧
        Binary64.ofNat 1000 / Binary64.ofNat millis = .finite false frames := by
    refine ⟨⟨_, roundRatio_onGrid hrateFinite⟩, rfl, ?_⟩
    rw [ofNat_of_lt hgrid, thousand_div (units_ofNat_pos hpos hgrid), units_ofNat]
    exact ofUnitRatio_of_lt hrateFinite false
  have hfloor : (ofUnitRatio false (1000 * unitsPerOne * unitsPerOne)
      (frameRateUnits millis)).floor = Binary64.ofNat (keptMillis millis) := by
    rw [← frameTimeUnits_div hpos hsmall, Binary64.ofNat, ofRatio,
      ofUnitRatio_of_lt htimeFinite, floor_finite, wholePart]
    rfl
  rw [← hframes] at hrate
  rw [intervalOfFrameTime, hdiv, Debouncer.intervalOfRate_finite hrate, hframes, hfloor]
  apply Duration.ofMillisRounded_ofNat
  exact Nat.lt_of_le_of_lt (Nat.mul_le_mul_right _ hkept) hlt

end Millis

end Driver

end Cadence
