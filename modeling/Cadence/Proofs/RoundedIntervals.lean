import Mathlib.Data.Nat.Log
import Mathlib.Tactic.Ring
import Cadence.Driver.Basic

/-!
Rounding is monotone.  A rounded quotient therefore lies between the rounded quotients
of any bounds, and the interval of renders, which comes from two divisions, a floor and
a product, is a millisecond at least for every frame time that is.
-/

namespace Cadence

/-- A quotient rounds to at most `bound` if it is below the middle between `bound` and
its successor, or is the middle and `bound` is even. -/
theorem roundHalfEven_le_iff {numerator denominator bound : Nat}
    (hpos : 0 < denominator) :
    roundHalfEven numerator denominator ≤ bound ↔
      2 * numerator < (2 * bound + 1) * denominator ∨
        2 * numerator = (2 * bound + 1) * denominator ∧ bound % 2 = 0 := by
  have hsum := Nat.div_add_mod numerator denominator
  have hrest := Nat.mod_lt numerator hpos
  have hbound : (2 * bound + 1) * denominator =
      2 * (denominator * bound) + denominator := by ring
  unfold roundHalfEven
  generalize numerator / denominator = quotient at *
  generalize numerator % denominator = rest at *
  rcases Nat.lt_trichotomy bound quotient with hlt | rfl | hgt
  · have hmul := Nat.mul_le_mul_left denominator (Nat.succ_le_of_lt hlt)
    rw [Nat.mul_succ] at hmul
    grind
  · grind
  · have hmul := Nat.mul_le_mul_left denominator (Nat.succ_le_of_lt hgt)
    rw [Nat.mul_succ] at hmul
    grind

theorem roundHalfEven_mono {a b c d : Nat} (hb : 0 < b) (hd : 0 < d)
    (hle : a * d ≤ c * b) : roundHalfEven a b ≤ roundHalfEven c d := by
  rw [roundHalfEven_le_iff hb]
  have hself := (roundHalfEven_le_iff hd).mp (Nat.le_refl (roundHalfEven c d))
  generalize roundHalfEven c d = bound at *
  have hcross : 2 * a * d ≤ 2 * c * b := by
    rw [Nat.mul_assoc, Nat.mul_assoc]
    exact Nat.mul_le_mul_left 2 hle
  have hswap : (2 * bound + 1) * d * b = (2 * bound + 1) * b * d := by ring
  rcases hself with hlt | ⟨heq, heven⟩
  · refine .inl (Nat.lt_of_mul_lt_mul_right (a := d) ?_)
    calc 2 * a * d ≤ 2 * c * b := hcross
      _ < (2 * bound + 1) * d * b := Nat.mul_lt_mul_of_pos_right hlt hb
      _ = (2 * bound + 1) * b * d := hswap
  · rw [heq, hswap] at hcross
    rcases Nat.lt_or_eq_of_le (Nat.le_of_mul_le_mul_right hcross hd) with hlt | htie
    · exact .inl hlt
    · exact .inr ⟨htie, heven⟩

/-- A rounded quotient is at most the first number of 54 bits on its grid. -/
theorem roundRatio_le (numerator denominator : Nat) :
    roundRatio numerator denominator ≤
      2 * hiddenBit * gridSpacing (numerator / denominator) :=
  Nat.mul_le_mul_right _ (roundHalfEven_spacing_le numerator denominator)

/-- Where the grid is coarser than one unit, rounded quotients have 53 bits. -/
theorem le_roundRatio {numerator denominator : Nat}
    (hcoarse : 52 ≤ (numerator / denominator).log2) :
    hiddenBit * gridSpacing (numerator / denominator) ≤
      roundRatio numerator denominator := by
  refine Nat.mul_le_mul_right _ (Nat.le_trans ?_ (le_roundHalfEven _ _))
  have hpos : 0 < gridSpacing (numerator / denominator) := Nat.two_pow_pos _
  rw [← Nat.div_div_eq_div_mul, Nat.le_div_iff_mul_le hpos]
  have hne : numerator / denominator ≠ 0 := by
    intro hzero
    simp [hzero] at hcoarse
  calc hiddenBit * gridSpacing (numerator / denominator)
      = 2 ^ 52 * 2 ^ ((numerator / denominator).log2 - 52) := rfl
    _ = 2 ^ (numerator / denominator).log2 := by
      rw [← Nat.pow_add, Nat.add_sub_cancel' hcoarse]
    _ ≤ numerator / denominator := Nat.log2_self_le hne

theorem log2_mono {a b : Nat} (hle : a ≤ b) : a.log2 ≤ b.log2 := by
  rw [Nat.log2_eq_log_two, Nat.log2_eq_log_two]
  exact Nat.log_mono_right hle

/-- Rounding is monotone. -/
theorem roundRatio_mono {a b c d : Nat} (hb : 0 < b) (hd : 0 < d)
    (hle : a * d ≤ c * b) : roundRatio a b ≤ roundRatio c d := by
  have hquotients : a / b ≤ c / d := by
    rw [Nat.le_div_iff_mul_le hd]
    refine Nat.le_of_mul_le_mul_right ?_ hb
    calc a / b * d * b = a / b * b * d := Nat.mul_right_comm _ _ _
      _ ≤ a * d := Nat.mul_le_mul_right d (Nat.div_mul_le_self a b)
      _ ≤ c * b := hle
  have hlogs := log2_mono hquotients
  rcases Nat.lt_or_ge ((a / b).log2 - 52) ((c / d).log2 - 52) with hfiner | hsame
  · -- The grid around the larger quotient is coarser, and starts where the grid
    -- around the smaller one ends.
    have hspacing : 2 * gridSpacing (a / b) ≤ gridSpacing (c / d) := by
      rw [gridSpacing, gridSpacing, Nat.mul_comm]
      exact pow_two_mono hfiner
    calc roundRatio a b ≤ 2 * hiddenBit * gridSpacing (a / b) := roundRatio_le a b
      _ = hiddenBit * (2 * gridSpacing (a / b)) := by ring
      _ ≤ hiddenBit * gridSpacing (c / d) := Nat.mul_le_mul_left _ hspacing
      _ ≤ roundRatio c d := le_roundRatio (by omega)
  · have hspacing : gridSpacing (c / d) = gridSpacing (a / b) := by
      rw [gridSpacing, gridSpacing, Nat.le_antisymm hsame (Nat.sub_le_sub_right hlogs 52)]
    have hpos : 0 < gridSpacing (a / b) := Nat.two_pow_pos _
    rw [roundRatio, roundRatio, hspacing]
    refine Nat.mul_le_mul_right _ (roundHalfEven_mono (Nat.mul_pos hb hpos)
      (Nat.mul_pos hd hpos) ?_)
    rw [← Nat.mul_assoc, ← Nat.mul_assoc]
    exact Nat.mul_le_mul_right _ hle

/-- A point of the grid is its own rounding. -/
theorem roundRatio_of_onGrid {units denominator : Nat} (h : OnGrid units)
    (hpos : 0 < denominator) : roundRatio (units * denominator) denominator = units := by
  obtain ⟨count, hcount⟩ := h.2
  have hspacing : 0 < gridSpacing units := Nat.two_pow_pos _
  have hscaled : units * denominator = denominator * gridSpacing units * count := by
    rw [Nat.mul_comm, Nat.mul_assoc, ← hcount]
  have hwhole : roundHalfEven (units * denominator) (denominator * gridSpacing units) =
      count := by
    have hwide := Nat.mul_pos hpos hspacing
    rw [hscaled, roundHalfEven, Nat.mul_mod_right, Nat.mul_div_cancel_left _ hwide]
    exact if_pos hwide
  rw [roundRatio, Nat.mul_div_cancel _ hpos, hwhole, Nat.mul_comm, ← hcount]

/-- Points of the grid that need more than 52 bits are multiples of its spacing. -/
theorem pow_dvd_of_onGrid {units shift : Nat} (h : OnGrid units)
    (hle : 2 ^ (52 + shift) ≤ units) : 2 ^ shift ∣ units := by
  have hne : units ≠ 0 := by
    rintro rfl
    exact absurd (Nat.two_pow_pos _) (Nat.not_lt_of_le hle)
  have hlog := (Nat.le_log2 hne).mpr hle
  exact Nat.dvd_trans (Nat.pow_dvd_pow 2 (by omega)) h.2

/-- The last point of the grid before `2^(53 + shift)` has a significand of ones. -/
theorem le_of_onGrid {units shift : Nat} (h : OnGrid units)
    (hlt : units < 2 * hiddenBit * Nat.pow 2 shift) :
    units ≤ (2 * hiddenBit - 1) * Nat.pow 2 shift := by
  have hfull : hiddenBit * Nat.pow 2 shift = 2 ^ (52 + shift) :=
    (Nat.pow_add 2 52 shift).symm
  rcases Nat.lt_or_ge units (hiddenBit * Nat.pow 2 shift) with hsmall | hlarge
  · exact Nat.le_trans (Nat.le_of_lt hsmall) (Nat.mul_le_mul_right _ (by decide))
  · rw [hfull] at hlarge
    obtain ⟨count, rfl⟩ := pow_dvd_of_onGrid h hlarge
    change 2 ^ shift * count < 2 * hiddenBit * 2 ^ shift at hlt
    rw [Nat.mul_comm] at hlt
    have hcount : count ≤ 2 * hiddenBit - 1 :=
      Nat.le_sub_one_of_lt (Nat.lt_of_mul_lt_mul_right hlt)
    rw [Nat.mul_comm]
    exact Nat.mul_le_mul_right _ hcount

namespace Magnitude

/-- The units of the largest finite magnitude. -/
def largestUnits : Nat := (2 * hiddenBit - 1) * Nat.pow 2 maxShift

theorem units_le_largest (magnitude : Magnitude) : magnitude.units ≤ largestUnits :=
  le_of_onGrid magnitude.onGrid magnitude.onGrid.1

theorem unitsPerOne_pos : 0 < unitsPerOne := by
  decide +kernel

theorem unitsPerOne_eq_pow : ∃ shift ≤ maxShift, unitsPerOne = Nat.pow 2 shift :=
  ⟨1074, by decide, by decide +kernel⟩

/-- A natural number of at most 53 bits. -/
def ofNat (n : Nat) (h : n < 2 * hiddenBit) : Magnitude where
  units := n * unitsPerOne
  onGrid := by
    obtain ⟨shift, hshift, hunit⟩ := unitsPerOne_eq_pow
    rw [hunit]
    exact onGrid_of_lt h hshift

@[simp] theorem units_ofNat {n : Nat} (h : n < 2 * hiddenBit) :
    (ofNat n h).units = n * unitsPerOne := rfl

end Magnitude

namespace Binary64

open Magnitude

theorem ofUnitRatio_of_lt {numerator denominator : Nat}
    (hlt : roundRatio numerator denominator < overflowUnits) (negative : Bool) :
    ofUnitRatio negative numerator denominator =
      .finite negative ⟨roundRatio numerator denominator, roundRatio_onGrid hlt⟩ := by
  simp only [ofUnitRatio, hlt, ↓reduceDIte]

theorem ofUnitRatio_of_not_lt {numerator denominator : Nat}
    (hnot : ¬ roundRatio numerator denominator < overflowUnits) (negative : Bool) :
    ofUnitRatio negative numerator denominator = .infinite negative := by
  simp only [ofUnitRatio, hnot, ↓reduceDIte]

theorem ofUnitRatio_of_onGrid {units denominator : Nat} (h : OnGrid units)
    (hpos : 0 < denominator) (negative : Bool) :
    ofUnitRatio negative (units * denominator) denominator =
      .finite negative ⟨units, h⟩ := by
  have hround := roundRatio_of_onGrid h hpos
  have hlt : roundRatio (units * denominator) denominator < overflowUnits := by
    rw [hround]
    exact h.1
  rw [ofUnitRatio_of_lt hlt]
  simp only [hround]

/-- Natural numbers of at most 53 bits are exact. -/
theorem ofNat_of_lt {n : Nat} (h : n < 2 * hiddenBit) :
    Binary64.ofNat n = .finite false (.ofNat n h) := by
  have hexact := ofUnitRatio_of_onGrid (Magnitude.ofNat n h).onGrid Nat.one_pos false
  rw [Nat.mul_one] at hexact
  exact hexact

theorem floor_finite (magnitude : Magnitude) :
    (finite false magnitude).floor =
      ofUnitRatio false (magnitude.wholePart * unitsPerOne) 1 := by
  simp only [floor, Bool.false_and, Bool.false_eq_true, ↓reduceIte, ofRatio]

theorem round_finite (magnitude : Magnitude) :
    (finite false magnitude).round =
      ofUnitRatio false ((2 * magnitude.units + unitsPerOne) / (2 * unitsPerOne) *
        unitsPerOne) 1 := by
  simp only [round, ofRatio]

theorem mul_finite (a b : Magnitude) :
    finite false a * finite false b =
      ofUnitRatio false (a.units * b.units) unitsPerOne := by
  simp only [HMul.hMul, Mul.mul, mul, bne_self_eq_false]

theorem div_finite (a : Magnitude) {b : Magnitude} (hpos : 0 < b.units) :
    finite false a / finite false b =
      ofUnitRatio false (a.units * unitsPerOne) b.units := by
  have hne := Nat.pos_iff_ne_zero.mp hpos
  simp only [HDiv.hDiv, Div.div, div, bne_self_eq_false, hne, ↓reduceIte]

theorem thousand_div {a : Magnitude} (hpos : 0 < a.units) :
    Binary64.ofNat 1000 / finite false a =
      ofUnitRatio false (1000 * unitsPerOne * unitsPerOne) a.units := by
  rw [ofNat_of_lt (by decide), div_finite _ hpos, units_ofNat]

theorem infinite_mul_ofNat {n : Nat} (hpos : 0 < n) (h : n < 2 * hiddenBit) :
    infinite false * finite false (.ofNat n h) = infinite false := by
  have hne : (Magnitude.ofNat n h).units ≠ 0 :=
    Nat.pos_iff_ne_zero.mp (Nat.mul_pos hpos unitsPerOne_pos)
  simp only [HMul.hMul, Mul.mul, mul, hne, ↓reduceIte, bne_self_eq_false]

theorem lt_zero_finite {magnitude : Magnitude} (hpos : 0 < magnitude.units) :
    Binary64.lt 0 (finite false magnitude) = true := by
  have hzero : (0 : Binary64) = finite false (.ofNat 0 (by decide)) :=
    ofNat_of_lt (by decide)
  rw [hzero]
  simp [lt, position?, hpos]

/-- A number that is at least a natural number, maybe infinite. -/
inductive AtLeast (n : Nat) : Binary64 → Prop
  | infinite : AtLeast n (.infinite false)
  | finite {magnitude : Magnitude} (hunits : n * unitsPerOne ≤ magnitude.units) :
      AtLeast n (.finite false magnitude)

/-- Rounding does not cross a natural number of at most 53 bits. -/
theorem atLeast_ofUnitRatio {n numerator denominator : Nat} (hn : n < 2 * hiddenBit)
    (hpos : 0 < denominator) (hle : n * unitsPerOne * denominator ≤ numerator) :
    (ofUnitRatio false numerator denominator).AtLeast n := by
  have hexact := roundRatio_of_onGrid (Magnitude.ofNat n hn).onGrid hpos
  have hround : n * unitsPerOne ≤ roundRatio numerator denominator :=
    calc n * unitsPerOne
        = roundRatio (n * unitsPerOne * denominator) denominator := hexact.symm
      _ ≤ roundRatio numerator denominator :=
        roundRatio_mono hpos hpos (Nat.mul_le_mul_right _ hle)
  by_cases hlt : roundRatio numerator denominator < overflowUnits
  · rw [ofUnitRatio_of_lt hlt]
    exact .finite hround
  · rw [ofUnitRatio_of_not_lt hlt]
    exact .infinite

/-- The order of numbers is that of their places. -/
theorem atLeast_of_le {n : Nat} {a : Binary64} (hpos : 0 < n) (hn : n < 2 * hiddenBit)
    (hle : Binary64.ofNat n ≤ a) : a.AtLeast n := by
  have hplace : 0 < n * unitsPerOne := Nat.mul_pos hpos unitsPerOne_pos
  change (Binary64.ofNat n).le a = true at hle
  have hposition : (finite false (.ofNat n hn)).position? =
      some ((n * unitsPerOne : Nat) : Int) := by
    simp only [position?, Bool.false_eq_true, if_false, Magnitude.units_ofNat]
  rw [ofNat_of_lt hn, le, hposition] at hle
  cases a with
  | nan => cases hle
  | infinite negative =>
      cases negative with
      | false => exact .infinite
      | true =>
        have hplaces := of_decide_eq_true hle
        simp only [if_true] at hplaces
        omega
  | finite negative magnitude =>
      cases negative with
      | false =>
        have hplaces := of_decide_eq_true hle
        simp only [Bool.false_eq_true, if_false] at hplaces
        exact .finite (by omega)
      | true =>
        have hplaces := of_decide_eq_true hle
        simp only [if_true] at hplaces
        omega

namespace AtLeast

variable {n : Nat} {a : Binary64}

/-- The largest whole number below is no smaller. -/
theorem floor (hn : n < 2 * hiddenBit) (h : a.AtLeast n) : a.floor.AtLeast n := by
  cases h with
  | infinite => exact .infinite
  | @finite magnitude hunits =>
      have hwhole := (Nat.le_div_iff_mul_le unitsPerOne_pos).mpr hunits
      rw [floor_finite]
      apply atLeast_ofUnitRatio hn Nat.one_pos
      rw [Nat.mul_one]
      exact Nat.mul_le_mul_right _ hwhole

theorem round (hn : n < 2 * hiddenBit) (h : a.AtLeast n) : a.round.AtLeast n := by
  cases h with
  | infinite => exact .infinite
  | @finite magnitude hunits =>
      have hpos := unitsPerOne_pos
      rw [round_finite]
      apply atLeast_ofUnitRatio hn Nat.one_pos
      rw [Nat.mul_one]
      apply Nat.mul_le_mul_right
      rw [Nat.le_div_iff_mul_le (by omega)]
      calc n * (2 * unitsPerOne) = 2 * (n * unitsPerOne) := by ring
        _ ≤ 2 * magnitude.units + unitsPerOne := by omega

theorem toNatUpTo {bound : Nat} (hn : n ≤ bound) (h : a.AtLeast n) :
    n ≤ a.toNatUpTo bound := by
  cases h with
  | infinite => exact hn
  | finite hunits =>
      exact Nat.le_min.mpr
        ⟨(Nat.le_div_iff_mul_le unitsPerOne_pos).mpr hunits, hn⟩

theorem mul_ofNat {factor : Nat} (hfactor : factor < 2 * hiddenBit) (hpos : 0 < factor)
    (hn : n * factor < 2 * hiddenBit) (h : a.AtLeast n) :
    (a * Binary64.ofNat factor).AtLeast (n * factor) := by
  rw [ofNat_of_lt hfactor]
  cases h with
  | infinite =>
      rw [infinite_mul_ofNat hpos]
      exact .infinite
  | @finite magnitude hunits =>
      rw [mul_finite]
      apply atLeast_ofUnitRatio hn unitsPerOne_pos
      calc n * factor * unitsPerOne * unitsPerOne
          = n * unitsPerOne * (factor * unitsPerOne) := by ring
        _ ≤ magnitude.units * (factor * unitsPerOne) := Nat.mul_le_mul_right _ hunits

theorem pos (hpos : 0 < n) (h : a.AtLeast n) : Binary64.lt 0 a = true := by
  cases h with
  | infinite => decide +kernel
  | finite hunits =>
      exact lt_zero_finite (Nat.lt_of_lt_of_le (Nat.mul_pos hpos unitsPerOne_pos) hunits)

end AtLeast

/-- The largest whole number below a finite one is finite. -/
theorem isFinite_floor (magnitude : Magnitude) :
    (finite false magnitude).floor.isFinite = true := by
  have hexact := roundRatio_of_onGrid magnitude.onGrid Nat.one_pos
  have hle : roundRatio (magnitude.wholePart * unitsPerOne) 1 ≤ magnitude.units := by
    rw [← hexact]
    apply roundRatio_mono Nat.one_pos Nat.one_pos
    rw [Nat.mul_one, Nat.mul_one, Nat.mul_one]
    exact Nat.div_mul_le_self _ _
  rw [floor_finite, ofUnitRatio_of_lt (Nat.lt_of_le_of_lt hle magnitude.onGrid.1)]
  rfl

end Binary64

namespace Duration

open Binary64

/-- A duration is no shorter than the whole milliseconds asked for. -/
theorem le_ofMillisRounded {n : Nat} {millis : Binary64} (hpos : 0 < n)
    (hn : ofMillis n < 2 * hiddenBit) (hfinite : millis.isFinite = true)
    (h : millis.AtLeast n) : ofMillis n ≤ ofMillisRounded millis := by
  have hlongest : ofMillis n ≤ longest := Nat.le_trans (Nat.le_of_lt hn) (by decide)
  rw [ofMillisRounded, hfinite, h.pos hpos]
  exact ((h.mul_ofNat (by decide) (by decide) hn).round hn).toNatUpTo hlongest

end Duration

namespace Driver

open Binary64 Magnitude

/-- The units of the frame rate of the largest frame time. -/
def slowestUnits : Nat := roundRatio (1000 * unitsPerOne * unitsPerOne) largestUnits

theorem slowestUnits_pos : 0 < slowestUnits := by
  decide +kernel

/-- The frame rate of a frame time of at least a millisecond. -/
theorem exists_frameRate {millis : Magnitude} (hle : unitsPerOne ≤ millis.units) :
    ∃ frames : Magnitude, Binary64.ofNat 1000 / finite false millis = finite false frames ∧
      slowestUnits ≤ frames.units ∧ frames.units ≤ 1000 * unitsPerOne := by
  have hpos := Nat.lt_of_lt_of_le unitsPerOne_pos hle
  have hhigh : roundRatio (1000 * unitsPerOne * unitsPerOne) millis.units ≤
      1000 * unitsPerOne := by
    have hthousand : 1000 < 2 * hiddenBit := by decide
    have hexact := roundRatio_of_onGrid (Magnitude.ofNat 1000 hthousand).onGrid
      unitsPerOne_pos
    calc roundRatio (1000 * unitsPerOne * unitsPerOne) millis.units
        ≤ roundRatio (1000 * unitsPerOne * unitsPerOne) unitsPerOne :=
          roundRatio_mono hpos unitsPerOne_pos (Nat.mul_le_mul_left _ hle)
      _ = 1000 * unitsPerOne := hexact
  have hlow : slowestUnits ≤ roundRatio (1000 * unitsPerOne * unitsPerOne) millis.units :=
    roundRatio_mono (by decide +kernel) hpos
      (Nat.mul_le_mul_left _ millis.units_le_largest)
  have hlt : roundRatio (1000 * unitsPerOne * unitsPerOne) millis.units < overflowUnits :=
    Nat.lt_of_le_of_lt hhigh (by decide +kernel)
  refine ⟨⟨_, roundRatio_onGrid hlt⟩, ?_, hlow, hhigh⟩
  rw [thousand_div hpos]
  exact ofUnitRatio_of_lt hlt false

/-- A frame rate of at most a thousand leaves a millisecond for each frame, and none is
so low that the time of a frame overflows. -/
theorem exists_frameInterval {frames : Magnitude} (hlow : slowestUnits ≤ frames.units)
    (hhigh : frames.units ≤ 1000 * unitsPerOne) :
    ∃ millis : Magnitude, Binary64.ofNat 1000 / finite false frames = finite false millis ∧
      (finite false millis).AtLeast 1 := by
  have hpos := Nat.lt_of_lt_of_le slowestUnits_pos hlow
  have hlt : roundRatio (1000 * unitsPerOne * unitsPerOne) frames.units < overflowUnits :=
    calc roundRatio (1000 * unitsPerOne * unitsPerOne) frames.units
        ≤ roundRatio (1000 * unitsPerOne * unitsPerOne) slowestUnits :=
          roundRatio_mono hpos slowestUnits_pos (Nat.mul_le_mul_left _ hlow)
      _ < overflowUnits := by decide +kernel
  have honce : 1 * unitsPerOne * frames.units ≤ 1000 * unitsPerOne * unitsPerOne := by
    rw [Nat.one_mul, Nat.mul_comm]
    exact Nat.mul_le_mul_right _ hhigh
  have hone := atLeast_ofUnitRatio (by decide) hpos honce
  rw [ofUnitRatio_of_lt hlt] at hone
  refine ⟨⟨_, roundRatio_onGrid hlt⟩, ?_, hone⟩
  rw [thousand_div hpos]
  exact ofUnitRatio_of_lt hlt false

/-- Frames of at least a millisecond are never rendered at shorter intervals. -/
theorem le_intervalOfFrameTime {millis : Binary64} (hfinite : millis.isFinite = true)
    (h : millis.AtLeast 1) : Duration.ofMillis 1 ≤ intervalOfFrameTime millis := by
  cases h with
  | infinite => cases hfinite
  | finite hunits =>
      rw [Nat.one_mul] at hunits
      obtain ⟨frames, hframes, hlow, hhigh⟩ := exists_frameRate hunits
      obtain ⟨interval, hinterval, hone⟩ := exists_frameInterval hlow hhigh
      have hpositive := lt_zero_finite (Nat.lt_of_lt_of_le slowestUnits_pos hlow)
      rw [intervalOfFrameTime, hframes, Debouncer.intervalOfRate, if_pos hpositive,
        hinterval]
      exact Duration.le_ofMillisRounded Nat.one_pos (by decide)
        (isFinite_floor interval) (hone.floor (by decide))

end Driver

end Cadence
