/-!
Magnitudes on the binary64 grid.  A magnitude is the natural number of units of
2^-1074 that it holds, so comparison is comparison of natural numbers and every
operation can be carried out exactly before it is rounded once.  The main
statement is `roundRatio_onGrid`: rounding a quotient lands on the grid as long
as it does not overflow.
-/

namespace Cadence

/-- The topmost bit of a significand of 53 bits, `2^52`. -/
def hiddenBit : Nat := 4503599627370496

/-- The widest grid spacing of a finite magnitude is this power of two. -/
def maxShift : Nat := 2045

/-- Magnitudes from this many units of 2^-1074 on are infinite. -/
def overflowUnits : Nat := 2 * hiddenBit * Nat.pow 2 maxShift

/-- The distance between neighbours of the grid around `units`. -/
def gridSpacing (units : Nat) : Nat := Nat.pow 2 (units.log2 - 52)

/-- A finite magnitude is below the overflow bound and needs at most 53
significant bits. -/
def OnGrid (units : Nat) : Prop :=
  units < overflowUnits ∧ gridSpacing units ∣ units

instance (units : Nat) : Decidable (OnGrid units) :=
  inferInstanceAs (Decidable (_ ∧ _))

/-- A quotient rounded to the nearest natural number, a tie to the even one. -/
def roundHalfEven (numerator denominator : Nat) : Nat :=
  let quotient := numerator / denominator
  let remainder := numerator % denominator
  if 2 * remainder < denominator then quotient
  else if denominator < 2 * remainder then quotient + 1
  else quotient + quotient % 2

/-- A quotient of units rounded to the nearest point of the grid, a tie to the
point with an even significand. -/
def roundRatio (numerator denominator : Nat) : Nat :=
  let spacing := gridSpacing (numerator / denominator)
  roundHalfEven numerator (denominator * spacing) * spacing

theorem roundHalfEven_le (numerator denominator : Nat) :
    roundHalfEven numerator denominator ≤ numerator / denominator + 1 := by
  have := Nat.mod_lt (numerator / denominator) (show 0 < 2 by omega)
  grind [roundHalfEven]

theorem le_roundHalfEven (numerator denominator : Nat) :
    numerator / denominator ≤ roundHalfEven numerator denominator := by
  grind [roundHalfEven]

/-- Scaling by powers of two adds their exponents. -/
theorem hiddenBit_mul_pow (shift : Nat) :
    2 * hiddenBit * Nat.pow 2 shift = Nat.pow 2 (53 + shift) := by
  rw [show 2 * hiddenBit = Nat.pow 2 53 by decide]
  exact (Nat.pow_add 2 53 shift).symm

/-- A number of at most 53 significant bits is a multiple of the spacing of the
grid around it. -/
theorem gridSpacing_dvd_of_lt {significand shift : Nat}
    (hsignificand : significand < 2 * hiddenBit) :
    gridSpacing (significand * Nat.pow 2 shift) ∣
      significand * Nat.pow 2 shift := by
  have hpos : 0 < Nat.pow 2 shift := Nat.two_pow_pos shift
  have hshift : (significand * Nat.pow 2 shift).log2 - 52 ≤ shift := by
    by_cases hzero : significand = 0
    · simp [hzero]
    · have hne : significand * Nat.pow 2 shift ≠ 0 :=
        Nat.mul_ne_zero hzero (Nat.pos_iff_ne_zero.1 hpos)
      have hlt : significand * Nat.pow 2 shift < Nat.pow 2 (53 + shift) := by
        rw [← hiddenBit_mul_pow]
        exact Nat.mul_lt_mul_of_pos_right hsignificand hpos
      have := (Nat.log2_lt hne).2 hlt
      omega
  exact Nat.dvd_trans (Nat.pow_dvd_pow 2 hshift) (Nat.dvd_mul_left _ _)

theorem pow_two_mono {a b : Nat} (hle : a ≤ b) : Nat.pow 2 a ≤ Nat.pow 2 b :=
  Nat.pow_le_pow_right Nat.two_pos hle

theorem onGrid_of_lt {significand shift : Nat}
    (hsignificand : significand < 2 * hiddenBit) (hshift : shift ≤ maxShift) :
    OnGrid (significand * Nat.pow 2 shift) := by
  refine ⟨?_, gridSpacing_dvd_of_lt hsignificand⟩
  calc significand * Nat.pow 2 shift
      < 2 * hiddenBit * Nat.pow 2 shift :=
        Nat.mul_lt_mul_of_pos_right hsignificand (Nat.two_pow_pos shift)
    _ ≤ overflowUnits := Nat.mul_le_mul_left _ (pow_two_mono hshift)

/-- The significand of a rounded quotient has at most 53 bits, or is the first
of 54 bits. -/
theorem roundHalfEven_spacing_le (numerator denominator : Nat) :
    roundHalfEven numerator
      (denominator * gridSpacing (numerator / denominator)) ≤
      2 * hiddenBit := by
  refine Nat.le_trans (roundHalfEven_le _ _) ?_
  rw [← Nat.div_div_eq_div_mul]
  have hlt : numerator / denominator <
      gridSpacing (numerator / denominator) * (2 * hiddenBit) := by
    unfold gridSpacing
    rw [Nat.mul_comm, hiddenBit_mul_pow]
    exact Nat.lt_of_lt_of_le Nat.lt_log2_self
      (Nat.pow_le_pow_right (by omega) (by omega))
  exact Nat.div_lt_of_lt_mul hlt

/-- A rounded quotient below the overflow bound is on the grid. -/
theorem roundRatio_onGrid {numerator denominator : Nat}
    (hlt : roundRatio numerator denominator < overflowUnits) :
    OnGrid (roundRatio numerator denominator) := by
  refine ⟨hlt, ?_⟩
  unfold roundRatio
  have hle := roundHalfEven_spacing_le numerator denominator
  rcases Nat.lt_or_ge (roundHalfEven numerator
      (denominator * gridSpacing (numerator / denominator)))
      (2 * hiddenBit) with h | h
  · exact gridSpacing_dvd_of_lt h
  · have heq := Nat.le_antisymm hle h
    simp only [heq]
    generalize hs : (numerator / denominator).log2 - 52 = shift
    have : 2 * hiddenBit * gridSpacing (numerator / denominator) =
        hiddenBit * Nat.pow 2 (shift + 1) := by
      rw [gridSpacing, hs, show Nat.pow 2 (shift + 1) = Nat.pow 2 shift * 2 from
        Nat.pow_succ 2 shift, Nat.mul_comm 2 hiddenBit, Nat.mul_assoc, Nat.mul_comm 2]
    rw [this]
    exact gridSpacing_dvd_of_lt (by decide)

end Cadence
