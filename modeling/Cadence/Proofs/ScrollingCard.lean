import Mathlib.Algebra.GroupWithZero.Nat
import Mathlib.Logic.Function.Iterate
import Cadence.Proofs.BitPlanes
import Cadence.TestCard

/-!
The scrolling test card.  A shift rotates a row by one pixel, so that after any number of
cycles each pixel is where it would be if its row had been moved all at once; and the
bits of a frame are the pixels, row after row, so that a display shows what is lit.
-/

namespace Cadence.TestCard

/-! ### Rows -/

/-- Whether a row is lit at a column. -/
def litAt (row : UInt64) (x : Nat) : Bool := row.toBitVec.getMsbD x

theorem litAt_eq_testBit (row : UInt64) {x : Nat} (hx : x < 64) :
    litAt row x = row.toNat.testBit (63 - x) := by
  rw [litAt, BitVec.getMsbD_eq_getLsbD, decide_eq_true hx, Bool.true_and,
    ← BitVec.testBit_toNat, UInt64.toNat_toBitVec]

/-- A shifted row is lit where it was lit one column to the left. -/
theorem litAt_rotateRow (row : UInt64) {x : Nat} (hx : x < 64) :
    litAt (rotateRow row) x = litAt row ((x + 63) % 64) := by
  have hrotate : (rotateRow row).toBitVec = row.toBitVec.rotateRight 1 := rfl
  rw [litAt, litAt, hrotate, BitVec.getMsbD_rotateRight_of_lt (by decide),
    decide_eq_true hx, Bool.true_and]
  split
  · rename_i hfirst
    congr 1
    omega
  · congr 1
    omega

/-- After so many shifts, a row is lit where it was lit so far to the left. -/
theorem litAt_iterate_rotateRow (row : UInt64) (shifts : Nat) {x : Nat} (hx : x < 64) :
    litAt (rotateRow^[shifts] row) x = litAt row (((x : Int) - shifts) % 64).toNat := by
  induction shifts generalizing x with
  | zero =>
      congr 1
      omega
  | succ shifts ih =>
      rw [Function.iterate_succ_apply', litAt_rotateRow _ hx, ih (Nat.mod_lt _ (by decide))]
      congr 1
      omega

theorem iterate_rotateRow_period (row : UInt64) (shifts : Nat) :
    rotateRow^[shifts + 64] row = rotateRow^[shifts] row := by
  apply UInt64.toBitVec_inj.mp
  apply BitVec.eq_of_getMsbD_eq
  intro x hx
  have hplace : (((x : Int) - (shifts + 64 : Nat)) % 64).toNat =
      (((x : Int) - shifts) % 64).toNat := by omega
  exact (litAt_iterate_rotateRow row _ hx).trans
    ((congrArg (litAt row) hplace).trans (litAt_iterate_rotateRow row _ hx).symm)

/-- How many pixels of a row are lit. -/
def litCount (row : UInt64) : Nat := (List.range 64).countP (litAt row)

theorem litCount_rotateRow (row : UInt64) : litCount (rotateRow row) = litCount row := by
  have hcongr : (List.range 64).countP (litAt (rotateRow row)) =
      (List.range 64).countP (litAt row ∘ fun x => (x + 63) % 64) := by
    apply List.countP_congr
    intro x hx
    rw [litAt_rotateRow row (List.mem_range.mp hx)]
    rfl
  -- The columns looked at are the last one and then all others.
  have hcolumns : (List.range 64).map (fun x => (x + 63) % 64) =
      [63] ++ List.range 63 := by decide
  calc litCount (rotateRow row)
      = ((List.range 64).map fun x => (x + 63) % 64).countP (litAt row) := by
        rw [litCount, hcongr, List.countP_map]
    _ = (List.range 63 ++ [63]).countP (litAt row) := by
        rw [hcolumns]
        exact List.perm_append_comm.countP_eq _
    _ = litCount row := by rw [← List.range_succ]; rfl

theorem litCount_iterate_rotateRow (row : UInt64) (shifts : Nat) :
    litCount (rotateRow^[shifts] row) = litCount row := by
  induction shifts with
  | zero => rfl
  | succ shifts ih => rw [Function.iterate_succ_apply', litCount_rotateRow, ih]

/-- The word of the first `count` pixels, the last one in its lowest bit. -/
def wordOf (lit : Nat → Bool) (count : Nat) : UInt64 :=
  (List.range count).foldl (fun row x => row * 2 + (if lit x then 1 else 0)) 0

theorem wordOf_succ (lit : Nat → Bool) (count : Nat) :
    wordOf lit (count + 1) = wordOf lit count * 2 + (if lit count then 1 else 0) := by
  rw [wordOf, List.range_succ, List.foldl_append]
  rfl

theorem toNat_wordOf_succ (lit : Nat → Bool) {count : Nat}
    (hlt : (wordOf lit count).toNat < 2 ^ 63) :
    (wordOf lit (count + 1)).toNat =
      2 * (wordOf lit count).toNat + (lit count).toNat := by
  have hbit : (if lit count then 1 else 0 : UInt64).toNat = (lit count).toNat := by
    cases lit count <;> rfl
  have hle : (lit count).toNat ≤ 1 := Bool.toNat_le _
  rw [wordOf_succ, UInt64.toNat_add, UInt64.toNat_mul, hbit]
  change ((wordOf lit count).toNat * 2 % 2 ^ 64 + (lit count).toNat) % 2 ^ 64 = _
  omega

theorem toNat_wordOf_lt (lit : Nat → Bool) {count : Nat} (hcount : count ≤ 64) :
    (wordOf lit count).toNat < 2 ^ count := by
  induction count with
  | zero => exact Nat.one_pos
  | succ count ih =>
      have hlt := ih (by omega)
      have hle : (lit count).toNat ≤ 1 := Bool.toNat_le _
      have hpow : 2 ^ count ≤ 2 ^ 63 := Nat.pow_le_pow_right (by decide) (by omega)
      rw [toNat_wordOf_succ lit (by omega), Nat.pow_succ]
      omega

theorem testBit_wordOf (lit : Nat → Bool) {count x : Nat} (hcount : count ≤ 64)
    (hx : x < count) :
    (wordOf lit count).toNat.testBit (count - 1 - x) = lit x := by
  induction count with
  | zero => omega
  | succ count ih =>
      have hlt := toNat_wordOf_lt lit (show count ≤ 64 by omega)
      have hpow : 2 ^ count ≤ 2 ^ 63 := Nat.pow_le_pow_right (by decide) (by omega)
      rw [toNat_wordOf_succ lit (by omega)]
      rcases Nat.lt_succ_iff_lt_or_eq.mp hx with hbefore | rfl
      · have hplace : count + 1 - 1 - x = (count - 1 - x) + 1 := by omega
        have hhalf : (2 * (wordOf lit count).toNat + (lit count).toNat) / 2 =
            (wordOf lit count).toNat := by
          have hle : (lit count).toNat ≤ 1 := Bool.toNat_le _
          omega
        rw [hplace, Nat.testBit_succ, hhalf, ih (by omega) hbefore]
      · have hplace : x + 1 - 1 - x = 0 := by omega
        rw [hplace, Nat.testBit_zero]
        cases lit x <;> simp

/-- A painted row has the pixels that it is painted with. -/
theorem litAt_rowOf (lit : Nat → Bool) {x : Nat} (hx : x < 64) :
    litAt (rowOf lit) x = lit x :=
  (litAt_eq_testBit _ hx).trans (testBit_wordOf lit (Nat.le_refl 64) hx)

/-! ### Cycles -/

/-- A row of the picture after so many shifts. -/
def rowAfter (shifts y : Nat) : UInt64 :=
  if y = 0 ∨ y = height - 1 then rowOf (isLit · y) else rotateRow^[shifts] (rowOf (isLit · y))

theorem rowAfter_succ (shifts y : Nat) :
    rowAfter (shifts + 1) y =
      if y = 0 ∨ y = height - 1 then rowAfter shifts y else rotateRow (rowAfter shifts y) := by
  unfold rowAfter
  split
  · rfl
  · exact Function.iterate_succ_apply' ..

theorem rowAfter_period (shifts y : Nat) : rowAfter (shifts + 64) y = rowAfter shifts y := by
  rw [rowAfter, rowAfter, iterate_rotateRow_period]

theorem litAt_rowAfter_zero (y : Nat) {x : Nat} (hx : x < 64) :
    litAt (rowAfter 0 y) x = isLit x y := by
  rw [rowAfter, Function.iterate_zero, id, ite_self, litAt_rowOf _ hx]

theorem litCount_rowAfter (shifts y : Nat) :
    litCount (rowAfter shifts y) = litCount (rowAfter 0 y) := by
  unfold rowAfter
  split
  · rfl
  · exact litCount_iterate_rotateRow _ shifts

theorem advanceTimes_succ (cycles : Nat) (card : TestCard) :
    advanceTimes (cycles + 1) card = (advanceTimes cycles card).advance := by
  induction cycles generalizing card with
  | zero => rfl
  | succ cycles ih => rw [advanceTimes, ih]; rfl

@[simp] theorem cyclesPerShift_advance (card : TestCard) :
    card.advance.cyclesPerShift = card.cyclesPerShift := by
  unfold advance
  dsimp only
  split <;> rfl

theorem cyclesPerShift_advanceTimes (cycles : Nat) (card : TestCard) :
    (advanceTimes cycles card).cyclesPerShift = card.cyclesPerShift := by
  induction cycles with
  | zero => rfl
  | succ cycles ih => rw [advanceTimes_succ, cyclesPerShift_advance, ih]

theorem rows_advance (card : TestCard) {y : Nat} (hy : y < 32) :
    card.advance.rows[y] =
      if card.cyclesPerShift ∣ card.cycles + 1 ∧ ¬(y = 0 ∨ y = height - 1) then
        rotateRow card.rows[y]
      else card.rows[y] := by
  unfold advance
  simp only [Nat.dvd_iff_mod_eq_zero]
  by_cases hdue : (card.cycles + 1) % card.cyclesPerShift = 0
  · by_cases hborder : y = 0 ∨ y = height - 1 <;> simp [hdue, hborder, shift]
  · simp [hdue]

/-- Every so many cycles, the rows between the borders are shifted once. -/
theorem rows_advanceTimes (cyclesPerShift cycles : Nat) {y : Nat} (hy : y < 32) :
    (advanceTimes cycles (fresh cyclesPerShift)).rows[y] =
      rowAfter (cycles / max cyclesPerShift 1) y := by
  induction cycles with
  | zero =>
      rw [Nat.zero_div, rowAfter, Function.iterate_zero, id, ite_self]
      exact Vector.getElem_ofFn hy
  | succ cycles ih =>
      have hcycles : (advanceTimes cycles (fresh cyclesPerShift)).cycles = cycles := by
        rw [cycles_advanceTimes]
        exact Nat.zero_add cycles
      have hper : (fresh cyclesPerShift).cyclesPerShift = max cyclesPerShift 1 := rfl
      rw [advanceTimes_succ, rows_advance _ hy, ih, hcycles, cyclesPerShift_advanceTimes,
        hper, Nat.succ_div]
      by_cases hdue : max cyclesPerShift 1 ∣ cycles + 1
      · by_cases hborder : y = 0 ∨ y = height - 1 <;> simp [hdue, hborder, rowAfter_succ]
      · simp [hdue]

/-! ### Frames -/

/-- Every frame has 32 rows of eight bytes. -/
theorem size_frame (card : TestCard) : card.frame.size = frameBytes := by
  have hrow (row : UInt64) : ((Array.range 8).map (rowByte row)).size = 8 := by
    rw [Array.size_map, Array.size_range]
  have hrows : card.rows.toArray.size = 32 := card.rows.size_toArray
  rw [frame, Array.size_flatMap]
  simp only [hrow, Array.map_const', hrows, Array.sum_replicate_nat]
  rfl

theorem getElem?_frame (card : TestCard) (index : Nat) :
    card.frame[index]? = card.rows[index / 8]?.map fun row => rowByte row (index % 8) := by
  have hplace : index % 8 < 8 := Nat.mod_lt _ (by decide)
  have hrow (row : UInt64) : ((Array.range 8).map (rowByte row)).toList.length = 8 := by simp
  rw [← Array.getElem?_toList, frame, Array.toList_flatMap,
    getElem?_flatMap_of_length hrow (by decide), Array.getElem?_toList,
    Vector.getElem?_toArray]
  cases card.rows[index / 8]? with
  | none => rfl
  | some row => simp [hplace]

theorem bitOf_rowByte (row : UInt64) {x : Nat} (hx : x < 64) :
    Resolution.bitOf (rowByte row (x / 8)) x = litAt row x := by
  have hbyte : (56 - 8 * (x / 8)) % 64 = 56 - 8 * (x / 8) := by omega
  have hplace : 56 - 8 * (x / 8) + (7 - x % 8) = 63 - x := by omega
  have hlow : 7 - x % 8 < 8 := by omega
  have hvalue : (rowByte row (x / 8)).toNat =
      (row.toNat >>> (56 - 8 * (x / 8))) % 2 ^ 8 := by
    rw [rowByte, UInt64.toNat_toUInt8, UInt64.toNat_shiftRight,
      UInt64.toNat_ofNat_of_lt' (by rw [UInt64.size]; omega), hbyte]
  rw [litAt_eq_testBit row hx, Resolution.bitOf, hvalue, Nat.testBit_mod_two_pow,
    decide_eq_true hlow, Bool.true_and, Nat.testBit_shiftRight, hplace]

/-- The bits of a frame are the pixels of the card, row after row. -/
theorem getElem?_frameBits_frame (card : TestCard) {x y : Nat} (hx : x < 64) (hy : y < 32) :
    (frameBits card.frame)[y * 64 + x]? = some (litAt card.rows[y] x) := by
  have hrow : (y * 64 + x) / 8 / 8 = y := by omega
  have hbyte : (y * 64 + x) / 8 % 8 = x / 8 := by omega
  have hplace : (y * 64 + x) % 8 = x % 8 := by omega
  have hbit (byte : UInt8) : Resolution.bitOf byte (y * 64 + x) = Resolution.bitOf byte x := by
    rw [Resolution.bitOf, Resolution.bitOf, hplace]
  rw [Resolution.getElem?_frameBits, getElem?_frame, hrow, hbyte, Vector.getElem?_eq_getElem hy,
    Option.map_some, Option.map_some, hbit, bitOf_rowByte _ hx]

/-- What a card is asked for is what its row has there. -/
theorem pixel_eq (card : TestCard) {x y : Nat} (hx : x < 64) (hy : y < 32) :
    card.pixel x y = .ok (litAt card.rows[y] x) := by
  have hfits : ¬wordLimit ≤ y * width := by
    rw [wordLimit, width]
    show ¬(18446744073709551616 ≤ y * 64)
    omega
  have hrow : (y * width / 8 + x / 8) / 8 = y := by
    rw [width]
    omega
  have hbyte : (y * width / 8 + x / 8) % 8 = x / 8 := by
    rw [width]
    omega
  rw [pixel, if_neg hfits]
  dsimp only
  rw [hrow, hbyte, Vector.getElem?_eq_getElem hy]
  exact congrArg Except.ok (bitOf_rowByte _ hx)

/-- The display of a card. -/
def screen : Resolution := ⟨width, height⟩

/-- How many pixels of a row are lit. -/
def litPixels (card : TestCard) (y : Nat) : Nat :=
  (List.range width).countP fun x => card.pixel x y = .ok true

theorem litPixels_eq (card : TestCard) {y : Nat} (hy : y < 32) :
    card.litPixels y = litCount card.rows[y] := by
  apply List.countP_congr
  intro x hx
  rw [pixel_eq card (List.mem_range.mp hx) hy]
  simp

theorem frame_congr {card other : TestCard}
    (h : ∀ (y : Nat) (hy : y < 32), card.rows[y] = other.rows[y]) :
    card.frame = other.frame := by
  rw [frame, frame, Vector.ext h]

/-- A plane that shows a card: it has each lit pixel once, and nothing else. -/
structure IsShownBy (card : TestCard) (white : List Coordinate) : Prop where
  plane : screen.bitplane card.frame true = .ok white
  once : white.Nodup
  lit : ∀ place, place ∈ white ↔ ∃ x y : Nat, x < width ∧ y < height ∧
    place = ((x : Int), -(y : Int)) ∧ card.pixel x y = .ok true

/-- A display shows a card as it is, whatever its rows are. -/
theorem isShownBy (card : TestCard) : card.IsShownBy (screen.plane card.frame true) := by
  have hbytes : screen.pixelCount ≤ 8 * card.frame.size := by
    rw [size_frame]
    decide
  have hmem (x y : Nat) (hx : x < 64) (hy : y < 32) :
      ((x : Int), -(y : Int)) ∈ screen.plane card.frame true ↔ card.pixel x y = .ok true := by
    have hplane : ((x : Int), -(y : Int)) ∈ screen.plane card.frame true ↔
        (frameBits card.frame)[y * 64 + x]? = some true := Resolution.mem_plane_iff hx hy
    rw [hplane, getElem?_frameBits_frame card hx hy, pixel_eq card hx hy, Option.some_inj,
      Except.ok.injEq]
  refine ⟨Resolution.bitplane_eq true hbytes, Resolution.nodup_plane .., fun place => ?_⟩
  constructor
  · intro hplace
    obtain ⟨x, y, hx, hy, rfl⟩ := Resolution.exists_of_mem_plane (by decide) hplace
    exact ⟨x, y, hx, hy, rfl, (hmem x y hx hy).mp hplace⟩
  · rintro ⟨x, y, hx, hy, rfl, hlit⟩
    exact (hmem x y hx hy).mpr hlit

/-- A card that was fresh some cycles ago, and takes some cycles for each shift. -/
structure Scrolls (cyclesPerShift cycles : Nat) (card : TestCard) : Prop where
  first : ∀ x y : Nat, x < width → y < height →
    (fresh cyclesPerShift).pixel x y = .ok (isLit x y)
  /-- Between the borders, a pixel has moved by one column for each shift. -/
  inner : ∀ x y : Nat, x < width → 0 < y → y < height - 1 →
    card.pixel x y = (fresh cyclesPerShift).pixel
      (((x : Int) - (cycles / max cyclesPerShift 1 : Nat)) % width).toNat y
  border : ∀ x y : Nat, x < width → y = 0 ∨ y = height - 1 →
    card.pixel x y = (fresh cyclesPerShift).pixel x y
  count : ∀ y < height, card.litPixels y = (fresh cyclesPerShift).litPixels y
  shown : ∃ white, card.IsShownBy white

/-- After any number of cycles, the rows between the borders have moved to the right by
one column for each shift, around their ends, and the borders are as they were; every row
keeps its number of lit pixels, and a display shows what is lit.  The frame comes back
when the rows have moved by their width. -/
theorem scrollsRound (cyclesPerShift cycles : Nat) :
    Scrolls cyclesPerShift cycles (advanceTimes cycles (fresh cyclesPerShift)) ∧
      (advanceTimes (cycles + width * max cyclesPerShift 1) (fresh cyclesPerShift)).frame =
        (advanceTimes cycles (fresh cyclesPerShift)).frame := by
  have hrows (n y : Nat) (hy : y < 32) := rows_advanceTimes cyclesPerShift n hy
  have hfresh (y : Nat) (hy : y < 32) : (fresh cyclesPerShift).rows[y] = rowAfter 0 y := by
    rw [← Nat.zero_div (max cyclesPerShift 1)]
    exact hrows 0 y hy
  refine ⟨⟨fun x y hx hy => ?_, fun x y hx hpos hlast => ?_, fun x y hx hborder => ?_,
    fun y hy => ?_, ⟨_, isShownBy _⟩⟩, ?_⟩
  · rw [pixel_eq _ hx hy]
    exact congrArg Except.ok ((congrArg (litAt · x) (hfresh y hy)).trans
      (litAt_rowAfter_zero y hx))
  · have hy : y < 32 := Nat.lt_of_lt_of_le hlast (by decide)
    have hinner : ¬(y = 0 ∨ y = height - 1) := by omega
    have hmoved :
        (((x : Int) - (cycles / max cyclesPerShift 1 : Nat)) % width).toNat < 64 := by
      rw [width]
      omega
    rw [pixel_eq _ hx hy, pixel_eq _ hmoved hy, hrows, hfresh, rowAfter, rowAfter,
      if_neg hinner, if_neg hinner, litAt_iterate_rotateRow _ _ hx]
    rfl
  · have hy : y < 32 := by
      rcases hborder with rfl | rfl <;> decide
    rw [pixel_eq _ hx hy, pixel_eq _ hx hy, hrows, hfresh, rowAfter, rowAfter, if_pos hborder,
      if_pos hborder]
  · have hrow : y < 32 := hy
    rw [litPixels_eq _ hrow, litPixels_eq _ hrow, hrows, hfresh, litCount_rowAfter]
  · apply frame_congr
    intro y hy
    rw [hrows, hrows, Nat.add_mul_div_right _ _ (by omega)]
    exact rowAfter_period _ y

end Cadence.TestCard
