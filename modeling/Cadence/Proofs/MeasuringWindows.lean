import Mathlib.Data.List.ReduceOption
import Cadence.Proofs.RateIntervals
import Cadence.Refresh.Meter

/-!
Measuring windows.  The ticks of a meter after its first one fall into windows, each of
which ends with the first tick that may close it, and the next one starts there; a
measurement divides the ticks of a window by the time that it took.
-/

namespace Cadence

/-! ### Seconds -/

theorem roundRatio_pos {numerator denominator : Nat} (hpos : 0 < denominator)
    (hle : denominator ≤ numerator) : 0 < roundRatio numerator denominator := by
  have hone : roundRatio 1 1 = 1 := by decide
  calc 0 < roundRatio 1 1 := by rw [hone]; exact Nat.one_pos
    _ ≤ roundRatio numerator denominator :=
      roundRatio_mono Nat.one_pos hpos (by omega)

namespace Binary64

open Magnitude

theorem Positive.zero_lt {a : Binary64} {place : Nat} (h : a.Positive place) : 0 < a := by
  change Binary64.lt 0 a = true
  have hpos := h.pos
  rw [lt, position_zero, h.position]
  exact decide_eq_true (by omega)

theorem zero_lt_ofUnitRatio {numerator denominator : Nat} (hpos : 0 < denominator)
    (hle : denominator ≤ numerator) : 0 < ofUnitRatio false numerator denominator := by
  by_cases hlt : roundRatio numerator denominator < overflowUnits
  · rw [ofUnitRatio_of_lt hlt]
    exact (Positive.finite (roundRatio_pos hpos hle)).zero_lt
  · rw [ofUnitRatio_of_not_lt hlt]
    exact Positive.infinite.zero_lt

theorem add_finite (a b : Magnitude) :
    finite false a + finite false b = ofUnitRatio false (a.units + b.units) 1 := by
  simp only [HAdd.hAdd, Add.add, add, ↓reduceIte]

theorem infinite_add_ofUnitRatio (numerator denominator : Nat) :
    infinite false + ofUnitRatio false numerator denominator = infinite false := by
  by_cases hlt : roundRatio numerator denominator < overflowUnits
  · rw [ofUnitRatio_of_lt hlt]
    rfl
  · rw [ofUnitRatio_of_not_lt hlt]
    rfl

/-- A sum is positive if one of its parts is, and none of them is negative. -/
theorem zero_lt_add {a b c d : Nat} (hpos : 0 < roundRatio a b + roundRatio c d) :
    0 < ofUnitRatio false a b + ofUnitRatio false c d := by
  by_cases hfirst : roundRatio a b < overflowUnits
  · by_cases hsecond : roundRatio c d < overflowUnits
    · rw [ofUnitRatio_of_lt hfirst, ofUnitRatio_of_lt hsecond, add_finite]
      exact zero_lt_ofUnitRatio Nat.one_pos hpos
    · rw [ofUnitRatio_of_lt hfirst, ofUnitRatio_of_not_lt hsecond]
      exact Positive.infinite.zero_lt
  · rw [ofUnitRatio_of_not_lt hfirst, infinite_add_ofUnitRatio]
    exact Positive.infinite.zero_lt

end Binary64

/-- Some time is some seconds. -/
theorem Duration.toSeconds_pos {duration : Nat} (hpos : 0 < duration) :
    0 < toSeconds duration := by
  have hsecond : perSecond < 2 * hiddenBit := by decide
  have hpart : duration % perSecond < 2 * hiddenBit :=
    Nat.lt_trans (Nat.mod_lt _ (by decide)) hsecond
  have hunits : 0 < (Magnitude.ofNat perSecond hsecond).units :=
    Nat.mul_pos (by decide) Magnitude.unitsPerOne_pos
  have hwhole : Binary64.ofNat (duration / perSecond) =
      Binary64.ofUnitRatio false (duration / perSecond * Magnitude.unitsPerOne) 1 := rfl
  rw [toSeconds, Binary64.ofNat_of_lt hpart, Binary64.ofNat_of_lt hsecond,
    Binary64.div_finite _ hunits, hwhole]
  apply Binary64.zero_lt_add
  rcases Nat.eq_zero_or_pos (duration / perSecond) with hnone | hsome
  · have hrest : 0 < duration % perSecond := by
      have hsum := Nat.div_add_mod duration perSecond
      rw [hnone] at hsum
      omega
    have hwide : perSecond ≤ duration % perSecond * Magnitude.unitsPerOne := by
      calc perSecond ≤ Magnitude.unitsPerOne := by decide +kernel
        _ ≤ duration % perSecond * Magnitude.unitsPerOne := Nat.le_mul_of_pos_left _ hrest
    exact Nat.add_pos_right _ (roundRatio_pos hunits (Nat.mul_le_mul_right _ hwide))
  · apply Nat.add_pos_left
    exact roundRatio_pos Nat.one_pos (Nat.mul_pos hsome Magnitude.unitsPerOne_pos)

namespace RateMeter

/-! ### Ticks -/

/-- What a meter answers to some ticks. -/
def reports (meter : RateMeter) : List Nat → List (Option Binary64)
  | [] => []
  | now :: rest => (meter.tick now).1 :: (meter.tick now).2.reports rest

/-- A meter after some ticks. -/
def after (meter : RateMeter) (ticks : List Nat) : RateMeter :=
  ticks.foldl (fun meter now => (meter.tick now).2) meter

theorem after_cons (meter : RateMeter) (now : Nat) (rest : List Nat) :
    meter.after (now :: rest) = (meter.tick now).2.after rest := rfl

theorem after_concat (meter : RateMeter) (ticks : List Nat) (now : Nat) :
    meter.after (ticks ++ [now]) = ((meter.after ticks).tick now).2 := by
  rw [after, List.foldl_append]
  rfl

/-- A meter keeps the rate that it has measured last. -/
theorem rate_tick (meter : RateMeter) (now : Nat) :
    (meter.tick now).2.rate = (meter.tick now).1.or meter.rate := by
  unfold tick
  split
  · rfl
  · dsimp only
    split <;> rfl

theorem rate_after (meter : RateMeter) (ticks : List Nat) :
    (meter.after ticks).rate =
      ((meter.reports ticks).reduceOption.getLast?).or meter.rate := by
  induction ticks generalizing meter with
  | nil => rfl
  | cons now rest ih =>
      rw [after_cons, ih, rate_tick, reports]
      cases (meter.tick now).1 with
      | none => rw [List.reduceOption_cons_of_none, Option.none_or]
      | some rate =>
          rw [List.reduceOption_cons_of_some, List.getLast?_cons]
          cases ((meter.tick now).2.reports rest).reduceOption.getLast? <;> rfl

/-! ### Windows -/

/-- A window of at least some length that opened at some time may close at a tick. -/
def Ends (length opened now : Nat) : Prop := opened < now ∧ length ≤ now - opened

theorem closes_iff (meter : RateMeter) (opened now : Nat) :
    meter.closes (Duration.since now opened) = true ↔ Ends meter.window opened now := by
  unfold closes Duration.since Ends
  rw [Bool.and_eq_true, decide_eq_true_iff, bne_iff_ne]
  omega

section Tick

variable {length opened count now : Nat} {rate : Option Binary64}

theorem tick_of_ends (h : Ends length opened now) :
    tick ⟨length, some opened, count, rate⟩ now =
      (some (measure (count + 1) (now - opened)),
        ⟨length, some now, 0, some (measure (count + 1) (now - opened))⟩) :=
  tick_of_closes rfl ((closes_iff ..).mpr h)

theorem tick_of_not_ends (h : ¬Ends length opened now) :
    tick ⟨length, some opened, count, rate⟩ now =
      (none, ⟨length, some opened, count + 1, rate⟩) :=
  tick_of_not_closes rfl (eq_false_of_ne_true fun hcloses => h ((closes_iff ..).mp hcloses))

end Tick

/-- A window that is over. -/
structure Window where
  opened : Nat
  /-- The ticks that did not close it. -/
  before : List Nat
  closed : Nat

namespace Window

/-- The ticks of a window, the tick that opened it not among them. -/
def ticks (window : Window) : List Nat := window.before ++ [window.closed]

def rate (window : Window) : Binary64 :=
  measure window.ticks.length (window.closed - window.opened)

def reports (window : Window) : List (Option Binary64) :=
  window.before.map (fun _ => none) ++ [some window.rate]

end Window

/-- Windows that follow one another from some time to another one, each closed by the
first tick that could. -/
inductive Chained (length : Nat) : Nat → List Window → Nat → Prop
  | nil {opened} : Chained length opened [] opened
  | cons {window rest last} (hearly : ∀ now ∈ window.before, ¬Ends length window.opened now)
      (hends : Ends length window.opened window.closed)
      (hrest : Chained length window.closed rest last) :
      Chained length window.opened (window :: rest) last

theorem Chained.ends {length opened last : Nat} {windows : List Window}
    (h : Chained length opened windows last) :
    ∀ window ∈ windows, Ends length window.opened window.closed := by
  induction h with
  | nil => exact List.forall_mem_nil _
  | cons hearly hends hrest ih =>
      intro window hwindow
      rcases List.mem_cons.mp hwindow with rfl | hlater
      · exact hends
      · exact ih window hlater

/-- The windows that are over, and the ticks of the one that has opened since. -/
structure Tiling where
  windows : List Window
  opened : Nat
  left : List Nat

namespace Tiling

/-- All ticks of all windows. -/
def ticks (tiling : Tiling) : List Nat :=
  tiling.windows.flatMap Window.ticks ++ tiling.left

def reports (tiling : Tiling) : List (Option Binary64) :=
  tiling.windows.flatMap Window.reports ++ tiling.left.map fun _ => none

/-- The first window opened at some time, and the last one is still open. -/
structure Fits (tiling : Tiling) (length first : Nat) : Prop where
  chained : Chained length first tiling.windows tiling.opened
  waits : ∀ now ∈ tiling.left, ¬Ends length tiling.opened now

def cons (window : Window) (tiling : Tiling) : Tiling :=
  { tiling with windows := window :: tiling.windows }

@[simp] theorem ticks_cons (window : Window) (tiling : Tiling) :
    (tiling.cons window).ticks = window.ticks ++ tiling.ticks := by
  simp [cons, ticks]

@[simp] theorem reports_cons (window : Window) (tiling : Tiling) :
    (tiling.cons window).reports = window.reports ++ tiling.reports := by
  simp [cons, reports]

end Tiling

/-- The next ticks of a meter that has opened a window at some time and has counted the
ticks of `before` in it. -/
theorem exists_tiling (length : Nat) (rate : Option Binary64) (ticks : List Nat)
    (opened : Nat) (before : List Nat) (hbefore : ∀ now ∈ before, ¬Ends length opened now) :
    let meter : RateMeter := ⟨length, some opened, before.length, rate⟩
    ∃ tiling : Tiling, tiling.Fits length opened ∧ tiling.ticks = before ++ ticks ∧
      tiling.reports = before.map (fun _ => none) ++ meter.reports ticks ∧
      (meter.after ticks).opened = some tiling.opened ∧
      (meter.after ticks).count = tiling.left.length := by
  -- On the ticks to come; those already in the open window are in `before`.
  induction ticks generalizing opened before rate with
  | nil =>
      refine ⟨⟨[], opened, before⟩, ⟨.nil, hbefore⟩, ?_, ?_, rfl, rfl⟩
      · simp [Tiling.ticks]
      · simp [Tiling.reports, reports]
  | cons now rest ih =>
      intro meter
      by_cases hends : Ends length opened now
      · let window : Window := ⟨opened, before, now⟩
        have hrate : window.rate = measure (before.length + 1) (now - opened) := by
          rw [Window.rate, Window.ticks, List.length_append, List.length_singleton]
        have htick : meter.tick now =
            (some window.rate, ⟨length, some now, 0, some window.rate⟩) := by
          rw [hrate]
          exact tick_of_ends hends
        obtain ⟨tiling, hfits, hticks, hreports, hlast⟩ :=
          ih (some window.rate) now [] (List.forall_mem_nil _)
        have hchained : Chained length window.opened (window :: tiling.windows)
          tiling.opened := .cons hbefore hends hfits.chained
        refine ⟨tiling.cons window, ⟨hchained, hfits.waits⟩, ?_, ?_, ?_⟩
        · rw [Tiling.ticks_cons, hticks]
          exact List.append_assoc ..
        · rw [Tiling.reports_cons, hreports, reports, htick]
          exact List.append_assoc ..
        · rw [after_cons, htick]
          exact hlast
      · have htick : meter.tick now =
            (none, ⟨length, some opened, before.length + 1, rate⟩) := tick_of_not_ends hends
        obtain ⟨tiling, hfits, hticks, hreports, hlast⟩ := ih rate opened (before ++ [now])
          (List.forall_mem_append.mpr ⟨hbefore, List.forall_mem_singleton.mpr hends⟩)
        rw [List.length_append, List.length_singleton] at hreports hlast
        refine ⟨tiling, hfits, ?_, ?_, ?_⟩
        · rw [hticks]
          exact List.append_assoc ..
        · rw [hreports, reports, htick, List.map_append]
          exact List.append_assoc ..
        · rw [after_cons, htick]
          exact hlast

/-- How a meter measures some ticks over windows of at least some length. -/
structure Measures (length first : Nat) (ticks : List Nat) : Prop where
  tiled : ∃ tiling : Tiling, tiling.Fits length first ∧ tiling.ticks = ticks ∧
    (ofWindow length).reports (first :: ticks) = none :: tiling.reports ∧
    ((ofWindow length).after (first :: ticks)).opened = some tiling.opened ∧
    ((ofWindow length).after (first :: ticks)).count = tiling.left.length ∧
    ∀ window ∈ tiling.windows,
      0 < Duration.toSeconds (window.closed - window.opened)
  rate : ((ofWindow length).after (first :: ticks)).rate =
    ((ofWindow length).reports (first :: ticks)).reduceOption.getLast?

theorem measures (length first : Nat) (ticks : List Nat) : Measures length first ticks := by
  obtain ⟨tiling, hfits, hticks, hreports, hopened, hcount⟩ :=
    exists_tiling length none ticks first [] (List.forall_mem_nil _)
  constructor
  · refine ⟨tiling, hfits, hticks, ?_, hopened, hcount, fun window hwindow => ?_⟩
    · exact congrArg (none :: ·) hreports.symm
    · exact Duration.toSeconds_pos (Nat.sub_pos_of_lt (hfits.chained.ends window hwindow).1)
  · rw [rate_after]
    exact Option.or_none

end RateMeter

end Cadence
