import Cadence.Proofs.Announcements

/-!
What the answer of a setter is worth.  It is the value that the setter stored, or
found stored, whatever observers do: they may store other rates before the setter
returns, and the last of these is the one held then.
-/

namespace Cadence

namespace Pace

open Pacing

variable {start : Pacing} {rig later : Rig} {rate : Rate} {order : PaceOrder}

/-- Whatever comes of adopting a rate, a setter answers its own part of it. -/
theorem respects_setPart (htarget : target rig.pace.rate order = some rate)
    (hfinds : (contract start).finds rig) :
    (perform order rig).Respects (contract start) fun ending _ =>
      ∀ answer, ending = .value answer → setPart order rate = some answer := by
  obtain ⟨lines, answer, hanswer, hsets, hcourse⟩ := perform_setter htarget
  rw [hcourse]
  split
  · rintro _ ⟨⟩
    exact hanswer
  · rw [Exec.bind_apply, Progress.respects_andThen]
    apply (soundAt_adopt (finds_logged lines hfinds) hsets).imp
    rintro ending later -
    cases ending with
    | value done =>
        rintro _ ⟨⟩
        exact hanswer
    | panicked cause =>
        rintro _ ⟨⟩
    | exhausted =>
        rintro _ ⟨⟩

/-- What the answer of a setter is worth that asked for a rate, if some other rates
have been stored after it. -/
structure Answers (rig later : Rig) (order : PaceOrder) (rate : Rate)
    (answer : order.Answer) (others : List Rate) : Prop where
  own : setPart order rate = some answer
  stores : ∃ events, later.journal = events ++ rig.journal ∧
    chronicle Event.stores events =
      (if rate = rig.pace.rate then [] else [rate]) ++ others
  /-- Nobody is told of a rate that is held already. -/
  quiet : rate = rig.pace.rate → others = []
  holds : later.pace.rate = others.getLast?.getD rate

theorem exists_answers {answer : order.Answer} {events : List Event}
    (hown : setPart order rate = some answer)
    (h : Converges rig later rate events) :
    ∃ others, Answers rig later order rate answer others := by
  by_cases hsame : rate = rig.pace.rate
  · obtain ⟨hstores, _⟩ := h.unchanged hsame
    refine ⟨[], hown, ⟨events, h.journal, ?_⟩, fun _ => rfl, ?_⟩
    · rw [hstores, if_pos hsame]
      rfl
    · rw [h.holds, held_eq_getLast, hstores, hsame]
  · obtain ⟨others, hstores⟩ := h.changes hsame
    refine ⟨others, hown, ⟨events, h.journal, ?_⟩, fun h => absurd h hsame, ?_⟩
    · rw [hstores, if_neg hsame, List.singleton_append]
    · rw [h.holds, held_eq_getLast, hstores, List.getLast?_cons]
      rfl

/-- The answer is out of date if and only if the last rate that was stored after
the setter's own has another value in its place. -/
theorem Answers.current_iff {answer : order.Answer} {others : List Rate}
    (h : Answers rig later order rate answer others) :
    setPart order later.pace.rate = some answer ↔
      ∀ last ∈ others.getLast?, setPart order last = some answer := by
  rw [h.holds]
  cases hlast : others.getLast? with
  | none => simp [h.own]
  | some last => simp

/-- A setter that returns answers the value it asked for, which is the one stored
unless others have stored another one since. -/
theorem answersOwnPart {depth : Nat}
    (htarget : target rig.pace.rate order = some rate)
    (hvalue : ((Order.pace order).perform depth rig).1.isValue = true) :
    ∃ answer others, ((Order.pace order).perform depth rig).1 = .value answer ∧
      Answers rig ((Order.pace order).perform depth rig).2 order rate answer others ∧
      (setPart order ((Order.pace order).perform depth rig).2.pace.rate =
          some answer ↔
        ∀ last ∈ others.getLast?, setPart order last = some answer) := by
  have hfinds : (contract rig.pacing).finds rig := ⟨[], .refl⟩
  cases depth with
  | zero => cases hvalue
  | succ depth =>
      have hhonoured := (soundOrders rig.pacing).honoured depth
      have hsetting : Setting rig.pacing rate
          ((Order.pace order).perform (depth + 1) rig).1.isValue
          ((Order.pace order).perform (depth + 1) rig).2.pacing :=
        (respects_setter htarget hfinds).run hhonoured
      have hown : ∀ answer,
          ((Order.pace order).perform (depth + 1) rig).1 = .value answer →
            setPart order rate = some answer :=
        (respects_setPart htarget hfinds).run hhonoured
      rw [hvalue] at hsetting
      obtain ⟨events, hconverges⟩ := converges_of_setting hsetting
      cases hending : ((Order.pace order).perform (depth + 1) rig).1 with
      | value answer =>
          obtain ⟨others, hanswers⟩ := exists_answers (hown answer hending) hconverges
          exact ⟨answer, others, rfl, hanswers, hanswers.current_iff⟩
      | panicked cause =>
          rw [hending] at hvalue
          cases hvalue
      | exhausted =>
          rw [hending] at hvalue
          cases hvalue

/-- The answer is five hundred cycles, while a hundred are stored. -/
theorem answersOwnPart_overruled :
    let later := ((Order.pace (.setCycles 500)).perform 3 limitedRig).2
    ((Order.pace (.setCycles 500)).perform 3 limitedRig).1 = .value (500 : UInt32) ∧
      later.pace.rate.cycles = 100 ∧ ∃ rate others,
        target limitedRig.pace.rate (.setCycles 500) = some rate ∧
          Answers limitedRig later (.setCycles 500) rate (500 : UInt32) others := by
  intro later
  have htarget : target limitedRig.pace.rate (.setCycles 500) =
      some { limitedRig.pace.rate with cycles := Rate.clampCycles 500 } := rfl
  have hvalue : ((Order.pace (.setCycles 500)).perform 3
      limitedRig).1.isValue = true := by decide +kernel
  obtain ⟨answer, others, hending, hanswers, _⟩ := answersOwnPart htarget hvalue
  have hanswer : some (500 : UInt32) = some answer := hanswers.own
  obtain rfl := Option.some.inj hanswer
  exact ⟨hending, by decide +kernel, _, others, htarget, hanswers⟩

end Pace

end Cadence
