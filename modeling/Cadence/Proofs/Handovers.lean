import Cadence.Proofs.Contract

/-!
Handovers.  The scripts that a computation hands the rig over to, one after the
other, are all the user code that it calls by itself.
-/

namespace Cadence

/-- The end of a computation whose value is used in some way. -/
def Ending.map {α β : Type} (f : α → β) : Ending α → Ending β
  | .value a => .value (f a)
  | .panicked cause => .panicked cause
  | .exhausted => .exhausted

theorem Ending.exists_value {α : Type} {ending : Ending α} (h : ending.isValue = true) :
    ∃ a, ending = .value a := by
  cases ending with
  | value a => exact ⟨a, rfl⟩
  | panicked cause => cases h
  | exhausted => cases h

/-- A script that was run, and how it ended. -/
structure Handover where
  script : Script
  ending : Ending (Except Failure Datum)

namespace Progress

variable {α β : Type} {play : Play}

/-- What a computation hands the rig over to, where `play` runs the scripts. -/
def handovers (play : Play) : Progress α → List Handover
  | .ended _ _ => []
  | .handed script rig resume =>
      let (ending, later) := play script rig
      ⟨script, ending⟩ :: (resume ending later).handovers play

theorem handovers_handed (script : Script) (rig : Rig)
    (resume : Ending (Except Failure Datum) → Rig → Progress α) :
    (Progress.handed script rig resume).handovers play =
      ⟨script, (play script rig).1⟩ ::
        (resume (play script rig).1 (play script rig).2).handovers play := rfl

theorem run_andThen (next : α → Exec β) (progress : Progress α) :
    (progress.andThen next).run play =
      match progress.run play with
      | (.value a, rig) => (next a rig).run play
      | (.panicked cause, rig) => (.panicked cause, rig)
      | (.exhausted, rig) => (.exhausted, rig) := by
  induction progress with
  | ended ending rig => cases ending <;> rfl
  | handed script rig resume ih => exact ih _ _

theorem handovers_andThen (next : α → Exec β) (progress : Progress α) :
    (progress.andThen next).handovers play = progress.handovers play ++
      match progress.run play with
      | (.value a, rig) => (next a rig).handovers play
      | _ => [] := by
  induction progress with
  | ended ending rig => cases ending <;> rfl
  | handed script rig resume ih =>
      simp only [andThen, handovers, run, List.cons_append]
      rw [ih]

/-- What comes after does not show if it hands the rig over to nothing. -/
theorem handovers_andThen_of_nil {next : α → Exec β}
    (hnext : ∀ a rig, (next a rig).handovers play = []) (progress : Progress α) :
    (progress.andThen next).handovers play = progress.handovers play := by
  rw [handovers_andThen]
  rcases progress.run play with ⟨ending, rig⟩
  cases ending <;> simp [hnext]

@[simp] theorem run_atEnd (release : Rig → Rig) (progress : Progress α) :
    (progress.atEnd release).run play =
      ((progress.run play).1, release (progress.run play).2) := by
  induction progress with
  | ended ending rig => rfl
  | handed script rig resume ih => exact ih _ _

@[simp] theorem handovers_atEnd (release : Rig → Rig) (progress : Progress α) :
    (progress.atEnd release).handovers play = progress.handovers play := by
  induction progress with
  | ended ending rig => rfl
  | handed script rig resume ih =>
      simp only [atEnd, handovers]
      rw [ih]

theorem run_atEnd_eq_value {release : Rig → Rig} {progress : Progress α} {a : α}
    {later : Rig} (h : (progress.atEnd release).run play = (.value a, later)) :
    ∃ middle, progress.run play = (.value a, middle) ∧ release middle = later := by
  rw [run_atEnd] at h
  rcases hbody : progress.run play with ⟨ending, middle⟩
  rw [hbody] at h
  cases h
  exact ⟨middle, rfl, rfl⟩

/-- A sequence that ends with a value has gone through both of its parts. -/
theorem run_andThen_eq_value {next : α → Exec β} {progress : Progress α} {b : β}
    {later : Rig} (h : (progress.andThen next).run play = (.value b, later)) :
    ∃ a middle, progress.run play = (.value a, middle) ∧
      (next a middle).run play = (.value b, later) := by
  rw [run_andThen] at h
  rcases hfirst : progress.run play with ⟨ending, middle⟩
  rw [hfirst] at h
  cases ending with
  | value a => exact ⟨a, middle, rfl, h⟩
  | panicked cause => cases h
  | exhausted => cases h

end Progress

/-- A call of a routine hands the rig over to what the routine does. -/
theorem Exec.call_apply {rig : Rig} {routine : Nat} {entry : Routine}
    (hentry : rig.routines[routine]? = some entry) (occasion : Occasion) :
    call routine occasion rig =
      .handed (entry.course entry.calls occasion)
        { rig with
          routines := rig.routines.modify routine fun entry =>
            { entry with calls := entry.calls + 1 } }
        fun ending later => (Progress.ended ending later).andThen
          fun answer => (pure (answer.map fun _ => ()) : Exec Verdict) := by
  simp only [call, bind_apply, look_apply, Progress.andThen, hentry]
  rfl

/-- A call that comes to its end hands the rig over once and passes the verdict
on. -/
theorem Exec.run_call_eq_value {rig later : Rig} {routine : Nat} {entry : Routine}
    {occasion : Occasion} {play : Play} {verdict : Verdict}
    (hentry : rig.routines[routine]? = some entry)
    (h : (call routine occasion rig).run play = (.value verdict, later)) :
    ∃ answer, (call routine occasion rig).handovers play =
        [⟨entry.course entry.calls occasion, .value answer⟩] ∧
      verdict = answer.map fun _ => () := by
  rw [call_apply hentry] at h ⊢
  rw [Progress.handovers_handed, Progress.handovers_andThen_of_nil fun _ _ => rfl]
  obtain ⟨answer, middle, hplayed, hanswer⟩ := Progress.run_andThen_eq_value h
  cases hanswer
  refine ⟨answer, ?_, rfl⟩
  rw [(Prod.mk.inj hplayed).1]
  rfl

/-- What carrying an order out hands the rig over to, with at most `depth` levels
of orders inside orders. -/
def Order.handovers (depth : Nat) (order : Order) (rig : Rig) : List Handover :=
  match depth with
  | 0 => []
  | depth + 1 =>
      (order.carryOut (depth + 1) rig).handovers (Script.playWithin depth)

end Cadence
