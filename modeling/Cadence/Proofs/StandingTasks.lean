import Cadence.Proofs.KeptFacts

/-!
Recurring tasks stay.  A task is not taken away again, what it does does not change,
and whoever runs its body takes back the mark that shows it.
-/

namespace Cadence

open Exec Contract

/-- The tasks of a rig are there later on, do what they did, and execute if they did. -/
def Rig.KeepsTasks (rig later : Rig) : Prop :=
  ∀ (task : Nat) entry, rig.refresher.tasks[task]? = some entry →
    later.refresher.tasks[task]? = some entry

namespace Rig.KeepsTasks

variable {rig middle later : Rig}

theorem refl (rig : Rig) : rig.KeepsTasks rig := fun _ _ h => h

theorem trans (hfirst : rig.KeepsTasks middle) (hsecond : middle.KeepsTasks later) :
    rig.KeepsTasks later :=
  fun task entry h => hsecond task entry (hfirst task entry h)

theorem of_tasks (htasks : later.refresher.tasks = rig.refresher.tasks) :
    rig.KeepsTasks later := by
  intro task entry h
  rw [htasks]
  exact h

/-- Tasks are only ever added. -/
theorem recur (body : TaskBody) (rig : Rig) :
    rig.KeepsTasks { rig with refresher := rig.refresher.recur body } := by
  intro task entry h
  obtain ⟨hsize, hentry⟩ := Array.getElem?_eq_some_iff.mp h
  show (rig.refresher.tasks.push ⟨body, false⟩)[task]? = some entry
  rw [Array.getElem?_push_lt hsize, hentry]

/-- A task that does not execute is as it was when its mark was set for a while. -/
theorem of_marked {task : Nat} {entry : RecurringTask}
    (hentry : rig.refresher.tasks[task]? = some entry) (hfree : entry.executing = false)
    (h : (Refresher.markOnRig task true rig).KeepsTasks later) :
    rig.KeepsTasks (Refresher.markOnRig task false later) := by
  intro other old hother
  have hmarked := h other (if task = other then { old with executing := true } else old) (by
    show (rig.refresher.tasks.modify task _)[other]? = _
    rw [Array.getElem?_modify, hother]
    split <;> rfl)
  show (later.refresher.tasks.modify task _)[other]? = some old
  rw [Array.getElem?_modify, hmarked]
  split
  · rename_i hsame
    subst hsame
    obtain rfl := Option.some.inj (hentry.symm.trans hother)
    simp only [Option.map_some, ← hfree]
  · rfl

end Rig.KeepsTasks

/-- Runs that keep the tasks of a rig, whatever user code does. -/
def keepingTasks : Contract where
  allowed _ := True
  finds _ := True
  leaves rig _ later := rig.KeepsTasks later
  refl _ := .refl _
  trans := .trans
  keeps _ _ := trivial
  bound _ := Rig.keepsTo_all _
  enrolls _ _ := .refl _

namespace Refresher

theorem ignores_keepingTasks {facet : Facet} (hfacet : facet ≠ .refreshes) :
    keepingTasks.Ignores facet := by
  intro rig ending middle later hleaves htouch
  cases htouch with
  | refreshes => exact absurd rfl hfacet
  | _ => exact hleaves

theorem ignoresAll_keepingTasks : keepingTasks.IgnoresAll Facet.sides := by
  intro facet hfacet
  apply ignores_keepingTasks
  rintro rfl
  exact absurd hfacet (by decide)

theorem ignoresAll_asides_keepingTasks : keepingTasks.IgnoresAll Facet.asides :=
  (ignoresAll_keepingTasks.of_subset Facet.rendering_subset_sides).of_subset
    Facet.asides_subset_rendering

theorem admits_keepingTasks {change : Rig → Rig}
    (hchange : ∀ rig, (change rig).refresher.tasks = rig.refresher.tasks) :
    keepingTasks.Admits change :=
  fun _ _ middle hleaves => Rig.KeepsTasks.trans hleaves (.of_tasks (hchange middle))

theorem allowsTurns_keepingTasks : keepingTasks.AllowsTurns :=
  .of_ignores (ignoresAll_keepingTasks.of_subset Facet.rendering_subset_sides)
    (ignores_keepingTasks (by decide)) (ignores_keepingTasks (by decide))
    (ignores_keepingTasks (by decide))

/-- A task that runs its body has its mark taken back. -/
theorem sound_runTask_keepingTasks {frame : FrameTime} {task : Nat}
    (hbody : ∀ body, keepingTasks.Sound (runBody frame body)) :
    keepingTasks.Sound (runTask frame task) := by
  have hnext : keepingTasks.Admits (requestNext task) := by
    refine admits_requestNext (fun hchange => ?_) (fun _ => ?_) task
    · exact admits_keepingTasks fun rig => hchange.tasks rig.refresher
    · exact admits_keepingTasks fun _ => rfl
  intro rig _
  cases hentry : rig.refresher.tasks[task]? with
  | none =>
      simp only [runTask, bind_apply, look_apply, Progress.andThen, hentry]
      exact Rig.KeepsTasks.refl rig
  | some entry =>
      cases hexecuting : entry.executing with
      | true =>
          rw [runTask_of_executing hentry hexecuting]
          exact hnext (.refl rig)
      | false =>
          rw [runTask_of_free hentry hexecuting]
          refine SoundAt.ensuring ?_ hnext
          rw [SoundAt, within_apply, Progress.respects_atEnd]
          refine (hbody entry.body _ trivial).imp fun _ _ hlater => ?_
          exact .of_marked hentry hexecuting hlater

theorem allowsMoves_keepingTasks : keepingTasks.AllowsMoves where
  changes hchange := admits_keepingTasks fun rig => hchange.tasks rig.refresher
  recurs body := fun _ _ middle hleaves =>
    Rig.KeepsTasks.trans hleaves (.recur body middle)
  runs hbody _ := sound_runTask_keepingTasks hbody
  events _ _ _ := admits_keepingTasks fun _ => rfl
  concludes frame request verdict := by
    refine admits_keepingTasks fun rig => ?_
    cases verdict with
    | ok answer =>
        unfold concluded
        rw [Rig.refresher_retireAbandoned]
        exact (Shifts.modifyBatch _).tasks rig.refresher
    | error failure =>
        show (Rig.retireAbandoned _).refresher.tasks = _
        rw [Rig.refresher_retireAbandoned]
        exact (Shifts.modifyBatch _).tasks rig.refresher

theorem soundOrders_keepingTasks : keepingTasks.SoundOrders := by
  have hhandles : keepingTasks.Ignores .handles := ignores_keepingTasks (by decide)
  refine soundOrders ignoresAll_keepingTasks ?_ allowsTurns_keepingTasks
    (Aside.allowsRefreshes allowsMoves_keepingTasks ignoresAll_asides_keepingTasks
      allowsTurns_keepingTasks hhandles.admits_generation fun now => ?_)
  · exact .of_ignores (ignores_keepingTasks (by decide)) (ignores_keepingTasks (by decide))
      (ignores_keepingTasks (by decide)) (ignores_keepingTasks (by decide))
  · exact admits_keepingTasks fun _ => rfl

/-- What a request runs leaves the tasks as they were when it began. -/
theorem keepsTasks_runRequest {frame : FrameTime} {request : FrameRequest} {depth : Nat}
    {rig later : Rig} {ending : Ending Unit}
    (hrun : (runRequest frame request rig).run (Script.playWithin depth) =
      (ending, later)) : rig.KeepsTasks later := by
  have hkept := (Aside.sound_runRequest allowsMoves_keepingTasks
    ignoresAll_asides_keepingTasks allowsTurns_keepingTasks frame request rig trivial).run
      (soundOrders_keepingTasks.honoured depth)
  rw [hrun] at hkept
  exact hkept

end Refresher

end Cadence
