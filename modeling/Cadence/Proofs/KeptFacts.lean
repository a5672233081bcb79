import Mathlib.Data.List.Count
import Cadence.Proofs.OrderFrame

/-!
Facts about rigs that user code cannot change.  The failures counted are those
that the journal tells of, and a routine stays what it is.
-/

namespace Cadence

open Contract

/-- Runs that keep a fact, whatever user code does. -/
def Contract.keeping (fact : Rig → Prop)
    (henrolls : ∀ rig course, fact rig → fact (rig.enroll course)) : Contract where
  allowed _ := True
  finds := fact
  leaves rig _ later := fact rig → fact later
  refl _ := id
  trans hfirst hsecond hrig := hsecond (hfirst hrig)
  keeps hfinds hleaves := hleaves hfinds
  bound _ := Rig.keepsTo_all _
  enrolls _ _ := henrolls _ _

section Keeping

variable {fact : Rig → Prop}
  {henrolls : ∀ rig course, fact rig → fact (rig.enroll course)}

theorem Contract.admits_keeping {change : Rig → Rig}
    (h : ∀ rig, fact rig → fact (change rig)) :
    (keeping fact henrolls).Admits change :=
  fun _ _ _ hleaves hrig => h _ (hleaves hrig)

theorem Contract.ignores_keeping {facet : Facet}
    (h : ∀ rig later, rig.Touch facet later → fact rig → fact later) :
    (keeping fact henrolls).Ignores facet :=
  fun _ _ _ _ hleaves htouch hrig => h _ _ htouch (hleaves hrig)

/-- A fact is kept by all orders if the steps of refreshes keep it and nothing
else concerns it. -/
theorem Contract.soundOrders_keeping
    (haside : ∀ facet, facet ≠ .refreshes →
      ∀ rig later, Rig.Touch facet rig later → fact rig → fact later)
    (hmoves : (keeping fact henrolls).AllowsTurns →
      (keeping fact henrolls).AllowsMoves)
    (hopens : ∀ now rig, fact rig → fact (Refresher.opensOnRig now rig)) :
    (keeping fact henrolls).SoundOrders := by
  have hignores {facet : Facet} (hfacet : facet ≠ .refreshes) :
      (keeping fact henrolls).Ignores facet :=
    ignores_keeping (haside facet hfacet)
  have hsides : (keeping fact henrolls).IgnoresAll Facet.sides := by
    intro facet hfacet
    apply hignores
    rintro rfl
    exact absurd hfacet (by decide)
  have hrendering := hsides.of_subset Facet.rendering_subset_sides
  have hasides := hrendering.of_subset Facet.asides_subset_rendering
  have hturns : (keeping fact henrolls).AllowsTurns :=
    .of_ignores hrendering (hignores (by decide)) (hignores (by decide))
      (hignores (by decide))
  have hpacing : (keeping fact henrolls).AllowsPacing :=
    .of_ignores (hignores (by decide)) (hignores (by decide))
      (hignores (by decide)) (hignores (by decide))
  exact soundOrders hsides hpacing hturns
    (Refresher.Aside.allowsRefreshes (hmoves hturns) hasides hturns
      (hignores (by decide)).admits_generation
      fun now => admits_keeping (hopens now))

/-- What all orders keep holds of everything that a rig becomes. -/
theorem Rig.Becomes.kept (horders : (keeping fact henrolls).SoundOrders)
    {start rig : Rig} (h : start.Becomes rig) (hstart : fact start) : fact rig := by
  induction h with
  | start => exact hstart
  | midway _ hpasses ih => exact horders.finds_moment hpasses (Script.keepsTo_all _) ih
  | after depth script _ ih =>
      exact horders.honoured depth script _ script.keepsTo_all ih ih

end Keeping

/-! ### Failures -/

/-- The end of a turn that failed. -/
def Event.isFailure : Event → Bool
  | .ended _ _ (.error _) => true
  | _ => false

theorem Event.isFailure_of_facet {event : Event} (hfacet : event.facet ≠ .refreshes) :
    event.isFailure = false := by
  cases event with
  | ended => exact absurd rfl hfacet
  | _ => rfl

theorem Event.isFailure_of_isPassing {event : Event}
    (hpassing : event.isPassing = true) : event.isFailure = false := by
  cases event with
  | ended => cases hpassing
  | _ => rfl

/-- The journal tells of some more failures than the rig has counted. -/
def Rig.OwesFailures (owed : Nat) (rig : Rig) : Prop :=
  rig.refresher.failures + owed = rig.journal.countP Event.isFailure

/-- The failures that a rig has counted are those that its journal tells of. -/
abbrev Rig.CountsFailures (rig : Rig) : Prop := rig.OwesFailures 0

namespace Rig.OwesFailures

variable {owed : Nat} {rig : Rig}

theorem note (h : rig.OwesFailures owed) {event : Event}
    (hevent : event.isFailure = false) :
    OwesFailures owed { rig with journal := event :: rig.journal } := by
  unfold OwesFailures
  rw [List.countP_cons, hevent]
  exact h

theorem retireAbandoned (h : rig.OwesFailures owed) :
    rig.retireAbandoned.OwesFailures owed := by
  refine retireAbandoned_induct (OwesFailures owed) (fun number moment _ hmoment => ?_) h
  have hevent : (Event.unsubscribed (.driver number)).isFailure = false := rfl
  exact hmoment.note hevent

end Rig.OwesFailures

/-- A turn that fails counts, and a turn that succeeds does not. -/
theorem Rig.CountsFailures.concluded {rig : Rig} (h : rig.CountsFailures)
    (frame : FrameTime) (request : FrameRequest) (verdict : Verdict) :
    (Refresher.concluded frame request verdict rig).CountsFailures := by
  have hends : rig.refresher.endRequest.failures = rig.refresher.failures := by
    unfold Refresher.endRequest Refresher.modifyBatch
    split <;> rfl
  have hended : OwesFailures (if Event.isFailure (.ended frame request verdict) then 1
      else 0) { rig with
        refresher := rig.refresher.endRequest
        journal := .ended frame request verdict :: rig.journal } := by
    unfold OwesFailures
    rw [List.countP_cons]
    exact congrArg (· + _) (hends.trans h)
  cases verdict with
  | ok answer => exact hended.retireAbandoned
  | error failure =>
      -- The journal has told of the failure before it is counted.
      unfold CountsFailures OwesFailures Refresher.concluded
      rw [List.countP_cons]
      exact hended.retireAbandoned

/-- Whatever user code does, failures are counted as the journal tells them. -/
theorem Rig.soundOrders_countsFailures :
    (keeping Rig.CountsFailures fun _ _ h => h).SoundOrders := by
  apply soundOrders_keeping
  · intro facet hfacet rig later htouch hrig
    cases htouch with
    | refreshes => exact absurd rfl hfacet
    | event event hevent =>
        exact hrig.note (Event.isFailure_of_facet (hevent ▸ hfacet))
    | _ => exact hrig
  · intro hturns
    have hpasses {event : Event} (hevent : event.isFailure = false) :
        (keeping Rig.CountsFailures fun _ _ h => h).Admits fun rig =>
          { rig with journal := event :: rig.journal } :=
      admits_keeping fun rig hrig => hrig.note hevent
    have hchanges {change : Refresher → Refresher} (hchange : Refresher.Shifts change) :
        (keeping Rig.CountsFailures fun _ _ h => h).Admits fun rig =>
          { rig with refresher := change rig.refresher } :=
      admits_keeping fun rig hrig => (hchange.failures rig.refresher).trans hrig
    constructor
    · exact hchanges
    · exact fun body => admits_keeping fun rig hrig => hrig
    · intro frame hbody task
      have hmark (executing : Bool) : (keeping Rig.CountsFailures fun _ _ h => h).Admits
          (Refresher.markOnRig task executing) := admits_keeping fun rig hrig => hrig
      have hentered : (Event.entered (.task task)).isFailure = false := rfl
      have hleft : (Event.left (.task task)).isFailure = false := rfl
      exact Refresher.sound_runTask ((hmark true).comp (hpasses hentered))
        ((hmark false).comp (hpasses hleft))
        (Refresher.admits_requestNext hchanges (fun _ => hpasses rfl) task) hbody
    · exact fun event _ hpassing => hpasses (Event.isFailure_of_isPassing hpassing)
    · exact fun frame request verdict =>
        admits_keeping fun rig hrig => hrig.concluded frame request verdict
  · intro now rig hrig
    have hopened : Rig.CountsFailures
        { rig with refresher := (rig.refresher.openBatch now).2 } := hrig
    exact hopened.note rfl

/-! ### Facts that last -/

/-- A fact that nothing which happens to a rig can end. -/
structure Rig.Lasting (fact : Rig → Prop) : Prop where
  touch : ∀ {facet rig later}, Rig.Touch facet rig later → fact rig → fact later
  enroll : ∀ rig course, fact rig → fact (rig.enroll course)

namespace Rig.Lasting

variable {fact : Rig → Prop} (h : Lasting fact)

include h

theorem ignores (facet : Facet) : (keeping fact h.enroll).Ignores facet :=
  ignores_keeping fun _ _ => h.touch

theorem allowsTurns : (keeping fact h.enroll).AllowsTurns :=
  .of_ignores (fun facet _ => h.ignores facet) (h.ignores _) (h.ignores _)
    (h.ignores _)

theorem allowsMoves : (keeping fact h.enroll).AllowsMoves :=
  .of_ignores (h.ignores _) (h.ignores _) h.allowsTurns

theorem soundOrders : (keeping fact h.enroll).SoundOrders := by
  apply soundOrders_keeping
  · exact fun _ _ _ _ => h.touch
  · exact fun _ => h.allowsMoves
  · intro now rig hrig
    have hopened := h.touch (.refreshes (rig.refresher.openBatch now).2) hrig
    exact h.touch (.event (.refreshOpened (rig.refresher.openBatch now).1.frame
      (rig.refresher.openBatch now).1.waiting) rfl) hopened

theorem retireAbandoned (rig : Rig) (hrig : fact rig) : fact rig.retireAbandoned := by
  have hstart : (keeping fact h.enroll).leaves rig (.value ()) rig := id
  exact h.allowsTurns.retires hstart hrig

section Runs

variable {α : Type} {rig later : Rig} {depth : Nat} {ending : Ending α}

/-- What a computation found it leaves. -/
theorem run {x : Exec α} (hsound : (keeping fact h.enroll).Sound x)
    (hrun : (x rig).run (Script.playWithin depth) = (ending, later)) (hrig : fact rig) :
    fact later := by
  have hkept := (hsound rig hrig).run (h.soundOrders.honoured depth) hrig
  rw [hrun] at hkept
  exact hkept

end Runs

variable {frame : FrameTime} {rig later : Rig} {depth : Nat} {ending : Ending Unit}

theorem runRequest {request : FrameRequest}
    (hrun : (Refresher.runRequest frame request rig).run (Script.playWithin depth) =
      (ending, later)) : fact rig → fact later :=
  h.run (Refresher.Aside.sound_runRequest h.allowsMoves (fun facet _ => h.ignores facet)
    h.allowsTurns frame request) hrun

theorem runAll {requests : List FrameRequest}
    (hrun : (Refresher.runAll frame requests rig).run (Script.playWithin depth) =
      (ending, later)) : fact rig → fact later :=
  h.run (Refresher.Aside.sound_runAll h.allowsMoves (fun facet _ => h.ignores facet)
    h.allowsTurns frame requests) hrun

theorem handleAll {number fired : Nat} {messages : List Message} {ending : Ending Nat}
    (hrun : (Mailbox.handleAll number messages fired rig).run (Script.playWithin depth) =
      (ending, later)) : fact rig → fact later :=
  have hambience : (keeping fact h.enroll).IgnoresAll Facet.ambience :=
    fun facet _ => h.ignores facet
  h.run (Mailbox.sound_handleAll (Mailbox.sound_handle hambience (h.ignores _)
    (Mailbox.sound_start hambience h.allowsTurns) number) messages fired) hrun

theorem turn {period tick deadline : Nat} {ending : Ending (Option Nat)}
    (hrun : (Loop.turn period tick deadline rig).run (Script.playWithin depth) =
      (ending, later)) : fact rig → fact later := by
  have hambience : (keeping fact h.enroll).IgnoresAll Facet.ambience :=
    fun facet _ => h.ignores facet
  have hrefreshes : (keeping fact h.enroll).AllowsRefreshes :=
    .of_ignores (h.ignores _) (fun facet _ => h.ignores facet) h.allowsTurns
  exact h.run (Loop.sound_turn hambience
    (Mailbox.allowsMail hambience (h.ignores _) h.allowsTurns) hrefreshes.refreshes
    period tick deadline) hrun

end Rig.Lasting

/-- A routine does what a course says. -/
def Rig.Runs (routine : Nat) (course : Course) (rig : Rig) : Prop :=
  rig.courses[routine]? = some course

/-- Routines come, but they do not change and do not go. -/
theorem Rig.lasting_runs (routine : Nat) (course : Course) :
    Lasting (Runs routine course) where
  touch htouch h := by
    rw [Runs, htouch.courses]
    exact h
  enroll rig other h := by
    obtain ⟨hsize, hcourse⟩ := Array.getElem?_eq_some_iff.mp h
    rw [Runs, courses_enroll, Array.getElem?_push_lt hsize]
    exact congrArg some hcourse

theorem Rig.Runs.exists_entry {routine : Nat} {course : Course} {rig : Rig}
    (h : rig.Runs routine course) :
    ∃ entry, rig.routines[routine]? = some entry ∧ entry.course = course := by
  rw [Runs, courses, Array.getElem?_map, Option.map_eq_some_iff] at h
  exact h

/-- What has happened on a rig has happened for good. -/
theorem Rig.lasting_recorded (event : Event) :
    Lasting fun rig => event ∈ rig.journal where
  touch htouch h := by
    cases htouch with
    | event other => exact List.mem_cons_of_mem _ h
    | _ => exact h
  enroll _ _ h := h

end Cadence
