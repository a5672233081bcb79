import Cadence.Proofs.Journal
import Cadence.Proofs.OrderFrame

/-!
User code that runs no refreshes itself.  It may do anything else, and requests as
many frames as it likes; a refresh that calls such code opens no other refresh.
-/

namespace Cadence

open Exec Contract

/-- The time of the refresh that was opened. -/
def Event.openedAt : Event → List Nat
  | .refreshOpened frame _ => [frame.now]
  | _ => []

/-- The times of the refreshes that a journal tells of. -/
def openings (journal : List Event) : List Nat := chronicle Event.openedAt journal

theorem openings_cons_of_not_opened {event : Event}
    (h : ∀ frame requests, event ≠ .refreshOpened frame requests)
    (journal : List Event) : openings (event :: journal) = openings journal := by
  cases event with
  | refreshOpened frame requests => exact absurd rfl (h frame requests)
  | _ => exact List.append_nil _

/-- An order that runs no refresh itself. -/
def Order.IsGentle (order : Order) : Prop := order.refreshes = false

/-- Runs in which no refresh is opened. -/
def gently : Contract where
  allowed := Order.IsGentle
  finds rig := rig.KeepsTo Order.IsGentle
  leaves rig _ later :=
    later.KeepsTo Order.IsGentle ∧ openings later.journal = openings rig.journal
  refl hfinds := ⟨hfinds, rfl⟩
  trans hfirst hsecond := ⟨hsecond.1, hsecond.2.trans hfirst.2⟩
  keeps _ hleaves := hleaves.1
  bound hfinds := hfinds
  enrolls hfinds hcourse := ⟨hfinds.enroll hcourse, rfl⟩

namespace Gentle

theorem admits_event {event : Event}
    (h : ∀ frame requests, event ≠ .refreshOpened frame requests) :
    gently.Admits fun rig => { rig with journal := event :: rig.journal } := by
  rintro rig ending middle ⟨hkeeps, hopenings⟩
  refine ⟨hkeeps.of_courses rfl, ?_⟩
  rw [openings_cons_of_not_opened h]
  exact hopenings

theorem ignores_touch {facet : Facet} (hfacet : facet ≠ .refreshes) :
    gently.Ignores facet := by
  intro rig ending middle later hleaves htouch
  have hkeeps := hleaves.1.of_courses htouch.courses
  cases htouch with
  | event event hevent =>
      refine admits_event ?_ hleaves
      rintro frame requests rfl
      exact hfacet hevent.symm
  | _ => exact ⟨hkeeps, hleaves.2⟩

theorem ignoresAll_sides : gently.IgnoresAll Facet.sides := by
  intro facet hfacet
  apply ignores_touch
  rintro rfl
  exact absurd hfacet (by decide)

theorem ignoresAll_margins : gently.IgnoresAll Facet.margins :=
  ignoresAll_sides.of_subset Facet.margins_subset_sides

theorem ignoresAll_ambience : gently.IgnoresAll Facet.ambience :=
  ignoresAll_sides.of_subset Facet.ambience_subset_sides

theorem ignoresAll_asides : gently.IgnoresAll Facet.asides :=
  ignoresAll_ambience.of_subset Facet.asides_subset_ambience

theorem allowsTurns : gently.AllowsTurns :=
  .of_ignores (ignoresAll_sides.of_subset Facet.rendering_subset_sides) (ignores_touch (by decide))
    (ignores_touch (by decide)) (ignores_touch (by decide))

theorem admits_refresher (change : Refresher → Refresher) :
    gently.Admits fun rig => { rig with refresher := change rig.refresher } :=
  fun _ _ _ hleaves => ⟨hleaves.1.of_courses rfl, hleaves.2⟩

theorem allowsMoves : gently.AllowsMoves :=
  .of_admits (fun change _ => admits_refresher change) (fun _ _ hevent => admits_event hevent)
    (ignores_touch (by decide)) allowsTurns

theorem allowsMail : gently.AllowsMail :=
  Mailbox.allowsMail ignoresAll_ambience (ignores_touch (by decide)) allowsTurns

/-- Gentle orders open no refresh. -/
theorem soundOrders : gently.SoundOrders := by
  refine soundOrders_of_margins ignoresAll_margins
    (.of_ignores (ignores_touch (by decide)) (ignores_touch (by decide))
      (ignores_touch (by decide)) (ignores_touch (by decide)))
    allowsTurns
    (Refresher.Aside.allowsRequests allowsMoves ignoresAll_asides allowsTurns
      (ignores_touch (by decide)).admits_generation)
    allowsMail (.of_ignores ignoresAll_ambience (ignores_touch (by decide))) ?_
  intro order hrefreshes hgentle
  have hnone : order.refreshes = false := hgentle
  rw [hrefreshes] at hnone
  cases hnone

/-- A refresh whose requests are gentle is the only one that opens. -/
theorem respects_refresh (now : Nat) {rig : Rig}
    (hfinds : rig.KeepsTo Order.IsGentle) :
    (Refresher.refresh now rig).Respects gently fun _ later =>
      later.KeepsTo Order.IsGentle ∧
        openings later.journal = openings rig.journal ++ [now] := by
  simp only [Refresher.refresh, bind_apply, look_apply, log_apply, update_apply,
    record_apply, ensuring_apply, Progress.andThen, Progress.respects_andThen,
    Progress.respects_atEnd]
  have hdiary : gently.Ignores .diary := ignores_touch (by decide)
  have hfound : gently.leaves rig (.value ()) rig := gently.refl hfinds
  have hlogged := hdiary.admits_log (rig.refresher.measureNotice now).reverse hfound
  have hcloses : gently.Admits fun rig =>
      { rig with refresher := rig.refresher.closeBatch } :=
    admits_refresher (·.closeBatch)
  refine Progress.Respects.imp ?_ (Refresher.Aside.sound_runAll allowsMoves
    ignoresAll_asides allowsTurns _ _ _ ?_)
  · intro ending later hleaves
    have hclosed := (hcloses.comp allowsTurns.retires) hleaves
    have hopened := congrArg (· ++ [now]) hlogged.2
    cases ending <;> exact ⟨hclosed.1, hclosed.2.trans hopened⟩
  · exact hlogged.1.of_courses rfl

end Gentle

end Cadence
