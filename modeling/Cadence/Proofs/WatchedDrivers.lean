import Cadence.Proofs.SecludedOrders

/-!
Watched drivers.  Whoever leaves a driver alone leaves everything as it is that can be
seen of the driver and its work, so what becomes of a view of a busy driver is a matter
of its own turns and steps.
-/

namespace Cadence

open Exec Contract

namespace Rig

variable {β : Type} {view : Driver → List Event → β} {rig : Rig} {number : Nat}

/-- What is seen of a driver and its work. -/
def seen (view : Driver → List Event → β) (number : Nat) (rig : Rig) : β :=
  view (rig.driver number) (workOf (.driver number) rig.journal)

theorem seen_event {event : Event}
    (hevent : ∀ driver work, view driver (event :: work) = view driver work) :
    ({ rig with journal := event :: rig.journal } : Rig).seen view number =
      rig.seen view number := by
  by_cases hown : event.worker = some (.driver number)
  · rw [seen, workOf_cons_self hown, hevent]
    rfl
  · rw [seen, workOf_cons_of_ne hown]
    rfl

theorem seen_modify {change : Driver → Driver} (other : Nat)
    (hchange : ∀ driver work, view (change driver) work = view driver work) :
    ({ rig with drivers := rig.drivers.modify other change } : Rig).seen view number =
      rig.seen view number :=
  Driver.view_modify (view · _) change (fun driver => hchange driver _) rig number other

end Rig

/-- Runs that leave what is seen of a driver as it is. -/
def watching {β : Type} (view : Driver → List Event → β) (number : Nat) : Contract where
  allowed _ := True
  finds _ := True
  leaves rig _ later := later.seen view number = rig.seen view number ∧
    (number < rig.drivers.size → number < later.drivers.size)
  refl _ := ⟨rfl, id⟩
  trans hfirst hsecond := ⟨hsecond.1.trans hfirst.1, hsecond.2 ∘ hfirst.2⟩
  keeps _ _ := trivial
  bound _ := Rig.keepsTo_all _
  enrolls _ _ := ⟨rfl, id⟩

namespace Watching

variable {α β : Type} {view : Driver → List Event → β} {number : Nat}

theorem admits_event {event : Event}
    (hevent : ∀ driver work, view driver (event :: work) = view driver work) :
    (watching view number).Admits fun rig =>
      { rig with journal := event :: rig.journal } :=
  fun _ _ _ hleaves => ⟨(Rig.seen_event hevent).trans hleaves.1, hleaves.2⟩

theorem admits_driver (change : Driver → Driver)
    (hchange : ∀ driver work, view (change driver) work = view driver work)
    (other : Nat) :
    (watching view number).Admits fun rig =>
      { rig with drivers := rig.drivers.modify other change } := by
  intro rig ending middle hleaves
  refine ⟨(Rig.seen_modify other hchange).trans hleaves.1, fun hsize => ?_⟩
  rw [Array.size_modify]
  exact hleaves.2 hsize

/-- Emulators are of no concern if the work on them does not show. -/
theorem ignoresEmulation
    (hevent : ∀ event : Event, event.facet ∈ Facet.emulation →
      ∀ driver work, view driver (event :: work) = view driver work) :
    (watching view number).IgnoresAll Facet.emulation := by
  intro facet hfacet rig ending middle later hleaves htouch
  cases htouch with
  | event event heq => exact admits_event (hevent event (heq ▸ hfacet)) hleaves
  | called => exact hleaves
  | emulators => exact hleaves
  | _ => simp [Facet.emulation] at hfacet

/-- What leaves a driver alone leaves as it is what is seen of what is its own. -/
theorem of_sparing (hcore : ∀ driver work, view driver.core work = view driver work)
    {post : Ending α → Rig → Prop} {progress : Progress α}
    (h : progress.Respects (watching view number) post) :
    progress.Respects (sparing number) post := by
  refine h.narrow (fun _ _ => trivial) (fun _ => trivial) ?_
  intro rig ending later _ hleaves
  refine ⟨?_, hleaves.2⟩
  have hsame := Belonging.driver.inj hleaves.1.belonging
  rw [Rig.seen, Rig.seen, ← hcore, hsame, hleaves.1.work, hcore]

/-- Nobody else makes a difference to what is seen of a driver that is under way. -/
theorem attends {fact : Rig.Fact} {rig : Rig} {seen : β} {x : Exec α} (depth : Nat)
    (hkept : fact.Kept) (hcore : ∀ driver work, view driver.core work = view driver work)
    (hsound : (secluding fact [.driver number]).SoundAt rig x)
    (hwatched : (x rig).Respects (watching view number)
      fun _ later => later.seen view number = seen) :
    rig.Attends fact [.driver number] ((x rig).run (Script.playWithin depth)).2 ∧
      ((x rig).run (Script.playWithin depth)).2.seen view number = seen := by
  have hhonoured : (secluding fact []).Honoured (Script.playWithin depth) :=
    (Seclusion.soundOrders hkept).honoured depth
  exact (Seclusion.respects_merge List.not_mem_nil hsound
    (of_sparing hcore hwatched)).run hhonoured

/-- A frame's worth of cycles does not show if one does not. -/
theorem sound_advance (hignores : (watching view number).IgnoresAll Facet.emulation)
    (hcounts : (watching view number).Sound (Driver.modifyStats number fun stats =>
      { stats with cycles := stats.cycles + 1 })) (cycles : UInt32) :
    (watching view number).Sound (Driver.advance number cycles) := by
  rw [Driver.advance_eq]
  refine (sound_look _).bind fun emulator => ?_
  exact Emulator.sound_whenFree (hignores .emulators (by decide))
    (Driver.sound_advanceTimes (.of_ignores hignores emulator) hcounts _) _ _

/-- A render does not show if nothing does that displays are given. -/
theorem sound_renderOnce (hignores : (watching view number).IgnoresAll Facet.emulation)
    (hdisplay : (watching view number).AllowsDisplay number)
    (hdraws : (watching view number).Admits fun rig =>
      { rig with journal := .drawSucceeded number :: rig.journal }) :
    (watching view number).Sound (Driver.renderOnce number) := by
  rw [Driver.renderOnce_eq]
  refine (sound_look _).bind fun status => ?_
  refine (Driver.sound_setStatus hdisplay status).seq ?_
  refine (sound_look _).bind fun emulator => ?_
  exact Emulator.sound_whenFree (hignores .emulators (by decide))
    (Driver.sound_renderAndDraw_of_display hdisplay hdraws (.of_ignores hignores emulator))
    _ _

end Watching

end Cadence
