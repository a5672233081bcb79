import Cadence.Proofs.OrderFrame

/-!
A debouncer that is left alone.  While it is busy no order can change it; at other
times only orders that are directed to it can.
-/

namespace Cadence

open Exec Contract

/-- Whether an order is directed to a debouncer and may change it. -/
def Order.concernsDebouncer (number : Nat) : Order → Bool
  | .debounce order => order.concerns number
  | _ => false

namespace Debounced

/-- A debouncer stands on a rig, with an action behind it. -/
structure Stands (number : Nat) (entry : Debounced) (action : Course)
    (rig : Rig) : Prop where
  held : rig.debouncers[number]? = some entry
  action : rig.courses[entry.routine]? = some action

/-- Orders that leave a debouncer as it is: any at all while it is busy. -/
def Spares (number : Nat) (entry : Debounced) (order : Order) : Prop :=
  entry.busy = true ∨ order.concernsDebouncer number = false

variable {number : Nat} {entry : Debounced} {action : Course} {rig later : Rig}

namespace Stands

theorem of_eq (h : Stands number entry action rig)
    (hdebouncers : later.debouncers = rig.debouncers)
    (hcourses : later.courses = rig.courses) :
    Stands number entry action later := by
  constructor
  · rw [hdebouncers]
    exact h.held
  · rw [hcourses]
    exact h.action

theorem enroll (h : Stands number entry action rig) (course : Course) :
    Stands number entry action (rig.enroll course) := by
  refine ⟨h.held, ?_⟩
  have hsize := Array.getElem?_eq_some_iff.mp h.action
  rw [Rig.courses_enroll, Array.getElem?_push_lt hsize.1]
  exact congrArg some hsize.2

theorem push (h : Stands number entry action rig) (fresh : Debounced) :
    Stands number entry action
      { rig with debouncers := rig.debouncers.push fresh } := by
  refine ⟨?_, h.action⟩
  have hsize := Array.getElem?_eq_some_iff.mp h.held
  rw [Array.getElem?_push_lt hsize.1]
  exact congrArg some hsize.2

theorem modify_other (h : Stands number entry action rig) {other : Nat}
    (hother : other ≠ number) (change : Debounced → Debounced) :
    Stands number entry action
      { rig with debouncers := rig.debouncers.modify other change } := by
  refine ⟨?_, h.action⟩
  rw [Array.getElem?_modify, if_neg hother]
  exact h.held

theorem modify_self (h : Stands number entry action rig)
    (change : Debounced → Debounced)
    (hroutine : (change entry).routine = entry.routine) :
    Stands number (change entry) action
      { rig with debouncers := rig.debouncers.modify number change } := by
  constructor
  · rw [Array.getElem?_modify, if_pos rfl, h.held]
    rfl
  · rw [hroutine]
    exact h.action

end Stands

/-- Runs in which a debouncer stays as it is. -/
def contract (number : Nat) (entry : Debounced) (action : Course) : Contract where
  allowed := Spares number entry
  finds rig := Stands number entry action rig ∧ rig.KeepsTo (Spares number entry)
  leaves _ _ later :=
    Stands number entry action later ∧ later.KeepsTo (Spares number entry)
  refl hfinds := hfinds
  trans _ hsecond := hsecond
  keeps _ hleaves := hleaves
  bound hfinds := hfinds.2
  enrolls hfinds hcourse := ⟨hfinds.1.enroll _, hfinds.2.enroll hcourse⟩

theorem ignores_touch {facet : Facet} (hbench : facet ≠ .bench) :
    (contract number entry action).Ignores facet := by
  intro rig ending middle later hleaves htouch
  have hcourses := htouch.courses
  refine ⟨hleaves.1.of_eq ?_ hcourses, hleaves.2.of_courses hcourses⟩
  cases htouch with
  | bench => exact absurd rfl hbench
  | _ => rfl

theorem ignoresAll_margins :
    (contract number entry action).IgnoresAll Facet.margins := by
  intro facet hfacet
  apply ignores_touch
  rintro rfl
  exact absurd hfacet (by decide)

theorem ignoresAll_ambience :
    (contract number entry action).IgnoresAll Facet.ambience :=
  ignoresAll_margins.of_subset Facet.ambience_subset_margins

theorem allowsTurns : (contract number entry action).AllowsTurns :=
  .of_ignores (ignoresAll_margins.of_subset Facet.rendering_subset_margins)
    (ignores_touch (by decide)) (ignores_touch (by decide))
    (ignores_touch (by decide))

theorem ifFree_of_busy {α : Type} (hentry : rig.debouncers[number]? = some entry)
    (hbusy : entry.busy = true) (body : Debounced → Exec α) :
    ifFree number body rig = .ended (.value none) rig := by
  simp [ifFree, Progress.andThen, hentry, hbusy]

/-- A busy debouncer refuses. -/
theorem sound_refused (hbusy : entry.busy = true) {order : DebounceOrder}
    (hconcerns : order.concerns number = true) :
    (contract number entry action).Sound (perform order) := by
  have hrefuses {α : Type} (body : Debounced → Exec α) :
      (contract number entry action).Sound (ifFree number body) := by
    intro rig hfinds
    rw [ifFree_of_busy hfinds.1.held hbusy]
    exact hfinds
  cases order with
  | newDebouncer => cases hconcerns
  | activate other =>
      obtain rfl := eq_of_beq hconcerns
      exact hrefuses _
  | invoke other =>
      obtain rfl := eq_of_beq hconcerns
      exact hrefuses _
  | adjust other adjustment =>
      obtain rfl := eq_of_beq hconcerns
      exact hrefuses _
  | report => cases hconcerns

theorem allowsBench : (contract number entry action).AllowsBench where
  measures := RateMeter.sound_perform ignoresAll_ambience
    fun _ _ _ _ hleaves => ⟨hleaves.1.of_eq rfl rfl, hleaves.2⟩
  debounces order hallowed := by
    by_cases hconcerns : order.concerns number = true
    · refine sound_refused (hallowed.resolve_right ?_) hconcerns
      exact ne_false_of_eq_true hconcerns
    · refine sound_perform_of_admits ignoresAll_ambience
        (fun fresh _ _ _ hleaves => ?_)
        (fun other hother change _ _ _ hleaves => ?_)
        fun _ _ _ _ _ hleaves => ⟨hleaves.1.of_eq rfl rfl, hleaves.2⟩
      · exact ⟨hleaves.1.push fresh, hleaves.2⟩
      · have hne : other ≠ number := by
          rintro rfl
          exact hconcerns hother
        exact ⟨hleaves.1.modify_other hne change, hleaves.2⟩

/-- Whatever else user code orders, the debouncer stays as it is. -/
theorem soundOrders (number : Nat) (entry : Debounced) (action : Course) :
    (contract number entry action).SoundOrders :=
  have hrendering := ignoresAll_margins.of_subset Facet.rendering_subset_margins
  have hrefreshes : (contract number entry action).AllowsRefreshes :=
    .of_ignores (ignores_touch (by decide)) hrendering allowsTurns
  soundOrders_of_margins ignoresAll_margins
    (.of_ignores (ignores_touch (by decide)) (ignores_touch (by decide))
      (ignores_touch (by decide)) (ignores_touch (by decide)))
    allowsTurns hrefreshes.toAllowsRequests
    (Mailbox.allowsMail ignoresAll_ambience (ignores_touch (by decide))
      allowsTurns)
    allowsBench fun _ _ _ => hrefreshes.refreshes

end Debounced

end Cadence
