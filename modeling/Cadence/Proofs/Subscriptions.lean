import Mathlib.Data.List.Nodup
import Cadence.Proofs.PacedRenders

/-!
Subscriptions.  The journal tells who has subscribed and whose subscription has
ended.  The observers of a pace are those whose subscription has not ended, in the
order of their subscriptions; drivers are among them from their creation until they
are retired.
-/

namespace Cadence

namespace Event

/-- Whose subscription begins. -/
def joins : Event → List ObserverId
  | .subscribed id => [id]
  | _ => []

/-- Whose subscription ends. -/
def parts : Event → List ObserverId
  | .unsubscribed id => [id]
  | _ => []

theorem joins_of_facet {event : Event} (h : event.facet ≠ .pace) : event.joins = [] := by
  cases event with
  | subscribed => exact absurd rfl h
  | _ => rfl

theorem parts_of_facet {event : Event} (h : event.facet ≠ .pace) : event.parts = [] := by
  cases event with
  | unsubscribed => exact absurd rfl h
  | _ => rfl

end Event

/-- The names whose subscription has begun and not ended. -/
def subscribing (journal : List Event) : List ObserverId :=
  (chronicle Event.joins journal).filter fun id => id ∉ chronicle Event.parts journal

/-- The driver that goes by a name. -/
def ObserverId.driver? : ObserverId → Option Nat
  | .caller _ => none
  | .driver number => some number

/-- The caller that goes by a name. -/
def ObserverId.caller? : ObserverId → Option Nat
  | .caller number => some number
  | .driver _ => none

section Journal

variable {event : Event} {journal : List Event} {id : ObserverId}

theorem joins_subscribed : chronicle Event.joins (.subscribed id :: journal) =
    chronicle Event.joins journal ++ [id] := rfl

theorem parts_subscribed : chronicle Event.parts (.subscribed id :: journal) =
    chronicle Event.parts journal := List.append_nil _

theorem joins_unsubscribed : chronicle Event.joins (.unsubscribed id :: journal) =
    chronicle Event.joins journal := List.append_nil _

theorem parts_unsubscribed : chronicle Event.parts (.unsubscribed id :: journal) =
    chronicle Event.parts journal ++ [id] := rfl

theorem subscribing_cons (hjoins : event.joins = []) (hparts : event.parts = []) :
    subscribing (event :: journal) = subscribing journal := by
  simp only [subscribing, chronicle_cons, hjoins, hparts, List.append_nil]

theorem subscribing_subscribed (hnew : id ∉ chronicle Event.parts journal) :
    subscribing (.subscribed id :: journal) = subscribing journal ++ [id] := by
  rw [subscribing, joins_subscribed, parts_subscribed, List.filter_append]
  simp [subscribing, hnew]

theorem subscribing_unsubscribed :
    subscribing (.unsubscribed id :: journal) =
      (subscribing journal).filter fun other => other != id := by
  rw [subscribing, joins_unsubscribed, parts_unsubscribed, subscribing, List.filter_filter]
  refine List.filter_congr fun other _ => ?_
  by_cases hother : other = id <;> simp [hother]

/-- Those who have subscribed stay, and new ones come, unless their subscription ends. -/
theorem subscribing_append {events : List Event}
    (hnew : ∀ id ∈ chronicle Event.joins events, id ∉ chronicle Event.parts journal) :
    subscribing (events ++ journal) =
      (subscribing journal ++ chronicle Event.joins events).filter fun id =>
        id ∉ chronicle Event.parts events := by
  rw [subscribing, chronicle_append, chronicle_append, List.filter_append,
    List.filter_append]
  congr 1
  · rw [subscribing, List.filter_filter]
    refine List.filter_congr fun id _ => ?_
    simp [Bool.and_comm]
  · refine List.filter_congr fun id hid => ?_
    simp [hnew id hid]

theorem filterMap_driver_filter (ids : List ObserverId) (keeps : ObserverId → Bool) :
    (ids.filter keeps).filterMap ObserverId.driver? =
      (ids.filterMap ObserverId.driver?).filter fun number => keeps (.driver number) := by
  induction ids with
  | nil => rfl
  | cons id rest ih =>
      cases hkeeps : keeps id <;> cases id <;>
        simp [List.filterMap_cons, ObserverId.driver?, hkeeps, ih]

/-- Everybody who subscribes is a caller or a driver. -/
theorem length_eq_add (ids : List ObserverId) :
    ids.length = (ids.filterMap ObserverId.caller?).length +
      (ids.filterMap ObserverId.driver?).length := by
  induction ids with
  | nil => rfl
  | cons id rest ih =>
      rw [List.filterMap_cons, List.filterMap_cons, List.length_cons, ih]
      cases id with
      | caller => exact Nat.add_right_comm ..
      | driver => rfl

/-- Only a subscription that has begun and not ended can end. -/
def Event.EndsOwn (event : Event) (older : List Event) : Prop :=
  ∀ id ∈ event.parts, id ∈ subscribing older

/-- Names are used for one subscription each, and some are in use. -/
structure Listed (ids : List ObserverId) (journal : List Event) : Prop where
  ids : ids = subscribing journal
  joined : (chronicle Event.joins journal).Nodup
  parted : (chronicle Event.parts journal).Nodup
  known : chronicle Event.parts journal ⊆ chronicle Event.joins journal
  ends : Lawful Event.EndsOwn journal

namespace Listed

variable {ids : List ObserverId}

theorem aside (h : Listed ids journal) (hjoins : event.joins = [])
    (hparts : event.parts = []) : Listed ids (event :: journal) := by
  refine ⟨h.ids.trans (subscribing_cons hjoins hparts).symm, ?_, ?_, ?_, ?_, h.ends⟩
  · rw [chronicle_cons, hjoins, List.append_nil]
    exact h.joined
  · rw [chronicle_cons, hparts, List.append_nil]
    exact h.parted
  · rw [chronicle_cons, chronicle_cons, hjoins, hparts, List.append_nil, List.append_nil]
    exact h.known
  · intro id hid
    rw [hparts] at hid
    cases hid

/-- A new name comes to be used. -/
theorem join (h : Listed ids journal) (hnew : id ∉ chronicle Event.joins journal) :
    Listed (ids ++ [id]) (.subscribed id :: journal) := by
  refine ⟨?_, ?_, ?_, ?_, fun _ hother => absurd hother List.not_mem_nil, h.ends⟩
  · rw [subscribing_subscribed fun hparted => hnew (h.known hparted), h.ids]
  · exact List.Nodup.append h.joined (List.nodup_singleton id) (List.disjoint_singleton.mpr hnew)
  · rw [parts_subscribed]
    exact h.parted
  · rw [parts_subscribed]
    exact fun other hother => List.mem_append_left _ (h.known hother)

/-- A name is not used any more. -/
theorem part (h : Listed ids journal) (hmem : id ∈ ids) :
    Listed (ids.filter fun other => other != id) (.unsubscribed id :: journal) := by
  rw [h.ids] at hmem
  have hused := hmem
  rw [subscribing, List.mem_filter, decide_eq_true_eq] at hused
  refine ⟨?_, ?_, ?_, ?_, ?_, h.ends⟩
  · rw [subscribing_unsubscribed, h.ids]
  · rw [joins_unsubscribed]
    exact h.joined
  · exact List.Nodup.append h.parted (List.nodup_singleton id)
      (List.disjoint_singleton.mpr hused.2)
  · rw [joins_unsubscribed, parts_unsubscribed]
    exact List.append_subset.mpr ⟨h.known, List.cons_subset.mpr ⟨hused.1, List.nil_subset _⟩⟩
  · intro other hother
    obtain rfl := List.mem_singleton.mp hother
    exact hmem

/-- A name is in use as long as it has been given and not given back. -/
theorem mem_iff (h : Listed ids journal) : id ∈ ids ↔
    id ∈ chronicle Event.joins journal ∧ id ∉ chronicle Event.parts journal := by
  rw [h.ids, subscribing, List.mem_filter, decide_eq_true_eq]

end Listed

end Journal

namespace Pacing

/-- Whether a driver is alive. -/
def life (state : Pacing) (number : Nat) : Option Bool :=
  state.caps[number]?.map Cap.alive

/-- The observers are those whose subscription has not ended.  Callers have their numbers
from the pace; drivers subscribe when they are made, and end their subscription when they
are retired. -/
structure Subscribed (state : Pacing) : Prop where
  listed : Listed (state.observers.map Observer.id) state.journal
  callers : ∀ number, .caller number ∈ chronicle Event.joins state.journal →
    number < state.nextCaller
  drivers : (chronicle Event.joins state.journal).filterMap ObserverId.driver? =
    List.range state.caps.size
  retired : ∀ number, .driver number ∈ chronicle Event.parts state.journal ↔
    state.life number = some false

variable {state next : Pacing} {notices later : List Notice}

theorem life_modify (state : Pacing) (number other : Nat) {change : Cap → Cap}
    (halive : ∀ cap, (change cap).alive = cap.alive) :
    (state.caps.modify number change)[other]?.map Cap.alive = state.life other := by
  rw [Array.getElem?_modify]
  split
  · rw [Option.map_map]
    exact congrArg (Option.map · _) (funext halive)
  · rfl

namespace Subscribed

/-- What happens to nobody's subscription. -/
theorem aside (h : Subscribed state) {event : Event} (hjoins : event.joins = [])
    (hparts : event.parts = []) (hjournal : next.journal = event :: state.journal)
    (hobservers : next.observers = state.observers)
    (hcaller : next.nextCaller = state.nextCaller)
    (hsize : next.caps.size = state.caps.size)
    (hlife : ∀ number, next.life number = state.life number) : Subscribed next := by
  refine ⟨?_, ?_, ?_, fun number => ?_⟩
  · rw [hobservers, hjournal]
    exact h.listed.aside hjoins hparts
  · rw [hjournal, chronicle_cons, hjoins, List.append_nil, hcaller]
    exact h.callers
  · rw [hjournal, chronicle_cons, hjoins, List.append_nil, hsize]
    exact h.drivers
  · rw [hjournal, chronicle_cons, hparts, List.append_nil, hlife]
    exact h.retired number

theorem mem_joined_driver (h : Subscribed state) {number : Nat} :
    .driver number ∈ chronicle Event.joins state.journal ↔ number < state.caps.size := by
  rw [← List.mem_range, ← h.drivers, List.mem_filterMap]
  constructor
  · exact fun hmem => ⟨_, hmem, rfl⟩
  · rintro ⟨id, hmem, hid⟩
    cases id with
    | caller => cases hid
    | driver other =>
        cases hid
        exact hmem

theorem mem_driver (h : Subscribed state) {number : Nat} :
    .driver number ∈ state.observers.map Observer.id ↔ state.life number = some true := by
  have hsize : number < state.caps.size ↔ state.life number ≠ none := by
    simp [life]
  rw [h.listed.mem_iff, h.mem_joined_driver, h.retired, hsize]
  rcases state.life number with _ | _ | _ <;> simp

/-- A caller that observes has a number that nobody has had. -/
theorem welcome (h : Subscribed state) (routine : Nat) :
    Subscribed (state.welcome routine) := by
  have hnew : .caller state.nextCaller ∉ chronicle Event.joins state.journal :=
    fun hmem => Nat.lt_irrefl _ (h.callers _ hmem)
  have hids : (state.welcome routine).observers.map Observer.id =
      state.observers.map Observer.id ++ [.caller state.nextCaller] := List.map_append
  have hjournal : (state.welcome routine).journal =
      .subscribed (.caller state.nextCaller) :: state.journal := rfl
  refine ⟨?_, fun number hmem => ?_, ?_, fun number => ?_⟩
  · rw [hids]
    exact h.listed.join hnew
  · rcases List.mem_append.mp hmem with hold | hlast
    · exact Nat.lt_succ_of_lt (h.callers number hold)
    · obtain rfl := ObserverId.caller.inj (List.mem_singleton.mp hlast)
      exact Nat.lt_succ_self _
  · exact List.filterMap_append.trans ((List.append_nil _).trans h.drivers)
  · rw [hjournal, parts_subscribed]
    exact h.retired number

theorem map_id_filter (observers : List Observer) (id : ObserverId) :
    (observers.filter fun observer => observer.id != id).map Observer.id =
      (observers.map Observer.id).filter fun other => other != id :=
  (List.filter_map (p := fun other => other != id)).symm

theorem unsubscribe (h : Subscribed state) {number : Nat}
    (hfound : .caller number ∈ state.observers.map Observer.id) :
    Subscribed (state.unsubscribe (.caller number)) := by
  have hjournal : (state.unsubscribe (.caller number)).journal =
      .unsubscribed (.caller number) :: state.journal := rfl
  refine ⟨?_, ?_, ?_, fun other => ?_⟩
  · rw [Pacing.unsubscribe, map_id_filter]
    exact h.listed.part hfound
  · rw [hjournal, joins_unsubscribed]
    exact h.callers
  · rw [hjournal, joins_unsubscribed]
    exact h.drivers
  · rw [hjournal, parts_unsubscribed, List.mem_append, List.mem_singleton]
    rw [or_iff_left ObserverId.noConfusion]
    exact h.retired other

/-- A new driver is alive, and observes. -/
theorem create (h : Subscribed state) (throttle : Bool) :
    Subscribed (state.create throttle) := by
  have hnew : .driver state.caps.size ∉ chronicle Event.joins state.journal :=
    fun hmem => Nat.lt_irrefl _ (h.mem_joined_driver.mp hmem)
  have hids : (state.create throttle).observers.map Observer.id =
      state.observers.map Observer.id ++ [.driver state.caps.size] := List.map_append
  have hjournal : (state.create throttle).journal =
      .subscribed (.driver state.caps.size) :: state.journal := rfl
  have hcaps : (state.create throttle).caps =
      state.caps.push (.fresh throttle state.rate) := rfl
  refine ⟨?_, fun number hmem => ?_, ?_, fun number => ?_⟩
  · rw [hids]
    exact h.listed.join hnew
  · refine h.callers number ((List.mem_append.mp hmem).resolve_right fun hlast => ?_)
    cases List.mem_singleton.mp hlast
  · rw [hcaps, Array.size_push, List.range_succ, ← h.drivers]
    exact List.filterMap_append
  · rw [hjournal, parts_subscribed, h.retired, life, life, hcaps, Array.getElem?_push]
    split
    · rename_i hlast
      rw [hlast, Array.getElem?_eq_none (Nat.le_refl _)]
      simp [Cap.fresh]
    · rfl

/-- A live driver that is retired does not observe any more. -/
theorem retire (h : Subscribed state) {number : Nat}
    (halive : state.life number = some true) : Subscribed (state.retire number) := by
  have hmem : .driver number ∈ state.observers.map Observer.id := h.mem_driver.mpr halive
  have hjournal : (state.retire number).journal =
      .unsubscribed (.driver number) :: state.journal := rfl
  have hcaps : (state.retire number).caps = state.caps.modify number Cap.retired := rfl
  refine ⟨?_, ?_, ?_, fun other => ?_⟩
  · rw [Pacing.retire, Pacing.unsubscribe, map_id_filter]
    exact h.listed.part hmem
  · rw [hjournal, joins_unsubscribed]
    exact h.callers
  · rw [hjournal, joins_unsubscribed, hcaps, Array.size_modify]
    exact h.drivers
  · rw [hjournal, parts_unsubscribed, List.mem_append, List.mem_singleton, h.retired, life,
      life, hcaps, Array.getElem?_modify]
    split
    · rename_i hother
      obtain ⟨cap, hcap, -⟩ := Option.map_eq_some_iff.mp halive
      rw [← hother, hcap]
      simp [Cap.retired]
    · rename_i hother
      rw [or_iff_left fun heq => hother (ObserverId.driver.inj heq).symm]

theorem step (h : Subscribed state) (hstep : Step (state, notices) (next, later)) :
    Subscribed next := by
  cases hstep with
  | aside hpace _ =>
      exact h.aside (Event.joins_of_facet hpace) (Event.parts_of_facet hpace) rfl rfl rfl rfl
        fun _ => rfl
  | store => exact h.aside rfl rfl rfl rfl rfl rfl fun _ => rfl
  | @tell _ observer =>
      cases observer with
      | caller => exact h.aside rfl rfl rfl rfl rfl rfl fun _ => rfl
      | driver number =>
          exact h.aside rfl rfl rfl rfl rfl (Array.size_modify ..)
            fun other => life_modify state number other fun _ => rfl
  | announce => exact h.aside rfl rfl rfl rfl rfl rfl fun _ => rfl
  | subscribe routine => exact h.welcome routine
  | unsubscribe number hfound => exact h.unsubscribe hfound
  | create throttle => exact h.create throttle
  | retire number halive => exact h.retire halive
  | turns number =>
      exact h.aside rfl rfl rfl rfl rfl (Array.size_modify ..)
        fun other => life_modify state number other Cap.alive_applied
  | activates => exact h.aside rfl rfl rfl rfl rfl rfl fun _ => rfl

end Subscribed

variable {rate : Rate} {reportInterval : Nat}

theorem subscribed_fresh : Subscribed (Rig.fresh rate reportInterval).pacing where
  listed := ⟨rfl, List.nodup_nil, List.nodup_nil, fun _ h => h, trivial⟩
  callers _ hmem := absurd hmem List.not_mem_nil
  drivers := by simp [Rig.pacing, Rig.fresh]
  retired number := by simp [Rig.pacing, Rig.fresh, life]

/-- The subscriptions are those of the journal all the time, even between the moments at
which user code is in control. -/
theorem Steps.subscribed {after : Pacing × List Notice}
    (hsteps : Steps ((Rig.fresh rate reportInterval).pacing, []) after) :
    Subscribed after.1 := by
  induction hsteps with
  | refl => exact subscribed_fresh
  | tail _ hstep ih => exact ih.step hstep

end Pacing

end Cadence
