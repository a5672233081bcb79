import Cadence.Proofs.Announcements
import Cadence.Proofs.Exclusion
import Cadence.Proofs.SettledRefreshes
import Cadence.Proofs.Subscriptions

/-!
Subscriptions of drivers.  Each live driver has exactly one subscription, which ends
when nothing refers to the driver any more, whoever has given up the last reference
and however that came about.
-/

namespace Cadence

open Pacing

namespace Rig

/-- The drivers that are alive, in the order of their creation. -/
def liveDrivers (rig : Rig) : List Nat :=
  (List.range rig.drivers.size).filter fun number => (rig.driver number).alive

/-- The callers who have subscribed and not unsubscribed. -/
def subscribers (rig : Rig) : List Nat :=
  (subscribing rig.journal).filterMap ObserverId.caller?

/-- Something refers to a driver: its handle, a turn of its task that is queued or in a
batch under way, or a turn or step of it that is being taken. -/
def RefersTo (rig : Rig) (number : Nat) : Prop :=
  (rig.driver number).handle = true ∨
    (∃ task, rig.refresher.body? task = some (.driver number) ∧
      (task ∈ turnsOf rig.refresher.queue ∨
        ∃ batch ∈ rig.refresher.batches, task ∈ turnsOf batch.line)) ∨
    .driver number ∈ underWay rig.journal

/-- Subscriptions at one moment.  The observers are those whose subscription has not
ended: so many callers, and each live driver once. -/
structure Subscribes (rig : Rig) : Prop where
  observers : rig.pace.observers.map Observer.id = subscribing rig.journal
  count : rig.pace.observers.length = rig.subscribers.length + rig.liveDrivers.length
  drivers : (rig.pace.observers.map Observer.id).filterMap ObserverId.driver? =
    rig.liveDrivers
  live : ∀ number, number ∈ rig.liveDrivers ↔ rig.RefersTo number
  ended : ∀ number < rig.drivers.size,
    (chronicle Event.parts rig.journal).count (.driver number) =
      if number ∈ rig.liveDrivers then 0 else 1
  /-- Whenever a subscription has ended, it has been taken out and no other. -/
  alone : ∀ newer id older, rig.journal = newer ++ .unsubscribed id :: older →
    id ∈ subscribing older ∧
      subscribing (.unsubscribed id :: older) = (subscribing older).erase id

/-- Subscriptions between two moments.  Those who have subscribed stay, in their order,
unless their subscription has ended; that of a live driver ends once if the driver does
not live to see the later moment, and not at all if it does. -/
structure KeepsSubscriptions (rig later : Rig) (events : List Event) : Prop where
  journal : later.journal = events ++ rig.journal
  observers : later.pace.observers.map Observer.id =
    (rig.pace.observers.map Observer.id ++ chronicle Event.joins events).filter fun id =>
      id ∉ chronicle Event.parts events
  ended : ∀ number ∈ rig.liveDrivers,
    (chronicle Event.parts events).count (.driver number) =
      if number ∈ later.liveDrivers then 0 else 1

variable {rate : Rate} {reportInterval : Nat} {start rig later : Rig} {number : Nat}

theorem mem_liveDrivers : number ∈ rig.liveDrivers ↔ (rig.driver number).alive = true := by
  rw [liveDrivers, List.mem_filter, List.mem_range]
  exact and_iff_right_of_imp Driver.size_of_alive

theorem life_pacing (rig : Rig) (number : Nat) :
    rig.pacing.life number = rig.drivers[number]?.map Driver.alive := by
  rw [life, pacing, Array.getElem?_map, Option.map_map]
  rfl

/-- A driver that has been made and is not alive has been retired. -/
theorem life_eq_some_false (hsize : number < rig.drivers.size) :
    rig.pacing.life number = some false ↔ number ∉ rig.liveDrivers := by
  rw [life_pacing, mem_liveDrivers, Driver.getElem?_driver hsize]
  simp

theorem Becomes.subscribed (h : (fresh rate reportInterval).Becomes rig) :
    Subscribed rig.pacing := by
  obtain ⟨notices, hsteps⟩ := h.paced
  exact Steps.subscribed hsteps

theorem Becomes.trans (hfirst : start.Becomes rig) (hsecond : rig.Becomes later) :
    start.Becomes later := by
  induction hsecond with
  | start => exact hfirst
  | midway _ hpasses ih => exact .midway ih hpasses
  | after depth script _ ih => exact .after depth script ih

/-- A driver is busy while it is under way. -/
theorem Orderly.busy_iff {fact : Fact} (h : rig.Orderly fact) :
    (rig.driver number).busy = true ↔ .driver number ∈ underWay rig.journal := by
  constructor
  · intro hbusy
    refine (h.flags 0 (.driver number) _ ?_).mp hbusy
    rw [flag, Driver.getElem?_driver (Driver.size_of_busy hbusy)]
    rfl
  · intro hunder
    have hflag := h.flag_of_underWay hunder fun _ => Part.noConfusion
    obtain ⟨driver, hdriver, hbusy⟩ := Option.map_eq_some_iff.mp hflag
    rw [Rig.driver, hdriver]
    exact hbusy

theorem owes_iff_exists : rig.refresher.owesDriver number = true ↔
    ∃ task, rig.refresher.body? task = some (.driver number) ∧
      (task ∈ turnsOf rig.refresher.queue ∨
        ∃ batch ∈ rig.refresher.batches, task ∈ turnsOf batch.line) := by
  rw [Refresher.owesDriver_iff]
  refine exists_congr fun task => and_congr_right fun _ => ?_
  rw [Refresher.backlog, turnsOf_append, List.mem_append]
  refine or_congr_right ?_
  rw [turnsOf, List.filterMap_flatMap, List.mem_flatMap]
  rfl

theorem Becomes.refersTo_iff (h : (fresh rate reportInterval).Becomes rig) :
    rig.RefersTo number ↔ number ∈ rig.liveDrivers := by
  have hbusy : (rig.driver number).busy = true ↔ .driver number ∈ underWay rig.journal :=
    (h.orderly Fact.kept_true).busy_iff
  rw [mem_liveDrivers, h.settled number, isReferenced, Bool.or_eq_true, Bool.or_eq_true,
    hbusy, owes_iff_exists, RefersTo, or_assoc]
  exact or_congr_right or_comm

/-! ### What the journal tells of drivers -/

section Subscribed

variable (h : Subscribed rig.pacing)

include h

theorem mem_parts_driver (hsize : number < rig.drivers.size) :
    .driver number ∈ chronicle Event.parts rig.journal ↔ number ∉ rig.liveDrivers :=
  (h.retired number).trans (life_eq_some_false hsize)

theorem filterMap_driver : (rig.pace.observers.map Observer.id).filterMap
    ObserverId.driver? = rig.liveDrivers := by
  have hids : rig.pace.observers.map Observer.id = subscribing rig.journal := h.listed.ids
  have hdrivers : (chronicle Event.joins rig.journal).filterMap ObserverId.driver? =
      List.range rig.drivers.size := by
    have hrange := h.drivers
    rw [pacing, Array.size_map] at hrange
    exact hrange
  rw [hids, subscribing, filterMap_driver_filter, hdrivers, liveDrivers]
  refine List.filter_congr fun number hnumber => ?_
  rw [Bool.eq_iff_iff, decide_eq_true_eq, mem_parts_driver h (List.mem_range.mp hnumber),
    not_not, mem_liveDrivers]

theorem count_parts (hsize : number < rig.drivers.size) :
    (chronicle Event.parts rig.journal).count (.driver number) =
      if number ∈ rig.liveDrivers then 0 else 1 := by
  have hnodup : (chronicle Event.parts rig.journal).Nodup := h.listed.parted
  rw [hnodup.count, if_congr (mem_parts_driver h hsize) rfl rfl, ite_not]

theorem alone_of_subscribed {newer older : List Event} {id : ObserverId}
    (hsplit : rig.journal = newer ++ .unsubscribed id :: older) :
    id ∈ subscribing older ∧
      subscribing (.unsubscribed id :: older) = (subscribing older).erase id := by
  have hends : Lawful Event.EndsOwn rig.journal := h.listed.ends
  have hnodup : (subscribing older).Nodup := by
    have hjoined : (chronicle Event.joins rig.journal).Nodup := h.listed.joined
    rw [hsplit, chronicle_append, chronicle_cons, List.append_assoc] at hjoined
    exact hjoined.of_append_left.filter _
  refine ⟨hends.of_split hsplit id (List.mem_singleton_self id), ?_⟩
  rw [subscribing_unsubscribed, hnodup.erase_eq_filter]

theorem subscribes_of_subscribed (hlive : ∀ number,
    number ∈ rig.liveDrivers ↔ rig.RefersTo number) : rig.Subscribes where
  observers := h.listed.ids
  count := by
    have hids : rig.pace.observers.map Observer.id = subscribing rig.journal :=
      h.listed.ids
    have hlength := length_eq_add (rig.pace.observers.map Observer.id)
    rw [filterMap_driver h, hids, ← hids, List.length_map] at hlength
    rw [subscribers, ← hids]
    exact hlength
  drivers := filterMap_driver h
  live := hlive
  ended _ hsize := count_parts h hsize
  alone _ _ _ hsplit := alone_of_subscribed h hsplit

end Subscribed

/-- What becomes of subscriptions between two moments is known from the journal. -/
theorem keepsSubscriptions_of_subscribed (h : Subscribed rig.pacing)
    (hlater : Subscribed later.pacing) {events : List Event}
    (hjournal : later.journal = events ++ rig.journal) :
    rig.KeepsSubscriptions later events := by
  have hids : rig.pace.observers.map Observer.id = subscribing rig.journal := h.listed.ids
  have hlast : later.pace.observers.map Observer.id = subscribing later.journal :=
    hlater.listed.ids
  have hjoined : (chronicle Event.joins later.journal).Nodup := hlater.listed.joined
  have hknown : chronicle Event.parts rig.journal ⊆ chronicle Event.joins rig.journal :=
    h.listed.known
  rw [hjournal, chronicle_append] at hjoined
  refine ⟨hjournal, ?_, fun number hlive => ?_⟩
  · rw [hlast, hjournal, hids]
    refine subscribing_append fun id hnew hold => ?_
    exact List.disjoint_of_nodup_append hjoined (hknown hold) hnew
  · have hsize : number < rig.drivers.size :=
      Driver.size_of_alive (mem_liveDrivers.mp hlive)
    have hlasts : number < later.drivers.size := by
      have hmade : .driver number ∈ chronicle Event.joins rig.journal :=
        h.mem_joined_driver.mpr ((Array.size_map).symm ▸ hsize)
      have hknows : .driver number ∈ chronicle Event.joins later.journal := by
        rw [hjournal, chronicle_append]
        exact List.mem_append_left _ hmade
      have hcaps := hlater.mem_joined_driver.mp hknows
      rw [pacing, Array.size_map] at hcaps
      exact hcaps
    have hcount := count_parts hlater hlasts
    rw [hjournal, chronicle_append, List.count_append, count_parts h hsize, if_pos hlive,
      Nat.zero_add] at hcount
    exact hcount

end Rig

namespace Driver

variable {rate : Rate} {reportInterval : Nat} {rig : Rig}

/-- At every moment of every run the observers are the callers who have not unsubscribed
and the live drivers, each of them once.  A driver is live exactly as long as something
refers to it, and when it is not its subscription ends, once and alone. -/
theorem subscribesWhileLive (hbecomes : (Rig.fresh rate reportInterval).Becomes rig) :
    rig.Subscribes ∧
      ∀ later, rig.Becomes later → ∃ events, rig.KeepsSubscriptions later events := by
  have hsubscribed := hbecomes.subscribed
  refine ⟨Rig.subscribes_of_subscribed hsubscribed fun _ => hbecomes.refersTo_iff.symm,
    fun later hlater => ?_⟩
  obtain ⟨notices, hsteps⟩ := hlater.paced
  obtain ⟨events, hheard⟩ := Steps.heard hsteps
  exact ⟨events, Rig.keepsSubscriptions_of_subscribed hsubscribed
    (hbecomes.trans hlater).subscribed hheard.journal⟩

/-- Two drivers and a listener.  In the first cycle of its first turn the first driver
loses its handle, and in the second one its emulator breaks down. -/
def departing : Script :=
  .routine (fun call _ =>
    if call = 0 then .order (.driver (.dropHandle 0)) fun _ => .done .null
    else .panic (.raised "broken")) fun onAdvance =>
  .routine (fun _ _ => .done .null) fun quiet =>
  .order (.pace (.subscribe quiet)) fun _ =>
  .order (.driver (.newEmulator
    (.scripted (Machine.countingPicture 8) 0 onAdvance quiet))) fun _ =>
  .order (.driver (.newDriver 0 (.scripted 8 none quiet) .standard .shared)) fun _ =>
  .order (.driver (.newDriver 0 (.scripted 8 none quiet) .standard .shared)) fun _ =>
  .order (.driver (.start 0)) fun _ => .order (.refresh .refresh) fun _ => .done .null

def departingRig : Rig :=
  (departing.playWithin 4 (.fresh .initial Duration.perSecond)).2

def stoppedRig : Rig :=
  ((Script.order (.refresh .stop) fun _ => .done .null).playWithin 4 departingRig).2

/-- The next turn of its task keeps the driver, until refreshes are stopped. -/
theorem subscribesWhileLive_departing :
    departingRig.Subscribes ∧ stoppedRig.Subscribes ∧
      (∃ events, departingRig.KeepsSubscriptions stoppedRig events) ∧
      ((departingRig.driver 0).handle = false ∧ departingRig.RefersTo 0) ∧
      departingRig.pace.observers.map Observer.id = [.caller 0, .driver 0, .driver 1] ∧
      stoppedRig.pace.observers.map Observer.id = [.caller 0, .driver 1] := by
  have hdeparts : (Rig.fresh .initial Duration.perSecond).Becomes departingRig :=
    .after 4 departing .start
  have hstops : departingRig.Becomes stoppedRig := .after 4 _ .start
  obtain ⟨hsubscribes, hkeeps⟩ := subscribesWhileLive hdeparts
  have hrefers : departingRig.RefersTo 0 :=
    (hsubscribes.live 0).mp (by decide +kernel)
  exact ⟨hsubscribes, (subscribesWhileLive (hdeparts.trans hstops)).1, hkeeps _ hstops,
    ⟨by decide +kernel, hrefers⟩, by decide +kernel, by decide +kernel⟩

end Driver

end Cadence
