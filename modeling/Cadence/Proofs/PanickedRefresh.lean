import Cadence.Proofs.RefreshTurns

/-!
What a refresh that is cut short leaves of the cadence.  A request is lost exactly
if a refresh had taken it and it had not begun when the refresh unwound.
-/

namespace Cadence

namespace Refreshing

/-- What holds of every refresher between two orders. -/
structure Sane (state : Refreshing) : Prop where
  attended : state.Attended
  ticketed : state.Ticketed
  lined : state.Lined

end Refreshing

open Refreshing in
theorem Rig.Becomes.sane {rate : Rate} {reportInterval : Nat} {rig : Rig}
    (h : (Rig.fresh rate reportInterval).Becomes rig) : rig.refreshing.Sane := by
  induction h with
  | start =>
      refine ⟨fun batch hbatch => ?_, ⟨?_, ?_⟩, ⟨?_, ?_⟩⟩
      · cases hbatch
      · exact .nil
      · exact fun request hrequest => by cases hrequest
      · exact .nil
      · exact fun task htask => by cases htask
  | @midway depth script rig moment _ hpasses ih =>
      have hfinds : (contract rig.refreshing).finds rig := ⟨.refl, ih.attended⟩
      have hmoment := (soundOrders rig.refreshing).finds_moment hpasses
        script.keepsTo_all hfinds
      exact ⟨hmoment.2, Steps.ticketed hmoment.1 ih.ticketed,
        Steps.lined hmoment.1 ih.lined⟩
  | @after rig depth script _ ih =>
      have hfinds : (contract rig.refreshing).finds rig := ⟨.refl, ih.attended⟩
      have hleaves := (soundOrders rig.refreshing).honoured depth
        script rig script.keepsTo_all hfinds
      exact ⟨ih.attended.of_batches hleaves.2,
        Steps.ticketed hleaves.1 ih.ticketed, Steps.lined hleaves.1 ih.lined⟩

namespace Refresher

/-- Nobody misses out: the tasks that had turns queued have turns queued again,
a single request has begun or is still to come, and so has every request that was
made meanwhile. -/
structure KeepsCadence (before after : Refresher) (events : List Event) :
    Prop where
  tasks : ∀ task ∈ turnsOf before.queue, task ∈ turnsOf after.queue
  singles : ∀ request ∈ before.queue, request.task? = none →
    Began events request ∨ request ∈ after.queue
  requests : ∀ request, request ∈ before.queue ∨ .requested request ∈ events →
    Began events request ∨ request ∈ after.queue

end Refresher

namespace Refreshing

variable {orderly : Bool} {start state : Refreshing}

/-- Whether a request is a turn of a task. -/
def isTurnOf (task : Nat) (request : FrameRequest) : Bool :=
  request.task? == some task

theorem isTurnOf_iff {task : Nat} {request : FrameRequest} :
    isTurnOf task request = true ↔ ∃ ticket, request = ⟨ticket, .turn task⟩ := by
  obtain ⟨ticket, work⟩ := request
  cases work <;> simp [isTurnOf, FrameRequest.task?]

theorem count_turnsOf (requests : List FrameRequest) (task : Nat) :
    (turnsOf requests).count task = (requests.filter (isTurnOf task)).length := by
  induction requests with
  | nil => rfl
  | cons request rest ih =>
      rw [turnsOf_cons, List.count_append, ih]
      cases htask : request.task? with
      | none => simp [turnsOf, isTurnOf, htask]
      | some other =>
          by_cases hother : other = task
          · simp [turnsOf, isTurnOf, htask, hother, Nat.add_comm]
          · simp [turnsOf, isTurnOf, htask, hother]

/-- The flow of requests in a run that leaves the batches as they were. -/
structure Flow (start state : Refreshing) : Prop where
  kept : start.queue ++ state.made = state.taken ++ state.queue
  nodup : (state.taken ++ state.queue).Nodup
  begun : state.begun.Subperm state.taken
  renewed : ∀ task < start.tasks.size,
    (turnsOf state.made).count task = (turnsOf state.begun).count task

theorem Steps.flow (hsteps : Steps orderly start state)
    (hjournal : start.journal = []) (hticketed : start.Ticketed)
    (hbatches : state.batches = start.batches) (hrun : state.stopped = false) :
    Flow start state := by
  have hnumbered := Steps.numbered hsteps hjournal hticketed
  have haccounted := Steps.accounted hsteps hjournal
  have hrenewed := Steps.renewed hsteps hjournal
  refine ⟨hnumbered.kept hrun, hnumbered.nodup, ?_, ?_⟩
  · rw [List.subperm_ext_iff]
    intro request _
    have hle := haccounted.begun_le request
    have hwaiting : state.waiting = start.waiting := by
      rw [waiting, hbatches, waiting]
    rw [hwaiting] at hle
    omega
  · intro task htask
    have hturns := hrenewed.turns hrun task htask
    have hcurrent : state.current = start.current := by
      rw [current, hbatches, current]
    rw [hcurrent] at hturns
    omega

/-- A task is still queued exactly if each of its turns that were taken has
begun. -/
theorem Flow.queued_iff (h : Flow start state) (hlined : start.Lined)
    {task : Nat} (htask : task ∈ turnsOf start.queue) :
    task ∈ turnsOf state.queue ↔
      ∀ ticket, ⟨ticket, .turn task⟩ ∈ state.taken →
        ⟨ticket, .turn task⟩ ∈ state.begun := by
  have hone : (turnsOf start.queue).count task = 1 :=
    List.count_eq_one_of_mem (List.Nodup.of_append_left hlined.nodup) htask
  have hsize := hlined.exist task (List.mem_append_left _ htask)
  have hflow := congrArg (fun requests => (turnsOf requests).count task) h.kept
  simp only [turnsOf_append, List.count_append, hone, h.renewed task hsize] at hflow
  rw [count_turnsOf, count_turnsOf state.taken] at hflow
  have hbegun : (state.begun.filter (isTurnOf task)).Subperm
      (state.taken.filter (isTurnOf task)) := h.begun.filter _
  -- One turn was queued at first; since then as many have been added as have begun,
  -- and those taken have gone.  So one is left exactly if none was taken in vain.
  constructor
  · intro hqueued ticket htaken
    have hpos := List.count_pos_iff.mpr hqueued
    have hperm := hbegun.perm_of_length_le (by omega)
    have hturn : isTurnOf task ⟨ticket, .turn task⟩ = true :=
      isTurnOf_iff.mpr ⟨ticket, rfl⟩
    have hmem := hperm.mem_iff.mpr (List.mem_filter.mpr ⟨htaken, hturn⟩)
    exact (List.mem_filter.mp hmem).1
  · intro hall
    have hsubset : state.taken.filter (isTurnOf task) ⊆
        state.begun.filter (isTurnOf task) := by
      intro request hrequest
      obtain ⟨htaken, hturn⟩ := List.mem_filter.mp hrequest
      obtain ⟨ticket, rfl⟩ := isTurnOf_iff.mp hturn
      exact List.mem_filter.mpr ⟨hall ticket htaken, hturn⟩
    have hnodup : (state.taken.filter (isTurnOf task)).Nodup :=
      (List.Nodup.of_append_left h.nodup).filter _
    have hle := (List.subperm_of_subset hnodup hsubset).length_le
    exact List.count_pos_iff.mp (by omega)

theorem Flow.made_of_taken (h : Flow start state) {request : FrameRequest}
    (htaken : request ∈ state.taken) :
    request ∈ start.queue ∨ request ∈ state.made := by
  rw [← List.mem_append, h.kept]
  exact List.mem_append_left _ htaken

/-- A request made before or during a run has begun or is still queued, unless it
was taken and never begun. -/
theorem Flow.begun_or_queued_iff (h : Flow start state) {request : FrameRequest}
    (hmade : request ∈ start.queue ∨ request ∈ state.made) :
    request ∈ state.begun ∨ request ∈ state.queue ↔
      (request ∈ state.taken → request ∈ state.begun) := by
  have hmem : request ∈ state.taken ∨ request ∈ state.queue := by
    rw [← List.mem_append, ← h.kept, List.mem_append]
    exact hmade
  constructor
  · rintro (hbegun | hqueued) htaken
    · exact hbegun
    · exact absurd hqueued (List.disjoint_of_nodup_append h.nodup htaken)
  · intro himp
    rcases hmem with htaken | hqueued
    · exact Or.inl (himp htaken)
    · exact Or.inr hqueued

end Refreshing

namespace Refresher

open Refreshing

/-- However a refresh ends, and whatever its callbacks order meanwhile, nobody
misses out exactly if no request that was taken is left without its turn; and each
task stays queued exactly if all its turns that were taken have begun. -/
theorem keepsCadence_iff {rate : Rate} {reportInterval : Nat} {rig : Rig}
    (hbecomes : (Rig.fresh rate reportInterval).Becomes rig) (depth : Nat)
    (hrun : ((Order.refresh .refresh).perform depth
      rig).2.refresher.stopped = false) :
    let later := ((Order.refresh .refresh).perform depth rig).2
    ∃ events, later.journal = events ++ rig.journal ∧
      (KeepsCadence rig.refresher later.refresher events ↔
        ∀ request, Took events request → Began events request) ∧
      ∀ task ∈ turnsOf rig.refresher.queue,
        (task ∈ turnsOf later.refresher.queue ↔
          ∀ ticket, Took events ⟨ticket, .turn task⟩ →
            Began events ⟨ticket, .turn task⟩) := by
  intro later
  have hsane := hbecomes.sane
  have hfinds : (contract rig.refreshing).finds rig := ⟨.refl, hsane.attended⟩
  have hleaves := (soundOrders rig.refreshing).leaves_perform depth
    (.refresh .refresh) rig trivial hfinds
  obtain ⟨events, hjournal, hsteps⟩ := Steps.alone hleaves.1
  have hflow := Steps.flow hsteps rfl
    ⟨hsane.ticketed.increasing, hsane.ticketed.bound⟩ hleaves.2 hrun
  have hlined : (rig.refreshing.withJournal []).Lined :=
    ⟨hsane.lined.nodup, hsane.lined.exist⟩
  have hturns : ∀ task ∈ turnsOf rig.refresher.queue,
      (task ∈ turnsOf later.refresher.queue ↔
        ∀ ticket, Took events ⟨ticket, .turn task⟩ →
          Began events ⟨ticket, .turn task⟩) := by
    intro task htask
    have hqueued := hflow.queued_iff hlined htask
    simp only [mem_taken, mem_begun] at hqueued
    exact hqueued
  have hrequests : ∀ request,
      request ∈ rig.refresher.queue ∨ .requested request ∈ events →
        (Began events request ∨ request ∈ later.refresher.queue ↔
          (Took events request → Began events request)) := by
    intro request hmade
    have hflows := hflow.begun_or_queued_iff (hmade.imp_right mem_made.mpr)
    rw [mem_taken, mem_begun] at hflows
    exact hflows
  refine ⟨events, hjournal, ⟨?_, ?_⟩, hturns⟩
  · intro hkeeps request htook
    have hmade := (hflow.made_of_taken (mem_taken.mpr htook)).imp_right
      mem_made.mp
    exact (hrequests request hmade).mp (hkeeps.requests request hmade) htook
  · intro hall
    have hkept : ∀ request,
        request ∈ rig.refresher.queue ∨ .requested request ∈ events →
          Began events request ∨ request ∈ later.refresher.queue :=
      fun request hmade => (hrequests request hmade).mpr (hall request)
    constructor
    · exact fun task htask => (hturns task htask).mpr fun _ => hall _
    · exact fun request hqueued _ => hkept request (Or.inl hqueued)
    · exact hkept

/-- Two tasks, the first of which panics on its first turn. -/
def panickingPair : Script :=
  .routine (fun call _ => if call = 0 then .panic (.raised "boom") else .done .null)
    fun first => .order (.refresh (.recur first)) fun _ =>
      .routine (fun _ _ => .done .null) fun second =>
        .order (.refresh (.recur second)) fun _ => .done .null

def pairRig : Rig :=
  (panickingPair.playWithin 1 (Rig.fresh .initial Duration.perSecond)).2

/-- The panic of the first task ends the cadence of the second. -/
theorem not_keepsCadence_pair :
    let later := ((Order.refresh .refresh).perform 2 pairRig).2
    ∃ events, later.journal = events ++ pairRig.journal ∧
      ¬ KeepsCadence pairRig.refresher later.refresher events ∧
      ∃ request, Took events request ∧ ¬ Began events request := by
  intro later
  have hbecomes : (Rig.fresh .initial Duration.perSecond).Becomes pairRig :=
    .after 1 panickingPair .start
  obtain ⟨events, hjournal, hkeeps, htasks⟩ :=
    keepsCadence_iff hbecomes 2 (by decide +kernel)
  have hfirst : 1 ∈ turnsOf pairRig.refresher.queue := by decide +kernel
  have hlost : 1 ∉ turnsOf later.refresher.queue := by decide +kernel
  refine ⟨events, hjournal, fun h => hlost (h.tasks 1 hfirst), ?_⟩
  by_contra hnone
  apply hlost
  rw [htasks 1 hfirst]
  intro ticket htook
  by_contra hbegan
  exact hnone ⟨_, htook, hbegan⟩

end Refresher

end Cadence
