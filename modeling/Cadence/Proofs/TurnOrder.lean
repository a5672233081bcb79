import Cadence.Proofs.OutstandingTurns

/-!
The order of turns.  Two tasks run in the order of their first requests if the
turn of the earlier one was queued when the later one was first requested, and in
the opposite order if it was in a batch under way; the journal tells which.
-/

namespace Cadence

/-- A turn of a task has been requested. -/
def Asked (events : List Event) (task : Nat) : Prop :=
  ∃ ticket, Event.requested ⟨ticket, .turn task⟩ ∈ events

/-- A task was requested for the first time after some of the events. -/
def FirstAsked (events older : List Event) (task : Nat) : Prop :=
  ∃ newer ticket, events = newer ++ .requested ⟨ticket, .turn task⟩ :: older ∧
    ¬ Asked older task

/-- Whether a turn of a task is queued, by what has happened: it has been
requested, and neither a refresh nor a stop has come since. -/
def isQueued (task : Nat) : List Event → Bool
  | [] => false
  | .requested request :: older =>
      request.task? == some task || isQueued task older
  | .refreshOpened _ _ :: _ => false
  | .stopped :: _ => false
  | _ :: older => isQueued task older

/-- Events that neither queue requests nor empty the queue. -/
def Event.isQuiet : Event → Bool
  | .requested _ => false
  | .refreshOpened _ _ => false
  | .stopped => false
  | _ => true

/-- Two tasks stand in a line as their first requests want it: the one that was
there first stands before the other if its turn was queued at that time, and
behind it if not. -/
structure InOrder (events : List Event) (before after : Nat) : Prop where
  behind : ∀ older, FirstAsked events older after → Asked older before →
    isQueued before older = true
  overtaken : ∀ older, FirstAsked events older before → Asked older after →
    isQueued after older = false

theorem asked_iff_any {events : List Event} {task : Nat} :
    Asked events task ↔ events.any (fun event => match event with
      | .requested request => request.task? == some task
      | _ => false) = true := by
  rw [List.any_eq_true]
  constructor
  · rintro ⟨ticket, hrequested⟩
    exact ⟨_, hrequested, beq_self_eq_true (some task)⟩
  · rintro ⟨event, hevent, htask⟩
    cases event with
    | requested request =>
        have hturn : task ∈ turnsOf [request] := by
          simpa [turnsOf] using eq_of_beq htask
        obtain ⟨ticket, hrequest⟩ := mem_turnsOf.mp hturn
        rw [List.mem_singleton] at hrequest
        exact ⟨ticket, hrequest ▸ hevent⟩
    | _ => cases htask

instance (events : List Event) (task : Nat) : Decidable (Asked events task) :=
  decidable_of_iff _ asked_iff_any.symm

section Events

variable {event : Event} {events older : List Event} {task : Nat}

theorem isQueued_of_isQuiet (hquiet : event.isQuiet = true) :
    isQueued task (event :: events) = isQueued task events := by
  cases event with
  | requested => cases hquiet
  | refreshOpened => cases hquiet
  | stopped => cases hquiet
  | _ => rfl

theorem asked_cons :
    Asked (event :: events) task ↔
      (∃ ticket, event = .requested ⟨ticket, .turn task⟩) ∨ Asked events task := by
  simp only [Asked, List.mem_cons, exists_or]
  constructor
  · rintro (⟨ticket, h⟩ | h)
    · exact Or.inl ⟨ticket, h.symm⟩
    · exact Or.inr h
  · rintro (⟨ticket, h⟩ | h)
    · exact Or.inl ⟨ticket, h.symm⟩
    · exact Or.inr h

/-- An event that asks for no task for the first time. -/
def Settled (events : List Event) (event : Event) : Prop :=
  ∀ ticket task, event = .requested ⟨ticket, .turn task⟩ → Asked events task

theorem settled_of_isQuiet (hquiet : event.isQuiet = true) :
    Settled events event := by
  rintro ticket task rfl
  cases hquiet

theorem asked_of_settled (h : Settled events event) :
    Asked (event :: events) task ↔ Asked events task := by
  rw [asked_cons]
  constructor
  · rintro (⟨ticket, hevent⟩ | hasked)
    · exact h ticket task hevent
    · exact hasked
  · exact Or.inr

theorem firstAsked_cons :
    FirstAsked (event :: events) older task ↔
      (∃ ticket, event = .requested ⟨ticket, .turn task⟩ ∧ older = events ∧
        ¬ Asked events task) ∨ FirstAsked events older task := by
  constructor
  · rintro ⟨newer, ticket, hevents, hfirst⟩
    cases newer with
    | nil =>
        obtain ⟨rfl, rfl⟩ := List.cons.inj hevents
        exact Or.inl ⟨ticket, rfl, rfl, hfirst⟩
    | cons head tail =>
        obtain ⟨rfl, rfl⟩ := List.cons.inj hevents
        exact Or.inr ⟨tail, ticket, rfl, hfirst⟩
  · rintro (⟨ticket, rfl, rfl, hfirst⟩ | ⟨newer, ticket, rfl, hfirst⟩)
    · exact ⟨[], ticket, rfl, hfirst⟩
    · exact ⟨event :: newer, ticket, rfl, hfirst⟩

theorem exists_firstAsked {newer : List Event}
    (hasked : Asked (newer ++ events) task) (hnot : ¬ Asked events task) :
    ∃ middle, FirstAsked (newer ++ events) (middle ++ events) task := by
  induction newer with
  | nil => exact absurd hasked hnot
  | cons event newer ih =>
      by_cases hold : Asked (newer ++ events) task
      · obtain ⟨middle, hfirst⟩ := ih hold
        exact ⟨middle, firstAsked_cons.mpr (Or.inr hfirst)⟩
      · rcases asked_cons.mp hasked with ⟨ticket, hevent⟩ | hasked
        · exact ⟨newer, firstAsked_cons.mpr (Or.inl ⟨ticket, hevent, rfl, hold⟩)⟩
        · exact absurd hasked hold

theorem FirstAsked.asked (h : FirstAsked events older task) :
    Asked events task := by
  obtain ⟨newer, ticket, rfl, _⟩ := h
  exact ⟨ticket, List.mem_append_right _ List.mem_cons_self⟩

theorem FirstAsked.asked_of_older {other : Nat}
    (h : FirstAsked events older task) (hother : Asked older other) :
    Asked events other := by
  obtain ⟨newer, _, rfl, _⟩ := h
  obtain ⟨ticket, hticket⟩ := hother
  exact ⟨ticket, List.mem_append_right _ (List.mem_cons_of_mem _ hticket)⟩

/-- Once a task has been requested, it is known when it was first. -/
theorem FirstAsked.of_cons (h : FirstAsked (event :: events) older task)
    (hasked : Asked events task) : FirstAsked events older task := by
  rcases firstAsked_cons.mp h with ⟨_, _, _, hnot⟩ | hold
  · exact absurd hasked hnot
  · exact hold

/-- The order of two tasks that have been requested is settled. -/
theorem InOrder.cons {before after : Nat} (h : InOrder events before after)
    (hbefore : Asked events before) (hafter : Asked events after) :
    InOrder (event :: events) before after where
  behind older hfirst := h.behind older (hfirst.of_cons hafter)
  overtaken older hfirst := h.overtaken older (hfirst.of_cons hbefore)

end Events

/-- A journal that fits the queued turns of so many tasks and the line in which
all outstanding turns stand. -/
structure Recorded (journal : List Event) (size : Nat) (queued line : List Nat) :
    Prop where
  asked : ∀ task, Asked journal task ↔ task < size
  known : ∀ task ∈ line, task < size
  queued : ∀ task, task ∈ queued ↔ isQueued task journal = true
  inOrder : line.Pairwise (InOrder journal)
  opened : ∀ frame requests, .refreshOpened frame requests ∈ journal →
    (turnsOf requests).Pairwise (InOrder journal) ∧
      ∀ task ∈ turnsOf requests, task < size

namespace Recorded

variable {journal : List Event} {event : Event} {size : Nat}
  {queued line : List Nat}

/-- Old tasks keep their order, whatever happens. -/
theorem pairwise_cons (h : Recorded journal size queued line) {tasks : List Nat}
    (hknown : ∀ task ∈ tasks, task < size)
    (hpairs : tasks.Pairwise (InOrder journal)) :
    tasks.Pairwise (InOrder (event :: journal)) := by
  refine hpairs.imp_of_mem fun {before after} hbefore hafter hpair => ?_
  exact hpair.cons ((h.asked before).mpr (hknown before hbefore))
    ((h.asked after).mpr (hknown after hafter))

theorem shrink (h : Recorded journal size queued line) {shorter : List Nat}
    (hsublist : shorter.Sublist line) : Recorded journal size queued shorter :=
  { h with
    known := fun task htask => h.known task (hsublist.subset htask)
    inOrder := h.inOrder.sublist hsublist }

/-- An event that requests no new task; a refresh takes its turns from the
line. -/
theorem settle (h : Recorded journal size queued line)
    (hsettled : Settled journal event)
    (hopens : ∀ frame requests, event = .refreshOpened frame requests →
      (turnsOf requests).Sublist line)
    {queue : List Nat}
    (hqueue : ∀ task, task ∈ queue ↔ isQueued task (event :: journal) = true) :
    Recorded (event :: journal) size queue line where
  asked task := (asked_of_settled hsettled).trans (h.asked task)
  known := h.known
  queued := hqueue
  inOrder := h.pairwise_cons h.known h.inOrder
  opened frame requests hopened := by
    rcases List.mem_cons.mp hopened with heq | hold
    · have hsublist := hopens frame requests heq.symm
      have hknown : ∀ task ∈ turnsOf requests, task < size :=
        fun task htask => h.known task (hsublist.subset htask)
      exact ⟨h.pairwise_cons hknown (h.inOrder.sublist hsublist), hknown⟩
    · have hrequests := h.opened frame requests hold
      exact ⟨h.pairwise_cons hrequests.2 hrequests.1, hrequests.2⟩

theorem quiet (h : Recorded journal size queued line)
    (hquiet : event.isQuiet = true) :
    Recorded (event :: journal) size queued line := by
  apply h.settle (settled_of_isQuiet hquiet)
  · rintro frame requests rfl
    cases hquiet
  · intro task
    rw [isQueued_of_isQuiet hquiet]
    exact h.queued task

/-- A request that is no new task's. -/
theorem request (h : Recorded journal size queued line) (request : FrameRequest)
    (hknown : ∀ task ∈ turnsOf [request], task < size) :
    Recorded (.requested request :: journal) size (queued ++ turnsOf [request])
      line := by
  have hturn (task : Nat) :
      task ∈ turnsOf [request] ↔ request.task? = some task := by
    simp [turnsOf]
  apply h.settle
  · rintro ticket task hevent
    obtain rfl := Event.requested.inj hevent
    exact (h.asked task).mpr (hknown task ((hturn task).mpr rfl))
  · exact fun _ _ => Event.noConfusion
  · intro task
    rw [List.mem_append, hturn, h.queued, isQueued, Bool.or_eq_true, beq_iff_eq,
      or_comm]

/-- A new task goes behind the queue. -/
theorem recur (h : Recorded journal size queued (queued ++ line))
    (hnodup : (queued ++ line).Nodup) (ticket : Nat) :
    Recorded (.requested ⟨ticket, .turn size⟩ :: journal) (size + 1)
      (queued ++ [size]) (queued ++ size :: line) := by
  have hunasked : ¬ Asked journal size :=
    fun hasked => Nat.lt_irrefl _ ((h.asked size).mp hasked)
  have hfirst {older : List Event} (hnew : FirstAsked
      (.requested ⟨ticket, .turn size⟩ :: journal) older size) :
      older = journal := by
    rcases firstAsked_cons.mp hnew with ⟨_, _, heq, _⟩ | hold
    · exact heq
    · exact absurd hold.asked hunasked
  have hunheard {task : Nat} (hknown : task < size) {older : List Event}
      (hold : FirstAsked (.requested ⟨ticket, .turn size⟩ :: journal) older
        task) : ¬ Asked older size := by
    have hasked := (h.asked task).mpr hknown
    exact fun hnew => hunasked ((hold.of_cons hasked).asked_of_older hnew)
  constructor
  · intro task
    rw [asked_cons, h.asked]
    constructor
    · rintro (⟨_, hevent⟩ | hold)
      · cases hevent
        exact Nat.lt_succ_self _
      · exact Nat.lt_succ_of_lt hold
    · intro hlt
      rcases Nat.lt_succ_iff_lt_or_eq.mp hlt with hold | rfl
      · exact Or.inr hold
      · exact Or.inl ⟨ticket, rfl⟩
  · intro task htask
    rw [List.mem_append, List.mem_cons] at htask
    rcases htask with hqueued | rfl | hline
    · exact Nat.lt_succ_of_lt (h.known task (List.mem_append_left _ hqueued))
    · exact Nat.lt_succ_self _
    · exact Nat.lt_succ_of_lt (h.known task (List.mem_append_right _ hline))
  · intro task
    rw [List.mem_append, h.queued, isQueued, Bool.or_eq_true, or_comm]
    have hturn : FrameRequest.task? ⟨ticket, .turn size⟩ = some size := rfl
    rw [hturn, List.mem_singleton, beq_iff_eq, Option.some.injEq]
    exact or_congr_left eq_comm
  · have hcons : (queued ++ line).Pairwise
        (InOrder (.requested ⟨ticket, .turn size⟩ :: journal)) :=
      h.pairwise_cons h.known h.inOrder
    have hpairs := List.pairwise_append.mp hcons
    rw [List.pairwise_append, List.pairwise_cons]
    refine ⟨hpairs.1, ⟨?_, hpairs.2.1⟩, ?_⟩
    · intro task htask
      have hknown := h.known task (List.mem_append_right _ htask)
      refine ⟨fun older hold hnew => absurd hnew (hunheard hknown hold), ?_⟩
      intro older hnew _
      rw [hfirst hnew, ← Bool.not_eq_true, ← h.queued]
      exact fun hqueued => List.disjoint_of_nodup_append hnodup hqueued htask
    · intro task htask other hother
      rcases List.mem_cons.mp hother with rfl | hline
      · have hknown := h.known task (List.mem_append_left _ htask)
        refine ⟨?_, fun older hold hnew => absurd hnew (hunheard hknown hold)⟩
        intro older hnew _
        rw [hfirst hnew]
        exact (h.queued task).mp htask
      · exact hpairs.2.2 task htask other hline
  · intro frame requests hopened
    rcases List.mem_cons.mp hopened with heq | hold
    · cases heq
    · have hrequests := h.opened frame requests hold
      exact ⟨h.pairwise_cons hrequests.2 hrequests.1,
        fun task htask => Nat.lt_succ_of_lt (hrequests.2 task htask)⟩

/-- A refresh takes the queued turns. -/
theorem opens (h : Recorded journal size queued line) (frame : FrameTime)
    {requests : List FrameRequest} (hsublist : (turnsOf requests).Sublist line) :
    Recorded (.refreshOpened frame requests :: journal) size [] line := by
  apply h.settle
  · exact fun _ _ hevent => Event.noConfusion hevent
  · rintro _ _ hevent
    obtain ⟨_, rfl⟩ := Event.refreshOpened.inj hevent
    exact hsublist
  · intro task
    simp [isQueued]

theorem stop (h : Recorded journal size queued line) :
    Recorded (.stopped :: journal) size [] line := by
  apply h.settle
  · exact fun _ _ hevent => Event.noConfusion hevent
  · exact fun _ _ => Event.noConfusion
  · intro task
    simp [isQueued]

end Recorded

theorem Event.isQuiet_of_facet {event : Event} (hfacet : event.facet ≠ .refreshes) :
    event.isQuiet = true := by
  cases event with
  | requested => exact absurd rfl hfacet
  | refreshOpened => exact absurd rfl hfacet
  | stopped => exact absurd rfl hfacet
  | _ => rfl

namespace Refreshing

/-- The journal fits the tasks and their turns. -/
def Chronicled (state : Refreshing) : Prop :=
  Recorded state.journal state.tasks.size (turnsOf state.queue) state.turns

section Recorded

variable {state : Refreshing} {size : Nat} {line : List Nat}

theorem recorded_request (work : FrameWork)
    (h : Recorded state.journal size (turnsOf state.queue) line)
    (hknown : ∀ task ∈ turnsOf [⟨state.nextTicket, work⟩], task < size) :
    Recorded (state.request work).journal size
      (turnsOf (state.request work).queue) line := by
  have hqueue : turnsOf (state.request work).queue =
      turnsOf state.queue ++ turnsOf [⟨state.nextTicket, work⟩] :=
    turnsOf_append _ _
  rw [hqueue]
  exact h.request ⟨state.nextTicket, work⟩ hknown

theorem recorded_requestAgain (state : Refreshing) {task : Nat}
    (htask : task < size)
    (h : Recorded state.journal size (turnsOf state.queue) line) :
    Recorded (state.requestAgain task).journal size
      (turnsOf (state.requestAgain task).queue) line := by
  unfold requestAgain
  split
  · exact h
  · apply recorded_request (.turn task) h
    intro other hother
    rw [turnsOf_turn rfl, List.mem_singleton] at hother
    rw [hother]
    exact htask

theorem recorded_worked {request : FrameRequest}
    (hknown : ∀ task ∈ turnsOf [request], task < size)
    (h : Recorded state.journal size (turnsOf state.queue) line) :
    Recorded (state.worked request.work).journal size
      (turnsOf (state.worked request.work).queue) line := by
  cases hwork : request.work with
  | once routine => exact h
  | turn task =>
      rw [turnsOf_turn hwork] at hknown
      have hleft : Recorded (.left (.task task) :: state.journal) size
        (turnsOf state.queue) line := h.quiet rfl
      exact recorded_requestAgain
        ((state.mark task false).note (.left (.task task)))
        (hknown task (List.mem_singleton_self _)) hleft

theorem recorded_started (state : Refreshing) (work : FrameWork)
    (h : Recorded state.journal size (turnsOf state.queue) line) :
    Recorded (state.started work).journal size
      (turnsOf (state.started work).queue) line := by
  cases work with
  | once routine => exact h
  | turn task => exact h.quiet rfl

end Recorded

variable {state next : Refreshing}

theorem Step.turns_sublist (hstep : Step true state next) (h : state.Lined)
    (hsize : next.tasks.size = state.tasks.size) :
    next.turns.Sublist state.turns := by
  rcases hstep.turns_cases h with ⟨hturns, _⟩ | ⟨hturns, _⟩ | ⟨_, hgrown⟩
  · rw [hturns]
  · exact hturns
  · omega

theorem Chronicled.shrink
    (h : Recorded next.journal state.tasks.size (turnsOf next.queue) state.turns)
    (hlined : state.Lined) (hstep : Step true state next)
    (hsize : next.tasks.size = state.tasks.size) : next.Chronicled := by
  rw [Chronicled, hsize]
  exact h.shrink (hstep.turns_sublist hlined hsize)

theorem Chronicled.step (h : state.Chronicled) (howing : Owing state)
    (hstep : Step true state next) : next.Chronicled := by
  have hlined := howing.lined
  cases hstep with
  | aside hfacet => exact h.quiet (Event.isQuiet_of_facet hfacet)
  | ask routine =>
      refine Chronicled.shrink ?_ hlined (.ask routine) rfl
      exact recorded_request (.once routine) h (fun task htask => by cases htask)
  | recur body =>
      have hrecur := Recorded.recur h hlined.nodup state.nextTicket
      have hqueue : turnsOf (state.recur body).queue =
          turnsOf state.queue ++ [state.tasks.size] := turnsOf_append _ _
      have hsize : (state.recur body).tasks.size = state.tasks.size + 1 :=
        Array.size_push _
      rw [Chronicled, turns_recur, hqueue, hsize]
      exact hrecur
  | stop => exact Chronicled.shrink (Recorded.stop h) hlined .stop rfl
  | opens frame hattended =>
      refine Chronicled.shrink ?_ hlined (.opens frame hattended) rfl
      exact Recorded.opens h frame (List.sublist_append_left _ _)
  | @begins frame request rest outer hbatches hstart =>
      refine Chronicled.shrink ?_ hlined (.begins hbatches hstart)
        (size_tasks_started _ request.work)
      exact recorded_started (state.begin frame request rest outer) request.work
        (h.quiet rfl)
  | @finishes frame request rest outer verdict hbatches =>
      refine Chronicled.shrink ?_ hlined (.finishes verdict hbatches)
        (size_tasks_worked _ request.work)
      refine Recorded.quiet ?_ rfl
      apply recorded_worked _ h
      intro task htask
      apply hlined.exist
      rw [turns, takenTurns_of_batches hbatches]
      exact List.mem_append_right _ (List.mem_append_left _ htask)
  | @refuses frame request rest outer task body verdict hbatches hwork hexecuting =>
      exact absurd hexecuting (howing.not_refused hbatches hwork)
  | @vanishes frame request rest outer task verdict hbatches hwork hnone =>
      exact absurd hnone (howing.not_vanished hbatches hwork)
  | aborts horderly => cases horderly
  | @closes frame rest outer hrest hbatches =>
      exact Chronicled.shrink h hlined (.closes hrest hbatches) rfl

end Refreshing

end Cadence
