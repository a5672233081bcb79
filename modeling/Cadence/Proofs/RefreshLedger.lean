import Mathlib.Data.List.Count
import Mathlib.Data.List.Nodup
import Cadence.Proofs.Journal
import Cadence.Proofs.RefreshProtocol

/-!
The ledger of refreshes.  A request is made, taken by a refresh, begun and ended,
in this order, and the journal knows how far each request has come.
-/

namespace Cadence

/-- The request that was made. -/
def Event.made : Event → List FrameRequest
  | .requested request => [request]
  | _ => []

/-- The requests that were taken. -/
def Event.taken : Event → List FrameRequest
  | .refreshOpened _ requests => requests
  | _ => []

/-- The request that began. -/
def Event.begun : Event → List FrameRequest
  | .began _ request => [request]
  | _ => []

/-- The request that ended. -/
def Event.done : Event → List FrameRequest
  | .ended _ request _ => [request]
  | _ => []

/-- Events that do not concern refreshes concern no request. -/
theorem Event.no_request {event : Event} (hfacet : event.facet ≠ .refreshes) :
    event.made = [] ∧ event.taken = [] ∧ event.begun = [] ∧ event.done = [] := by
  cases event with
  | requested => exact absurd rfl hfacet
  | refreshOpened => exact absurd rfl hfacet
  | began => exact absurd rfl hfacet
  | ended => exact absurd rfl hfacet
  | _ => exact ⟨rfl, rfl, rfl, rfl⟩

namespace Refreshing

def made (state : Refreshing) : List FrameRequest :=
  chronicle Event.made state.journal

def taken (state : Refreshing) : List FrameRequest :=
  chronicle Event.taken state.journal

def begun (state : Refreshing) : List FrameRequest :=
  chronicle Event.begun state.journal

def done (state : Refreshing) : List FrameRequest :=
  chronicle Event.done state.journal

/-- The requests that wait for their turn in a batch under way. -/
def waiting (state : Refreshing) : List FrameRequest :=
  state.batches.flatMap (·.waiting)

/-- The requests that are having their turn. -/
def current (state : Refreshing) : List FrameRequest :=
  state.batches.flatMap (·.current.toList)

/-- What is requested when work is over. -/
def renewal (state : Refreshing) : FrameWork → List FrameRequest
  | .once _ => []
  | .turn task =>
      if state.stopped then [] else [⟨state.nextTicket, .turn task⟩]

section Fields

variable (state : Refreshing)

theorem queue_requestAgain (task : Nat) :
    (state.requestAgain task).queue =
      state.queue ++ state.renewal (.turn task) := by
  cases hstopped : state.stopped <;>
    simp [requestAgain, renewal, request, hstopped]

theorem queue_worked (work : FrameWork) :
    (state.worked work).queue = state.queue ++ state.renewal work := by
  cases work with
  | once routine => simp [worked, renewal]
  | turn task => exact queue_requestAgain _ task

theorem made_requestAgain (task : Nat) :
    (state.requestAgain task).made =
      state.made ++ state.renewal (.turn task) := by
  cases hstopped : state.stopped <;>
    simp [requestAgain, renewal, request, made, Event.made, hstopped]

theorem made_worked (work : FrameWork) :
    (state.worked work).made = state.made ++ state.renewal work := by
  cases work with
  | once routine => simp [worked, renewal]
  | turn task =>
      have hleft : ((state.mark task false).note (.left (.task task))).made =
          state.made := by
        simp [made, note, mark, Event.made]
      rw [worked, made_requestAgain, hleft]
      rfl

theorem nextTicket_requestAgain (task : Nat) :
    (state.requestAgain task).nextTicket =
      state.nextTicket + (state.renewal (.turn task)).length := by
  cases hstopped : state.stopped <;>
    simp [requestAgain, renewal, request, hstopped]

theorem nextTicket_worked (work : FrameWork) :
    (state.worked work).nextTicket =
      state.nextTicket + (state.renewal work).length := by
  cases work with
  | once routine => rfl
  | turn task => exact nextTicket_requestAgain _ task

/-- The next turn of a task is made, and nothing else of it. -/
theorem told_requestAgain (task : Nat) :
    (state.requestAgain task).taken = state.taken ∧
      (state.requestAgain task).begun = state.begun ∧
      (state.requestAgain task).done = state.done := by
  cases hstopped : state.stopped <;>
    simp [requestAgain, request, taken, begun, done, Event.taken, Event.begun,
      Event.done, hstopped]

theorem told_worked (work : FrameWork) :
    (state.worked work).taken = state.taken ∧
      (state.worked work).begun = state.begun ∧
      (state.worked work).done = state.done := by
  cases work with
  | once routine => exact ⟨rfl, rfl, rfl⟩
  | turn task =>
      have hagain := told_requestAgain
        ((state.mark task false).note (.left (.task task))) task
      exact ⟨hagain.1.trans (List.append_nil _),
        hagain.2.1.trans (List.append_nil _), hagain.2.2.trans (List.append_nil _)⟩

theorem told_started (work : FrameWork) :
    (state.started work).made = state.made ∧
      (state.started work).taken = state.taken ∧
      (state.started work).begun = state.begun ∧
      (state.started work).done = state.done := by
  cases work with
  | once routine => exact ⟨rfl, rfl, rfl, rfl⟩
  | turn task =>
      exact ⟨List.append_nil _, List.append_nil _, List.append_nil _,
        List.append_nil _⟩

@[simp] theorem queue_started (work : FrameWork) :
    (state.started work).queue = state.queue := by
  cases work <;> rfl

@[simp] theorem nextTicket_started (work : FrameWork) :
    (state.started work).nextTicket = state.nextTicket := by
  cases work <;> rfl

@[simp] theorem stopped_started (work : FrameWork) :
    (state.started work).stopped = state.stopped := by
  cases work <;> rfl

@[simp] theorem stopped_requestAgain (task : Nat) :
    (state.requestAgain task).stopped = state.stopped := by
  unfold requestAgain
  split <;> rfl

@[simp] theorem stopped_worked (work : FrameWork) :
    (state.worked work).stopped = state.stopped := by
  cases work with
  | once routine => rfl
  | turn task => exact stopped_requestAgain _ task

variable (frame : FrameTime) (request : FrameRequest) (rest : List FrameRequest)
  (outer : List Batch) (verdict : Verdict)

@[simp] theorem made_begin :
    (state.begin frame request rest outer).made = state.made :=
  List.append_nil _

@[simp] theorem taken_begin :
    (state.begin frame request rest outer).taken = state.taken :=
  List.append_nil _

@[simp] theorem begun_begin :
    (state.begin frame request rest outer).begun = state.begun ++ [request] :=
  rfl

@[simp] theorem done_begin :
    (state.begin frame request rest outer).done = state.done :=
  List.append_nil _

@[simp] theorem begun_finish :
    (state.finish frame request rest outer verdict).begun = state.begun :=
  List.append_nil _

@[simp] theorem done_finish :
    (state.finish frame request rest outer verdict).done =
      state.done ++ [request] :=
  rfl

@[simp] theorem made_finish :
    (state.finish frame request rest outer verdict).made = state.made :=
  List.append_nil _

@[simp] theorem taken_finish :
    (state.finish frame request rest outer verdict).taken = state.taken :=
  List.append_nil _

end Fields

theorem renewal_cases (state : Refreshing) (work : FrameWork) :
    state.renewal work = [] ∨
      ∃ again, state.renewal work = [⟨state.nextTicket, again⟩] := by
  cases work with
  | once routine => exact Or.inl rfl
  | turn task =>
      cases hstopped : state.stopped
      · exact Or.inr ⟨.turn task, by simp [renewal, hstopped]⟩
      · exact Or.inl (by simp [renewal, hstopped])

/-- The tickets of the queue have been drawn in its order. -/
structure Ticketed (state : Refreshing) : Prop where
  increasing : (state.queue.map (·.ticket)).Pairwise (· < ·)
  bound : ∀ request ∈ state.queue, request.ticket < state.nextTicket

/-- The requests made in a run have tickets of their own, in the order in which
they were made, and are taken in this order.  Unless refreshes are stopped, what
has not been taken is queued. -/
structure Numbered (start state : Refreshing) : Prop where
  kept : state.stopped = false →
    start.queue ++ state.made = state.taken ++ state.queue
  subset : (state.taken ++ state.queue).Sublist (start.queue ++ state.made)
  increasing : ((start.queue ++ state.made).map (·.ticket)).Pairwise (· < ·)
  bound : ∀ request ∈ start.queue ++ state.made,
    request.ticket < state.nextTicket

namespace Numbered

variable {start state next : Refreshing}

theorem refl (hjournal : start.journal = []) (hticketed : start.Ticketed) :
    Numbered start start := by
  have hmade : start.made = [] := by rw [made, hjournal, chronicle_nil]
  have htaken : start.taken = [] := by rw [taken, hjournal, chronicle_nil]
  constructor
  · intro _
    rw [hmade, htaken, List.append_nil, List.nil_append]
  · rw [hmade, htaken, List.append_nil, List.nil_append]
  · rw [hmade, List.append_nil]
    exact hticketed.increasing
  · rw [hmade, List.append_nil]
    exact hticketed.bound

/-- Making one more request, or none. -/
theorem make {fresh : List FrameRequest} (h : Numbered start state)
    (hfresh : fresh = [] ∨ ∃ work, fresh = [⟨state.nextTicket, work⟩])
    (hqueue : next.queue = state.queue ++ fresh)
    (hmade : next.made = state.made ++ fresh)
    (hticket : next.nextTicket = state.nextTicket + fresh.length)
    (hstopped : next.stopped = state.stopped)
    (htaken : next.taken = state.taken) : Numbered start next := by
  constructor
  · intro hrun
    rw [hstopped] at hrun
    rw [hqueue, hmade, htaken, ← List.append_assoc, h.kept hrun,
      List.append_assoc]
  · rw [hqueue, hmade, htaken, ← List.append_assoc, ← List.append_assoc]
    exact h.subset.append (.refl fresh)
  · rw [hmade, ← List.append_assoc, List.map_append, List.pairwise_append]
    refine ⟨h.increasing, ?_, ?_⟩
    · rcases hfresh with rfl | ⟨work, rfl⟩ <;> simp
    · intro before hbefore after hafter
      obtain ⟨request, hrequest, rfl⟩ := List.mem_map.mp hbefore
      rcases hfresh with rfl | ⟨work, rfl⟩
      · simp at hafter
      · simp only [List.map_cons, List.map_nil, List.mem_singleton] at hafter
        rw [hafter]
        exact h.bound request hrequest
  · intro request hrequest
    rw [hmade, ← List.append_assoc, List.mem_append] at hrequest
    rw [hticket]
    rcases hrequest with hold | hnew
    · have hbound := h.bound request hold
      omega
    · rcases hfresh with rfl | ⟨work, rfl⟩
      · simp at hnew
      · rw [List.mem_singleton.mp hnew]
        simp

theorem congr (h : Numbered start state) (hqueue : next.queue = state.queue)
    (hmade : next.made = state.made)
    (hticket : next.nextTicket = state.nextTicket)
    (hstopped : next.stopped = state.stopped)
    (htaken : next.taken = state.taken) : Numbered start next := by
  refine h.make (Or.inl rfl) ?_ ?_ hticket hstopped htaken
  · rw [hqueue, List.append_nil]
  · rw [hmade, List.append_nil]

theorem step {orderly : Bool} (h : Numbered start state)
    (hstep : Step orderly state next) : Numbered start next := by
  cases hstep with
  | @aside event hfacet =>
      have hnone := Event.no_request hfacet
      refine h.congr rfl ?_ rfl rfl ?_
      · simp [made, note, hnone]
      · simp [taken, note, hnone]
  | ask routine =>
      exact h.make (Or.inr ⟨_, rfl⟩) rfl rfl rfl rfl (List.append_nil _)
  | recur body =>
      exact h.make (Or.inr ⟨_, rfl⟩) rfl rfl rfl rfl (List.append_nil _)
  | stop =>
      have hmade : state.stop.made = state.made := List.append_nil _
      have htaken : state.stop.taken = state.taken := List.append_nil _
      constructor
      · exact fun hrun => Bool.noConfusion hrun
      · rw [hmade, htaken]
        exact (List.Sublist.append (.refl _) (List.nil_sublist _)).trans h.subset
      · rw [hmade]
        exact h.increasing
      · rw [hmade]
        exact h.bound
  | opens frame hattended =>
      have hmade : (state.openBatch frame).made = state.made := List.append_nil _
      have htaken : (state.openBatch frame).taken ++ [] =
          state.taken ++ state.queue := List.append_nil _
      constructor
      · intro hrun
        rw [hmade, h.kept hrun]
        exact htaken.symm
      · rw [hmade]
        show ((state.openBatch frame).taken ++ []).Sublist _
        rw [htaken]
        exact h.subset
      · rw [hmade]
        exact h.increasing
      · rw [hmade]
        exact h.bound
  | @begins frame request rest outer hbatches hstart =>
      have htold := told_started (state.begin frame request rest outer)
        request.work
      refine h.congr ?_ ?_ ?_ ?_ ?_
      · exact queue_started _ request.work
      · exact htold.1.trans (made_begin ..)
      · exact nextTicket_started _ request.work
      · exact stopped_started _ request.work
      · exact htold.2.1.trans (taken_begin ..)
  | @finishes frame request rest outer verdict hbatches =>
      refine h.make (state.renewal_cases request.work) ?_ ?_ ?_ ?_ ?_
      · exact queue_worked _ request.work
      · exact (made_finish ..).trans (made_worked _ request.work)
      · exact nextTicket_worked _ request.work
      · exact stopped_worked _ request.work
      · exact (taken_finish ..).trans (told_worked _ request.work).1
  | @refuses frame request rest outer task body verdict hbatches hwork hexecuting =>
      refine h.make (state.renewal_cases (.turn task)) ?_ ?_ ?_ ?_ ?_
      · exact queue_requestAgain _ task
      · rw [made_finish, made_requestAgain, made_begin]
        rfl
      · exact nextTicket_requestAgain _ task
      · exact stopped_requestAgain _ task
      · rw [taken_finish, (told_requestAgain _ task).1, taken_begin]
  | @vanishes frame request rest outer task verdict hbatches hwork hnone =>
      refine h.congr rfl ?_ rfl rfl ?_
      · rw [made_finish, made_begin]
      · rw [taken_finish, taken_begin]
  | @aborts frame request rest outer horderly hbatches =>
      refine h.make (state.renewal_cases request.work) ?_ ?_ ?_ ?_ ?_
      · exact queue_worked _ request.work
      · exact made_worked _ request.work
      · exact nextTicket_worked _ request.work
      · exact stopped_worked _ request.work
      · exact (told_worked _ request.work).1
  | closes hrest hbatches => exact h.congr rfl rfl rfl rfl rfl

end Numbered

/-- Each request taken in a run has begun or waits, and each one begun has ended
or is having its turn.  Only where things do not go by order can requests be lost
on the way. -/
structure Accounted (orderly : Bool) (start state : Refreshing) : Prop where
  begun_le : ∀ request,
    state.begun.count request + state.waiting.count request ≤
      start.waiting.count request + state.taken.count request
  begun_eq : orderly = true → ∀ request,
    state.begun.count request + state.waiting.count request =
      start.waiting.count request + state.taken.count request
  done_le : ∀ request,
    state.done.count request + state.current.count request ≤
      start.current.count request + state.begun.count request
  done_eq : orderly = true → ∀ request,
    state.done.count request + state.current.count request =
      start.current.count request + state.begun.count request

namespace Accounted

variable {orderly : Bool} {start state next : Refreshing}

theorem refl (hjournal : start.journal = []) :
    Accounted orderly start start := by
  have htaken : start.taken = [] := by rw [taken, hjournal, chronicle_nil]
  have hbegun : start.begun = [] := by rw [begun, hjournal, chronicle_nil]
  have hdone : start.done = [] := by rw [done, hjournal, chronicle_nil]
  constructor <;> simp [htaken, hbegun, hdone]

/-- Some requests are taken, some begin and some end; what leaves the batches
has begun or ended, or is lost. -/
theorem move (h : Accounted orderly start state)
    (opened began ended : List FrameRequest)
    (htaken : next.taken = state.taken ++ opened)
    (hbegun : next.begun = state.begun ++ began)
    (hdone : next.done = state.done ++ ended)
    (hwaiting : ∀ request,
      began.count request + next.waiting.count request ≤
          state.waiting.count request + opened.count request ∧
        (orderly = true →
          began.count request + next.waiting.count request =
            state.waiting.count request + opened.count request))
    (hcurrent : ∀ request,
      ended.count request + next.current.count request ≤
          state.current.count request + began.count request ∧
        (orderly = true →
          ended.count request + next.current.count request =
            state.current.count request + began.count request)) :
    Accounted orderly start next := by
  constructor
  · intro request
    have hbefore := h.begun_le request
    have hmoved := (hwaiting request).1
    rw [hbegun, htaken, List.count_append, List.count_append]
    omega
  · intro horderly request
    have hbefore := h.begun_eq horderly request
    have hmoved := (hwaiting request).2 horderly
    rw [hbegun, htaken, List.count_append, List.count_append]
    omega
  · intro request
    have hbefore := h.done_le request
    have hmoved := (hcurrent request).1
    rw [hdone, hbegun, List.count_append, List.count_append]
    omega
  · intro horderly request
    have hbefore := h.done_eq horderly request
    have hmoved := (hcurrent request).2 horderly
    rw [hdone, hbegun, List.count_append, List.count_append]
    omega

theorem congr (h : Accounted orderly start state)
    (hbatches : next.batches = state.batches) (htaken : next.taken = state.taken)
    (hbegun : next.begun = state.begun) (hdone : next.done = state.done) :
    Accounted orderly start next := by
  have hwaiting : next.waiting = state.waiting := by rw [waiting, hbatches, waiting]
  have hcurrent : next.current = state.current := by rw [current, hbatches, current]
  apply h.move [] [] []
  · rw [htaken, List.append_nil]
  · rw [hbegun, List.append_nil]
  · rw [hdone, List.append_nil]
  · simp [hwaiting]
  · simp [hcurrent]

section Request

variable {frame : FrameTime} {request : FrameRequest} {rest : List FrameRequest}
  {outer : List Batch}

theorem begin (h : Accounted orderly start state)
    (hbatches : state.batches = ⟨frame, none, request :: rest⟩ :: outer) :
    Accounted orderly start (state.begin frame request rest outer) := by
  apply h.move [] [request] []
  · rw [taken_begin, List.append_nil]
  · rw [begun_begin]
  · rw [done_begin, List.append_nil]
  · intro other
    simp [waiting, hbatches, List.count_cons]
    omega
  · intro other
    simp [current, hbatches, List.count_cons]

theorem ends (h : Accounted orderly start state)
    (hbatches : state.batches = ⟨frame, some request, rest⟩ :: outer)
    (hnext : next.batches = ⟨frame, none, rest⟩ :: outer)
    (htaken : next.taken = state.taken) (hbegun : next.begun = state.begun)
    (hdone : next.done = state.done ++ [request]) :
    Accounted orderly start next := by
  apply h.move [] [] [request]
  · rw [htaken, List.append_nil]
  · rw [hbegun, List.append_nil]
  · exact hdone
  · intro other
    simp [waiting, hbatches, hnext]
  · intro other
    simp [current, hbatches, hnext, List.count_cons]
    omega

end Request

theorem step (h : Accounted orderly start state)
    (hstep : Step orderly state next) : Accounted orderly start next := by
  cases hstep with
  | @aside event hfacet =>
      have hnone := Event.no_request hfacet
      refine h.congr rfl ?_ ?_ ?_
      · simp [taken, note, hnone]
      · simp [begun, note, hnone]
      · simp [done, note, hnone]
  | ask routine =>
      exact h.congr rfl (List.append_nil _) (List.append_nil _)
        (List.append_nil _)
  | recur body =>
      exact h.congr rfl (List.append_nil _) (List.append_nil _)
        (List.append_nil _)
  | stop =>
      exact h.congr rfl (List.append_nil _) (List.append_nil _)
        (List.append_nil _)
  | opens frame hattended =>
      apply h.move state.queue [] [] rfl rfl rfl
      · simp [waiting, openBatch, Nat.add_comm]
      · simp [current, openBatch]
  | @begins frame request rest outer hbatches hstart =>
      have htold := told_started (state.begin frame request rest outer)
        request.work
      exact (h.begin hbatches).congr (batches_started _ request.work) htold.2.1
        htold.2.2.1 htold.2.2.2
  | @finishes frame request rest outer verdict hbatches =>
      have htold := told_worked state request.work
      apply h.ends hbatches (batches_finish ..)
      · rw [taken_finish, htold.1]
      · rw [begun_finish, htold.2.1]
      · rw [done_finish, htold.2.2]
  | @refuses frame request rest outer task body verdict hbatches hwork hexecuting =>
      have htold := told_requestAgain (state.begin frame request rest outer) task
      apply (h.begin hbatches).ends rfl (batches_finish ..)
      · rw [taken_finish, htold.1]
      · rw [begun_finish, htold.2.1]
      · rw [done_finish, htold.2.2]
  | @vanishes frame request rest outer task verdict hbatches hwork hnone =>
      exact (h.begin hbatches).ends rfl (batches_finish ..) (taken_finish ..)
        (begun_finish ..) (done_finish ..)
  | @aborts frame request rest outer horderly hbatches =>
      have htold := told_worked state request.work
      apply h.move [] [] []
      · exact htold.1.trans (List.append_nil _).symm
      · exact htold.2.1.trans (List.append_nil _).symm
      · exact htold.2.2.trans (List.append_nil _).symm
      · intro other
        simp [waiting, withBatches, hbatches]
      · intro other
        simp [current, withBatches, hbatches, horderly, List.count_cons]
  | @closes frame rest outer hrest hbatches =>
      apply h.move [] [] []
      · exact (List.append_nil _).symm
      · exact (List.append_nil _).symm
      · exact (List.append_nil _).symm
      · intro other
        constructor
        · simp [waiting, withBatches, hbatches]
        · intro horderly
          simp [waiting, withBatches, hbatches, hrest horderly]
      · intro other
        simp [current, withBatches, hbatches]

end Accounted

/-! ### Runs and their own events -/

section Rebase

variable (state : Refreshing)

/-- The state with another past. -/
def withJournal (journal : List Event) : Refreshing := { state with journal }

theorem requestAgain_withJournal (task : Nat) : ∃ newer, ∀ journal,
    (state.withJournal journal).requestAgain task =
      (state.requestAgain task).withJournal (newer ++ journal) := by
  cases hstopped : state.stopped
  · refine ⟨[.requested ⟨state.nextTicket, .turn task⟩], fun journal => ?_⟩
    simp [requestAgain, withJournal, request, hstopped]
  · exact ⟨[], fun journal => by simp [requestAgain, withJournal, hstopped]⟩

theorem worked_withJournal (work : FrameWork) : ∃ newer, ∀ journal,
    (state.withJournal journal).worked work =
      (state.worked work).withJournal (newer ++ journal) := by
  cases work with
  | once routine => exact ⟨[], fun journal => rfl⟩
  | turn task =>
      obtain ⟨newer, hagain⟩ := requestAgain_withJournal
        ((state.mark task false).note (.left (.task task))) task
      refine ⟨newer ++ [.left (.task task)], fun journal => ?_⟩
      have hleft := hagain (.left (.task task) :: journal)
      rw [List.append_assoc]
      exact hleft

theorem started_withJournal (work : FrameWork) : ∃ newer, ∀ journal,
    (state.withJournal journal).started work =
      (state.started work).withJournal (newer ++ journal) := by
  cases work with
  | once routine => exact ⟨[], fun journal => rfl⟩
  | turn task => exact ⟨[.entered (.task task)], fun journal => rfl⟩

variable {state} {next : Refreshing} {orderly : Bool}

/-- No step looks at the past. -/
theorem Step.withJournal (h : Step orderly state next) :
    ∃ newer, next.journal = newer ++ state.journal ∧ ∀ journal,
      Step orderly (state.withJournal journal)
        (next.withJournal (newer ++ journal)) := by
  cases h with
  | @aside event hfacet => exact ⟨[event], rfl, fun _ => .aside hfacet⟩
  | ask routine => exact ⟨[_], rfl, fun _ => .ask routine⟩
  | recur body => exact ⟨[_], rfl, fun _ => .recur body⟩
  | stop => exact ⟨[_], rfl, fun _ => .stop⟩
  | opens frame hattended => exact ⟨[_], rfl, fun _ => .opens frame hattended⟩
  | @begins frame request rest outer hbatches hstart =>
      obtain ⟨newer, hstarted⟩ := started_withJournal
        (state.begin frame request rest outer) request.work
      refine ⟨newer ++ [.began frame request], ?_, fun journal => ?_⟩
      · rw [List.append_assoc]
        exact congrArg Refreshing.journal
          (hstarted (.began frame request :: state.journal))
      · have hstep : Step orderly (state.withJournal journal) _ :=
          .begins hbatches hstart
        rw [List.append_assoc]
        exact (hstarted (.began frame request :: journal)) ▸ hstep
  | @finishes frame request rest outer verdict hbatches =>
      obtain ⟨newer, hover⟩ := worked_withJournal state request.work
      refine ⟨.ended frame request verdict :: newer, ?_, fun journal => ?_⟩
      · exact congrArg (.ended frame request verdict :: Refreshing.journal ·)
          (hover state.journal)
      · have hstep : Step orderly (state.withJournal journal) _ :=
          .finishes verdict hbatches
        rw [hover] at hstep
        exact hstep
  | @refuses frame request rest outer task body verdict hbatches hwork hexecuting =>
      obtain ⟨newer, hagain⟩ := requestAgain_withJournal
        (state.begin frame request rest outer) task
      refine ⟨.ended frame request verdict :: (newer ++ [.began frame request]),
        ?_, fun journal => ?_⟩
      · rw [List.cons_append, List.append_assoc]
        exact congrArg (.ended frame request verdict :: Refreshing.journal ·)
          (hagain (.began frame request :: state.journal))
      · have hstep : Step orderly (state.withJournal journal) _ :=
          .refuses verdict hbatches hwork hexecuting
        have hbegun : ((state.withJournal journal).begin frame request rest
            outer).requestAgain task = _ :=
          hagain (.began frame request :: journal)
        rw [hbegun] at hstep
        rw [List.cons_append, List.append_assoc]
        exact hstep
  | @vanishes frame request rest outer task verdict hbatches hwork hnone =>
      exact ⟨[_, _], rfl, fun _ => .vanishes verdict hbatches hwork hnone⟩
  | @aborts frame request rest outer horderly hbatches =>
      obtain ⟨newer, hover⟩ := worked_withJournal state request.work
      refine ⟨newer, ?_, fun journal => ?_⟩
      · exact congrArg Refreshing.journal (hover state.journal)
      · have hstep : Step orderly (state.withJournal journal) _ :=
          .aborts horderly hbatches
        rw [hover] at hstep
        exact hstep
  | closes hrest hbatches => exact ⟨[], rfl, fun _ => .closes hrest hbatches⟩

/-- A run can be taken by itself, with its own events alone. -/
theorem Steps.alone (h : Steps orderly state next) :
    ∃ newer, next.journal = newer ++ state.journal ∧
      Steps orderly (state.withJournal []) (next.withJournal newer) := by
  induction h with
  | refl => exact ⟨[], rfl, .refl⟩
  | tail _ hstep ih =>
      obtain ⟨newer, hjournal, hsteps⟩ := ih
      obtain ⟨newest, hnext, hmoves⟩ := hstep.withJournal
      refine ⟨newest ++ newer, ?_, hsteps.tail (hmoves newer)⟩
      rw [hnext, hjournal, List.append_assoc]

end Rebase

section Runs

variable {orderly : Bool} {start state : Refreshing}

theorem Steps.numbered (hsteps : Steps orderly start state)
    (hjournal : start.journal = []) (hticketed : start.Ticketed) :
    Numbered start state := by
  induction hsteps with
  | refl => exact .refl hjournal hticketed
  | tail _ hstep ih => exact ih.step hstep

theorem Steps.accounted (hsteps : Steps orderly start state)
    (hjournal : start.journal = []) : Accounted orderly start state := by
  induction hsteps with
  | refl => exact .refl hjournal
  | tail _ hstep ih => exact ih.step hstep

theorem Numbered.nodup (h : Numbered start state) :
    (state.taken ++ state.queue).Nodup := by
  have htickets : ((start.queue ++ state.made).map (·.ticket)).Nodup :=
    h.increasing.imp fun hlt => Nat.ne_of_lt hlt
  exact (List.Nodup.of_map _ htickets).sublist h.subset

theorem Numbered.ticketed (h : Numbered start state) : state.Ticketed := by
  have hqueue := (List.sublist_append_right _ _).trans h.subset
  exact ⟨h.increasing.sublist (hqueue.map _),
    fun request hrequest => h.bound request (hqueue.subset hrequest)⟩

theorem Steps.ticketed (hsteps : Steps orderly start state)
    (h : start.Ticketed) : state.Ticketed := by
  obtain ⟨newer, _, halone⟩ := Steps.alone hsteps
  have hnumbered := Steps.numbered halone rfl ⟨h.increasing, h.bound⟩
  exact ⟨hnumbered.ticketed.increasing, hnumbered.ticketed.bound⟩

end Runs

end Refreshing

/-! ### What the journal says of a request -/

namespace Refresher

/-- A refresh took a request. -/
def Took (events : List Event) (request : FrameRequest) : Prop :=
  ∃ frame requests, Event.refreshOpened frame requests ∈ events ∧
    request ∈ requests

/-- A request had its turn, or at least the start of it. -/
def Began (events : List Event) (request : FrameRequest) : Prop :=
  ∃ frame, Event.began frame request ∈ events

/-- A request had its turn, to the end of it. -/
def Ended (events : List Event) (request : FrameRequest) : Prop :=
  ∃ frame verdict, Event.ended frame request verdict ∈ events

end Refresher

namespace Refreshing

open Refresher

variable {state : Refreshing}

theorem mem_made {request : FrameRequest} :
    request ∈ state.made ↔ .requested request ∈ state.journal := by
  rw [made, mem_chronicle]
  constructor
  · rintro ⟨event, hevent, hmade⟩
    cases event with
    | requested other =>
        rw [List.mem_singleton.mp hmade]
        exact hevent
    | _ => cases hmade
  · exact fun hevent => ⟨_, hevent, List.mem_singleton_self _⟩

theorem mem_taken {request : FrameRequest} :
    request ∈ state.taken ↔ Took state.journal request := by
  rw [taken, mem_chronicle]
  constructor
  · rintro ⟨event, hevent, htaken⟩
    cases event with
    | refreshOpened frame requests => exact ⟨frame, requests, hevent, htaken⟩
    | _ => cases htaken
  · rintro ⟨frame, requests, hevent, hrequest⟩
    exact ⟨_, hevent, hrequest⟩

theorem mem_begun {request : FrameRequest} :
    request ∈ state.begun ↔ Began state.journal request := by
  rw [begun, mem_chronicle]
  constructor
  · rintro ⟨event, hevent, hbegun⟩
    cases event with
    | began frame other =>
        rw [List.mem_singleton.mp hbegun]
        exact ⟨frame, hevent⟩
    | _ => cases hbegun
  · rintro ⟨frame, hevent⟩
    exact ⟨_, hevent, List.mem_singleton_self _⟩

theorem mem_done {request : FrameRequest} :
    request ∈ state.done ↔ Ended state.journal request := by
  rw [done, mem_chronicle]
  constructor
  · rintro ⟨event, hevent, hdone⟩
    cases event with
    | ended frame other verdict =>
        rw [List.mem_singleton.mp hdone]
        exact ⟨frame, verdict, hevent⟩
    | _ => cases hdone
  · rintro ⟨frame, verdict, hevent⟩
    exact ⟨_, hevent, List.mem_singleton_self _⟩

end Refreshing

end Cadence
