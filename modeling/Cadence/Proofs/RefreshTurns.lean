import Cadence.Proofs.RefreshLedger

/-!
Turns.  Read from the queue through the batches under way, the innermost first,
the outstanding turns of the tasks stand in a line that hardly ever changes: new
tasks enter at the end of its queued part, and turns leave it only when refreshes
are stopped or a batch is cut short.
-/

namespace Cadence

/-- The task whose turn it is. -/
def FrameRequest.task? (request : FrameRequest) : Option Nat :=
  match request.work with
  | .once _ => none
  | .turn task => some task

/-- The tasks that have their turns in some requests. -/
def turnsOf (requests : List FrameRequest) : List Nat :=
  requests.filterMap FrameRequest.task?

@[simp] theorem turnsOf_nil : turnsOf [] = [] := rfl

@[simp] theorem turnsOf_append (before after : List FrameRequest) :
    turnsOf (before ++ after) = turnsOf before ++ turnsOf after :=
  List.filterMap_append

theorem turnsOf_cons (request : FrameRequest) (rest : List FrameRequest) :
    turnsOf (request :: rest) = turnsOf [request] ++ turnsOf rest :=
  turnsOf_append [request] rest

theorem turnsOf_turn {request : FrameRequest} {task : Nat}
    (hwork : request.work = .turn task) : turnsOf [request] = [task] := by
  obtain ⟨ticket, work⟩ := request
  cases hwork
  rfl

theorem turnsOf_once {request : FrameRequest} {routine : Nat}
    (hwork : request.work = .once routine) : turnsOf [request] = [] := by
  obtain ⟨ticket, work⟩ := request
  cases hwork
  rfl

theorem mem_turnsOf {requests : List FrameRequest} {task : Nat} :
    task ∈ turnsOf requests ↔ ∃ ticket, ⟨ticket, .turn task⟩ ∈ requests := by
  constructor
  · intro h
    obtain ⟨⟨ticket, work⟩, hrequest, htask⟩ := List.mem_filterMap.mp h
    cases work with
    | once routine => cases htask
    | turn other =>
        cases htask
        exact ⟨ticket, hrequest⟩
  · rintro ⟨ticket, hrequest⟩
    exact List.mem_filterMap.mpr ⟨_, hrequest, rfl⟩

/-- What is still to come of a batch. -/
def Batch.line (batch : Batch) : List FrameRequest :=
  batch.current.toList ++ batch.waiting

namespace Refreshing

/-- The outstanding turns that have been taken by a refresh. -/
def takenTurns (state : Refreshing) : List Nat :=
  turnsOf (state.batches.flatMap Batch.line)

/-- All outstanding turns. -/
def turns (state : Refreshing) : List Nat :=
  turnsOf state.queue ++ state.takenTurns

variable {state next : Refreshing} {orderly : Bool}

theorem takenTurns_of_batches {frame : FrameTime} {current : Option FrameRequest}
    {waiting : List FrameRequest} {outer : List Batch}
    (hbatches : state.batches = ⟨frame, current, waiting⟩ :: outer) :
    state.takenTurns = turnsOf current.toList ++
      (turnsOf waiting ++ turnsOf (outer.flatMap Batch.line)) := by
  simp [takenTurns, hbatches, Batch.line]

theorem turnsOf_renewal (hrun : state.stopped = false) (request : FrameRequest) :
    turnsOf (state.renewal request.work) = turnsOf [request] := by
  obtain ⟨ticket, work⟩ := request
  cases work with
  | once routine => rfl
  | turn task => simp [renewal, hrun, turnsOf, FrameRequest.task?]

theorem current_of_batches {frame : FrameTime} {current : Option FrameRequest}
    {waiting : List FrameRequest} {outer : List Batch}
    (hbatches : state.batches = ⟨frame, current, waiting⟩ :: outer) :
    state.current = current.toList ++ outer.flatMap (·.current.toList) := by
  rw [Refreshing.current, hbatches]
  rfl

theorem renewal_of_stopped (hstopped : state.stopped = true) (work : FrameWork) :
    state.renewal work = [] := by
  cases work <;> simp [renewal, hstopped]

/-- The end of work, as far as the line is concerned. -/
theorem turns_worked {frame : FrameTime} {request : FrameRequest}
    {rest : List FrameRequest} {outer : List Batch} (next : Refreshing)
    (hqueue : next.queue = state.queue ++ state.renewal request.work)
    (hbatches : state.batches = ⟨frame, some request, rest⟩ :: outer)
    (hnext : next.batches = ⟨frame, none, rest⟩ :: outer) :
    (state.stopped = false → next.turns = state.turns) ∧
      next.turns.Sublist state.turns := by
  have htaken := takenTurns_of_batches hbatches
  have hleft := takenTurns_of_batches hnext
  have hrenewed (hrun : state.stopped = false) : next.turns = state.turns := by
    rw [turns, turns, hqueue, htaken, hleft, turnsOf_append,
      turnsOf_renewal hrun, List.append_assoc]
    rfl
  refine ⟨hrenewed, ?_⟩
  cases hstopped : state.stopped
  · rw [hrenewed hstopped]
  · rw [turns, turns, hqueue, htaken, hleft, renewal_of_stopped hstopped,
      List.append_nil]
    exact List.Sublist.append (.refl _) (List.sublist_append_right _ _)

/-- A request that begins keeps its place in the line. -/
theorem turns_begin {frame : FrameTime} {request : FrameRequest}
    {rest : List FrameRequest} {outer : List Batch}
    (hbatches : state.batches = ⟨frame, none, request :: rest⟩ :: outer) :
    (state.begin frame request rest outer).turns = state.turns := by
  have hbegun := takenTurns_of_batches
    (batches_begin state frame request rest outer)
  rw [turns, turns, hbegun, takenTurns_of_batches hbatches,
    turnsOf_cons request rest, List.append_assoc]
  rfl

theorem turns_started (work : FrameWork) :
    (state.started work).turns = state.turns := by
  cases work <;> rfl

/-- A new task has its turn behind the queue. -/
theorem turns_recur (body : TaskBody) :
    (state.recur body).turns =
      turnsOf state.queue ++ state.tasks.size :: state.takenTurns := by
  rw [turns, Refreshing.recur, request, turnsOf_append, List.append_assoc]
  rfl

@[simp] theorem tasks_requestAgain (state : Refreshing) (task : Nat) :
    (state.requestAgain task).tasks = state.tasks := by
  unfold requestAgain
  split <;> rfl

theorem size_tasks_requestAgain (state : Refreshing) (task : Nat) :
    (state.requestAgain task).tasks.size = state.tasks.size := by
  rw [tasks_requestAgain]

@[simp] theorem size_tasks_worked (state : Refreshing) (work : FrameWork) :
    (state.worked work).tasks.size = state.tasks.size := by
  cases work with
  | once routine => rfl
  | turn task =>
      rw [worked, size_tasks_requestAgain]
      exact Array.size_modify

@[simp] theorem size_tasks_started (state : Refreshing) (work : FrameWork) :
    (state.started work).tasks.size = state.tasks.size := by
  cases work with
  | once routine => rfl
  | turn task => exact Array.size_modify

/-- A stop is final. -/
theorem Step.run_of_run (h : Step orderly state next)
    (hrun : next.stopped = false) : state.stopped = false := by
  cases h with
  | begins hbatches hstart => rw [← hrun, stopped_started]; rfl
  | finishes verdict hbatches => rw [← hrun, ← stopped_worked]; rfl
  | @refuses frame request rest outer task body verdict hbatches hwork hexecuting =>
      rw [← hrun]
      exact (stopped_requestAgain (state.begin frame request rest outer) task).symm
  | aborts horderly hbatches => rw [← hrun, ← stopped_worked]; rfl
  | stop => exact Bool.noConfusion hrun
  | _ => exact hrun

/-- The tasks with outstanding turns exist, and none has two of them. -/
structure Lined (state : Refreshing) : Prop where
  nodup : state.turns.Nodup
  exist : ∀ task ∈ state.turns, task < state.tasks.size

/-- What a step does to the line: nothing, or it shortens it where things end, or
it puts a new task behind the queue. -/
theorem Step.turns_cases (h : Step orderly state next) (hlined : state.Lined) :
    (next.turns = state.turns ∧ next.tasks.size = state.tasks.size) ∨
      (next.turns.Sublist state.turns ∧ next.tasks.size = state.tasks.size ∧
        (orderly = true → next.stopped = true)) ∨
      (next.turns =
          turnsOf state.queue ++ state.tasks.size :: state.takenTurns ∧
        next.tasks.size = state.tasks.size + 1) := by
  cases h with
  | @aside event hfacet => exact Or.inl ⟨rfl, rfl⟩
  | ask routine =>
      refine Or.inl ⟨?_, rfl⟩
      rw [turns, request, turnsOf_append]
      exact congrArg (· ++ state.takenTurns) (List.append_nil _)
  | recur body =>
      exact Or.inr (Or.inr ⟨turns_recur body, Array.size_push _⟩)
  | stop =>
      exact Or.inr (Or.inl ⟨List.sublist_append_right _ _, rfl, fun _ => rfl⟩)
  | opens frame hattended =>
      refine Or.inl ⟨?_, rfl⟩
      simp [turns, takenTurns, openBatch, Batch.line]
  | @begins frame request rest outer hbatches hstart =>
      refine Or.inl ⟨?_, size_tasks_started _ request.work⟩
      rw [turns_started, turns_begin hbatches]
  | @finishes frame request rest outer verdict hbatches =>
      have hline := turns_worked
        ((state.worked request.work).finish frame request rest outer verdict)
        (queue_worked state request.work) hbatches rfl
      cases hstopped : state.stopped
      · exact Or.inl ⟨hline.1 hstopped, size_tasks_worked _ request.work⟩
      · refine Or.inr (Or.inl ⟨hline.2, size_tasks_worked _ request.work, fun _ => ?_⟩)
        exact (stopped_worked state request.work).trans hstopped
  | @refuses frame request rest outer task body verdict hbatches hwork hexecuting =>
      have hqueue := queue_requestAgain (state.begin frame request rest outer) task
      rw [← hwork] at hqueue
      have hline := turns_worked (((state.begin frame request rest
        outer).requestAgain task).finish frame request rest outer verdict)
        hqueue rfl rfl
      rw [turns_begin hbatches] at hline
      cases hstopped : state.stopped
      · exact Or.inl ⟨hline.1 hstopped, size_tasks_requestAgain _ task⟩
      · refine Or.inr (Or.inl
          ⟨hline.2, size_tasks_requestAgain _ task, fun _ => ?_⟩)
        exact (stopped_requestAgain _ task).trans hstopped
  | @vanishes frame request rest outer task verdict hbatches hwork hnone =>
      -- Does not happen: tasks in the line exist.
      have htask : task ∈ state.turns := by
        apply List.mem_append_right
        rw [takenTurns_of_batches hbatches, turnsOf_cons, turnsOf_turn hwork]
        simp
      have hsize := hlined.exist task htask
      rw [Array.getElem?_eq_none_iff] at hnone
      omega
  | @aborts frame request rest outer horderly hbatches =>
      have hline := turns_worked
        ((state.worked request.work).withBatches (⟨frame, none, rest⟩ :: outer))
        (queue_worked state request.work) hbatches rfl
      refine Or.inr (Or.inl ⟨hline.2, size_tasks_worked _ request.work, ?_⟩)
      rw [horderly]
      exact fun hgoes => Bool.noConfusion hgoes
  | @closes frame rest outer hrest hbatches =>
      have hline := takenTurns_of_batches hbatches
      cases hgoes : orderly
      · refine Or.inr (Or.inl ⟨?_, rfl, fun horderly => Bool.noConfusion horderly⟩)
        rw [turns, turns, hline]
        exact List.Sublist.append (.refl _) (List.sublist_append_right _ _)
      · refine Or.inl ⟨?_, rfl⟩
        rw [turns, turns, hline, hrest hgoes]
        rfl

theorem Lined.step (h : state.Lined) (hstep : Step orderly state next) :
    next.Lined := by
  rcases hstep.turns_cases h with ⟨hturns, hsize⟩ | ⟨hturns, hsize, _⟩ |
    ⟨hturns, hsize⟩
  · exact ⟨hturns ▸ h.nodup, by rw [hturns, hsize]; exact h.exist⟩
  · refine ⟨h.nodup.sublist hturns, fun task htask => ?_⟩
    rw [hsize]
    exact h.exist task (hturns.subset htask)
  · have hfresh : state.tasks.size ∉ state.turns :=
      fun hmem => absurd (h.exist _ hmem) (Nat.lt_irrefl _)
    constructor
    · rw [hturns]
      exact (List.nodup_middle).mpr (List.nodup_cons.mpr ⟨hfresh, h.nodup⟩)
    · intro task htask
      rw [hturns, List.mem_append, List.mem_cons] at htask
      rw [hsize]
      rcases htask with hqueued | rfl | htaken
      · exact Nat.lt_succ_of_lt (h.exist task (List.mem_append_left _ hqueued))
      · exact Nat.lt_succ_self _
      · exact Nat.lt_succ_of_lt (h.exist task (List.mem_append_right _ htaken))

theorem Steps.lined (hsteps : Steps orderly state next) (h : state.Lined) :
    next.Lined := by
  induction hsteps with
  | refl => exact h
  | tail _ hstep ih => exact ih.step hstep

/-- Each turn of an old task that begins in a run leads to one request of the
next turn, unless refreshes are stopped. -/
structure Renewed (start state : Refreshing) : Prop where
  grown : start.tasks.size ≤ state.tasks.size
  turns : state.stopped = false → ∀ task < start.tasks.size,
    (turnsOf state.made).count task + (turnsOf state.current).count task =
      (turnsOf start.current).count task + (turnsOf state.begun).count task

namespace Renewed

variable {start : Refreshing}

theorem refl (hjournal : start.journal = []) : Renewed start start := by
  refine ⟨Nat.le_refl _, fun _ task _ => ?_⟩
  simp [made, begun, hjournal]

theorem move (h : Renewed start state) (fresh began : List FrameRequest)
    (hmade : next.made = state.made ++ fresh)
    (hbegun : next.begun = state.begun ++ began)
    (hsize : state.tasks.size ≤ next.tasks.size)
    (hstopped : next.stopped = state.stopped)
    (hcount : state.stopped = false → ∀ task < start.tasks.size,
      (turnsOf fresh).count task + (turnsOf next.current).count task =
        (turnsOf state.current).count task + (turnsOf began).count task) :
    Renewed start next := by
  refine ⟨Nat.le_trans h.grown hsize, fun hrun task htask => ?_⟩
  rw [hstopped] at hrun
  have hbefore := h.turns hrun task htask
  have hmoved := hcount hrun task htask
  rw [hmade, hbegun, turnsOf_append, turnsOf_append, List.count_append,
    List.count_append]
  omega

theorem congr (h : Renewed start state) (hmade : next.made = state.made)
    (hbegun : next.begun = state.begun)
    (hsize : next.tasks.size = state.tasks.size)
    (hstopped : next.stopped = state.stopped)
    (hcurrent : next.current = state.current) : Renewed start next := by
  refine h.move [] [] ?_ ?_ (Nat.le_of_eq hsize.symm) hstopped ?_
  · rw [hmade, List.append_nil]
  · rw [hbegun, List.append_nil]
  · intro _ task _
    rw [hcurrent, Nat.add_comm]

section Request

variable {frame : FrameTime} {request : FrameRequest} {rest : List FrameRequest}
  {outer : List Batch}

theorem begin (h : Renewed start state)
    (hbatches : state.batches = ⟨frame, none, request :: rest⟩ :: outer) :
    Renewed start (state.begin frame request rest outer) := by
  apply h.move [] [request]
  · rw [made_begin, List.append_nil]
  · rw [begun_begin]
  · exact Nat.le_refl _
  · rfl
  · intro _ task _
    rw [current_of_batches (batches_begin state frame request rest outer),
      current_of_batches hbatches, turnsOf_append, turnsOf_append,
      List.count_append, List.count_append]
    simp [Nat.add_comm]

/-- When a request ends, the next turn of its task has been made. -/
theorem ends (h : Renewed start state) (fresh : List FrameRequest)
    (hbatches : state.batches = ⟨frame, some request, rest⟩ :: outer)
    (hnext : next.batches = ⟨frame, none, rest⟩ :: outer)
    (hmade : next.made = state.made ++ fresh) (hbegun : next.begun = state.begun)
    (hsize : next.tasks.size = state.tasks.size)
    (hstopped : next.stopped = state.stopped)
    (hfresh : state.stopped = false → ∀ task < start.tasks.size,
      (turnsOf fresh).count task = (turnsOf [request]).count task) :
    Renewed start next := by
  apply h.move fresh [] hmade
  · rw [hbegun, List.append_nil]
  · exact Nat.le_of_eq hsize.symm
  · exact hstopped
  · intro hrun task htask
    rw [hfresh hrun task htask, current_of_batches hnext,
      current_of_batches hbatches, turnsOf_append, turnsOf_append,
      List.count_append, List.count_append]
    simp

end Request

theorem step (h : Renewed start state) (hstep : Step orderly state next) :
    Renewed start next := by
  cases hstep with
  | @aside event hfacet =>
      have hnone := Event.no_request hfacet
      refine h.congr ?_ ?_ rfl rfl rfl
      · simp [made, note, hnone]
      · simp [begun, note, hnone]
  | ask routine =>
      refine h.move [⟨state.nextTicket, .once routine⟩] [] rfl rfl
        (Nat.le_refl _) rfl ?_
      exact fun _ task _ => Nat.add_comm _ _
  | recur body =>
      have hsize : (state.recur body).tasks.size = state.tasks.size + 1 :=
        Array.size_push _
      refine h.move [⟨state.nextTicket, .turn state.tasks.size⟩] [] rfl rfl
        (by omega) rfl ?_
      intro _ task htask
      have hgrown := h.grown
      have hother : state.tasks.size ≠ task := by omega
      have hnone : (turnsOf [⟨state.nextTicket, .turn state.tasks.size⟩]).count
          task = 0 := by
        rw [turnsOf_turn rfl]
        simp [hother]
      rw [hnone]
      exact Nat.add_comm _ _
  | stop =>
      exact ⟨h.grown, fun hrun => Bool.noConfusion hrun⟩
  | opens frame hattended =>
      exact h.congr (List.append_nil _) (List.append_nil _) rfl rfl rfl
  | @begins frame request rest outer hbatches hstart =>
      have htold := told_started (state.begin frame request rest outer)
        request.work
      apply (h.begin hbatches).congr htold.1 htold.2.2.1
      · exact size_tasks_started _ request.work
      · exact stopped_started _ request.work
      · rw [current, batches_started, current]
  | @finishes frame request rest outer verdict hbatches =>
      apply h.ends (state.renewal request.work) hbatches (batches_finish ..)
      · exact (made_finish ..).trans (made_worked state request.work)
      · exact (begun_finish ..).trans (told_worked state request.work).2.1
      · exact size_tasks_worked _ request.work
      · exact stopped_worked _ request.work
      · exact fun hrun task _ => by rw [turnsOf_renewal hrun]
  | @refuses frame request rest outer task body verdict hbatches hwork hexecuting =>
      apply (h.begin hbatches).ends (state.renewal (.turn task)) rfl
        (batches_finish ..)
      · exact (made_finish ..).trans (made_requestAgain _ task)
      · exact (begun_finish ..).trans (told_requestAgain _ task).2.1
      · exact size_tasks_requestAgain _ task
      · exact stopped_requestAgain _ task
      · intro hrun other _
        rw [← hwork]
        exact congrArg (·.count other) (turnsOf_renewal hrun request)
  | @vanishes frame request rest outer task verdict hbatches hwork hnone =>
      apply (h.begin hbatches).ends [] rfl (batches_finish ..)
      · rw [made_finish, List.append_nil]
      · exact begun_finish ..
      · rfl
      · rfl
      · intro _ other hother
        have hgrown := h.grown
        rw [Array.getElem?_eq_none_iff] at hnone
        have hgone : task ≠ other := by omega
        rw [turnsOf_turn hwork]
        simp [hgone]
  | @aborts frame request rest outer horderly hbatches =>
      apply h.ends (state.renewal request.work) hbatches rfl
      · exact made_worked state request.work
      · exact (told_worked state request.work).2.1
      · exact size_tasks_worked _ request.work
      · exact stopped_worked _ request.work
      · exact fun hrun task _ => by rw [turnsOf_renewal hrun]
  | @closes frame rest outer hrest hbatches =>
      refine h.congr rfl rfl rfl rfl ?_
      exact (current_of_batches hbatches).symm

end Renewed

theorem Steps.renewed (hsteps : Steps orderly start state)
    (hjournal : start.journal = []) : Renewed start state := by
  induction hsteps with
  | refl => exact .refl hjournal
  | tail _ hstep ih => exact ih.step hstep

end Refreshing

end Cadence
