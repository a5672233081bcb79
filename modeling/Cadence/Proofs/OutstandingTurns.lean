import Cadence.Proofs.RefreshTurns

/-!
Outstanding turns.  Where refreshes go by order, every task has exactly one turn
queued or in a batch under way until refreshes are stopped, and none is ever found
executing when its turn comes.
-/

namespace Cadence

namespace Refreshing

variable {state next : Refreshing} {orderly : Bool}

/-- Every task is owed a turn, and executes only while it has one. -/
structure Owing (state : Refreshing) : Prop where
  lined : state.Lined
  owed : state.stopped = false → ∀ task < state.tasks.size, task ∈ state.turns
  current : ∀ task body, state.tasks[task]? = some ⟨body, true⟩ →
    task ∈ turnsOf state.current

theorem turnsOf_current_subset (batches : List Batch) :
    turnsOf (batches.flatMap (·.current.toList)) ⊆
      turnsOf (batches.flatMap Batch.line) := by
  induction batches with
  | nil => exact fun _ h => h
  | cons batch outer ih =>
      intro task htask
      rw [List.flatMap_cons, turnsOf_append, List.mem_append] at htask
      rw [List.flatMap_cons, turnsOf_append, Batch.line, turnsOf_append]
      rcases htask with hhead | houter
      · exact List.mem_append_left _ (List.mem_append_left _ hhead)
      · exact List.mem_append_right _ (ih houter)

theorem executing_of_mark {task other : Nat} {body : TaskBody} {executing : Bool}
    (h : (state.mark task executing).tasks[other]? = some ⟨body, true⟩) :
    (other = task ∧ executing = true) ∨
      (other ≠ task ∧ state.tasks[other]? = some ⟨body, true⟩) := by
  rw [mark, Array.getElem?_modify] at h
  split at h
  · rename_i heq
    refine Or.inl ⟨heq.symm, ?_⟩
    obtain ⟨entry, _, hentry⟩ := Option.map_eq_some_iff.mp h
    exact (RecurringTask.mk.inj hentry).2
  · rename_i hne
    exact Or.inr ⟨fun heq => hne heq.symm, h⟩

/-- A task whose turn comes does not execute. -/
theorem Owing.canStart (h : Owing state) {frame : FrameTime}
    {request : FrameRequest} {rest : List FrameRequest} {outer : List Batch}
    (hbatches : state.batches = ⟨frame, none, request :: rest⟩ :: outer) :
    state.CanStart request.work := by
  cases hwork : request.work with
  | once routine => trivial
  | turn task =>
      have htaken : state.takenTurns =
          task :: (turnsOf rest ++ turnsOf (outer.flatMap Batch.line)) := by
        rw [takenTurns_of_batches hbatches, turnsOf_cons, turnsOf_turn hwork]
        rfl
      have hexists : task < state.tasks.size := by
        apply h.lined.exist
        rw [turns, htaken]
        exact List.mem_append_right _ List.mem_cons_self
      rcases hentry : state.tasks[task]? with _ | ⟨body, executing⟩
      · rw [Array.getElem?_eq_none_iff] at hentry
        omega
      · cases executing with
        | false => exact ⟨body, hentry⟩
        | true =>
            have hcurrent := h.current task body hentry
            rw [current_of_batches hbatches] at hcurrent
            have hline := turnsOf_current_subset outer hcurrent
            have hnodup : state.takenTurns.Nodup :=
              List.Nodup.of_append_right h.lined.nodup
            rw [htaken, List.nodup_cons] at hnodup
            exact absurd (List.mem_append_right _ hline) hnodup.1

theorem Owing.not_refused (h : Owing state) {frame : FrameTime}
    {request : FrameRequest} {rest : List FrameRequest} {outer : List Batch}
    {task : Nat} {body : TaskBody}
    (hbatches : state.batches = ⟨frame, none, request :: rest⟩ :: outer)
    (hwork : request.work = .turn task) :
    state.tasks[task]? ≠ some ⟨body, true⟩ := by
  intro hexecuting
  have hstart := h.canStart hbatches
  rw [hwork] at hstart
  obtain ⟨other, hidle⟩ := hstart
  rw [hexecuting] at hidle
  cases hidle

theorem Owing.not_vanished (h : Owing state) {frame : FrameTime}
    {request : FrameRequest} {rest : List FrameRequest} {outer : List Batch}
    {task : Nat}
    (hbatches : state.batches = ⟨frame, none, request :: rest⟩ :: outer)
    (hwork : request.work = .turn task) : state.tasks[task]? ≠ none := by
  intro hnone
  have hstart := h.canStart hbatches
  rw [hwork] at hstart
  obtain ⟨other, hidle⟩ := hstart
  rw [hnone] at hidle
  cases hidle

theorem Owing.owed_step (h : Owing state) (hstep : Step true state next)
    (hrun : next.stopped = false) :
    ∀ task < next.tasks.size, task ∈ next.turns := by
  have howed := h.owed (hstep.run_of_run hrun)
  rcases hstep.turns_cases h.lined with ⟨hturns, hsize⟩ | ⟨_, _, hstopped⟩ |
    ⟨hturns, hsize⟩
  · rw [hturns, hsize]
    exact howed
  · rw [hstopped rfl] at hrun
    exact Bool.noConfusion hrun
  · intro task htask
    rw [hsize] at htask
    rw [hturns, List.mem_append, List.mem_cons]
    rcases Nat.lt_succ_iff_lt_or_eq.mp htask with hold | hnew
    · rcases List.mem_append.mp (howed task hold) with hqueued | htaken
      · exact Or.inl hqueued
      · exact Or.inr (Or.inr htaken)
    · exact Or.inr (Or.inl hnew)

theorem Owing.step (h : Owing state) (hstep : Step true state next) :
    Owing next := by
  refine ⟨h.lined.step hstep, h.owed_step hstep, ?_⟩
  cases hstep with
  | recur body =>
      intro task other hexecuting
      apply h.current task other
      have hpush : (state.tasks.push ⟨body, false⟩)[task]? =
          some ⟨other, true⟩ := hexecuting
      rw [Array.getElem?_push] at hpush
      split at hpush
      · cases hpush
      · exact hpush
  | @begins frame request rest outer hbatches hstart =>
      intro task body hexecuting
      have hcurrent : ((state.begin frame request rest outer).started
          request.work).current =
            request :: outer.flatMap (·.current.toList) :=
        current_of_batches ((batches_started _ request.work).trans
          (batches_begin state frame request rest outer))
      have hbefore : state.current = outer.flatMap (·.current.toList) :=
        current_of_batches hbatches
      rw [hcurrent, ← hbefore, turnsOf_cons, List.mem_append]
      cases hwork : request.work with
      | once routine =>
          rw [hwork] at hexecuting
          exact Or.inr (h.current task body hexecuting)
      | turn other =>
          rw [hwork] at hexecuting
          rcases executing_of_mark hexecuting with ⟨rfl, _⟩ | ⟨_, hold⟩
          · rw [turnsOf_turn hwork]
            exact Or.inl (List.mem_singleton_self _)
          · exact Or.inr (h.current task body hold)
  | @finishes frame request rest outer verdict hbatches =>
      intro task body hexecuting
      have hcurrent := current_of_batches (batches_finish
        (state.worked request.work) frame request rest outer verdict)
      have hbefore : state.current = request :: outer.flatMap (·.current.toList) :=
        current_of_batches hbatches
      rw [hcurrent]
      cases hwork : request.work with
      | once routine =>
          rw [hwork] at hexecuting
          have hmem := h.current task body hexecuting
          rw [hbefore, turnsOf_cons, turnsOf_once hwork] at hmem
          exact hmem
      | turn other =>
          rw [hwork] at hexecuting
          have hmarked : (state.mark other false).tasks[task]? =
              some ⟨body, true⟩ := by
            rw [← hexecuting, worked, finish, note, withBatches, tasks_requestAgain]
            rfl
          rcases executing_of_mark hmarked with ⟨_, hfalse⟩ | ⟨hne, hold⟩
          · exact Bool.noConfusion hfalse
          · have hmem := h.current task body hold
            rw [hbefore, turnsOf_cons, turnsOf_turn hwork, List.mem_append] at hmem
            exact hmem.resolve_left fun heq => hne (List.mem_singleton.mp heq)
  | @refuses frame request rest outer task body verdict hbatches hwork hexecuting =>
      exact absurd hexecuting (h.not_refused hbatches hwork)
  | @vanishes frame request rest outer task verdict hbatches hwork hnone =>
      exact absurd hnone (h.not_vanished hbatches hwork)
  | aborts horderly => cases horderly
  | @closes frame rest outer hrest hbatches =>
      intro task body hexecuting
      have hcurrent := h.current task body hexecuting
      rw [current_of_batches hbatches] at hcurrent
      exact hcurrent
  | _ => exact h.current

end Refreshing

end Cadence
