import Cadence.Proofs.TurnOrder

/-!
The course of refreshes that go by order.  A refresh begins its requests in their
order and leaves none out, and a task that is due is executed.
-/

namespace Cadence

/-- The requests among some that have begun, in the order of their beginnings. -/
def begunOf (events : List Event) (requests : List FrameRequest) :
    List FrameRequest :=
  (chronicle Event.begun events).filter (· ∈ requests)

/-- Events that neither open a refresh nor begin a request. -/
def Event.isIdle : Event → Bool
  | .refreshOpened _ _ => false
  | .began _ _ => false
  | _ => true

section Idle

variable {newer events : List Event}

theorem Event.isIdle_of_facet {event : Event} (hfacet : event.facet ≠ .refreshes) :
    event.isIdle = true := by
  cases event with
  | refreshOpened => exact absurd rfl hfacet
  | began => exact absurd rfl hfacet
  | _ => rfl

theorem chronicle_begun_of_idle (hidle : ∀ event ∈ newer, event.isIdle = true) :
    chronicle Event.begun (newer ++ events) = chronicle Event.begun events := by
  induction newer with
  | nil => rfl
  | cons event newer ih =>
      have hevent := hidle event List.mem_cons_self
      have hrest := ih fun other hother =>
        hidle other (List.mem_cons_of_mem _ hother)
      rw [List.cons_append, chronicle_cons, hrest]
      cases event with
      | began => cases hevent
      | _ => exact List.append_nil _

end Idle

namespace Refreshing

variable {state next : Refreshing}

/-- How a refresher that goes by order moves on: a refresh opens, a request
begins, or neither. -/
inductive Advance (state : Refreshing) : Refreshing → Prop
  | idles {next : Refreshing} (newer : List Event)
      (hjournal : next.journal = newer ++ state.journal)
      (hidle : ∀ event ∈ newer, event.isIdle = true)
      (hstopped : next.stopped = true ↔
        state.stopped = true ∨ .stopped ∈ newer)
      (hwaiting : ∀ batch ∈ state.batches, batch.waiting = [] ∨
        ∃ other ∈ next.batches, other.waiting = batch.waiting) :
      Advance state next
  | opens (frame : FrameTime) (hattended : state.Attended) :
      Advance state (state.openBatch frame)
  | begins {frame request rest outer}
      (hbatches : state.batches = ⟨frame, none, request :: rest⟩ :: outer) :
      Advance state ((state.begin frame request rest outer).started request.work)

theorem Advance.note (newer : List Event)
    (hjournal : next.journal = newer ++ state.journal)
    (hidle : ∀ event ∈ newer, event.isIdle = true)
    (hstopped : next.stopped = state.stopped) (hrun : .stopped ∉ newer)
    (hbatches : next.batches = state.batches) : Advance state next := by
  refine .idles newer hjournal hidle ?_ ?_
  · rw [hstopped]
    exact (or_iff_left hrun).symm
  · intro batch hbatch
    exact Or.inr ⟨batch, hbatches ▸ hbatch, rfl⟩

/-- What the end of work leaves in the journal. -/
theorem journal_worked (state : Refreshing) (work : FrameWork) :
    ∃ newer, (state.worked work).journal = newer ++ state.journal ∧
      (∀ event ∈ newer, event.isIdle = true) ∧ .stopped ∉ newer := by
  cases work with
  | once routine => exact ⟨[], rfl, by simp, by simp⟩
  | turn task =>
      cases hstopped : state.stopped
      · refine ⟨[.requested ⟨state.nextTicket, .turn task⟩,
          .left (.task task)], ?_, by simp [Event.isIdle], by simp⟩
        simp [worked, requestAgain, request, mark, Refreshing.note, hstopped]
      · refine ⟨[.left (.task task)], ?_, by simp [Event.isIdle], by simp⟩
        simp [worked, requestAgain, mark, Refreshing.note, hstopped]

/-- What the start of work leaves in the journal. -/
theorem journal_started (state : Refreshing) (frame : FrameTime)
    (request : FrameRequest) (rest : List FrameRequest) (outer : List Batch) :
    ∃ newer, ((state.begin frame request rest outer).started
        request.work).journal = newer ++ state.journal ∧
      (∀ opened requests, .refreshOpened opened requests ∉ newer) ∧
        .stopped ∉ newer := by
  cases hwork : request.work with
  | once routine => exact ⟨[.began frame request], rfl, by simp, by simp⟩
  | turn task =>
      exact ⟨[.entered (.task task), .began frame request], rfl, by simp, by simp⟩

theorem Owing.advance (h : Owing state) (hstep : Step true state next) :
    Advance state next := by
  cases hstep with
  | @aside event hfacet =>
      refine .note [event] rfl ?_ rfl ?_ rfl
      · simpa using Event.isIdle_of_facet hfacet
      · simp only [List.mem_singleton]
        rintro rfl
        exact hfacet rfl
  | ask routine =>
      exact .note [_] rfl (by simp [Event.isIdle]) rfl (by simp) rfl
  | recur body =>
      exact .note [_] rfl (by simp [Event.isIdle]) rfl (by simp) rfl
  | stop =>
      refine .idles [.stopped] rfl (by simp [Event.isIdle]) ?_ ?_
      · simp [Refreshing.stop]
      · exact fun batch hbatch => Or.inr ⟨batch, hbatch, rfl⟩
  | opens frame hattended => exact .opens frame hattended
  | begins hbatches hstart => exact .begins hbatches
  | @finishes frame request rest outer verdict hbatches =>
      obtain ⟨newer, hjournal, hidle, hrun⟩ := journal_worked state request.work
      refine .idles (.ended frame request verdict :: newer) ?_ ?_ ?_ ?_
      · exact congrArg (.ended frame request verdict :: ·) hjournal
      · simpa [Event.isIdle] using hidle
      · simp [finish, withBatches, Refreshing.note, hrun]
      · intro batch hbatch
        rw [hbatches, List.mem_cons] at hbatch
        rcases hbatch with rfl | houter
        · exact Or.inr ⟨_, List.mem_cons_self, rfl⟩
        · exact Or.inr ⟨batch, List.mem_cons_of_mem _ houter, rfl⟩
  | @refuses frame request rest outer task body verdict hbatches hwork hexecuting =>
      exact absurd hexecuting (h.not_refused hbatches hwork)
  | @vanishes frame request rest outer task verdict hbatches hwork hnone =>
      exact absurd hnone (h.not_vanished hbatches hwork)
  | aborts horderly => cases horderly
  | @closes frame rest outer hrest hbatches =>
      refine .idles [] rfl (by simp) (by simp [withBatches]) ?_
      intro batch hbatch
      rw [hbatches, List.mem_cons] at hbatch
      rcases hbatch with rfl | houter
      · exact Or.inl (hrest rfl)
      · exact Or.inr ⟨batch, houter, rfl⟩

/-- A refresher that nothing has happened to. -/
def blank : Refreshing := ⟨[], [], #[], 0, false, []⟩

/-- The flow of requests from the beginning, where things go by order. -/
structure Flowing (state : Refreshing) : Prop where
  numbered : Numbered blank state
  accounted : Accounted true blank state

namespace Flowing

variable {request : FrameRequest}

theorem blank : Flowing blank :=
  ⟨.refl rfl ⟨.nil, fun _ hrequest => by cases hrequest⟩, .refl rfl⟩

theorem step (h : Flowing state) (hstep : Step true state next) : Flowing next :=
  ⟨h.numbered.step hstep, h.accounted.step hstep⟩

theorem count_taken (h : Flowing state) (request : FrameRequest) :
    state.begun.count request + state.waiting.count request =
      state.taken.count request := by
  have hbegun := h.accounted.begun_eq rfl request
  exact hbegun.trans (Nat.zero_add _)

theorem count_begun (h : Flowing state) (request : FrameRequest) :
    state.done.count request + state.current.count request =
      state.begun.count request := by
  have hdone := h.accounted.done_eq rfl request
  exact hdone.trans (Nat.zero_add _)

theorem count_taken_le (h : Flowing state) (request : FrameRequest) :
    state.taken.count request ≤ 1 :=
  List.nodup_iff_count_le_one.mp h.numbered.nodup.of_append_left request

theorem waiting_nodup (h : Flowing state) : state.waiting.Nodup := by
  rw [List.nodup_iff_count_le_one]
  intro request
  have htaken := h.count_taken request
  have hle := h.count_taken_le request
  omega

theorem not_begun_of_waiting (h : Flowing state)
    (hwaiting : request ∈ state.waiting) : request ∉ state.begun := by
  intro hbegun
  have htaken := h.count_taken request
  have hle := h.count_taken_le request
  have hfirst := List.count_pos_iff.mpr hwaiting
  have hsecond := List.count_pos_iff.mpr hbegun
  omega

theorem not_begun_of_queued (h : Flowing state) (hqueued : request ∈ state.queue) :
    request ∉ state.begun := by
  intro hbegun
  have htaken := h.count_taken request
  have hpos := List.count_pos_iff.mpr hbegun
  have hmem : request ∈ state.taken := List.count_pos_iff.mp (by omega)
  exact List.disjoint_of_nodup_append h.numbered.nodup hmem hqueued

end Flowing

/-- Each refresh has begun the first of its requests, in their order, and the
others wait in its batch. -/
def InTurn (state : Refreshing) : Prop :=
  ∀ frame requests, .refreshOpened frame requests ∈ state.journal →
    ∃ waiting, requests = begunOf state.journal requests ++ waiting ∧
      (waiting = [] ∨ ∃ batch ∈ state.batches, batch.waiting = waiting)

theorem InTurn.idles {newer : List Event} (h : state.InTurn)
    (hjournal : next.journal = newer ++ state.journal)
    (hidle : ∀ event ∈ newer, event.isIdle = true)
    (hwaiting : ∀ batch ∈ state.batches, batch.waiting = [] ∨
      ∃ other ∈ next.batches, other.waiting = batch.waiting) : next.InTurn := by
  intro frame requests hopened
  have hbegun : begunOf next.journal requests = begunOf state.journal requests := by
    rw [begunOf, hjournal, chronicle_begun_of_idle hidle, begunOf]
  rw [hjournal, List.mem_append] at hopened
  rcases hopened with hnew | hold
  · exact Bool.noConfusion (hidle _ hnew)
  · obtain ⟨waiting, hrequests, hplace⟩ := h frame requests hold
    refine ⟨waiting, ?_, ?_⟩
    · rw [hbegun]
      exact hrequests
    · rcases hplace with hnone | ⟨batch, hbatch, rfl⟩
      · exact Or.inl hnone
      · exact hwaiting batch hbatch

theorem InTurn.opens (h : state.InTurn) (hflowing : Flowing state)
    (frame : FrameTime) : (state.openBatch frame).InTurn := by
  intro opened requests hopened
  have hbegun : begunOf (state.openBatch frame).journal requests =
      begunOf state.journal requests :=
    congrArg (List.filter (· ∈ requests)) (List.append_nil _)
  rw [hbegun]
  rcases List.mem_cons.mp hopened with hnew | hold
  · obtain ⟨_, rfl⟩ := Event.refreshOpened.inj hnew
    refine ⟨state.queue, ?_, Or.inr ⟨_, List.mem_cons_self, rfl⟩⟩
    have hnone : begunOf state.journal state.queue = [] := by
      rw [begunOf, List.filter_eq_nil_iff]
      intro request hrequest hqueued
      exact hflowing.not_begun_of_queued (of_decide_eq_true hqueued) hrequest
    rw [hnone, List.nil_append]
  · obtain ⟨waiting, hrequests, hplace⟩ := h opened requests hold
    refine ⟨waiting, hrequests, hplace.imp_right ?_⟩
    rintro ⟨batch, hbatch, hwaiting⟩
    exact ⟨batch, List.mem_cons_of_mem _ hbatch, hwaiting⟩

theorem InTurn.begins (h : state.InTurn) (hflowing : Flowing state)
    {frame : FrameTime} {request : FrameRequest} {rest : List FrameRequest}
    {outer : List Batch}
    (hbatches : state.batches = ⟨frame, none, request :: rest⟩ :: outer) :
    ((state.begin frame request rest outer).started request.work).InTurn := by
  obtain ⟨newer, hjournal, hnone, _⟩ :=
    journal_started state frame request rest outer
  have hplaces : ((state.begin frame request rest outer).started
      request.work).batches = ⟨frame, some request, rest⟩ :: outer :=
    (batches_started _ request.work).trans (batches_begin ..)
  have hwaits : state.waiting = request :: (rest ++ outer.flatMap (·.waiting)) := by
    rw [waiting, hbatches]
    rfl
  have hfresh : request ∉ state.begun := by
    apply hflowing.not_begun_of_waiting
    rw [hwaits]
    exact List.mem_cons_self
  have hnodup := hflowing.waiting_nodup
  rw [hwaits, List.nodup_cons, List.mem_append, not_or] at hnodup
  intro opened requests hopened
  rw [hjournal, List.mem_append] at hopened
  obtain ⟨waiting, hrequests, hplace⟩ := h opened requests
    (hopened.resolve_left (hnone opened requests))
  have hbegun : begunOf ((state.begin frame request rest outer).started
      request.work).journal requests =
        begunOf state.journal requests ++ [request].filter (· ∈ requests) := by
    have htold := (told_started (state.begin frame request rest outer)
      request.work).2.2.1
    exact (congrArg (List.filter (· ∈ requests)) htold).trans
      (List.filter_append ..)
  rw [hbegun, hplaces]
  by_cases hmem : request ∈ requests
  · have hwaiting : request ∈ waiting := by
      rw [hrequests, List.mem_append] at hmem
      rcases hmem with hbefore | hafter
      · exact absurd (List.mem_filter.mp hbefore).1 hfresh
      · exact hafter
    have hhead : waiting = request :: rest := by
      rcases hplace with rfl | ⟨batch, hbatch, rfl⟩
      · cases hwaiting
      · rw [hbatches, List.mem_cons] at hbatch
        rcases hbatch with rfl | houter
        · rfl
        · exact absurd (List.mem_flatMap.mpr ⟨batch, houter, hwaiting⟩) hnodup.1.2
    refine ⟨rest, ?_, Or.inr ⟨_, List.mem_cons_self, rfl⟩⟩
    rw [hhead] at hrequests
    simpa [hmem] using hrequests
  · refine ⟨waiting, ?_, ?_⟩
    · simpa [hmem] using hrequests
    · rcases hplace with hnone | ⟨batch, hbatch, rfl⟩
      · exact Or.inl hnone
      · rw [hbatches, List.mem_cons] at hbatch
        rcases hbatch with rfl | houter
        · rw [hrequests] at hmem
          exact absurd (List.mem_append_right _ List.mem_cons_self) hmem
        · exact Or.inr ⟨batch, List.mem_cons_of_mem _ houter, rfl⟩

theorem InTurn.advance (h : state.InTurn) (hflowing : Flowing state)
    (hadvance : Advance state next) : next.InTurn := by
  cases hadvance with
  | idles newer hjournal hidle _ hwaiting => exact h.idles hjournal hidle hwaiting
  | opens frame _ => exact h.opens hflowing frame
  | begins hbatches => exact h.begins hflowing hbatches

end Refreshing

end Cadence
