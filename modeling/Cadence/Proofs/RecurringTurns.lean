import Cadence.Proofs.RefreshCourse

/-!
Recurring tasks.  As long as nothing panics and refreshes are not stopped, every
task has exactly one outstanding turn, whatever callbacks do.
-/

namespace Cadence

/-- No request is having its turn. -/
def Quiet (events : List Event) : Prop :=
  ∀ request, Refresher.Began events request → Refresher.Ended events request

/-- Every turn that has begun went straight on to execute its task. -/
def Entered (events : List Event) : Prop :=
  ∀ newer frame ticket task older,
    events = newer ++ .began frame ⟨ticket, .turn task⟩ :: older →
      [.entered (.task task)] <:+ newer

/-- Each refresh that was begun while no other was under way, before any stop,
took one turn of every recurring task. -/
def TakesAll (events : List Event) : Prop :=
  ∀ newer frame requests older,
    events = newer ++ .refreshOpened frame requests :: older →
      .stopped ∉ older → Quiet older →
        ∀ task, Asked older task → (turnsOf requests).count task = 1

namespace Refreshing

variable {state next : Refreshing}

/-- No request is having its turn exactly if none is current in a batch. -/
theorem Flowing.quiet_iff (h : Flowing state) :
    Quiet state.journal ↔ state.current = [] := by
  constructor
  · intro hquiet
    rw [List.eq_nil_iff_forall_not_mem]
    intro request hcurrent
    have hpos := List.count_pos_iff.mpr hcurrent
    have hcount := h.count_begun request
    have htaken := h.count_taken request
    have hle := h.count_taken_le request
    have hbegun : request ∈ state.begun := List.count_pos_iff.mp (by omega)
    have hended := hquiet request (mem_begun.mp hbegun)
    have hdone := List.count_pos_iff.mpr (mem_done.mpr hended)
    omega
  · intro hnone request hbegan
    have hcount := h.count_begun request
    have hpos := List.count_pos_iff.mpr (mem_begun.mpr hbegan)
    rw [hnone, List.count_nil] at hcount
    exact mem_done.mp (List.count_pos_iff.mp (by omega))

/-- User code has control in the middle of a request, or outside all refreshes. -/
theorem Attended.batches_eq_nil_iff (h : state.Attended) :
    state.batches = [] ↔ state.current = [] := by
  constructor
  · intro hnone
    rw [current, hnone]
    rfl
  · intro hnone
    cases hbatches : state.batches with
    | nil => rfl
    | cons batch outer =>
        have hsome : batch.current.isSome := by
          apply h
          rw [hbatches]
          rfl
        obtain ⟨request, hrequest⟩ := Option.isSome_iff_exists.mp hsome
        rw [current, hbatches, List.flatMap_cons, hrequest] at hnone
        cases hnone

theorem entered_advance (h : Entered state.journal)
    (hadvance : Advance state next) : Entered next.journal := by
  intro before frame ticket task older hsplit
  have hgrown (newer : List Event)
      (hnot : .began frame ⟨ticket, .turn task⟩ ∉ newer)
      (hnewer : newer ++ state.journal =
        before ++ .began frame ⟨ticket, .turn task⟩ :: older) :
      [.entered (.task task)] <:+ before := by
    obtain ⟨rest, rfl, hold⟩ := split_behind hnot hnewer
    exact (h rest frame ticket task older hold).trans (List.suffix_append _ _)
  cases hadvance with
  | idles newer hjournal hidle _ _ =>
      rw [hjournal] at hsplit
      exact hgrown newer (fun hmem => Bool.noConfusion (hidle _ hmem)) hsplit
  | opens opened _ =>
      exact hgrown [.refreshOpened opened state.queue] (by simp) hsplit
  | @begins opened request rest outer hbatches =>
      cases hwork : request.work with
      | once routine =>
          rw [hwork] at hsplit
          apply hgrown [.began opened request] ?_ hsplit
          rw [List.mem_singleton]
          intro heq
          obtain ⟨_, rfl⟩ := Event.began.inj heq
          cases hwork
      | turn other =>
          rw [hwork] at hsplit
          have hjournal : .entered (.task other) :: .began opened request ::
              state.journal = before ++ .began frame ⟨ticket, .turn task⟩ :: older :=
            hsplit
          cases before with
          | nil => cases hjournal
          | cons first tail =>
              obtain ⟨rfl, htail⟩ := List.cons.inj hjournal
              cases tail with
              | nil =>
                  obtain ⟨hbegan, _⟩ := List.cons.inj htail
                  obtain ⟨_, rfl⟩ := Event.began.inj hbegan
                  cases hwork
                  exact List.suffix_rfl
              | cons second rest =>
                  obtain ⟨rfl, hold⟩ := List.cons.inj htail
                  have hrest := h rest frame ticket task older hold
                  exact hrest.trans (List.suffix_append [_, _] rest)

/-- What holds at every point of a run that goes by order from the beginning. -/
structure Regular (state : Refreshing) : Prop where
  owing : Owing state
  chronicled : state.Chronicled
  flowing : Flowing state
  inTurn : state.InTurn
  entered : Entered state.journal
  takesAll : TakesAll state.journal
  halted : state.stopped = true ↔ .stopped ∈ state.journal

/-- Until refreshes are stopped, every task has one outstanding turn. -/
theorem Owing.count_turns (h : Owing state) (hrun : state.stopped = false)
    {task : Nat} (htask : task < state.tasks.size) :
    state.turns.count task = 1 :=
  List.count_eq_one_of_mem h.lined.nodup (h.owed hrun task htask)

theorem Regular.takesAll_advance (h : Regular state)
    (hadvance : Advance state next) : TakesAll next.journal := by
  intro before frame requests older hsplit
  have hgrown {newer : List Event} (hnot : .refreshOpened frame requests ∉ newer)
      (hnewer : newer ++ state.journal =
        before ++ .refreshOpened frame requests :: older) :
      .stopped ∉ older → Quiet older →
        ∀ task, Asked older task → (turnsOf requests).count task = 1 := by
    obtain ⟨rest, rfl, hold⟩ := split_behind hnot hnewer
    exact h.takesAll rest frame requests older hold
  cases hadvance with
  | idles newer hjournal hidle _ _ =>
      rw [hjournal] at hsplit
      exact hgrown (fun hmem => Bool.noConfusion (hidle _ hmem)) hsplit
  | @begins opened request rest outer hbatches =>
      obtain ⟨newer, hjournal, hnone, _⟩ :=
        journal_started state opened request rest outer
      rw [hjournal] at hsplit
      exact hgrown (hnone frame requests) hsplit
  | opens opened hattended =>
      cases before with
      | cons first rest =>
          obtain ⟨_, hold⟩ := List.cons.inj hsplit
          exact h.takesAll rest frame requests older hold
      | nil =>
          obtain ⟨hopened, rfl⟩ := List.cons.inj hsplit
          obtain ⟨_, rfl⟩ := Event.refreshOpened.inj hopened
          intro hrun hquiet task hasked
          have hidle := hattended.batches_eq_nil_iff.mpr
            (h.flowing.quiet_iff.mp hquiet)
          have hnone : state.stopped = false := by
            rw [← Bool.not_eq_true, h.halted]
            exact hrun
          have hcount := h.owing.count_turns hnone
            ((h.chronicled.asked task).mp hasked)
          rw [turns, takenTurns, hidle] at hcount
          simpa using hcount

theorem Regular.halted_advance (h : Regular state)
    (hadvance : Advance state next) :
    next.stopped = true ↔ .stopped ∈ next.journal := by
  cases hadvance with
  | idles newer hjournal _ hstopped _ =>
      rw [hjournal, List.mem_append, hstopped, h.halted, or_comm]
  | opens frame _ => exact h.halted.trans (by simp [openBatch])
  | @begins frame request rest outer hbatches =>
      obtain ⟨newer, hjournal, _, hrun⟩ :=
        journal_started state frame request rest outer
      rw [hjournal, List.mem_append, stopped_started, or_iff_right hrun]
      exact h.halted

theorem Regular.step (h : Regular state) (hstep : Step true state next) :
    Regular next := by
  have hadvance := h.owing.advance hstep
  constructor
  · exact h.owing.step hstep
  · exact h.chronicled.step h.owing hstep
  · exact h.flowing.step hstep
  · exact h.inTurn.advance h.flowing hadvance
  · exact entered_advance h.entered hadvance
  · exact h.takesAll_advance hadvance
  · exact h.halted_advance hadvance

theorem Regular.blank : Regular blank := by
  have hnever {before older : List Event} {event : Event}
      (hsplit : [] = before ++ event :: older) : False := by
    cases before <;> cases hsplit
  constructor
  · constructor
    · exact ⟨.nil, fun task htask => by cases htask⟩
    · exact fun _ task htask => absurd htask (Nat.not_lt_zero task)
    · exact fun task body hbody => by cases hbody
  · constructor
    · intro task
      simp [Asked, Refreshing.blank]
    · exact fun task htask => by cases htask
    · intro task
      simp [isQueued, Refreshing.blank]
    · exact .nil
    · exact fun frame requests hopened => by cases hopened
  · exact .blank
  · exact fun frame requests hopened => by cases hopened
  · exact fun _ _ _ _ _ hsplit => (hnever hsplit).elim
  · exact fun _ _ _ _ hsplit => (hnever hsplit).elim
  · simp [Refreshing.blank]

theorem Steps.regular (hsteps : Steps true blank state) : Regular state := by
  induction hsteps with
  | refl => exact .blank
  | tail _ hstep ih => exact ih.step hstep

end Refreshing

namespace Refresher

open Refreshing

/-- What is promised of recurring tasks where nothing panics. -/
structure TurnsRegularly (moment : Rig) : Prop where
  /-- The tasks are those that have been requested. -/
  asked : ∀ task, Asked moment.journal task ↔ task < moment.refresher.tasks.size
  outstanding : moment.refresher.stopped = false →
    ∀ task < moment.refresher.tasks.size,
      (turnsOf moment.refresher.queue).count task +
        (turnsOf (moment.refresher.batches.flatMap Batch.line)).count task = 1
  quiet : moment.refresher.batches = [] ↔ Quiet moment.journal
  takesAll : TakesAll moment.journal
  /-- Refreshes begin all their requests, in their order. -/
  begun : ∀ frame requests, .refreshOpened frame requests ∈ moment.journal →
    ∃ waiting, requests = begunOf moment.journal requests ++ waiting ∧
      (waiting = [] ∨
        ∃ batch ∈ moment.refresher.batches, batch.waiting = waiting)
  entered : Entered moment.journal
  queued : ∀ task, task ∈ turnsOf moment.refresher.queue ↔
    isQueued task moment.journal = true
  inOrder : ∀ frame requests, .refreshOpened frame requests ∈ moment.journal →
    (turnsOf (begunOf moment.journal requests)).Pairwise (InOrder moment.journal)

/-- As long as nothing panics, each task has one outstanding turn until refreshes
are stopped, and turns are taken, begun and executed without exception. -/
theorem turnsRegularly {depth : Nat} {script : Script} {rate : Rate}
    {reportInterval : Nat} {moment : Rig}
    (hpasses : script.Passes depth (Rig.fresh rate reportInterval) moment) :
    TurnsRegularly moment := by
  have hfinds : (contract blank).finds (Rig.fresh rate reportInterval) :=
    ⟨.refl, fun batch hbatch => by cases hbatch⟩
  have hmoment := (soundOrders blank).finds_moment hpasses script.keepsTo_all
    hfinds
  have hregular := Steps.regular hmoment.1
  have hbegun := hregular.inTurn
  constructor
  · exact hregular.chronicled.asked
  · intro hrun task htask
    have hcount := hregular.owing.count_turns hrun htask
    rw [turns, List.count_append] at hcount
    exact hcount
  · exact hmoment.2.batches_eq_nil_iff.trans hregular.flowing.quiet_iff.symm
  · exact hregular.takesAll
  · exact hbegun
  · exact hregular.entered
  · exact hregular.chronicled.queued
  · intro frame requests hopened
    obtain ⟨waiting, hrequests, _⟩ := hbegun frame requests hopened
    have hpairs := (hregular.chronicled.opened frame requests hopened).1
    rw [hrequests, turnsOf_append] at hpairs
    exact hpairs.sublist (List.sublist_append_left _ _)

/-- A task whose first turn adds another one, and two refreshes. -/
def overtaking : Script :=
  .routine (fun call _ =>
      if call = 0 then
        .routine (fun _ _ => .done .null) fun second =>
          .order (.refresh (.recur second)) fun _ => .done .null
      else .done .null) fun first =>
    .order (.refresh (.recur first)) fun _ =>
      .order (.refresh .refresh) fun _ =>
        .order (.refresh .refresh) fun _ => .done .null

def overtakingRig : Rig :=
  (overtaking.playWithin 3 (Rig.fresh .initial Duration.perSecond)).2

theorem turnsRegularly_overtaking :
    overtaking.Passes 3 (Rig.fresh .initial Duration.perSecond) overtakingRig ∧
      TurnsRegularly overtakingRig := by
  have hpasses : overtaking.Passes 3 (Rig.fresh .initial Duration.perSecond)
      overtakingRig := Script.passes_end (by decide +kernel)
  exact ⟨hpasses, turnsRegularly hpasses⟩

/-- The first task has not been requested later than the second. -/
def NotLater (events : List Event) (before after : Nat) : Prop :=
  ∀ older, FirstAsked events older before → ¬ Asked older after

/-- Tasks do not always run in the order of their first requests. -/
theorem not_in_order_of_first_requests :
    ¬ ∀ (depth : Nat) (script : Script) (rate : Rate) (reportInterval : Nat)
      (moment : Rig), script.Passes depth (Rig.fresh rate reportInterval) moment →
        ∀ frame requests, .refreshOpened frame requests ∈ moment.journal →
          (turnsOf (begunOf moment.journal requests)).Pairwise
            (NotLater moment.journal) := by
  intro h
  have hpasses : overtaking.Passes 3 (Rig.fresh .initial Duration.perSecond)
      overtakingRig := Script.passes_end (by decide +kernel)
  have hopened : overtakingRig.journal.any (fun event =>
      turnsOf (begunOf overtakingRig.journal event.taken) == [1, 0]) = true := by
    decide +kernel
  obtain ⟨event, hevent, hturns⟩ := List.any_eq_true.mp hopened
  have hturns := eq_of_beq hturns
  cases event with
  | refreshOpened frame requests =>
      have hpairs := h _ _ _ _ _ hpasses frame requests hevent
      rw [Event.taken] at hturns
      rw [hturns, List.pairwise_pair] at hpairs
      have hsplit := overtakingRig.journal.take_append_drop 18
      have hasked : Asked (overtakingRig.journal.take 18 ++
          overtakingRig.journal.drop 18) 1 := by decide +kernel
      obtain ⟨middle, hfirst⟩ := exists_firstAsked hasked (by decide +kernel)
      rw [hsplit] at hfirst
      apply hpairs _ hfirst
      have hzero : Asked (overtakingRig.journal.drop 18) 0 := by decide +kernel
      obtain ⟨ticket, hticket⟩ := hzero
      exact ⟨ticket, List.mem_append_right _ hticket⟩
  | _ => simp [Event.taken, begunOf, turnsOf] at hturns

end Refresher

end Cadence
