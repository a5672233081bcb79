import Cadence.Proofs.FrameDelivery

/-!
A stop is final.  What waits is dropped, the tasks that were there get no further
turns, and each loop ends with the turn that it is in; only batches that have been
taken run to their end.
-/

namespace Cadence

open Deed

/-- Once refreshes are stopped, no turn is requested of a task that had one requested
before. -/
def Stilling (event : Event) (older : List Event) : Prop :=
  match event with
  | .requested request =>
      .stopped ∈ older → ∀ task ∈ request.task?,
        task ∉ turnsOf (chronicle Event.made older)
  | _ => True

namespace Refreshing

/-- The journal tells whether refreshes are stopped, and which turns that ended. -/
structure Stilled (state : Refreshing) : Prop where
  stopped : state.stopped = true ↔ .stopped ∈ state.journal
  exist : ∀ task ∈ turnsOf state.made, task < state.tasks.size
  stilling : Lawful Stilling state.journal

variable {state next : Refreshing}

namespace Stilled

variable {event : Event}

/-- A change that concerns neither tasks nor the journal. -/
theorem congr (h : state.Stilled) (hstopped : next.stopped = state.stopped)
    (hjournal : next.journal = state.journal)
    (hsize : state.tasks.size ≤ next.tasks.size) : next.Stilled := by
  constructor
  · rw [hstopped, hjournal]
    exact h.stopped
  · intro task htask
    rw [made, hjournal] at htask
    exact Nat.lt_of_lt_of_le (h.exist task htask) hsize
  · rw [hjournal]
    exact h.stilling

/-- An event that neither requests anything nor stops refreshes. -/
theorem note (h : state.Stilled) (hmade : event.made = []) (hgoes : event ≠ .stopped) :
    (state.note event).Stilled := by
  constructor
  · rw [Refreshing.note, List.mem_cons, or_iff_right (Ne.symm hgoes)]
    exact h.stopped
  · intro task htask
    rw [made, Refreshing.note, chronicle_cons, hmade, List.append_nil] at htask
    exact h.exist task htask
  · refine ⟨?_, h.stilling⟩
    cases event with
    | requested request => cases hmade
    | _ => trivial

/-- A task that is requested exists, and is new if refreshes are stopped. -/
theorem make (h : state.Stilled) (work : FrameWork)
    (hexists : ∀ task, work = .turn task → task < state.tasks.size)
    (hnew : state.stopped = true → ∀ task, work = .turn task → task ∉ turnsOf state.made) :
    (state.request work).Stilled := by
  have htask {task : Nat} (htask : task ∈ (FrameRequest.mk state.nextTicket work).task?) :
      work = .turn task := by
    cases work with
    | once routine => cases htask
    | turn other => rw [Option.some.inj htask]
  constructor
  · rw [Refreshing.request, List.mem_cons, or_iff_right Event.noConfusion]
    exact h.stopped
  · intro task hmade
    rw [made, Refreshing.request, chronicle_cons, Event.made, turnsOf_append,
      List.mem_append] at hmade
    rcases hmade with hold | hfresh
    · exact h.exist task hold
    · obtain ⟨request, hrequest, hturn⟩ := List.mem_filterMap.mp hfresh
      rw [List.mem_singleton.mp hrequest] at hturn
      exact hexists task (htask hturn)
  · refine ⟨fun hstopped task hturn => ?_, h.stilling⟩
    exact hnew (h.stopped.mpr hstopped) task (htask hturn)

theorem requestAgain (h : state.Stilled) {task : Nat} (hsize : task < state.tasks.size) :
    (state.requestAgain task).Stilled := by
  unfold Refreshing.requestAgain
  split
  · exact h
  · rename_i hgoes
    refine h.make _ (fun other hother => ?_) fun hstopped => absurd hstopped hgoes
    rwa [← FrameWork.turn.inj hother]

theorem recur (h : state.Stilled) (body : TaskBody) : (state.recur body).Stilled := by
  have hpushed : state.tasks.size < (state.tasks.push ⟨body, false⟩).size := by simp
  have hgrown : Stilled { state with tasks := state.tasks.push ⟨body, false⟩ } :=
    h.congr rfl rfl (Nat.le_of_lt hpushed)
  refine hgrown.make _ (fun task htask => ?_) fun _ task htask hmade => ?_
  · rwa [← FrameWork.turn.inj htask]
  · rw [← FrameWork.turn.inj htask] at hmade
    exact absurd (h.exist _ hmade) (Nat.lt_irrefl _)

theorem stop (h : state.Stilled) : state.stop.Stilled where
  stopped := ⟨fun _ => List.mem_cons_self, fun _ => rfl⟩
  exist task htask := by
    have hnone : Event.made .stopped = [] := rfl
    rw [made, Refreshing.stop, chronicle_cons, hnone, List.append_nil] at htask
    exact h.exist task htask
  stilling := ⟨trivial, h.stilling⟩

theorem started (h : state.Stilled) (work : FrameWork) : (state.started work).Stilled := by
  cases work with
  | once routine => exact h
  | turn task =>
      have hmarked : (state.mark task true).Stilled :=
        h.congr rfl rfl (Nat.le_of_eq Array.size_modify.symm)
      exact hmarked.note rfl Event.noConfusion

theorem worked (h : state.Stilled) (work : FrameWork)
    (hexists : ∀ task, work = .turn task → task < state.tasks.size) :
    (state.worked work).Stilled := by
  cases work with
  | once routine => exact h
  | turn task =>
      have hmarked : (state.mark task false).Stilled :=
        h.congr rfl rfl (Nat.le_of_eq Array.size_modify.symm)
      refine (hmarked.note rfl Event.noConfusion).requestAgain ?_
      exact Nat.lt_of_lt_of_eq (hexists task rfl) Array.size_modify.symm

theorem withBatches (h : state.Stilled) (batches : List Batch) :
    (state.withBatches batches).Stilled :=
  h.congr rfl rfl (Nat.le_refl _)

theorem begin (h : state.Stilled) (frame : FrameTime) (request : FrameRequest)
    (rest : List FrameRequest) (outer : List Batch) :
    (state.begin frame request rest outer).Stilled := by
  have hplaced := h.withBatches (⟨frame, some request, rest⟩ :: outer)
  exact hplaced.note rfl Event.noConfusion

theorem finish (h : state.Stilled) (frame : FrameTime) (request : FrameRequest)
    (rest : List FrameRequest) (outer : List Batch) (verdict : Verdict) :
    (state.finish frame request rest outer verdict).Stilled := by
  have hplaced := h.withBatches (⟨frame, none, rest⟩ :: outer)
  exact hplaced.note rfl Event.noConfusion

theorem openBatch (h : state.Stilled) (frame : FrameTime) :
    (state.openBatch frame).Stilled := by
  have htaken : Stilled { state with
      queue := [], batches := ⟨frame, none, state.queue⟩ :: state.batches } :=
    h.congr rfl rfl (Nat.le_refl _)
  have hevent : Event.made (.refreshOpened frame state.queue) = [] := rfl
  exact htaken.note hevent Event.noConfusion

theorem step (h : state.Stilled) (hlined : state.Lined) (hstep : Step true state next) :
    next.Stilled := by
  cases hstep with
  | @aside event hfacet =>
      refine h.note (Event.no_request hfacet).1 ?_
      rintro rfl
      exact hfacet rfl
  | ask routine =>
      exact h.make _ (fun task htask => by cases htask) fun _ task htask => by cases htask
  | recur body => exact h.recur body
  | stop => exact h.stop
  | opens frame hattended =>
      exact h.openBatch frame
  | @begins frame request rest outer hbatches hstart =>
      exact (h.begin frame request rest outer).started request.work
  | @finishes frame request rest outer verdict hbatches =>
      refine (h.worked request.work fun task hwork => hlined.exist task ?_).finish _ _ _ _ _
      -- The turn that ends is an outstanding one.
      rw [turns, takenTurns_of_batches hbatches, Option.toList_some, turnsOf_turn hwork]
      simp
  | @refuses frame request rest outer task body verdict hbatches hwork hexecuting =>
      have hsize : task < state.tasks.size :=
        (Array.getElem?_eq_some_iff.mp hexecuting).choose
      exact ((h.begin frame request rest outer).requestAgain hsize).finish _ _ _ _ _
  | @vanishes frame request rest outer task verdict hbatches hwork hnone =>
      exact (h.begin frame request rest outer).finish _ _ _ _ _
  | aborts horderly => cases horderly
  | closes hrest hbatches => exact h.withBatches _

end Stilled

theorem Steps.stilled (hsteps : Steps true blank state) : state.Stilled := by
  have hlined : blank.Lined := ⟨.nil, fun task htask => by cases htask⟩
  induction hsteps with
  | refl =>
      refine ⟨⟨Bool.noConfusion, fun hstop => ?_⟩, fun task htask => ?_, trivial⟩
      · cases hstop
      · cases htask
  | tail hbefore hstep ih => exact ih.step (Steps.lined hbefore hlined) hstep

end Refreshing

/-! ### Loops -/

namespace Loop

open Exec Contract

/-- A loop waits for its next turn: it reads the clock if no message is posted. -/
def rested (tick : Nat) (rig : Rig) : Rig :=
  if (rig.mailbox 0).queue.isEmpty then { rig with now := rig.now + tick } else rig

/-- A loop is about to have its first turn. -/
def started (period tick : Nat) (rig : Rig) : Rig :=
  { rig with
    now := rig.now + tick
    journal := .logged (Refresher.loopNotice period) :: rig.journal }

/-- A loop is over. -/
def finished (rig : Rig) : Rig :=
  { rig with journal := .logged (Refresher.finishedNotice rig.refresher) :: rig.journal }

/-- At the end of a turn: a loop goes on unless refreshes are stopped or nothing is
queued. -/
def concluded (next : Nat) : Exec (Option Nat) := fun rig =>
  .ended (.value (if rig.refresher.stopped || rig.isIdle then none else some next)) rig

/-- What follows the delivery in a turn. -/
def offered (period tick deadline : Nat) : Exec (Option Nat) := fun rig =>
  let read : Rig := { rig with now := rig.now + tick }
  if Refresh.isDue deadline rig.now then
    (Refresher.refresh rig.now read).andThen fun _ =>
      concluded (Refresh.nextDeadline period deadline rig.now)
  else concluded deadline read

/-- After some turns a loop is about to have another one, with some deadline. -/
inductive GoesOn (play : Play) (period tick : Nat) : Nat → Nat → Rig → Nat → Rig → Prop
  | here {deadline rig} : GoesOn play period tick 0 deadline rig deadline rig
  | next {count deadline rig next after reached later}
      (hturn : (turn period tick deadline rig).run play = (.value (some next), after))
      (hrest : GoesOn play period tick count next (rested tick after) reached later) :
      GoesOn play period tick (count + 1) deadline rig reached later

section Turns

variable {play : Play} {period tick deadline next limit count : Nat} {rig after later : Rig}
  {answer : Option Nat}

theorem run_turns_of_none
    (hturn : (turn period tick deadline rig).run play = (.value none, later)) :
    (turns period tick (limit + 1) deadline rig).run play = (.value (), later) := by
  rw [turns, bind_apply, Progress.run_andThen, hturn]
  rfl

theorem run_turns_of_some
    (hturn : (turn period tick deadline rig).run play = (.value (some next), after)) :
    (turns period tick (limit + 1) deadline rig).run play =
      (turns period tick limit next (rested tick after)).run play := by
  rw [turns, bind_apply, Progress.run_andThen, hturn]
  simp only [bind_apply, look_apply, Progress.andThen, rested]
  split <;> rfl

/-- A loop that has gone on has the rest of its turns to come. -/
theorem GoesOn.run_turns {reached : Nat}
    (h : GoesOn play period tick count deadline rig reached later) (limit : Nat) :
    (turns period tick (count + limit) deadline rig).run play =
      (turns period tick limit reached later).run play := by
  induction h with
  | here => rw [Nat.zero_add]
  | @next count _ _ _ _ _ _ hturn _ ih =>
      rw [Nat.add_right_comm, run_turns_of_some hturn]
      exact ih

theorem turn_apply (period tick deadline : Nat) (rig : Rig) :
    turn period tick deadline rig =
      (Mailbox.deliver 0 rig).andThen fun _ => offered period tick deadline := by
  have hend (next : Nat) : (do
      if (← look (·.refresher.stopped)) || (← look (·.isIdle)) then return none
      return some next : Exec (Option Nat)) = concluded next := by
    funext rig
    simp only [bind_apply, look_apply, Progress.andThen, concluded]
    split <;> rfl
  rw [turn, bind_apply]
  congr 1
  funext _ delivered
  simp only [readClock, bind_apply, look_apply, update_apply, pure_apply, Progress.andThen,
    offered, ← hend]
  split <;> rfl

/-- A run of a loop consists of its turns, from its start to its end. -/
theorem run_apply (limit period tick : Nat) (rig : Rig) :
    run limit period tick rig =
      (turns period tick limit rig.now >>= fun _ => update finished)
        (started period tick rig) :=
  rfl

/-- A turn at whose end refreshes are stopped is the last one. -/
theorem answer_of_stopped
    (hrun : (turn period tick deadline rig).run play = (.value answer, later))
    (hstopped : later.refresher.stopped = true) : answer = none := by
  have hconcluded {next : Nat} {state : Rig}
      (h : (concluded next state).run play = (.value answer, later)) : answer = none := by
    obtain ⟨hanswer, rfl⟩ := Prod.mk.inj h
    rw [hstopped, Bool.true_or, if_pos rfl] at hanswer
    exact (Ending.value.inj hanswer).symm
  rw [turn_apply] at hrun
  obtain ⟨_, delivered, _, hoffered⟩ := Progress.run_andThen_eq_value hrun
  unfold offered at hoffered
  split at hoffered
  · obtain ⟨_, refreshed, _, hend⟩ := Progress.run_andThen_eq_value hoffered
    exact hconcluded hend
  · exact hconcluded hoffered

/-- A turn that does not return broke off in its delivery or in its refresh. -/
theorem breaks_turn (h : ((turn period tick deadline rig).run play).1.isValue = false) :
    ((Mailbox.deliver 0 rig).run play).1.isValue = false ∨
      ∃ fired delivered, (Mailbox.deliver 0 rig).run play = (.value fired, delivered) ∧
        ((Refresher.refresh delivered.now { delivered with
          now := delivered.now + tick }).run play).1.isValue = false := by
  rw [turn_apply, Progress.run_andThen] at h
  rcases hdeliver : (Mailbox.deliver 0 rig).run play with ⟨ending, delivered⟩
  rw [hdeliver] at h
  cases ending with
  | panicked cause => exact Or.inl rfl
  | exhausted => exact Or.inl rfl
  | value fired =>
      refine Or.inr ⟨fired, delivered, rfl, ?_⟩
      dsimp only [offered] at h
      split at h
      · rw [Progress.run_andThen] at h
        rcases hrefresh : (Refresher.refresh delivered.now { delivered with
          now := delivered.now + tick }).run play with ⟨ending, refreshed⟩
        rw [hrefresh] at h
        cases ending with
        | value count => cases h
        | panicked cause => rfl
        | exhausted => rfl
      · cases h

end Turns

/-! ### Refreshes in a loop -/

section Orderly

open Refreshing

variable {start : Refreshing} {period tick deadline depth count : Nat} {rig later : Rig}
  {answer : Option Nat}

theorem sound_turn_refreshing (period tick deadline : Nat) :
    (contract start).Sound (turn period tick deadline) := by
  have hambience : (contract start).IgnoresAll Facet.ambience :=
    ignoresAll_sides.of_subset Facet.ambience_subset_sides
  exact sound_turn hambience
    (Mailbox.allowsMail hambience (ignores_touch (by decide)) allowsTurns)
    sound_refresh period tick deadline

/-- The order of refreshes lasts through a turn. -/
theorem finds_of_turn (hfinds : (contract start).finds rig)
    (hrun : (turn period tick deadline rig).run (Script.playWithin depth) =
      (.value answer, later)) : (contract start).finds later := by
  have hleaves := (sound_turn_refreshing period tick deadline rig hfinds).run
    ((soundOrders start).honoured depth)
  rw [hrun] at hleaves
  exact (contract start).keeps hfinds hleaves

/-- If refreshes have been stopped by the end of a turn, there is no next one. -/
theorem answer_of_turn (hfinds : (contract blank).finds rig)
    (hrun : (turn period tick deadline rig).run (Script.playWithin depth) =
      (.value answer, later)) (hstopped : .stopped ∈ later.journal) : answer = none :=
  answer_of_stopped hrun
    ((Steps.stilled (finds_of_turn hfinds hrun).1).stopped.mpr hstopped)

theorem finds_of_goesOn {reached : Nat} (hfinds : (contract start).finds rig)
    (h : GoesOn (Script.playWithin depth) period tick count deadline rig reached later) :
    (contract start).finds later := by
  induction h with
  | here => exact hfinds
  | @next _ _ _ _ after _ _ hturn _ ih =>
      apply ih
      have hafter := finds_of_turn hfinds hturn
      unfold rested
      split
      · exact hafter
      · exact hafter

/-- What has happened before a turn has happened at the end of the loop's next ones. -/
theorem recorded_of_goesOn {event : Event} {reached : Nat} {last : Rig}
    (h : GoesOn (Script.playWithin depth) period tick count deadline rig reached last)
    (hevent : event ∈ rig.journal) : event ∈ last.journal := by
  induction h with
  | here => exact hevent
  | @next _ _ _ _ after _ _ hturn _ ih =>
      apply ih
      have hafter := (Rig.lasting_recorded event).turn hturn hevent
      unfold rested
      split
      · exact hafter
      · exact hafter

/-- A loop that is turned by hand answers for the last time when refreshes have been
stopped. -/
theorem answer_of_turnByHand (hfinds : (contract blank).finds rig) {number : Nat}
    {loop : LoopState} (hloop : rig.loops[number]? = some loop) (hfree : loop.busy = false)
    {answer : Option (Option Nat)}
    (hrun : (turnByHand number deadline rig).run (Script.playWithin depth) =
      (.value answer, later))
    (hstopped : .stopped ∈ rig.journal ∨ .stopped ∈ later.journal) :
    answer = some none := by
  simp only [turnByHand, bind_apply, look_apply, Progress.andThen, hloop, hfree,
    Bool.false_eq_true, if_false, map_apply, within_apply] at hrun
  obtain ⟨inner, ended, hended, hanswer⟩ := Progress.run_andThen_eq_value hrun
  obtain ⟨middle, hturn, rfl⟩ := Progress.run_atEnd_eq_value hended
  obtain ⟨hvalue, rfl⟩ := Prod.mk.inj hanswer
  have hentered : (contract blank).finds { mark number true rig with
      journal := .entered (.loop number) :: rig.journal } := by
    refine ⟨hfinds.1.tail (.aside ?_), hfinds.2⟩
    exact Facet.noConfusion
  have hmiddle : .stopped ∈ middle.journal := by
    rcases hstopped with hbefore | hafter
    · exact (Rig.lasting_recorded .stopped).turn hturn (List.mem_cons_of_mem _ hbefore)
    · rcases List.mem_cons.mp hafter with hleft | hmiddle
      · cases hleft
      · exact hmiddle
  rw [answer_of_turn hentered hturn hmiddle] at hvalue
  exact (Ending.value.inj hvalue).symm

/-- A run of a loop ends with the turn by whose end refreshes have been stopped. -/
theorem run_of_goesOn (hfinds : (contract blank).finds rig) {reached : Nat} {last : Rig}
    (h : GoesOn (Script.playWithin depth) period tick count rig.now
      (started period tick rig) reached last)
    (hrun : (turn period tick reached last).run (Script.playWithin depth) =
      (.value answer, later))
    (hstopped : .stopped ∈ rig.journal ∨ .stopped ∈ later.journal) (limit : Nat) :
    (run (count + (limit + 1)) period tick rig).run (Script.playWithin depth) =
      (.value (), finished later) := by
  have hstarted : (contract blank).finds (started period tick rig) := by
    refine ⟨hfinds.1.tail (.aside ?_), hfinds.2⟩
    exact Facet.noConfusion
  have hafter : .stopped ∈ later.journal := by
    rcases hstopped with hbefore | hafter
    · have hlast := recorded_of_goesOn h (List.mem_cons_of_mem _ hbefore)
      exact (Rig.lasting_recorded .stopped).turn hrun hlast
    · exact hafter
  obtain rfl := answer_of_turn (finds_of_goesOn hstarted h) hrun hafter
  have hturns := (h.run_turns (limit + 1)).trans (run_turns_of_none hrun)
  rw [run_apply, bind_apply, Progress.run_andThen, hturns]
  rfl

end Orderly

end Loop

namespace Refresher

open Refreshing

/-- What a stop means at some later moment: `older` had happened before it, and `newer`
since. -/
structure StoppedSince (newer older : List Event) (moment : Rig) : Prop where
  stopped : moment.refresher.stopped = true
  /-- What was queued is gone, and never runs. -/
  drops : ∀ request ∈ unclaimed (frameDeeds older),
    request ∉ moment.refresher.queue ∧ ¬ Took moment.journal request ∧
      ¬ Began moment.journal request
  /-- Refreshes that opened since took only what was requested since. -/
  takes : ∀ frame requests, .refreshOpened frame requests ∈ newer →
    ∀ request ∈ requests, .requested request ∈ newer
  queued : ∀ request ∈ moment.refresher.queue, .requested request ∈ newer
  /-- No turn is requested of a task that had one requested before. -/
  ends : ∀ task ∈ turnsOf (chronicle Event.made older), ∀ ticket,
    .requested ⟨ticket, .turn task⟩ ∉ newer
  /-- Such a task has turns only in refreshes that had opened before. -/
  turns : ∀ task ∈ turnsOf (chronicle Event.made older), ∀ frame ticket,
    .began frame ⟨ticket, .turn task⟩ ∈ newer →
      ∃ requests, .refreshOpened frame requests ∈ older ∧ ⟨ticket, .turn task⟩ ∈ requests
  /-- Those refreshes begin all that they took, in its order and once, or are under
  way and have begun what does not wait any more. -/
  runs : ∀ frame requests, .refreshOpened frame requests ∈ older →
    begunAmong (frameDeeds moment.journal) requests = requests ∨
      ∃ batch ∈ moment.refresher.batches,
        batch.lot.Serves (frameDeeds moment.journal) frame requests
  once : (chronicle Event.begun moment.journal).Nodup

/-- What is promised of stops where nothing panics. -/
structure StopsForGood (moment : Rig) : Prop where
  /-- What was requested since the latest refresh or stop is queued. -/
  pending : moment.refresher.queue = unclaimed (frameDeeds moment.journal)
  /-- A stop is over at once and calls nothing. -/
  stops : ∃ later, halt moment = .ended (.value ()) later ∧ .stopped ∈ later.journal
  since : ∀ newer older, moment.journal = newer ++ .stopped :: older →
    StoppedSince newer older moment
  /-- A refresh that returns has begun the whole batch that it took, even if it was
  stopped meanwhile. -/
  runs : ∀ depth now count later,
    (refresh now moment).run (Script.playWithin depth) = (.value count, later) →
      begunAmong (frameDeeds later.journal) moment.refresher.queue =
        moment.refresher.queue
  /-- A refresh calls what it took, one request after the other, even if it is stopped
  meanwhile. -/
  batches : ∀ depth now, RunsBatch depth now moment
  /-- A turn of a loop that begins when refreshes have been stopped, or in which they are
  stopped, has no next deadline. -/
  answers : ∀ depth number deadline loop, moment.loops[number]? = some loop →
    loop.busy = false → ∀ answer later,
      (Loop.turnByHand number deadline moment).run (Script.playWithin depth) =
        (.value answer, later) →
      .stopped ∈ moment.journal ∨ .stopped ∈ later.journal → answer = some none
  /-- A run of a loop ends with the turn in which refreshes are stopped, or with its
  first one if they had been, whatever is queued. -/
  finishes : ∀ depth period tick count reached last,
    Loop.GoesOn (Script.playWithin depth) period tick count moment.now
      (Loop.started period tick moment) reached last →
    ∀ answer later, (Loop.turn period tick reached last).run (Script.playWithin depth) =
        (.value answer, later) →
      .stopped ∈ moment.journal ∨ .stopped ∈ later.journal → ∀ limit,
        (Loop.run (count + (limit + 1)) period tick moment).run
          (Script.playWithin depth) = (.value (), Loop.finished later)
  /-- A turn that does not return broke off in its delivery or in its refresh. -/
  breaks : ∀ depth period tick deadline rig,
    ((Loop.turn period tick deadline rig).run (Script.playWithin depth)).1.isValue =
      false →
      ((Mailbox.deliver 0 rig).run (Script.playWithin depth)).1.isValue = false ∨
        ∃ fired delivered,
          (Mailbox.deliver 0 rig).run (Script.playWithin depth) =
            (.value fired, delivered) ∧
          ((refresh delivered.now { delivered with now := delivered.now + tick }).run
            (Script.playWithin depth)).1.isValue = false

/-- What a refresh takes after a stop was requested after it. -/
theorem requested_since_stop {journal newer older : List Event}
    (hfair : Lawful Fair (frameDeeds journal))
    (hsplit : journal = newer ++ .stopped :: older) {frame : FrameTime}
    {requests : List FrameRequest} (hopened : .refreshOpened frame requests ∈ newer) :
    ∀ request ∈ requests, .requested request ∈ newer := by
  intro request hrequest
  obtain ⟨before, after, rfl⟩ := List.append_of_mem hopened
  rw [List.append_assoc] at hsplit
  obtain rfl : requests = unclaimed (frameDeeds (after ++ .stopped :: older)) :=
    hfair.of_split (frameDeeds_split hsplit)
  rw [frameDeeds_split rfl] at hrequest
  have hmade := mem_frameDeeds_made.mp (made_of_unclaimed hrequest)
  exact List.mem_append_right _ (List.mem_cons_of_mem _ hmade)

/-- After a stop no turn is requested of a task that had one requested before. -/
theorem not_requested_since_stop {newer older : List Event}
    (hlawful : Lawful Stilling (newer ++ .stopped :: older)) {task : Nat}
    (htask : task ∈ turnsOf (chronicle Event.made older)) (ticket : Nat) :
    .requested ⟨ticket, .turn task⟩ ∉ newer := by
  intro hrequested
  obtain ⟨before, after, rfl⟩ := List.append_of_mem hrequested
  rw [List.append_assoc] at hlawful
  have hstilling : Stilling (.requested ⟨ticket, .turn task⟩)
      (after ++ .stopped :: older) := hlawful.of_append.1
  refine hstilling (List.mem_append_right _ List.mem_cons_self) task rfl ?_
  rw [chronicle_append, chronicle_cons, turnsOf_append, turnsOf_append]
  exact List.mem_append_left _ (List.mem_append_left _ htask)

theorem stoppedSince {moment : Rig} (hfinds : (contract blank).finds moment)
    {newer older : List Event} (hsplit : moment.journal = newer ++ .stopped :: older) :
    StoppedSince newer older moment := by
  have hline := Steps.inLine hfinds.1
  have hqueue : moment.refresher.queue = unclaimed (frameDeeds moment.journal) :=
    hline.queue
  have hstilled := Steps.stilled hfinds.1
  have hlawful : Lawful Stilling moment.journal := hstilled.stilling
  rw [hsplit] at hlawful
  have hdeeds := frameDeeds_split hsplit
  constructor
  · apply hstilled.stopped.mpr
    have hstop : .stopped ∈ moment.journal := by
      rw [hsplit]
      exact List.mem_append_right _ List.mem_cons_self
    exact hstop
  · intro request hwaits
    have hdropped := befalls_dropped hline.fair hline.nodup hdeeds hwaits
    exact ⟨hqueue ▸ hdropped.1, hline.unbegun hdropped.2⟩
  · exact fun frame requests => requested_since_stop hline.fair hsplit
  · intro request hqueued
    rw [hqueue, hdeeds] at hqueued
    exact mem_frameDeeds_made.mp (made_of_unclaimed hqueued)
  · exact fun task => not_requested_since_stop hlawful
  · intro task htask frame ticket hbegan
    have hbegun : .begun frame ⟨ticket, .turn task⟩ ∈ frameDeeds moment.journal := by
      rw [mem_frameDeeds_begun, hsplit]
      exact List.mem_append_left _ hbegan
    obtain ⟨_, _, hbefore, requests, htaken, hrequest⟩ := hline.fair.of_mem hbegun
    have hopened : .refreshOpened frame requests ∈ moment.journal := by
      apply mem_frameDeeds_taken.mp
      rw [show frameDeeds moment.journal = _ from hbefore]
      exact List.mem_append_right _ (List.mem_cons_of_mem _ htaken)
    rw [hsplit, List.mem_append, List.mem_cons] at hopened
    rcases hopened with hlater | hstop | hearlier
    · -- A refresh since the stop would have taken a request made since.
      have hrequested := requested_since_stop hline.fair hsplit hlater _ hrequest
      exact absurd hrequested (not_requested_since_stop hlawful htask ticket)
    · cases hstop
    · exact ⟨requests, hearlier, hrequest⟩
  · intro frame requests hearlier
    have hopened : .refreshOpened frame requests ∈ moment.journal := by
      rw [hsplit]
      exact List.mem_append_right _ (List.mem_cons_of_mem _ hearlier)
    rcases hline.turns frame requests (mem_frameDeeds_taken.mpr hopened) with
      hall | ⟨lot, hlot, hserves⟩
    · exact Or.inl hall
    · obtain ⟨batch, hbatch, rfl⟩ := List.mem_map.mp hlot
      exact Or.inr ⟨batch, hbatch, hserves⟩
  · have hnodup := hline.begun_nodup
    rw [begins_frameDeeds] at hnodup
    exact hnodup

/-- As long as nothing panics a stop is final, wherever it happens: in the batches that
have been taken what waits still runs, and nothing that was queued does. -/
theorem stopsForGood {depth : Nat} {script : Script} {rate : Rate} {reportInterval : Nat}
    {moment : Rig} (hpasses : script.Passes depth (Rig.fresh rate reportInterval) moment) :
    StopsForGood moment := by
  have hfresh : (contract blank).finds (Rig.fresh rate reportInterval) :=
    ⟨.refl, fun batch hbatch => by cases hbatch⟩
  have hfinds := (soundOrders blank).finds_moment hpasses script.keepsTo_all hfresh
  constructor
  · exact (Steps.inLine hfinds.1).queue
  · exact halt_apply moment
  · exact fun newer older => stoppedSince hfinds
  · exact fun depth now count later => begunAmong_of_run_refresh hfinds
  · exact runsBatch hfinds
  · exact fun depth number deadline loop hloop hfree answer later =>
      Loop.answer_of_turnByHand hfinds hloop hfree
  · exact fun depth period tick count reached last hgoes answer later hrun hstopped =>
      Loop.run_of_goesOn hfinds hgoes hrun hstopped
  · exact fun depth period tick deadline rig => Loop.breaks_turn

/-- A refresh of three recurring tasks, the second of which requests a frame, stops, and
requests another one, and a turn of a loop after it. -/
def stopping : Script :=
  .routine (fun _ _ => .done .null) fun quiet =>
    .routine (fun _ _ =>
        .order (.refresh (.request quiet)) fun _ =>
          .order (.refresh .stop) fun _ =>
            .order (.refresh (.request quiet)) fun _ => .done .null)
      fun halting =>
        .order (.refresh (.recur quiet)) fun _ =>
          .order (.refresh (.recur halting)) fun _ =>
            .order (.refresh (.recur quiet)) fun _ =>
              .order (.refresh .refresh) fun _ =>
                .order (.loop (.newLoop 60)) fun _ =>
                  .order (.loop (.turn 0 0)) fun _ => .done .null

def stoppedRig : Rig :=
  (stopping.playWithin 2 (Rig.fresh .initial Duration.perSecond)).2

/-- The third task still has its turn, and only the last request is run afterwards. -/
theorem stopsForGood_stopping :
    stopping.Passes 2 (Rig.fresh .initial Duration.perSecond) stoppedRig ∧
      stoppedRig.refresher.stopped = true ∧
      (chronicle Event.made stoppedRig.journal).map (·.ticket) = [0, 1, 2, 3, 4, 5] ∧
      (chronicle Event.begun stoppedRig.journal).map (·.ticket) = [0, 1, 2, 5] ∧
      StopsForGood stoppedRig := by
  have hpasses : stopping.Passes 2 (Rig.fresh .initial Duration.perSecond) stoppedRig :=
    Script.passes_end (by decide +kernel)
  exact ⟨hpasses, by decide +kernel, by decide +kernel, by decide +kernel,
    stopsForGood hpasses⟩

end Refresher

end Cadence
