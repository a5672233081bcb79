import Cadence.Proofs.Queues
import Cadence.Proofs.RefreshCourse

/-!
Frame requests as a queue.  Refreshes take what is queued, stops drop it, and the
batches under way are the lots whose requests have their turns.
-/

namespace Cadence

open Deed

/-- What an event means for the queue of frame requests. -/
def Event.frameDeed : Event → Deed FrameRequest FrameTime
  | .requested request => .made request
  | .refreshOpened frame requests => .taken frame requests
  | .stopped => .emptied
  | .began frame request => .begun frame request
  | _ => .other

theorem Event.frameDeed_of_facet {event : Event} (hfacet : event.facet ≠ .refreshes) :
    event.frameDeed = .other := by
  cases event with
  | requested => exact absurd rfl hfacet
  | refreshOpened => exact absurd rfl hfacet
  | stopped => exact absurd rfl hfacet
  | began => exact absurd rfl hfacet
  | _ => rfl

/-- What has happened to the queue of frame requests. -/
def frameDeeds (journal : List Event) : List (Deed FrameRequest FrameTime) :=
  journal.map Event.frameDeed

section Journals

variable {journal : List Event} {frame : FrameTime} {request : FrameRequest}
  {requests : List FrameRequest}

theorem makes_frameDeeds (journal : List Event) :
    chronicle makes (frameDeeds journal) = chronicle Event.made journal := by
  rw [frameDeeds, chronicle_map]
  congr 1
  funext event
  cases event <;> rfl

theorem takes_frameDeeds (journal : List Event) :
    chronicle takes (frameDeeds journal) = chronicle Event.taken journal := by
  rw [frameDeeds, chronicle_map]
  congr 1
  funext event
  cases event <;> rfl

theorem begins_frameDeeds (journal : List Event) :
    chronicle begins (frameDeeds journal) = chronicle Event.begun journal := by
  rw [frameDeeds, chronicle_map]
  congr 1
  funext event
  cases event <;> rfl

theorem mem_frameDeeds_made :
    .made request ∈ frameDeeds journal ↔ .requested request ∈ journal := by
  rw [frameDeeds, List.mem_map]
  constructor
  · rintro ⟨event, hevent, hdeed⟩
    cases event with
    | requested other =>
        obtain rfl := Deed.made.inj hdeed
        exact hevent
    | _ => cases hdeed
  · exact fun hrequested => ⟨_, hrequested, rfl⟩

theorem mem_frameDeeds_taken :
    .taken frame requests ∈ frameDeeds journal ↔
      .refreshOpened frame requests ∈ journal := by
  rw [frameDeeds, List.mem_map]
  constructor
  · rintro ⟨event, hevent, hdeed⟩
    cases event with
    | refreshOpened told others =>
        obtain ⟨rfl, rfl⟩ := Deed.taken.inj hdeed
        exact hevent
    | _ => cases hdeed
  · exact fun hopened => ⟨_, hopened, rfl⟩

theorem mem_frameDeeds_begun :
    .begun frame request ∈ frameDeeds journal ↔ .began frame request ∈ journal := by
  rw [frameDeeds, List.mem_map]
  constructor
  · rintro ⟨event, hevent, hdeed⟩
    cases event with
    | began told other =>
        obtain ⟨rfl, rfl⟩ := Deed.begun.inj hdeed
        exact hevent
    | _ => cases hdeed
  · exact fun hbegan => ⟨_, hbegan, rfl⟩

theorem frameDeeds_split {newer older : List Event} {event : Event}
    (hsplit : journal = newer ++ event :: older) :
    frameDeeds journal =
      frameDeeds newer ++ event.frameDeed :: frameDeeds older := by
  rw [hsplit, frameDeeds, List.map_append, List.map_cons]
  rfl

end Journals

/-- A batch as a lot of requests. -/
def Batch.lot (batch : Batch) : Lot FrameRequest FrameTime :=
  ⟨batch.frame, batch.current, batch.waiting⟩

namespace Refreshing

/-- Frame requests stand in line. -/
def InLine (state : Refreshing) : Prop :=
  Line (frameDeeds state.journal) state.queue (state.batches.map Batch.lot)

/-- The next request is none that was made before. -/
def FreshTicket (state : Refreshing) : Prop :=
  ∀ work, ⟨state.nextTicket, work⟩ ∉ state.made

variable {state next : Refreshing}

theorem Numbered.freshTicket (h : Numbered blank state) : state.FreshTicket := by
  intro work hmade
  exact Nat.lt_irrefl state.nextTicket (h.bound _ hmade)

theorem FreshTicket.congr (h : state.FreshTicket) (hmade : next.made = state.made)
    (hticket : next.nextTicket = state.nextTicket) : next.FreshTicket := by
  intro work
  rw [hmade, hticket]
  exact h work

namespace InLine

variable {frame : FrameTime} {request : FrameRequest} {rest : List FrameRequest}
  {outer : List Batch}

/-- An event that is nothing to the queue. -/
theorem note {event : Event} (h : state.InLine) (hevent : event.frameDeed = .other) :
    (state.note event).InLine := by
  unfold InLine
  simp only [Refreshing.note, frameDeeds, List.map_cons, hevent]
  exact h.other

theorem make (h : state.InLine) (hfresh : state.FreshTicket) (work : FrameWork) :
    (state.request work).InLine := by
  apply Line.make h
  rw [makes_frameDeeds]
  exact hfresh work

theorem requestAgain (h : state.InLine) (hfresh : state.FreshTicket) (task : Nat) :
    (state.requestAgain task).InLine := by
  unfold Refreshing.requestAgain
  split
  · exact h
  · exact h.make hfresh _

theorem started (h : state.InLine) (work : FrameWork) :
    (state.started work).InLine := by
  cases work with
  | once routine => exact h
  | turn task => exact Line.other h

theorem worked (h : state.InLine) (hfresh : state.FreshTicket) (work : FrameWork) :
    (state.worked work).InLine := by
  cases work with
  | once routine => exact h
  | turn task =>
      have hleft : ((state.mark task false).note (.left (.task task))).InLine :=
        Line.other h
      exact hleft.requestAgain (hfresh.congr (List.append_nil _) rfl) task

theorem begin (h : state.InLine)
    (hbatches : state.batches = ⟨frame, none, request :: rest⟩ :: outer) :
    (state.begin frame request rest outer).InLine := by
  unfold InLine at h
  rw [hbatches] at h
  exact Line.begin h

theorem finish (h : state.InLine)
    (hbatches : state.batches = ⟨frame, some request, rest⟩ :: outer)
    (verdict : Verdict) :
    (state.finish frame request rest outer verdict).InLine := by
  unfold InLine at h
  rw [hbatches] at h
  exact (Line.finish h).other

theorem step (h : state.InLine) (hfresh : state.FreshTicket)
    (hstep : Step true state next) : next.InLine := by
  cases hstep with
  | aside hfacet => exact h.note (Event.frameDeed_of_facet hfacet)
  | ask routine => exact h.make hfresh _
  | recur body => exact h.make hfresh _
  | stop => exact Line.empty h
  | opens frame hattended => exact Line.take h frame
  | @begins frame request rest outer hbatches hstart =>
      exact (h.begin hbatches).started request.work
  | @finishes frame request rest outer verdict hbatches =>
      have hworked := (batches_worked state request.work).trans hbatches
      exact (h.worked hfresh request.work).finish hworked verdict
  | @refuses frame request rest outer task body verdict hbatches hwork hexecuting =>
      have hbegun := hfresh.congr (made_begin state frame request rest outer) rfl
      exact ((h.begin hbatches).requestAgain hbegun task).finish
        (batches_requestAgain _ task) verdict
  | @vanishes frame request rest outer task verdict hbatches hwork hnone =>
      exact (h.begin hbatches).finish rfl verdict
  | aborts horderly => cases horderly
  | @closes frame rest outer hrest hbatches =>
      unfold InLine at h
      rw [hbatches, hrest rfl] at h
      exact Line.close h

/-- What no refresh has taken has not begun. -/
theorem unbegun (h : state.InLine)
    (hnot : request ∉ chronicle takes (frameDeeds state.journal)) :
    ¬ Refresher.Took state.journal request ∧ ¬ Refresher.Began state.journal request := by
  refine ⟨fun htook => hnot ?_, fun hbegan => hnot (h.taken_of_begun ?_)⟩
  · rw [takes_frameDeeds]
    have htaken : request ∈ state.taken := mem_taken.mpr htook
    exact htaken
  · rw [begins_frameDeeds]
    have hbegun : request ∈ state.begun := mem_begun.mpr hbegan
    exact hbegun

end InLine

theorem Steps.inLine (hsteps : Steps true blank state) : state.InLine := by
  have hticketed : blank.Ticketed := ⟨.nil, fun _ hrequest => by cases hrequest⟩
  induction hsteps with
  | refl => exact .nil
  | tail hbefore hstep ih =>
      exact ih.step (Steps.numbered hbefore rfl hticketed).freshTicket hstep

end Refreshing

end Cadence
