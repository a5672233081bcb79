import Cadence.Proofs.FrameRequests
import Cadence.Proofs.ServedBatches

/-!
The delivery of frames.  As long as nothing panics, every request is run by the
first refresh after it and by no other, in the order of the requests and with one
frame, whatever the callbacks do and whether or not they fail.
-/

namespace Cadence

open Deed

namespace Refresher

open Refreshing

/-- What a request can count on, by its fate. -/
def Delivered (moment : Rig) (request : FrameRequest) :
    Fate FrameRequest FrameTime → Prop
  | .waits =>
      request ∈ moment.refresher.queue ∧ ¬ Took moment.journal request ∧
        ¬ Began moment.journal request
  | .taken frame requests =>
      .refreshOpened frame requests ∈ moment.journal ∧ request ∈ requests ∧
        (chronicle Event.taken moment.journal).count request = 1 ∧
        (∀ told, .began told request ∈ moment.journal → told = frame) ∧
        (Began moment.journal request ∨
          ∃ batch ∈ moment.refresher.batches,
            batch.frame = frame ∧ request ∈ batch.waiting)
  | .dropped =>
      request ∉ moment.refresher.queue ∧ ¬ Took moment.journal request ∧
        ¬ Began moment.journal request

/-- What is promised of a refresh at some time. -/
structure RunsBatch (depth now : Nat) (rig : Rig) : Prop where
  /-- A refresh that returns has run the whole queue, in its order. -/
  returns : ∀ count later,
    (refresh now rig).run (Script.playWithin depth) = (.value count, later) →
      count = rig.refresher.queue.length ∧
      begunAmong (frameDeeds later.journal) rig.refresher.queue = rig.refresher.queue ∧
      ∃ services, (refresh now rig).handovers (Script.playWithin depth) =
          services.flatMap Service.calls ∧
        List.Forall₂ (fun request service =>
          Serves rig (frameAt now rig) request service ∧
            .ended (frameAt now rig) request service.verdict ∈ later.journal)
          rig.refresher.queue services
  /-- A refresh that does not return broke off in one of its callbacks, which
  neither succeeded nor failed. -/
  breaks :
    ((refresh now rig).run (Script.playWithin depth)).1.isValue = false →
      ∃ before request after middle,
        rig.refresher.queue = before ++ request :: after ∧
        (runAll (frameAt now rig) before (opened now rig)).run
          (Script.playWithin depth) = (.value (), middle) ∧
        ((runWork (frameAt now rig) request.work
          (begun (frameAt now rig) request middle)).run
            (Script.playWithin depth)).1.isValue = false

/-- What is promised of frame requests where nothing panics. -/
structure DeliversFrames (moment : Rig) : Prop where
  /-- What was requested since the latest refresh or stop is queued. -/
  pending : moment.refresher.queue = unclaimed (frameDeeds moment.journal)
  /-- A refresh takes what was requested since the one before or the latest stop. -/
  takes : ∀ newer frame requests older,
    moment.journal = newer ++ .refreshOpened frame requests :: older →
      requests = unclaimed (frameDeeds older)
  /-- A request is taken by the first refresh after it, unless a stop drops it. -/
  delivered : ∀ newer request older,
    moment.journal = newer ++ .requested request :: older →
      Delivered moment request (fate (frameDeeds newer))
  /-- What is requested during a refresh is not part of it. -/
  late : ∀ newer frame requests older,
    moment.journal = newer ++ .refreshOpened frame requests :: older →
      ∀ request, .requested request ∈ newer → request ∉ requests
  once : (chronicle Event.begun moment.journal).Nodup
  /-- A refresh begins all its requests, in their order, or it is under way and has
  begun those that do not wait any more. -/
  begun : ∀ frame requests, .refreshOpened frame requests ∈ moment.journal →
    begunAmong (frameDeeds moment.journal) requests = requests ∨
      ∃ batch ∈ moment.refresher.batches,
        batch.lot.Serves (frameDeeds moment.journal) frame requests
  told : ∀ frame requests, .refreshOpened frame requests ∈ moment.journal →
    ∀ request ∈ requests, ∀ told, .began told request ∈ moment.journal →
      told = frame
  failures : moment.refresher.failures = moment.journal.countP Event.isFailure
  /-- A request and a stop are over at once and call nothing. -/
  asks : ∀ work, ∃ later, ask work moment = .ended (.value ()) later ∧
    later.journal =
      .requested ⟨moment.refresher.nextTicket, work⟩ :: moment.journal
  stops : ∃ later, halt moment = .ended (.value ()) later ∧ .stopped ∈ later.journal
  runs : ∀ depth now, RunsBatch depth now moment

section Run

variable {rig later : Rig} {now depth count : Nat}

theorem opened_of_run_refresh
    (h : (refresh now rig).run (Script.playWithin depth) = (.value count, later)) :
    .refreshOpened (frameAt now rig) rig.refresher.queue ∈ later.journal := by
  obtain ⟨_, middle, hall, rfl⟩ := run_refresh_eq_value h
  have hlasting := Rig.lasting_recorded
    (.refreshOpened (frameAt now rig) rig.refresher.queue)
  have hmiddle := hlasting.runAll hall List.mem_cons_self
  exact hlasting.retireAbandoned
    { middle with refresher := middle.refresher.closeBatch } hmiddle

/-- What was queued when a refresh opened has begun when it returns. -/
theorem begunAmong_of_run_refresh (hfinds : (contract blank).finds rig)
    (h : (refresh now rig).run (Script.playWithin depth) = (.value count, later)) :
    begunAmong (frameDeeds later.journal) rig.refresher.queue =
      rig.refresher.queue := by
  have hleaves := (Refreshing.sound_refresh now rig hfinds).run
    ((soundOrders blank).honoured depth)
  rw [h] at hleaves
  have hlater : (contract blank).finds later :=
    (contract blank).keeps hfinds hleaves
  have hline := Steps.inLine hlater.1
  have hbatches : later.refreshing.batches = rig.refreshing.batches := hleaves.2
  unfold InLine at hline
  rw [hbatches] at hline
  exact (Steps.inLine hfinds.1).begunAmong_of_taken hline
    (mem_frameDeeds_taken.mpr (opened_of_run_refresh h))

theorem runsBatch (hfinds : (contract blank).finds rig) (depth now : Nat) :
    RunsBatch depth now rig := by
  constructor
  · intro count later h
    obtain ⟨hcount, middle, hall, rfl⟩ := run_refresh_eq_value h
    obtain ⟨services, hhandovers, hserves⟩ := serves_runAll hall
    refine ⟨hcount, begunAmong_of_run_refresh hfinds h, services, ?_, ?_⟩
    · rw [handovers_refresh]
      exact hhandovers
    · refine hserves.imp fun request service hserved => ⟨?_, ?_⟩
      · exact hserved.1.earlier (fun _ _ hroutine => hroutine) (.of_tasks rfl)
      · exact (Rig.lasting_recorded _).retireAbandoned
          { middle with refresher := middle.refresher.closeBatch } hserved.2
  · intro h
    rw [isValue_run_refresh] at h
    exact breaks_runAll h

end Run

theorem delivered_fate {rig : Rig} (hline : rig.refreshing.InLine)
    {newer older : List Event} {request : FrameRequest}
    (hsplit : rig.journal = newer ++ .requested request :: older) :
    Delivered rig request (fate (frameDeeds newer)) := by
  have hbefalls := befalls_fate hline.fair hline.nodup (frameDeeds_split hsplit)
  have hqueue : rig.refresher.queue = unclaimed (frameDeeds rig.journal) := hline.queue
  cases hfate : fate (frameDeeds newer) with
  | waits =>
      rw [hfate] at hbefalls
      exact ⟨hqueue ▸ hbefalls.1, hline.unbegun hbefalls.2⟩
  | dropped =>
      rw [hfate] at hbefalls
      exact ⟨hqueue ▸ hbefalls.1, hline.unbegun hbefalls.2⟩
  | taken frame requests =>
      rw [hfate] at hbefalls
      obtain ⟨htaken, hrequest, _, hcount⟩ := hbefalls
      rw [takes_frameDeeds] at hcount
      refine ⟨mem_frameDeeds_taken.mp htaken, hrequest, hcount, fun told hbegan => ?_, ?_⟩
      · exact hline.label_eq htaken hrequest (mem_frameDeeds_begun.mpr hbegan)
      · rcases hline.begun_or_waiting htaken hrequest with
          hbegun | ⟨lot, hlot, hframe, hwaiting⟩
        · rw [begins_frameDeeds] at hbegun
          exact Or.inl (mem_begun.mp hbegun)
        · obtain ⟨batch, hbatch, rfl⟩ := List.mem_map.mp hlot
          exact Or.inr ⟨batch, hbatch, hframe, hwaiting⟩

/-- As long as nothing panics, frames are delivered once, in order, and to the
requests that were made before them. -/
theorem deliversFrames {depth : Nat} {script : Script} {rate : Rate}
    {reportInterval : Nat} {moment : Rig}
    (hpasses : script.Passes depth (Rig.fresh rate reportInterval) moment) :
    DeliversFrames moment := by
  have hfresh : (contract blank).finds (Rig.fresh rate reportInterval) :=
    ⟨.refl, fun batch hbatch => by cases hbatch⟩
  have hfinds := (soundOrders blank).finds_moment hpasses script.keepsTo_all hfresh
  have hline := Steps.inLine hfinds.1
  constructor
  · exact hline.queue
  · intro newer frame requests older hsplit
    exact hline.fair.of_split (frameDeeds_split hsplit)
  · exact fun newer request older hsplit => delivered_fate hline hsplit
  · intro newer frame requests older hsplit request hlater
    have hmade := List.mem_map_of_mem (f := Event.frameDeed) hlater
    exact not_taken_of_later hline.fair hline.nodup (frameDeeds_split hsplit) hmade
  · have hnodup := hline.begun_nodup
    rw [begins_frameDeeds] at hnodup
    exact hnodup
  · intro frame requests hopened
    rcases hline.turns frame requests (mem_frameDeeds_taken.mpr hopened) with
      hall | ⟨lot, hlot, hserves⟩
    · exact Or.inl hall
    · obtain ⟨batch, hbatch, rfl⟩ := List.mem_map.mp hlot
      exact Or.inr ⟨batch, hbatch, hserves⟩
  · intro frame requests hopened request hrequest told hbegan
    exact hline.label_eq (mem_frameDeeds_taken.mpr hopened) hrequest
      (mem_frameDeeds_begun.mpr hbegan)
  · exact Rig.soundOrders_countsFailures.finds_moment hpasses script.keepsTo_all rfl
  · exact fun work => ask_apply work moment
  · exact halt_apply moment
  · exact runsBatch hfinds

/-- A refresh with a callback that runs another refresh, requests a frame that a
stop drops, and fails. -/
def nesting : Script :=
  .routine (fun _ _ => .done .null) fun inner =>
    .routine (fun _ _ =>
        .order (.refresh (.request inner)) fun _ =>
          .order (.refresh .refresh) fun _ =>
            .order (.refresh (.request inner)) fun _ => .fail (.reported "late"))
      fun outer =>
        .order (.refresh (.request outer)) fun _ =>
          .order (.refresh (.request inner)) fun _ =>
            .order (.refresh .refresh) fun _ =>
              .order (.refresh .stop) fun _ => .done .null

def nestingRig : Rig :=
  (nesting.playWithin 3 (Rig.fresh .initial Duration.perSecond)).2

theorem deliversFrames_nesting :
    nesting.Passes 3 (Rig.fresh .initial Duration.perSecond) nestingRig ∧
      (chronicle Event.begun nestingRig.journal).map (·.ticket) = [0, 2, 1] ∧
        nestingRig.refresher.failures = 1 ∧ DeliversFrames nestingRig := by
  have hpasses : nesting.Passes 3 (Rig.fresh .initial Duration.perSecond)
      nestingRig := Script.passes_end (by decide +kernel)
  exact ⟨hpasses, by decide +kernel, by decide +kernel, deliversFrames hpasses⟩

end Refresher

end Cadence
