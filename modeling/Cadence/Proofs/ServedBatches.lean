import Mathlib.Data.List.Forall2
import Cadence.Proofs.Handovers
import Cadence.Proofs.StandingTasks

/-!
What a refresh does with its batch.  It calls what was requested, one request after
the other, and tells all of them the same frame; nothing but a request that does
not come to its end keeps it from the others.
-/

namespace Cadence

open Exec Contract

namespace Refresher

variable {play : Play} {frame : FrameTime} {rig : Rig}

/-- The frame of a refresh at some time. -/
def frameAt (now : Nat) (rig : Rig) : FrameTime :=
  (rig.refresher.openFrame now).1

/-- A refresh has taken what was queued. -/
def opened (now : Nat) (rig : Rig) : Rig :=
  { rig with
    refresher := (rig.refresher.openBatch now).2
    journal := .refreshOpened (frameAt now rig) rig.refresher.queue ::
      ((rig.refresher.measureNotice now).reverse.map Event.logged ++ rig.journal) }

/-- The first request that waits has just begun. -/
def begun (frame : FrameTime) (request : FrameRequest) (rig : Rig) : Rig :=
  { rig with
    refresher := rig.refresher.beginRequest
    journal := .began frame request :: rig.journal }

/-- The innermost batch is left. -/
def closed (rig : Rig) : Rig :=
  { rig with refresher := rig.refresher.closeBatch }.retireAbandoned

/-- What follows a turn for its verdict. -/
def reckon (frame : FrameTime) : Verdict → Exec Unit
  | .ok _ => return ()
  | .error failure => do
      modify fun refresher => { refresher with failures := refresher.failures + 1 }
      Exec.log [failureNotice frame failure]

/-- A request is made at once. -/
theorem ask_apply (work : FrameWork) (rig : Rig) :
    ∃ later, ask work rig = .ended (.value ()) later ∧
      later.journal =
        .requested ⟨rig.refresher.nextTicket, work⟩ :: rig.journal :=
  ⟨_, rfl, rfl⟩

/-- A stop happens at once. -/
theorem halt_apply (rig : Rig) :
    ∃ later, halt rig = .ended (.value ()) later ∧ .stopped ∈ later.journal := by
  refine ⟨_, rfl, ?_⟩
  exact (Rig.lasting_recorded .stopped).retireAbandoned
    { rig with
      refresher := rig.refresher.stop
      journal := .stopped ::
        (rig.refresher.stopNotice.reverse.map Event.logged ++ rig.journal) }
    List.mem_cons_self

/-- A refresh is its batch, from its opening on. -/
theorem refresh_apply (now : Nat) (rig : Rig) :
    refresh now rig =
      ((runAll (frameAt now rig) rig.refresher.queue).ensuring closed >>= fun _ =>
        (pure rig.refresher.queue.length : Exec Nat)) (opened now rig) :=
  rfl

theorem run_refresh_eq_value {now count : Nat} {later : Rig}
    (h : (refresh now rig).run play = (.value count, later)) :
    count = rig.refresher.queue.length ∧ ∃ middle,
      (runAll (frameAt now rig) rig.refresher.queue (opened now rig)).run play =
        (.value (), middle) ∧ closed middle = later := by
  rw [refresh_apply, bind_apply, ensuring_apply] at h
  obtain ⟨_, _, hran, hanswer⟩ := Progress.run_andThen_eq_value h
  obtain ⟨middle, hall, hclosed⟩ := Progress.run_atEnd_eq_value hran
  cases hanswer
  exact ⟨rfl, middle, hall, hclosed⟩

/-- A refresh calls nothing but what its requests call. -/
theorem handovers_refresh (now : Nat) (rig : Rig) :
    (refresh now rig).handovers play =
      (runAll (frameAt now rig) rig.refresher.queue (opened now rig)).handovers
        play := by
  rw [refresh_apply, bind_apply, ensuring_apply,
    Progress.handovers_andThen_of_nil fun _ _ => rfl, Progress.handovers_atEnd]

theorem isValue_run_refresh (now : Nat) (rig : Rig) :
    ((refresh now rig).run play).1.isValue =
      ((runAll (frameAt now rig) rig.refresher.queue (opened now rig)).run
        play).1.isValue := by
  rw [refresh_apply, bind_apply, ensuring_apply, Progress.run_andThen,
    Progress.run_atEnd]
  rcases (runAll (frameAt now rig) rig.refresher.queue (opened now rig)).run play
    with ⟨ending, later⟩
  cases ending <;> rfl

/-- A request is its work, from its beginning to the count of its failure. -/
theorem runRequest_apply (frame : FrameTime) (request : FrameRequest) (rig : Rig) :
    runRequest frame request rig =
      ((runWork frame request.work >>= fun verdict => do
          record (.ended frame request verdict)
          return verdict).ensuring (fun later =>
        { later with refresher := later.refresher.endRequest }.retireAbandoned) >>=
          reckon frame) (begun frame request rig) :=
  rfl

/-- A request comes to its end if its work does, whatever the verdict. -/
theorem isValue_run_runRequest (frame : FrameTime) (request : FrameRequest)
    (rig : Rig) :
    ((runRequest frame request rig).run play).1.isValue =
      ((runWork frame request.work (begun frame request rig)).run
        play).1.isValue := by
  rw [runRequest_apply, bind_apply, ensuring_apply, bind_apply,
    Progress.run_andThen, Progress.run_atEnd, Progress.run_andThen]
  rcases (runWork frame request.work (begun frame request rig)).run play
    with ⟨ending, later⟩
  cases ending with
  | value verdict => cases verdict <;> rfl
  | panicked cause => rfl
  | exhausted => rfl

theorem handovers_runRequest (frame : FrameTime) (request : FrameRequest)
    (rig : Rig) :
    (runRequest frame request rig).handovers play =
      (runWork frame request.work (begun frame request rig)).handovers play := by
  have hreckon (verdict : Verdict) (later : Rig) :
      (reckon frame verdict later).handovers play = [] := by
    cases verdict <;> rfl
  rw [runRequest_apply, bind_apply, ensuring_apply, bind_apply,
    Progress.handovers_andThen_of_nil hreckon, Progress.handovers_atEnd,
    Progress.handovers_andThen_of_nil fun _ _ => rfl]

/-- The verdict of a request that comes to its end is that of its work, and is
recorded. -/
theorem run_runRequest_eq_value {request : FrameRequest} {later : Rig}
    (h : (runRequest frame request rig).run play = (.value (), later)) :
    ∃ verdict middle,
      (runWork frame request.work (begun frame request rig)).run play =
        (.value verdict, middle) ∧
      .ended frame request verdict ∈ later.journal := by
  rw [runRequest_apply, bind_apply, ensuring_apply, bind_apply] at h
  obtain ⟨verdict, ended, hended, hreckoned⟩ := Progress.run_andThen_eq_value h
  obtain ⟨noted, hnoted, rfl⟩ := Progress.run_atEnd_eq_value hended
  obtain ⟨_, middle, hworked, hrecorded⟩ := Progress.run_andThen_eq_value hnoted
  cases hrecorded
  refine ⟨verdict, middle, hworked, ?_⟩
  have hlasting := Rig.lasting_recorded (.ended frame request verdict)
  have hretired := hlasting.retireAbandoned { middle with
    refresher := middle.refresher.endRequest
    journal := .ended frame request verdict :: middle.journal } List.mem_cons_self
  cases verdict with
  | ok answer =>
      cases hreckoned
      exact hretired
  | error failure =>
      cases hreckoned
      exact List.mem_cons_of_mem _ hretired

/-- How a request was served: what it called, and its verdict. -/
structure Service where
  calls : List Handover
  verdict : Verdict

/-- A course was called once, told the frame, and its answer is the verdict. -/
def Service.Calls (service : Service) (course : Course) (frame : FrameTime) : Prop :=
  ∃ call answer,
    service.calls = [⟨course call (.refresh frame), .value answer⟩] ∧
      service.verdict = answer.map fun _ => ()

/-- What becomes of a request in a batch that began with a rig. -/
structure Serves (rig : Rig) (frame : FrameTime) (request : FrameRequest)
    (service : Service) : Prop where
  /-- A routine that was requested once is called once. -/
  once : ∀ routine course, request.work = .once routine → rig.Runs routine course →
    service.Calls course frame
  /-- On the turn of a task, its routine is called once. -/
  turn : ∀ task routine course, request.work = .turn task →
    rig.refresher.tasks[task]? = some ⟨.routine routine, false⟩ →
      rig.Runs routine course → service.Calls course frame
  /-- A task that executes refuses, and nothing is called. -/
  refuses : ∀ task body, request.work = .turn task →
    rig.refresher.tasks[task]? = some ⟨body, true⟩ →
      service = ⟨[], .error .taskReentered⟩

/-- Requests are served as they would have been at an earlier moment, if the routines
and the tasks of that moment are still there. -/
theorem Serves.earlier {later : Rig} {request : FrameRequest} {service : Service}
    (h : Serves later frame request service)
    (hruns : ∀ routine course, rig.Runs routine course → later.Runs routine course)
    (htasks : rig.KeepsTasks later) : Serves rig frame request service where
  once routine course hwork hroutine :=
    h.once routine course hwork (hruns routine course hroutine)
  turn task routine course hwork htask hroutine :=
    h.turn task routine course hwork (htasks task _ htask) (hruns routine course hroutine)
  refuses task body hwork htask := h.refuses task body hwork (htasks task _ htask)

theorem calls_of_run {routine : Nat} {course : Course} {verdict : Verdict} {later : Rig}
    (hroutine : rig.Runs routine course)
    (h : (call routine (.refresh frame) rig).run play = (.value verdict, later)) :
    Service.Calls ⟨(call routine (.refresh frame) rig).handovers play, verdict⟩
      course frame := by
  obtain ⟨entry, hentry, rfl⟩ := hroutine.exists_entry
  exact ⟨entry.calls, run_call_eq_value hentry h⟩

theorem serves_runWork {request : FrameRequest} {verdict : Verdict} {later : Rig}
    (h : (runWork frame request.work rig).run play = (.value verdict, later)) :
    Serves rig frame request
      ⟨(runWork frame request.work rig).handovers play, verdict⟩ := by
  constructor
  · intro routine course hwork hroutine
    rw [hwork, runWork] at h ⊢
    exact calls_of_run hroutine h
  · intro task routine course hwork htask hroutine
    rw [hwork, runWork, runTask_of_free htask rfl, ensuring_apply, within_apply] at h ⊢
    rw [Progress.handovers_atEnd, Progress.handovers_atEnd]
    obtain ⟨unmarked, hbody, -⟩ := Progress.run_atEnd_eq_value h
    obtain ⟨middle, hcalled, -⟩ := Progress.run_atEnd_eq_value hbody
    exact calls_of_run hroutine hcalled
  · intro task body hwork htask
    rw [hwork, runWork, runTask_of_executing htask rfl] at h ⊢
    obtain ⟨hverdict, -⟩ := Prod.mk.inj h
    rw [← Ending.value.inj hverdict]
    rfl

theorem serves_runRequest {request : FrameRequest} {later : Rig}
    (h : (runRequest frame request rig).run play = (.value (), later)) :
    ∃ verdict, .ended frame request verdict ∈ later.journal ∧
      Serves rig frame request
        ⟨(runRequest frame request rig).handovers play, verdict⟩ := by
  obtain ⟨verdict, middle, hworked, hended⟩ := run_runRequest_eq_value h
  refine ⟨verdict, hended, ?_⟩
  rw [handovers_runRequest]
  refine (serves_runWork hworked).earlier (fun _ _ hroutine => hroutine) ?_
  exact .of_tasks ((Shifts.modifyBatch _).tasks rig.refresher)

section Batches

variable {depth : Nat}

/-- A batch that is gone through serves its requests one after the other. -/
theorem serves_runAll {requests : List FrameRequest} {later : Rig}
    (h : (runAll frame requests rig).run (Script.playWithin depth) =
      (.value (), later)) :
    ∃ services, (runAll frame requests rig).handovers (Script.playWithin depth) =
        services.flatMap Service.calls ∧
      List.Forall₂ (fun request service => Serves rig frame request service ∧
        .ended frame request service.verdict ∈ later.journal) requests services := by
  induction requests generalizing rig with
  | nil => exact ⟨[], rfl, .nil⟩
  | cons request rest ih =>
      rw [runAll, bind_apply] at h ⊢
      obtain ⟨_, middle, hfirst, hrest⟩ := Progress.run_andThen_eq_value h
      obtain ⟨verdict, hended, hserved⟩ := serves_runRequest hfirst
      obtain ⟨services, hhandovers, hserves⟩ := ih hrest
      refine ⟨_ :: services, ?_, .cons ⟨hserved, ?_⟩ ?_⟩
      · rw [Progress.handovers_andThen, hfirst, List.flatMap_cons, ← hhandovers]
      · exact (Rig.lasting_recorded _).runAll hrest hended
      · refine hserves.imp fun other service hother => ⟨?_, hother.2⟩
        refine hother.1.earlier (fun routine course hroutine => ?_)
          (keepsTasks_runRequest hfirst)
        exact (Rig.lasting_runs routine course).runRequest hfirst hroutine

/-- A batch that is not gone through broke off at a request that did not come to
its end. -/
theorem breaks_runAll {requests : List FrameRequest}
    (h : ((runAll frame requests rig).run play).1.isValue = false) :
    ∃ before request after middle, requests = before ++ request :: after ∧
      (runAll frame before rig).run play = (.value (), middle) ∧
        ((runWork frame request.work (begun frame request middle)).run
          play).1.isValue = false := by
  induction requests generalizing rig with
  | nil => cases h
  | cons request rest ih =>
      rw [runAll, bind_apply, Progress.run_andThen] at h
      rcases hfirst : (runRequest frame request rig).run play with ⟨ending, middle⟩
      rw [hfirst] at h
      cases ending with
      | value done =>
          obtain ⟨before, other, after, last, rfl, hbefore, hother⟩ := ih h
          refine ⟨request :: before, other, after, last, rfl, ?_, hother⟩
          rw [runAll, bind_apply, Progress.run_andThen, hfirst]
          exact hbefore
      | panicked cause =>
          refine ⟨[], request, rest, rig, rfl, rfl, ?_⟩
          rw [← isValue_run_runRequest, hfirst]
          rfl
      | exhausted =>
          refine ⟨[], request, rest, rig, rfl, rfl, ?_⟩
          rw [← isValue_run_runRequest, hfirst]
          rfl

end Batches

end Refresher

end Cadence
