import Mathlib.Logic.Relation
import Cadence.Proofs.OrderFrame

/-!
The protocol of refreshes.  Whatever happens on a rig, its refresher takes the
steps below and no others, and a computation that gives the rig back has restored
the batches that were under way.
-/

namespace Cadence

open Contract

/-- What a rig's refresher has come to. -/
structure Refreshing where
  queue : List FrameRequest
  batches : List Batch
  tasks : Array RecurringTask
  nextTicket : Nat
  stopped : Bool
  journal : List Event

def Rig.refreshing (rig : Rig) : Refreshing where
  queue := rig.refresher.queue
  batches := rig.refresher.batches
  tasks := rig.refresher.tasks
  nextTicket := rig.refresher.nextTicket
  stopped := rig.refresher.stopped
  journal := rig.journal

namespace Refreshing

def note (state : Refreshing) (event : Event) : Refreshing :=
  { state with journal := event :: state.journal }

/-- Work is requested for the next refresh. -/
def request (state : Refreshing) (work : FrameWork) : Refreshing :=
  { state with
    queue := state.queue ++ [⟨state.nextTicket, work⟩]
    nextTicket := state.nextTicket + 1
    journal := .requested ⟨state.nextTicket, work⟩ :: state.journal }

def recur (state : Refreshing) (body : TaskBody) : Refreshing :=
  { state with tasks := state.tasks.push ⟨body, false⟩ }.request
    (.turn state.tasks.size)

def requestAgain (state : Refreshing) (task : Nat) : Refreshing :=
  if state.stopped then state else state.request (.turn task)

def mark (state : Refreshing) (task : Nat) (executing : Bool) : Refreshing :=
  { state with
    tasks := state.tasks.modify task fun entry => { entry with executing } }

def withBatches (state : Refreshing) (batches : List Batch) : Refreshing :=
  { state with batches }

/-- Everything requested so far becomes the innermost batch. -/
def openBatch (state : Refreshing) (frame : FrameTime) : Refreshing :=
  { state with
    queue := []
    batches := ⟨frame, none, state.queue⟩ :: state.batches
    journal := .refreshOpened frame state.queue :: state.journal }

def stop (state : Refreshing) : Refreshing :=
  { state with stopped := true, queue := [], journal := .stopped :: state.journal }

/-- The first request of the innermost batch has its turn. -/
def begin (state : Refreshing) (frame : FrameTime) (request : FrameRequest)
    (rest : List FrameRequest) (outer : List Batch) : Refreshing :=
  (state.withBatches (⟨frame, some request, rest⟩ :: outer)).note
    (.began frame request)

/-- The request had its turn. -/
def finish (state : Refreshing) (frame : FrameTime) (request : FrameRequest)
    (rest : List FrameRequest) (outer : List Batch) (verdict : Verdict) :
    Refreshing :=
  (state.withBatches (⟨frame, none, rest⟩ :: outer)).note
    (.ended frame request verdict)

/-- Work that can start: a task must exist and must not execute already. -/
def CanStart (state : Refreshing) : FrameWork → Prop
  | .once _ => True
  | .turn task => ∃ body, state.tasks[task]? = some ⟨body, false⟩

/-- Work that has just started. -/
def started (state : Refreshing) : FrameWork → Refreshing
  | .once _ => state
  | .turn task => (state.mark task true).note (.entered (.task task))

/-- Work that is over; a task requests its next turn. -/
def worked (state : Refreshing) : FrameWork → Refreshing
  | .once _ => state
  | .turn task =>
      ((state.mark task false).note (.left (.task task))).requestAgain task

/-- User code is in control: if a refresh is under way, it is in the middle of a
request. -/
def Attended (state : Refreshing) : Prop :=
  ∀ batch ∈ state.batches.head?, batch.current.isSome

theorem Attended.of_batches {state next : Refreshing} (h : state.Attended)
    (hbatches : next.batches = state.batches) : next.Attended := by
  rw [Attended, hbatches]
  exact h

/-- What can happen to a refresher.  Where it goes by order, no request is cut
short and no batch is left before its end. -/
inductive Step (orderly : Bool) : Refreshing → Refreshing → Prop
  | aside {state event} (hfacet : event.facet ≠ .refreshes) :
      Step orderly state (state.note event)
  | ask {state} (routine : Nat) :
      Step orderly state (state.request (.once routine))
  | recur {state} (body : TaskBody) : Step orderly state (state.recur body)
  | stop {state} : Step orderly state state.stop
  | opens {state} (frame : FrameTime) (hattended : state.Attended) :
      Step orderly state (state.openBatch frame)
  | begins {state frame request rest outer}
      (hbatches : state.batches = ⟨frame, none, request :: rest⟩ :: outer)
      (hstart : state.CanStart request.work) :
      Step orderly state
        ((state.begin frame request rest outer).started request.work)
  | finishes {state frame request rest outer} (verdict : Verdict)
      (hbatches : state.batches = ⟨frame, some request, rest⟩ :: outer) :
      Step orderly state
        ((state.worked request.work).finish frame request rest outer verdict)
  | refuses {state frame request rest outer task body} (verdict : Verdict)
      (hbatches : state.batches = ⟨frame, none, request :: rest⟩ :: outer)
      (hwork : request.work = .turn task)
      (hexecuting : state.tasks[task]? = some ⟨body, true⟩) :
      Step orderly state
        (((state.begin frame request rest outer).requestAgain task).finish frame
          request rest outer verdict)
  | vanishes {state frame request rest outer task} (verdict : Verdict)
      (hbatches : state.batches = ⟨frame, none, request :: rest⟩ :: outer)
      (hwork : request.work = .turn task)
      (hnone : state.tasks[task]? = none) :
      Step orderly state
        ((state.begin frame request rest outer).finish frame request rest outer
          verdict)
  | aborts {state frame request rest outer} (horderly : orderly = false)
      (hbatches : state.batches = ⟨frame, some request, rest⟩ :: outer) :
      Step orderly state
        ((state.worked request.work).withBatches (⟨frame, none, rest⟩ :: outer))
  | closes {state frame rest outer} (hrest : orderly = true → rest = [])
      (hbatches : state.batches = ⟨frame, none, rest⟩ :: outer) :
      Step orderly state (state.withBatches outer)

/-- A run of a refresher. -/
abbrev Steps (orderly : Bool) : Refreshing → Refreshing → Prop :=
  Relation.ReflTransGen (Step orderly)

theorem Step.of_orderly {state next : Refreshing} (h : Step true state next)
    (orderly : Bool) : Step orderly state next := by
  cases h with
  | aside hfacet => exact .aside hfacet
  | ask routine => exact .ask routine
  | recur body => exact .recur body
  | stop => exact .stop
  | opens frame hattended => exact .opens frame hattended
  | begins hbatches hstart => exact .begins hbatches hstart
  | finishes verdict hbatches => exact .finishes verdict hbatches
  | refuses verdict hbatches hwork hexecuting =>
      exact .refuses verdict hbatches hwork hexecuting
  | vanishes verdict hbatches hwork hnone =>
      exact .vanishes verdict hbatches hwork hnone
  | aborts horderly => cases horderly
  | closes hrest hbatches => exact .closes (fun _ => hrest rfl) hbatches

theorem Steps.of_orderly {state next : Refreshing} (h : Steps true state next)
    (orderly : Bool) : Steps orderly state next :=
  h.lift id fun _ _ hstep => hstep.of_orderly orderly

/-- Runs that start as a refresher goes by order: user code finds it there, and
leaves the batches as it found them. -/
def contract (start : Refreshing) : Contract where
  allowed _ := True
  finds rig := Steps true start rig.refreshing ∧ rig.refreshing.Attended
  leaves rig ending later :=
    Steps ending.isValue rig.refreshing later.refreshing ∧
      later.refresher.batches = rig.refresher.batches
  refl _ := ⟨.refl, rfl⟩
  trans := by
    intro rig middle later ending hfirst hsecond
    refine ⟨?_, hsecond.2.trans hfirst.2⟩
    exact (Steps.of_orderly hfirst.1 _).trans hsecond.1
  keeps := by
    intro rig later hfinds hleaves
    exact ⟨hfinds.1.trans hleaves.1, hfinds.2.of_batches hleaves.2⟩
  bound _ := Rig.keepsTo_all _
  enrolls := fun _ _ => ⟨.refl, rfl⟩

variable {start : Refreshing}

theorem ignores_touch {facet : Facet} (hfacet : facet ≠ .refreshes) :
    (contract start).Ignores facet := by
  intro rig ending middle later hleaves htouch
  cases htouch with
  | refreshes => exact absurd rfl hfacet
  | event event hevent =>
      have haside : event.facet ≠ .refreshes := hevent ▸ hfacet
      exact ⟨hleaves.1.tail (.aside haside), hleaves.2⟩
  | _ => exact hleaves

theorem ignoresAll_sides : (contract start).IgnoresAll Facet.sides := by
  intro facet hfacet
  apply ignores_touch
  rintro rfl
  exact absurd hfacet (by decide)

theorem allowsTurns : (contract start).AllowsTurns :=
  .of_ignores (ignoresAll_sides.of_subset Facet.rendering_subset_sides)
    (ignores_touch (by decide)) (ignores_touch (by decide))
    (ignores_touch (by decide))

theorem allowsPacing : (contract start).AllowsPacing :=
  .of_ignores (ignores_touch (by decide))
    (ignores_touch (by decide)) (ignores_touch (by decide))
    (ignores_touch (by decide))

@[simp] theorem batches_begin (state : Refreshing) (frame : FrameTime)
    (request : FrameRequest) (rest : List FrameRequest) (outer : List Batch) :
    (state.begin frame request rest outer).batches =
      ⟨frame, some request, rest⟩ :: outer := rfl

@[simp] theorem batches_finish (state : Refreshing) (frame : FrameTime)
    (request : FrameRequest) (rest : List FrameRequest) (outer : List Batch)
    (verdict : Verdict) :
    (state.finish frame request rest outer verdict).batches =
      ⟨frame, none, rest⟩ :: outer := rfl

@[simp] theorem batches_requestAgain (state : Refreshing) (task : Nat) :
    (state.requestAgain task).batches = state.batches := by
  unfold requestAgain
  split <;> rfl

@[simp] theorem batches_started (state : Refreshing) (work : FrameWork) :
    (state.started work).batches = state.batches := by
  cases work <;> rfl

@[simp] theorem batches_worked (state : Refreshing) (work : FrameWork) :
    (state.worked work).batches = state.batches := by
  cases work with
  | once routine => rfl
  | turn task => exact batches_requestAgain _ task

theorem refreshing_requestNext (task : Nat) (rig : Rig) :
    (Refresher.requestNext task rig).refreshing =
      rig.refreshing.requestAgain task := by
  unfold Refresher.requestNext Refresher.requestAgain requestAgain
  cases hstopped : rig.refresher.stopped <;>
    simp [Rig.refreshing, hstopped, request, Refresher.request]

theorem refreshing_beginRequest {rig : Rig} {frame : FrameTime}
    {request : FrameRequest} {rest : List FrameRequest} {outer : List Batch}
    (hbatches : rig.refresher.batches = ⟨frame, none, request :: rest⟩ :: outer) :
    ({ rig with
        refresher := rig.refresher.beginRequest
        journal := .began frame request :: rig.journal } : Rig).refreshing =
      rig.refreshing.begin frame request rest outer := by
  simp [Rig.refreshing, Refresher.beginRequest, Refresher.modifyBatch, hbatches,
    begin, withBatches, note]

theorem refreshing_endRequest {rig : Rig} {frame : FrameTime}
    {request : FrameRequest} {rest : List FrameRequest} {outer : List Batch}
    (hbatches : rig.refresher.batches = ⟨frame, some request, rest⟩ :: outer) :
    ({ rig with refresher := rig.refresher.endRequest } : Rig).refreshing =
      rig.refreshing.withBatches (⟨frame, none, rest⟩ :: outer) := by
  simp [Rig.refreshing, Refresher.endRequest, Refresher.modifyBatch, hbatches,
    withBatches]

/-- Retiring drivers leaves refreshes alone. -/
theorem steps_retireAbandoned (orderly : Bool) (rig : Rig) :
    Steps orderly rig.refreshing rig.retireAbandoned.refreshing ∧
      rig.retireAbandoned.refresher = rig.refresher := by
  refine Rig.retireAbandoned_induct
    (fun later => Steps orderly rig.refreshing later.refreshing ∧
      later.refresher = rig.refresher)
    (fun number moment _ hmoment => ?_) ⟨.refl, rfl⟩
  have hfacet : (Event.unsubscribed (.driver number)).facet ≠ .refreshes :=
    Facet.noConfusion
  exact ⟨hmoment.1.tail (.aside hfacet), hmoment.2⟩

/-- What the turn of a request has led to when it is to be ended. -/
inductive Worked (orderly : Bool) (state : Refreshing) (frame : FrameTime)
    (request : FrameRequest) (rest : List FrameRequest) (outer : List Batch) :
    Refreshing → Prop
  | executed {middle : Refreshing} (hstart : state.CanStart request.work)
      (hsteps : Steps orderly
        ((state.begin frame request rest outer).started request.work) middle)
      (hbatches : middle.batches = ⟨frame, some request, rest⟩ :: outer) :
      Worked orderly state frame request rest outer (middle.worked request.work)
  | refused {task body} (horderly : orderly = true)
      (hwork : request.work = .turn task)
      (hexecuting : state.tasks[task]? = some ⟨body, true⟩) :
      Worked orderly state frame request rest outer
        ((state.begin frame request rest outer).requestAgain task)
  | vanished {task} (horderly : orderly = true)
      (hwork : request.work = .turn task) (hnone : state.tasks[task]? = none) :
      Worked orderly state frame request rest outer
        (state.begin frame request rest outer)

section Worked

variable {state later : Refreshing} {frame : FrameTime} {request : FrameRequest}
  {rest : List FrameRequest} {outer : List Batch}

theorem Worked.batches {orderly : Bool}
    (h : Worked orderly state frame request rest outer later) :
    later.batches = ⟨frame, some request, rest⟩ :: outer := by
  cases h with
  | executed hstart hsteps hbatches => rw [batches_worked, hbatches]
  | refused => rw [batches_requestAgain, batches_begin]
  | vanished => rfl

theorem Worked.finishes
    (h : Worked true state frame request rest outer later)
    (hbatches : state.batches = ⟨frame, none, request :: rest⟩ :: outer)
    (verdict : Verdict) :
    Steps true state (later.finish frame request rest outer verdict) := by
  cases h with
  | executed hstart hsteps hmiddle =>
      have hbegins : Steps true state _ := .single (.begins hbatches hstart)
      exact (hbegins.trans hsteps).tail (.finishes verdict hmiddle)
  | refused _ hwork hexecuting =>
      exact .single (.refuses verdict hbatches hwork hexecuting)
  | vanished _ hwork hnone => exact .single (.vanishes verdict hbatches hwork hnone)

theorem Worked.aborts
    (h : Worked false state frame request rest outer later)
    (hbatches : state.batches = ⟨frame, none, request :: rest⟩ :: outer) :
    Steps false state (later.withBatches (⟨frame, none, rest⟩ :: outer)) := by
  cases h with
  | executed hstart hsteps hmiddle =>
      have hbegins : Steps false state _ := .single (.begins hbatches hstart)
      exact (hbegins.trans hsteps).tail (.aborts rfl hmiddle)
  | refused horderly => cases horderly
  | vanished horderly => cases horderly

end Worked

section Sound

variable {rig : Rig} {frame : FrameTime} {request : FrameRequest}
  {rest : List FrameRequest} {outer : List Batch}

theorem respects_runTask {task : Nat} (hsteps : Steps true start rig.refreshing)
    (hbatches : rig.refresher.batches = ⟨frame, none, request :: rest⟩ :: outer)
    (hwork : request.work = .turn task) {begun : Rig}
    (hbegun : begun.refreshing =
      rig.refreshing.begin frame request rest outer) :
    (Refresher.runTask frame task begun).Respects (contract start)
      fun ending later =>
        Worked ending.isValue rig.refreshing frame request rest outer
          later.refreshing := by
  have htasks : begun.refresher.tasks = rig.refreshing.tasks :=
    congrArg Refreshing.tasks hbegun
  simp only [Refresher.runTask, Exec.bind_apply, Exec.look_apply,
    Progress.andThen]
  rcases hentry : begun.refresher.tasks[task]? with _ | ⟨body, executing⟩
  · have hnone : rig.refreshing.tasks[task]? = none := by rw [← htasks, hentry]
    show Worked true _ _ _ _ _ begun.refreshing
    rw [hbegun]
    exact .vanished rfl hwork hnone
  · rw [htasks] at hentry
    cases executing with
    | true =>
        show Worked true _ _ _ _ _ (Refresher.requestNext task begun).refreshing
        rw [refreshing_requestNext, hbegun]
        exact .refused rfl hwork hentry
    | false =>
        have hstart : rig.refreshing.CanStart request.work := by
          rw [hwork]
          exact ⟨body, hentry⟩
        have hbegins := hsteps.tail (.begins hbatches hstart)
        rw [hwork, ← hbegun] at hbegins
        have hbody : (contract start).Sound (Refresher.runBody frame body) := by
          cases body with
          | routine routine =>
              exact (ignoresAll_sides .calls (by decide)).sound_call _ _
          | driver number =>
              exact Driver.sound_taskTurn allowsTurns number frame
        have hattended : (begun.refreshing.started (.turn task)).Attended := by
          rw [hbegun]
          intro batch hbatch
          cases hbatch
          rfl
        simp only [Bool.false_eq_true, if_false, Exec.ensuring_apply,
          Exec.within_apply, Progress.respects_atEnd]
        refine (hbody { Refresher.markOnRig task true begun with
          journal := .entered (.task task) :: begun.journal }
          ⟨hbegins, hattended⟩).imp ?_
        intro ending later hleaves
        rw [refreshing_requestNext]
        have hmiddle : later.refreshing.batches =
            ⟨frame, some request, rest⟩ :: outer :=
          hleaves.2.trans (congrArg Refreshing.batches hbegun)
        have hmarked := hleaves.1
        change Steps _ (begun.refreshing.started (.turn task)) _ at hmarked
        rw [Ending.isValue_plain, hbegun, ← hwork] at hmarked
        have hover := Worked.executed hstart hmarked hmiddle
        rw [hwork] at hover
        exact hover

theorem respects_runWork (hsteps : Steps true start rig.refreshing)
    (hbatches : rig.refresher.batches = ⟨frame, none, request :: rest⟩ :: outer)
    {begun : Rig}
    (hbegun : begun.refreshing =
      rig.refreshing.begin frame request rest outer) :
    (Refresher.runWork frame request.work begun).Respects (contract start)
      fun ending later =>
        Worked ending.isValue rig.refreshing frame request rest outer
          later.refreshing := by
  cases hwork : request.work with
  | turn task => exact respects_runTask hsteps hbatches hwork hbegun
  | once routine =>
      have hstart : rig.refreshing.CanStart request.work := by
        rw [hwork]
        trivial
      have hbegins := hsteps.tail (.begins hbatches hstart)
      rw [hwork, ← hbegun] at hbegins
      have hattended : begun.refreshing.Attended := by
        rw [hbegun]
        intro batch hbatch
        cases hbatch
        rfl
      have hcalls : (contract start).Ignores .calls := ignores_touch (by decide)
      have hcall := hcalls.sound_call routine (.refresh frame) begun
        ⟨hbegins, hattended⟩
      apply hcall.imp
      intro ending later hleaves
      have hmiddle : later.refreshing.batches =
          ⟨frame, some request, rest⟩ :: outer :=
        hleaves.2.trans (congrArg Refreshing.batches hbegun)
      have hcalled := hleaves.1
      rw [Ending.isValue_plain, hbegun] at hcalled
      have hover : Worked ending.isValue rig.refreshing frame request rest outer
          (later.refreshing.worked request.work) := by
        refine .executed hstart ?_ hmiddle
        rw [hwork]
        exact hcalled
      rw [hwork] at hover
      exact hover

/-- A turn that is cut short. -/
theorem steps_of_cut {later : Rig}
    (hworked : Worked false rig.refreshing frame request rest outer
      later.refreshing)
    (hbatches : rig.refresher.batches =
      ⟨frame, none, request :: rest⟩ :: outer) :
    let ended := { later with
      refresher := later.refresher.endRequest }.retireAbandoned
    Steps false rig.refreshing ended.refreshing ∧
      ended.refresher.batches = ⟨frame, none, rest⟩ :: outer := by
  have hended := refreshing_endRequest hworked.batches
  have hretired := steps_retireAbandoned false
    { later with refresher := later.refresher.endRequest }
  rw [hended] at hretired
  refine ⟨(hworked.aborts hbatches).trans hretired.1, ?_⟩
  rw [hretired.2]
  exact congrArg Refreshing.batches hended

/-- A turn that comes to its end. -/
theorem steps_of_ended {later : Rig} (verdict : Verdict)
    (hworked : Worked true rig.refreshing frame request rest outer
      later.refreshing)
    (hbatches : rig.refresher.batches =
      ⟨frame, none, request :: rest⟩ :: outer) :
    let ended := { later with
      refresher := later.refresher.endRequest
      journal := .ended frame request verdict :: later.journal }.retireAbandoned
    Steps true rig.refreshing ended.refreshing ∧
      ended.refresher.batches = ⟨frame, none, rest⟩ :: outer := by
  have hended : ({ later with
      refresher := later.refresher.endRequest
      journal := .ended frame request verdict :: later.journal } : Rig).refreshing =
        later.refreshing.finish frame request rest outer verdict :=
    congrArg (·.note (.ended frame request verdict))
      (refreshing_endRequest hworked.batches)
  have hretired := steps_retireAbandoned true { later with
    refresher := later.refresher.endRequest
    journal := .ended frame request verdict :: later.journal }
  rw [hended] at hretired
  refine ⟨(hworked.finishes hbatches verdict).trans hretired.1, ?_⟩
  rw [hretired.2]
  exact congrArg Refreshing.batches hended

/-- A request takes its place in the batch and nothing more. -/
theorem respects_runRequest (hsteps : Steps true start rig.refreshing)
    (hbatches : rig.refresher.batches =
      ⟨frame, none, request :: rest⟩ :: outer) :
    (Refresher.runRequest frame request rig).Respects (contract start)
      fun ending later =>
        Steps ending.isValue rig.refreshing later.refreshing ∧
          later.refresher.batches = ⟨frame, none, rest⟩ :: outer := by
  simp only [Refresher.runRequest, Refresher.modify, Exec.bind_apply,
    Exec.ensuring_apply, Exec.update_apply, Exec.record_apply,
    Progress.andThen, Progress.respects_andThen, Progress.respects_atEnd]
  refine (respects_runWork hsteps hbatches
    (refreshing_beginRequest hbatches)).imp ?_
  intro ending later hworked
  cases ending with
  | panicked cause => exact steps_of_cut hworked hbatches
  | exhausted => exact steps_of_cut hworked hbatches
  | value verdict =>
      have hended := steps_of_ended verdict hworked hbatches
      cases verdict with
      | ok answer => exact hended
      | error failure =>
          have hlogged : (Event.logged
              (Refresher.failureNotice frame failure)).facet ≠ .refreshes :=
            Facet.noConfusion
          exact ⟨hended.1.tail (.aside hlogged), hended.2⟩

/-- A refresh goes through its batch, and leaves the rest of it if it is cut
short. -/
theorem respects_runAll (requests : List FrameRequest)
    (hsteps : Steps true start rig.refreshing)
    (hbatches : rig.refresher.batches = ⟨frame, none, requests⟩ :: outer) :
    (Refresher.runAll frame requests rig).Respects (contract start)
      fun ending later => ∃ rest, (ending.isValue = true → rest = []) ∧
        Steps ending.isValue rig.refreshing later.refreshing ∧
          later.refresher.batches = ⟨frame, none, rest⟩ :: outer := by
  induction requests generalizing rig with
  | nil => exact ⟨[], fun _ => rfl, .refl, hbatches⟩
  | cons request rest ih =>
      rw [Refresher.runAll, Exec.bind_apply, Progress.respects_andThen]
      apply (respects_runRequest hsteps hbatches).imp
      intro ending middle hrequest
      cases ending with
      | panicked cause => exact ⟨rest, Bool.noConfusion, hrequest⟩
      | exhausted => exact ⟨rest, Bool.noConfusion, hrequest⟩
      | value done =>
          apply (ih (hsteps.trans hrequest.1) hrequest.2).imp
          rintro ending later ⟨left, hleft, hrest⟩
          refine ⟨left, hleft, ?_, hrest.2⟩
          exact (Steps.of_orderly hrequest.1 _).trans hrest.1

theorem sound_refresh (now : Nat) :
    (contract start).Sound (Refresher.refresh now) := by
  intro rig hfinds
  simp only [Refresher.refresh, Exec.bind_apply, Exec.look_apply,
    Exec.log_apply, Exec.update_apply, Exec.record_apply, Exec.ensuring_apply,
    Progress.andThen, Progress.respects_andThen, Progress.respects_atEnd]
  have hdiary : (contract start).Ignores .diary := ignores_touch (by decide)
  have hfound : (contract start).leaves rig (.value ()) rig := ⟨.refl, rfl⟩
  have hlogged := hdiary.admits_log
    ((rig.refresher.measureNotice now).reverse) hfound
  have hkept := (contract start).keeps hfinds hlogged
  have hopens := hlogged.1.tail
    (.opens (rig.refresher.openBatch now).1.frame hkept.2)
  refine Progress.Respects.imp ?_
    (respects_runAll _ (hfinds.1.trans hopens :) rfl)
  rintro ending later ⟨rest, hrest, hsteps, hbatches⟩
  have hclosed : ({ later with
      refresher := later.refresher.closeBatch } : Rig).refreshing =
        later.refreshing.withBatches rig.refresher.batches := by
    simp [Rig.refreshing, Refresher.closeBatch, withBatches, hbatches]
  have hretired := steps_retireAbandoned ending.isValue
    { later with refresher := later.refresher.closeBatch }
  rw [hclosed] at hretired
  have hcloses := hsteps.tail (.closes hrest hbatches)
  have hrun := ((Steps.of_orderly hopens _).trans hcloses).trans hretired.1
  have hrestored := (congrArg Refresher.batches hretired.2).trans
    (congrArg Refreshing.batches hclosed)
  cases ending <;> exact ⟨hrun, hrestored⟩

theorem sound_ask (routine : Nat) :
    (contract start).Sound (Refresher.ask (.once routine)) :=
  fun _ _ => ⟨.single (.ask routine), rfl⟩

theorem sound_repeatedly (routine : Nat) :
    (contract start).Sound (Refresher.repeatedly routine) :=
  fun _ _ => ⟨.single (.recur (.routine routine)), rfl⟩

theorem sound_start (number : Nat) :
    (contract start).Sound (Driver.start number) := by
  have hhandles : (contract start).Ignores .handles := ignores_touch (by decide)
  apply (sound_look _).bind
  intro driver
  split
  · exact sound_pure _
  · apply (sound_look _).bind
    intro owed
    split
    · exact sound_pure _
    · refine Sound.bind ?_ fun _ => ?_
      · exact (hhandles.admits_generation number).sound
      · intro rig _
        have hlogged : (Event.logged Driver.startedNotice).facet ≠ .refreshes :=
          Facet.noConfusion
        exact ⟨.tail (.single (.recur (.driver number))) (.aside hlogged), rfl⟩

theorem sound_halt : (contract start).Sound Refresher.halt := by
  have hdiary : (contract start).Ignores .diary := ignores_touch (by decide)
  apply (sound_look _).bind
  intro refresher
  apply (hdiary.sound_log _).seq
  intro rig hfinds
  have hretired := steps_retireAbandoned true { rig with
    refresher := rig.refresher.stop, journal := .stopped :: rig.journal }
  exact ⟨.head .stop hretired.1, (congrArg Refresher.batches hretired.2 :)⟩

theorem allowsRefreshes : (contract start).AllowsRefreshes where
  asks := sound_ask
  repeats := sound_repeatedly
  starts := sound_start
  refreshes := sound_refresh
  halts := sound_halt

/-- Whatever user code orders, the refresher goes by its protocol. -/
theorem soundOrders (start : Refreshing) : (contract start).SoundOrders :=
  Contract.soundOrders ignoresAll_sides allowsPacing allowsTurns allowsRefreshes

end Sound

end Refreshing

end Cadence
