import Cadence.Proofs.DriverFrame
import Cadence.Refresh.Deliver

/-!
Frames of refreshes.  A refresh keeps to every contract that admits what it does to
the refresher by itself, whatever its requests run.
-/

namespace Cadence

open Exec Contract

variable {contract : Contract}

namespace Facet

/-- What user code is called with, and lines. -/
def asides : List Facet := [.calls, .diary]

theorem asides_subset_rendering : asides ⊆ rendering := by
  decide

end Facet

/-- What requests frames, or ends refreshes, is sound. -/
structure Contract.AllowsRequests (contract : Contract) : Prop where
  asks : ∀ routine, contract.Sound (Refresher.ask (.once routine))
  repeats : ∀ routine, contract.Sound (Refresher.repeatedly routine)
  starts : ∀ number, contract.Sound (Driver.start number)
  halts : contract.Sound Refresher.halt

/-- What touches refreshes is sound. -/
structure Contract.AllowsRefreshes (contract : Contract) : Prop
    extends contract.AllowsRequests where
  refreshes : ∀ now, contract.Sound (Refresher.refresh now)

namespace Refresher

/-- A refresh opens. -/
def opensOnRig (now : Nat) (rig : Rig) : Rig :=
  let (batch, opened) := rig.refresher.openBatch now
  { rig with
    refresher := opened
    journal := .refreshOpened batch.frame batch.waiting :: rig.journal }

/-- The end of a request's turn, with its verdict. -/
def concluded (frame : FrameTime) (request : FrameRequest) (verdict : Verdict)
    (rig : Rig) : Rig :=
  let ended := { rig with
    refresher := rig.refresher.endRequest
    journal := .ended frame request verdict :: rig.journal }.retireAbandoned
  match verdict with
  | .ok _ => ended
  | .error failure =>
      { ended with
        refresher :=
          { ended.refresher with failures := ended.refresher.failures + 1 }
        journal := .logged (failureNotice frame failure) :: ended.journal }

/-- How far refreshes have been counted and measured. -/
structure Gauge where
  frameIndex : Nat
  lastFrame : Option Nat
  meter : RateMeter

def gauge (refresher : Refresher) : Gauge :=
  ⟨refresher.frameIndex, refresher.lastFrame, refresher.meter⟩

/-- A change of the requests, which leaves tasks, failures and what is measured as they
are. -/
structure Shifts (change : Refresher → Refresher) : Prop where
  tasks : ∀ refresher, (change refresher).tasks = refresher.tasks
  failures : ∀ refresher, (change refresher).failures = refresher.failures
  gauge : ∀ refresher, (change refresher).gauge = refresher.gauge

namespace Shifts

theorem modifyBatch (change : Batch → Batch) :
    Shifts (·.modifyBatch change) := by
  constructor
  all_goals
    intro refresher
    unfold Refresher.modifyBatch
    split <;> rfl

theorem requestAgain (task : Nat) : Shifts (·.requestAgain task) := by
  constructor
  all_goals
    intro refresher
    unfold Refresher.requestAgain
    split <;> rfl

end Shifts

end Refresher

/-- Events of refreshes other than the opening of one, the end of a request's turn,
and the coming and going of tasks. -/
def Event.isPassing : Event → Bool
  | .refreshOpened _ _ => false
  | .ended _ _ _ => false
  | .entered _ => false
  | .left _ => false
  | _ => true

/-- What refreshes do to a rig by themselves is admitted, except for opening
one. -/
structure Contract.AllowsMoves (contract : Contract) : Prop where
  changes : ∀ {change : Refresher → Refresher}, Refresher.Shifts change →
    contract.Admits fun rig => { rig with refresher := change rig.refresher }
  recurs : ∀ body, contract.Admits fun rig =>
    { rig with refresher := rig.refresher.recur body }
  runs : ∀ {frame}, (∀ body, contract.Sound (Refresher.runBody frame body)) →
    ∀ task, contract.Sound (Refresher.runTask frame task)
  events : ∀ event : Event, event.facet = .refreshes → event.isPassing = true →
    contract.Admits fun rig => { rig with journal := event :: rig.journal }
  concludes : ∀ frame request verdict,
    contract.Admits (Refresher.concluded frame request verdict)

/-! ### Refreshes, for a contract that admits what they do by themselves -/

namespace Refresher

/-- The next turn of a task may be requested. -/
theorem admits_requestNext
    (hchanges : ∀ {change : Refresher → Refresher}, Shifts change →
      contract.Admits fun rig => { rig with refresher := change rig.refresher })
    (hevents : ∀ request, contract.Admits fun rig =>
      { rig with journal := .requested request :: rig.journal }) (task : Nat) :
    contract.Admits (requestNext task) := by
  intro rig ending middle hleaves
  have hagain := hchanges (.requestAgain task) hleaves
  unfold requestNext
  split
  · exact hagain
  · exact hevents _ hagain

/-- The turn of a task that does not execute is its body, with the mark set. -/
theorem runTask_of_free {rig : Rig} {task : Nat} {entry : RecurringTask}
    (hentry : rig.refresher.tasks[task]? = some entry) (hfree : entry.executing = false)
    (frame : FrameTime) :
    runTask frame task rig =
      ((within (.task task) (markOnRig task) (runBody frame entry.body)).ensuring
        (requestNext task)) rig := by
  simp [runTask, Progress.andThen, hentry, hfree]

/-- A task that executes refuses, and requests its next turn. -/
theorem runTask_of_executing {rig : Rig} {task : Nat} {entry : RecurringTask}
    (hentry : rig.refresher.tasks[task]? = some entry)
    (hexecuting : entry.executing = true) (frame : FrameTime) :
    runTask frame task rig =
      .ended (.value (.error .taskReentered)) (requestNext task rig) := by
  simp [runTask, Progress.andThen, Progress.atEnd, hentry, hexecuting]

/-- A turn of a task is sound if its body is, and if its mark may be set. -/
theorem sound_runTask {frame : FrameTime} {task : Nat}
    (henters : contract.Admits fun rig =>
      { markOnRig task true rig with journal := .entered (.task task) :: rig.journal })
    (hleaves : contract.Admits fun rig =>
      { markOnRig task false rig with journal := .left (.task task) :: rig.journal })
    (hnext : contract.Admits (requestNext task))
    (hbody : ∀ body, contract.Sound (runBody frame body)) :
    contract.Sound (runTask frame task) := by
  apply (sound_look _).bind
  intro entry
  split
  · exact sound_pure _
  · refine Sound.ensuring ?_ hnext
    split
    · exact sound_pure _
    · exact (hbody _).within henters hleaves

namespace Aside

variable (hmoves : contract.AllowsMoves)
  (hasides : contract.IgnoresAll Facet.asides)
  (hturns : contract.AllowsTurns)

include hmoves

theorem sound_modify {change : Refresher → Refresher} (hchange : Shifts change) :
    contract.Sound (modify change) :=
  (hmoves.changes hchange).sound

theorem sound_record {event : Event} (hfacet : event.facet = .refreshes)
    (hpassing : event.isPassing = true) : contract.Sound (record event) :=
  (hmoves.events event hfacet hpassing).sound

theorem sound_ask (work : FrameWork) : contract.Sound (ask work) := by
  have hrequest : Shifts (·.request work) := ⟨fun _ => rfl, fun _ => rfl, fun _ => rfl⟩
  apply (sound_look _).bind
  intro ticket
  apply (sound_modify hmoves hrequest).seq
  exact sound_record hmoves rfl rfl

theorem sound_repeatedly (routine : Nat) :
    contract.Sound (repeatedly routine) := by
  apply (sound_look _).bind
  intro ticket
  apply (sound_look _).bind
  intro task
  apply (hmoves.recurs (.routine routine)).sound.seq
  exact sound_record hmoves rfl rfl

variable (hstarts : ∀ number, contract.Admits fun rig =>
  { rig with
    drivers := rig.drivers.modify number fun driver =>
      { driver with generation := driver.generation + 1 } })

include hasides

include hstarts in
theorem sound_start (number : Nat) : contract.Sound (Driver.start number) := by
  have hdiary := hasides .diary (by decide)
  apply (sound_look _).bind
  intro driver
  split
  · exact sound_pure _
  · apply (sound_look _).bind
    intro owed
    split
    · exact sound_pure _
    · apply (hstarts number).sound.seq
      apply (sound_look _).bind
      intro ticket
      apply (sound_look _).bind
      intro task
      apply (hmoves.recurs (.driver number)).sound.seq
      apply (sound_record hmoves rfl rfl).seq
      exact (hdiary.sound_log _).bind fun _ => sound_pure _

include hturns

theorem sound_halt : contract.Sound halt := by
  have hdiary := hasides .diary (by decide)
  have hstops : contract.Admits fun rig =>
      { rig with refresher := rig.refresher.stop } :=
    hmoves.changes ⟨fun _ => rfl, fun _ => rfl, fun _ => rfl⟩
  apply (sound_look _).bind
  intro refresher
  apply (hdiary.sound_log _).seq
  apply (sound_record hmoves rfl rfl).seq
  exact (hstops.comp hturns.retires).sound

include hstarts in
theorem allowsRequests : contract.AllowsRequests where
  asks _ := sound_ask hmoves _
  repeats := sound_repeatedly hmoves
  starts := sound_start hmoves hasides hstarts
  halts := sound_halt hmoves hasides hturns

omit hmoves in
theorem sound_runBody (frame : FrameTime) (body : TaskBody) :
    contract.Sound (runBody frame body) := by
  have hcalls := hasides .calls (by decide)
  cases body with
  | routine routine => exact hcalls.sound_call _ _
  | driver number => exact Driver.sound_taskTurn hturns _ frame

theorem sound_runWork (frame : FrameTime) (work : FrameWork) :
    contract.Sound (runWork frame work) := by
  have hcalls := hasides .calls (by decide)
  cases work with
  | once routine => exact hcalls.sound_call _ _
  | turn task => exact hmoves.runs (sound_runBody hasides hturns frame) task

theorem sound_runRequest (frame : FrameTime) (request : FrameRequest) :
    contract.Sound (runRequest frame request) := by
  have hbegins : contract.Admits fun rig =>
      { rig with refresher := rig.refresher.beginRequest } :=
    hmoves.changes (.modifyBatch _)
  have hends : contract.Admits fun rig =>
      { rig with refresher := rig.refresher.endRequest } :=
    hmoves.changes (.modifyBatch _)
  have hbegan : contract.Admits fun rig =>
      { rig with journal := .began frame request :: rig.journal } :=
    hmoves.events (.began frame request) rfl rfl
  have hworks := (sound_runWork hmoves hasides hturns frame
    request.work).after (hbegins.comp hbegan)
  intro rig hfinds
  simp only [runRequest, modify, bind_apply, ensuring_apply, update_apply,
    record_apply, Progress.andThen, Progress.respects_andThen,
    Progress.respects_atEnd]
  apply (hworks rig hfinds).imp
  intro ending later hleaves
  cases ending with
  | panicked cause => exact (hends.comp hturns.retires) hleaves
  | exhausted => exact (hends.comp hturns.retires) hleaves
  | value verdict =>
      have hconcluded := hmoves.concludes frame request verdict hleaves
      cases verdict <;> exact hconcluded

theorem sound_runAll (frame : FrameTime) (requests : List FrameRequest) :
    contract.Sound (runAll frame requests) := by
  induction requests with
  | nil => exact sound_pure ()
  | cons request rest ih =>
      exact (sound_runRequest hmoves hasides hturns frame request).bind
        fun _ => ih

variable (hopens : ∀ now, contract.Admits (opensOnRig now))

include hopens

theorem sound_refresh (now : Nat) : contract.Sound (refresh now) := by
  have hdiary := hasides .diary (by decide)
  have hcloses : contract.Admits fun rig =>
      { rig with refresher := rig.refresher.closeBatch } :=
    hmoves.changes ⟨fun _ => rfl, fun _ => rfl, fun _ => rfl⟩
  intro rig hfinds
  simp only [refresh, bind_apply, look_apply, log_apply, update_apply,
    record_apply, ensuring_apply, Progress.andThen, Progress.respects_andThen,
    Progress.respects_atEnd]
  have hlogged := hdiary.admits_log (rig.refresher.measureNotice now).reverse
    (contract.refl hfinds : contract.leaves rig (.value ()) rig)
  have htaken := hopens now hlogged
  refine ((sound_runAll hmoves hasides hturns _ _) _
    (contract.keeps hfinds htaken)).imp ?_
  intro ending later hleaves
  have hrun := (hcloses.comp hturns.retires) (contract.trans htaken hleaves)
  cases ending <;> exact hrun

include hstarts in
theorem allowsRefreshes : contract.AllowsRefreshes where
  toAllowsRequests := allowsRequests hmoves hasides hturns hstarts
  refreshes := sound_refresh hmoves hasides hturns hopens

end Aside

end Refresher

/-- What refreshes do by themselves is admitted if changes of the refresher are, and
events, other than the opening of a refresh. -/
theorem Contract.AllowsMoves.of_admits
    (hchanges : ∀ change : Refresher → Refresher,
      (∀ refresher, (change refresher).gauge = refresher.gauge) →
        contract.Admits fun rig => { rig with refresher := change rig.refresher })
    (hevents : ∀ event : Event, event.facet = .refreshes →
      (∀ frame requests, event ≠ .refreshOpened frame requests) →
        contract.Admits fun rig => { rig with journal := event :: rig.journal })
    (hdiary : contract.Ignores .diary) (hturns : contract.AllowsTurns) :
    contract.AllowsMoves where
  changes hchange := hchanges _ hchange.gauge
  recurs body := hchanges (·.recur body) fun _ => rfl
  runs hbody task := by
    have hmark (executing : Bool) :
        contract.Admits (Refresher.markOnRig task executing) :=
      hchanges (·.mark task executing) fun _ => rfl
    have hentered := hevents (.entered (.task task)) rfl fun _ _ => Event.noConfusion
    have hleft := hevents (.left (.task task)) rfl fun _ _ => Event.noConfusion
    have hrequested (request : FrameRequest) :=
      hevents (.requested request) rfl fun _ _ => Event.noConfusion
    exact Refresher.sound_runTask ((hmark true).comp hentered)
      ((hmark false).comp hleft)
      (Refresher.admits_requestNext (fun hchange => hchanges _ hchange.gauge) hrequested
        task) hbody
  events event hfacet hpassing := by
    refine hevents event hfacet fun frame requests hopened => ?_
    rw [hopened] at hpassing
    cases hpassing
  concludes frame request verdict := by
    have hends : contract.Admits fun rig =>
        { rig with refresher := rig.refresher.endRequest } :=
      hchanges (·.endRequest) (Refresher.Shifts.modifyBatch _).gauge
    have hended : contract.Admits fun rig =>
        { rig with journal := .ended frame request verdict :: rig.journal } :=
      hevents _ rfl fun _ _ => Event.noConfusion
    have hover := (hends.comp hended).comp hturns.retires
    cases verdict with
    | ok answer => exact hover
    | error failure =>
        have hcounts : contract.Admits fun rig =>
            { rig with
              refresher :=
                { rig.refresher with failures := rig.refresher.failures + 1 } } :=
          hchanges (fun refresher =>
            { refresher with failures := refresher.failures + 1 }) fun _ => rfl
        have hlogs : contract.Admits fun rig =>
            { rig with
              journal := .logged (Refresher.failureNotice frame failure) ::
                rig.journal } :=
          hdiary.admits_event rfl
        exact hover.comp (hcounts.comp hlogs)

/-- A contract that is not concerned with refreshes admits what they do. -/
theorem Contract.AllowsMoves.of_ignores (hrefreshes : contract.Ignores .refreshes)
    (hdiary : contract.Ignores .diary) (hturns : contract.AllowsTurns) :
    contract.AllowsMoves :=
  .of_admits (fun _ _ => hrefreshes.admits fun _ => .refreshes _)
    (fun _ hfacet _ => hrefreshes.admits_event hfacet) hdiary hturns

theorem Contract.Ignores.admits_opensOnRig (hrefreshes : contract.Ignores .refreshes)
    (now : Nat) : contract.Admits (Refresher.opensOnRig now) := by
  have hopens : contract.Admits fun rig =>
      { rig with refresher := (rig.refresher.openBatch now).2 } :=
    hrefreshes.admits fun _ => .refreshes _
  intro rig ending middle hleaves
  have hopened : (Event.refreshOpened (middle.refresher.openBatch now).1.frame
      (middle.refresher.openBatch now).1.waiting).facet = .refreshes := rfl
  exact hrefreshes.admits_event hopened (hopens hleaves)

/-- Drivers may be started if a contract is not concerned with their handles. -/
theorem Contract.Ignores.admits_generation (hhandles : contract.Ignores .handles)
    (number : Nat) : contract.Admits fun rig =>
      { rig with
        drivers := rig.drivers.modify number fun driver =>
          { driver with generation := driver.generation + 1 } } :=
  hhandles.admits_driver number fun _ => rfl

/-- Everything is well with a contract that is not concerned with refreshes. -/
theorem Contract.AllowsRefreshes.of_ignores
    (hrefreshes : contract.Ignores .refreshes)
    (hrendering : contract.IgnoresAll Facet.rendering)
    (hturns : contract.AllowsTurns) : contract.AllowsRefreshes := by
  have hasides := hrendering.of_subset Facet.asides_subset_rendering
  have hhandles := hrendering .handles (by decide)
  exact Refresher.Aside.allowsRefreshes
    (.of_ignores hrefreshes (hasides .diary (by decide)) hturns)
    hasides hturns hhandles.admits_generation fun now =>
      hrefreshes.admits_opensOnRig now

end Cadence
