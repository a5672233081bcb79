import Cadence.Driver.Turn

/-!
Running refreshes.  A refresh runs its requests in the order they were made.
An error of one is counted and logged and has no influence on the others.  A
recurring task requests its next turn when its body is over, whether it
succeeded, failed or unwound.
-/

namespace Cadence.Refresher

open Exec

def modify (change : Refresher → Refresher) : Exec Unit :=
  update fun rig => { rig with refresher := change rig.refresher }

def ask (work : FrameWork) : Exec Unit := do
  let ticket ← look (·.refresher.nextTicket)
  modify (·.request work)
  record (.requested ⟨ticket, work⟩)

/-- Makes a routine a recurring task. -/
def repeatedly (routine : Nat) : Exec Unit := do
  let ticket ← look (·.refresher.nextTicket)
  let task ← look (·.refresher.tasks.size)
  modify (·.recur (.routine routine))
  record (.requested ⟨ticket, .turn task⟩)

def runBody (frame : FrameTime) : TaskBody → Exec Verdict
  | .routine routine => call routine (.refresh frame)
  | .driver number => Driver.taskTurn number frame

def markOnRig (task : Nat) (executing : Bool) (rig : Rig) : Rig :=
  { rig with refresher := rig.refresher.mark task executing }

/-- The next turn of a task is requested. -/
def requestNext (task : Nat) (rig : Rig) : Rig :=
  let journal :=
    if rig.refresher.stopped then rig.journal
    else .requested ⟨rig.refresher.nextTicket, .turn task⟩ :: rig.journal
  { rig with refresher := rig.refresher.requestAgain task, journal }

/-- One turn of a recurring task; a task that executes already refuses. -/
def runTask (frame : FrameTime) (task : Nat) : Exec Verdict := do
  match ← look (·.refresher.tasks[task]?) with
  | none => return .ok ()
  | some entry =>
      let body : Exec Verdict :=
        if entry.executing then return .error .taskReentered
        else within (.task task) (markOnRig task) (runBody frame entry.body)
      body.ensuring (requestNext task)

def runWork (frame : FrameTime) : FrameWork → Exec Verdict
  | .once routine => call routine (.refresh frame)
  | .turn task => runTask frame task

def runRequest (frame : FrameTime) (request : FrameRequest) :
    Exec Unit := do
  let run : Exec Verdict := do
    modify (·.beginRequest)
    record (.began frame request)
    let verdict ← runWork frame request.work
    record (.ended frame request verdict)
    return verdict
  let verdict ← run.ensuring fun rig =>
    { rig with refresher := rig.refresher.endRequest }.retireAbandoned
  match verdict with
  | .ok _ => return ()
  | .error failure =>
      modify fun refresher => { refresher with failures := refresher.failures + 1 }
      log [failureNotice frame failure]

/-- Runs the requests of a refresh one after the other. -/
def runAll (frame : FrameTime) : List FrameRequest → Exec Unit
  | [] => return ()
  | request :: rest => do
      runRequest frame request
      runAll frame rest

/-- One refresh at `now`; answers how many requests it took. -/
def refresh (now : Nat) : Exec Nat := do
  let (batch, opened) ← look (·.refresher.openBatch now)
  log ((← look (·.refresher)).measureNotice now)
  update fun rig => { rig with refresher := opened }
  record (.refreshOpened batch.frame batch.waiting)
  (runAll batch.frame batch.waiting).ensuring fun rig =>
    { rig with refresher := rig.refresher.closeBatch }.retireAbandoned
  return batch.waiting.length

/-- Ends all refreshes and drops the requests that are still queued. -/
def halt : Exec Unit := do
  log (← look (·.refresher)).stopNotice
  record .stopped
  update fun rig =>
    { rig with refresher := rig.refresher.stop }.retireAbandoned

def perform : (order : RefreshOrder) → Exec order.Answer
  | .request routine => ask (.once routine)
  | .recur routine => repeatedly routine
  | .refresh => do refresh (← look (·.now))
  | .stop => halt
  | .frameIndex => look (·.refresher.frameIndex)
  | .describe => look fun rig => rig.refresher.describe (rig.mailbox 0)

end Cadence.Refresher
