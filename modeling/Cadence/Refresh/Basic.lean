import Cadence.Decimal.Fixed
import Cadence.Failure
import Cadence.Log
import Cadence.Mailbox.Basic
import Cadence.Refresh.Meter

/-!
Refreshes: callbacks are requested for the next one, and each refresh takes all
requests made before it as its batch.  Batches that are being run are part of
the state, so that it shows at every moment what is still to come.
-/

namespace Cadence

/-- What every callback of one refresh is told. -/
structure FrameTime where
  now : Nat
  /-- Time since the refresh before; zero for the first. -/
  elapsed : Nat
  index : Nat
  /-- The refresh rate measured last, in hertz. -/
  measuredRate : Option Binary64
deriving DecidableEq, Repr

/-- What is run at a refresh: a routine once, or a turn of a recurring task. -/
inductive FrameWork
  | once (routine : Nat)
  | turn (task : Nat)
deriving DecidableEq, Repr

/-- A request for the next refresh; its ticket tells it from all others. -/
structure FrameRequest where
  ticket : Nat
  work : FrameWork
deriving DecidableEq, Repr

/-- What a recurring task does on its turn: a caller's routine, or a turn of a
driver. -/
inductive TaskBody
  | routine (routine : Nat)
  | driver (driver : Nat)
deriving DecidableEq, Repr

/-- A recurring task, marked while its body executes. -/
structure RecurringTask where
  body : TaskBody
  executing : Bool
deriving DecidableEq, Repr

/-- The requests of a refresh that is under way: the one that executes, and
those that have not had their turn. -/
structure Batch where
  frame : FrameTime
  current : Option FrameRequest
  waiting : List FrameRequest
deriving DecidableEq, Repr

/-- Whether a task has a turn in a batch that is not finished. -/
def Batch.owes (batch : Batch) (task : Nat) : Bool :=
  let owed (request : FrameRequest) : Bool := request.work == .turn task
  batch.current.any owed || batch.waiting.any owed

/-- Requests for refreshes, and the batches under way, the innermost first. -/
structure Refresher where
  queue : List FrameRequest
  batches : List Batch
  tasks : Array RecurringTask
  nextTicket : Nat
  stopped : Bool
  frameIndex : Nat
  lastFrame : Option Nat
  meter : RateMeter
  failures : Nat

namespace Refresher

/-- A refresher that measures its rate over a given window. -/
def ofWindow (window : Nat) : Refresher where
  queue := []
  batches := []
  tasks := #[]
  nextTicket := 0
  stopped := false
  frameIndex := 0
  lastFrame := none
  meter := .ofWindow window
  failures := 0

instance : Inhabited Refresher := ⟨ofWindow Duration.perSecond⟩

def request (refresher : Refresher) (work : FrameWork) : Refresher :=
  { refresher with
    queue := refresher.queue ++ [⟨refresher.nextTicket, work⟩]
    nextTicket := refresher.nextTicket + 1 }

/-- Adds a recurring task and queues its first turn. -/
def recur (refresher : Refresher) (body : TaskBody) : Refresher :=
  { refresher with tasks := refresher.tasks.push ⟨body, false⟩ }.request
    (.turn refresher.tasks.size)

/-- Queues the next turn of a task, unless refreshes have been stopped. -/
def requestAgain (refresher : Refresher) (task : Nat) : Refresher :=
  if refresher.stopped then refresher else refresher.request (.turn task)

/-- Ends all refreshes and drops everything queued. -/
def stop (refresher : Refresher) : Refresher :=
  { refresher with stopped := true, queue := [] }

def mark (refresher : Refresher) (task : Nat) (executing : Bool) : Refresher :=
  { refresher with
    tasks := refresher.tasks.modify task fun entry => { entry with executing } }

/-- Frame indices are machine words. -/
def indexLimit : Nat := UInt64.size

/-- What a refresh at `now` tells its callbacks, and the state once it has been
counted and measured. -/
def openFrame (refresher : Refresher) (now : Nat) : FrameTime × Refresher :=
  let meter := (refresher.meter.tick now).2
  let frame : FrameTime :=
    { now
      elapsed := (refresher.lastFrame.map (Duration.since now)).getD 0
      index := refresher.frameIndex
      measuredRate := meter.rate }
  (frame,
    { refresher with
      frameIndex := (refresher.frameIndex + 1) % indexLimit
      lastFrame := some now
      meter })

/-- All requests so far become the batch of a refresh at `now`. -/
def openBatch (refresher : Refresher) (now : Nat) : Batch × Refresher :=
  let (frame, opened) := refresher.openFrame now
  let batch : Batch := ⟨frame, none, refresher.queue⟩
  (batch, { opened with queue := [], batches := batch :: opened.batches })

def modifyBatch (refresher : Refresher) (change : Batch → Batch) : Refresher :=
  match refresher.batches with
  | [] => refresher
  | batch :: outer => { refresher with batches := change batch :: outer }

/-- The first waiting request of the innermost batch becomes the current
one. -/
def beginRequest (refresher : Refresher) : Refresher :=
  refresher.modifyBatch fun batch =>
    { batch with current := batch.waiting.head?, waiting := batch.waiting.tail }

/-- The current request of the innermost batch is done. -/
def endRequest (refresher : Refresher) : Refresher :=
  refresher.modifyBatch fun batch => { batch with current := none }

/-- Leaves the innermost batch, dropping what is left of it. -/
def closeBatch (refresher : Refresher) : Refresher :=
  { refresher with batches := refresher.batches.tail }

/-- Whether a task has a turn queued or in a batch under way. -/
def owes (refresher : Refresher) (task : Nat) : Bool :=
  refresher.queue.any (fun request => request.work == .turn task) ||
    refresher.batches.any (·.owes task)

/-- Whether a driver has a turn queued or in a batch under way. -/
def owesDriver (refresher : Refresher) (driver : Nat) : Bool :=
  (List.range refresher.tasks.size).any fun task =>
    (refresher.tasks[task]?.any fun entry => entry.body == .driver driver) &&
      refresher.owes task

/-- The text of a refresher with its mailbox, for inspection. -/
def describe (refresher : Refresher) (mailbox : Mailbox) : String :=
  "Host \x7b pending_frames: " ++ Nat.repr refresher.queue.length ++
    ", immediate: " ++ mailbox.describe ++ ", frame_index: " ++
    Nat.repr refresher.frameIndex ++ ", stopped: " ++
    toString refresher.stopped ++ " \x7d"

private def line (level : Log.Level) (message : String) : Log.Line :=
  ⟨level, Log.targetOf "host", message⟩

def stopNotice (refresher : Refresher) : List Log.Line :=
  if refresher.stopped then []
  else
    [line .info ("host stopping after " ++ Nat.repr refresher.frameIndex ++
      " frames")]

/-- What is logged when a callback of a refresh fails. -/
def failureNotice (frame : FrameTime) (failure : Failure) : Log.Line :=
  line .error ("frame " ++ Nat.repr frame.index ++ " callback failed: " ++
    failure.message)

/-- What is logged when a refresh at `now` closes a measuring window. -/
def measureNotice (refresher : Refresher) (now : Nat) : List Log.Line :=
  match (refresher.meter.tick now).1 with
  | none => []
  | some rate => [line .debug ("refresh rate " ++ Decimal.fixed 1 rate ++ "Hz")]

def loopNotice (period : Nat) : Log.Line :=
  line .info ("event loop running, refresh every " ++ Duration.text period)

def finishedNotice (refresher : Refresher) : Log.Line :=
  line .info ("event loop finished after " ++ Nat.repr refresher.frameIndex ++
    " frames, " ++ Nat.repr refresher.failures ++ " failed callbacks")

end Refresher

end Cadence
