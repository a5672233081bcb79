import Cadence.Rig.Perform
import Cadence.Scenario.Action

/-!
Running a scenario: its actions are performed on a rig one after the other, and
each yields a result, what was written down and logged meanwhile, and a summary
of the rig.
-/

namespace Cadence.Scenario

/-- What comes of one action. -/
structure Report where
  result : Datum
  notes : List Datum
  log : List Log.Line
  summary : Datum

/-- What comes of a scenario. -/
structure Outcome where
  /-- What was logged while the rig was built. -/
  log : List Log.Line
  reports : List Report

/-- How a rig is built. -/
structure Setup where
  rate : Rate
  reportInterval : Nat

def Setup.standard : Setup := ⟨.initial, RateMeter.standard.window⟩

/-- The state of a rig that every report shows. -/
def summary (rig : Rig) : Datum :=
  .list
    [.ofTime rig.now, .ofNat rig.pace.rate.cycles.toNat,
      .number rig.pace.rate.frameTime, .bool rig.pace.running,
      .ofNat rig.pace.observers.length, .ofNat (rig.mailbox 0).queue.length,
      .ofNat rig.refresher.queue.length, .ofNat rig.refresher.frameIndex,
      .ofNat rig.refresher.failures, .bool rig.refresher.stopped,
      .bool rig.isIdle, rateDatum rig.refresher.meter.rate]

def panicDatum (cause : Panic) : Datum :=
  .record [("error", .text "panic"), ("message", .text cause.message)]

def endingDatum : Ending (Except Failure Datum) → Datum
  | .value (.ok result) => result
  | .value (.error failure) => failureDatum failure
  | .panicked cause => panicDatum cause
  | .exhausted => .record [("error", .text "exhausted")]

/-- What was written down, in order. -/
def notesOf (events : List Event) : List Datum :=
  events.filterMap fun event =>
    match event with
    | .noted datum => some datum
    | _ => none

/-- The lines that reports show: those that are not for debugging. -/
def logOf (events : List Event) : List Log.Line :=
  events.filterMap fun event =>
    match event with
    | .logged line =>
        if line.level.rank ≤ Log.Level.info.rank then some line else none
    | _ => none

/-- Performs one action from outside, on an empty journal. -/
def perform (rig : Rig) (action : Action) : Report × Rig :=
  let script := action.script 0 .done fun _ => .done .null
  let (ending, rig) := Script.play script { rig with journal := [] }
  let events := rig.journal.reverse
  (⟨endingDatum ending, notesOf events, logOf events, summary rig⟩, rig)

def performAll : Rig → List Action → List Report
  | _, [] => []
  | rig, action :: rest =>
      let (report, rig) := perform rig action
      report :: performAll rig rest

/-- Builds a rig and performs some actions on it. -/
def run (setup : Setup) (actions : List Action) : Outcome where
  log := Rate.frameTimeComplaint setup.rate.frameTime
  reports := performAll (.fresh setup.rate setup.reportInterval) actions

end Cadence.Scenario
