import Cadence.Rig.Exec

/-!
What a driver does.  A turn runs as many cycles of the emulator as the pace
asks for and then activates the render, which the frame time caps; a step does
one frame's worth of both, whatever the running flag and the cap say.
-/

namespace Cadence

open Exec

namespace Emulator

def modify (number : Nat) (change : Emulator → Emulator) : Exec Unit :=
  update fun rig => { rig with emulators := rig.emulators.modify number change }

def mark (number : Nat) (inUse : Bool) (rig : Rig) : Rig :=
  { rig with emulators := rig.emulators.modify number ({ · with inUse }) }

/-- Uses an emulator while a computation runs. -/
def occupying {α : Type} (number : Nat) (body : Exec α) : Exec α :=
  within (.emulator number) (mark number) body

/-- One cycle. -/
def advance (number : Nat) : Exec Verdict := do
  record (.advanced number)
  match (← look (·.emulator number)).machine with
  | .card _ =>
      modify number fun emulator =>
        match emulator.machine with
        | .card card => { emulator with machine := .card card.advance }
        | _ => emulator
      return .ok ()
  | .scripted _ _ onAdvance _ =>
      match ← call onAdvance .plain with
      | .error failure => return .error failure
      | .ok _ =>
          modify number fun emulator =>
            match emulator.machine with
            | .scripted picture advances onAdvance onRender =>
                { emulator with
                  machine := .scripted picture (advances + 1) onAdvance onRender }
            | _ => emulator
          return .ok ()

def picture (emulator : Emulator) : Array UInt8 :=
  match emulator.machine with
  | .card card => card.frame
  | .scripted picture advances _ _ => picture advances

def render (number : Nat) : Exec (Except Failure (Array UInt8)) := do
  record (.rendered number)
  match (← look (·.emulator number)).machine with
  | .card _ => return .ok (← look fun rig => (rig.emulator number).picture)
  | .scripted _ _ _ onRender =>
      match ← call onRender .plain with
      | .error failure => return .error failure
      | .ok _ => return .ok (← look fun rig => (rig.emulator number).picture)

/-- Takes an emulator away for good, if it is free. -/
def hold (number : Nat) : Exec Bool := do
  if (← look (·.emulator number)).isBusy then return false
  modify number ({ · with held := true })
  return true

end Emulator

namespace Driver

def modify (number : Nat) (change : Driver → Driver) : Exec Unit :=
  update fun rig => { rig with drivers := rig.drivers.modify number change }

def modifyStats (number : Nat) (change : DriverStats → DriverStats) : Exec Unit :=
  modify number fun driver => { driver with stats := change driver.stats }

def setStatus (number : Nat) (text : String) : Exec Unit := do
  match (← look (·.driver number)).display with
  | .counting draws _ =>
      record (.statusSet number text)
      modify number ({ · with display := .counting draws text })
  | .scripted _ none _ => return ()
  | .scripted _ (some onStatus) _ =>
      record (.statusSet number text)
      callQuietly onStatus (.status number text)
  | .terminal screen =>
      record (.statusSet number text)
      modify number ({ · with display := .terminal (screen.withStatus text) })

def draw (number : Nat) (bytes : Array UInt8) : Exec Verdict := do
  record (.drawn number bytes)
  match (← look (·.driver number)).display with
  | .counting draws status =>
      modify number ({ · with display := .counting (draws + 1) status })
      return .ok ()
  | .scripted _ _ onDraw => call onDraw (.frame number bytes)
  | .terminal screen =>
      match screen.draw bytes with
      | .error cause => unwind cause
      | .ok (.error failure) => return .error failure
      | .ok (.ok drawn) =>
          modify number ({ · with display := .terminal drawn })
          return .ok ()

/-- Renders a frame of the emulator and draws it, if it has the display's
size. -/
def renderAndDraw (number emulator : Nat) : Exec Verdict := do
  match ← Emulator.render emulator with
  | .error failure => return .error failure
  | .ok bytes =>
      let expected ← look fun rig => (rig.driver number).display.frameBytes
      if bytes.size ≠ expected then
        return .error (.frameSize bytes.size expected)
      match ← draw number bytes with
      | .error failure => return .error failure
      | .ok _ =>
          record (.drawSucceeded number)
          return .ok ()

/-- The render action: the status line, then a frame. -/
def renderOnce (number : Nat) : Exec Verdict := do
  let status ← look fun rig =>
    statusLine rig.pace.rate rig.pace.running (rig.driver number).measuredRate
  setStatus number status
  let emulator ← look fun rig => (rig.driver number).emulator
  if (← look (·.emulator emulator)).isBusy then
    return .error (.emulatorBusy .render)
  Emulator.occupying emulator (renderAndDraw number emulator)

/-- So many cycles, or as many as go well. -/
def advanceTimes (number emulator : Nat) : Nat → Exec Verdict
  | 0 => return .ok ()
  | n + 1 => do
      match ← Emulator.advance emulator with
      | .error failure => return .error failure
      | .ok _ =>
          modifyStats number fun stats => { stats with cycles := stats.cycles + 1 }
          advanceTimes number emulator n

/-- The cycles of a turn or step. -/
def advance (number : Nat) (cycles : UInt32) : Exec Verdict := do
  let emulator ← look fun rig => (rig.driver number).emulator
  if (← look (·.emulator emulator)).isBusy then
    return .error (.emulatorBusy .advance)
  Emulator.occupying emulator (advanceTimes number emulator cycles.toNat)

/-- So many renders, or as many as go well. -/
def renderTimes (number : Nat) : Nat → Exec Verdict
  | 0 => return .ok ()
  | n + 1 => do
      match ← renderOnce number with
      | .error failure => return .error failure
      | .ok _ => renderTimes number n

def clockTime (timebase : Timebase) (rig : Rig) : Nat :=
  match timebase with
  | .shared => rig.now
  | .still => 0

/-- Activates the render: the baseline moves, then the planned renders are
made. -/
def activateRender (number : Nat) :
    Exec (Except Failure Activation) := do
  let driver ← look (·.driver number)
  let now ← look (clockTime driver.timebase)
  log (driver.render.planNotice now)
  let (count, timing) := driver.render.plan now
  record (.activated number driver.render count)
  modify number ({ · with render := timing })
  match ← renderTimes number count with
  | .error failure => return .error failure
  | .ok _ => return .ok (.ofCount count)

/-- What a turn starts with, whether it is paused or not. -/
def openTurn (number : Nat) (measuredRate : Option Binary64) : Exec Unit := do
  record (.turnBegan number)
  modifyStats number fun stats => { stats with turns := stats.turns + 1 }
  modify number ({ · with measuredRate })
  log (← look (·.driver number)).applyNotice
  modify number applyPending

def turn (number : Nat) (measuredRate : Option Binary64) :
    Exec (Except Failure Turn) := do
  openTurn number measuredRate
  if !(← look (·.pace.running)) then
    modifyStats number fun stats =>
      { stats with pausedTurns := stats.pausedTurns + 1 }
    return .ok .paused
  let cycles := (← look (·.pace.rate)).cycles
  match ← advance number cycles with
  | .error failure => return .error failure
  | .ok _ =>
      match ← activateRender number with
      | .error failure => return .error failure
      | .ok rendered =>
          modifyStats number fun stats =>
            { stats with renders := stats.renders + rendered.count }
          return .ok (.ran cycles rendered)

/-- One step: a frame's worth of cycles and one render. -/
def step (number : Nat) : Exec Verdict := do
  record (.stepBegan number)
  let cycles := (← look (·.pace.rate)).cycles
  match ← advance number cycles with
  | .error failure => return .error failure
  | .ok _ =>
      match ← renderOnce number with
      | .error failure => return .error failure
      | .ok _ =>
          modifyStats number fun stats => { stats with renders := stats.renders + 1 }
          return .ok ()

def mark (number : Nat) (busy : Bool) (rig : Rig) : Rig :=
  { rig with drivers := rig.drivers.modify number ({ · with busy }) }

/-- Runs a computation on a driver unless it is in the middle of another one.
If nothing refers to the driver afterwards, it is retired. -/
def ifFree {α : Type} (number : Nat) (body : Exec α) : Exec (Option α) := do
  match ← look (·.drivers[number]?) with
  | none => return none
  | some driver =>
      if driver.busy then return none
      some <$> (within (.driver number) (mark number) body).ensuring
        Rig.retireAbandoned

def taskTurn (number : Nat) (frame : FrameTime) : Exec Verdict := do
  match ← ifFree number (turn number frame.measuredRate) with
  | none => return .error .driverReentered
  | some result => return result.map fun _ => ()

/-- Delivers a posted step to a driver, if it is alive and has not been started
again since the step was registered. -/
def deliverStep (number generation : Nat) : Exec Unit := do
  let driver ← look (·.driver number)
  if driver.alive ∧ driver.generation = generation then
    match ← ifFree number (step number) with
    | none => log [stepNotice .driverBusy]
    | some (.error failure) => log [stepNotice failure]
    | some (.ok _) => return ()

/-- Puts a new driver on the rig, which observes the pace from then on. -/
def create (emulator : Nat) (display : Display) (options : Options)
    (timebase : Timebase) : Exec Nat := do
  let number ← look (·.drivers.size)
  let rate ← look (·.pace.rate)
  let driver := fresh emulator display options timebase rate
  log (Debouncer.idle.intervalNotice driver.render.interval)
  update fun rig =>
    { rig with
      drivers := rig.drivers.push driver
      pace := rig.pace.subscribeDriver number }
  record (.subscribed (.driver number))
  return number

def report (driver : Driver) : DriverReport :=
  if !driver.handle then .gone
  else if driver.busy then .busy
  else .idle driver.stats driver.render.interval

def turnByHand (number : Nat) (measuredRate : Option Binary64) :
    Exec (Option (Except Failure Turn)) := do
  if !(← look (·.driver number)).handle then return none
  ifFree number (turn number measuredRate)

def stepByHand (number : Nat) : Exec (Option Verdict) := do
  if !(← look (·.driver number)).handle then return none
  ifFree number (step number)

/-- Makes a driver's turns a recurring task, if nothing but its handle refers to
it. -/
def start (number : Nat) : Exec StartReport := do
  let driver ← look (·.driver number)
  if !driver.handle then return .gone
  if driver.busy || (← look (·.refresher.owesDriver number)) then
    return .shared
  modify number fun driver => { driver with generation := driver.generation + 1 }
  let ticket ← look (·.refresher.nextTicket)
  let task ← look (·.refresher.tasks.size)
  update fun rig => { rig with refresher := rig.refresher.recur (.driver number) }
  record (.requested ⟨ticket, .turn task⟩)
  log [startedNotice]
  return .started

def dropHandle (number : Nat) : Exec Unit :=
  update fun rig =>
    { rig with
      drivers := rig.drivers.modify number ({ · with handle := false }) }.retireAbandoned

/-- The draws and the last status of a counting display. -/
def shown (driver : Driver) : Nat × String :=
  match driver.display with
  | .counting draws status => (draws, status)
  | _ => (0, "")

end Driver

end Cadence
