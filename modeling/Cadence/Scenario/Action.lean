import Cadence.Scenario.Plain

/-!
Actions and bodies.  A body is a callback written as a list of actions; each of
its calls writes down that it was made, and what its actions resulted in.
-/

namespace Cadence.Scenario

mutual

/-- A step of a scenario; some of them stand in bodies only. -/
inductive Action
  | plain (action : Plain)
  | subscribe (observer : Body)
  | register (mailbox : Nat) (callback : Body)
  | frame (callback : Body)
  | recurring (task : Body)
  | newDebouncer (timing : Debouncer) (fallible : Bool) (action : Body)
  | newEmulator (size : Nat) (onAdvance onRender : Body)
  /-- A quiet display takes no status. -/
  | newDriver (emulator : Nat) (options : Driver.Options) (size : Nat)
      (quiet : Bool) (onDraw onStatus : Body)
  /-- Results of all the actions, so many times over. -/
  | repeated (times : Nat) (actions : List Action)
  | emit (text : String)
  | fail (failure : Failure)
  | panic (message : String)
  /-- In one call only. -/
  | nth (call : Nat) (actions : List Action)
  /-- In each `period`-th call. -/
  | every (period : Nat) (actions : List Action)
  | ifCyclesAbove (cycles : Nat) (actions : List Action)
  | ifFrameTimeAbove (millis : Binary64) (actions : List Action)

/-- A callback; without a label its calls are not written down. -/
inductive Body
  | mk (label : Option String) (actions : List Action)

end

def Body.idle : Body := .mk none []

instance : Inhabited Body := ⟨.idle⟩
instance : Inhabited Action := ⟨.emit ""⟩

def Action.name : Action → String
  | .plain action => action.name
  | .subscribe _ => "sub"
  | .register _ _ => "register"
  | .frame _ => "frame"
  | .recurring _ => "recurring"
  | .newDebouncer _ _ _ => "deb_new"
  | .newEmulator _ _ _ => "emu_new"
  | .newDriver _ _ _ _ _ _ => "driver_new"
  | .repeated _ _ => "repeat"
  | .emit _ => "emit"
  | .fail _ => "fail"
  | .panic _ => "panic"
  | .nth _ _ => "nth"
  | .every _ _ => "every"
  | .ifCyclesAbove _ _ => "if_cycles_gt"
  | .ifFrameTimeAbove _ _ => "if_frame_gt"

/-- What a call writes down about its occasion. -/
def occasionData : Occasion → List Datum
  | .rate rate => [.ofNat rate.cycles.toNat, .number rate.frameTime]
  | .refresh frame =>
      [.ofNat frame.index, .ofTime frame.now, .ofTime frame.elapsed,
        rateDatum frame.measuredRate]
  | _ => []

/-- A number that stands for some bytes. -/
def digest (bytes : Array UInt8) : Nat :=
  bytes.foldl (fun digest byte => (31 * digest + byte.toNat) % UInt32.size) 0

/-- What a display writes down when it is used. -/
def displayData : Occasion → List Datum
  | .status driver text => [.text "status", .ofNat driver, .text text]
  | .frame driver bytes =>
      [.text "draw", .ofNat driver, .ofNat bytes.size, .ofNat (digest bytes)]
  | _ => []

/-- Writes a list down. -/
def note (items : List Datum) (next : Script) : Script :=
  .order (.note (.list items)) fun _ => next

/-- Runs something so many times and collects its results, on top of those it
has had, the latest first. -/
def collect (once : (List Datum → Script) → Script) :
    Nat → List Datum → (List Datum → Script) → Script
  | 0, reversed, next => next reversed.reverse
  | n + 1, reversed, next =>
      once fun results => collect once n (results.reverse ++ reversed) next

mutual

/-- The orders of an action in a given call.  A plain action is followed by what
is done with its result, the others by what comes next in the body. -/
def Action.script (call : Nat) (withResult : Datum → Script)
    (onward : Unit → Script) : Action → Script
  | .plain action => action.script withResult
  | .subscribe observer =>
      .routine observer.course fun routine =>
        ask (.pace (.subscribe routine)) .ofNat withResult
  | .register mailbox callback =>
      .routine callback.course fun routine =>
        ask (.mail (.register mailbox routine)) (fun tag => .ofNat tag.number)
          withResult
  | .frame callback =>
      .routine callback.course fun routine =>
        tell (.refresh (.request routine)) withResult
  | .recurring task =>
      .routine task.course fun routine =>
        tell (.refresh (.recur routine)) withResult
  | .newDebouncer timing fallible action =>
      .routine action.course fun routine =>
        .order (.debounce (.newDebouncer timing fallible routine))
          fun debouncer =>
            ask (.debounce (.report debouncer)) debouncerDatum withResult
  | .newEmulator size onAdvance onRender =>
      .routine onAdvance.course fun advance =>
        .routine onRender.course fun render =>
          tell
            (.driver (.newEmulator
              (.scripted (Machine.countingPicture size) 0 advance render)))
            withResult
  | .newDriver emulator options size quiet onDraw onStatus =>
      .routine (onDraw.displayCourse) fun draw =>
        .routine (onStatus.displayCourse) fun status =>
          .order
            (.driver (.newDriver emulator
              (.scripted size (if quiet then none else some status) draw)
              options .shared))
            fun driver => ask (.driver (.report driver)) driverDatum withResult
  | .repeated times actions =>
      collect (Action.results call actions) times [] fun results =>
        withResult (.list results)
  | .emit text => note [.text "emit", .text text] (onward ())
  | .fail failure => .fail failure
  | .panic message => .panic (.raised message)
  | .nth k actions =>
      if call = k then Action.sequence call onward actions else onward ()
  | .every period actions =>
      if (call + 1) % period = 0 then Action.sequence call onward actions
      else onward ()
  | .ifCyclesAbove cycles actions =>
      .order (.pace .rate) fun rate =>
        if cycles < rate.cycles.toNat then Action.sequence call onward actions
        else onward ()
  | .ifFrameTimeAbove millis actions =>
      .order (.pace .rate) fun rate =>
        if Binary64.lt millis rate.frameTime then
          Action.sequence call onward actions
        else onward ()

/-- Some actions of a body one after the other, each with its result written
down. -/
def Action.sequence (call : Nat) (onward : Unit → Script) :
    List Action → Script
  | [] => onward ()
  | action :: rest =>
      action.script call
        (fun result =>
          note [.text "do", .text action.name, result]
            (Action.sequence call onward rest))
        (fun _ => Action.sequence call onward rest)

def Action.results (call : Nat) :
    List Action → (List Datum → Script) → Script
  | [], next => next []
  | action :: rest, next =>
      action.script call
        (fun result =>
          Action.results call rest fun results => next (result :: results))
        (fun _ => Action.results call rest next)

def Body.course : Body → Nat → Occasion → Script
  | .mk label actions, call, occasion =>
      let run (_ : Unit) : Script :=
        Action.sequence call (fun _ => .done .null) actions
      match label with
      | none => run ()
      | some label =>
          note (.text label :: .ofNat call :: occasionData occasion) (run ())

/-- The calls of a body behind a display, which are written down for the display
first. -/
def Body.displayCourse : Body → Nat → Occasion → Script
  | .mk label actions, call, occasion =>
      let run (_ : Unit) : Script :=
        Action.sequence call (fun _ => .done .null) actions
      note (displayData occasion) <|
        match label with
        | none => run ()
        | some label => note [.text label, .ofNat call] (run ())

end

end Cadence.Scenario
