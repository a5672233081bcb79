import Cadence.Script

/-!
Plain actions: the steps of a scenario that make no callbacks, each with its
name, the orders it gives, and the way its result is written down.
-/

namespace Cadence.Scenario

inductive Plain
  | advanceMillis (millis : Nat)
  | advanceNanos (nanos : Nat)
  | jumpToMillis (millis : Nat)
  | newMeter (window : Option Nat)
  | tick (meter : Nat)
  | setCycles (cycles : UInt32)
  | setFrameTime (millis : Binary64)
  | setRunning (running : Bool)
  | toggleRunning
  | framesPerSecond
  | unsubscribe (number : Nat)
  | describePace
  | newMailbox
  | post (mailbox tag : Nat)
  | cancel (mailbox tag : Nat)
  | isRegistered (mailbox tag : Nat)
  | pending (mailbox : Nat)
  | deliver (mailbox : Nat)
  | deliverFirst
  | describeTag (tag : Nat)
  | describeMailbox (mailbox : Nat)
  | refresh
  | stop
  | describeRefresher
  | activate (debouncer : Nat)
  | invoke (debouncer : Nat)
  | adjust (debouncer : Nat) (adjustment : Adjustment)
  | newCard (cyclesPerShift : Nat)
  | holdEmulator (emulator : Nat)
  | newDriver (emulator : Nat) (options : Driver.Options) (timebase : Timebase)
  | turn (driver : Nat) (measuredRate : Option Binary64)
  | step (driver : Nat)
  | stats (driver : Nat)
  | start (driver : Nat)
  | registerStep (driver mailbox : Nat)
  | dropHandle (driver : Nat)
  | shown (driver : Nat)
  | newLoop (hertz : Binary64)
  | turnLoop (loop : Nat) (deadline : Nat)
  | runLoop (hertz : Binary64) (tick : Nat)
  | setStep (tag : Nat)
  | apply (command : Command)
  | type (events : List TerminalEvent)
  | peek (source : InputSource)
  | flush (source : InputSource)
  | pump (source : InputSource)
  | load (commands : List Command)

namespace Plain

private def adjustmentName : Adjustment → String
  | .reset => "reset"
  | .rate _ => "rate"
  | .interval _ => "interval"
  | .catchUp _ => "deb_catch_up"
  | .limit _ => "deb_limit"

private def sourceName (verb : String) : InputSource → String
  | .keyboard => verb
  | .canned => "dummy_" ++ verb

def name : Plain → String
  | .advanceMillis _ => "adv_ms"
  | .advanceNanos _ => "adv_ns"
  | .jumpToMillis _ => "set_ms"
  | .newMeter _ => "meter_new"
  | .tick _ => "tick"
  | .setCycles _ => "set_cycles"
  | .setFrameTime _ => "set_frame"
  | .setRunning _ => "set_running"
  | .toggleRunning => "toggle"
  | .framesPerSecond => "fps"
  | .unsubscribe _ => "unsub"
  | .describePace => "pace_debug"
  | .newMailbox => "imm_new"
  | .post _ _ => "schedule"
  | .cancel _ _ => "cancel"
  | .isRegistered _ _ => "is_reg"
  | .pending _ => "pending"
  | .deliver _ => "run_pending"
  | .deliverFirst => "macro"
  | .describeTag _ => "tag_str"
  | .describeMailbox _ => "imm_debug"
  | .refresh => "run_frame"
  | .stop => "stop"
  | .describeRefresher => "host_debug"
  | .activate _ => "activate"
  | .invoke _ => "inner"
  | .adjust _ adjustment => adjustmentName adjustment
  | .newCard _ => "emu_new"
  | .holdEmulator _ => "emu_lock"
  | .newDriver _ _ _ => "driver_new"
  | .turn _ _ => "turn"
  | .step _ => "step"
  | .stats _ => "stats"
  | .start _ => "start"
  | .registerStep _ _ => "reg_step"
  | .dropHandle _ => "drop_driver"
  | .shown _ => "dummy_display"
  | .newLoop _ => "loop_new"
  | .turnLoop _ _ => "loop_turn"
  | .runLoop _ _ => "loop_run"
  | .setStep _ => "ctl_step"
  | .apply _ => "apply"
  | .type _ => "type"
  | .peek source => sourceName "peek" source
  | .flush source => sourceName "flush" source
  | .pump source => sourceName "pump" source
  | .load _ => "dummy_input"

end Plain

/-- What a failed operation results in. -/
def failureDatum (failure : Failure) : Datum :=
  .record [("err", .text failure.message)]

/-- The result of an operation that can fail. -/
def resultDatum {α : Type} (write : α → Datum) : Except Failure α → Datum
  | .error failure => failureDatum failure
  | .ok a => write a

def rateDatum : Option Binary64 → Datum := Datum.ofOption .number

/-- An activation: how often its action ran, or that it was skipped. -/
def activationDatum : Activation → Datum
  | .fired count => .ofNat count
  | .skipped => .text "skipped"

def debouncerDatum (report : DebouncerReport) : Datum :=
  .list
    [.ofTime report.timing.interval, .bool report.timing.isEnabled,
      .ofOption .ofTime report.timing.lastActivation,
      .bool report.timing.catchUp, .ofNat report.calls]

def driverDatum : DriverReport → Datum
  | .gone => .text "gone"
  | .busy => .text "busy"
  | .idle stats interval =>
      .list
        [.ofNat stats.turns, .ofNat stats.pausedTurns, .ofNat stats.cycles,
          .ofNat stats.renders, .ofTime interval]

def turnDatum : Turn → Datum
  | .paused => .text "paused"
  | .ran cycles rendered => .list [.ofNat cycles.toNat, activationDatum rendered]

def startDatum : StartReport → Datum
  | .started => .text "started"
  | .shared => .text "shared"
  | .gone => .text "gone"

def commandsDatum (commands : List Command) : Datum :=
  .list (commands.map fun command => .text command.name)

/-- One order, and what follows its result. -/
def ask (order : Order) (write : order.Answer → Datum) (next : Datum → Script) :
    Script :=
  .order order fun answer => next (write answer)

/-- An order whose answer tells nothing. -/
def tell (order : Order) (next : Datum → Script) : Script :=
  ask order (fun _ => .null) next

/-- An order on a debouncer, and its state afterwards. -/
def askDebouncer {α : Type} (debouncer : Nat) (write : α → Datum)
    (next : Datum → Script) : Option α → Script
  | none => next (.text "busy")
  | some answer =>
      ask (.debounce (.report debouncer)) debouncerDatum fun state =>
        next (.record [("out", write answer), ("deb", state)])

/-- A result of a driver together with its state afterwards. -/
def withDriver (driver : Nat) (result : Datum) (next : Datum → Script) : Script :=
  ask (.driver (.report driver)) driverDatum fun state =>
    next (.list [result, state])

/-- The orders of a plain action, and what follows its result. -/
def Plain.script (action : Plain) (next : Datum → Script) : Script :=
  match action with
  | .advanceMillis millis => tell (.clock (.advance (Duration.ofMillis millis))) next
  | .advanceNanos nanos => tell (.clock (.advance nanos)) next
  | .jumpToMillis millis => tell (.clock (.advanceTo (Duration.ofMillis millis))) next
  | .newMeter window =>
      tell (.clock (.newMeter (window.getD RateMeter.standard.window))) next
  | .tick meter =>
      ask (.clock (.tick meter))
        (fun (fresh, last) => .list [rateDatum fresh, rateDatum last]) next
  | .setCycles cycles =>
      ask (.pace (.setCycles cycles)) (fun stored => .ofNat stored.toNat) next
  | .setFrameTime millis => ask (.pace (.setFrameTime millis)) .number next
  | .setRunning running => tell (.pace (.setRunning running)) next
  | .toggleRunning => ask (.pace .toggleRunning) .bool next
  | .framesPerSecond =>
      ask (.pace .rate) (fun rate => .number rate.framesPerSecond) next
  | .unsubscribe number => ask (.pace (.unsubscribe number)) .bool next
  | .describePace => ask (.pace .describe) .text next
  | .newMailbox => ask (.mail .newMailbox) .ofNat next
  | .post mailbox tag => tell (.mail (.post mailbox ⟨tag⟩)) next
  | .cancel mailbox tag => ask (.mail (.cancel mailbox ⟨tag⟩)) .bool next
  | .isRegistered mailbox tag =>
      ask (.mail (.isRegistered mailbox ⟨tag⟩)) .bool next
  | .pending mailbox =>
      ask (.mail (.pending mailbox))
        (fun count => .list [.ofNat count, .bool (count != 0)]) next
  | .deliver mailbox => ask (.mail (.deliver mailbox)) .ofNat next
  | .deliverFirst => ask (.mail (.deliver 0)) .ofNat next
  | .describeTag tag => next (.text (Tag.text ⟨tag⟩))
  | .describeMailbox mailbox => ask (.mail (.describe mailbox)) .text next
  | .refresh => ask (.refresh .refresh) .ofNat next
  | .stop => tell (.refresh .stop) next
  | .describeRefresher => ask (.refresh .describe) .text next
  | .activate debouncer =>
      .order (.debounce (.activate debouncer)) <|
        askDebouncer debouncer
          (resultDatum fun activation =>
            .list [activationDatum activation, .bool activation.hasFired,
              .ofNat activation.count])
          next
  | .invoke debouncer =>
      .order (.debounce (.invoke debouncer)) <|
        askDebouncer debouncer (resultDatum fun _ => .null) next
  | .adjust debouncer adjustment =>
      .order (.debounce (.adjust debouncer adjustment)) <|
        askDebouncer debouncer (fun _ => .null) next
  | .newCard cyclesPerShift =>
      tell (.driver (.newEmulator (.card (.fresh cyclesPerShift)))) next
  | .holdEmulator emulator => ask (.driver (.hold emulator)) .bool next
  | .newDriver emulator options timebase =>
      .order (.driver (.newDriver emulator (.counting 0 "") options timebase))
        fun driver => ask (.driver (.report driver)) driverDatum next
  | .turn driver measuredRate =>
      .order (.driver (.turn driver measuredRate)) fun answer =>
        withDriver driver (.ofOption (resultDatum turnDatum) answer) next
  | .step driver =>
      .order (.driver (.step driver)) fun answer =>
        withDriver driver
          (.ofOption (resultDatum fun _ => .text "ok") answer) next
  | .stats driver => ask (.driver (.report driver)) driverDatum next
  | .start driver => ask (.driver (.start driver)) startDatum next
  | .registerStep driver mailbox =>
      ask (.driver (.registerStep driver mailbox))
        (.ofOption fun tag => .ofNat tag.number) next
  | .dropHandle driver => tell (.driver (.dropHandle driver)) next
  | .shown driver =>
      ask (.driver (.shown driver))
        (fun (draws, status) => .list [.ofNat draws, .text status]) next
  | .newLoop hertz => ask (.loop (.newLoop hertz)) .ofTime next
  | .turnLoop loop deadline =>
      .order (.loop (.turn loop deadline)) fun answer =>
        match answer with
        | none => next (.text "busy")
        | some deadline =>
            ask (.refresh .frameIndex) .ofNat fun index =>
              next (.list [.ofOption .ofTime deadline, index])
  | .runLoop hertz perReading =>
      ask (.loop (.run hertz perReading)) (fun _ => .text "ok") next
  | .setStep tag => tell (.control (.setStep ⟨tag⟩)) next
  | .apply command => tell (.control (.apply command)) next
  | .type events => tell (.control (.arrive events)) next
  | .peek source => ask (.control (.peek source)) commandsDatum next
  | .flush source => tell (.control (.flush source)) next
  | .pump source => ask (.control (.pump source)) .ofNat next
  | .load commands => tell (.control (.load commands)) next

end Cadence.Scenario
