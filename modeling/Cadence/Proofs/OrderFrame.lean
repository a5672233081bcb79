import Cadence.Proofs.RefreshFrame
import Cadence.Rig.Perform

/-!
Frames of orders.  An order is sound if what it does to the pace, to the timing
of renders and to refreshes is, and if the contract ignores everything else.
-/

namespace Cadence

open Exec Contract

variable {contract : Contract}

/-- Setters replace one value of a rate by one that they have clamped. -/
inductive Rate.Sets (rate : Rate) : Rate → Prop
  | cycles (cycles : Int) :
      Sets rate { rate with cycles := Rate.clampCycles cycles }
  | frameTime (millis : Binary64) :
      Sets rate { rate with frameTime := Rate.clampFrameTime millis }

/-- What touches the rate and its observers is sound. -/
structure Contract.AllowsPacing (contract : Contract) : Prop where
  adopts : ∀ {rig rate}, contract.finds rig → rig.pace.rate.Sets rate →
    contract.SoundAt rig (Pace.adopt rate)
  observes : ∀ routine, contract.Sound (Pace.observe routine)
  forgets : ∀ number, contract.Sound (Pace.forget number)
  creates : ∀ emulator display options timebase,
    contract.Sound (Driver.create emulator display options timebase)

/-! ### The pace, for a contract that is not concerned with it -/

namespace Pace.Aside

variable (hpace : contract.Ignores .pace) (hdiary : contract.Ignores .diary)
  (hcalls : contract.Ignores .calls)
  (hawaits : ∀ number millis, contract.Admits fun rig =>
    { rig with
      drivers := rig.drivers.modify number ({ · with pending := some millis }) })
  (hpushes : ∀ emulator display options timebase rate,
    contract.Admits fun rig =>
      { rig with
        drivers := rig.drivers.push
          (.fresh emulator display options timebase rate) })

include hpace

theorem sound_modify (change : Pace → Pace) : contract.Sound (modify change) :=
  (hpace.admits fun _ => .pace _).sound

theorem sound_observe (routine : Nat) : contract.Sound (observe routine) := by
  apply (sound_look _).bind
  intro number
  apply (sound_modify hpace _).seq
  exact (hpace.sound_record rfl).bind fun _ => sound_pure _

theorem sound_forget (number : Nat) : contract.Sound (forget number) := by
  apply (sound_look _).bind
  intro found
  apply (sound_modify hpace _).seq
  split
  · exact (hpace.sound_record rfl).bind fun _ => sound_pure _
  · exact sound_pure _

include hdiary hpushes

theorem sound_create (emulator : Nat) (display : Display)
    (options : Driver.Options) (timebase : Timebase) :
    contract.Sound (Driver.create emulator display options timebase) := by
  have hobserves (number : Nat) : contract.Admits fun rig =>
      { rig with pace := rig.pace.subscribeDriver number } :=
    hpace.admits fun _ => .pace _
  apply (sound_look _).bind
  intro number
  apply (sound_look _).bind
  intro rate
  apply (hdiary.sound_log _).seq
  apply ((hpushes _ _ _ _ _).comp (hobserves number)).sound.seq
  exact (hpace.sound_record rfl).bind fun _ => sound_pure _

omit hdiary hpushes

include hcalls hawaits

theorem sound_tell (rate : Rate) (observer : Observer) :
    contract.Sound (tell rate observer) := by
  apply (hpace.sound_record rfl).seq
  cases observer with
  | driver number => exact (hawaits number rate.frameTime).sound
  | caller number routine => exact hcalls.sound_callQuietly _ _

theorem sound_announce (rate : Rate) (observers : List Observer) :
    contract.Sound (announce rate observers) := by
  induction observers with
  | nil => exact sound_pure ()
  | cons observer rest ih =>
      apply (sound_tell hpace hcalls hawaits rate observer).seq
      apply (sound_look _).bind
      intro current
      split
      · exact ih
      · exact sound_pure ()

include hdiary

theorem sound_adopt (rate : Rate) : contract.Sound (adopt rate) := by
  apply (sound_modify hpace _).seq
  apply (hpace.sound_record rfl).seq
  apply (hdiary.sound_log _).seq
  apply (sound_look _).bind
  intro observers
  apply (sound_announce hpace hcalls hawaits rate observers).seq
  exact hpace.sound_record rfl

include hpushes

/-- What drivers await may be changed, and drivers may be added. -/
theorem allowsPacing : contract.AllowsPacing where
  adopts hfinds _ := sound_adopt hpace hdiary hcalls hawaits _ _ hfinds
  observes := sound_observe hpace
  forgets := sound_forget hpace
  creates := sound_create hpace hdiary hpushes

end Pace.Aside

/-- Everything is well with a contract that is not concerned with the pace. -/
theorem Contract.AllowsPacing.of_ignores (hpace : contract.Ignores .pace)
    (hdiary : contract.Ignores .diary) (hcalls : contract.Ignores .calls)
    (htiming : contract.Ignores .timing) : contract.AllowsPacing :=
  Pace.Aside.allowsPacing hpace hdiary hcalls
    (fun _ _ => htiming.admits fun _ => .timing _)
    (fun _ _ _ _ _ => htiming.admits fun _ => .timing _)

/-- What hardly any contract is concerned with. -/
def Facet.ambience : List Facet := [.clock, .calls, .running, .diary]

/-- Everything but the pace, the timing of renders, and refreshes. -/
def Facet.sides : List Facet :=
  [.clock, .calls, .running, .handles, .emulators, .mail, .bench, .loops,
    .controls, .diary]

/-- The sides without mailboxes and without what stands on the bench. -/
def Facet.margins : List Facet :=
  [.clock, .calls, .running, .handles, .emulators, .loops, .controls, .diary]

theorem Facet.rendering_subset_sides : rendering ⊆ sides := by
  decide

theorem Facet.rendering_subset_margins : rendering ⊆ margins := by
  decide

theorem Facet.asides_subset_ambience : asides ⊆ ambience := by
  decide

theorem Facet.ambience_subset_sides : ambience ⊆ sides := by
  decide

theorem Facet.ambience_subset_margins : ambience ⊆ margins := by
  decide

theorem Facet.margins_subset_sides : margins ⊆ sides := by
  decide

/-- What touches mailboxes is sound. -/
structure Contract.AllowsMail (contract : Contract) : Prop where
  opens : contract.Sound (Mailbox.perform .newMailbox)
  enters : ∀ number callback, contract.Sound (Mailbox.enter number callback)
  sends : ∀ number tag, contract.Sound (Mailbox.send number tag)
  withdraws : ∀ number tag, contract.Sound (Mailbox.withdraw number tag)
  delivers : ∀ number, contract.Sound (Mailbox.deliver number)

/-- Whether an order is directed to a debouncer and may change it. -/
def DebounceOrder.concerns (number : Nat) : DebounceOrder → Bool
  | .newDebouncer _ _ _ => false
  | .activate other => other == number
  | .invoke other => other == number
  | .adjust other _ => other == number
  | .report _ => false

/-- What touches meters and debouncers is sound. -/
structure Contract.AllowsBench (contract : Contract) : Prop where
  measures : ∀ order, contract.Sound (RateMeter.perform order)
  debounces : ∀ order : DebounceOrder, contract.allowed (.debounce order) →
    contract.Sound (Debounced.perform order)

/-- Emulators may be made and taken away, and drivers may be used by hand and let
go. -/
structure Contract.AllowsFleet (contract : Contract) : Prop where
  builds : ∀ machine, contract.Admits fun rig =>
    { rig with emulators := rig.emulators.push ⟨machine, false, false⟩ }
  holds : ∀ number, contract.Sound (Emulator.hold number)
  turns : ∀ number measuredRate, contract.Sound (Driver.turnByHand number measuredRate)
  steps : ∀ number, contract.Sound (Driver.stepByHand number)
  drops : ∀ number, contract.Sound (Driver.dropHandle number)

theorem Contract.AllowsFleet.of_ignores (hemulators : contract.Ignores .emulators)
    (hhandles : contract.Ignores .handles) (hturns : contract.AllowsTurns) :
    contract.AllowsFleet where
  builds _ := hemulators.admits fun _ => .emulators _
  holds _ := Emulator.sound_hold (hemulators.admits fun _ => .emulators _)
  turns := Driver.sound_turnByHand hturns
  steps := Driver.sound_stepByHand hturns
  drops number := Driver.sound_dropHandle hturns (hhandles.admits_driver number fun _ => rfl)

/-- Loops may be made, and turned by hand if their turns are sound. -/
structure Contract.AllowsLoops (contract : Contract) : Prop where
  builds : ∀ period, contract.Admits fun rig =>
    { rig with loops := rig.loops.push ⟨period, false⟩ }
  turns : ∀ {deadline}, (∀ period, contract.Sound (Loop.turn period 0 deadline)) →
    ∀ number, contract.Sound (Loop.turnByHand number deadline)

/-- What touches the sources of commands is sound. -/
structure Contract.AllowsControls (contract : Contract) : Prop where
  controls : ∀ order : ControlOrder, contract.allowed (.control order) →
    contract.Sound (Controls.perform order)

section Parts

variable (hambience : contract.IgnoresAll Facet.ambience)

include hambience

namespace Pace

theorem sound_setRunning (running : Bool) :
    contract.Sound (setRunning running) := by
  have hdiary := hambience .diary (by decide)
  have hrunning := hambience .running (by decide)
  apply (sound_look _).bind
  intro before
  apply (hdiary.sound_log _).seq
  exact (hrunning.admits fun _ => .running running).sound

theorem sound_toggleRunning : contract.Sound toggleRunning :=
  (sound_look _).bind fun _ =>
    (sound_setRunning hambience _).bind fun _ => sound_pure _

variable (hpacing : contract.AllowsPacing)

include hpacing

theorem sound_setCycles (cycles : UInt32) :
    contract.Sound (setCycles cycles) := by
  have hdiary := hambience .diary (by decide)
  apply (hdiary.sound_log _).seq
  apply sound_of_look
  intro rig hfinds
  split
  · exact sound_pure _ rig hfinds
  · have hadopts := hpacing.adopts hfinds (.cycles cycles.toNat)
    exact hadopts.bind hfinds fun _ => sound_pure _

theorem sound_setFrameTime (millis : Binary64) :
    contract.Sound (setFrameTime millis) := by
  have hdiary := hambience .diary (by decide)
  apply (hdiary.sound_log _).seq
  apply sound_of_look
  intro rig hfinds
  split
  · exact sound_pure _ rig hfinds
  · have hadopts := hpacing.adopts hfinds (.frameTime millis)
    exact hadopts.bind hfinds fun _ => sound_pure _

theorem sound_perform (order : PaceOrder) :
    contract.Sound (perform order) := by
  cases order with
  | rate => exact sound_look _
  | setCycles cycles => exact sound_setCycles hambience hpacing cycles
  | setFrameTime millis => exact sound_setFrameTime hambience hpacing millis
  | setRunning running => exact sound_setRunning hambience running
  | toggleRunning => exact sound_toggleRunning hambience
  | subscribe routine => exact hpacing.observes routine
  | unsubscribe number => exact hpacing.forgets number
  | describe => exact sound_look _

end Pace

namespace Mailbox

theorem sound_start (hturns : contract.AllowsTurns) (callback : Callback) :
    contract.Sound (start callback) := by
  have hcalls := hambience .calls (by decide)
  have hdiary := hambience .diary (by decide)
  cases callback with
  | routine routine => exact hcalls.sound_callQuietly _ _
  | step driver generation =>
      exact Driver.sound_deliverStep hturns hdiary driver generation

omit hambience in
theorem sound_handleAll {number : Nat}
    (hhandles : ∀ message, contract.Sound (handle number message))
    (messages : List Message) (fired : Nat) :
    contract.Sound (handleAll number messages fired) := by
  induction messages generalizing fired with
  | nil => exact sound_pure _
  | cons message rest ih => exact (hhandles message).bind fun started => ih _

omit hambience in
/-- A delivery is sound if it may take its messages and handle each of them. -/
theorem sound_deliver {number : Nat}
    (htakes : contract.Admits fun rig =>
      { rig with mailboxes := rig.mailboxes.modify number ({ · with queue := [] }) })
    (hopens : ∀ messages, contract.Sound (record (.deliveryOpened number messages)))
    (hhandles : ∀ message, contract.Sound (handle number message)) :
    contract.Sound (deliver number) := by
  apply (sound_look _).bind
  intro messages
  apply htakes.sound.seq
  exact (hopens messages).seq (sound_handleAll hhandles messages 0)

section Frame

variable (hmail : contract.Ignores .mail)

include hmail

omit hambience in
theorem admits_modify (number : Nat) (change : Mailbox → Mailbox) :
    contract.Admits fun rig =>
      { rig with mailboxes := rig.mailboxes.modify number change } :=
  hmail.admits fun _ => .mail _ _ _

omit hambience in
theorem sound_send (number : Nat) (tag : Tag) :
    contract.Sound (send number tag) := by
  apply (sound_look _).bind
  intro size
  split
  · apply (sound_look _).bind
    intro serial
    apply (hmail.admits fun _ => .mail _ _ _).sound.seq
    exact hmail.sound_record rfl
  · exact sound_pure _

theorem sound_enter (number : Nat) (callback : Callback) :
    contract.Sound (enter number callback) := by
  have hdiary := hambience .diary (by decide)
  apply (sound_look _).bind
  intro tag
  apply (hmail.admits fun _ => .mail _ _ _).sound.seq
  apply (sound_look _).bind
  intro size
  split
  · apply (hmail.sound_record rfl).seq
    exact (hdiary.sound_log _).bind fun _ => sound_pure _
  · exact sound_pure _

theorem sound_withdraw (number : Nat) (tag : Tag) :
    contract.Sound (withdraw number tag) := by
  have hdiary := hambience .diary (by decide)
  apply (sound_look _).bind
  intro found
  apply (admits_modify hmail number _).sound.seq
  split
  · apply (hmail.sound_record rfl).seq
    exact (hdiary.sound_log _).bind fun _ => sound_pure _
  · exact sound_pure _

section Starts

variable (hstarts : ∀ callback, contract.Sound (start callback))

include hstarts

theorem sound_handle (number : Nat) (message : Message) :
    contract.Sound (handle number message) := by
  have hdiary := hambience .diary (by decide)
  have hmark (executing : Bool) :
      contract.Admits (markOnRig number message.tag executing) :=
    admits_modify hmail number _
  apply (sound_look _).bind
  intro entry
  split
  · apply (hmail.sound_record rfl).seq
    exact (hdiary.sound_log _).bind fun _ => sound_pure _
  · split
    · apply (hmail.sound_record rfl).seq
      exact (hdiary.sound_log _).bind fun _ => sound_pure _
    · apply (hmail.sound_record rfl).seq
      refine Sound.bind ?_ fun _ => sound_pure _
      refine (hstarts _).within ?_ ?_
      · exact (hmark true).comp (hmail.admits_event rfl)
      · exact (hmark false).comp (hmail.admits_event rfl)

theorem allowsMail_of_starts : contract.AllowsMail where
  opens := by
    apply (sound_look _).bind
    intro number
    refine Sound.bind ?_ fun _ => sound_pure _
    exact (hmail.admits fun _ => .mail _ _ _).sound
  enters := sound_enter hambience hmail
  sends := sound_send hmail
  withdraws := sound_withdraw hambience hmail
  delivers number := sound_deliver (admits_modify hmail number _)
    (fun _ => hmail.sound_record rfl)
    (sound_handle hambience hmail hstarts number)

end Starts

/-- Everything is well with a contract that is not concerned with mail. -/
theorem allowsMail (hturns : contract.AllowsTurns) : contract.AllowsMail :=
  allowsMail_of_starts hambience hmail (sound_start hambience hturns)

end Frame

omit hambience in
theorem sound_perform (hmail : contract.AllowsMail) (order : MailOrder) :
    contract.Sound (perform order) := by
  cases order with
  | newMailbox => exact hmail.opens
  | register number routine => exact hmail.enters number _
  | post number tag => exact hmail.sends number tag
  | cancel number tag => exact hmail.withdraws number tag
  | isRegistered number tag => exact sound_look _
  | pending number => exact sound_look _
  | deliver number => exact hmail.delivers number
  | describe number => exact sound_look _

end Mailbox

section Bench

theorem RateMeter.sound_perform
    (hmeters : ∀ change : Array RateMeter → Array RateMeter,
      contract.Admits fun rig => { rig with meters := change rig.meters })
    (order : ClockOrder) : contract.Sound (perform order) := by
  have hclock := hambience .clock (by decide)
  cases order with
  | advance duration => exact (hclock.admits fun _ => .clock _).sound
  | advanceTo instant => exact (hclock.admits fun _ => .clock _).sound
  | newMeter window => exact (hmeters (·.push (.ofWindow window))).sound
  | tick number =>
      apply (sound_look _).bind
      intro meter
      split
      · exact sound_pure _
      · apply (sound_look _).bind
        intro now
        refine Sound.bind ?_ fun _ => sound_pure _
        exact (hmeters (·.modify number _)).sound

namespace Debounced

section Free

variable {number : Nat}

omit hambience in
theorem sound_ifFree {α : Type} {body : Debounced → Exec α}
    (henters : contract.Admits fun rig =>
      { mark number true rig with
        journal := .entered (.debouncer number) :: rig.journal })
    (hleaves : contract.Admits fun rig =>
      { mark number false rig with
        journal := .left (.debouncer number) :: rig.journal })
    (hbody : ∀ entry, contract.Sound (body entry)) :
    contract.Sound (ifFree number body) := by
  apply (sound_look _).bind
  intro entry
  split
  · exact sound_pure _
  · split
    · exact sound_pure _
    · exact ((hbody _).within henters hleaves).map some

theorem sound_callTimes (entry : Debounced) (times : Nat) :
    contract.Sound (callTimes entry times) := by
  have hcalls := hambience .calls (by decide)
  induction times with
  | zero => exact sound_pure _
  | succ times ih =>
      apply (hcalls.sound_call _ _).bind
      intro verdict
      split
      · split
        · exact sound_pure _
        · exact ih
      · exact ih

variable (htimes : ∀ timing : Debouncer, contract.Admits fun rig =>
    { rig with debouncers := rig.debouncers.modify number ({ · with timing }) })

include htimes

theorem sound_activate (entry : Debounced) :
    contract.Sound (activate number entry) := by
  have hdiary := hambience .diary (by decide)
  apply (sound_look _).bind
  intro now
  apply (hdiary.sound_log _).seq
  apply (htimes _).sound.seq
  apply (sound_callTimes hambience entry _).bind
  intro verdict
  split <;> exact sound_pure _

theorem sound_adjust (adjustment : Adjustment) (entry : Debounced) :
    contract.Sound (adjust number adjustment entry) := by
  have hdiary := hambience .diary (by decide)
  exact (hdiary.sound_log _).seq (htimes _).sound

end Free

/-- An order is sound if new debouncers may come, and if the one that it concerns may
be kept busy with what it does. -/
theorem sound_perform {order : DebounceOrder}
    (hpushes : ∀ timing fallible routine, contract.Admits fun rig =>
      { rig with
        debouncers := rig.debouncers.push ⟨timing, fallible, routine, false⟩ })
    (hactivates : ∀ number, order.concerns number = true →
      contract.Sound (ifFree number (activate number)))
    (hinvokes : ∀ number, order.concerns number = true →
      contract.Sound (ifFree number fun entry => callTimes entry 1))
    (hadjusts : ∀ number adjustment, order.concerns number = true →
      contract.Sound (ifFree number (adjust number adjustment))) :
    contract.Sound (perform order) := by
  have hdiary := hambience .diary (by decide)
  cases order with
  | newDebouncer timing fallible routine =>
      apply (sound_look _).bind
      intro number
      apply (hdiary.sound_log _).seq
      exact (hpushes _ _ _).sound.bind fun _ => sound_pure _
  | activate number => exact hactivates number (beq_self_eq_true number)
  | invoke number => exact hinvokes number (beq_self_eq_true number)
  | adjust number adjustment =>
      exact hadjusts number adjustment (beq_self_eq_true number)
  | report number => exact sound_look _

/-- An order is sound if the debouncer that it concerns may change, and may come and
go. -/
theorem sound_perform_of_admits {order : DebounceOrder}
    (hpushes : ∀ entry, contract.Admits fun rig =>
      { rig with debouncers := rig.debouncers.push entry })
    (hmodify : ∀ number, order.concerns number = true →
      ∀ change : Debounced → Debounced, contract.Admits fun rig =>
        { rig with debouncers := rig.debouncers.modify number change })
    (hevents : ∀ event : Event, event.facet = .bench →
      contract.Admits fun rig => { rig with journal := event :: rig.journal }) :
    contract.Sound (perform order) := by
  have hfree {α : Type} {body : Debounced → Exec α} (number : Nat)
      (hconcerns : order.concerns number = true)
      (hbody : ∀ entry, contract.Sound (body entry)) :
      contract.Sound (ifFree number body) := by
    have hmark (busy : Bool) : contract.Admits (mark number busy) :=
      hmodify number hconcerns _
    exact sound_ifFree ((hmark true).comp (hevents (.entered (.debouncer number)) rfl))
      ((hmark false).comp (hevents (.left (.debouncer number)) rfl)) hbody
  refine sound_perform hambience (fun _ _ _ => hpushes _) ?_ ?_ ?_
  · intro number hconcerns
    exact hfree number hconcerns
      (sound_activate hambience fun timing => hmodify number hconcerns _)
  · intro number hconcerns
    exact hfree number hconcerns fun entry => sound_callTimes hambience entry 1
  · intro number adjustment hconcerns
    exact hfree number hconcerns
      (sound_adjust hambience (fun timing => hmodify number hconcerns _) adjustment)

end Debounced

/-- Everything is well with a contract that is not concerned with the bench. -/
theorem Contract.AllowsBench.of_ignores
    (hbench : contract.Ignores .bench) : contract.AllowsBench where
  measures := RateMeter.sound_perform hambience fun _ =>
    hbench.admits fun _ => .bench _ _
  debounces _ _ :=
    Debounced.sound_perform_of_admits hambience
      (fun _ => hbench.admits fun _ => .bench _ _)
      (fun _ _ _ => hbench.admits fun _ => .bench _ _)
      fun _ hfacet => hbench.admits_event hfacet

end Bench

namespace Refresher

omit hambience in
theorem sound_perform (hrequests : contract.AllowsRequests) {order : RefreshOrder}
    (hrefreshes : order = .refresh → ∀ now, contract.Sound (refresh now)) :
    contract.Sound (perform order) := by
  cases order with
  | request routine => exact hrequests.asks _
  | recur routine => exact hrequests.repeats routine
  | refresh => exact (sound_look _).bind fun now => hrefreshes rfl now
  | stop => exact hrequests.halts
  | frameIndex => exact sound_look _
  | describe => exact sound_look _

end Refresher

namespace Controls

section Effect

variable (hpacing : contract.AllowsPacing) (hrequests : contract.AllowsRequests)
  (hmail : contract.AllowsMail)

include hpacing hrequests hmail

/-- What a command does once it has been noted is sound. -/
theorem exists_effect (step : Option Tag) (command : Command) :
    ∃ effect, contract.Sound effect ∧
      apply step command = (do record (.applied command); effect) := by
  have hdiary := hambience .diary (by decide)
  refine ⟨_, ?_, rfl⟩
  apply (hdiary.sound_log _).seq
  apply (sound_look _).bind
  intro rate
  cases command with
  | toggleRunning =>
      exact (Pace.sound_toggleRunning hambience).bind fun _ => sound_pure ()
  | step =>
      cases step with
      | none => exact hdiary.sound_log _
      | some tag => exact hmail.sends 0 tag
  | moreCycles =>
      exact (Pace.sound_setCycles hambience hpacing _).bind fun _ => sound_pure ()
  | fewerCycles =>
      exact (Pace.sound_setCycles hambience hpacing _).bind fun _ => sound_pure ()
  | longerFrame =>
      exact (Pace.sound_setFrameTime hambience hpacing _).bind fun _ => sound_pure ()
  | shorterFrame =>
      exact (Pace.sound_setFrameTime hambience hpacing _).bind fun _ => sound_pure ()
  | quit => exact hrequests.halts

end Effect

variable (hcontrols : contract.Ignores .controls)

include hcontrols

omit hambience in
theorem sound_withSource (input : Input) (name : InputSource) :
    contract.Sound (update (withSource input name)) := by
  cases name <;> exact (hcontrols.admits fun _ => .controls _ _ _).sound

variable (hpacing : contract.AllowsPacing) (hrequests : contract.AllowsRequests)
  (hmail : contract.AllowsMail)

include hpacing hrequests hmail

theorem sound_apply (step : Option Tag) (command : Command) :
    contract.Sound (apply step command) := by
  obtain ⟨effect, hsound, heffect⟩ :=
    exists_effect hambience hpacing hrequests hmail step command
  rw [heffect]
  exact (hcontrols.sound_record rfl).seq hsound

theorem sound_applyAll (step : Option Tag) (commands : List Command) :
    contract.Sound (applyAll step commands) := by
  induction commands with
  | nil => exact sound_pure ()
  | cons command rest ih =>
      exact (sound_apply hambience hcontrols hpacing hrequests hmail step command).bind
        fun _ => ih

theorem sound_perform (order : ControlOrder) :
    contract.Sound (perform order) := by
  have hdiary := hambience .diary (by decide)
  cases order with
  | setStep tag => exact (hcontrols.admits fun _ => .controls _ _ _).sound
  | apply command =>
      exact (sound_look _).bind fun step =>
        sound_apply hambience hcontrols hpacing hrequests hmail step command
  | arrive events => exact (hcontrols.admits fun _ => .controls _ _ _).sound
  | load commands => exact (hcontrols.admits fun _ => .controls _ _ _).sound
  | peek name =>
      apply (sound_look _).bind
      intro input
      apply (hdiary.sound_log _).seq
      exact (sound_withSource hcontrols _ name).bind fun _ => sound_pure _
  | flush name =>
      apply (sound_look _).bind
      intro input
      apply (hdiary.sound_log _).seq
      exact sound_withSource hcontrols _ name
  | pump name =>
      apply (sound_look _).bind
      intro step
      apply (sound_look _).bind
      intro input
      apply (hdiary.sound_log _).seq
      apply (sound_withSource hcontrols _ name).seq
      refine Sound.bind ?_ fun _ => sound_pure _
      exact sound_applyAll hambience hcontrols hpacing hrequests hmail step _

end Controls

namespace Loop

theorem sound_readClock (tick : Nat) : contract.Sound (readClock tick) := by
  have hclock := hambience .clock (by decide)
  apply (sound_look _).bind
  intro now
  refine Sound.bind ?_ fun _ => sound_pure _
  exact (hclock.admits fun _ => .clock _).sound

omit hambience in
theorem sound_turnByHand {number deadline : Nat}
    (henters : contract.Admits fun rig =>
      { mark number true rig with journal := .entered (.loop number) :: rig.journal })
    (hleaves : contract.Admits fun rig =>
      { mark number false rig with journal := .left (.loop number) :: rig.journal })
    (hturn : ∀ period, contract.Sound (turn period 0 deadline)) :
    contract.Sound (turnByHand number deadline) := by
  apply (sound_look _).bind
  intro loop
  split
  · exact sound_pure _
  · split
    · exact sound_pure _
    · exact ((hturn _).within henters hleaves).map some

omit hambience in
/-- Everything is well with a contract that is not concerned with loops. -/
theorem allowsLoops (hloops : contract.Ignores .loops) : contract.AllowsLoops where
  builds _ := hloops.admits fun _ => .loops _
  turns hturn number := by
    have hmark (busy : Bool) : contract.Admits (mark number busy) :=
      hloops.admits fun _ => .loops _
    exact sound_turnByHand ((hmark true).comp (hloops.admits_event rfl))
      ((hmark false).comp (hloops.admits_event rfl)) hturn

variable (hmail : contract.AllowsMail)

include hmail

theorem sound_turn (hrefreshes : ∀ now, contract.Sound (Refresher.refresh now))
    (period tick deadline : Nat) :
    contract.Sound (turn period tick deadline) := by
  apply (hmail.delivers 0).seq
  apply (sound_readClock hambience tick).bind
  intro now
  extract_lets finish
  have hfinish (next : Nat) : contract.Sound (finish next) := by
    apply (sound_look _).bind
    intro stopped
    apply (sound_look _).bind
    intro idle
    split <;> exact sound_pure _
  split
  · exact (hrefreshes now).bind fun _ => hfinish _
  · exact hfinish deadline

theorem sound_turns (hrefreshes : ∀ now, contract.Sound (Refresher.refresh now))
    (period tick limit deadline : Nat) :
    contract.Sound (turns period tick limit deadline) := by
  induction limit generalizing deadline with
  | zero => exact sound_exhausted
  | succ limit ih =>
      refine (sound_turn hambience hmail hrefreshes period tick deadline).bind
        fun next => ?_
      split
      · exact sound_pure ()
      · apply (sound_look _).bind
        intro empty
        split
        · exact (sound_readClock hambience tick).bind fun _ => ih _
        · exact ih _

theorem sound_perform (hloops : contract.AllowsLoops) (limit : Nat)
    {order : LoopOrder}
    (hrefreshes : (∀ hertz, order ≠ .newLoop hertz) →
      ∀ now, contract.Sound (Refresher.refresh now)) :
    contract.Sound (perform limit order) := by
  have hdiary := hambience .diary (by decide)
  cases order with
  | newLoop hertz => exact (hloops.builds _).sound.bind fun _ => sound_pure _
  | turn number deadline =>
      exact hloops.turns (fun period => sound_turn hambience hmail
        (hrefreshes fun _ => LoopOrder.noConfusion) period 0 deadline) number
  | run hertz tick =>
      have hturns (start : Nat) :
          contract.Sound (turns (Refresh.period hertz) tick limit start) :=
        sound_turns hambience hmail (hrefreshes fun _ => LoopOrder.noConfusion)
          _ tick limit start
      apply (hdiary.sound_log _).seq
      apply (sound_readClock hambience tick).bind
      intro start
      refine (hturns start).bind fun _ => ?_
      exact (sound_look _).bind fun refresher => hdiary.sound_log _

end Loop

namespace Driver

omit hambience in
theorem sound_perform (hpacing : contract.AllowsPacing)
    (hrequests : contract.AllowsRequests) (hmail : contract.AllowsMail)
    (hfleet : contract.AllowsFleet) (order : DriverOrder) : contract.Sound (perform order) := by
  cases order with
  | newEmulator machine => exact (hfleet.builds machine).sound
  | hold emulator => exact hfleet.holds emulator
  | newDriver emulator display options timebase =>
      exact hpacing.creates emulator display options timebase
  | turn number measuredRate => exact hfleet.turns number measuredRate
  | step number => exact hfleet.steps number
  | report number => exact sound_look _
  | start number => exact hrequests.starts number
  | registerStep number mailbox =>
      apply (sound_look _).bind
      intro driver
      split
      · exact sound_pure _
      · exact (hmail.enters _ _).map some
  | dropHandle number => exact hfleet.drops number
  | shown number => exact sound_look _

end Driver

/-- Whether an order runs refreshes itself. -/
def Order.refreshes : Order → Bool
  | .refresh .refresh => true
  | .loop (.turn _ _) => true
  | .loop (.run _ _) => true
  | _ => false

/-- All orders are sound if their parts are; refreshes have to be so only where they
may be ordered. -/
theorem Contract.soundOrders_of_parts (hpacing : contract.AllowsPacing)
    (hrequests : contract.AllowsRequests) (hmail : contract.AllowsMail) (hbench : contract.AllowsBench)
    (hfleet : contract.AllowsFleet) (hloops : contract.AllowsLoops)
    (hcontrols : contract.AllowsControls)
    (hrefreshes : ∀ order : Order, order.refreshes = true →
      contract.allowed order → ∀ now, contract.Sound (Refresher.refresh now)) :
    contract.SoundOrders := by
  have hdiary := hambience .diary (by decide)
  intro order limit hallowed
  cases order with
  | clock order => exact hbench.measures order
  | pace order => exact Pace.sound_perform hambience hpacing order
  | mail order => exact Mailbox.sound_perform hmail order
  | refresh order =>
      refine Refresher.sound_perform hrequests fun horder => ?_
      rw [horder] at hallowed
      exact hrefreshes _ rfl hallowed
  | debounce order => exact hbench.debounces order hallowed
  | driver order =>
      exact Driver.sound_perform hpacing hrequests hmail hfleet order
  | loop order =>
      refine Loop.sound_perform hambience hmail hloops limit fun horder => ?_
      refine hrefreshes _ ?_ hallowed
      cases order with
      | newLoop hertz => exact absurd rfl (horder hertz)
      | turn number deadline => rfl
      | run hertz tick => rfl
  | control order => exact hcontrols.controls order hallowed
  | note datum => exact hdiary.sound_record rfl

end Parts

section Margins

variable (hmargins : contract.IgnoresAll Facet.margins)
  (hpacing : contract.AllowsPacing) (hturns : contract.AllowsTurns)

include hmargins hpacing hturns

/-- Orders are sound for a contract that is not concerned with the margins. -/
theorem Contract.soundOrders_of_margins (hrequests : contract.AllowsRequests)
    (hmail : contract.AllowsMail) (hbench : contract.AllowsBench)
    (hrefreshes : ∀ order : Order, order.refreshes = true →
      contract.allowed order → ∀ now, contract.Sound (Refresher.refresh now)) :
    contract.SoundOrders := by
  have hambience := hmargins.of_subset Facet.ambience_subset_margins
  have hcontrols := hmargins .controls (by decide)
  refine soundOrders_of_parts hambience hpacing hrequests hmail hbench
    (.of_ignores (hmargins _ (by decide)) (hmargins _ (by decide)) hturns)
    (Loop.allowsLoops (hmargins _ (by decide))) ⟨fun order _ => ?_⟩ hrefreshes
  exact Controls.sound_perform hambience hcontrols hpacing hrequests hmail order

end Margins

/-- Orders are sound for a contract that is concerned neither with mail nor with
the bench. -/
theorem Contract.soundOrders (hsides : contract.IgnoresAll Facet.sides)
    (hpacing : contract.AllowsPacing) (hturns : contract.AllowsTurns)
    (hrefreshes : contract.AllowsRefreshes) : contract.SoundOrders :=
  have hmargins := hsides.of_subset Facet.margins_subset_sides
  have hambience := hsides.of_subset Facet.ambience_subset_sides
  soundOrders_of_margins hmargins hpacing hturns hrefreshes.toAllowsRequests
    (Mailbox.allowsMail hambience (hsides .mail (by decide)) hturns)
    (.of_ignores hambience (hsides .bench (by decide)))
    fun _ _ _ => hrefreshes.refreshes

end Cadence
