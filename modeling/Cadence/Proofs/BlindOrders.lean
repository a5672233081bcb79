import Cadence.Proofs.OrderFrame
import Cadence.Proofs.Veils

/-!
Blind orders.  What has nothing to do with emulators and drivers goes the same way
whatever a veil hides of a driver, so user code does too.
-/

namespace Cadence

open Exec

namespace Veil

variable {veil : Veil}

/-- A change of what is neither hidden nor of any concern to drivers. -/
theorem keeps_aside {change : Rig → Rig}
    (hseen : ∀ shift rig, veil.hide shift (change rig) = change (veil.hide shift rig))
    (hkept : ∀ rig, (change rig).routines = rig.routines ∧
      (change rig).refresher.tasks = rig.refresher.tasks ∧
        (change rig).mailboxes = rig.mailboxes ∧ (change rig).drivers = rig.drivers) :
    veil.Keeps change := by
  refine keeps_of_hide change hseen fun rig h => ?_
  obtain ⟨hroutines, htasks, hmailboxes, hdrivers⟩ := hkept rig
  exact h.of_eq (congrArg (Array.map Routine.course) hroutines) htasks hmailboxes hdrivers

theorem blind_aside {change : Rig → Rig}
    (hseen : ∀ shift rig, veil.hide shift (change rig) = change (veil.hide shift rig))
    (hkept : ∀ rig, (change rig).routines = rig.routines ∧
      (change rig).refresher.tasks = rig.refresher.tasks ∧
        (change rig).mailboxes = rig.mailboxes ∧ (change rig).drivers = rig.drivers) :
    veil.Blind (update change) :=
  (keeps_aside hseen hkept).blind

end Veil

variable {veil : Veil}

open Veil

/-! ### The pace -/

namespace Pace

theorem blind_modify (change : Pace → Pace) : veil.Blind (modify change) :=
  blind_aside (fun _ _ => rfl) fun _ => ⟨rfl, rfl, rfl, rfl⟩

/-- A driver that is told of a rate may be the one that is hidden. -/
theorem blind_tell (rate : Rate) (observer : Observer) :
    veil.Blind (tell rate observer) := by
  apply (blind_record _).seq
  cases observer with
  | driver number =>
      have htold : veil.Keeps fun rig => { rig with
          drivers := rig.drivers.modify number fun driver =>
            { driver with pending := some rate.frameTime } } :=
        keeps_drivers number (veil.told rate.frameTime)
          (fun shift driver _ => veil.blur_told shift driver rate.frameTime)
          (fun driver _ => veil.knows_told driver rate.frameTime)
          (fun _ => rfl) fun _ => rfl
      exact htold.blind
  | caller number routine => exact blind_callQuietly routine _

theorem blind_announce (rate : Rate) (observers : List Observer) :
    veil.Blind (announce rate observers) := by
  induction observers with
  | nil => exact blind_pure ()
  | cons observer rest ih =>
      apply (blind_tell rate observer).seq
      apply (blind_look fun _ _ => rfl).bind
      intro current
      split
      · exact ih
      · exact blind_pure ()

theorem blind_adopt (rate : Rate) : veil.Blind (adopt rate) := by
  apply (blind_modify _).seq
  apply (blind_record _).seq
  apply (blind_log _).seq
  apply (blind_look fun _ _ => rfl).bind
  intro observers
  exact (blind_announce rate observers).seq (blind_record _)

theorem blind_setCycles (cycles : UInt32) : veil.Blind (setCycles cycles) := by
  apply (blind_log _).seq
  apply (blind_look fun _ _ => rfl).bind
  intro rate
  split
  · exact blind_pure _
  · exact (blind_adopt _).bind fun _ => blind_pure _

theorem blind_setFrameTime (millis : Binary64) : veil.Blind (setFrameTime millis) := by
  apply (blind_log _).seq
  apply (blind_look fun _ _ => rfl).bind
  intro rate
  split
  · exact blind_pure _
  · exact (blind_adopt _).bind fun _ => blind_pure _

theorem blind_setRunning (running : Bool) : veil.Blind (setRunning running) := by
  apply (blind_look fun _ _ => rfl).bind
  intro before
  exact (blind_log _).seq (blind_modify _)

theorem blind_toggleRunning : veil.Blind toggleRunning := by
  apply (blind_look fun _ _ => rfl).bind
  intro running
  exact (blind_setRunning _).bind fun _ => blind_pure _

theorem blind_perform (order : PaceOrder) : veil.Blind (perform order) := by
  cases order with
  | rate => exact blind_look fun _ _ => rfl
  | setCycles cycles => exact blind_setCycles cycles
  | setFrameTime millis => exact blind_setFrameTime millis
  | setRunning running => exact blind_setRunning running
  | toggleRunning => exact blind_toggleRunning
  | subscribe routine =>
      apply (blind_look fun _ _ => rfl).bind
      intro number
      apply (blind_modify _).seq
      exact (blind_record _).bind fun _ => blind_pure _
  | unsubscribe number =>
      apply (blind_look fun _ _ => rfl).bind
      intro found
      apply (blind_modify _).seq
      split
      · exact (blind_record _).bind fun _ => blind_pure _
      · exact blind_pure _
  | describe => exact blind_look fun _ _ => rfl

end Pace

/-! ### Mailboxes -/

namespace Mailbox

/-- The callbacks of a mailbox are routines. -/
def Plain (mailbox : Mailbox) : Prop :=
  ∀ entry ∈ mailbox.registrations, ∃ routine, entry.callback = .routine routine

/-- Mailboxes may change if they keep to routines. -/
theorem keeps_mailboxes (number : Nat) {change : Mailbox → Mailbox} (tag message : Nat)
    (hplain : ∀ mailbox, mailbox.Plain → (change mailbox).Plain) :
    veil.Keeps fun rig =>
      { rig with
        nextTag := rig.nextTag + tag
        nextMessage := rig.nextMessage + message
        mailboxes := rig.mailboxes.modify number change } := by
  refine keeps_of_hide (fun rig => { rig with
    nextTag := rig.nextTag + tag
    nextMessage := rig.nextMessage + message
    mailboxes := rig.mailboxes.modify number change }) (fun _ _ => rfl) fun rig h => ?_
  refine ⟨⟨h.routines.of_courses rfl, h.tasks, ?_, h.handles⟩, h.known⟩
  intro mailbox hmailbox
  rcases mem_of_mem_modify hmailbox with hold | ⟨old, hold, rfl⟩
  · exact h.callbacks mailbox hold
  · exact hplain old (h.callbacks old hold)

theorem plain_mark {mailbox : Mailbox} (h : mailbox.Plain) (tag : Tag)
    (executing : Bool) : (mailbox.mark tag executing).Plain := by
  intro entry hentry
  obtain ⟨old, hold, rfl⟩ := List.mem_map.mp hentry
  obtain ⟨routine, hroutine⟩ := h old hold
  refine ⟨routine, ?_⟩
  split <;> exact hroutine

theorem blind_enter (number routine : Nat) :
    veil.Blind (enter number (.routine routine)) := by
  apply (blind_look fun _ _ => rfl).bind
  intro tag
  have hregisters : veil.Keeps fun rig => { rig with
      nextTag := rig.nextTag + 1
      mailboxes := rig.mailboxes.modify number (·.register ⟨tag⟩ (.routine routine)) } := by
    refine keeps_mailboxes number 1 0 fun mailbox h entry hentry => ?_
    rcases List.mem_append.mp hentry with hold | hnew
    · exact h entry hold
    · exact ⟨routine, congrArg Registration.callback (List.mem_singleton.mp hnew)⟩
  apply hregisters.blind.seq
  apply (blind_look fun _ _ => rfl).bind
  intro size
  split
  · apply (blind_record _).seq
    exact (blind_log _).bind fun _ => blind_pure _
  · exact blind_pure _

theorem blind_send (number : Nat) (tag : Tag) : veil.Blind (send number tag) := by
  apply (blind_look fun _ _ => rfl).bind
  intro size
  split
  · apply (blind_look fun _ _ => rfl).bind
    intro serial
    have hposts : veil.Keeps fun rig => { rig with
        nextMessage := rig.nextMessage + 1
        mailboxes := rig.mailboxes.modify number (·.post ⟨serial, tag⟩) } :=
      keeps_mailboxes number 0 1 fun _ h => h
    exact hposts.blind.seq (blind_record _)
  · exact blind_pure ()

theorem blind_withdraw (number : Nat) (tag : Tag) : veil.Blind (withdraw number tag) := by
  apply (blind_look fun _ _ => rfl).bind
  intro found
  have hcancels : veil.Keeps fun rig => { rig with
      mailboxes := rig.mailboxes.modify number (·.cancel tag) } :=
    keeps_mailboxes number 0 0 fun _ h entry hentry => h entry (List.mem_filter.mp hentry).1
  apply hcancels.blind.seq
  split
  · apply (blind_record _).seq
    exact (blind_log _).bind fun _ => blind_pure _
  · exact blind_pure _

theorem keeps_markOnRig (number : Nat) (tag : Tag) (executing : Bool) :
    veil.Keeps (markOnRig number tag executing) :=
  keeps_mailboxes number 0 0 fun _ h => plain_mark h tag executing

theorem plain_of_driverless {rig : Rig} (h : rig.Driverless) (number : Nat) :
    (rig.mailbox number).Plain := by
  rw [Rig.mailbox]
  cases hmailbox : rig.mailboxes[number]? with
  | none => exact fun entry hentry => absurd hentry List.not_mem_nil
  | some mailbox => exact h.callbacks mailbox (Array.mem_of_getElem? hmailbox)

/-- What a message finds is a routine, if it finds anything. -/
theorem blind_handle (number : Nat) (message : Message) :
    veil.Blind (handle number message) := by
  refine blind_look_bind
    (fun found => ∀ entry, found = some entry →
      ∃ routine, entry.callback = .routine routine)
    (fun _ _ => rfl) (fun rig h entry hfound => ?_) fun found hroutine => ?_
  · exact plain_of_driverless h number entry (List.mem_of_find?_eq_some hfound)
  · split
    · apply (blind_record _).seq
      exact (blind_log _).bind fun _ => blind_pure _
    · rename_i entry
      obtain ⟨routine, hcallback⟩ := hroutine entry rfl
      split
      · apply (blind_record _).seq
        exact (blind_log _).bind fun _ => blind_pure _
      · have hstart : veil.Blind (start entry.callback) := by
          rw [hcallback]
          exact blind_callQuietly routine _
        apply (blind_record _).seq
        refine Blind.bind ?_ fun _ => blind_pure _
        refine hstart.within ?_ ?_
        · exact (keeps_markOnRig number message.tag true).comp (keeps_record _)
        · exact (keeps_markOnRig number message.tag false).comp (keeps_record _)

theorem blind_handleAll (number : Nat) (messages : List Message) (fired : Nat) :
    veil.Blind (handleAll number messages fired) := by
  induction messages generalizing fired with
  | nil => exact blind_pure _
  | cons message rest ih => exact (blind_handle number message).bind fun _ => ih _

theorem blind_deliver (number : Nat) : veil.Blind (deliver number) := by
  apply (blind_look fun _ _ => rfl).bind
  intro messages
  have htakes : veil.Keeps fun rig => { rig with
      mailboxes := rig.mailboxes.modify number ({ · with queue := [] }) } :=
    keeps_mailboxes number 0 0 fun _ h => h
  apply htakes.blind.seq
  exact (blind_record _).seq (blind_handleAll number messages 0)

theorem blind_perform (order : MailOrder) : veil.Blind (perform order) := by
  cases order with
  | newMailbox =>
      apply (blind_look fun _ _ => rfl).bind
      intro number
      have hopens : veil.Keeps fun rig => { rig with
          mailboxes := rig.mailboxes.push .empty } := by
        refine keeps_of_hide (fun rig => { rig with
          mailboxes := rig.mailboxes.push .empty }) (fun _ _ => rfl) fun rig h => ?_
        refine ⟨⟨h.routines.of_courses rfl, h.tasks, ?_, h.handles⟩, h.known⟩
        intro mailbox hmailbox
        rcases Array.mem_push.mp hmailbox with hold | rfl
        · exact h.callbacks mailbox hold
        · exact fun entry hentry => absurd hentry List.not_mem_nil
      exact hopens.blind.bind fun _ => blind_pure _
  | register number routine => exact blind_enter number routine
  | post number tag => exact blind_send number tag
  | cancel number tag => exact blind_withdraw number tag
  | isRegistered number tag => exact blind_look fun _ _ => rfl
  | pending number => exact blind_look fun _ _ => rfl
  | deliver number => exact blind_deliver number
  | describe number => exact blind_look fun _ _ => rfl

end Mailbox

/-! ### Refreshes -/

namespace Refresher

/-- The recurring tasks are routines. -/
def Plain (refresher : Refresher) : Prop :=
  ∀ entry ∈ refresher.tasks, ∃ routine, entry.body = .routine routine

theorem keeps_refresher (change : Refresher → Refresher)
    (hplain : ∀ refresher, refresher.Plain → (change refresher).Plain) :
    veil.Keeps fun rig => { rig with refresher := change rig.refresher } :=
  keeps_of_hide (fun rig => { rig with refresher := change rig.refresher })
    (fun _ _ => rfl) fun _ h =>
      ⟨⟨h.routines.of_courses rfl, hplain _ h.tasks, h.callbacks, h.handles⟩, h.known⟩

theorem keeps_shift {change : Refresher → Refresher} (hchange : Shifts change) :
    veil.Keeps fun rig => { rig with refresher := change rig.refresher } := by
  refine keeps_refresher change fun refresher h => ?_
  rw [Plain, hchange.tasks]
  exact h

theorem blind_shift {change : Refresher → Refresher} (hchange : Shifts change) :
    veil.Blind (modify change) :=
  (keeps_shift hchange).blind

theorem blind_ask (work : FrameWork) : veil.Blind (ask work) := by
  have hrequest : Shifts (·.request work) := ⟨fun _ => rfl, fun _ => rfl, fun _ => rfl⟩
  apply (blind_look fun _ _ => rfl).bind
  intro ticket
  exact (blind_shift hrequest).seq (blind_record _)

theorem blind_repeatedly (routine : Nat) : veil.Blind (repeatedly routine) := by
  have hrecurs : veil.Keeps fun rig =>
      { rig with refresher := rig.refresher.recur (.routine routine) } := by
    refine keeps_refresher (·.recur (.routine routine)) fun refresher h entry hentry => ?_
    rcases Array.mem_push.mp hentry with hold | rfl
    · exact h entry hold
    · exact ⟨routine, rfl⟩
  apply (blind_look fun _ _ => rfl).bind
  intro ticket
  apply (blind_look fun _ _ => rfl).bind
  intro task
  exact hrecurs.blind.seq (blind_record _)

theorem blind_halt : veil.Blind halt := by
  have hstops : veil.Keeps fun rig => { rig with refresher := rig.refresher.stop } :=
    keeps_shift ⟨fun _ => rfl, fun _ => rfl, fun _ => rfl⟩
  apply (blind_look fun _ _ => rfl).bind
  intro refresher
  apply (blind_log _).seq
  apply (blind_record _).seq
  exact (hstops.comp keeps_retireAbandoned).blind

theorem keeps_markOnRig (task : Nat) (executing : Bool) :
    veil.Keeps (markOnRig task executing) := by
  refine keeps_refresher (·.mark task executing) fun refresher h entry hentry => ?_
  have hmodified : entry ∈ refresher.tasks.modify task fun entry =>
      { entry with executing } := hentry
  rcases mem_of_mem_modify hmodified with hold | ⟨old, hold, rfl⟩
  · exact h entry hold
  · exact h old hold

theorem keeps_requestNext (task : Nat) : veil.Keeps (requestNext task) := by
  intro shift rig other halike
  have hagain := keeps_shift (.requestAgain task) _ _ _ halike
  have hrefresher : rig.refresher = other.refresher :=
    halike.view (·.refresher) fun _ _ => rfl
  simp only [requestNext, ← hrefresher] at hagain ⊢
  split
  · exact hagain
  · exact keeps_record _ _ _ _ hagain

/-- The body of a task is a routine. -/
theorem blind_runTask (frame : FrameTime) (task : Nat) :
    veil.Blind (runTask frame task) := by
  refine blind_look_bind
    (fun found => ∀ entry, found = some entry → ∃ routine, entry.body = .routine routine)
    (fun _ _ => rfl) (fun rig h entry hfound => ?_) fun found hroutine => ?_
  · exact h.tasks entry (Array.mem_of_getElem? hfound)
  · split
    · exact blind_pure _
    · rename_i entry
      obtain ⟨routine, hbody⟩ := hroutine entry rfl
      refine Blind.ensuring ?_ (keeps_requestNext task)
      split
      · exact blind_pure _
      · have hrun : veil.Blind (runBody frame entry.body) := by
          rw [hbody]
          exact blind_call routine _
        refine hrun.within ?_ ?_
        · exact (keeps_markOnRig task true).comp (keeps_record _)
        · exact (keeps_markOnRig task false).comp (keeps_record _)

theorem blind_runWork (frame : FrameTime) (work : FrameWork) :
    veil.Blind (runWork frame work) := by
  cases work with
  | once routine => exact blind_call routine _
  | turn task => exact blind_runTask frame task

theorem blind_runRequest (frame : FrameTime) (request : FrameRequest) :
    veil.Blind (runRequest frame request) := by
  have hends : veil.Keeps fun rig =>
      { rig with refresher := rig.refresher.endRequest } :=
    keeps_shift (.modifyBatch _)
  refine Blind.bind (Blind.ensuring ?_ (hends.comp keeps_retireAbandoned)) ?_
  · apply (blind_shift (.modifyBatch _)).seq
    apply (blind_record _).seq
    apply (blind_runWork frame request.work).bind
    intro verdict
    exact (blind_record _).bind fun _ => blind_pure _
  · intro verdict
    split
    · exact blind_pure ()
    · have hfails : veil.Keeps fun rig => { rig with
          refresher := { rig.refresher with failures := rig.refresher.failures + 1 } } :=
        keeps_refresher (fun refresher =>
          { refresher with failures := refresher.failures + 1 }) fun _ h => h
      exact hfails.blind.seq (blind_log _)

theorem blind_runAll (frame : FrameTime) (requests : List FrameRequest) :
    veil.Blind (runAll frame requests) := by
  induction requests with
  | nil => exact blind_pure ()
  | cons request rest ih => exact (blind_runRequest frame request).bind fun _ => ih

theorem blind_refresh (now : Nat) : veil.Blind (refresh now) := by
  have hcloses : veil.Keeps fun rig =>
      { rig with refresher := rig.refresher.closeBatch } :=
    keeps_shift ⟨fun _ => rfl, fun _ => rfl, fun _ => rfl⟩
  refine blind_look_bind (fun opened => opened.2.Plain) (fun _ _ => rfl)
    (fun rig h => h.tasks) fun opened hplain => ?_
  have hopens : veil.Keeps fun rig => { rig with refresher := opened.2 } :=
    keeps_refresher (fun _ => opened.2) fun _ _ => hplain
  apply (blind_look fun _ _ => rfl).bind
  intro refresher
  apply (blind_log _).seq
  apply hopens.blind.seq
  apply (blind_record _).seq
  refine Blind.seq ?_ (blind_pure _)
  exact (blind_runAll _ _).ensuring (hcloses.comp keeps_retireAbandoned)

theorem blind_perform (order : RefreshOrder) : veil.Blind (perform order) := by
  cases order with
  | request routine => exact blind_ask _
  | recur routine => exact blind_repeatedly routine
  | refresh => exact (blind_look fun _ _ => rfl).bind fun now => blind_refresh now
  | stop => exact blind_halt
  | frameIndex => exact blind_look fun _ _ => rfl
  | describe => exact blind_look fun _ _ => rfl

end Refresher

/-! ### Debouncers and meters by themselves -/

theorem RateMeter.blind_perform (order : ClockOrder) : veil.Blind (perform order) := by
  cases order with
  | advance duration => exact blind_aside (fun _ _ => rfl) fun _ => ⟨rfl, rfl, rfl, rfl⟩
  | advanceTo instant => exact blind_aside (fun _ _ => rfl) fun _ => ⟨rfl, rfl, rfl, rfl⟩
  | newMeter window => exact blind_aside (fun _ _ => rfl) fun _ => ⟨rfl, rfl, rfl, rfl⟩
  | tick number =>
      apply (blind_look fun _ _ => rfl).bind
      intro meter
      split
      · exact blind_pure _
      · apply (blind_look fun _ _ => rfl).bind
        intro now
        refine Blind.bind ?_ fun _ => blind_pure _
        exact blind_aside (fun _ _ => rfl) fun _ => ⟨rfl, rfl, rfl, rfl⟩

namespace Debounced

theorem keeps_mark (number : Nat) (busy : Bool) : veil.Keeps (mark number busy) :=
  keeps_aside (fun _ _ => rfl) fun _ => ⟨rfl, rfl, rfl, rfl⟩

theorem blind_modify (number : Nat) (change : Debounced → Debounced) :
    veil.Blind (modify number change) :=
  blind_aside (fun _ _ => rfl) fun _ => ⟨rfl, rfl, rfl, rfl⟩

theorem blind_ifFree {α : Type} (number : Nat) {body : Debounced → Exec α}
    (hbody : ∀ entry, veil.Blind (body entry)) : veil.Blind (ifFree number body) := by
  apply (blind_look fun _ _ => rfl).bind
  intro entry
  split
  · exact blind_pure _
  · split
    · exact blind_pure _
    · refine ((hbody _).within ?_ ?_).map some
      · exact (keeps_mark number true).comp (keeps_record _)
      · exact (keeps_mark number false).comp (keeps_record _)

theorem blind_callTimes (entry : Debounced) (times : Nat) :
    veil.Blind (callTimes entry times) := by
  induction times with
  | zero => exact blind_pure _
  | succ times ih =>
      apply (blind_call _ _).bind
      intro verdict
      split
      · split
        · exact blind_pure _
        · exact ih
      · exact ih

theorem blind_perform (order : DebounceOrder) : veil.Blind (perform order) := by
  cases order with
  | newDebouncer timing fallible routine =>
      apply (blind_look fun _ _ => rfl).bind
      intro number
      apply (blind_log _).seq
      refine Blind.bind ?_ fun _ => blind_pure _
      exact blind_aside (fun _ _ => rfl) fun _ => ⟨rfl, rfl, rfl, rfl⟩
  | activate number =>
      refine blind_ifFree number fun entry => ?_
      apply (blind_look fun _ _ => rfl).bind
      intro now
      apply (blind_log _).seq
      apply (blind_modify number _).seq
      apply (blind_callTimes entry _).bind
      intro verdict
      split <;> exact blind_pure _
  | invoke number => exact blind_ifFree number fun entry => blind_callTimes entry 1
  | adjust number adjustment =>
      exact blind_ifFree number fun entry => (blind_log _).seq (blind_modify number _)
  | report number => exact blind_look fun _ _ => rfl

end Debounced

/-! ### Controls -/

namespace Controls

theorem blind_withSource (input : Input) (name : InputSource) :
    veil.Blind (update (withSource input name)) := by
  cases name with
  | keyboard => exact blind_aside (fun _ _ => rfl) fun _ => ⟨rfl, rfl, rfl, rfl⟩
  | canned => exact blind_aside (fun _ _ => rfl) fun _ => ⟨rfl, rfl, rfl, rfl⟩

theorem blind_source (name : InputSource) : veil.Blind (look (source name)) := by
  cases name with
  | keyboard => exact blind_look fun _ _ => rfl
  | canned => exact blind_look fun _ _ => rfl

theorem blind_apply (step : Option Tag) (command : Command) :
    veil.Blind (apply step command) := by
  apply (blind_record _).seq
  apply (blind_log _).seq
  apply (blind_look fun _ _ => rfl).bind
  intro rate
  cases command with
  | toggleRunning => exact Pace.blind_toggleRunning.bind fun _ => blind_pure ()
  | step =>
      cases step with
      | none => exact blind_log _
      | some tag => exact Mailbox.blind_send 0 tag
  | moreCycles => exact (Pace.blind_setCycles _).bind fun _ => blind_pure ()
  | fewerCycles => exact (Pace.blind_setCycles _).bind fun _ => blind_pure ()
  | longerFrame => exact (Pace.blind_setFrameTime _).bind fun _ => blind_pure ()
  | shorterFrame => exact (Pace.blind_setFrameTime _).bind fun _ => blind_pure ()
  | quit => exact Refresher.blind_halt

theorem blind_applyAll (step : Option Tag) (commands : List Command) :
    veil.Blind (applyAll step commands) := by
  induction commands with
  | nil => exact blind_pure ()
  | cons command rest ih => exact (blind_apply step command).bind fun _ => ih

theorem blind_perform (order : ControlOrder) : veil.Blind (perform order) := by
  cases order with
  | setStep tag => exact blind_aside (fun _ _ => rfl) fun _ => ⟨rfl, rfl, rfl, rfl⟩
  | apply command =>
      exact (blind_look fun _ _ => rfl).bind fun step => blind_apply step command
  | arrive events => exact blind_aside (fun _ _ => rfl) fun _ => ⟨rfl, rfl, rfl, rfl⟩
  | load commands => exact blind_aside (fun _ _ => rfl) fun _ => ⟨rfl, rfl, rfl, rfl⟩
  | peek name =>
      apply (blind_source name).bind
      intro input
      apply (blind_log _).seq
      exact (blind_withSource _ name).bind fun _ => blind_pure _
  | flush name =>
      apply (blind_source name).bind
      intro input
      exact (blind_log _).seq (blind_withSource _ name)
  | pump name =>
      apply (blind_look fun _ _ => rfl).bind
      intro step
      apply (blind_source name).bind
      intro input
      apply (blind_log _).seq
      apply (blind_withSource _ name).seq
      exact (blind_applyAll step _).bind fun _ => blind_pure _

end Controls

/-! ### Event loops -/

namespace Loop

theorem blind_readClock (tick : Nat) : veil.Blind (readClock tick) := by
  apply (blind_look fun _ _ => rfl).bind
  intro now
  refine Blind.bind ?_ fun _ => blind_pure _
  exact blind_aside (fun _ _ => rfl) fun _ => ⟨rfl, rfl, rfl, rfl⟩

theorem blind_turn (period tick deadline : Nat) :
    veil.Blind (turn period tick deadline) := by
  apply (Mailbox.blind_deliver 0).seq
  apply (blind_readClock tick).bind
  intro now
  extract_lets finish
  have hfinish (next : Nat) : veil.Blind (finish next) := by
    apply (blind_look fun _ _ => rfl).bind
    intro stopped
    apply (blind_look fun _ _ => rfl).bind
    intro idle
    split <;> exact blind_pure _
  split
  · exact (Refresher.blind_refresh now).bind fun _ => hfinish _
  · exact hfinish deadline

theorem blind_turns (period tick limit deadline : Nat) :
    veil.Blind (turns period tick limit deadline) := by
  induction limit generalizing deadline with
  | zero => exact blind_exhausted
  | succ limit ih =>
      apply (blind_turn period tick deadline).bind
      intro next
      split
      · exact blind_pure ()
      · apply (blind_look fun _ _ => rfl).bind
        intro empty
        split
        · exact (blind_readClock tick).bind fun _ => ih _
        · exact ih _

theorem keeps_mark (number : Nat) (busy : Bool) : veil.Keeps (mark number busy) :=
  keeps_aside (fun _ _ => rfl) fun _ => ⟨rfl, rfl, rfl, rfl⟩

theorem blind_perform (limit : Nat) (order : LoopOrder) :
    veil.Blind (perform limit order) := by
  cases order with
  | newLoop hertz =>
      refine Blind.bind ?_ fun _ => blind_pure _
      exact blind_aside (fun _ _ => rfl) fun _ => ⟨rfl, rfl, rfl, rfl⟩
  | turn number deadline =>
      apply (blind_look fun _ _ => rfl).bind
      intro loop
      split
      · exact blind_pure _
      · split
        · exact blind_pure _
        · refine ((blind_turn _ 0 deadline).within ?_ ?_).map some
          · exact (keeps_mark number true).comp (keeps_record _)
          · exact (keeps_mark number false).comp (keeps_record _)
  | run hertz tick =>
      apply (blind_log _).seq
      apply (blind_readClock tick).bind
      intro start
      apply (blind_turns _ tick limit start).seq
      exact (blind_look fun _ _ => rfl).bind fun refresher => blind_log _

end Loop

/-! ### User code -/

/-- Orders that have nothing to do with drivers do not see what is hidden of one. -/
theorem Order.blind_carryOut (limit : Nat) {order : Order}
    (hdriverless : order.isDriverless = true) : veil.Blind (order.carryOut limit) := by
  cases order with
  | clock order => exact RateMeter.blind_perform order
  | pace order => exact Pace.blind_perform order
  | mail order => exact Mailbox.blind_perform order
  | refresh order => exact Refresher.blind_perform order
  | debounce order => exact Debounced.blind_perform order
  | driver order => cases hdriverless
  | loop order => exact Loop.blind_perform limit order
  | control order => exact Controls.blind_perform order
  | note datum => exact blind_record _

theorem Veil.keeps_enroll {course : Course}
    (hcourse : ∀ call occasion, (course call occasion).KeepsTo (·.isDriverless = true)) :
    veil.Keeps (·.enroll course) :=
  keeps_of_hide (·.enroll course) (fun _ _ => rfl) fun _ h =>
    ⟨⟨h.routines.enroll hcourse, h.tasks, h.callbacks, h.handles⟩, h.known⟩

/-- A script goes the same way on alike rigs if its orders do. -/
theorem Veil.plays_playWith
    {perform : (order : Order) → Rig → Ending order.Answer × Rig}
    (hperform : ∀ shift order rig other, order.isDriverless = true →
      veil.Alike shift rig other →
        (perform order rig).1 = (perform order other).1 ∧
          veil.Alike shift (perform order rig).2 (perform order other).2) :
    veil.Plays (Script.playWith perform) := by
  intro shift script
  induction script with
  | done answer => exact fun rig other _ halike => ⟨rfl, halike⟩
  | fail failure => exact fun rig other _ halike => ⟨rfl, halike⟩
  | panic cause => exact fun rig other _ halike => ⟨rfl, halike⟩
  | order asked next ih =>
      intro rig other hkeeps halike
      obtain ⟨hending, hlater⟩ := hperform shift asked rig other hkeeps.1 halike
      rw [Script.playWith, Script.playWith]
      rcases hasked : perform asked rig with ⟨ending, later⟩
      rcases hother : perform asked other with ⟨otherEnding, otherLater⟩
      rw [hasked, hother] at hending hlater
      cases hending
      cases ending with
      | value answer => exact ih answer later otherLater (hkeeps.2 answer) hlater
      | panicked cause => exact ⟨rfl, hlater⟩
      | exhausted => exact ⟨rfl, hlater⟩
  | routine course next _ hnext =>
      intro rig other hkeeps halike
      have hsize : rig.routines.size = other.routines.size :=
        halike.view (·.routines.size) fun _ _ => rfl
      rw [Script.playWith, Script.playWith, hsize]
      exact hnext _ _ _ (hkeeps.2 _) (keeps_enroll hkeeps.1 _ _ _ halike)

/-- However deep its orders nest, user code goes the same way on alike rigs. -/
theorem Veil.plays_playWithin (depth : Nat) : veil.Plays (Script.playWithin depth) := by
  -- User code of depth `depth + 1` carries out orders that hand over to user code of
  -- depth `depth`.
  induction depth with
  | zero => exact plays_playWith fun _ _ _ _ _ halike => ⟨rfl, halike⟩
  | succ depth ih =>
      refine plays_playWith fun shift order rig other hdriverless halike => ?_
      exact (order.blind_carryOut (depth + 1) hdriverless shift rig other halike).run ih

end Cadence
