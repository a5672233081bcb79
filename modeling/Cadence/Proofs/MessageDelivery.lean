import Cadence.Proofs.HandledMessages
import Cadence.Proofs.Registrations

/-!
The delivery of messages.  As long as nothing panics, every message is taken by the
first delivery after its post and by no other, and handled once, in the order of the
posts; what it comes upon decides whether it starts a callback.
-/

namespace Cadence

open Deed

namespace Mailbox

open Mailing

/-- What a message can count on, by its fate. -/
def Consumed (moment : Rig) (number : Nat) (message : Message) :
    Fate Message Nat → Prop
  | .waits =>
      message ∈ (moment.mailbox number).queue ∧
        message ∉ chronicle takes (mailDeeds number moment.journal) ∧
        message ∉ chronicle begins (mailDeeds number moment.journal)
  | .taken _ messages =>
      .deliveryOpened number messages ∈ moment.journal ∧ message ∈ messages ∧
        (chronicle takes (mailDeeds number moment.journal)).count message = 1
  | .dropped => False

/-- A delivery is under way: it has handled some messages, and the callback of the
last of them executes. -/
def UnderWay (number : Nat) (messages : List Message) (journal : List Event) : Prop :=
  ∃ before message after, messages = before ++ message :: after ∧
    begunAmong (mailDeeds number journal) messages = before ++ [message] ∧
    isExecuting message.tag journal = true

/-- What is promised of a delivery. -/
structure DeliversBatch (depth number : Nat) (rig : Rig) : Prop where
  /-- A delivery that returns has handled the whole queue, in its order. -/
  returns : ∀ count later,
    (deliver number rig).run (Script.playWithin depth) = (.value count, later) →
      begunAmong (mailDeeds number later.journal) (rig.mailbox number).queue =
        (rig.mailbox number).queue ∧
      ∃ attempts,
        Handles (Script.playWithin depth) number (opened number rig)
          (rig.mailbox number).queue attempts later ∧
        (deliver number rig).handovers (Script.playWithin depth) =
          attempts.flatMap Attempt.calls ∧
        count = tally .started attempts ∧
        (rig.mailbox number).queue.length =
          count + tally .unregistered attempts + tally .reentrant attempts
  /-- A delivery that does not return broke off in one of its callbacks. -/
  breaks :
    ((deliver number rig).run (Script.playWithin depth)).1.isValue = false →
      ∃ before message after attempts middle entry,
        (rig.mailbox number).queue = before ++ message :: after ∧
        Handles (Script.playWithin depth) number (opened number rig) before attempts
          middle ∧
        (middle.mailbox number).find? message.tag = some entry ∧
        entry.executing = false ∧
        ((start entry.callback (begun number message middle)).run
          (Script.playWithin depth)).1.isValue = false

/-- What is promised of messages where nothing panics. -/
structure DeliversMail (moment : Rig) : Prop where
  /-- What was posted since the latest delivery is queued. -/
  pending : ∀ number,
    (moment.mailbox number).queue = unclaimed (mailDeeds number moment.journal)
  /-- A delivery takes what was posted since the one before. -/
  takes : ∀ newer number messages older,
    moment.journal = newer ++ .deliveryOpened number messages :: older →
      messages = unclaimed (mailDeeds number older)
  /-- A message is taken by the first delivery after it. -/
  consumed : ∀ newer number message older,
    moment.journal = newer ++ .posted number message :: older →
      Consumed moment number message (fate (mailDeeds number newer))
  /-- What is posted during a delivery is not part of it. -/
  late : ∀ newer number messages older,
    moment.journal = newer ++ .deliveryOpened number messages :: older →
      ∀ message, .posted number message ∈ newer → message ∉ messages
  once : ∀ number, (chronicle begins (mailDeeds number moment.journal)).Nodup
  /-- A delivery handles all its messages, in their order, or is under way. -/
  handled : ∀ number messages, .deliveryOpened number messages ∈ moment.journal →
    begunAmong (mailDeeds number moment.journal) messages = messages ∨
      UnderWay number messages moment.journal
  /-- The journal tells of the registrations. -/
  registered : ∀ number tag,
    (moment.mailbox number).isRegistered tag = isKept number tag moment.journal
  /-- A message starts its callback if one is registered that does not execute, and
  otherwise nothing. -/
  accounted : Accounted moment.journal
  /-- A registration puts its callback under a new tag. -/
  registers : ∀ number callback, number < moment.mailboxes.size →
    ∃ later, enter number callback moment = .ended (.value ⟨moment.nextTag⟩) later ∧
      (later.mailbox number).find? ⟨moment.nextTag⟩ =
        some ⟨⟨moment.nextTag⟩, callback, false⟩
  /-- A tag keeps its callback, whatever user code does. -/
  keeps : ∀ number tag entry, (moment.mailbox number).find? tag = some entry →
    ∀ depth script later, Script.Passes depth script moment later →
      ∀ other, (later.mailbox number).find? tag = some other →
        other.callback = entry.callback
  /-- A post is over at once and calls nothing. -/
  posts : ∀ number tag, number < moment.mailboxes.size →
    ∃ later, send number tag moment = .ended (.value ()) later ∧
      later.journal = .posted number ⟨moment.nextMessage, tag⟩ :: moment.journal
  runs : ∀ depth number, DeliversBatch depth number moment

section Run

variable {rig later : Rig} {number depth count : Nat}

theorem opened_of_run_deliver
    (h : (deliver number rig).run (Script.playWithin depth) = (.value count, later)) :
    .deliveryOpened number (rig.mailbox number).queue ∈ later.journal := by
  rw [deliver_apply] at h
  exact (Rig.lasting_recorded _).handleAll h List.mem_cons_self

/-- What was queued when a delivery opened has been handled when it returns. -/
theorem begunAmong_of_run_deliver (hfinds : (contract blank).finds rig)
    (h : (deliver number rig).run (Script.playWithin depth) = (.value count, later)) :
    begunAmong (mailDeeds number later.journal) (rig.mailbox number).queue =
      (rig.mailbox number).queue := by
  have hleaves := (Mailing.sound_deliver number rig hfinds).run
    ((soundOrders blank).honoured depth)
  rw [h] at hleaves
  obtain ⟨deliveries, hsteps, hattended⟩ := hfinds
  have hline := (Steps.inLine hsteps).line number
  have hlater := (Steps.inLine (hsteps.trans (hleaves rfl deliveries hattended))).line
    number
  exact hline.begunAmong_of_taken hlater
    (mem_mailDeeds_taken.mpr ⟨rfl, opened_of_run_deliver h⟩)

theorem deliversBatch (hfinds : (contract blank).finds rig) (depth number : Nat) :
    DeliversBatch depth number rig := by
  constructor
  · intro count later h
    refine ⟨begunAmong_of_run_deliver hfinds h, ?_⟩
    rw [deliver_apply] at h ⊢
    obtain ⟨attempts, hhandles, hhandovers, hcount⟩ := handles_handleAll h
    rw [Nat.zero_add] at hcount
    exact ⟨attempts, hhandles, hhandovers, hcount, hcount ▸ hhandles.length_eq⟩
  · intro h
    rw [deliver_apply] at h
    exact breaks_handleAll h

end Run

section Moments

variable {rig : Rig} {deliveries : List Delivery} {number : Nat}

theorem consumed_fate (hinline : rig.mailing.InLine deliveries)
    {newer older : List Event} {message : Message}
    (hsplit : rig.journal = newer ++ .posted number message :: older) :
    Consumed rig number message (fate (mailDeeds number newer)) := by
  have hline : Line (mailDeeds number rig.journal) (rig.mailbox number).queue _ :=
    hinline.line number
  have hdeeds := mailDeeds_split hsplit rfl
  have hbefalls := befalls_fate hline.fair hline.nodup hdeeds
  cases hfate : fate (mailDeeds number newer) with
  | waits =>
      rw [hfate] at hbefalls
      exact ⟨hline.queue ▸ hbefalls.1, hbefalls.2,
        fun hbegun => hbefalls.2 (hline.taken_of_begun hbegun)⟩
  | taken label messages =>
      rw [hfate] at hbefalls
      obtain ⟨htaken, hmessage, _, hcount⟩ := hbefalls
      exact ⟨(mem_mailDeeds_taken.mp htaken).2, hmessage, hcount⟩
  | dropped => exact absurd (emptied_of_dropped hfate) emptied_not_mem_mailDeeds

/-- A delivery whose messages have not all been handled is in the middle of a
callback. -/
theorem underWay_of_serves (hbooks : rig.mailing.Books deliveries)
    (hattended : Attended deliveries) {delivery : Delivery} {messages : List Message}
    (hdelivery : delivery ∈ deliveries)
    (hserves : delivery.Serves (mailDeeds number rig.journal) number messages) :
    UnderWay number messages rig.journal := by
  obtain ⟨message, hcurrent⟩ := Option.isSome_iff_exists.mp (hattended _ hdelivery)
  obtain ⟨before, hbegun⟩ := hserves.current message hcurrent
  refine ⟨before, message, delivery.waiting, ?_, hbegun, ?_⟩
  · have hsplit := hserves.split
    rw [hbegun, List.append_assoc] at hsplit
    exact hsplit
  · apply (hbooks.under message.tag).mpr
    refine List.mem_filterMap.mpr ⟨delivery, hdelivery, ?_⟩
    rw [hcurrent]
    rfl

/-- A new tag is not registered anywhere. -/
theorem find?_of_fresh (hbooks : rig.mailing.Books deliveries) (number : Nat) :
    (rig.mailbox number).find? ⟨rig.nextTag⟩ = none := by
  have hunkept : ¬ isKept number ⟨rig.nextTag⟩ rig.journal = true :=
    fun hkept => hbooks.issued.fresh number (registered_of_isKept hkept)
  have hnone := (hbooks.upon number ⟨rig.nextTag⟩).trans (if_neg hunkept)
  exact Option.map_eq_none_iff.mp hnone

theorem holds_of_find? (hbooks : rig.mailing.Books deliveries) {tag : Tag}
    {entry : Registration} (hentry : (rig.mailbox number).find? tag = some entry) :
    rig.mailing.Holds number tag entry.callback := by
  have hkept := hbooks.isRegistered number tag
  refine ⟨hbooks.issued.bound number tag (registered_of_isKept ?_), fun other hother => ?_⟩
  · rw [← hkept]
    exact Option.isSome_of_eq_some hentry
  · rw [Option.some.inj (hother.symm.trans hentry)]

end Moments

/-- As long as nothing panics, messages are delivered once, in order, and to the
callbacks that are registered and free when their turns come. -/
theorem deliversMail {depth : Nat} {script : Script} {rate : Rate}
    {reportInterval : Nat} {moment : Rig}
    (hpasses : script.Passes depth (Rig.fresh rate reportInterval) moment) :
    DeliversMail moment := by
  have hfresh : (contract blank).finds (Rig.fresh rate reportInterval) :=
    ⟨[], .refl, fun delivery hdelivery => by cases hdelivery⟩
  have hfinds := (soundOrders blank).finds_moment hpasses script.keepsTo_all hfresh
  obtain ⟨deliveries, hsteps, hattended⟩ := hfinds
  have hinline := Steps.inLine hsteps
  have hbooks := Steps.books hsteps
  have hline (number : Nat) : Line (mailDeeds number moment.journal)
      (moment.mailbox number).queue (out number deliveries) := hinline.line number
  constructor
  · exact fun number => (hline number).queue
  · intro newer number messages older hsplit
    have hdeeds := mailDeeds_split hsplit rfl
    exact (hline number).fair.of_split hdeeds
  · exact fun newer number message older hsplit => consumed_fate hinline hsplit
  · intro newer number messages older hsplit message hlater
    have hdeeds := mailDeeds_split hsplit rfl
    exact not_taken_of_later (hline number).fair (hline number).nodup hdeeds
      (mem_mailDeeds_made.mpr hlater)
  · exact fun number => (hline number).begun_nodup
  · intro number messages hopened
    rcases (hline number).turns number messages
      (mem_mailDeeds_taken.mpr ⟨rfl, hopened⟩) with hall | ⟨delivery, hdelivery, hserves⟩
    · exact Or.inl hall
    · exact Or.inr (underWay_of_serves hbooks hattended
        (List.mem_filter.mp hdelivery).1 hserves)
  · exact hbooks.isRegistered
  · exact hbooks.accounted
  · exact fun number callback hsize =>
      enter_apply hsize (find?_of_fresh hbooks number) callback
  · intro number tag entry hentry depth script later hlater
    have hstart : (contract moment.mailing).finds moment :=
      ⟨[], .refl, fun delivery hdelivery => by cases hdelivery⟩
    obtain ⟨_, hsince, _⟩ :=
      (soundOrders moment.mailing).finds_moment hlater script.keepsTo_all hstart
    exact (Steps.holds hsince (holds_of_find? hbooks hentry)).2
  · exact fun number tag hsize => send_apply number tag hsize
  · exact deliversBatch ⟨deliveries, hsteps, hattended⟩

/-- A delivery whose first callback posts a message for itself, delivers it, and
cancels the callback of the second message. -/
def crossing : Script :=
  .routine (fun _ _ =>
      .order (.mail (.post 0 ⟨0⟩)) fun _ =>
        .order (.mail (.deliver 0)) fun _ =>
          .order (.mail (.cancel 0 ⟨1⟩)) fun _ => .done .null)
    fun first =>
      .order (.mail (.register 0 first)) fun mine =>
        .routine (fun _ _ => .done .null) fun second =>
          .order (.mail (.register 0 second)) fun yours =>
            .order (.mail (.post 0 mine)) fun _ =>
              .order (.mail (.post 0 yours)) fun _ =>
                .order (.mail (.deliver 0)) fun _ => .done .null

def crossingRig : Rig :=
  (crossing.playWithin 3 (Rig.fresh .initial Duration.perSecond)).2

theorem deliversMail_crossing :
    crossing.Passes 3 (Rig.fresh .initial Duration.perSecond) crossingRig ∧
      (chronicle begins (mailDeeds 0 crossingRig.journal)).map (·.serial) =
        [0, 2, 1] ∧ DeliversMail crossingRig := by
  have hpasses : crossing.Passes 3 (Rig.fresh .initial Duration.perSecond)
      crossingRig := Script.passes_end (by decide +kernel)
  exact ⟨hpasses, by decide +kernel, deliversMail hpasses⟩

end Mailbox

end Cadence
