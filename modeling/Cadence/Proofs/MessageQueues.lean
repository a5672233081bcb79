import Cadence.Proofs.MailProtocol

/-!
Messages as queues, one for each mailbox.  Deliveries take what is queued, and the
messages of a delivery are handled in their turns.
-/

namespace Cadence

open Deed

/-- What an event means for the queue of the mailbox that it is about. -/
def Event.postal : Event → Option (Nat × Deed Message Nat)
  | .posted number message => some (number, .made message)
  | .deliveryOpened number messages => some (number, .taken number messages)
  | .delivered number message => some (number, .begun number message)
  | .undeliverable number message => some (number, .begun number message)
  | .reentrant number message => some (number, .begun number message)
  | _ => none

/-- What an event means for the queue of one mailbox. -/
def Event.mailDeed (number : Nat) (event : Event) : Deed Message Nat :=
  match event.postal with
  | none => .other
  | some (place, deed) => if place = number then deed else .other

section Events

variable {event : Event} {number place : Nat} {deed : Deed Message Nat}

theorem Event.postal_of_facet (hfacet : event.facet ≠ .mail) : event.postal = none := by
  cases event with
  | posted => exact absurd rfl hfacet
  | deliveryOpened => exact absurd rfl hfacet
  | delivered => exact absurd rfl hfacet
  | undeliverable => exact absurd rfl hfacet
  | reentrant => exact absurd rfl hfacet
  | _ => rfl

theorem Event.mailDeed_of_none (hpostal : event.postal = none) :
    event.mailDeed number = .other := by
  rw [mailDeed, hpostal]

theorem Event.mailDeed_self (hpostal : event.postal = some (number, deed)) :
    event.mailDeed number = deed := by
  rw [mailDeed, hpostal]
  exact if_pos rfl

theorem Event.mailDeed_of_ne (hpostal : event.postal = some (place, deed))
    (hne : place ≠ number) : event.mailDeed number = .other := by
  rw [mailDeed, hpostal]
  exact if_neg hne

end Events

/-- What has happened to the queue of a mailbox. -/
def mailDeeds (number : Nat) (journal : List Event) : List (Deed Message Nat) :=
  journal.map (Event.mailDeed number)

section Journals

variable {journal newer older : List Event} {number place : Nat} {event : Event}
  {message : Message} {messages : List Message}

theorem mailDeeds_split {deed : Deed Message Nat}
    (hsplit : journal = newer ++ event :: older)
    (hpostal : event.postal = some (number, deed)) :
    mailDeeds number journal =
      mailDeeds number newer ++ deed :: mailDeeds number older := by
  rw [hsplit, mailDeeds, List.map_append, List.map_cons, Event.mailDeed_self hpostal]
  rfl

/-- A deed for a queue was done to its mailbox. -/
theorem mem_mailDeeds {deed : Deed Message Nat} (hdeed : deed ≠ .other) :
    deed ∈ mailDeeds number journal ↔
      ∃ event ∈ journal, event.postal = some (number, deed) := by
  rw [mailDeeds, List.mem_map]
  constructor
  · rintro ⟨event, hevent, rfl⟩
    refine ⟨event, hevent, ?_⟩
    rcases hpostal : event.postal with _ | ⟨place, deed⟩
    · exact absurd (Event.mailDeed_of_none hpostal) hdeed
    · by_cases hplace : place = number
      · subst hplace
        rw [Event.mailDeed_self hpostal]
      · exact absurd (Event.mailDeed_of_ne hpostal hplace) hdeed
  · rintro ⟨event, hevent, hpostal⟩
    exact ⟨event, hevent, Event.mailDeed_self hpostal⟩

theorem mem_mailDeeds_made :
    .made message ∈ mailDeeds number journal ↔ .posted number message ∈ journal := by
  rw [mem_mailDeeds (by simp)]
  constructor
  · rintro ⟨event, hevent, hpostal⟩
    cases event <;> cases hpostal
    exact hevent
  · exact fun hposted => ⟨_, hposted, rfl⟩

theorem mem_mailDeeds_taken :
    .taken place messages ∈ mailDeeds number journal ↔
      place = number ∧ .deliveryOpened number messages ∈ journal := by
  rw [mem_mailDeeds (by simp)]
  constructor
  · rintro ⟨event, hevent, hpostal⟩
    cases event <;> cases hpostal
    exact ⟨rfl, hevent⟩
  · rintro ⟨rfl, hopened⟩
    exact ⟨_, hopened, rfl⟩

/-- No mailbox is emptied but by a delivery. -/
theorem emptied_not_mem_mailDeeds : .emptied ∉ mailDeeds number journal := by
  rw [mem_mailDeeds (by simp)]
  rintro ⟨event, hevent, hpostal⟩
  cases event <;> cases hpostal

/-- What was posted to a mailbox. -/
theorem mem_makes_mailDeeds :
    message ∈ chronicle makes (mailDeeds number journal) ↔
      .posted number message ∈ journal := by
  rw [mem_chronicle, ← mem_mailDeeds_made]
  constructor
  · rintro ⟨deed, hdeed, hmakes⟩
    cases deed with
    | made other =>
        obtain rfl := List.mem_singleton.mp hmakes
        exact hdeed
    | _ => cases hmakes
  · exact fun hmade => ⟨_, hmade, List.mem_singleton_self message⟩

end Journals

namespace Mailing

variable {state later : Mailing} {number place : Nat}

/-! ### Mailboxes of a changed state -/

theorem mailbox_change (state : Mailing) (place number : Nat)
    (change : Mailbox → Mailbox) :
    (state.change place change).mailbox number =
      if place = number ∧ number < state.mailboxes.size then
        change (state.mailbox number)
      else state.mailbox number := by
  unfold Mailing.change mailbox
  rw [Array.getElem?_modify]
  by_cases hsize : number < state.mailboxes.size
  · by_cases hplace : place = number <;> simp [hsize, hplace]
  · simp [hsize]

theorem mailbox_change_of_ne (hne : place ≠ number) (change : Mailbox → Mailbox) :
    (state.change place change).mailbox number = state.mailbox number := by
  rw [mailbox_change, if_neg fun h => hne h.1]

theorem queue_change {change : Mailbox → Mailbox}
    (hchange : ∀ mailbox, (change mailbox).queue = mailbox.queue) (place number : Nat) :
    ((state.change place change).mailbox number).queue =
      (state.mailbox number).queue := by
  rw [mailbox_change]
  split
  · exact hchange _
  · rfl

theorem mailbox_create (state : Mailing) (number : Nat) :
    state.create.mailbox number = state.mailbox number := by
  unfold create mailbox
  rw [Array.getElem?_push]
  split
  · rename_i hnumber
    simp [hnumber]
  · rfl

theorem queue_openDelivery (state : Mailing) (number : Nat) :
    ((state.openDelivery number).mailbox number).queue = [] := by
  have hchange := mailbox_change state number number ({ · with queue := [] })
  by_cases hsize : number < state.mailboxes.size
  · rw [if_pos ⟨rfl, hsize⟩] at hchange
    exact congrArg Mailbox.queue hchange
  · rw [if_neg fun h => hsize h.2] at hchange
    refine (congrArg Mailbox.queue hchange).trans ?_
    simp [mailbox, hsize, Mailbox.empty]

/-! ### Lines -/

/-- The deliveries out of one mailbox. -/
def out (number : Nat) (deliveries : List Delivery) : List Delivery :=
  deliveries.filter (·.label == number)

theorem out_cons_self (number : Nat) (current : Option Message)
    (waiting : List Message) (outer : List Delivery) :
    out number (⟨number, current, waiting⟩ :: outer) =
      ⟨number, current, waiting⟩ :: out number outer :=
  List.filter_cons_of_pos (by simp)

theorem out_cons_of_ne (hne : place ≠ number) (current : Option Message)
    (waiting : List Message) (outer : List Delivery) :
    out number (⟨place, current, waiting⟩ :: outer) = out number outer :=
  List.filter_cons_of_neg (by simp [hne])

/-- Messages stand in line, in each mailbox for itself, and no serial number is used
twice. -/
structure InLine (state : Mailing) (deliveries : List Delivery) : Prop where
  line : ∀ number, Line (mailDeeds number state.journal) (state.mailbox number).queue
    (out number deliveries)
  serial : ∀ number message, .posted number message ∈ state.journal →
    message.serial < state.nextMessage

namespace InLine

variable {deliveries after : List Delivery} {event : Event}

/-- A change that is nothing to the queues. -/
theorem congr (h : state.InLine deliveries)
    (hqueue : ∀ number, (later.mailbox number).queue = (state.mailbox number).queue)
    (hjournal : later.journal = state.journal)
    (hmessage : later.nextMessage = state.nextMessage) : later.InLine deliveries := by
  constructor
  · intro number
    rw [hqueue, hjournal]
    exact h.line number
  · rw [hjournal, hmessage]
    exact h.serial

/-- An event that is nothing to the queues. -/
theorem note (h : state.InLine deliveries) (hevent : event.postal = none) :
    (state.note event).InLine deliveries := by
  constructor
  · intro number
    have hother := (h.line number).other
    rw [← Event.mailDeed_of_none hevent] at hother
    exact hother
  · intro number message hposted
    rcases List.mem_cons.mp hposted with rfl | hold
    · cases hevent
    · exact h.serial number message hold

/-- An event that is about one mailbox. -/
theorem happen {place : Nat} {deed : Deed Message Nat} (h : state.InLine deliveries)
    (hjournal : later.journal = event :: state.journal)
    (hevent : event.postal = some (place, deed))
    (hserial : ∀ number message, .posted number message ∈ later.journal →
      message.serial < later.nextMessage)
    (hline : Line (deed :: mailDeeds place state.journal) (later.mailbox place).queue
      (out place after))
    (hqueue : ∀ number, place ≠ number →
      (later.mailbox number).queue = (state.mailbox number).queue)
    (hout : ∀ number, place ≠ number → out number after = out number deliveries) :
    later.InLine after := by
  refine ⟨fun number => ?_, hserial⟩
  rw [hjournal, mailDeeds, List.map_cons]
  by_cases hplace : place = number
  · subst hplace
    rw [Event.mailDeed_self hevent]
    exact hline
  · rw [Event.mailDeed_of_ne hevent hplace, hqueue number hplace, hout number hplace]
    exact (h.line number).other

theorem post (h : state.InLine deliveries) (hsize : number < state.mailboxes.size)
    (tag : Tag) : (state.post number tag).InLine deliveries := by
  have hbox (place : Nat) : (state.post number tag).mailbox place =
      if number = place ∧ place < state.mailboxes.size then
        (state.mailbox place).post ⟨state.nextMessage, tag⟩
      else state.mailbox place :=
    mailbox_change _ number place _
  refine h.happen rfl rfl ?_ ?_ (fun place hplace => ?_) fun _ _ => rfl
  · intro place message hposted
    rcases List.mem_cons.mp hposted with hnew | hold
    · obtain ⟨rfl, rfl⟩ := Event.posted.inj hnew
      exact Nat.lt_succ_self _
    · exact Nat.lt_succ_of_lt (h.serial place message hold)
  · rw [hbox, if_pos ⟨rfl, hsize⟩, Mailbox.queue_post]
    refine (h.line number).make fun hmade => ?_
    exact Nat.lt_irrefl _ (h.serial number _ (mem_makes_mailDeeds.mp hmade))
  · rw [hbox, if_neg fun hboth => hplace hboth.1]

theorem openDelivery (h : state.InLine deliveries) (number : Nat) :
    (state.openDelivery number).InLine
      (⟨number, none, (state.mailbox number).queue⟩ :: deliveries) := by
  refine h.happen rfl rfl ?_ ?_ (fun place hplace => ?_) fun place hplace => ?_
  · intro place message hposted
    rcases List.mem_cons.mp hposted with hnew | hold
    · cases hnew
    · exact h.serial place message hold
  · rw [queue_openDelivery, out_cons_self]
    exact (h.line number).take number
  · exact congrArg Mailbox.queue (mailbox_change_of_ne hplace _)
  · exact out_cons_of_ne hplace _ _ _

section Turns

variable {message : Message} {rest : List Message} {outer : List Delivery}

/-- The first message that waits has its turn, whatever it comes to. -/
theorem begin (h : state.InLine (⟨number, none, message :: rest⟩ :: outer))
    (hevent : event.postal = some (number, .begun number message)) :
    (state.note event).InLine (⟨number, some message, rest⟩ :: outer) := by
  refine h.happen rfl hevent ?_ ?_ (fun _ _ => rfl) fun place hplace => ?_
  · intro place other hposted
    rcases List.mem_cons.mp hposted with rfl | hold
    · cases hevent
    · exact h.serial place other hold
  · have hline := h.line number
    rw [out_cons_self] at hline ⊢
    exact hline.begin
  · rw [out_cons_of_ne hplace, out_cons_of_ne hplace]

theorem finish {current : Option Message}
    (h : state.InLine (⟨number, current, rest⟩ :: outer)) :
    state.InLine (⟨number, none, rest⟩ :: outer) := by
  refine ⟨fun place => ?_, h.serial⟩
  have hline := h.line place
  by_cases hplace : number = place
  · subst hplace
    rw [out_cons_self] at hline ⊢
    exact hline.finish
  · rw [out_cons_of_ne hplace] at hline ⊢
    exact hline

theorem close (h : state.InLine (⟨number, none, []⟩ :: outer)) : state.InLine outer := by
  refine ⟨fun place => ?_, h.serial⟩
  have hline := h.line place
  by_cases hplace : number = place
  · subst hplace
    rw [out_cons_self] at hline
    exact hline.close
  · rw [out_cons_of_ne hplace] at hline
    exact hline

end Turns

/-- A change of a mailbox that leaves its queue. -/
theorem change (h : state.InLine deliveries) (number : Nat)
    {change : Mailbox → Mailbox}
    (hchange : ∀ mailbox, (change mailbox).queue = mailbox.queue) :
    (state.change number change).InLine deliveries :=
  h.congr (queue_change hchange number) rfl rfl

theorem step (h : state.InLine deliveries)
    (hstep : Step (state, deliveries) (later, after)) : later.InLine after := by
  cases hstep with
  | aside hfacet => exact h.note (Event.postal_of_facet hfacet)
  | creates =>
      exact h.congr (fun number => by rw [mailbox_create]) rfl rfl
  | draws => exact h.congr (fun _ => rfl) rfl rfl
  | @registers _ _ number hsize callback =>
      have hdrawn : state.draw.InLine deliveries := h.congr (fun _ => rfl) rfl rfl
      have hregistered : (state.draw.change number
        (·.register ⟨state.nextTag⟩ callback)).InLine deliveries :=
          hdrawn.change number fun _ => rfl
      exact hregistered.note rfl
  | posts hsize tag => exact h.post hsize tag
  | @cancels _ _ number tag hfound =>
      have hcancelled : (state.change number (·.cancel tag)).InLine deliveries :=
        h.change number fun _ => rfl
      exact hcancelled.note rfl
  | opens number hattended => exact h.openDelivery number
  | drops hnone => exact (h.begin rfl).finish
  | refuses hentry hbusy => exact (h.begin rfl).finish
  | @starts _ number message rest outer entry hentry hidle =>
      have hbegun : (state.note (.delivered number message)).InLine _ := h.begin rfl
      have hmarked : ((state.note (.delivered number message)).mark number message.tag
        true).InLine _ := hbegun.change number fun _ => rfl
      exact hmarked.note rfl
  | @returns _ number message rest outer =>
      have hmarked : (state.mark number message.tag false).InLine _ :=
        h.change number fun _ => rfl
      exact InLine.finish (hmarked.note rfl)
  | closes => exact h.close

end InLine

theorem inLine_blank : blank.InLine [] := by
  refine ⟨fun number => ?_, fun _ _ hposted => by cases hposted⟩
  have hqueue : (blank.mailbox number).queue = [] := by
    cases number <;> rfl
  rw [hqueue]
  exact .nil

theorem Steps.inLine {deliveries : List Delivery}
    (hsteps : Steps (blank, []) (state, deliveries)) : state.InLine deliveries :=
  hsteps.invariant InLine inLine_blank fun h hstep => h.step hstep

end Mailing

end Cadence
