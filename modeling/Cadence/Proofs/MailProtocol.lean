import Mathlib.Logic.Relation
import Cadence.Proofs.OrderFrame
import Cadence.Proofs.Queues

/-!
The protocol of mailboxes.  Messages are posted and taken by deliveries, which
handle them one after the other and may nest.  Whatever happens on a rig, its
mailboxes take the steps below and no others.
-/

namespace Cadence

open Contract

/-- What the mailboxes of a rig have come to. -/
structure Mailing where
  mailboxes : Array Mailbox
  nextTag : Nat
  nextMessage : Nat
  journal : List Event

def Rig.mailing (rig : Rig) : Mailing where
  mailboxes := rig.mailboxes
  nextTag := rig.nextTag
  nextMessage := rig.nextMessage
  journal := rig.journal

/-- A delivery under way, under the number of its mailbox. -/
abbrev Delivery := Lot Message Nat

namespace Mailing

def mailbox (state : Mailing) (number : Nat) : Mailbox :=
  state.mailboxes[number]?.getD .empty

def note (state : Mailing) (event : Event) : Mailing :=
  { state with journal := event :: state.journal }

def change (state : Mailing) (number : Nat) (change : Mailbox → Mailbox) : Mailing :=
  { state with mailboxes := state.mailboxes.modify number change }

def create (state : Mailing) : Mailing :=
  { state with mailboxes := state.mailboxes.push .empty }

/-- A tag is drawn. -/
def draw (state : Mailing) : Mailing := { state with nextTag := state.nextTag + 1 }

/-- A callback is registered under a tag that has never been used. -/
def register (state : Mailing) (number : Nat) (callback : Callback) : Mailing :=
  (state.draw.change number (·.register ⟨state.nextTag⟩ callback)).note
    (.registered number ⟨state.nextTag⟩)

def post (state : Mailing) (number : Nat) (tag : Tag) : Mailing :=
  ({ state with nextMessage := state.nextMessage + 1 }.change number
    (·.post ⟨state.nextMessage, tag⟩)).note
      (.posted number ⟨state.nextMessage, tag⟩)

def cancel (state : Mailing) (number : Nat) (tag : Tag) : Mailing :=
  (state.change number (·.cancel tag)).note (.cancelled number tag)

/-- A delivery takes all messages that were posted. -/
def openDelivery (state : Mailing) (number : Nat) : Mailing :=
  (state.change number ({ · with queue := [] })).note
    (.deliveryOpened number (state.mailbox number).queue)

def mark (state : Mailing) (number : Nat) (tag : Tag) (executing : Bool) : Mailing :=
  state.change number (·.mark tag executing)

/-- A message starts its callback. -/
def start (state : Mailing) (number : Nat) (message : Message) : Mailing :=
  ((state.note (.delivered number message)).mark number message.tag true).note
    (.entered (.callback message.tag))

/-- The callback of a message is over. -/
def finish (state : Mailing) (number : Nat) (message : Message) : Mailing :=
  (state.mark number message.tag false).note (.left (.callback message.tag))

/-- User code is in control: all deliveries under way are in the middle of a
callback. -/
def Attended (deliveries : List Delivery) : Prop :=
  ∀ delivery ∈ deliveries, delivery.current.isSome

/-- What can happen to mailboxes and the deliveries under way, the innermost
first. -/
inductive Step : Mailing × List Delivery → Mailing × List Delivery → Prop
  | aside {state deliveries event} (hfacet : event.facet ≠ .mail) :
      Step (state, deliveries) (state.note event, deliveries)
  | creates {state deliveries} : Step (state, deliveries) (state.create, deliveries)
  | draws {state deliveries} : Step (state, deliveries) (state.draw, deliveries)
  | registers {state deliveries number} (hsize : number < state.mailboxes.size)
      (callback : Callback) :
      Step (state, deliveries) (state.register number callback, deliveries)
  | posts {state deliveries number} (hsize : number < state.mailboxes.size)
      (tag : Tag) : Step (state, deliveries) (state.post number tag, deliveries)
  | cancels {state deliveries number tag}
      (hfound : (state.mailbox number).isRegistered tag = true) :
      Step (state, deliveries) (state.cancel number tag, deliveries)
  | opens {state deliveries} (number : Nat) (hattended : Attended deliveries) :
      Step (state, deliveries)
        (state.openDelivery number,
          ⟨number, none, (state.mailbox number).queue⟩ :: deliveries)
  | drops {state number message rest outer}
      (hnone : (state.mailbox number).find? message.tag = none) :
      Step (state, ⟨number, none, message :: rest⟩ :: outer)
        (state.note (.undeliverable number message), ⟨number, none, rest⟩ :: outer)
  | refuses {state number message rest outer entry}
      (hentry : (state.mailbox number).find? message.tag = some entry)
      (hbusy : entry.executing = true) :
      Step (state, ⟨number, none, message :: rest⟩ :: outer)
        (state.note (.reentrant number message), ⟨number, none, rest⟩ :: outer)
  | starts {state number message rest outer entry}
      (hentry : (state.mailbox number).find? message.tag = some entry)
      (hidle : entry.executing = false) :
      Step (state, ⟨number, none, message :: rest⟩ :: outer)
        (state.start number message, ⟨number, some message, rest⟩ :: outer)
  | returns {state number message rest outer} :
      Step (state, ⟨number, some message, rest⟩ :: outer)
        (state.finish number message, ⟨number, none, rest⟩ :: outer)
  | closes {state number outer} :
      Step (state, ⟨number, none, []⟩ :: outer) (state, outer)

/-- A run of mailboxes. -/
abbrev Steps : Mailing × List Delivery → Mailing × List Delivery → Prop :=
  Relation.ReflTransGen Step

/-- There is one mailbox, and nothing has happened. -/
def blank : Mailing := ⟨#[.empty], 0, 0, []⟩

/-- What holds at first and is kept by each step holds in each run. -/
theorem Steps.invariant (fact : Mailing → List Delivery → Prop) {first state : Mailing}
    {deliveries : List Delivery} (hsteps : Steps (first, []) (state, deliveries))
    (hfirst : fact first [])
    (hstep : ∀ {before after deliveries later}, fact before deliveries →
      Step (before, deliveries) (after, later) → fact after later) :
    fact state deliveries := by
  generalize hreached : (state, deliveries) = reached at hsteps
  induction hsteps generalizing state deliveries with
  | refl =>
      obtain ⟨rfl, rfl⟩ := Prod.mk.inj hreached
      exact hfirst
  | tail hbefore hlast ih =>
      subst hreached
      exact hstep (ih rfl) hlast

/-- Runs from a given state in which nothing panics: user code finds deliveries in
the middle of a callback, and leaves them there. -/
def contract (start : Mailing) : Contract where
  allowed _ := True
  finds rig := ∃ deliveries, Steps (start, []) (rig.mailing, deliveries) ∧
    Attended deliveries
  leaves rig ending later := ending.isValue = true → ∀ deliveries,
    Attended deliveries → Steps (rig.mailing, deliveries) (later.mailing, deliveries)
  refl _ _ _ _ := .refl
  trans hfirst hsecond hvalue deliveries hattended :=
    (hfirst rfl deliveries hattended).trans (hsecond hvalue deliveries hattended)
  keeps := by
    rintro rig later ⟨deliveries, hsteps, hattended⟩ hleaves
    exact ⟨deliveries, hsteps.trans (hleaves rfl deliveries hattended), hattended⟩
  bound _ := Rig.keepsTo_all _
  enrolls _ _ _ _ _ := .refl

variable {start : Mailing}

theorem leaves_tail {rig middle later : Rig} {ending : Ending Unit}
    (hleaves : (contract start).leaves rig ending middle)
    (hsteps : ∀ deliveries,
      Steps (middle.mailing, deliveries) (later.mailing, deliveries)) :
    (contract start).leaves rig ending later :=
  fun hvalue deliveries hattended =>
    (hleaves hvalue deliveries hattended).trans (hsteps deliveries)

theorem ignores_touch {facet : Facet} (hfacet : facet ≠ .mail) :
    (contract start).Ignores facet := by
  intro rig ending middle later hleaves htouch
  cases htouch with
  | mail => exact absurd rfl hfacet
  | event event hevent =>
      refine leaves_tail hleaves fun deliveries => .single ?_
      exact .aside (hevent ▸ hfacet)
  | _ => exact hleaves

theorem ignoresAll_margins : (contract start).IgnoresAll Facet.margins := by
  intro facet hfacet
  apply ignores_touch
  rintro rfl
  exact absurd hfacet (by decide)

theorem ignoresAll_ambience : (contract start).IgnoresAll Facet.ambience :=
  ignoresAll_margins.of_subset Facet.ambience_subset_margins

theorem ignoresAll_rendering : (contract start).IgnoresAll Facet.rendering :=
  ignoresAll_margins.of_subset Facet.rendering_subset_margins

theorem allowsTurns : (contract start).AllowsTurns :=
  .of_ignores ignoresAll_rendering (ignores_touch (by decide))
    (ignores_touch (by decide)) (ignores_touch (by decide))

/-! ### Registrations and messages -/

theorem sound_newMailbox :
    (contract start).Sound (Mailbox.perform .newMailbox) :=
  fun _ _ _ _ _ => .single .creates

/-- A mailbox that does not exist cannot change. -/
theorem modify_of_not_exists {mailboxes : Array Mailbox} {number : Nat}
    (h : ¬ number < mailboxes.size) (change : Mailbox → Mailbox) :
    mailboxes.modify number change = mailboxes := by
  apply Array.ext
  · exact Array.size_modify
  · intro index hleft hright
    rw [Array.getElem_modify, if_neg]
    rintro rfl
    exact h hright

theorem sound_enter (number : Nat) (callback : Callback) :
    (contract start).Sound (Mailbox.enter number callback) := by
  intro rig _
  simp only [Mailbox.enter, Exec.bind_apply, Exec.look_apply, Exec.update_apply,
    Progress.andThen, Array.size_modify]
  by_cases hsize : number < rig.mailboxes.size
  · rw [if_pos hsize]
    intro _ deliveries _
    exact .tail (.single (.registers hsize callback)) (.aside Facet.noConfusion)
  · rw [if_neg hsize]
    intro _ deliveries _
    have hdraws : Step (rig.mailing, deliveries) (_, deliveries) := .draws
    unfold Rig.mailing
    rw [modify_of_not_exists hsize]
    exact .single hdraws

theorem sound_send (number : Nat) (tag : Tag) :
    (contract start).Sound (Mailbox.send number tag) := by
  intro rig _
  simp only [Mailbox.send, Exec.bind_apply, Exec.look_apply, Progress.andThen]
  by_cases hsize : number < rig.mailboxes.size
  · rw [if_pos hsize]
    exact fun _ deliveries _ => .single (.posts hsize tag)
  · rw [if_neg hsize]
    exact fun _ _ _ => .refl

/-- Nothing is removed where nothing is registered. -/
theorem cancel_of_not_registered {mailbox : Mailbox} {tag : Tag}
    (h : mailbox.isRegistered tag = false) : mailbox.cancel tag = mailbox := by
  unfold Mailbox.cancel
  congr 1
  rw [List.filter_eq_self]
  intro entry hentry
  have hnone : mailbox.find? tag = none := by
    rw [Mailbox.isRegistered, Option.isSome_eq_false_iff, Option.isNone_iff_eq_none] at h
    exact h
  have hother := List.find?_eq_none.mp hnone entry hentry
  simpa using hother

theorem modify_of_eq {mailboxes : Array Mailbox} {number : Nat}
    {change : Mailbox → Mailbox}
    (h : change (mailboxes[number]?.getD .empty) = mailboxes[number]?.getD .empty) :
    mailboxes.modify number change = mailboxes := by
  apply Array.ext
  · exact Array.size_modify
  · intro index hleft hright
    rw [Array.getElem_modify]
    split
    · rename_i hnumber
      subst hnumber
      simpa [hright] using h
    · rfl

theorem sound_withdraw (number : Nat) (tag : Tag) :
    (contract start).Sound (Mailbox.withdraw number tag) := by
  intro rig _
  simp only [Mailbox.withdraw, Mailbox.modify, Exec.bind_apply, Exec.look_apply,
    Exec.update_apply, Progress.andThen]
  cases hfound : (rig.mailbox number).isRegistered tag with
  | true =>
      intro _ deliveries _
      have hcancels : Step (rig.mailing, deliveries) (_, deliveries) :=
        .cancels hfound
      exact .tail (.single hcancels) (.aside Facet.noConfusion)
  | false =>
      intro _ deliveries _
      have hsame : rig.mailboxes.modify number (·.cancel tag) = rig.mailboxes :=
        modify_of_eq (cancel_of_not_registered hfound)
      show Steps (rig.mailing, deliveries)
        ({ rig.mailing with mailboxes := rig.mailboxes.modify number (·.cancel tag) },
          deliveries)
      rw [hsame]
      exact .refl

/-! ### Deliveries -/

section Deliveries

variable {number : Nat} {rig : Rig} {rest : List Message}

/-- A message has its turn before anything else happens to its delivery. -/
theorem respects_handle {message : Message}
    (hfinds : ∃ outer, Steps (start, [])
      (rig.mailing, ⟨number, none, message :: rest⟩ :: outer) ∧ Attended outer) :
    (Mailbox.handle number message rig).Respects (contract start)
      fun ending later => ending.isValue = true → ∀ outer, Attended outer →
        Steps (rig.mailing, ⟨number, none, message :: rest⟩ :: outer)
          (later.mailing, ⟨number, none, rest⟩ :: outer) := by
  simp only [Mailbox.handle, Exec.bind_apply, Exec.look_apply, Progress.andThen]
  rcases hentry : (rig.mailbox number).find? message.tag with _ | entry
  · intro _ outer _
    have hdrops : Step (rig.mailing, ⟨number, none, message :: rest⟩ :: outer) _ :=
      .drops hentry
    exact .tail (.single hdrops) (.aside Facet.noConfusion)
  · cases hexecuting : entry.executing with
    | true =>
        simp only [hexecuting, if_true]
        intro _ outer _
        have hrefuses : Step (rig.mailing,
            ⟨number, none, message :: rest⟩ :: outer) _ := .refuses hentry hexecuting
        exact .tail (.single hrefuses) (.aside Facet.noConfusion)
    | false =>
        have hstarts (outer : List Delivery) : Step (rig.mailing,
            ⟨number, none, message :: rest⟩ :: outer) _ := .starts hentry hexecuting
        obtain ⟨outer, hsteps, hattended⟩ := hfinds
        -- User code gets control in the middle of this callback.
        have hinside (outer : List Delivery) (hattended : Attended outer) :
            Attended (⟨number, some message, rest⟩ :: outer) := by
          intro delivery hdelivery
          rcases List.mem_cons.mp hdelivery with rfl | houter
          · rfl
          · exact hattended delivery houter
        simp only [hexecuting, Bool.false_eq_true, if_false, Exec.bind_apply,
          Exec.record_apply, Exec.within_apply, Progress.andThen,
          Progress.respects_andThen, Progress.respects_atEnd]
        have hstarted := hsteps.tail (hstarts outer)
        refine (Mailbox.sound_start ignoresAll_ambience allowsTurns entry.callback _
          ⟨_, ?_, hinside outer hattended⟩).imp ?_
        · exact hstarted
        intro ending later hleaves
        cases ending with
        | panicked cause => exact Bool.noConfusion
        | exhausted => exact Bool.noConfusion
        | value done =>
            intro _ outer hattended
            have hcalled := hleaves rfl _ (hinside outer hattended)
            exact (Relation.ReflTransGen.head (hstarts outer) hcalled).tail .returns

theorem respects_handleAll (messages : List Message) (fired : Nat)
    (hfinds : ∃ outer, Steps (start, [])
      (rig.mailing, ⟨number, none, messages⟩ :: outer) ∧ Attended outer) :
    (Mailbox.handleAll number messages fired rig).Respects (contract start)
      fun ending later => ending.isValue = true → ∀ outer, Attended outer →
        Steps (rig.mailing, ⟨number, none, messages⟩ :: outer)
          (later.mailing, outer) := by
  induction messages generalizing rig fired with
  | nil => exact fun _ outer _ => .single .closes
  | cons message rest ih =>
      rw [Mailbox.handleAll, Exec.bind_apply, Progress.respects_andThen]
      apply (respects_handle hfinds).imp
      intro ending middle hhandled
      cases ending with
      | panicked cause => exact Bool.noConfusion
      | exhausted => exact Bool.noConfusion
      | value started =>
          obtain ⟨outer, hsteps, hattended⟩ := hfinds
          have hmiddle := hsteps.trans (hhandled rfl outer hattended)
          apply (ih _ ⟨outer, hmiddle, hattended⟩).imp
          intro ending later hrest hvalue outer hattended
          exact (hhandled rfl outer hattended).trans (hrest hvalue outer hattended)

theorem sound_deliver (number : Nat) :
    (contract start).Sound (Mailbox.deliver number) := by
  intro rig hfinds
  obtain ⟨deliveries, hsteps, hattended⟩ := hfinds
  simp only [Mailbox.deliver, Mailbox.modify, Exec.bind_apply, Exec.look_apply,
    Exec.update_apply, Exec.record_apply, Progress.andThen]
  have hopens (deliveries : List Delivery) (hattended : Attended deliveries) :
      Step (rig.mailing, deliveries) _ := .opens number hattended
  have hopened := hsteps.tail (hopens deliveries hattended)
  refine (respects_handleAll (rig.mailbox number).queue 0
    ⟨deliveries, ?_, hattended⟩).imp ?_
  · exact hopened
  intro ending later hhandled hvalue deliveries hattended
  rw [Ending.isValue_plain] at hvalue
  exact .head (hopens deliveries hattended) (hhandled hvalue deliveries hattended)

end Deliveries

theorem allowsMail : (contract start).AllowsMail where
  opens := sound_newMailbox
  enters := sound_enter
  sends := sound_send
  withdraws := sound_withdraw
  delivers := sound_deliver

/-- Whatever user code orders, mailboxes go by their protocol. -/
theorem soundOrders (start : Mailing) : (contract start).SoundOrders := by
  have hrefreshes : (contract start).AllowsRefreshes :=
    .of_ignores (ignores_touch (by decide)) ignoresAll_rendering allowsTurns
  exact soundOrders_of_margins ignoresAll_margins
    (.of_ignores (ignores_touch (by decide)) (ignores_touch (by decide))
      (ignores_touch (by decide)) (ignores_touch (by decide)))
    allowsTurns hrefreshes.toAllowsRequests allowsMail
    (.of_ignores ignoresAll_ambience (ignores_touch (by decide)))
    fun _ _ _ => hrefreshes.refreshes

end Mailing

end Cadence
