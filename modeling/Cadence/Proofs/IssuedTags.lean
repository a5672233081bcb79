import Cadence.Proofs.HandledMessages
import Cadence.Proofs.Registrations

/-!
Tags.  A tag is issued once, by one mailbox, and its callback is registered there
from then to its cancellation.  The protocol of mailboxes tells of runs in which
nothing panics; what is said here holds however callbacks end.
-/

namespace Cadence

open Contract

/-- The tags that an event issues. -/
def Event.issued : Event → List Tag
  | .registered _ tag => [tag]
  | _ => []

/-- The registrations that an event ends. -/
def Event.withdrawn : Event → List (Nat × Tag)
  | .cancelled number tag => [(number, tag)]
  | _ => []

/-- A tag is registered once; it is cancelled, and messages reach its callback, only
where it is kept, and a callback is entered by a message alone. -/
def Rightful (event : Event) (older : List Event) : Prop :=
  match event with
  | .registered _ tag => ∀ place, .registered place tag ∉ older
  | .cancelled number tag => isKept number tag older = true
  | .delivered number message => isKept number message.tag older = true
  | .reentrant number message => isKept number message.tag older = true
  | .entered (.callback tag) => DeliveredLast tag older
  | _ => True

section Journals

variable {number place : Nat} {tag : Tag} {journal newer older : List Event}

theorem mem_issued :
    tag ∈ chronicle Event.issued journal ↔ ∃ number, .registered number tag ∈ journal := by
  rw [mem_chronicle]
  constructor
  · rintro ⟨event, hevent, htag⟩
    cases event with
    | registered number other =>
        obtain rfl := List.mem_singleton.mp htag
        exact ⟨number, hevent⟩
    | _ => cases htag
  · exact fun ⟨number, hregistered⟩ => ⟨_, hregistered, List.mem_singleton_self tag⟩

theorem nodup_issued (h : Lawful Rightful journal) :
    (chronicle Event.issued journal).Nodup := by
  induction journal with
  | nil => exact List.nodup_nil
  | cons event older ih =>
      rw [chronicle_cons]
      cases event with
      | registered number tag =>
          rw [Event.issued, ← List.concat_eq_append, List.nodup_concat]
          refine ⟨fun hissued => ?_, ih h.2⟩
          obtain ⟨place, hregistered⟩ := mem_issued.mp hissued
          exact h.1 place hregistered
      | _ => simpa [Event.issued] using ih h.2

theorem home_of_rightful {first second : Nat} (h : Lawful Rightful journal)
    (hfirst : .registered first tag ∈ journal)
    (hsecond : .registered second tag ∈ journal) : first = second := by
  induction journal with
  | nil => cases hfirst
  | cons event older ih =>
      rcases List.mem_cons.mp hfirst with rfl | hearly
      · rcases List.mem_cons.mp hsecond with hsame | hold
        · exact (Event.registered.inj hsame).1.symm
        · exact absurd hold (h.1 second)
      · rcases List.mem_cons.mp hsecond with rfl | hold
        · exact absurd hearly (h.1 first)
        · exact ih h.2 hearly hold

/-- What has been cancelled was registered. -/
theorem registered_of_cancelled (h : Lawful Rightful journal)
    (hcancelled : .cancelled number tag ∈ journal) :
    .registered number tag ∈ journal := by
  obtain ⟨newer, older, rfl, hkept⟩ := h.of_mem hcancelled
  exact List.mem_append_right _ (List.mem_cons_of_mem _ (registered_of_isKept hkept))

/-- A tag is kept from its registration to its cancellation. -/
theorem isKept_iff (h : Lawful Rightful journal) :
    isKept number tag journal = true ↔
      .registered number tag ∈ journal ∧ .cancelled number tag ∉ journal := by
  induction journal with
  | nil => exact ⟨Bool.noConfusion, fun hnever => by cases hnever.1⟩
  | cons event older ih =>
      have hold := ih h.2
      rw [isKept_cons]
      cases event with
      | registered place other =>
          by_cases hsame : number = place ∧ tag = other
          · obtain ⟨rfl, rfl⟩ := hsame
            have hfresh : .cancelled number tag ∉ older := fun hcancelled =>
              h.1 number (registered_of_cancelled h.2 hcancelled)
            simp [Event.keeping, hfresh]
          · rw [Event.keeping, if_neg fun h => hsame ⟨h.1.symm, h.2.symm⟩,
              Option.getD_none, hold]
            simp [hsame]
      | cancelled place other =>
          by_cases hsame : number = place ∧ tag = other
          · obtain ⟨rfl, rfl⟩ := hsame
            simp [Event.keeping]
          · rw [Event.keeping, if_neg fun h => hsame ⟨h.1.symm, h.2.symm⟩,
              Option.getD_none, hold]
            simp [hsame]
      | _ => simpa [Event.keeping] using hold

/-- What has been cancelled is kept nowhere. -/
theorem not_kept_of_cancelled (h : Lawful Rightful journal)
    (hcancelled : .cancelled number tag ∈ journal) (place : Nat) :
    isKept place tag journal = false := by
  rw [Bool.eq_false_iff]
  intro hkept
  obtain ⟨hregistered, hnever⟩ := (isKept_iff h).mp hkept
  have hhome := home_of_rightful h hregistered (registered_of_cancelled h hcancelled)
  subst hhome
  exact hnever hcancelled

/-- After a cancellation nothing happens that wants the tag kept somewhere. -/
theorem absent_since_cancelled
    (h : Lawful Rightful (newer ++ .cancelled number tag :: older)) {event : Event}
    (hneeds : ∀ journal, Rightful event journal → isKept place tag journal = true) :
    event ∉ newer := by
  intro hlater
  obtain ⟨before, after, rfl⟩ := List.append_of_mem hlater
  rw [List.append_assoc] at h
  have hevent : Lawful Rightful (event :: (after ++ .cancelled number tag :: older)) :=
    h.of_append
  have hcancelled : .cancelled number tag ∈ after ++ .cancelled number tag :: older :=
    List.mem_append_right _ List.mem_cons_self
  have hkept := hneeds _ hevent.1
  rw [not_kept_of_cancelled hevent.2 hcancelled place] at hkept
  cases hkept

/-- A tag is cancelled once. -/
theorem cancelled_once (h : Lawful Rightful (newer ++ .cancelled number tag :: older))
    (place : Nat) :
    .cancelled place tag ∉ newer ∧ .cancelled place tag ∉ older := by
  refine ⟨absent_since_cancelled h fun _ => id, fun hearlier => ?_⟩
  have hkept : isKept number tag older = true := h.of_append.1
  rw [not_kept_of_cancelled h.of_append.2 hearlier number] at hkept
  cases hkept

theorem not_entered_since_cancelled
    (h : Lawful Rightful (newer ++ .cancelled number tag :: older)) :
    .entered (.callback tag) ∉ newer := by
  intro hentered
  obtain ⟨before, after, rfl⟩ := List.append_of_mem hentered
  have hsplit := h
  rw [List.append_assoc] at hsplit
  obtain ⟨place, serial, earlier, hlast⟩ := hsplit.of_append.1
  -- The delivery that entered the callback is later than the cancellation as well.
  cases after with
  | nil => cases hlast
  | cons event rest =>
      obtain ⟨rfl, _⟩ := List.cons.inj hlast
      have hundelivered : .delivered place ⟨serial, tag⟩ ∉
          before ++ .entered (.callback tag) :: .delivered place ⟨serial, tag⟩ :: rest :=
        absent_since_cancelled h fun _ => id
      exact hundelivered
        (List.mem_append_right _ (List.mem_cons_of_mem _ List.mem_cons_self))

end Journals

namespace Mailing

/-- Callbacks are registered as the journal tells, under tags that are issued once. -/
structure Ledger (state : Mailing) : Prop where
  kept : ∀ number tag,
    (state.upon number tag).isSome = isKept number tag state.journal
  issued : Issued state.nextTag state.journal
  rightful : Lawful Rightful state.journal

namespace Ledger

variable {state later : Mailing} {number place : Nat} {tag : Tag} {event : Event}

theorem isRegistered (h : state.Ledger) (number : Nat) (tag : Tag) :
    (state.mailbox number).isRegistered tag = isKept number tag state.journal := by
  rw [← h.kept, upon, Option.isSome_map]
  rfl

theorem find?_eq_none (h : state.Ledger) (hnot : isKept number tag state.journal = false) :
    (state.mailbox number).find? tag = none := by
  rw [← h.isRegistered, Mailbox.isRegistered] at hnot
  exact Option.isNone_iff_eq_none.mp (Option.isSome_eq_false_iff.mp hnot)

theorem isKept_of_find? (h : state.Ledger) {entry : Registration}
    (hentry : (state.mailbox number).find? tag = some entry) :
    isKept number tag state.journal = true := by
  rw [← h.isRegistered, Mailbox.isRegistered, hentry]
  rfl

/-- An event that neither begins nor ends a registration. -/
theorem note (h : state.Ledger) (hkeeping : ∀ number tag, event.keeping number tag = none)
    (hrightful : Rightful event state.journal) : (state.note event).Ledger := by
  constructor
  · intro number tag
    refine (h.kept number tag).trans (.trans ?_ (isKept_cons event state.journal).symm)
    rw [hkeeping]
    rfl
  · apply h.issued.note
    rintro number tag rfl
    have hnew := hkeeping number tag
    simp [Event.keeping] at hnew
  · exact ⟨hrightful, h.rightful⟩

/-- An event that concerns no mailbox. -/
theorem aside (h : state.Ledger) (hfacet : event.facet ≠ .mail) :
    (state.note event).Ledger := by
  refine h.note (fun _ _ => Event.keeping_of_facet hfacet) ?_
  cases event with
  | registered => exact absurd rfl hfacet
  | cancelled => exact absurd rfl hfacet
  | delivered => exact absurd rfl hfacet
  | reentrant => exact absurd rfl hfacet
  | entered part =>
      cases part with
      | callback => exact absurd rfl hfacet
      | _ => trivial
  | _ => trivial

/-- A change that leaves all registrations. -/
theorem congr (h : state.Ledger)
    (hupon : ∀ number tag,
      (later.upon number tag).isSome = (state.upon number tag).isSome)
    (hjournal : later.journal = state.journal) (htag : state.nextTag ≤ later.nextTag) :
    later.Ledger := by
  constructor
  · intro number tag
    rw [hupon, hjournal]
    exact h.kept number tag
  · rw [hjournal]
    exact h.issued.mono htag
  · rw [hjournal]
    exact h.rightful

theorem change (h : state.Ledger) (number : Nat) {change : Mailbox → Mailbox}
    (hchange : ∀ tag mailbox, (change mailbox).find? tag = mailbox.find? tag) :
    (state.change number change).Ledger :=
  h.congr (fun place tag => by rw [upon_change number place tag (hchange tag)]) rfl
    (Nat.le_refl _)

theorem draw (h : state.Ledger) : state.draw.Ledger :=
  h.congr (fun _ _ => rfl) rfl (Nat.le_succ _)

theorem create (h : state.Ledger) : state.create.Ledger := by
  refine h.congr (fun number tag => ?_) rfl (Nat.le_refl _)
  rw [upon, mailbox_create, ← upon]

theorem mark (h : state.Ledger) (number : Nat) (tag : Tag) (executing : Bool) :
    (state.mark number tag executing).Ledger := by
  refine h.congr (fun place other => ?_) rfl (Nat.le_refl _)
  rw [upon_mark]
  split
  · exact Option.isSome_map
  · rfl

theorem register (h : state.Ledger) (hsize : number < state.mailboxes.size)
    (callback : Callback) : (state.register number callback).Ledger := by
  have hunkept : isKept number ⟨state.nextTag⟩ state.journal = false :=
    Bool.eq_false_iff.mpr fun hkept => h.issued.fresh number (registered_of_isKept hkept)
  have hnone : state.draw.upon number ⟨state.nextTag⟩ = none := by
    rw [← Option.isNone_iff_eq_none, ← Option.isSome_eq_false_iff]
    exact (h.kept number _).trans hunkept
  constructor
  · intro place tag
    have hsize : number < state.draw.mailboxes.size := hsize
    refine (congrArg Option.isSome (upon_register hsize hnone callback)).trans ?_
    rw [show (state.register number callback).journal =
      .registered number ⟨state.nextTag⟩ :: state.journal from rfl, isKept_cons,
      Event.keeping]
    split
    · rfl
    · exact h.kept place tag
  · exact h.issued.register number
  · exact ⟨fun place => h.issued.fresh place, h.rightful⟩

theorem cancel (h : state.Ledger)
    (hfound : (state.mailbox number).isRegistered tag = true) :
    (state.cancel number tag).Ledger := by
  constructor
  · intro place other
    refine (congrArg Option.isSome upon_cancel).trans ?_
    rw [show (state.cancel number tag).journal =
      .cancelled number tag :: state.journal from rfl, isKept_cons, Event.keeping]
    split
    · rfl
    · exact h.kept place other
  · exact h.issued.note fun _ _ => Event.noConfusion
  · refine ⟨?_, h.rightful⟩
    exact (h.isRegistered number tag).symm.trans hfound

theorem post (h : state.Ledger) (number : Nat) (tag : Tag) :
    (state.post number tag).Ledger := by
  have hcounted : Ledger { state with nextMessage := state.nextMessage + 1 } :=
    h.congr (fun _ _ => rfl) rfl (Nat.le_refl _)
  have hposted : Ledger (Mailing.change { state with nextMessage := state.nextMessage + 1 }
      number (·.post ⟨state.nextMessage, tag⟩)) := hcounted.change number fun _ _ => rfl
  exact hposted.note (fun _ _ => rfl) trivial

/-- A message starts a callback that it finds. -/
theorem start (h : state.Ledger) {message : Message} {entry : Registration}
    (hentry : (state.mailbox number).find? message.tag = some entry) :
    (state.start number message).Ledger := by
  have hdelivered : (state.note (.delivered number message)).Ledger :=
    h.note (fun _ _ => rfl) (h.isKept_of_find? hentry)
  have hmarked : ((state.note (.delivered number message)).mark number message.tag
      true).Ledger := hdelivered.mark number message.tag true
  exact hmarked.note (fun _ _ => rfl) ⟨number, message.serial, state.journal, rfl⟩

theorem finish (h : state.Ledger) (number : Nat) (message : Message) :
    (state.finish number message).Ledger := by
  have hmarked : (state.mark number message.tag false).Ledger :=
    h.mark number message.tag false
  exact hmarked.note (fun _ _ => rfl) trivial

end Ledger

/-- Runs that keep the ledger of tags, whatever user code does. -/
abbrev keepingLedger : Contract :=
  keeping (fun rig => rig.mailing.Ledger) fun _ _ h => h

theorem ledger_touch {facet : Facet} (hfacet : facet ≠ .mail) :
    keepingLedger.Ignores facet := by
  apply ignores_keeping
  intro rig later htouch h
  cases htouch with
  | mail => exact absurd rfl hfacet
  | event event hevent => exact Ledger.aside h (hevent ▸ hfacet)
  | _ => exact h

theorem ledger_margins : keepingLedger.IgnoresAll Facet.margins := by
  intro facet hfacet
  apply ledger_touch
  rintro rfl
  exact absurd hfacet (by decide)

theorem ledger_turns : keepingLedger.AllowsTurns :=
  .of_ignores (ledger_margins.of_subset Facet.rendering_subset_margins)
    (ledger_touch (by decide)) (ledger_touch (by decide)) (ledger_touch (by decide))

theorem ledger_enter (number : Nat) (callback : Callback) :
    keepingLedger.Sound (Mailbox.enter number callback) := by
  intro rig h
  simp only [Mailbox.enter, Exec.bind_apply, Exec.look_apply, Exec.update_apply,
    Progress.andThen, Array.size_modify]
  by_cases hsize : number < rig.mailboxes.size
  · rw [if_pos hsize]
    have hregistered := Ledger.register h hsize callback
    exact fun _ => hregistered.aside Facet.noConfusion
  · rw [if_neg hsize, modify_of_not_exists hsize]
    exact fun _ => Ledger.draw h

theorem ledger_send (number : Nat) (tag : Tag) :
    keepingLedger.Sound (Mailbox.send number tag) := by
  intro rig h
  simp only [Mailbox.send, Exec.bind_apply, Exec.look_apply, Progress.andThen]
  split
  · exact fun _ => Ledger.post h number tag
  · exact id

theorem ledger_withdraw (number : Nat) (tag : Tag) :
    keepingLedger.Sound (Mailbox.withdraw number tag) := by
  intro rig h
  simp only [Mailbox.withdraw, Mailbox.modify, Exec.bind_apply, Exec.look_apply,
    Exec.update_apply, Progress.andThen]
  cases hfound : (rig.mailbox number).isRegistered tag with
  | true => exact fun _ => (Ledger.cancel h hfound).aside Facet.noConfusion
  | false =>
      have hsame : rig.mailboxes.modify number (·.cancel tag) = rig.mailboxes :=
        modify_of_eq (cancel_of_not_registered hfound)
      rw [hsame]
      exact id

/-- However the callback of a message ends, the ledger is kept. -/
theorem ledger_handle (number : Nat) (message : Message) :
    keepingLedger.Sound (Mailbox.handle number message) := by
  intro rig h
  rcases hentry : (rig.mailbox number).find? message.tag with _ | entry
  · rw [Mailbox.handle_of_none hentry]
    have hdropped : (rig.mailing.note (.undeliverable number message)).Ledger :=
      h.note (fun _ _ => rfl) trivial
    exact fun _ => hdropped.aside Facet.noConfusion
  · cases hexecuting : entry.executing with
    | true =>
        rw [Mailbox.handle_of_executing hentry hexecuting]
        have hrefused : (rig.mailing.note (.reentrant number message)).Ledger :=
          h.note (fun _ _ => rfl) (h.isKept_of_find? hentry)
        exact fun _ => hrefused.aside Facet.noConfusion
    | false =>
        rw [Mailbox.handle_of_idle hentry hexecuting, Exec.bind_apply,
          Exec.ensuring_apply, Progress.respects_andThen, Progress.respects_atEnd]
        have hambience := ledger_margins.of_subset Facet.ambience_subset_margins
        have hstarted : (Mailbox.begun number message rig).mailing.Ledger := h.start hentry
        refine (Mailbox.sound_start hambience ledger_turns entry.callback _ hstarted).imp ?_
        intro ending later hkept
        have hleft : (Mailbox.left number message later).mailing.Ledger :=
          (hkept hstarted).finish number message
        cases ending with
        | value => exact fun _ => hleft
        | panicked cause => exact fun _ => hleft
        | exhausted => exact fun _ => hleft

theorem ledger_mail : keepingLedger.AllowsMail where
  opens := fun _ _ h => Ledger.create h
  enters := ledger_enter
  sends := ledger_send
  withdraws := ledger_withdraw
  delivers number := by
    refine Mailbox.sound_deliver ?_ ?_ (ledger_handle number)
    · refine admits_keeping fun rig h => ?_
      have hemptied : (rig.mailing.change number ({ · with queue := [] })).Ledger :=
        h.change number fun _ _ => rfl
      exact hemptied
    · intro messages rig h _
      exact h.note (fun _ _ => rfl) trivial

theorem ledger_soundOrders : keepingLedger.SoundOrders := by
  have hambience := ledger_margins.of_subset Facet.ambience_subset_margins
  have hrefreshes : keepingLedger.AllowsRefreshes :=
    .of_ignores (ledger_touch (by decide))
      (ledger_margins.of_subset Facet.rendering_subset_margins) ledger_turns
  exact soundOrders_of_margins ledger_margins
    (.of_ignores (ledger_touch (by decide)) (ledger_touch (by decide))
      (ledger_touch (by decide)) (ledger_touch (by decide)))
    ledger_turns hrefreshes.toAllowsRequests ledger_mail
    (.of_ignores hambience (ledger_touch (by decide)))
    fun _ _ _ => hrefreshes.refreshes

end Mailing

open Mailing in
/-- Whatever a rig becomes, the ledger of its tags is kept. -/
theorem Rig.Becomes.ledger {rate : Rate} {reportInterval : Nat} {rig : Rig}
    (h : (Rig.fresh rate reportInterval).Becomes rig) : rig.mailing.Ledger := by
  refine h.kept ledger_soundOrders ⟨fun number tag => ?_, .nil, trivial⟩
  exact congrArg Option.isSome (books_blank.upon number tag)

namespace Mailbox

open Exec

/-- What is promised of tags and of their cancellation. -/
structure IssuesTags (moment : Rig) : Prop where
  /-- No two registrations have returned one tag. -/
  unique : (chronicle Event.issued moment.journal).Nodup
  /-- A registration returns a tag that none has returned before. -/
  registers : ∀ number callback, number < moment.mailboxes.size →
    ∃ tag later, enter number callback moment = .ended (.value tag) later ∧
      tag ∉ chronicle Event.issued moment.journal ∧
      later.journal = .logged (registeredNotice tag) :: .registered number tag ::
        moment.journal ∧
      (later.mailbox number).find? tag = some ⟨tag, callback, false⟩
  /-- A tag is issued by one mailbox. -/
  home : ∀ first second tag, .registered first tag ∈ moment.journal →
    .registered second tag ∈ moment.journal → first = second
  /-- A tag is registered where it was issued, from its registration to its
  cancellation. -/
  registered : ∀ number tag, (moment.mailbox number).isRegistered tag = true ↔
    .registered number tag ∈ moment.journal ∧ .cancelled number tag ∉ moment.journal
  /-- A cancellation answers whether it ended a registration, and leaves none. -/
  cancels : ∀ number tag, ∃ later,
    withdraw number tag moment =
      .ended (.value ((moment.mailbox number).isRegistered tag)) later ∧
    (later.mailbox number).isRegistered tag = false ∧
    chronicle Event.withdrawn later.journal =
      chronicle Event.withdrawn moment.journal ++
        if (moment.mailbox number).isRegistered tag then [(number, tag)] else []
  /-- Only one cancellation of a tag ends a registration, after it and in its mailbox. -/
  once : ∀ newer number tag older,
    moment.journal = newer ++ .cancelled number tag :: older →
      .registered number tag ∈ older ∧
      ∀ place, .cancelled place tag ∉ newer ∧ .cancelled place tag ∉ older
  /-- After that no message reaches the callback, in whatever mailbox, and nothing
  enters it. -/
  final : ∀ newer number tag older,
    moment.journal = newer ++ .cancelled number tag :: older →
      .entered (.callback tag) ∉ newer ∧
      ∀ place serial, .delivered place ⟨serial, tag⟩ ∉ newer ∧
        .reentrant place ⟨serial, tag⟩ ∉ newer
  /-- A message for it comes to nothing at once. -/
  drops : ∀ number tag, .cancelled number tag ∈ moment.journal → ∀ place serial,
    handle place ⟨serial, tag⟩ moment =
      .ended (.value false) (dropped place ⟨serial, tag⟩ moment)

theorem withdraw_apply (rig : Rig) (number : Nat) (tag : Tag) : ∃ later,
    withdraw number tag rig =
      .ended (.value ((rig.mailbox number).isRegistered tag)) later ∧
    (later.mailbox number).isRegistered tag = false ∧
    chronicle Event.withdrawn later.journal =
      chronicle Event.withdrawn rig.journal ++
        if (rig.mailbox number).isRegistered tag then [(number, tag)] else [] := by
  have hgone : (((rig.mailing.change number (·.cancel tag)).mailbox number).isRegistered
      tag) = false := by
    have hupon : (rig.mailing.change number (·.cancel tag)).upon number tag = none :=
      Mailing.upon_cancel.trans (if_pos ⟨rfl, rfl⟩)
    rw [Mailing.upon, Option.map_eq_none_iff] at hupon
    rw [isRegistered, hupon]
    rfl
  simp only [withdraw, modify, bind_apply, look_apply, update_apply, Progress.andThen]
  cases hfound : (rig.mailbox number).isRegistered tag with
  | true => exact ⟨_, rfl, hgone, List.append_nil _⟩
  | false => exact ⟨_, rfl, hgone, (List.append_nil _).symm⟩

/-- Tags are unique and their cancellation is final, whatever callbacks do and however
they end. -/
theorem issuesTags {rate : Rate} {reportInterval : Nat} {moment : Rig}
    (hbecomes : (Rig.fresh rate reportInterval).Becomes moment) : IssuesTags moment := by
  have hledger := hbecomes.ledger
  have hlawful : Lawful Rightful moment.journal := hledger.rightful
  constructor
  · exact nodup_issued hlawful
  · intro number callback hsize
    have hfresh (place : Nat) : .registered place ⟨moment.nextTag⟩ ∉ moment.journal :=
      hledger.issued.fresh place
    have hunkept : isKept number ⟨moment.nextTag⟩ moment.journal = false :=
      Bool.eq_false_iff.mpr fun hkept => hfresh number (registered_of_isKept hkept)
    obtain ⟨later, hentered, hfound⟩ :=
      enter_apply hsize (hledger.find?_eq_none hunkept) callback
    refine ⟨_, later, hentered, fun hissued => ?_, ?_, hfound⟩
    · obtain ⟨place, hregistered⟩ := mem_issued.mp hissued
      exact hfresh place hregistered
    · simp only [enter, bind_apply, look_apply, update_apply, Progress.andThen,
        Array.size_modify, if_pos hsize] at hentered
      cases hentered
      rfl
  · exact fun first second tag => home_of_rightful hlawful
  · intro number tag
    rw [← isKept_iff hlawful]
    exact iff_of_eq (congrArg (· = true) (hledger.isRegistered number tag))
  · exact withdraw_apply moment
  · intro newer number tag older hsplit
    rw [hsplit] at hlawful
    have hkept : isKept number tag older = true := hlawful.of_append.1
    exact ⟨registered_of_isKept hkept, cancelled_once hlawful⟩
  · intro newer number tag older hsplit
    rw [hsplit] at hlawful
    exact ⟨not_entered_since_cancelled hlawful, fun place serial =>
      ⟨absent_since_cancelled hlawful fun _ => id,
        absent_since_cancelled hlawful fun _ => id⟩⟩
  · intro number tag hcancelled place serial
    exact handle_of_none
      (hledger.find?_eq_none (not_kept_of_cancelled hlawful hcancelled place))

/-- A callback that cancels another one, for which a message is posted, and itself, and
then panics. -/
def withdrawing : Script :=
  .routine (fun _ _ => .done .null) fun quiet =>
    .routine (fun _ _ =>
        .order (.mail (.cancel 0 ⟨0⟩)) fun _ =>
          .order (.mail (.cancel 0 ⟨1⟩)) fun _ => .panic (.raised "boom")) fun raising =>
      .order (.mail (.register 0 quiet)) fun first =>
        .order (.mail (.register 0 raising)) fun second =>
          .order (.mail (.post 0 first)) fun _ =>
            .order (.mail (.post 0 second)) fun _ =>
              .order (.mail (.post 0 first)) fun _ =>
                .order (.mail (.deliver 0)) fun _ => .done .null

/-- Messages for the two, in their mailbox and in another one. -/
def reposting : Script :=
  .order (.mail .newMailbox) fun other =>
    .order (.mail (.post other ⟨0⟩)) fun _ =>
      .order (.mail (.post 0 ⟨1⟩)) fun _ =>
        .order (.mail (.deliver other)) fun _ =>
          .order (.mail (.deliver 0)) fun _ => .done .null

def withdrawnRig : Rig :=
  (reposting.playWithin 2
    (withdrawing.playWithin 2 (Rig.fresh .initial Duration.perSecond)).2).2

/-- The first message reaches its callback; once both are cancelled, nothing does. -/
theorem issuesTags_withdrawing :
    (Rig.fresh .initial Duration.perSecond).Becomes withdrawnRig ∧
      chronicle Event.withdrawn withdrawnRig.journal = [(0, ⟨0⟩), (0, ⟨1⟩)] ∧
      withdrawnRig.journal.countP (· matches .delivered _ _) = 2 ∧
      withdrawnRig.journal.countP (· matches .undeliverable _ _) = 2 ∧
      IssuesTags withdrawnRig := by
  have hbecomes : (Rig.fresh .initial Duration.perSecond).Becomes withdrawnRig :=
    .after 2 reposting (.after 2 withdrawing .start)
  exact ⟨hbecomes, by decide +kernel, by decide +kernel, by decide +kernel,
    issuesTags hbecomes⟩

end Mailbox

end Cadence
