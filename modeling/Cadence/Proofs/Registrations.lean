import Cadence.Proofs.MessageQueues

/-!
What messages come upon.  The journal tells which callbacks are registered and
which of them execute, and so what each message has come to.
-/

namespace Cadence

/-- Whether an event means that a callback is registered under a tag now, or that
none is. -/
def Event.keeping (number : Nat) (tag : Tag) : Event → Option Bool
  | .registered place other =>
      if place = number ∧ other = tag then some true else none
  | .cancelled place other =>
      if place = number ∧ other = tag then some false else none
  | _ => none

/-- Whether an event means that the callback of a tag executes now, or that it does
not. -/
def Event.executing (tag : Tag) : Event → Option Bool
  | .entered (.callback other) => if other = tag then some true else none
  | .left (.callback other) => if other = tag then some false else none
  | _ => none

/-- Whether a callback is registered in a mailbox: it was, and has not been
cancelled since. -/
def isKept (number : Nat) (tag : Tag) (journal : List Event) : Bool :=
  (journal.findSome? (Event.keeping number tag)).getD false

/-- Whether the callback of a tag executes: it was entered, and has not been left
since. -/
def isExecuting (tag : Tag) (journal : List Event) : Bool :=
  (journal.findSome? (Event.executing tag)).getD false

/-- What a message comes upon in a mailbox: a callback, which executes or does not,
or none. -/
def encounter (number : Nat) (tag : Tag) (journal : List Event) : Option Bool :=
  if isKept number tag journal then some (isExecuting tag journal) else none

/-- A message is delivered to a callback that does not execute; it is lost on one
that does, and without a callback. -/
def Judged (event : Event) (older : List Event) : Prop :=
  match event with
  | .delivered number message => encounter number message.tag older = some false
  | .reentrant number message => encounter number message.tag older = some true
  | .undeliverable number message => encounter number message.tag older = none
  | _ => True

/-- The latest event is the delivery of a message. -/
def DeliveredLast (tag : Tag) (journal : List Event) : Prop :=
  ∃ number serial older, journal = .delivered number ⟨serial, tag⟩ :: older

/-- A callback is entered where a message for it has just been delivered, and
nowhere else. -/
def Prompt (event : Event) (older : List Event) : Prop :=
  ∀ tag, event = .entered (.callback tag) ↔ DeliveredLast tag older

section Journals

variable {number : Nat} {tag : Tag} {event : Event} {journal : List Event}

theorem isKept_cons (event : Event) (journal : List Event) :
    isKept number tag (event :: journal) =
      (event.keeping number tag).getD (isKept number tag journal) := by
  unfold isKept
  rw [List.findSome?_cons]
  cases event.keeping number tag <;> rfl

/-- What is kept was registered. -/
theorem registered_of_isKept (h : isKept number tag journal = true) :
    .registered number tag ∈ journal := by
  induction journal with
  | nil => cases h
  | cons event older ih =>
      rw [isKept_cons] at h
      rcases hkeeping : event.keeping number tag with _ | kept
      · rw [hkeeping] at h
        exact List.mem_cons_of_mem _ (ih h)
      · rw [hkeeping, Option.getD_some] at h
        subst h
        cases event with
        | registered place other =>
            have hsame : place = number ∧ other = tag := by
              simpa [Event.keeping] using hkeeping
            rw [hsame.1, hsame.2]
            exact List.mem_cons_self
        | cancelled place other => simp [Event.keeping] at hkeeping
        | _ => cases hkeeping

theorem isExecuting_cons (event : Event) (journal : List Event) :
    isExecuting tag (event :: journal) =
      (event.executing tag).getD (isExecuting tag journal) := by
  unfold isExecuting
  rw [List.findSome?_cons]
  cases event.executing tag <;> rfl

/-- What a message that comes upon a callback finds. -/
theorem of_encounter {executing : Bool}
    (h : encounter number tag journal = some executing) :
    isKept number tag journal = true ∧ isExecuting tag journal = executing := by
  unfold encounter at h
  by_cases hkept : isKept number tag journal = true
  · rw [if_pos hkept] at h
    exact ⟨hkept, Option.some.inj h⟩
  · rw [if_neg hkept] at h
    cases h

theorem Event.keeping_of_facet (hfacet : event.facet ≠ .mail) :
    event.keeping number tag = none := by
  cases event with
  | registered => exact absurd rfl hfacet
  | cancelled => exact absurd rfl hfacet
  | _ => rfl

theorem Event.executing_of_facet (hfacet : event.facet ≠ .mail) :
    event.executing tag = none := by
  cases event with
  | entered part =>
      cases part with
      | callback => exact absurd rfl hfacet
      | _ => rfl
  | left part =>
      cases part with
      | callback => exact absurd rfl hfacet
      | _ => rfl
  | _ => rfl

theorem judged_of_facet (hfacet : event.facet ≠ .mail) : Judged event journal := by
  cases event with
  | delivered => exact absurd rfl hfacet
  | undeliverable => exact absurd rfl hfacet
  | reentrant => exact absurd rfl hfacet
  | _ => trivial

end Journals

/-! ### Laws of the journal -/

/-- A journal that accounts for each message and for each callback that was
entered. -/
structure Accounted (journal : List Event) : Prop where
  judged : Lawful Judged journal
  prompt : Lawful Prompt journal
  settled : ∀ tag, ¬ DeliveredLast tag journal

/-- A journal whose tags are below some number, and belong to one mailbox each. -/
structure Issued (nextTag : Nat) (journal : List Event) : Prop where
  bound : ∀ number tag, .registered number tag ∈ journal → tag.number < nextTag
  single : ∀ first second tag, .registered first tag ∈ journal →
    .registered second tag ∈ journal → first = second

section Laws

variable {number nextTag : Nat} {event : Event} {journal : List Event}

theorem Accounted.nil : Accounted [] where
  judged := trivial
  prompt := trivial
  settled tag := by
    rintro ⟨number, serial, older, hlast⟩
    cases hlast

/-- Where no message has just been delivered no callback is entered. -/
theorem Accounted.prompt_cons (h : Accounted journal)
    (hentered : ∀ tag, event ≠ .entered (.callback tag)) :
    Lawful Prompt (event :: journal) := by
  refine ⟨fun tag => ⟨fun hevent => ?_, fun hlast => ?_⟩, h.prompt⟩
  · exact absurd hevent (hentered tag)
  · exact absurd hlast (h.settled tag)

/-- An event that delivers nothing and enters no callback. -/
theorem Accounted.note (h : Accounted journal) (hjudged : Judged event journal)
    (hentered : ∀ tag, event ≠ .entered (.callback tag))
    (hdelivered : ∀ number message, event ≠ .delivered number message) :
    Accounted (event :: journal) := by
  refine ⟨⟨hjudged, h.judged⟩, h.prompt_cons hentered, ?_⟩
  rintro tag ⟨number, serial, older, hlast⟩
  exact hdelivered number _ (List.cons.inj hlast).1

/-- A message is delivered and its callback entered. -/
theorem Accounted.start (h : Accounted journal) {message : Message}
    (hencounter : encounter number message.tag journal = some false) :
    Accounted (.entered (.callback message.tag) :: .delivered number message ::
      journal) := by
  constructor
  · exact ⟨trivial, hencounter, h.judged⟩
  · refine ⟨fun tag => ?_, h.prompt_cons fun _ => Event.noConfusion⟩
    constructor
    · intro hentered
      cases hentered
      exact ⟨number, message.serial, journal, rfl⟩
    · rintro ⟨place, serial, older, hlast⟩
      cases hlast
      rfl
  · rintro tag ⟨place, serial, older, hlast⟩
    cases hlast

theorem Issued.nil : Issued 0 [] where
  bound _ _ hregistered := by cases hregistered
  single _ _ _ hregistered := by cases hregistered

theorem Issued.mono {later : Nat} (h : Issued nextTag journal) (hle : nextTag ≤ later) :
    Issued later journal :=
  ⟨fun number tag hregistered =>
    Nat.lt_of_lt_of_le (h.bound number tag hregistered) hle, h.single⟩

/-- An event that registers nothing. -/
theorem Issued.note (h : Issued nextTag journal)
    (hevent : ∀ number tag, event ≠ .registered number tag) :
    Issued nextTag (event :: journal) := by
  have hold {number : Nat} {tag : Tag} (hlater : .registered number tag ∈ event :: journal) :
      .registered number tag ∈ journal := by
    rcases List.mem_cons.mp hlater with hnow | hold
    · exact absurd hnow.symm (hevent number tag)
    · exact hold
  exact ⟨fun number tag hlater => h.bound number tag (hold hlater),
    fun first second tag hfirst hsecond =>
      h.single first second tag (hold hfirst) (hold hsecond)⟩

/-- The next tag has not been registered. -/
theorem Issued.fresh (h : Issued nextTag journal) (number : Nat) :
    .registered number ⟨nextTag⟩ ∉ journal :=
  fun hregistered => Nat.lt_irrefl _ (h.bound number ⟨nextTag⟩ hregistered)

theorem Issued.register (h : Issued nextTag journal) (number : Nat) :
    Issued (nextTag + 1) (.registered number ⟨nextTag⟩ :: journal) := by
  have hcases {place : Nat} {tag : Tag}
      (hlater : .registered place tag ∈
        Event.registered number ⟨nextTag⟩ :: journal) :
      place = number ∧ tag = ⟨nextTag⟩ ∨ .registered place tag ∈ journal := by
    rcases List.mem_cons.mp hlater with hnow | hold
    · exact Or.inl (Event.registered.inj hnow)
    · exact Or.inr hold
  constructor
  · intro place tag hlater
    rcases hcases hlater with ⟨_, rfl⟩ | hold
    · exact Nat.lt_succ_self _
    · exact Nat.lt_succ_of_lt (h.bound place tag hold)
  · intro first second tag hfirst hsecond
    rcases hcases hfirst with ⟨hhere, rfl⟩ | hold
    · rcases hcases hsecond with ⟨hthere, _⟩ | hother
      · rw [hhere, hthere]
      · exact absurd hother (h.fresh second)
    · rcases hcases hsecond with ⟨_, rfl⟩ | hother
      · exact absurd hold (h.fresh first)
      · exact h.single first second tag hold hother

end Laws

namespace Mailing

/-- What a message comes upon in a mailbox. -/
def upon (state : Mailing) (number : Nat) (tag : Tag) : Option Bool :=
  ((state.mailbox number).find? tag).map (·.executing)

/-- The tags whose callbacks are under way. -/
def under (deliveries : List Delivery) : List Tag :=
  deliveries.filterMap fun delivery => delivery.current.map (·.tag)

theorem under_cons (number : Nat) (message : Message) (rest : List Message)
    (outer : List Delivery) :
    under (⟨number, some message, rest⟩ :: outer) = message.tag :: under outer := rfl

/-- The journal tells of the registrations and of the callbacks under way. -/
structure Books (state : Mailing) (deliveries : List Delivery) : Prop where
  upon : ∀ number tag, state.upon number tag = encounter number tag state.journal
  issued : Issued state.nextTag state.journal
  home : ∀ delivery ∈ deliveries, ∀ message ∈ delivery.current,
    .registered delivery.label message.tag ∈ state.journal
  under : ∀ tag, isExecuting tag state.journal = true ↔ tag ∈ under deliveries
  distinct : (Mailing.under deliveries).Nodup
  accounted : Accounted state.journal

variable {state later : Mailing} {deliveries outer : List Delivery} {number place : Nat}
  {tag other : Tag} {event : Event} {message : Message} {rest : List Message}

theorem upon_change {change : Mailbox → Mailbox} (place number : Nat) (tag : Tag)
    (hchange : ∀ mailbox, (change mailbox).find? tag = mailbox.find? tag) :
    (state.change place change).upon number tag = state.upon number tag := by
  unfold upon
  rw [mailbox_change]
  split
  · rw [hchange]
  · rfl

theorem upon_register (hsize : number < state.mailboxes.size)
    (hnone : state.upon number tag = none) (callback : Callback) :
    (state.change number (·.register tag callback)).upon place other =
      if number = place ∧ tag = other then some false else state.upon place other := by
  unfold upon at hnone ⊢
  rw [mailbox_change]
  by_cases hplace : number = place
  · subst hplace
    rw [if_pos ⟨rfl, hsize⟩, Mailbox.find?_register]
    by_cases htag : tag = other
    · subst htag
      rw [Option.map_eq_none_iff.mp hnone]
      simp
    · simp [htag]
  · rw [if_neg fun h => hplace h.1, if_neg fun h => hplace h.1]

theorem upon_cancel :
    (state.change number (·.cancel tag)).upon place other =
      if number = place ∧ tag = other then none else state.upon place other := by
  unfold upon
  rw [mailbox_change]
  by_cases hplace : number = place
  · subst hplace
    by_cases hsize : number < state.mailboxes.size
    · rw [if_pos ⟨rfl, hsize⟩, Mailbox.find?_cancel]
      by_cases htag : tag = other <;> simp [htag]
    · have hempty : state.mailbox number = .empty := by simp [mailbox, hsize]
      rw [if_neg fun h => hsize h.2, hempty]
      simp [Mailbox.empty, Mailbox.find?]
  · rw [if_neg fun h => hplace h.1, if_neg fun h => hplace h.1]

theorem upon_mark (executing : Bool) :
    (state.mark number tag executing).upon place other =
      if number = place ∧ tag = other then
        (state.upon place other).map fun _ => executing
      else state.upon place other := by
  unfold upon mark
  rw [mailbox_change]
  by_cases hplace : number = place
  · subst hplace
    by_cases hsize : number < state.mailboxes.size
    · rw [if_pos ⟨rfl, hsize⟩, Mailbox.find?_mark]
      rcases hfound : (state.mailbox number).find? other with _ | entry
      · simp
      · have hentry := Mailbox.tag_of_find? hfound
        by_cases htag : tag = other
        · simp [hentry, htag]
        · simp [hentry, htag, Ne.symm htag]
    · have hempty : state.mailbox number = .empty := by simp [mailbox, hsize]
      rw [if_neg fun h => hsize h.2, hempty]
      simp [Mailbox.empty, Mailbox.find?]
  · rw [if_neg fun h => hplace h.1, if_neg fun h => hplace h.1]

namespace Books

theorem isRegistered (h : state.Books deliveries) (number : Nat) (tag : Tag) :
    (state.mailbox number).isRegistered tag = isKept number tag state.journal := by
  have hupon := congrArg Option.isSome (h.upon number tag)
  rw [Mailing.upon, Option.isSome_map] at hupon
  rw [Mailbox.isRegistered, hupon, encounter]
  cases isKept number tag state.journal <;> rfl

/-- No callback of a new tag executes. -/
theorem not_executing_of_fresh (h : state.Books deliveries) :
    isExecuting ⟨state.nextTag⟩ state.journal = false := by
  rw [Bool.eq_false_iff]
  intro hexecuting
  obtain ⟨delivery, hdelivery, hcurrent⟩ :=
    List.mem_filterMap.mp ((h.under _).mp hexecuting)
  obtain ⟨message, hmessage, htag⟩ := Option.map_eq_some_iff.mp hcurrent
  have hhome := h.home delivery hdelivery message hmessage
  rw [htag] at hhome
  exact h.issued.fresh delivery.label hhome

/-! ### Deliveries without a callback -/

theorem idle (h : state.Books (⟨number, none, rest⟩ :: outer)) : state.Books outer where
  upon := h.upon
  issued := h.issued
  home delivery hdelivery := h.home delivery (List.mem_cons_of_mem _ hdelivery)
  under := h.under
  distinct := h.distinct
  accounted := h.accounted

theorem attend (h : state.Books outer) (number : Nat) (rest : List Message) :
    state.Books (⟨number, none, rest⟩ :: outer) where
  upon := h.upon
  issued := h.issued
  home delivery hdelivery message hmessage := by
    rcases List.mem_cons.mp hdelivery with rfl | houter
    · cases hmessage
    · exact h.home delivery houter message hmessage
  under := h.under
  distinct := h.distinct
  accounted := h.accounted

/-! ### Steps -/

/-- A change that the books are not about. -/
theorem congr (h : state.Books deliveries)
    (hupon : ∀ number tag, later.upon number tag = state.upon number tag)
    (hjournal : later.journal = state.journal) (htag : state.nextTag ≤ later.nextTag) :
    later.Books deliveries := by
  constructor
  · intro number tag
    rw [hupon, hjournal]
    exact h.upon number tag
  · rw [hjournal]
    exact h.issued.mono htag
  · rw [hjournal]
    exact h.home
  · rw [hjournal]
    exact h.under
  · exact h.distinct
  · rw [hjournal]
    exact h.accounted

/-- A change of a mailbox that leaves its registrations. -/
theorem change (h : state.Books deliveries) (number : Nat)
    {change : Mailbox → Mailbox}
    (hchange : ∀ tag mailbox, (change mailbox).find? tag = mailbox.find? tag) :
    (state.change number change).Books deliveries :=
  h.congr (fun place tag => upon_change number place tag (hchange tag)) rfl
    (Nat.le_refl _)

/-- What was registered stays so. -/
theorem home_cons (h : state.Books deliveries) (event : Event) :
    ∀ delivery ∈ deliveries, ∀ message ∈ delivery.current,
      .registered delivery.label message.tag ∈ event :: state.journal :=
  fun delivery hdelivery message hmessage =>
    List.mem_cons_of_mem _ (h.home delivery hdelivery message hmessage)

/-- An event that registers nothing and begins and ends no callback. -/
theorem note (h : state.Books deliveries)
    (hkeeping : ∀ number tag, event.keeping number tag = none)
    (hexecuting : ∀ tag, event.executing tag = none)
    (hjudged : Judged event state.journal)
    (hdelivered : ∀ number message, event ≠ .delivered number message) :
    (state.note event).Books deliveries := by
  have hkept (number : Nat) (tag : Tag) :
      isKept number tag (state.note event).journal = isKept number tag state.journal :=
    (isKept_cons event state.journal).trans (by rw [hkeeping]; rfl)
  have hexec (tag : Tag) :
      isExecuting tag (state.note event).journal = isExecuting tag state.journal :=
    (isExecuting_cons event state.journal).trans (by rw [hexecuting]; rfl)
  constructor
  · intro number tag
    rw [encounter, hkept, hexec]
    exact h.upon number tag
  · apply h.issued.note
    rintro number tag rfl
    have hnew := hkeeping number tag
    simp [Event.keeping] at hnew
  · exact h.home_cons event
  · intro tag
    rw [hexec]
    exact h.under tag
  · exact h.distinct
  · refine h.accounted.note hjudged ?_ hdelivered
    rintro tag rfl
    have hentered := hexecuting tag
    simp [Event.executing] at hentered

theorem register (h : state.Books deliveries) (hsize : number < state.mailboxes.size)
    (callback : Callback) : (state.register number callback).Books deliveries := by
  have hunkept (place : Nat) : ¬ isKept place ⟨state.nextTag⟩ state.journal = true :=
    fun hkept => h.issued.fresh place (registered_of_isKept hkept)
  have hjournal : (state.register number callback).journal =
      .registered number ⟨state.nextTag⟩ :: state.journal := rfl
  constructor
  · intro place tag
    have hnone : state.draw.upon number ⟨state.nextTag⟩ = none := by
      refine (h.upon number _).trans ?_
      exact if_neg (hunkept number)
    have hsize : number < state.draw.mailboxes.size := hsize
    have hexecuting : isExecuting tag (state.register number callback).journal =
        isExecuting tag state.journal := by
      rw [hjournal, isExecuting_cons]
      rfl
    refine (upon_register hsize hnone callback).trans ?_
    rw [encounter, hexecuting, hjournal, isKept_cons, Event.keeping]
    split
    · rename_i hsame
      rw [Option.getD_some, if_pos rfl, ← hsame.2]
      exact congrArg some h.not_executing_of_fresh.symm
    · exact h.upon place tag
  · exact h.issued.register number
  · exact h.home_cons _
  · exact h.under
  · exact h.distinct
  · exact h.accounted.note trivial (fun _ => Event.noConfusion)
      fun _ _ => Event.noConfusion

theorem cancel (h : state.Books deliveries) (number : Nat) (tag : Tag) :
    (state.cancel number tag).Books deliveries := by
  have hjournal : (state.cancel number tag).journal =
      .cancelled number tag :: state.journal := rfl
  constructor
  · intro place other
    have hexecuting : isExecuting other (state.cancel number tag).journal =
        isExecuting other state.journal := by
      rw [hjournal, isExecuting_cons]
      rfl
    refine upon_cancel.trans ?_
    rw [h.upon, encounter, encounter, hexecuting, hjournal, isKept_cons, Event.keeping]
    split <;> rfl
  · exact h.issued.note fun _ _ => Event.noConfusion
  · exact h.home_cons _
  · exact h.under
  · exact h.distinct
  · exact h.accounted.note trivial (fun _ => Event.noConfusion)
      fun _ _ => Event.noConfusion

/-- A mark is entered into the books if it is set in the mailbox of its tag. -/
theorem upon_mark (h : state.Books deliveries) {journal : List Event} {executing : Bool}
    (hhome : .registered number tag ∈ state.journal)
    (hkept : ∀ place other, isKept place other journal = isKept place other state.journal)
    (hexecuting : ∀ other, isExecuting other journal =
      if tag = other then executing else isExecuting other state.journal)
    (place : Nat) (other : Tag) :
    (state.mark number tag executing).upon place other =
      encounter place other journal := by
  rw [Mailing.upon_mark, h.upon, encounter, encounter, hkept, hexecuting]
  by_cases htag : tag = other
  · subst htag
    rw [if_pos rfl]
    by_cases hplace : number = place
    · rw [if_pos ⟨hplace, rfl⟩]
      split <;> rfl
    · -- A tag that executes in one mailbox is not registered in another.
      have hnot : ¬ isKept place tag state.journal = true := fun hkeeps =>
        hplace (h.issued.single number place tag hhome (registered_of_isKept hkeeps))
      rw [if_neg fun hsame => hplace hsame.1, if_neg hnot, if_neg hnot]
  · rw [if_neg fun hsame => htag hsame.2, if_neg htag]

theorem start (h : state.Books outer) {entry : Registration}
    (hentry : (state.mailbox number).find? message.tag = some entry)
    (hidle : entry.executing = false) (rest : List Message) :
    (state.start number message).Books (⟨number, some message, rest⟩ :: outer) := by
  have hencounter : encounter number message.tag state.journal = some false := by
    rw [← h.upon, Mailing.upon, hentry, ← hidle]
    rfl
  obtain ⟨hkept, hresting⟩ := of_encounter hencounter
  have hhome := registered_of_isKept hkept
  have hjournal : (state.start number message).journal =
      .entered (.callback message.tag) :: .delivered number message :: state.journal :=
    rfl
  have hexecuting (other : Tag) :
      isExecuting other (state.start number message).journal =
        if message.tag = other then true else isExecuting other state.journal := by
    rw [hjournal, isExecuting_cons, isExecuting_cons, Event.executing]
    split <;> rfl
  constructor
  · intro place other
    refine h.upon_mark hhome (fun place other => ?_) hexecuting place other
    rw [hjournal, isKept_cons, isKept_cons]
    rfl
  · exact (h.issued.note fun _ _ => Event.noConfusion).note
      fun _ _ => Event.noConfusion
  · intro delivery hdelivery other hother
    refine List.mem_cons_of_mem _ ?_
    rcases List.mem_cons.mp hdelivery with rfl | houter
    · obtain rfl := Option.some.inj hother
      exact List.mem_cons_of_mem _ hhome
    · exact h.home_cons _ delivery houter other hother
  · intro other
    rw [hexecuting, under_cons, List.mem_cons, ← h.under, eq_comm (a := other)]
    by_cases hother : message.tag = other <;> simp [hother]
  · rw [under_cons, List.nodup_cons]
    refine ⟨fun hunder => ?_, h.distinct⟩
    rw [(h.under message.tag).mpr hunder] at hresting
    cases hresting
  · exact h.accounted.start hencounter

theorem finish (h : state.Books (⟨number, some message, rest⟩ :: outer)) :
    (state.finish number message).Books outer := by
  have hhome := h.home _ List.mem_cons_self message rfl
  -- No other delivery is in the middle of this callback, so it is over for good.
  have hdistinct := h.distinct
  rw [under_cons, List.nodup_cons] at hdistinct
  have hjournal : (state.finish number message).journal =
      .left (.callback message.tag) :: state.journal := rfl
  have hexecuting (other : Tag) :
      isExecuting other (state.finish number message).journal =
        if message.tag = other then false else isExecuting other state.journal := by
    rw [hjournal, isExecuting_cons, Event.executing]
    split <;> rfl
  constructor
  · intro place other
    refine h.upon_mark hhome (fun place other => ?_) hexecuting place other
    rw [hjournal, isKept_cons]
    rfl
  · exact h.issued.note fun _ _ => Event.noConfusion
  · exact fun delivery hdelivery =>
      h.home_cons _ delivery (List.mem_cons_of_mem _ hdelivery)
  · intro other
    have hunder := h.under other
    rw [under_cons, List.mem_cons] at hunder
    rw [hexecuting]
    by_cases hother : message.tag = other
    · subst hother
      rw [if_pos rfl]
      exact ⟨Bool.noConfusion, fun houter => absurd houter hdistinct.1⟩
    · rw [if_neg hother, hunder, or_iff_right (Ne.symm hother)]
  · exact hdistinct.2
  · exact h.accounted.note trivial (fun _ => Event.noConfusion)
      fun _ _ => Event.noConfusion

theorem step {after : List Delivery} (h : state.Books deliveries)
    (hstep : Step (state, deliveries) (later, after)) : later.Books after := by
  cases hstep with
  | @aside _ _ event hfacet =>
      refine h.note (fun _ _ => Event.keeping_of_facet hfacet)
        (fun _ => Event.executing_of_facet hfacet) (judged_of_facet hfacet) ?_
      rintro number message rfl
      exact hfacet rfl
  | creates =>
      refine h.congr (fun number tag => ?_) rfl (Nat.le_refl _)
      rw [Mailing.upon, mailbox_create, ← Mailing.upon]
  | draws => exact h.congr (fun _ _ => rfl) rfl (Nat.le_succ _)
  | registers hsize callback => exact h.register hsize callback
  | @posts _ _ number hsize tag =>
      have hcounted : Books { state with nextMessage := state.nextMessage + 1 }
        deliveries := h.congr (fun _ _ => rfl) rfl (Nat.le_refl _)
      have hposted : (Mailing.change { state with nextMessage := state.nextMessage + 1 }
        number (·.post ⟨state.nextMessage, tag⟩)).Books deliveries :=
          hcounted.change number fun _ _ => rfl
      exact hposted.note (fun _ _ => rfl) (fun _ => rfl) trivial
        fun _ _ => Event.noConfusion
  | @cancels _ _ number tag hfound => exact h.cancel number tag
  | opens number hattended =>
      have hemptied : (state.change number ({ · with queue := [] })).Books deliveries :=
        h.change number fun _ _ => rfl
      have hopened : (state.openDelivery number).Books deliveries :=
        hemptied.note (fun _ _ => rfl) (fun _ => rfl) trivial fun _ _ => Event.noConfusion
      exact hopened.attend number _
  | @drops _ number message rest outer hnone =>
      refine (h.idle.note (fun _ _ => rfl) (fun _ => rfl) ?_
        fun _ _ => Event.noConfusion).attend number rest
      show encounter number message.tag state.journal = none
      rw [← h.upon, Mailing.upon, hnone]
      rfl
  | @refuses _ number message rest outer entry hentry hbusy =>
      refine (h.idle.note (fun _ _ => rfl) (fun _ => rfl) ?_
        fun _ _ => Event.noConfusion).attend number rest
      show encounter number message.tag state.journal = some true
      rw [← h.upon, Mailing.upon, hentry, ← hbusy]
      rfl
  | @starts _ number message rest outer entry hentry hidle =>
      exact h.idle.start hentry hidle rest
  | @returns _ number message rest outer => exact h.finish.attend number rest
  | closes => exact h.idle

end Books

theorem books_blank : blank.Books [] where
  upon number tag := by cases number <;> rfl
  issued := .nil
  home _ hdelivery := by cases hdelivery
  under tag := ⟨Bool.noConfusion, fun hunder => by cases hunder⟩
  distinct := .nil
  accounted := .nil

theorem Steps.books {deliveries : List Delivery}
    (hsteps : Steps (blank, []) (state, deliveries)) : state.Books deliveries :=
  hsteps.invariant Books books_blank fun h hstep => h.step hstep

/-! ### Callbacks -/

/-- What is registered under a tag, if anything is, is one callback. -/
def Holds (number : Nat) (tag : Tag) (callback : Callback) (state : Mailing) : Prop :=
  tag.number < state.nextTag ∧ ∀ entry,
    (state.mailbox number).find? tag = some entry → entry.callback = callback

namespace Holds

variable {callback : Callback} {after : List Delivery}

theorem change (h : state.Holds number tag callback) (place : Nat)
    {change : Mailbox → Mailbox}
    (hchange : ∀ mailbox entry, (change mailbox).find? tag = some entry →
      ∃ old, mailbox.find? tag = some old ∧ entry.callback = old.callback) :
    (state.change place change).Holds number tag callback := by
  refine ⟨h.1, fun entry hentry => ?_⟩
  rw [mailbox_change] at hentry
  split at hentry
  · obtain ⟨old, hold, hsame⟩ := hchange _ entry hentry
    exact hsame.trans (h.2 old hold)
  · exact h.2 entry hentry

theorem mark (h : state.Holds number tag callback) (place : Nat) (other : Tag)
    (executing : Bool) : (state.mark place other executing).Holds number tag callback := by
  refine h.change place fun mailbox entry hentry => ?_
  rw [Mailbox.find?_mark, Option.map_eq_some_iff] at hentry
  obtain ⟨old, hold, rfl⟩ := hentry
  refine ⟨old, hold, ?_⟩
  split <;> rfl

/-- New callbacks come under new tags. -/
theorem step (h : state.Holds number tag callback)
    (hstep : Step (state, deliveries) (later, after)) :
    later.Holds number tag callback := by
  cases hstep with
  | creates => exact ⟨h.1, fun entry => by rw [mailbox_create]; exact h.2 entry⟩
  | draws => exact ⟨Nat.lt_succ_of_lt h.1, h.2⟩
  | @registers _ _ place hsize other =>
      have hdrawn : state.draw.Holds number tag callback :=
        ⟨Nat.lt_succ_of_lt h.1, h.2⟩
      refine hdrawn.change place fun mailbox entry hentry => ?_
      have hne : ¬ (⟨state.nextTag⟩ : Tag) = tag :=
        fun hsame => Nat.lt_irrefl _ (hsame ▸ h.1)
      rw [Mailbox.find?_register, if_neg hne, Option.or_none] at hentry
      exact ⟨entry, hentry, rfl⟩
  | @posts _ _ place hsize other =>
      exact h.change place fun mailbox entry hentry => ⟨entry, hentry, rfl⟩
  | @cancels _ _ place other hfound =>
      refine h.change place fun mailbox entry hentry => ?_
      rw [Mailbox.find?_cancel] at hentry
      split at hentry
      · cases hentry
      · exact ⟨entry, hentry, rfl⟩
  | opens place hattended =>
      exact h.change place fun mailbox entry hentry => ⟨entry, hentry, rfl⟩
  | @starts _ place message rest outer entry hentry hidle =>
      exact h.mark place message.tag true
  | @returns _ place message rest outer => exact h.mark place message.tag false
  | _ => exact h

end Holds

/-- A tag keeps its callback. -/
theorem Steps.holds {first : Mailing} {callback : Callback}
    (hsteps : Steps (first, []) (state, deliveries))
    (hfirst : first.Holds number tag callback) : state.Holds number tag callback :=
  hsteps.invariant (fun state _ => state.Holds number tag callback) hfirst fun h hstep => h.step hstep

end Mailing

end Cadence
