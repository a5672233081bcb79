import Cadence.Proofs.Subscriptions

/-!
The announcements under way at a point of the journal.  A rate that is stored opens
one to those who observe at that moment.  The innermost announcement tells the next
of those it awaits, and closes when it awaits nobody or another rate is held.
-/

namespace Cadence

/-- How many announcements were opened before this one, its rate, and who is still to
be told. -/
structure Announcement where
  number : Nat
  rate : Rate
  waiting : List ObserverId
deriving DecidableEq

/-- The innermost announcement tells the next observer. -/
def tellNext : List Announcement → List Announcement
  | [] => []
  | announcement :: outer =>
      { announcement with waiting := announcement.waiting.tail } :: outer

/-- The announcements under way after some events, the innermost first. -/
def announcing : List Event → List Announcement
  | [] => []
  | .stored rate :: older =>
      ⟨older.countP Event.isStored, rate, subscribing older⟩ :: announcing older
  | .told _ _ :: older => tellNext (announcing older)
  | .announced _ :: older => (announcing older).tail
  | _ :: older => announcing older

/-- Which announcements have told an observer, from the first to the last. -/
def tellers (id : ObserverId) : List Event → List Nat
  | [] => []
  | .told other _ :: older =>
      if other = id then
        tellers id older ++ ((announcing older).take 1).map Announcement.number
      else tellers id older
  | _ :: older => tellers id older

/-- Events by which no announcement opens, goes on, or closes. -/
def Event.isOffside : Event → Bool
  | .stored _ => false
  | .told _ _ => false
  | .announced _ => false
  | _ => true

/-- Journals, by what their events mean to announcements. -/
theorem journal_induction {motive : List Event → Prop} (nil : motive [])
    (stored : ∀ rate older, motive older → motive (.stored rate :: older))
    (told : ∀ id rate older, motive older → motive (.told id rate :: older))
    (announced : ∀ rate older, motive older → motive (.announced rate :: older))
    (offside : ∀ (event : Event) older, event.isOffside = true → motive older →
      motive (event :: older)) (journal : List Event) : motive journal := by
  induction journal with
  | nil => exact nil
  | cons event older ih =>
      cases event with
      | stored rate => exact stored rate older ih
      | told id rate => exact told id rate older ih
      | announced rate => exact announced rate older ih
      | _ => exact offside _ older rfl ih

section Journal

variable {event : Event} {journal older : List Event} {id : ObserverId} {rate : Rate}
  {number : Nat} {rest waiting : List ObserverId} {outer : List Announcement}

theorem announcing_told (h : announcing older = ⟨number, rate, id :: rest⟩ :: outer) :
    announcing (.told id rate :: older) = ⟨number, rate, rest⟩ :: outer := by
  rw [announcing, h]
  rfl

theorem announcing_announced
    (h : announcing older = ⟨number, rate, waiting⟩ :: outer) :
    announcing (.announced rate :: older) = outer := by
  rw [announcing, h]
  rfl

theorem Event.isOffside_of_facet (hpace : event.facet ≠ .pace) :
    event.isOffside = true := by
  cases event with
  | stored => exact absurd rfl hpace
  | told => exact absurd rfl hpace
  | announced => exact absurd rfl hpace
  | _ => rfl

theorem Event.neither_of_isOffside (h : event.isOffside = true) :
    ¬ event.isStored = true ∧ ¬ event.isAnnounced = true := by
  cases event with
  | stored => cases h
  | announced => cases h
  | _ => exact ⟨Bool.false_ne_true, Bool.false_ne_true⟩

theorem announcing_of_isOffside (h : event.isOffside = true) :
    announcing (event :: older) = announcing older := by
  cases event with
  | stored => cases h
  | told => cases h
  | announced => cases h
  | _ => rfl

theorem tellers_of_isOffside (h : event.isOffside = true) :
    tellers id (event :: older) = tellers id older := by
  cases event with
  | told => cases h
  | _ => rfl

theorem map_number_tellNext (announcements : List Announcement) :
    (tellNext announcements).map Announcement.number =
      announcements.map Announcement.number := by
  cases announcements <;> rfl

theorem length_tellNext (announcements : List Announcement) :
    (tellNext announcements).length = announcements.length := by
  cases announcements <;> rfl

/-- Numbers are given in the order in which announcements open. -/
theorem number_lt (journal : List Event) : ∀ announcement ∈ announcing journal,
    announcement.number < journal.countP Event.isStored := by
  induction journal using journal_induction with
  | nil => exact fun _ hmem => absurd hmem List.not_mem_nil
  | stored rate older ih =>
      intro announcement hmem
      rw [List.countP_cons_of_pos rfl]
      rcases List.mem_cons.mp hmem with rfl | hmem
      · exact Nat.lt_succ_self _
      · exact Nat.lt_succ_of_lt (ih announcement hmem)
  | told id rate older ih =>
      intro announcement hmem
      have hnumber : announcement.number ∈ (announcing older).map Announcement.number :=
        map_number_tellNext (announcing older) ▸ List.mem_map_of_mem hmem
      obtain ⟨other, hother, hsame⟩ := List.mem_map.mp hnumber
      rw [List.countP_cons_of_neg Bool.false_ne_true, ← hsame]
      exact ih other hother
  | announced rate older ih =>
      intro announcement hmem
      rw [List.countP_cons_of_neg Bool.false_ne_true]
      exact ih announcement (List.mem_of_mem_tail hmem)
  | offside event older hoffside ih =>
      rw [announcing_of_isOffside hoffside]
      intro announcement hmem
      rw [List.countP_cons_of_neg (Event.neither_of_isOffside hoffside).1]
      exact ih announcement hmem

/-- Inner announcements were opened later than outer ones. -/
theorem sorted_numbers (journal : List Event) :
    ((announcing journal).map Announcement.number).Pairwise (· > ·) := by
  induction journal using journal_induction with
  | nil => exact .nil
  | stored rate older ih =>
      refine List.pairwise_cons.mpr ⟨fun number hnumber => ?_, ih⟩
      obtain ⟨announcement, hmem, rfl⟩ := List.mem_map.mp hnumber
      exact number_lt older announcement hmem
  | told id rate older ih =>
      rw [announcing, map_number_tellNext]
      exact ih
  | announced rate older ih =>
      rw [announcing, List.map_tail]
      exact ih.tail
  | offside event older hoffside ih =>
      rw [announcing_of_isOffside hoffside]
      exact ih

/-- If every name is used for one subscription, an announcement awaits nobody twice. -/
theorem nodup_waiting (hjoined : (chronicle Event.joins journal).Nodup) :
    ∀ announcement ∈ announcing journal, announcement.waiting.Nodup := by
  induction journal using journal_induction with
  | nil => exact fun _ hmem => absurd hmem List.not_mem_nil
  | stored rate older ih =>
      have holder := hjoined.of_append_left
      intro announcement hmem
      rcases List.mem_cons.mp hmem with rfl | hmem
      · exact holder.filter _
      · exact ih holder announcement hmem
  | told id rate older ih =>
      have holder := ih hjoined.of_append_left
      intro announcement hmem
      rw [announcing] at hmem
      generalize announcing older = announcements at holder hmem
      cases announcements with
      | nil => cases hmem
      | cons innermost outer =>
          rcases List.mem_cons.mp hmem with rfl | hmem
          · exact (holder innermost List.mem_cons_self).tail
          · exact holder announcement (List.mem_cons_of_mem _ hmem)
  | announced rate older ih =>
      intro announcement hmem
      exact ih hjoined.of_append_left announcement (List.mem_of_mem_tail hmem)
  | offside event older hoffside ih =>
      rw [announcing_of_isOffside hoffside]
      exact ih hjoined.of_append_left

end Journal

/-- Observers are told in the order in which the innermost announcement awaits them,
and it closes when it awaits nobody or another rate is held. -/
def Event.KeepsOrder (start : Rate) : Event → List Event → Prop
  | .told id rate, older => rate = held start older ∧
      ∃ number rest outer, announcing older = ⟨number, rate, id :: rest⟩ :: outer
  | .announced rate, older => ∃ number waiting outer,
      announcing older = ⟨number, rate, waiting⟩ :: outer ∧
        (waiting = [] ∨ held start older ≠ rate)
  | _, _ => True

theorem Event.keepsOrder_of_isOffside {event : Event} (h : event.isOffside = true)
    (start : Rate) (older : List Event) : event.KeepsOrder start older := by
  cases event with
  | told => cases h
  | announced => cases h
  | _ => trivial

/-- Of which rate an announcement is, and whom it awaits. -/
def Announcement.outline (announcement : Announcement) : Rate × List ObserverId :=
  (announcement.rate, announcement.waiting)

def Notice.outline (notice : Notice) : Rate × List ObserverId :=
  (notice.rate, notice.waiting.map Observer.id)

namespace Pacing

/-- The notices of a pace are the announcements of its journal. -/
structure Announced (start : Rate) (state : Pacing) (notices : List Notice) : Prop where
  stack : (announcing state.journal).map Announcement.outline =
    notices.map Notice.outline
  law : Lawful (Event.KeepsOrder start) state.journal

variable {start rate : Rate} {reportInterval : Nat} {state next : Pacing}
  {notices later : List Notice}

namespace Announced

/-- An event by which no announcement opens, goes on, or closes. -/
theorem aside (h : Announced start state notices) {event : Event}
    (hoffside : event.isOffside = true)
    (hjournal : next.journal = event :: state.journal) :
    Announced start next notices where
  stack := by
    rw [hjournal, announcing_of_isOffside hoffside]
    exact h.stack
  law := by
    rw [hjournal]
    exact ⟨Event.keepsOrder_of_isOffside hoffside start _, h.law⟩

/-- The innermost notice is the innermost announcement. -/
theorem innermost {waiting : List Observer}
    (h : Announced start state (⟨rate, waiting⟩ :: notices)) :
    ∃ number outer, announcing state.journal =
        ⟨number, rate, waiting.map Observer.id⟩ :: outer ∧
      outer.map Announcement.outline = notices.map Notice.outline := by
  have hstack := h.stack
  cases hopen : announcing state.journal with
  | nil =>
      rw [hopen] at hstack
      cases hstack
  | cons announcement outer =>
      rw [hopen, List.map_cons, List.map_cons, List.cons.injEq] at hstack
      obtain ⟨hsame, houter⟩ := hstack
      obtain ⟨hrate, hwaiting⟩ : announcement.rate = rate ∧
          announcement.waiting = waiting.map Observer.id := Prod.mk.inj hsame
      rw [← hrate, ← hwaiting]
      exact ⟨announcement.number, outer, rfl, houter⟩

theorem store (h : Announced start state notices) (hsubscribed : Subscribed state)
    (rate : Rate) :
    Announced start (state.store rate) (⟨rate, state.observers⟩ :: notices) where
  stack := by
    change (rate, subscribing state.journal) :: _ = (rate, _) :: _
    rw [hsubscribed.listed.ids, h.stack]
  law := ⟨trivial, h.law⟩

theorem tell {observer : Observer} {rest : List Observer}
    (h : Announced start state (⟨state.rate, observer :: rest⟩ :: notices))
    (hrate : state.rate = held start state.journal) :
    Announced start (state.tell observer) (⟨state.rate, rest⟩ :: notices) := by
  obtain ⟨number, outer, hopen, houter⟩ := h.innermost
  refine ⟨?_, ⟨hrate, number, _, outer, hopen⟩, h.law⟩
  change (announcing (.told observer.id state.rate :: state.journal)).map _ = _
  rw [announcing_told hopen, List.map_cons, houter]
  rfl

theorem announce {waiting : List Observer}
    (h : Announced start state (⟨rate, waiting⟩ :: notices))
    (hrate : state.rate = held start state.journal)
    (hover : waiting = [] ∨ state.rate ≠ rate) :
    Announced start (state.note (.announced rate)) notices := by
  obtain ⟨number, outer, hopen, houter⟩ := h.innermost
  refine ⟨?_, ⟨number, _, outer, hopen, ?_⟩, h.law⟩
  · change (announcing (.announced rate :: state.journal)).map _ = _
    rw [announcing_announced hopen]
    exact houter
  · rw [← hrate]
    exact hover.imp_left fun hnone => by rw [hnone]; rfl

theorem step (h : Announced start state notices) (hsubscribed : Subscribed state)
    (hrate : state.rate = held start state.journal)
    (hstep : Step (state, notices) (next, later)) : Announced start next later := by
  cases hstep with
  | aside hpace _ => exact h.aside (Event.isOffside_of_facet hpace) rfl
  | store => exact h.store hsubscribed _
  | tell => exact h.tell hrate
  | announce hover => exact h.announce hrate hover
  | subscribe => exact h.aside rfl rfl
  | unsubscribe => exact h.aside rfl rfl
  | create => exact h.aside rfl rfl
  | retire => exact h.aside rfl rfl
  | turns => exact h.aside rfl rfl
  | activates => exact h.aside rfl rfl

end Announced

theorem Steps.announced {after : Pacing × List Notice}
    (hsteps : Steps ((Rig.fresh rate reportInterval).pacing, []) after) :
    Announced rate.clamped after.1 after.2 := by
  induction hsteps with
  | refl => exact ⟨rfl, trivial⟩
  | tail hsteps hstep ih =>
      exact ih.step (Steps.subscribed hsteps) (Steps.capped hsteps).counted.rate hstep

end Pacing

section Lawful

variable {start : Rate} {journal : List Event}

/-- Every announcement that was opened is under way or has closed. -/
theorem countP_isStored (h : Lawful (Event.KeepsOrder start) journal) :
    journal.countP Event.isStored =
      journal.countP Event.isAnnounced + (announcing journal).length := by
  induction journal using journal_induction with
  | nil => rfl
  | stored rate older ih =>
      rw [List.countP_cons_of_pos rfl, List.countP_cons_of_neg Bool.false_ne_true, ih h.2]
      rfl
  | told id rate older ih =>
      rw [List.countP_cons_of_neg Bool.false_ne_true,
        List.countP_cons_of_neg Bool.false_ne_true, ih h.2, announcing, length_tellNext]
  | announced rate older ih =>
      obtain ⟨number, waiting, outer, hopen, _⟩ := h.1
      have hcount := ih h.2
      rw [hopen, List.length_cons] at hcount
      rw [List.countP_cons_of_neg Bool.false_ne_true, List.countP_cons_of_pos rfl,
        announcing_announced hopen, hcount]
      omega
  | offside event older hoffside ih =>
      obtain ⟨hstored, hannounced⟩ := Event.neither_of_isOffside hoffside
      rw [announcing_of_isOffside hoffside, List.countP_cons_of_neg hstored,
        List.countP_cons_of_neg hannounced]
      exact ih h.2

end Lawful

end Cadence
