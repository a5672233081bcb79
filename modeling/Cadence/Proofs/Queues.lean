import Mathlib.Data.List.Count
import Mathlib.Data.List.Nodup
import Cadence.Proofs.Journal

/-!
Queues whose items are taken in lots.  Everything that is in the queue is taken at
once, and the items of a lot have their turns one after the other while the queue
fills again and other lots are taken.
-/

namespace Cadence

/-- What happens to a queue. -/
inductive Deed (α β : Type)
  | made (item : α)
  /-- All items are taken, as a lot with a label. -/
  | taken (label : β) (items : List α)
  | emptied
  /-- An item of a lot with that label has its turn. -/
  | begun (label : β) (item : α)
  | other

/-- Items of one lot: the one that has its turn, and those that wait for it. -/
structure Lot (α β : Type) where
  label : β
  current : Option α
  waiting : List α

/-- What becomes of an item. -/
inductive Fate (α β : Type)
  | waits
  | taken (label : β) (items : List α)
  | dropped

namespace Deed

variable {α β : Type}

/-- The item that is made. -/
def makes : Deed α β → List α
  | .made item => [item]
  | _ => []

/-- The items that are taken. -/
def takes : Deed α β → List α
  | .taken _ items => items
  | _ => []

/-- The item that begins. -/
def begins : Deed α β → List α
  | .begun _ item => [item]
  | _ => []

/-- Deeds that neither take items nor begin one. -/
def isIdle : Deed α β → Bool
  | .taken _ _ => false
  | .begun _ _ => false
  | _ => true

/-- The items made since the queue was taken or emptied, in their order. -/
def unclaimed : List (Deed α β) → List α
  | [] => []
  | .made item :: older => unclaimed older ++ [item]
  | .taken _ _ :: _ => []
  | .emptied :: _ => []
  | .begun _ _ :: older => unclaimed older
  | .other :: older => unclaimed older

/-- An item that waits is taken or dropped with the queue. -/
def next : Fate α β → Deed α β → Fate α β
  | .waits, .taken label items => .taken label items
  | .waits, .emptied => .dropped
  | fate, _ => fate

/-- What has become of an item by what has happened since. -/
def fate : List (Deed α β) → Fate α β
  | [] => .waits
  | deed :: older => next (fate older) deed

/-- A lot is all that is unclaimed, and an item has its turn under the label of the
lot that it was taken with. -/
def Fair (deed : Deed α β) (older : List (Deed α β)) : Prop :=
  match deed with
  | .taken _ items => items = unclaimed older
  | .begun label item => ∃ items, .taken label items ∈ older ∧ item ∈ items
  | _ => True

section Unclaimed

variable {deed : Deed α β} {deeds newer older : List (Deed α β)} {item : α}

/-- What was taken, and then what is unclaimed, was made in this order. -/
theorem taken_append_unclaimed_sublist (hfair : Lawful Fair deeds) :
    (chronicle takes deeds ++ unclaimed deeds).Sublist (chronicle makes deeds) := by
  induction deeds with
  | nil => exact .slnil
  | cons deed older ih =>
      have hold := ih hfair.2
      cases deed with
      | made item =>
          have hmade := hold.append (.refl [item])
          simpa [takes, makes, unclaimed] using hmade
      | taken label items =>
          have hitems : items = unclaimed older := hfair.1
          simpa [takes, makes, unclaimed, hitems] using hold
      | emptied =>
          have htaken := (List.sublist_append_left _ _).trans hold
          simpa [takes, makes, unclaimed] using htaken
      | begun label item => simpa [takes, makes, unclaimed] using hold
      | other => simpa [takes, makes, unclaimed] using hold

theorem taken_subset_made (hfair : Lawful Fair deeds) :
    chronicle takes deeds ⊆ chronicle makes deeds :=
  ((List.sublist_append_left _ _).trans
    (taken_append_unclaimed_sublist hfair)).subset

theorem unclaimed_subset_made (hfair : Lawful Fair deeds) :
    unclaimed deeds ⊆ chronicle makes deeds :=
  ((List.sublist_append_right _ _).trans
    (taken_append_unclaimed_sublist hfair)).subset

theorem taken_append_unclaimed_nodup (hfair : Lawful Fair deeds)
    (hnodup : (chronicle makes deeds).Nodup) :
    (chronicle takes deeds ++ unclaimed deeds).Nodup :=
  hnodup.sublist (taken_append_unclaimed_sublist hfair)

/-- Only one lot has an item. -/
theorem taken_unique {label other : β} {items others : List α}
    (hnodup : (chronicle takes deeds).Nodup) (htaken : .taken label items ∈ deeds)
    (hother : .taken other others ∈ deeds) (hitem : item ∈ items)
    (hmem : item ∈ others) : label = other ∧ items = others := by
  obtain ⟨newer, older, rfl⟩ := List.append_of_mem htaken
  rw [chronicle_append, chronicle_cons, takes] at hnodup
  have hbefore := List.disjoint_of_nodup_append hnodup.of_append_left
  have hafter := List.disjoint_of_nodup_append hnodup
  rw [List.mem_append, List.mem_cons] at hother
  rcases hother with hnew | hsame | hold
  · have hagain : item ∈ chronicle takes newer :=
      mem_chronicle.mpr ⟨_, hnew, hmem⟩
    exact absurd hagain (hafter (List.mem_append_right _ hitem))
  · obtain ⟨rfl, rfl⟩ := Deed.taken.inj hsame
    exact ⟨rfl, rfl⟩
  · have hearlier : item ∈ chronicle takes older :=
      mem_chronicle.mpr ⟨_, hold, hmem⟩
    exact absurd hitem (hbefore hearlier)

/-- What is made after a lot was taken is not part of it. -/
theorem not_taken_of_later {label : β} {items : List α}
    (hfair : Lawful Fair deeds) (hnodup : (chronicle makes deeds).Nodup)
    (hsplit : deeds = newer ++ .taken label items :: older)
    (hlater : .made item ∈ newer) : item ∉ items := by
  intro hitem
  have hitems : items = unclaimed older := hfair.of_split hsplit
  rw [hitems] at hitem
  rw [hsplit] at hfair
  have hmade := unclaimed_subset_made hfair.of_append.2 hitem
  have hnew : item ∈ chronicle makes newer :=
    mem_chronicle.mpr ⟨_, hlater, List.mem_singleton_self item⟩
  rw [hsplit, chronicle_append, chronicle_cons, List.append_assoc] at hnodup
  exact List.disjoint_of_nodup_append hnodup hmade (List.mem_append_right _ hnew)

/-- What is unclaimed was made after the queue was emptied. -/
theorem made_of_unclaimed (hitem : item ∈ unclaimed (newer ++ .emptied :: older)) :
    .made item ∈ newer := by
  induction newer with
  | nil => cases hitem
  | cons deed newer ih =>
      cases deed with
      | made other =>
          rcases List.mem_append.mp hitem with hold | hnew
          · exact List.mem_cons_of_mem _ (ih hold)
          · rw [List.mem_singleton.mp hnew]
            exact List.mem_cons_self
      | taken label items => cases hitem
      | emptied => cases hitem
      | begun label other => exact List.mem_cons_of_mem _ (ih hitem)
      | other => exact List.mem_cons_of_mem _ (ih hitem)

/-- Only what empties the queue drops an item. -/
theorem emptied_of_dropped (h : fate deeds = .dropped) : .emptied ∈ deeds := by
  induction deeds with
  | nil => cases h
  | cons deed older ih =>
      rw [fate] at h
      cases hold : fate older with
      | waits =>
          rw [hold] at h
          cases deed with
          | emptied => exact List.mem_cons_self
          | _ => cases h
      | taken label items =>
          rw [hold] at h
          cases h
      | dropped => exact List.mem_cons_of_mem _ (ih hold)

end Unclaimed

section Fates

variable [DecidableEq α] {deed : Deed α β} {deeds newer older : List (Deed α β)}
  {item : α}

/-- What a fate means for an item. -/
def Befalls (deeds : List (Deed α β)) (item : α) : Fate α β → Prop
  | .waits => item ∈ unclaimed deeds ∧ item ∉ chronicle takes deeds
  | .taken label items =>
      .taken label items ∈ deeds ∧ item ∈ items ∧ item ∉ unclaimed deeds ∧
        (chronicle takes deeds).count item = 1
  | .dropped => item ∉ unclaimed deeds ∧ item ∉ chronicle takes deeds

/-- The next thing that happens to an item is its fate. -/
theorem Befalls.next {fate : Fate α β} (h : Befalls deeds item fate)
    (hfair : Fair deed deeds) (hnodup : (unclaimed deeds).Nodup)
    (hother : deed ≠ .made item) : Befalls (deed :: deeds) item (next fate deed) := by
  cases deed with
  | made new =>
      have hne : item ≠ new := fun heq => hother (heq ▸ rfl)
      cases fate <;>
        simpa [Deed.next, Befalls, unclaimed, takes, hne] using h
  | begun label begun =>
      cases fate <;> simpa [Deed.next, Befalls, unclaimed, takes] using h
  | other =>
      cases fate <;> simpa [Deed.next, Befalls, unclaimed, takes] using h
  | emptied =>
      cases fate with
      | waits => simpa [Deed.next, Befalls, unclaimed, takes] using h.2
      | taken label items =>
          simpa [Deed.next, Befalls, unclaimed, takes] using
            ⟨h.1, h.2.1, h.2.2.2⟩
      | dropped => simpa [Deed.next, Befalls, unclaimed, takes] using h.2
  | taken label items =>
      obtain rfl : items = unclaimed deeds := hfair
      cases fate with
      | waits =>
          have hcount := List.count_eq_one_of_mem hnodup h.1
          have hnone := List.count_eq_zero_of_not_mem h.2
          refine ⟨List.mem_cons_self, h.1, List.not_mem_nil, ?_⟩
          rw [chronicle_cons, List.count_append, hnone, takes, hcount]
      | taken first others =>
          obtain ⟨htaken, hitem, hnot, hcount⟩ := h
          have hnone := List.count_eq_zero_of_not_mem hnot
          refine ⟨List.mem_cons_of_mem _ htaken, hitem, List.not_mem_nil, ?_⟩
          rw [chronicle_cons, List.count_append, hcount, takes, hnone]
      | dropped =>
          refine ⟨List.not_mem_nil, ?_⟩
          rw [chronicle_cons, List.mem_append, not_or]
          exact ⟨h.2, h.1⟩

/-- Each item that was made has its fate, by what happened since. -/
theorem befalls_fate (hfair : Lawful Fair deeds)
    (hnodup : (chronicle makes deeds).Nodup)
    (hsplit : deeds = newer ++ .made item :: older) :
    Befalls deeds item (fate newer) := by
  subst hsplit
  induction newer with
  | nil =>
      have hfresh : item ∉ chronicle makes older := by
        rw [List.nil_append, chronicle_cons, makes] at hnodup
        exact fun hmade => List.disjoint_of_nodup_append hnodup hmade
          (List.mem_singleton_self item)
      have hnot : item ∉ chronicle takes older :=
        fun htaken => hfresh (taken_subset_made hfair.2 htaken)
      exact ⟨by simp [unclaimed], by simpa [takes] using hnot⟩
  | cons deed newer ih =>
      rw [List.cons_append, chronicle_cons] at hnodup
      have hbefore := hnodup.of_append_left
      have hunclaimed := (taken_append_unclaimed_nodup hfair.2 hbefore).of_append_right
      refine (ih hfair.2 hbefore).next hfair.1 hunclaimed ?_
      rintro rfl
      refine List.disjoint_of_nodup_append hnodup ?_ (List.mem_singleton_self item)
      exact mem_chronicle.mpr ⟨.made item, by simp, by simp [makes]⟩

/-- What is unclaimed when the queue is emptied is dropped for good. -/
theorem befalls_dropped (hfair : Lawful Fair deeds)
    (hnodup : (chronicle makes deeds).Nodup)
    (hsplit : deeds = newer ++ .emptied :: older) (hitem : item ∈ unclaimed older) :
    Befalls deeds item .dropped := by
  subst hsplit
  induction newer with
  | nil =>
      have hbefore : (chronicle makes older).Nodup := by
        simpa [makes] using hnodup
      have hline := taken_append_unclaimed_nodup hfair.2 hbefore
      have hwaits : Befalls older item .waits :=
        ⟨hitem, fun htaken => List.disjoint_of_nodup_append hline htaken hitem⟩
      exact hwaits.next hfair.1 hline.of_append_right nofun
  | cons deed newer ih =>
      rw [List.cons_append, chronicle_cons] at hnodup
      have hbefore := hnodup.of_append_left
      have hunclaimed := (taken_append_unclaimed_nodup hfair.2 hbefore).of_append_right
      refine (ih hfair.2 hbefore).next hfair.1 hunclaimed ?_
      rintro rfl
      refine List.disjoint_of_nodup_append hnodup ?_ (List.mem_singleton_self item)
      have hmade := unclaimed_subset_made hfair.2.of_append.2 hitem
      rw [chronicle_append, chronicle_cons]
      exact List.mem_append_left _ (List.mem_append_left _ hmade)

/-- Those of some items that have begun, in the order of their beginnings. -/
def begunAmong (deeds : List (Deed α β)) (items : List α) : List α :=
  (chronicle begins deeds).filter (· ∈ items)

theorem begunAmong_cons (deed : Deed α β) (deeds : List (Deed α β)) (items : List α) :
    begunAmong (deed :: deeds) items =
      begunAmong deeds items ++ deed.begins.filter (· ∈ items) := by
  rw [begunAmong, chronicle_cons, List.filter_append]
  rfl

end Fates

end Deed

open Deed

section Lines

variable {α β : Type} [DecidableEq α]

/-- A lot is what is left of the items that were taken under its label. -/
structure Lot.Serves (deeds : List (Deed α β)) (label : β) (items : List α)
    (lot : Lot α β) : Prop where
  label : lot.label = label
  split : items = begunAmong deeds items ++ lot.waiting
  /-- The item that has its turn began last. -/
  current : ∀ item ∈ lot.current, ∃ before, begunAmong deeds items = before ++ [item]

/-- A queue and the lots of it that are under way, after some deeds. -/
structure Line (deeds : List (Deed α β)) (queue : List α) (lots : List (Lot α β)) :
    Prop where
  queue : queue = unclaimed deeds
  fair : Lawful Fair deeds
  nodup : (chronicle makes deeds).Nodup
  /-- What was taken has begun or waits. -/
  count : ∀ item, (chronicle begins deeds).count item +
    (lots.flatMap Lot.waiting).count item = (chronicle takes deeds).count item
  placed : ∀ lot ∈ lots, ∃ items, .taken lot.label items ∈ deeds ∧
    lot.Serves deeds lot.label items
  turns : ∀ label items, .taken label items ∈ deeds →
    begunAmong deeds items = items ∨ ∃ lot ∈ lots, lot.Serves deeds label items

namespace Line

variable {deeds : List (Deed α β)} {queue : List α} {lots : List (Lot α β)}
  {item : α}

theorem nil : Line ([] : List (Deed α β)) [] [] where
  queue := rfl
  fair := trivial
  nodup := .nil
  count := fun _ => rfl
  placed := fun _ hlot => absurd hlot List.not_mem_nil
  turns := fun _ _ htaken => absurd htaken List.not_mem_nil

section Facts

variable (h : Line deeds queue lots)

include h

theorem taken_nodup : (chronicle takes deeds).Nodup :=
  (taken_append_unclaimed_nodup h.fair h.nodup).of_append_left

theorem count_taken_le (item : α) : (chronicle takes deeds).count item ≤ 1 :=
  List.nodup_iff_count_le_one.mp h.taken_nodup item

/-- No item has its turn twice. -/
theorem begun_nodup : (chronicle begins deeds).Nodup := by
  rw [List.nodup_iff_count_le_one]
  intro item
  have hcount := h.count item
  have hle := h.count_taken_le item
  omega

theorem taken_of_begun (hbegun : item ∈ chronicle begins deeds) :
    item ∈ chronicle takes deeds := by
  have hcount := h.count item
  have hpos := List.count_pos_iff.mpr hbegun
  exact List.count_pos_iff.mp (by omega)

theorem taken_of_waiting (hwaiting : item ∈ lots.flatMap Lot.waiting) :
    item ∈ chronicle takes deeds := by
  have hcount := h.count item
  have hpos := List.count_pos_iff.mpr hwaiting
  exact List.count_pos_iff.mp (by omega)

theorem not_taken_of_queued (hqueued : item ∈ queue) :
    item ∉ chronicle takes deeds := by
  rw [h.queue] at hqueued
  have hnodup := taken_append_unclaimed_nodup h.fair h.nodup
  exact fun htaken => List.disjoint_of_nodup_append hnodup htaken hqueued

theorem not_begun_of_waiting (hwaiting : item ∈ lots.flatMap Lot.waiting) :
    item ∉ chronicle begins deeds := by
  intro hbegun
  have hcount := h.count item
  have hle := h.count_taken_le item
  have hfirst := List.count_pos_iff.mpr hwaiting
  have hsecond := List.count_pos_iff.mpr hbegun
  omega

theorem waiting_nodup : (lots.flatMap Lot.waiting).Nodup := by
  rw [List.nodup_iff_count_le_one]
  intro item
  have hcount := h.count item
  have hle := h.count_taken_le item
  omega

/-- An item has its turn under the label that it was taken with. -/
theorem label_eq {label told : β} {items : List α}
    (htaken : .taken label items ∈ deeds) (hitem : item ∈ items)
    (hbegun : .begun told item ∈ deeds) : told = label := by
  obtain ⟨newer, older, hsplit, others, hother, hmem⟩ := h.fair.of_mem hbegun
  have hearlier : .taken told others ∈ deeds := by
    rw [hsplit]
    exact List.mem_append_right _ (List.mem_cons_of_mem _ hother)
  exact (taken_unique h.taken_nodup hearlier htaken hmem hitem).1

/-- What is taken has begun, or waits in a lot with its label. -/
theorem begun_or_waiting {label : β} {items : List α}
    (htaken : .taken label items ∈ deeds) (hitem : item ∈ items) :
    item ∈ chronicle begins deeds ∨
      ∃ lot ∈ lots, lot.label = label ∧ item ∈ lot.waiting := by
  rcases h.turns label items htaken with hall | ⟨lot, hlot, hserves⟩
  · rw [← hall] at hitem
    exact Or.inl (List.mem_filter.mp hitem).1
  · rw [hserves.split, List.mem_append] at hitem
    rcases hitem with hbegun | hwaiting
    · exact Or.inl (List.mem_filter.mp hbegun).1
    · exact Or.inr ⟨lot, hlot, hserves.label, hwaiting⟩

end Facts

/-- What was queued has begun if it has been taken and the lots under way are those
from before. -/
theorem begunAmong_of_taken {newer : List (Deed α β)} {later : List α} {label : β}
    (h : Line deeds queue lots) (hlater : Line newer later lots)
    (htaken : .taken label queue ∈ newer) : begunAmong newer queue = queue := by
  rcases hlater.turns label queue htaken with hall | ⟨lot, hlot, hserves⟩
  · exact hall
  · -- A lot that was under way before has none of what was queued.
    have hnone : lot.waiting = [] := by
      rw [List.eq_nil_iff_forall_not_mem]
      intro item hwaiting
      have hqueued : item ∈ queue := by
        rw [hserves.split]
        exact List.mem_append_right _ hwaiting
      apply h.not_taken_of_queued hqueued
      exact h.taken_of_waiting (List.mem_flatMap.mpr ⟨lot, hlot, hwaiting⟩)
    have hsplit := hserves.split
    rw [hnone, List.append_nil] at hsplit
    exact hsplit.symm

/-! ### What deeds do to a line -/

section Deeds

variable {outer : List (Lot α β)} {rest : List α} {label : β}

/-- Nothing is taken and nothing begins. -/
theorem idle {deed : Deed α β} {later : List α} (h : Line deeds queue lots)
    (hidle : deed.isIdle = true) (hqueue : later = unclaimed (deed :: deeds))
    (hnodup : (chronicle makes (deed :: deeds)).Nodup) :
    Line (deed :: deeds) later lots := by
  have hbegins : deed.begins = [] := by
    cases deed with
    | begun => cases hidle
    | _ => rfl
  have htakes : deed.takes = [] := by
    cases deed with
    | taken => cases hidle
    | _ => rfl
  have hfair : Fair deed deeds := by
    cases deed with
    | taken => cases hidle
    | begun => cases hidle
    | _ => trivial
  have hold {label : β} {items : List α} :
      .taken label items ∈ deed :: deeds ↔ .taken label items ∈ deeds := by
    rw [List.mem_cons, or_iff_right]
    rintro rfl
    cases hidle
  have hbegun (items : List α) : begunAmong (deed :: deeds) items = begunAmong deeds items := by
    rw [begunAmong_cons, hbegins, List.filter_nil, List.append_nil]
  have hserves {lot : Lot α β} {label : β} {items : List α} :
      lot.Serves (deed :: deeds) label items ↔ lot.Serves deeds label items := by
    constructor
    · exact fun hlot => ⟨hlot.label, hbegun items ▸ hlot.split, hbegun items ▸ hlot.current⟩
    · exact fun hlot =>
        ⟨hlot.label, (hbegun items).symm ▸ hlot.split, (hbegun items).symm ▸ hlot.current⟩
  constructor
  · exact hqueue
  · exact ⟨hfair, h.fair⟩
  · exact hnodup
  · simpa [hbegins, htakes] using h.count
  · simpa only [hold, hserves] using h.placed
  · simpa only [hold, hserves, hbegun] using h.turns

theorem other (h : Line deeds queue lots) : Line (.other :: deeds) queue lots :=
  h.idle rfl h.queue (by simpa [makes] using h.nodup)

theorem make (h : Line deeds queue lots) (hfresh : item ∉ chronicle makes deeds) :
    Line (.made item :: deeds) (queue ++ [item]) lots := by
  refine h.idle rfl (congrArg (· ++ [item]) h.queue) ?_
  rw [chronicle_cons, makes, List.nodup_append]
  refine ⟨h.nodup, List.nodup_singleton item, ?_⟩
  rintro old hold _ hnew rfl
  rw [List.mem_singleton] at hnew
  exact hfresh (hnew ▸ hold)

theorem empty (h : Line deeds queue lots) : Line (.emptied :: deeds) [] lots :=
  h.idle rfl rfl (by simpa [makes] using h.nodup)

/-- What is queued has not begun. -/
theorem begunAmong_queue (h : Line deeds queue lots) : begunAmong deeds queue = [] := by
  rw [begunAmong, List.filter_eq_nil_iff]
  intro item hbegun hqueued
  exact h.not_taken_of_queued (of_decide_eq_true hqueued) (h.taken_of_begun hbegun)

theorem take (h : Line deeds queue lots) (label : β) :
    Line (.taken label queue :: deeds) [] (⟨label, none, queue⟩ :: lots) := by
  have hbegun (items : List α) :
      begunAmong (.taken label queue :: deeds) items = begunAmong deeds items := by
    simp [begunAmong_cons, begins]
  have hserves {lot : Lot α β} {told : β} {items : List α}
      (hlot : lot.Serves deeds told items) :
      lot.Serves (.taken label queue :: deeds) told items :=
    ⟨hlot.label, (hbegun items).symm ▸ hlot.split,
      (hbegun items).symm ▸ hlot.current⟩
  have hnew : Lot.Serves (.taken label queue :: deeds) label queue
      ⟨label, none, queue⟩ := by
    refine ⟨rfl, ?_, fun item hitem => by cases hitem⟩
    rw [hbegun, h.begunAmong_queue, List.nil_append]
  constructor
  · rfl
  · exact ⟨h.queue, h.fair⟩
  · simpa [makes] using h.nodup
  · intro item
    have hcount := h.count item
    simp only [chronicle_cons, begins, takes, List.append_nil, List.flatMap_cons,
      List.count_append]
    omega
  · intro lot hlot
    rcases List.mem_cons.mp hlot with rfl | hold
    · exact ⟨queue, List.mem_cons_self, hnew⟩
    · obtain ⟨items, htaken, hlot⟩ := h.placed lot hold
      exact ⟨items, List.mem_cons_of_mem _ htaken, hserves hlot⟩
  · intro told items htaken
    rcases List.mem_cons.mp htaken with hsame | hold
    · obtain ⟨rfl, rfl⟩ := Deed.taken.inj hsame
      exact Or.inr ⟨_, List.mem_cons_self, hnew⟩
    · rw [hbegun]
      rcases h.turns told items hold with hall | ⟨lot, hlot, hlots⟩
      · exact Or.inl hall
      · exact Or.inr ⟨lot, List.mem_cons_of_mem _ hlot, hserves hlots⟩

/-- The first item that waits has its turn. -/
theorem begin (h : Line deeds queue (⟨label, none, item :: rest⟩ :: outer)) :
    Line (.begun label item :: deeds) queue
      (⟨label, some item, rest⟩ :: outer) := by
  have hwaiting : item ∈ (⟨label, none, item :: rest⟩ :: outer :
      List (Lot α β)).flatMap Lot.waiting := by simp
  have hfresh := h.not_begun_of_waiting hwaiting
  have hnodup := h.waiting_nodup
  rw [List.flatMap_cons, List.cons_append, List.nodup_cons, List.mem_append,
    not_or] at hnodup
  obtain ⟨mine, htaken, hmine⟩ := h.placed _ List.mem_cons_self
  have hitem : item ∈ mine := by
    rw [hmine.split]
    exact List.mem_append_right _ List.mem_cons_self
  -- No other items are concerned: lots have no item in common.
  have hothers {told : β} {items : List α} (hother : .taken told items ∈ deeds)
      (hne : items ≠ mine) :
      begunAmong (.begun label item :: deeds) items = begunAmong deeds items := by
    have hnot : item ∉ items := fun hmem =>
      hne (taken_unique h.taken_nodup hother htaken hmem hitem).2
    rw [begunAmong_cons, begins]
    simp [hnot]
  have hbegun : begunAmong (.begun label item :: deeds) mine =
      begunAmong deeds mine ++ [item] := by
    rw [begunAmong_cons, begins]
    simp [hitem]
  have hsplit : mine = begunAmong deeds mine ++ [item] ++ rest := by
    rw [List.append_assoc]
    exact hmine.split
  have hnew : Lot.Serves (.begun label item :: deeds) label mine
      ⟨label, some item, rest⟩ := by
    refine ⟨rfl, by rw [hbegun]; exact hsplit, fun other hother => ?_⟩
    obtain rfl := Option.some.inj hother
    exact ⟨_, hbegun⟩
  have hserves {lot : Lot α β} {told : β} {items : List α} (hlot : lot ∈ outer)
      (hother : .taken told items ∈ deeds) (hserves : lot.Serves deeds told items) :
      lot.Serves (.begun label item :: deeds) told items := by
    by_cases hsame : items = mine
    · -- Else this item waited twice.
      have hboth : lot.waiting = item :: rest := by
        have heq := hserves.split.symm.trans (hsame.trans hmine.split)
        rw [hsame] at heq
        exact List.append_cancel_left heq
      refine absurd (List.mem_flatMap.mpr ⟨lot, hlot, ?_⟩) hnodup.1.2
      rw [hboth]
      exact List.mem_cons_self
    · have hold := hothers hother hsame
      exact ⟨hserves.label, hold.symm ▸ hserves.split, hold.symm ▸ hserves.current⟩
  constructor
  · exact h.queue
  · exact ⟨⟨mine, htaken, hitem⟩, h.fair⟩
  · simpa [makes] using h.nodup
  · intro other
    have hcount := h.count other
    simp only [chronicle_cons, begins, takes, List.append_nil, List.flatMap_cons,
      List.count_append, List.count_cons, List.count_nil] at hcount ⊢
    omega
  · intro lot hlot
    rcases List.mem_cons.mp hlot with rfl | hold
    · exact ⟨mine, List.mem_cons_of_mem _ htaken, hnew⟩
    · obtain ⟨items, hother, hlots⟩ := h.placed lot (List.mem_cons_of_mem _ hold)
      exact ⟨items, List.mem_cons_of_mem _ hother, hserves hold hother hlots⟩
  · intro told items hother
    have hother : .taken told items ∈ deeds := by simpa using hother
    by_cases hsame : items = mine
    · subst hsame
      have hlabel := (taken_unique h.taken_nodup htaken hother hitem hitem).1
      exact Or.inr ⟨_, List.mem_cons_self, hlabel ▸ hnew⟩
    · rcases h.turns told items hother with hall | ⟨lot, hlot, hlots⟩
      · exact Or.inl ((hothers hother hsame).trans hall)
      · rcases List.mem_cons.mp hlot with rfl | hold
        · -- The innermost lot is of no other items.
          have hmem : item ∈ items := by
            rw [hlots.split]
            exact List.mem_append_right _ List.mem_cons_self
          exact absurd (taken_unique h.taken_nodup hother htaken hmem hitem).2 hsame
        · exact Or.inr ⟨lot, List.mem_cons_of_mem _ hold, hserves hold hother hlots⟩

/-- A turn is over. -/
theorem finish {current : Option α}
    (h : Line deeds queue (⟨label, current, rest⟩ :: outer)) :
    Line deeds queue (⟨label, none, rest⟩ :: outer) := by
  have hserves {told : β} {items : List α}
      (hlot : Lot.Serves deeds told items ⟨label, current, rest⟩) :
      Lot.Serves deeds told items ⟨label, none, rest⟩ :=
    ⟨hlot.label, hlot.split, fun item hitem => by cases hitem⟩
  constructor
  · exact h.queue
  · exact h.fair
  · exact h.nodup
  · exact h.count
  · intro lot hlot
    rcases List.mem_cons.mp hlot with rfl | hold
    · obtain ⟨items, htaken, hlots⟩ := h.placed _ List.mem_cons_self
      exact ⟨items, htaken, hserves hlots⟩
    · exact h.placed lot (List.mem_cons_of_mem _ hold)
  · intro told items htaken
    rcases h.turns told items htaken with hall | ⟨lot, hlot, hlots⟩
    · exact Or.inl hall
    · rcases List.mem_cons.mp hlot with rfl | hold
      · exact Or.inr ⟨_, List.mem_cons_self, hserves hlots⟩
      · exact Or.inr ⟨lot, List.mem_cons_of_mem _ hold, hlots⟩

/-- A lot is left when all its items have had their turns. -/
theorem close {current : Option α}
    (h : Line deeds queue (⟨label, current, []⟩ :: outer)) :
    Line deeds queue outer := by
  constructor
  · exact h.queue
  · exact h.fair
  · exact h.nodup
  · exact h.count
  · exact fun lot hlot => h.placed lot (List.mem_cons_of_mem _ hlot)
  · intro told items htaken
    rcases h.turns told items htaken with hall | ⟨lot, hlot, hlots⟩
    · exact Or.inl hall
    · rcases List.mem_cons.mp hlot with rfl | hold
      · have hsplit := hlots.split
        rw [List.append_nil] at hsplit
        exact Or.inl hsplit.symm
      · exact Or.inr ⟨lot, hold, hlots⟩

end Deeds

end Line

end Lines

end Cadence
