import Cadence.Proofs.OngoingAnnouncements

/-!
After the end of a subscription.  An announcement that is under way then still tells
the observer if it awaits it and is not overtaken by another rate; no announcement
that opens later does.
-/

namespace Cadence

/-- The announcements under way that are still to tell an observer. -/
def due (id : ObserverId) (journal : List Event) : List Announcement :=
  (announcing journal).filter fun announcement => id ∈ announcement.waiting

/-- Whether an observer is told something. -/
def Event.tellsTo (id : ObserverId) : Event → Bool
  | .told other _ => other = id
  | _ => false

/-- An announcement that awaits an observer closes since another rate is held. -/
def Overtaken (start : Rate) (id : ObserverId) (number : Nat) (newer older : List Event) :
    Prop :=
  ∃ later rate before, newer = later ++ .announced rate :: before ∧
    held start (before ++ older) ≠ rate ∧ ∃ waiting outer,
      announcing (before ++ older) = ⟨number, rate, waiting⟩ :: outer ∧ id ∈ waiting

section Journal

variable {start : Rate} {id other : ObserverId} {number : Nat} {rate : Rate}
  {rest waiting : List ObserverId} {outer : List Announcement}
  {event : Event} {newer older journal : List Event}

theorem due_of_isOffside (h : event.isOffside = true) :
    due id (event :: older) = due id older := by
  rw [due, announcing_of_isOffside h, due]

/-- Announcements do not await those who do not subscribe when they open. -/
theorem due_stored (hended : id ∈ chronicle Event.parts older) :
    due id (.stored rate :: older) = due id older := by
  have hnone : id ∉ subscribing older := by
    intro hmem
    exact of_decide_eq_true (List.mem_filter.mp hmem).2 hended
  rw [due, announcing, List.filter_cons_of_neg (by simpa using hnone), due]

theorem due_innermost (hopen : announcing older = ⟨number, rate, waiting⟩ :: outer) :
    due id older = if id ∈ waiting then
      ⟨number, rate, waiting⟩ ::
        outer.filter fun announcement => id ∈ announcement.waiting
    else outer.filter fun announcement => id ∈ announcement.waiting := by
  rw [due, hopen, List.filter_cons]
  simp only [decide_eq_true_eq]

/-- Whoever is told is not awaited any more by the announcement that tells it. -/
theorem due_told_self (hjoined : (chronicle Event.joins older).Nodup)
    (hopen : announcing older = ⟨number, rate, id :: rest⟩ :: outer) :
    (due id older).map Announcement.number =
      number :: (due id (.told id rate :: older)).map Announcement.number := by
  have hnodup : (id :: rest).Nodup :=
    nodup_waiting hjoined ⟨number, rate, id :: rest⟩ (hopen ▸ List.mem_cons_self)
  rw [due_innermost hopen, due_innermost (announcing_told hopen),
    if_pos List.mem_cons_self, if_neg (List.nodup_cons.mp hnodup).1]
  rfl

theorem due_told_of_ne (hother : other ≠ id)
    (hopen : announcing older = ⟨number, rate, other :: rest⟩ :: outer) :
    (due id (.told other rate :: older)).map Announcement.number =
      (due id older).map Announcement.number := by
  rw [due_innermost hopen, due_innermost (announcing_told hopen)]
  by_cases hmem : id ∈ rest
  · rw [if_pos hmem, if_pos (List.mem_cons_of_mem _ hmem)]
    rfl
  · rw [if_neg hmem, if_neg (List.not_mem_cons_of_ne_of_not_mem hother.symm hmem)]

theorem due_announced (id : ObserverId) (rate : Rate) (older : List Event) :
    List.Sublist (due id (.announced rate :: older)) (due id older) := by
  rw [due, announcing, due]
  exact (List.tail_sublist _).filter _

/-- Each time an observer is told, an announcement tells it. -/
theorem length_tellers (id : ObserverId) (h : Lawful (Event.KeepsOrder start) journal) :
    (tellers id journal).length = journal.countP (Event.tellsTo id) := by
  induction journal using journal_induction with
  | nil => rfl
  | told other rate older ih =>
      obtain ⟨_, number, rest, outer, hopen⟩ := h.1
      by_cases hother : other = id
      · have htold : (Event.told other rate).tellsTo id = true := decide_eq_true hother
        rw [tellers, if_pos hother, hopen, List.countP_cons_of_pos htold, ← ih h.2]
        exact List.length_append
      · have hnot : ¬ (Event.told other rate).tellsTo id = true :=
          fun htold => hother (of_decide_eq_true htold)
        rw [tellers, if_neg hother, List.countP_cons_of_neg hnot, ih h.2]
  | stored rate older ih =>
      exact (ih h.2).trans (List.countP_cons_of_neg Bool.false_ne_true).symm
  | announced rate older ih =>
      exact (ih h.2).trans (List.countP_cons_of_neg Bool.false_ne_true).symm
  | offside event older hoffside ih =>
      have hnot : ¬ event.tellsTo id = true := by
        cases event with
        | told => cases hoffside
        | _ => exact Bool.false_ne_true
      rw [tellers_of_isOffside hoffside, List.countP_cons_of_neg hnot, ih h.2]

theorem Overtaken.cons (h : Overtaken start id number newer older) (event : Event) :
    Overtaken start id number (event :: newer) older := by
  obtain ⟨later, rate, before, rfl, hover⟩ := h
  exact ⟨event :: later, rate, before, rfl, hover⟩

/-- What is known of the announcements that tell an observer after the end of its
subscription: which of them do, and what becomes of the others. -/
structure LateTellings (start : Rate) (id : ObserverId) (newer older : List Event)
    (late : List Nat) : Prop where
  told : tellers id (newer ++ older) = tellers id older ++ late
  /-- Those that were due tell the observer at most once each, the innermost first. -/
  rest : (late ++ (due id (newer ++ older)).map Announcement.number).Sublist
    ((due id older).map Announcement.number)
  /-- One that was due has told the observer, is still due, or has been overtaken. -/
  settled : ∀ number ∈ (due id older).map Announcement.number,
    number ∈ late ∨ number ∈ (due id (newer ++ older)).map Announcement.number ∨
      Overtaken start id number newer older

namespace LateTellings

variable {late : List Nat}

theorem refl : LateTellings start id [] older [] where
  told := (List.append_nil _).symm
  rest := List.Sublist.refl _
  settled _ hmem := .inr (.inl hmem)

/-- An event by which the observer is not told and nothing that is due is lost. -/
theorem aside (h : LateTellings start id newer older late)
    (htold : tellers id (event :: (newer ++ older)) = tellers id (newer ++ older))
    (hdue : (due id (event :: (newer ++ older))).map Announcement.number =
      (due id (newer ++ older)).map Announcement.number) :
    LateTellings start id (event :: newer) older late where
  told := htold.trans h.told
  rest := by
    rw [List.cons_append, hdue]
    exact h.rest
  settled number hmem := by
    rw [List.cons_append, hdue]
    exact (h.settled number hmem).imp_right (Or.imp_right (·.cons event))

/-- The observer is told by an announcement that was due. -/
theorem tell (h : LateTellings start id newer older late)
    (hjoined : (chronicle Event.joins (newer ++ older)).Nodup)
    (hopen : announcing (newer ++ older) = ⟨number, rate, id :: rest⟩ :: outer) :
    LateTellings start id (.told id rate :: newer) older (late ++ [number]) := by
  have hdue := due_told_self hjoined hopen
  refine ⟨?_, ?_, ?_⟩
  · rw [List.cons_append, tellers, if_pos rfl, h.told, hopen, List.append_assoc]
    rfl
  · have hrest := h.rest
    rw [hdue] at hrest
    rw [List.cons_append, List.append_assoc]
    exact hrest
  · intro other hmem
    have hsettled := h.settled other hmem
    rw [hdue, List.mem_cons] at hsettled
    rw [List.mem_append, List.mem_singleton]
    rcases hsettled with hlate | (rfl | hstill) | hover
    · exact .inl (.inl hlate)
    · exact .inl (.inr rfl)
    · exact .inr (.inl hstill)
    · exact .inr (.inr (hover.cons _))

/-- The innermost announcement closes. -/
theorem close (h : LateTellings start id newer older late)
    (hopen : announcing (newer ++ older) = ⟨number, rate, waiting⟩ :: outer)
    (hover : waiting = [] ∨ held start (newer ++ older) ≠ rate) :
    LateTellings start id (.announced rate :: newer) older late where
  told := h.told
  rest := by
    have hless := (due_announced id rate (newer ++ older)).map Announcement.number
    exact (hless.append_left late).trans h.rest
  settled other hmem := by
    have hdue : due id (.announced rate :: (newer ++ older)) =
        outer.filter fun announcement => id ∈ announcement.waiting := by
      rw [due, announcing_announced hopen]
    rcases h.settled other hmem with hlate | hstill | hbefore
    · exact .inl hlate
    · rw [due_innermost hopen] at hstill
      by_cases hwaits : id ∈ waiting
      · rw [if_pos hwaits, List.map_cons, List.mem_cons] at hstill
        rcases hstill with rfl | hstill
        · have hother := hover.resolve_left fun hnone => by
            rw [hnone] at hwaits
            cases hwaits
          exact .inr (.inr ⟨[], rate, newer, rfl, hother, waiting, outer, hopen, hwaits⟩)
        · exact .inr (.inl (hdue ▸ hstill))
      · rw [if_neg hwaits] at hstill
        exact .inr (.inl (hdue ▸ hstill))
    · exact .inr (.inr (hbefore.cons _))

end LateTellings

/-- Only announcements that are under way when a subscription ends tell its observer
something afterwards. -/
theorem exists_late (hlaw : Lawful (Event.KeepsOrder start) (newer ++ older))
    (hjoined : (chronicle Event.joins (newer ++ older)).Nodup)
    (hended : id ∈ chronicle Event.parts older) :
    ∃ late, LateTellings start id newer older late := by
  induction newer using journal_induction with
  | nil => exact ⟨[], .refl⟩
  | stored rate newer ih =>
      obtain ⟨late, hlate⟩ := ih hlaw.2 hjoined.of_append_left
      refine ⟨late, hlate.aside rfl ?_⟩
      rw [due_stored]
      rw [chronicle_append]
      exact List.mem_append_left _ hended
  | told other rate newer ih =>
      obtain ⟨late, hlate⟩ := ih hlaw.2 hjoined.of_append_left
      obtain ⟨_, number, rest, outer, hopen⟩ := hlaw.1
      by_cases hother : other = id
      · subst hother
        exact ⟨_, hlate.tell hjoined.of_append_left hopen⟩
      · exact ⟨late, hlate.aside (if_neg hother) (due_told_of_ne hother hopen)⟩
  | announced rate newer ih =>
      obtain ⟨late, hlate⟩ := ih hlaw.2 hjoined.of_append_left
      obtain ⟨number, waiting, outer, hopen, hover⟩ := hlaw.1
      exact ⟨late, hlate.close hopen hover⟩
  | offside event newer hoffside ih =>
      obtain ⟨late, hlate⟩ := ih hlaw.2 hjoined.of_append_left
      refine ⟨late, hlate.aside (tellers_of_isOffside hoffside) ?_⟩
      rw [due_of_isOffside hoffside]

end Journal

/-- What the end of a subscription means for its observer. -/
structure SubscriptionEnds (start : Rate) (id : ObserverId) (newer older : List Event)
    (late : List Nat) : Prop extends LateTellings start id newer older late where
  distinct : late.Nodup
  count : newer.countP (Event.tellsTo id) = late.length
  /-- Outside announcements the end is final. -/
  final : AllAnnounced older → late = []

section Journal

variable {start : Rate} {id : ObserverId} {newer older : List Event} {late : List Nat}

theorem nodup_due (id : ObserverId) (journal : List Event) :
    ((due id journal).map Announcement.number).Nodup := by
  have hsome : List.Sublist ((due id journal).map Announcement.number)
      ((announcing journal).map Announcement.number) := List.filter_sublist.map _
  exact ((sorted_numbers journal).sublist hsome).imp Nat.ne_of_gt

theorem due_of_allAnnounced (hlaw : Lawful (Event.KeepsOrder start) older)
    (hannounced : AllAnnounced older) : due id older = [] := by
  have hcount := countP_isStored hlaw
  rw [AllAnnounced] at hannounced
  have hnone : announcing older = [] := List.eq_nil_of_length_eq_zero (by omega)
  rw [due, hnone]
  rfl

theorem LateTellings.ends (h : LateTellings start id newer older late)
    (hlaw : Lawful (Event.KeepsOrder start) (newer ++ older)) :
    SubscriptionEnds start id newer older late where
  toLateTellings := h
  distinct := (nodup_due id older).sublist ((List.sublist_append_left ..).trans h.rest)
  count := by
    have hall := length_tellers id hlaw
    rw [h.told, List.length_append, length_tellers id hlaw.of_append,
      List.countP_append] at hall
    omega
  final hannounced := by
    have hrest := h.rest
    rw [due_of_allAnnounced hlaw.of_append hannounced] at hrest
    exact (List.append_eq_nil_iff.mp (List.sublist_nil.mp hrest)).1

end Journal

namespace Pace

variable {rate : Rate} {reportInterval : Nat} {rig : Rig}

/-- A caller that ends a subscription is told whether there was one, and if there was
its end is put on record. -/
theorem perform_unsubscribe (rig : Rig) (depth number : Nat) :
    ∃ later, (Order.pace (.unsubscribe number)).perform (depth + 1) rig =
        (.value (rig.pace.isSubscribed (.caller number)), later) ∧
      later.journal =
        if rig.pace.isSubscribed (.caller number) then
          .unsubscribed (.caller number) :: rig.journal
        else rig.journal := by
  have hcourse : forget number rig =
      .ended (.value (rig.pace.isSubscribed (.caller number))) { rig with
        pace := rig.pace.unsubscribe (.caller number)
        journal :=
          if rig.pace.isSubscribed (.caller number) then
            .unsubscribed (.caller number) :: rig.journal
          else rig.journal } := by
    simp only [forget, modify, Exec.bind_apply, Exec.look_apply, Exec.update_apply,
      Progress.andThen]
    cases rig.pace.isSubscribed (.caller number) <;> rfl
  have hrun : (Order.pace (.unsubscribe number)).perform (depth + 1) rig =
      (forget number rig).run (Script.playWith (Order.perform depth)) := rfl
  rw [hrun, hcourse]
  exact ⟨_, rfl, rfl⟩

/-- Ending a subscription is on record if there was one.  Afterwards the observer is told
by the announcements that were under way and awaited it, by each at most once and by
those that are not overtaken, and by no other. -/
theorem endsSubscriptions (hbecomes : (Rig.fresh rate reportInterval).Becomes rig) :
    (∀ depth number, ∃ later,
      (Order.pace (.unsubscribe number)).perform (depth + 1) rig =
          (.value (rig.pace.isSubscribed (.caller number)), later) ∧
        later.journal =
          if rig.pace.isSubscribed (.caller number) then
            .unsubscribed (.caller number) :: rig.journal
          else rig.journal) ∧
    ∀ id newer older, rig.journal = newer ++ .unsubscribed id :: older →
      ∃ late,
        SubscriptionEnds rate.clamped id newer (.unsubscribed id :: older) late := by
  refine ⟨perform_unsubscribe rig, fun id newer older hsplit => ?_⟩
  obtain ⟨notices, hsteps⟩ := hbecomes.paced
  have hlaw := (Pacing.Steps.announced hsteps).law
  have hjoined := (Pacing.Steps.subscribed hsteps).listed.joined
  change Lawful _ rig.journal at hlaw
  change (chronicle Event.joins rig.journal).Nodup at hjoined
  rw [hsplit] at hlaw hjoined
  have hended : id ∈ chronicle Event.parts (.unsubscribed id :: older) := by
    rw [parts_unsubscribed]
    exact List.mem_append_right _ (List.mem_singleton_self id)
  obtain ⟨late, hlate⟩ := exists_late hlaw hjoined hended
  exact ⟨late, hlate.ends hlaw⟩

/-- Two observers, the first of which ends the subscription of the second when it is
told of a rate. -/
def dismissing : Script :=
  .routine (fun _ _ =>
      .order (.pace (.unsubscribe 1)) fun _ => .done .null) fun first =>
    .routine (fun _ _ => .done .null) fun second =>
      .order (.pace (.subscribe first)) fun _ =>
        .order (.pace (.subscribe second)) fun _ =>
          .order (.pace (.setCycles 30)) fun _ => .done .null

def dismissedRig : Rig :=
  (dismissing.playWithin 3 (Rig.fresh .initial Duration.perSecond)).2

theorem split_unsubscribed {journal : List Event} {index : Nat} {id : ObserverId}
    (h : journal[index]?.map Event.parts = some [id]) :
    journal = journal.take index ++ .unsubscribed id :: journal.drop (index + 1) := by
  obtain ⟨event, hevent, hparts⟩ := Option.map_eq_some_iff.mp h
  obtain ⟨hindex, hget⟩ := List.getElem?_eq_some_iff.mp hevent
  have hended : event = .unsubscribed id := by
    cases event with
    | unsubscribed other => exact congrArg _ (List.cons.inj hparts).1
    | _ => cases hparts
  rw [← hended, ← hget, List.getElem_cons_drop, List.take_append_drop]

/-- The second is told of the rate after its subscription has ended. -/
theorem endsSubscriptions_dismissed :
    ∃ newer older late, dismissedRig.journal =
        newer ++ .unsubscribed (.caller 1) :: older ∧
      newer.countP (Event.tellsTo (.caller 1)) = 1 ∧ late = [0] ∧
      SubscriptionEnds Rate.initial.clamped (.caller 1) newer
        (.unsubscribed (.caller 1) :: older) late := by
  have hbecomes : (Rig.fresh .initial Duration.perSecond).Becomes dismissedRig :=
    .after 3 dismissing .start
  have hsplit : dismissedRig.journal = dismissedRig.journal.take 2 ++
      .unsubscribed (.caller 1) :: dismissedRig.journal.drop 3 :=
    split_unsubscribed (by decide +kernel)
  have honce : (dismissedRig.journal.take 2).countP (Event.tellsTo (.caller 1)) = 1 := by
    decide +kernel
  have hdue : (due (.caller 1) (.unsubscribed (.caller 1) ::
      dismissedRig.journal.drop 3)).map Announcement.number = [0] := by decide +kernel
  obtain ⟨_, hends⟩ := endsSubscriptions hbecomes
  obtain ⟨late, hlate⟩ := hends _ _ _ hsplit
  refine ⟨_, _, late, hsplit, honce, ?_, hlate⟩
  have hsome := (List.sublist_append_left ..).trans hlate.rest
  rw [hdue] at hsome
  exact hsome.eq_of_length (hlate.count.symm.trans honce)

end Pace

end Cadence
