import Cadence.Proofs.Invocations
import Cadence.Proofs.PaceLedger

/-!
Announcements reach everyone.  However observers set the rate again while they are
told of one, each of them has been told the rate that is held when the first setter
returns, and nobody is ever told another one than that held at the moment.
-/

namespace Cadence

namespace Pacing

/-- What a step means to observers: it may store a rate, tell somebody of it, end
an announcement, or do none of it. -/
inductive Move : Pacing × List Notice → Event → Pacing × List Notice → Prop
  | mute {state next : Pacing} {notices : List Notice} {event : Event}
      (hmute : event.isMute = true) (hrate : next.rate = state.rate)
      (hobservers : ∀ observer ∈ state.observers,
        .unsubscribed observer.id ≠ event → observer ∈ next.observers) :
      Move (state, notices) event (next, notices)
  | store {state notices} (rate : Rate) :
      Move (state, notices) (.stored rate)
        (state.store rate, ⟨rate, state.observers⟩ :: notices)
  | tell {state : Pacing} {observer rest notices} :
      Move (state, ⟨state.rate, observer :: rest⟩ :: notices)
        (.told observer.id state.rate)
        (state.tell observer, ⟨state.rate, rest⟩ :: notices)
  | announce {state rate waiting notices}
      (hover : waiting = [] ∨ state.rate ≠ rate) :
      Move (state, ⟨rate, waiting⟩ :: notices) (.announced rate)
        (state.note (.announced rate), notices)

variable {start state next : Pacing} {events : List Event}
  {notices later : List Notice}

theorem mem_unsubscribe {id : ObserverId} {observer : Observer}
    (hobserver : observer ∈ state.observers)
    (hother : Event.unsubscribed observer.id ≠ .unsubscribed id) :
    observer ∈ (state.unsubscribe id).observers := by
  apply List.mem_filter.mpr
  refine ⟨hobserver, ?_⟩
  rw [bne_iff_ne]
  rintro rfl
  exact hother rfl

/-- Every step is an event, and a move. -/
theorem Step.move {before after : Pacing × List Notice} (h : Step before after) :
    ∃ event, after.1.journal = event :: before.1.journal ∧
      Move before event after := by
  cases h with
  | @aside _ _ event hpace htiming =>
      have hmute := Event.isMute_of_facet hpace
      exact ⟨event, rfl, .mute hmute rfl fun _ hobserver _ => hobserver⟩
  | store => exact ⟨_, rfl, .store _⟩
  | tell => exact ⟨_, rfl, .tell⟩
  | announce hover => exact ⟨_, rfl, .announce hover⟩
  | subscribe routine =>
      exact ⟨_, rfl, .mute rfl rfl
        fun _ hobserver _ => List.mem_append_left _ hobserver⟩
  | unsubscribe number =>
      exact ⟨_, rfl, .mute rfl rfl fun _ => mem_unsubscribe⟩
  | create throttle =>
      exact ⟨_, rfl, .mute rfl rfl
        fun _ hobserver _ => List.mem_append_left _ hobserver⟩
  | retire number => exact ⟨_, rfl, .mute rfl rfl fun _ => mem_unsubscribe⟩
  | turns number =>
      exact ⟨_, rfl, .mute rfl rfl fun _ hobserver _ => hobserver⟩
  | activates number timing count htiming =>
      exact ⟨_, rfl, .mute rfl rfl fun _ hobserver _ => hobserver⟩

/-- An observer knows the rate, or the innermost announcement will tell it. -/
def Informed (observer : Observer) (events : List Event) (rate : Rate)
    (notices : List Notice) : Prop :=
  lastTold observer.id events = some rate ∨
    ∃ waiting outer, notices = ⟨rate, waiting⟩ :: outer ∧ observer ∈ waiting

/-- What is known of a run and its events. -/
structure Heard (start : Pacing) (events : List Event) (state : Pacing)
    (notices : List Notice) : Prop where
  journal : state.journal = events ++ start.journal
  rate : state.rate = held start.rate events
  told : ToldHeld start.rate events
  staying : ∀ observer ∈ start.observers, .unsubscribed observer.id ∉ events →
    observer ∈ state.observers
  informed : (∃ rate, .stored rate ∈ events) → ∀ observer ∈ start.observers,
    .unsubscribed observer.id ∉ events →
      Informed observer events state.rate notices

namespace Heard

theorem refl (start : Pacing) (notices : List Notice) :
    Heard start [] start notices where
  journal := rfl
  rate := rfl
  told := by
    intro newer id rate older hsplit
    cases newer <;> cases hsplit
  staying observer hobserver _ := hobserver
  informed := by
    rintro ⟨rate, hstored⟩
    cases hstored

variable (h : Heard start events state notices)

include h

/-- An event by which nothing is stored or told. -/
theorem mute {event : Event} (hmute : event.isMute = true)
    (hjournal : next.journal = event :: state.journal)
    (hrate : next.rate = state.rate)
    (hobservers : ∀ observer ∈ state.observers,
      .unsubscribed observer.id ≠ event → observer ∈ next.observers) :
    Heard start (event :: events) next notices where
  journal := by rw [hjournal, h.journal, List.cons_append]
  rate := by rw [hrate, h.rate, held_of_isMute hmute]
  told := h.told.mute hmute
  staying observer hobserver hstays := by
    rw [List.mem_cons, not_or] at hstays
    exact hobservers observer (h.staying observer hobserver hstays.2) hstays.1
  informed := by
    rintro ⟨rate, hstored⟩ observer hobserver hstays
    rw [List.mem_cons, not_or] at hstays
    have hold := (List.mem_cons.mp hstored).resolve_left
      (not_stored_of_isMute hmute rate)
    have hinformed := h.informed ⟨rate, hold⟩ observer hobserver hstays.2
    rw [Informed, lastTold_of_isMute hmute, hrate]
    exact hinformed

theorem store (rate : Rate) :
    Heard start (.stored rate :: events) (state.store rate)
      (⟨rate, state.observers⟩ :: notices) where
  journal := congrArg (List.cons _) h.journal
  rate := rfl
  told := h.told.cons fun _ _ => Event.noConfusion
  staying observer hobserver hstays := by
    rw [List.mem_cons, not_or] at hstays
    exact h.staying observer hobserver hstays.2
  informed := by
    rintro _ observer hobserver hstays
    rw [List.mem_cons, not_or] at hstays
    exact Or.inr ⟨_, _, rfl, h.staying observer hobserver hstays.2⟩

omit h in
theorem tell {observer : Observer} {rest : List Observer}
    (h : Heard start events state (⟨state.rate, observer :: rest⟩ :: notices)) :
    Heard start (.told observer.id state.rate :: events) (state.tell observer)
      (⟨state.rate, rest⟩ :: notices) where
  journal := congrArg (List.cons _) h.journal
  rate := h.rate
  told := by
    apply h.told.cons
    intro id rate hevent
    obtain ⟨_, rfl⟩ := Event.told.inj hevent
    exact h.rate
  staying other hother hstays := by
    rw [List.mem_cons, not_or] at hstays
    exact h.staying other hother hstays.2
  informed := by
    rintro ⟨rate, hstored⟩ other hother hstays
    rw [List.mem_cons, not_or] at hstays
    by_cases hid : observer.id = other.id
    · exact Or.inl (if_pos hid)
    · have hlast : lastTold other.id (.told observer.id state.rate :: events) =
          lastTold other.id events := if_neg hid
      have hold := (List.mem_cons.mp hstored).resolve_left Event.noConfusion
      rw [Informed, hlast]
      rcases h.informed ⟨rate, hold⟩ other hother hstays.2 with
        hknows | ⟨waiting, outer, hnotices, hwaits⟩
      · exact Or.inl hknows
      · obtain ⟨hnotice, rfl⟩ := List.cons.inj hnotices
        obtain ⟨_, rfl⟩ := Notice.mk.inj hnotice
        rcases List.mem_cons.mp hwaits with rfl | hrest
        · exact absurd rfl hid
        · exact Or.inr ⟨rest, notices, rfl, hrest⟩

omit h in
/-- An announcement that is over leaves nobody uninformed. -/
theorem pop {rate : Rate} {waiting : List Observer}
    (h : Heard start events state (⟨rate, waiting⟩ :: notices))
    (hover : waiting = [] ∨ state.rate ≠ rate) :
    Heard start events state notices :=
  { h with
    informed := by
      intro hstored observer hobserver hstays
      rcases h.informed hstored observer hobserver hstays with
        hknows | ⟨left, outer, hnotices, hwaits⟩
      · exact Or.inl hknows
      · obtain ⟨hnotice, rfl⟩ := List.cons.inj hnotices
        obtain ⟨hrate, rfl⟩ := Notice.mk.inj hnotice
        rcases hover with rfl | hother
        · cases hwaits
        · exact absurd hrate.symm hother }

theorem step (hstep : Step (state, notices) (next, later)) :
    ∃ event, Heard start (event :: events) next later := by
  obtain ⟨event, hjournal, hmove⟩ := hstep.move
  refine ⟨event, ?_⟩
  cases hmove with
  | mute hmute hrate hobservers => exact h.mute hmute hjournal hrate hobservers
  | store rate => exact h.store rate
  | tell => exact h.tell
  | announce hover =>
      have hmute := h.mute rfl hjournal rfl fun _ hobserver _ => hobserver
      exact hmute.pop hover

end Heard

theorem Steps.heard {after : Pacing × List Notice}
    (hsteps : Steps (start, []) after) :
    ∃ events, Heard start events after.1 after.2 := by
  induction hsteps with
  | refl => exact ⟨[], .refl start []⟩
  | tail _ hstep ih =>
      obtain ⟨events, hheard⟩ := ih
      obtain ⟨event, hnext⟩ := hheard.step hstep
      exact ⟨event :: events, hnext⟩

/-- Observers are told a rate in their order. -/
def tellings (rate : Rate) (observers : List Observer) :
    List (ObserverId × Rate) :=
  observers.map fun observer => (observer.id, rate)

/-- As long as no other rate is stored, everyone is told this one, in order. -/
structure Spread (rate : Rate) (observers : List Observer) (events : List Event)
    (state : Pacing) (notices : List Notice) : Prop where
  kept : state.rate = rate
  told : (notices = [] ∧
      chronicle Event.tells events = tellings rate observers) ∨
    ∃ waiting, notices = [⟨rate, waiting⟩] ∧
      chronicle Event.tells events ++ tellings rate waiting =
        tellings rate observers

theorem Spread.move {rate : Rate} {observers : List Observer} {event : Event}
    (h : Spread rate observers events state notices)
    (hmove : Move (state, notices) event (next, later))
    (hstored : ∀ other, .stored other ≠ event) :
    Spread rate observers (event :: events) next later := by
  cases hmove with
  | mute hmute hrate _ =>
      refine ⟨hrate.trans h.kept, ?_⟩
      rw [chronicle_cons, tells_of_isMute hmute, List.append_nil]
      exact h.told
  | store other => exact absurd rfl (hstored other)
  | @tell _ observer rest notices =>
      rcases h.told with ⟨hnone, _⟩ | ⟨waiting, hnotices, htold⟩
      · cases hnone
      · obtain ⟨hnotice, rfl⟩ := List.cons.inj hnotices
        obtain ⟨_, rfl⟩ := Notice.mk.inj hnotice
        refine ⟨h.kept, Or.inr ⟨rest, by rw [h.kept], ?_⟩⟩
        rw [← htold, chronicle_cons, List.append_assoc, h.kept]
        rfl
  | @announce _ other waiting _ hover =>
      rcases h.told with ⟨hnone, _⟩ | ⟨left, hnotices, htold⟩
      · cases hnone
      · obtain ⟨hnotice, rfl⟩ := List.cons.inj hnotices
        obtain ⟨rfl, rfl⟩ := Notice.mk.inj hnotice
        obtain rfl := hover.resolve_right fun hother => hother h.kept
        refine ⟨h.kept, Or.inl ⟨rfl, ?_⟩⟩
        rw [← htold]
        rfl

theorem Steps.spread {observers : List Observer} {after : Pacing × List Notice}
    (hsteps : Steps (start, [⟨start.rate, observers⟩]) after) :
    ∃ events, after.1.journal = events ++ start.journal ∧
      ((∀ other, .stored other ∉ events) →
        Spread start.rate observers events after.1 after.2) := by
  induction hsteps with
  | refl =>
      exact ⟨[], rfl, fun _ => ⟨rfl, Or.inr ⟨observers, rfl, rfl⟩⟩⟩
  | tail _ hstep ih =>
      obtain ⟨events, hjournal, hspread⟩ := ih
      obtain ⟨event, hnext, hmove⟩ := hstep.move
      refine ⟨event :: events, ?_, fun hstored => ?_⟩
      · rw [hnext, hjournal, List.cons_append]
      · simp only [List.mem_cons, not_or] at hstored
        have hbefore := hspread fun other => (hstored other).2
        exact hbefore.move hmove fun other => (hstored other).1

/-- What a setter does: it logs something, and adopts the rate it asks for unless
it is held already. -/
inductive Setting (state : Pacing) (rate : Rate) : Bool → Pacing → Prop
  | keeps {value} (lines : List Log.Line) (hrate : rate = state.rate) :
      Setting state rate value (state.logged lines)
  | adopts {value later} (lines : List Log.Line) (left : List Notice)
      (hsets : state.rate.Sets rate) (hrate : rate ≠ state.rate)
      (hsteps : ∀ notices,
        Steps ((state.logged lines).store rate, ⟨rate, state.observers⟩ :: notices)
          (later, left ++ notices))
      (hvalue : value = true → left = []) :
      Setting state rate value later

end Pacing

namespace Pace

open Pacing

section Setters

variable {start : Pacing} {rig : Rig} {rate : Rate} {order : PaceOrder}

theorem finds_logged (lines : List Log.Line) (hfinds : (contract start).finds rig) :
    (contract start).finds
      { rig with journal := lines.map Event.logged ++ rig.journal } := by
  obtain ⟨notices, hfinds⟩ := hfinds
  exact ⟨notices, hfinds.trans (steps_logged lines)⟩

theorem respects_change {α : Type} (lines : List Log.Line) (answer : α)
    (hfinds : (contract start).finds rig) (hsets : rig.pace.rate.Sets rate)
    (hrate : rate ≠ rig.pace.rate) :
    ((adopt rate >>= fun _ => pure answer)
      { rig with journal := lines.map Event.logged ++ rig.journal }).Respects
        (contract start) fun ending later =>
          Setting rig.pacing rate ending.isValue later.pacing := by
  rw [Exec.bind_apply, Progress.respects_andThen]
  refine (respects_adopt (finds_logged lines hfinds) hsets).imp ?_
  rintro ending later ⟨left, hleft, hvalue⟩
  cases ending <;> exact .adopts lines left hsets hrate hleft hvalue

theorem respects_setter (htarget : target rig.pace.rate order = some rate)
    (hfinds : (contract start).finds rig) :
    (perform order rig).Respects (contract start) fun ending later =>
      Setting rig.pacing rate ending.isValue later.pacing := by
  obtain ⟨lines, answer, _, hsets, hcourse⟩ := perform_setter htarget
  rw [hcourse]
  split
  · rename_i hsame
    exact .keeps lines hsame
  · rename_i hother
    exact respects_change lines answer hfinds hsets hother

end Setters

/-- What is promised of a setter that asks for a rate, and of its events. -/
structure Converges (rig later : Rig) (rate : Rate) (events : List Event) :
    Prop where
  journal : later.journal = events ++ rig.journal
  holds : later.pace.rate = held rig.pace.rate events
  /-- Nobody is told another rate than the one held at that moment. -/
  told : ToldHeld rig.pace.rate events
  /-- In the end, everyone who has observed all the time knows the rate. -/
  informed : (∃ rate, .stored rate ∈ events) → ∀ observer ∈ rig.pace.observers,
    .unsubscribed observer.id ∉ events →
      lastTold observer.id events = some later.pace.rate
  changes : rate ≠ rig.pace.rate →
    ∃ others, chronicle Event.stores events = rate :: others
  /-- If no other rate is stored, everyone is told this one, once and in order. -/
  once : chronicle Event.stores events = [rate] →
    chronicle Event.tells events =
      rig.pace.observers.map fun observer => (observer.id, rate)
  unchanged : rate = rig.pace.rate → chronicle Event.stores events = [] ∧
    chronicle Event.tells events = []

/-- What is promised of the calls of a setter that asks for a rate. -/
structure CallsObservers (rig later : Rig) (rate : Rate) (events : List Event)
    (calls : List Handover) : Prop where
  /-- Observers are called in their order, once each and with this rate, as long as it is
  the one that is held. -/
  changes : rate ≠ rig.pace.rate → Tells rate rig.pace.observers rig later calls
  /-- If no other rate is stored, every observer is. -/
  once : chronicle Event.stores events = [rate] →
    ∃ heard, calls = heard.flatten ∧
      List.Forall₂ (Observer.Hears rig rate) rig.pace.observers heard
  unchanged : rate = rig.pace.rate → calls = []

/-- Whoever a rig calls when something is asked of its pace observes it, and is told the
rate that is held when it begins. -/
def CallsHonestly (rig : Rig) : Prop :=
  ∀ depth order script begun,
    ((Order.pace order).carryOut (depth + 1) rig).Hands (Script.playWithin depth)
      script begun →
    ∃ observer ∈ rig.pace.observers, observer.Begins script begun

theorem callsHonestly (rig : Rig) : CallsHonestly rig :=
  fun _ order _ _ hhands => (handsOnly_perform order rig).of_hands hhands

theorem chronicle_logged {α : Type} {view : Event → List α}
    (hview : ∀ line, view (.logged line) = []) (lines : List Log.Line) :
    chronicle view (lines.map Event.logged) = [] := by
  induction lines with
  | nil => rfl
  | cons line rest ih =>
      rw [List.map_cons, chronicle_cons, ih, hview, List.nil_append]

theorem chronicle_stores_eq_nil {events : List Event}
    (h : chronicle Event.stores events = []) (rate : Rate) :
    .stored rate ∉ events := by
  intro hstored
  have hmem : rate ∈ chronicle Event.stores events :=
    mem_chronicle.mpr ⟨_, hstored, List.mem_singleton_self rate⟩
  rw [h] at hmem
  cases hmem

variable {rig later : Rig} {rate : Rate}

/-- The informed ones are all those who stay, since no announcement is left. -/
theorem converges_of_heard {events : List Event}
    (h : Heard rig.pacing events later.pacing [])
    (hchanges : rate ≠ rig.pace.rate →
      ∃ others, chronicle Event.stores events = rate :: others)
    (honce : chronicle Event.stores events = [rate] →
      chronicle Event.tells events = tellings rate rig.pace.observers)
    (hunchanged : rate = rig.pace.rate → chronicle Event.stores events = [] ∧
      chronicle Event.tells events = []) :
    Converges rig later rate events where
  journal := h.journal
  holds := h.rate
  told := h.told
  informed hstored observer hobserver hstays := by
    rcases h.informed hstored observer hobserver hstays with
      hknows | ⟨waiting, outer, hnotices, _⟩
    · exact hknows
    · cases hnotices
  changes := hchanges
  once := honce
  unchanged := hunchanged

theorem Converges.callsObservers {depth : Nat} {order : PaceOrder} {events : List Event}
    {value : order.Answer} (h : Converges rig later rate events)
    (htarget : target rig.pace.rate order = some rate)
    (hrun : (perform order rig).run (Script.playWithin depth) = (.value value, later)) :
    CallsObservers rig later rate events
      ((perform order rig).handovers (Script.playWithin depth)) := by
  have htells := tells_setter htarget hrun
  refine ⟨fun hother => ?_, fun honce => ?_, fun hsame => ?_⟩
  · rw [if_neg hother] at htells
    exact htells
  · have hother : rate ≠ rig.pace.rate := by
      intro hsame
      rw [(h.unchanged hsame).1] at honce
      cases honce
    have hkept : later.pace.rate = rate := by
      rw [h.holds, held_eq_getLast, honce]
      rfl
    rw [if_neg hother] at htells
    obtain ⟨told, left, heard, hobservers, hcalls, hheard, hover⟩ := htells
    obtain rfl := hover.resolve_right fun hlost => hlost hkept
    rw [hobservers, List.append_nil]
    exact ⟨heard, hcalls, hheard⟩
  · rw [if_pos hsame] at htells
    exact htells

theorem converges_of_setting
    (h : Setting rig.pacing rate true later.pacing) :
    ∃ events, Converges rig later rate events := by
  generalize hlater : later.pacing = after at h
  cases h with
  | keeps lines hrate =>
      have hsteps : Steps (rig.pacing, []) (later.pacing, []) := by
        rw [hlater]
        exact steps_logged lines
      obtain ⟨events, hheard⟩ := hsteps.heard
      have hlines : events = lines.map Event.logged := by
        have hjournal := hheard.journal
        rw [hlater] at hjournal
        exact (List.append_cancel_right hjournal).symm
      have hstores : chronicle Event.stores events = [] := by
        rw [hlines]
        exact chronicle_logged (fun _ => rfl) lines
      refine ⟨events, converges_of_heard hheard ?_ ?_ ?_⟩
      · exact fun hother => absurd hrate hother
      · rw [hstores]
        exact fun hnil => by cases hnil
      · intro _
        rw [hstores, hlines]
        exact ⟨rfl, chronicle_logged (fun _ => rfl) lines⟩
  | adopts lines left hsets hrate hsteps hvalue =>
      obtain rfl := hvalue rfl
      have hlogged : Steps (rig.pacing, []) (rig.pacing.logged lines, []) :=
        steps_logged lines
      have hstored := hlogged.tail (.store hsets)
      have hall : Steps (rig.pacing, []) (later.pacing, []) := by
        rw [hlater]
        exact hstored.trans (hsteps [])
      obtain ⟨events, hheard⟩ := hall.heard
      obtain ⟨since, hjournal, hspread⟩ := Steps.spread (hsteps [])
      have hevents : events = since ++ .stored rate :: lines.map Event.logged := by
        have hsince := hheard.journal
        rw [hlater, hjournal] at hsince
        have hwhole : events ++ rig.pacing.journal =
            (since ++ .stored rate :: lines.map Event.logged) ++
              rig.pacing.journal := by
          rw [← hsince, List.append_assoc]
          rfl
        exact List.append_cancel_right hwhole
      have hstores : chronicle Event.stores events =
          rate :: chronicle Event.stores since := by
        rw [hevents, chronicle_append, chronicle_cons,
          chronicle_logged (fun _ => rfl) lines]
        rfl
      refine ⟨events, converges_of_heard hheard ?_ ?_ ?_⟩
      · exact fun _ => ⟨_, hstores⟩
      · intro honce
        rw [hstores, List.cons.injEq] at honce
        have hspread := hspread (chronicle_stores_eq_nil honce.2)
        rcases hspread.told with ⟨_, htold⟩ | ⟨waiting, hnotices, _⟩
        · rw [hevents, chronicle_append, chronicle_cons,
            chronicle_logged (fun _ => rfl) lines, htold]
          rfl
        · cases hnotices
      · exact fun hsame => absurd hsame hrate

/-- However observers answer, a setter that returns has told everyone the rate that is
held in the end; and whoever is called, by it or by what observers ask of the pace in
their turn, is told the rate that is held at that moment. -/
theorem setter_converges {depth : Nat} {order : PaceOrder}
    (htarget : target rig.pace.rate order = some rate)
    (hvalue : ((Order.pace order).perform depth rig).1.isValue = true) :
    (∃ events,
      Converges rig ((Order.pace order).perform depth rig).2 rate events ∧
      CallsObservers rig ((Order.pace order).perform depth rig).2 rate events
        ((Order.pace order).handovers depth rig)) ∧
    ∀ next moment, Script.Passes depth (.order (.pace order) next) rig moment →
      (∃ events, moment.journal = events ++ rig.journal ∧
        moment.pace.rate = held rig.pace.rate events ∧
        ToldHeld rig.pace.rate events) ∧
      CallsHonestly moment := by
  have hfinds : (contract rig.pacing).finds rig := ⟨[], .refl⟩
  have hsound := soundOrders rig.pacing
  constructor
  · cases depth with
    | zero => cases hvalue
    | succ depth =>
        have hsetting := (respects_setter htarget hfinds).run (hsound.honoured depth)
        have hset : Setting rig.pacing rate
            ((Order.pace order).perform (depth + 1) rig).1.isValue
            ((Order.pace order).perform (depth + 1) rig).2.pacing := hsetting
        rw [hvalue] at hset
        obtain ⟨events, hconverges⟩ := converges_of_setting hset
        obtain ⟨value, hending⟩ := Ending.exists_value hvalue
        exact ⟨events, hconverges,
          hconverges.callsObservers htarget (Prod.ext hending rfl)⟩
  · intro next moment hpasses
    obtain ⟨notices, hsteps⟩ := hsound.finds_moment hpasses
      (Script.keepsTo_all _) hfinds
    obtain ⟨events, hheard⟩ := hsteps.heard
    exact ⟨⟨events, hheard.journal, hheard.rate, hheard.told⟩, callsHonestly moment⟩

/-- Two observers, the first of which does not put up with more than a hundred
cycles per frame. -/
def limiting : Script :=
  .routine (fun _ occasion =>
      match occasion with
      | .rate rate =>
          if rate.cycles ≤ 100 then .done .null
          else .order (.pace (.setCycles 100)) fun _ => .done .null
      | _ => .done .null) fun first =>
    .order (.pace (.subscribe first)) fun _ =>
      .routine (fun _ _ => .done .null) fun second =>
        .order (.pace (.subscribe second)) fun _ => .done .null

def limitedRig : Rig :=
  (limiting.playWithin 1 (Rig.fresh .initial Duration.perSecond)).2

/-- The first observer asks for a hundred cycles when it is told of five hundred. -/
theorem setter_converges_limited :
    let later := ((Order.pace (.setCycles 500)).perform 3 limitedRig).2
    later.pace.rate.cycles = 100 ∧ ∃ rate events,
      target limitedRig.pace.rate (.setCycles 500) = some rate ∧
        Converges limitedRig later rate events ∧
        CallsObservers limitedRig later rate events
          ((Order.pace (.setCycles 500)).handovers 3 limitedRig) := by
  intro later
  have hvalue : ((Order.pace (.setCycles 500)).perform 3
      limitedRig).1.isValue = true := by decide +kernel
  have htarget : target limitedRig.pace.rate (.setCycles 500) =
      some { limitedRig.pace.rate with cycles := Rate.clampCycles 500 } := rfl
  obtain ⟨⟨events, hconverges, hcalls⟩, _⟩ := setter_converges htarget hvalue
  exact ⟨by decide +kernel, _, events, htarget, hconverges, hcalls⟩

end Pace

end Cadence
