import Cadence.Proofs.PaceLedger

/-!
The caps of the drivers follow the pace.  Outside announcements, the frame time
that a driver awaits is the one held, and the interval of its renders is that of
the frame time held when its last turn began.
-/

namespace Cadence

def Event.isStored : Event → Bool
  | .stored _ => true
  | _ => false

def Event.isAnnounced : Event → Bool
  | .announced _ => true
  | _ => false

/-- Every announcement has come to its end. -/
def AllAnnounced (events : List Event) : Prop :=
  events.countP Event.isStored = events.countP Event.isAnnounced

instance (events : List Event) : Decidable (AllAnnounced events) :=
  inferInstanceAs (Decidable (_ = _))

/-- The rate that caps a driver's renders: the one held when the driver was
created or, later, when its last turn began.  It is left open for a turn that began
in the middle of an announcement. -/
def cappingRate (start : Rate) (number : Nat) : List Event → Option Rate
  | [] => none
  | .subscribed (.driver other) :: older =>
      if other = number then some (held start older)
      else cappingRate start number older
  | .turnBegan other :: older =>
      if other = number then
        if AllAnnounced older then some (held start older) else none
      else cappingRate start number older
  | _ :: older => cappingRate start number older

/-- A driver has been created and not retired since. -/
def Live (number : Nat) (events : List Event) : Prop :=
  .subscribed (.driver number) ∈ events ∧
    .unsubscribed (.driver number) ∉ events

/-- The driver whose cap an event is about. -/
def Event.capped : Event → Option Nat
  | .subscribed (.driver number) => some number
  | .turnBegan number => some number
  | .activated number _ _ => some number
  | _ => none

theorem Event.capped_eq_none {event : Event} (hpace : event.facet ≠ .pace)
    (htiming : event.facet ≠ .timing) : event.capped = none := by
  cases event with
  | subscribed => exact absurd rfl hpace
  | turnBegan => exact absurd rfl htiming
  | activated => exact absurd rfl htiming
  | _ => rfl

theorem cappingRate_of_capped {event : Event} {number : Nat}
    (hother : event.capped ≠ some number) (start : Rate) (events : List Event) :
    cappingRate start number (event :: events) =
      cappingRate start number events := by
  cases event with
  | subscribed observer =>
      cases observer with
      | caller => rfl
      | driver other => exact if_neg fun heq => hother (congrArg some heq)
  | turnBegan other => exact if_neg fun heq => hother (congrArg some heq)
  | _ => rfl

theorem Live.of_cons {event : Event} {events : List Event} {number : Nat}
    (h : Live number (event :: events))
    (hcreated : event ≠ .subscribed (.driver number)) : Live number events :=
  ⟨(List.mem_cons.mp h.1).resolve_left hcreated.symm,
    fun hmem => h.2 (List.mem_cons_of_mem _ hmem)⟩

/-- Whenever the renders of a driver were activated while it was live, their
interval was that of the capping rate, or zero if they are not capped. -/
def ActivatedInTime (start : Rate) (events : List Event) (number : Nat)
    (throttle : Bool) : Prop :=
  ∀ newer timing count older,
    events = newer ++ .activated number timing count :: older →
      Live number older →
        (throttle = true → ∀ rate, cappingRate start number older = some rate →
          timing.interval = Driver.intervalOfFrameTime rate.frameTime) ∧
        (throttle = false → timing.interval = 0)

theorem ActivatedInTime.cons {start : Rate} {event : Event} {events : List Event}
    {number : Nat} {throttle : Bool}
    (h : ActivatedInTime start events number throttle)
    (hne : ∀ timing count, event ≠ .activated number timing count) :
    ActivatedInTime start (event :: events) number throttle := by
  intro newer timing count older hsplit
  cases newer with
  | nil => exact absurd (List.cons.inj hsplit).1 (hne timing count)
  | cons head tail => exact h tail timing count older (List.cons.inj hsplit).2

/-- A cap fits a rate: no other frame time is awaited, and the interval is that of
the rate if none is. -/
structure Cap.Fits (cap : Cap) (rate : Rate) : Prop where
  pending : cap.pending = none ∨ cap.pending = some rate.frameTime
  interval : cap.throttle = true → cap.pending = none →
    cap.interval = Driver.intervalOfFrameTime rate.frameTime

namespace Cap

variable {cap : Cap} {rate : Rate}

theorem fits_fresh (throttle : Bool) (rate : Rate) :
    (fresh throttle rate).Fits rate where
  pending := Or.inl rfl
  interval hthrottle _ := if_pos hthrottle

theorem fits_awaiting (cap : Cap) (rate : Rate) :
    (cap.awaiting rate.frameTime).Fits rate where
  pending := Or.inr rfl
  interval _ hnone := by cases hnone

@[simp] theorem pending_applied (cap : Cap) : cap.applied.pending = none := by
  unfold applied
  split
  · assumption
  · rfl

@[simp] theorem throttle_applied (cap : Cap) :
    cap.applied.throttle = cap.throttle := by
  unfold applied
  split <;> rfl

@[simp] theorem alive_applied (cap : Cap) : cap.applied.alive = cap.alive := by
  unfold applied
  split <;> rfl

/-- When the awaited frame time is taken over, the interval follows. -/
theorem Fits.interval_applied (h : cap.Fits rate)
    (hthrottle : cap.throttle = true) :
    cap.applied.interval = Driver.intervalOfFrameTime rate.frameTime := by
  unfold applied
  rcases h.pending with hnone | hsome
  · rw [hnone]
    exact h.interval hthrottle hnone
  · rw [hsome]
    exact if_pos hthrottle

theorem Fits.applied (h : cap.Fits rate) : cap.applied.Fits rate where
  pending := Or.inl (pending_applied cap)
  interval hthrottle _ := h.interval_applied (throttle_applied cap ▸ hthrottle)

theorem interval_applied_of_not_throttle (hthrottle : cap.throttle = false) :
    cap.applied.interval = cap.interval := by
  unfold Cap.applied
  split
  · rfl
  · simp [hthrottle]

end Cap

/-- What the journal tells of a driver's cap. -/
structure Capping (start : Rate) (events : List Event) (number : Nat)
    (cap : Cap) : Prop where
  live : Live number events → cap.alive = true
  interval : cap.alive = true → cap.throttle = true → ∀ rate,
    cappingRate start number events = some rate →
      cap.interval = Driver.intervalOfFrameTime rate.frameTime
  uncapped : cap.throttle = false → cap.interval = 0
  activated : ActivatedInTime start events number cap.throttle

namespace Capping

variable {start : Rate} {events : List Event} {number : Nat} {cap : Cap}

theorem cons (h : Capping start events number cap) {event : Event}
    (hother : event.capped ≠ some number) :
    Capping start (event :: events) number cap where
  live hlive := h.live (hlive.of_cons fun heq => hother (congrArg Event.capped heq))
  interval := by
    rw [cappingRate_of_capped hother]
    exact h.interval
  uncapped := h.uncapped
  activated := h.activated.cons fun _ _ heq => hother (congrArg Event.capped heq)

theorem await (h : Capping start events number cap) (millis : Binary64) :
    Capping start events number (cap.awaiting millis) :=
  ⟨h.live, h.interval, h.uncapped, h.activated⟩

theorem retire (h : Capping start events number cap) :
    Capping start (.unsubscribed (.driver number) :: events) number
      cap.retired where
  live hlive := absurd List.mem_cons_self hlive.2
  interval := Bool.noConfusion
  uncapped := h.uncapped
  activated := h.activated.cons fun _ _ => Event.noConfusion

/-- Renders are activated with the interval at hand. -/
theorem activate (h : Capping start events number cap) {timing : Debouncer}
    (htiming : timing.interval = cap.interval) (count : Nat) :
    Capping start (.activated number timing count :: events) number cap where
  live hlive := h.live (hlive.of_cons Event.noConfusion)
  interval := h.interval
  uncapped := h.uncapped
  activated := by
    intro newer found times older hsplit hlive
    cases newer with
    | nil =>
        obtain ⟨hevent, rfl⟩ := List.cons.inj hsplit
        obtain ⟨_, rfl, _⟩ := Event.activated.inj hevent
        rw [htiming]
        exact ⟨h.interval (h.live hlive), h.uncapped⟩
    | cons head tail =>
        exact h.activated tail found times older (List.cons.inj hsplit).2 hlive

/-- A turn that begins takes over what is awaited. -/
theorem begin (h : Capping start events number cap)
    (hfits : AllAnnounced events → cap.alive = true →
      cap.Fits (held start events)) :
    Capping start (.turnBegan number :: events) number cap.applied where
  live hlive := by
    rw [Cap.alive_applied]
    exact h.live (hlive.of_cons Event.noConfusion)
  interval := by
    rw [Cap.alive_applied, Cap.throttle_applied]
    intro halive hthrottle rate hrate
    rw [cappingRate, if_pos rfl] at hrate
    split at hrate
    · rename_i hannounced
      obtain rfl := Option.some.inj hrate
      exact (hfits hannounced halive).interval_applied hthrottle
    · cases hrate
  uncapped := by
    rw [Cap.throttle_applied]
    intro hthrottle
    rw [Cap.interval_applied_of_not_throttle hthrottle]
    exact h.uncapped hthrottle
  activated := by
    rw [Cap.throttle_applied]
    exact h.activated.cons fun _ _ => Event.noConfusion

theorem create (hnew : .subscribed (.driver number) ∉ events) (throttle : Bool) :
    Capping start (.subscribed (.driver number) :: events) number
      (.fresh throttle (held start events)) where
  live _ := rfl
  interval := by
    intro _ hthrottle rate hrate
    rw [cappingRate, if_pos rfl] at hrate
    obtain rfl := Option.some.inj hrate
    exact if_pos hthrottle
  uncapped hthrottle := if_neg (ne_true_of_eq_false hthrottle)
  activated := by
    intro newer timing count older hsplit hlive
    cases newer with
    | nil => cases hsplit
    | cons head tail =>
        have hmem : .subscribed (.driver number) ∈ events := by
          rw [(List.cons.inj hsplit).2]
          exact List.mem_append_right _ (List.mem_cons_of_mem _ hlive.1)
        exact absurd hmem hnew

end Capping

/-- A property of all caps and their numbers. -/
def AtEach (caps : Array Cap) (property : Nat → Cap → Prop) : Prop :=
  ∀ number cap, caps[number]? = some cap → property number cap

namespace AtEach

variable {caps : Array Cap} {property other : Nat → Cap → Prop}

theorem imp (h : AtEach caps property)
    (himp : ∀ number cap, property number cap → other number cap) :
    AtEach caps other :=
  fun number cap hcap => himp number cap (h number cap hcap)

theorem modify {target : Nat} {alter : Cap → Cap} (h : AtEach caps property)
    (htarget : ∀ cap, property target cap → other target (alter cap))
    (hrest : ∀ number cap, number ≠ target → property number cap →
      other number cap) :
    AtEach (caps.modify target alter) other := by
  intro number cap hcap
  rw [Array.getElem?_modify] at hcap
  split at hcap
  · rename_i heq
    obtain ⟨old, hold, rfl⟩ := Option.map_eq_some_iff.mp hcap
    subst heq
    exact htarget old (h target old hold)
  · rename_i hne
    exact hrest number cap (fun heq => hne heq.symm) (h number cap hcap)

theorem push {cap : Cap} (h : AtEach caps property)
    (hnew : other caps.size cap)
    (hrest : ∀ number cap, number < caps.size → property number cap →
      other number cap) :
    AtEach (caps.push cap) other := by
  intro number found hfound
  rw [Array.getElem?_push] at hfound
  split at hfound
  · rename_i hsize
    obtain rfl := Option.some.inj hfound
    rw [hsize]
    exact hnew
  · obtain ⟨hlt, _⟩ := Array.getElem?_eq_some_iff.mp hfound
    exact hrest number found hlt (h number found hfound)

end AtEach

namespace Pacing

variable {start : Rate} {state next : Pacing} {notices later : List Notice}

/-- The rate held is known from the journal, and so is the number of announcements
under way. -/
structure Counted (start : Rate) (state : Pacing) (notices : List Notice) :
    Prop where
  rate : state.rate = held start state.journal
  counted : state.journal.countP Event.isStored =
    state.journal.countP Event.isAnnounced + notices.length

theorem Counted.allAnnounced_iff (h : Counted start state notices) :
    AllAnnounced state.journal ↔ notices = [] := by
  have hcounted := h.counted
  rw [AllAnnounced, ← List.length_eq_zero_iff]
  omega

theorem Counted.note (h : Counted start state notices) {event : Event}
    (hmute : event.isMute = true) (hannounced : event.isAnnounced = false)
    (hjournal : next.journal = event :: state.journal)
    (hrate : next.rate = state.rate) : Counted start next notices := by
  have hstored : event.isStored = false := by
    cases event with
    | stored => cases hmute
    | _ => rfl
  constructor
  · rw [hrate, hjournal, held_of_isMute hmute]
    exact h.rate
  · rw [hjournal, List.countP_cons, List.countP_cons, hstored, hannounced]
    exact h.counted

theorem Counted.step (h : Counted start state notices)
    (hstep : Step (state, notices) (next, later)) : Counted start next later := by
  have hcounted := h.counted
  cases hstep with
  | @aside _ _ event hpace htiming =>
      refine h.note (Event.isMute_of_facet hpace) ?_ rfl rfl
      cases event with
      | announced => exact absurd rfl hpace
      | _ => rfl
  | store =>
      refine ⟨rfl, ?_⟩
      simp only [Pacing.store, List.countP_cons, List.length_cons, Event.isStored,
        Event.isAnnounced]
      simp
      omega
  | tell =>
      refine ⟨h.rate, ?_⟩
      simpa [Pacing.tell, Event.isStored, Event.isAnnounced] using hcounted
  | announce hover =>
      refine ⟨h.rate, ?_⟩
      simp only [Pacing.note, List.countP_cons, Event.isStored, Event.isAnnounced]
      simp at hcounted ⊢
      omega
  | subscribe routine => exact h.note rfl rfl rfl rfl
  | unsubscribe number => exact h.note rfl rfl rfl rfl
  | create throttle => exact h.note rfl rfl rfl rfl
  | retire number => exact h.note rfl rfl rfl rfl
  | turns number => exact h.note rfl rfl rfl rfl
  | activates number timing count htiming => exact h.note rfl rfl rfl rfl

/-- A live driver observes the pace, and its cap fits the rate, unless the
innermost announcement will tell it. -/
structure Fitting (state : Pacing) (notices : List Notice) (number : Nat)
    (cap : Cap) : Prop where
  observing : cap.alive = true → .driver number ∈ state.observers
  fits : cap.alive = true → cap.Fits state.rate ∨
    ∃ waiting outer, notices = ⟨state.rate, waiting⟩ :: outer ∧
      .driver number ∈ waiting

namespace Fitting

variable {number : Nat} {cap : Cap}

/-- What has been told is no longer to be told. -/
theorem tell {observer : Observer} {rest : List Observer}
    (h : Fitting state (⟨state.rate, observer :: rest⟩ :: notices) number cap)
    (hother : Observer.driver number ≠ observer) :
    Fitting (state.tell observer) (⟨state.rate, rest⟩ :: notices) number cap := by
  refine ⟨h.observing, fun halive => ?_⟩
  rcases h.fits halive with hfits | ⟨waiting, outer, hnotices, hwaits⟩
  · exact Or.inl hfits
  · obtain ⟨hnotice, rfl⟩ := List.cons.inj hnotices
    obtain ⟨_, rfl⟩ := Notice.mk.inj hnotice
    have hrest := (List.mem_cons.mp hwaits).resolve_left hother
    exact Or.inr ⟨rest, notices, rfl, hrest⟩

theorem announce {rate : Rate} {waiting : List Observer}
    (h : Fitting state (⟨rate, waiting⟩ :: notices) number cap)
    (hover : waiting = [] ∨ state.rate ≠ rate) :
    Fitting (state.note (.announced rate)) notices number cap := by
  refine ⟨h.observing, fun halive => ?_⟩
  rcases h.fits halive with hfits | ⟨left, outer, hnotices, hwaits⟩
  · exact Or.inl hfits
  · obtain ⟨hnotice, rfl⟩ := List.cons.inj hnotices
    obtain ⟨hrate, rfl⟩ := Notice.mk.inj hnotice
    rcases hover with rfl | hother
    · cases hwaits
    · exact absurd hrate.symm hother

theorem subscribe (h : Fitting state notices number cap) (observer : Observer) :
    Fitting (state.subscribe observer) notices number cap :=
  ⟨fun halive => List.mem_append_left _ (h.observing halive), h.fits⟩

theorem unsubscribe (h : Fitting state notices number cap) (id : ObserverId)
    (hother : id ≠ .driver number) :
    Fitting (state.unsubscribe id) notices number cap := by
  refine ⟨fun halive => ?_, h.fits⟩
  apply List.mem_filter.mpr
  exact ⟨h.observing halive, bne_iff_ne.mpr hother.symm⟩

theorem step (h : AtEach state.caps (Fitting state notices))
    (hstep : Step (state, notices) (next, later)) :
    AtEach next.caps (Fitting next later) := by
  cases hstep with
  | aside => exact h.imp fun _ _ hcap => ⟨hcap.observing, hcap.fits⟩
  | store =>
      -- Every cap may be wrong now, but every live driver is going to be told.
      refine h.imp fun number cap hcap => ⟨hcap.observing, fun halive => ?_⟩
      exact Or.inr ⟨_, _, rfl, hcap.observing halive⟩
  | @tell _ observer rest notices =>
      cases observer with
      | caller number routine =>
          exact h.imp fun _ _ hcap => hcap.tell Observer.noConfusion
      | driver number =>
          refine h.modify (fun cap hcap => ?_) fun other cap hne hcap => ?_
          · refine ⟨hcap.observing, fun _ => Or.inl ?_⟩
            exact Cap.fits_awaiting cap state.rate
          · exact hcap.tell fun heq => hne (Observer.driver.inj heq)
  | announce hover => exact h.imp fun _ _ hcap => hcap.announce hover
  | subscribe routine =>
      refine h.imp fun _ _ hcap => ?_
      have hkept := hcap.subscribe (.caller state.nextCaller routine)
      exact ⟨hkept.observing, hkept.fits⟩
  | unsubscribe number =>
      exact h.imp fun _ _ hcap => hcap.unsubscribe _ ObserverId.noConfusion
  | create throttle =>
      refine h.push ?_ fun _ _ _ hcap => ?_
      · refine ⟨fun _ => ?_, fun _ => Or.inl (Cap.fits_fresh throttle state.rate)⟩
        exact List.mem_append_right _ (List.mem_singleton_self _)
      · have hkept := hcap.subscribe (.driver state.caps.size)
        exact ⟨hkept.observing, hkept.fits⟩
  | retire number =>
      refine h.modify (fun cap _ => ?_) fun other cap hne hcap => ?_
      · exact ⟨Bool.noConfusion, Bool.noConfusion⟩
      · have hkept := hcap.unsubscribe (.driver number) fun heq =>
          hne (ObserverId.driver.inj heq).symm
        exact ⟨hkept.observing, hkept.fits⟩
  | turns number =>
      refine h.modify (fun cap hcap => ?_) fun _ _ _ hcap => ?_
      · constructor
        · rw [Cap.alive_applied]
          exact hcap.observing
        · rw [Cap.alive_applied]
          exact fun halive => (hcap.fits halive).imp_left Cap.Fits.applied
      · exact ⟨hcap.observing, hcap.fits⟩
  | activates => exact h.imp fun _ _ hcap => ⟨hcap.observing, hcap.fits⟩

end Fitting

/-- Everything that is known of the caps. -/
structure Capped (start : Rate) (state : Pacing) (notices : List Notice) :
    Prop where
  counted : Counted start state notices
  created : ∀ number, .subscribed (.driver number) ∈ state.journal →
    number < state.caps.size
  fitting : AtEach state.caps (Fitting state notices)
  capping : AtEach state.caps (Capping start state.journal)

namespace Capped

variable (h : Capped start state notices)

include h

theorem fits (hannounced : AllAnnounced state.journal) :
    AtEach state.caps fun _ cap => cap.alive = true → cap.Fits state.rate := by
  intro number cap hcap halive
  obtain rfl := h.counted.allAnnounced_iff.mp hannounced
  rcases (h.fitting number cap hcap).fits halive with
    hfits | ⟨waiting, outer, hnotices, _⟩
  · exact hfits
  · cases hnotices

theorem created_cons (event : Event)
    (hother : ∀ number, event ≠ .subscribed (.driver number)) (number : Nat)
    (hmem : .subscribed (.driver number) ∈ event :: state.journal) :
    number < state.caps.size :=
  h.created number ((List.mem_cons.mp hmem).resolve_left (hother number).symm)

theorem capping_cons (event : Event) (hevent : event.capped = none) :
    AtEach state.caps (Capping start (event :: state.journal)) := by
  refine h.capping.imp fun number cap hcap => hcap.cons ?_
  rw [hevent]
  exact Option.some_ne_none number |>.symm

theorem capping_begin (number : Nat) :
    AtEach (state.caps.modify number Cap.applied)
      (Capping start (.turnBegan number :: state.journal)) := by
  have hfits : AtEach state.caps fun number cap =>
      Capping start state.journal number cap ∧
        (AllAnnounced state.journal → cap.alive = true →
          cap.Fits (held start state.journal)) := by
    intro number cap hcap
    refine ⟨h.capping number cap hcap, fun hannounced => ?_⟩
    rw [← h.counted.rate]
    exact h.fits hannounced number cap hcap
  refine hfits.modify (fun cap hcap => hcap.1.begin hcap.2) ?_
  intro other cap hne hcap
  exact hcap.1.cons fun heq => hne (Option.some.inj heq).symm

theorem capping_create (throttle : Bool) :
    AtEach (state.caps.push (.fresh throttle state.rate))
      (Capping start (.subscribed (.driver state.caps.size) :: state.journal)) := by
  refine h.capping.push ?_ fun number cap hlt hcap => ?_
  · rw [h.counted.rate]
    exact .create (fun hmem => absurd (h.created _ hmem) (Nat.lt_irrefl _)) throttle
  · exact hcap.cons fun heq => Nat.ne_of_lt hlt (Option.some.inj heq).symm

theorem capping_retire (number : Nat) :
    AtEach (state.caps.modify number Cap.retired)
      (Capping start (.unsubscribed (.driver number) :: state.journal)) :=
  h.capping.modify (fun _ hcap => hcap.retire) fun _ _ _ hcap =>
    hcap.cons (Option.some_ne_none _).symm

theorem capping_activate {number count : Nat} {timing : Debouncer}
    (htiming : ∀ cap, state.caps[number]? = some cap →
      timing.interval = cap.interval) :
    AtEach state.caps
      (Capping start (.activated number timing count :: state.journal)) := by
  intro other cap hcap
  by_cases hother : number = other
  · subst hother
    exact (h.capping number cap hcap).activate (htiming cap hcap) count
  · exact (h.capping other cap hcap).cons fun heq => hother (Option.some.inj heq)

theorem aside (event : Event) (hevent : event.capped = none)
    (hcounted : Counted start next later)
    (hfitting : AtEach next.caps (Fitting next later))
    (hcaps : next.caps = state.caps)
    (hjournal : next.journal = event :: state.journal) :
    Capped start next later where
  counted := hcounted
  created := by
    rw [hjournal, hcaps]
    apply h.created_cons
    rintro number rfl
    cases hevent
  fitting := hfitting
  capping := by
    rw [hjournal, hcaps]
    exact h.capping_cons event hevent

theorem step (hstep : Step (state, notices) (next, later)) :
    Capped start next later := by
  have hcounted := h.counted.step hstep
  have hfitting := Fitting.step h.fitting hstep
  cases hstep with
  | aside hpace htiming =>
      exact h.aside _ (Event.capped_eq_none hpace htiming) hcounted hfitting rfl rfl
  | store =>
      exact h.aside (.stored _) rfl hcounted hfitting rfl rfl
  | @tell _ observer rest notices =>
      cases observer with
      | caller number routine =>
          exact h.aside (.told _ _) rfl hcounted hfitting rfl rfl
      | driver number =>
          have hcapping := h.capping_cons (.told (.driver number) state.rate) rfl
          refine ⟨hcounted, fun other hmem => ?_, hfitting, ?_⟩
          · rw [Pacing.tell, Array.size_modify]
            exact h.created_cons _ (fun _ => Event.noConfusion) other hmem
          · exact hcapping.modify (fun _ hcap => hcap.await _) fun _ _ _ hcap => hcap
  | announce hover =>
      exact h.aside (.announced _) rfl hcounted hfitting rfl rfl
  | subscribe routine =>
      exact h.aside (.subscribed _) rfl hcounted hfitting rfl rfl
  | unsubscribe number =>
      exact h.aside (.unsubscribed _) rfl hcounted hfitting rfl rfl
  | create throttle =>
      refine ⟨hcounted, fun number hmem => ?_, hfitting, h.capping_create throttle⟩
      rw [Pacing.create, Pacing.subscribe, Array.size_push]
      rcases List.mem_cons.mp hmem with hnew | hold
      · obtain rfl := ObserverId.driver.inj (Event.subscribed.inj hnew)
        exact Nat.lt_succ_self _
      · exact Nat.lt_succ_of_lt (h.created number hold)
  | retire number =>
      refine ⟨hcounted, fun other hmem => ?_, hfitting, h.capping_retire number⟩
      rw [Pacing.retire, Pacing.unsubscribe, Array.size_modify]
      exact h.created_cons _ (fun _ => Event.noConfusion) other hmem
  | turns number =>
      refine ⟨hcounted, fun other hmem => ?_, hfitting, h.capping_begin number⟩
      rw [Pacing.beginTurn, Pacing.note, Array.size_modify]
      exact h.created_cons _ (fun _ => Event.noConfusion) other hmem
  | activates number timing count htiming =>
      refine ⟨hcounted, fun other hmem => ?_, hfitting, h.capping_activate htiming⟩
      exact h.created_cons _ (fun _ => Event.noConfusion) other hmem

end Capped

end Pacing

end Cadence
