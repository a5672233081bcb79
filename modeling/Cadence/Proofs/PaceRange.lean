import Cadence.Environment
import Cadence.Proofs.Invocations
import Cadence.Proofs.PacedRenders
import Cadence.Proofs.RoundedIntervals

/-!
The pace stays in range.  Whatever is asked of it, at least one cycle is run per frame,
and frames last a finite number of milliseconds and no less than one; so the renders of
a driver that caps them stay capped.
-/

namespace Cadence

theorem Binary64.le_of_not_lt {a b : Binary64} (ha : a.isFinite = true)
    (hb : b.isFinite = true) (hnot : ¬ a < b) : b ≤ a := by
  obtain ⟨x, hx⟩ : ∃ x, a.position? = some x := by
    cases a with
    | finite negative magnitude => exact ⟨_, rfl⟩
    | _ => cases ha
  obtain ⟨y, hy⟩ : ∃ y, b.position? = some y := by
    cases b with
    | finite negative magnitude => exact ⟨_, rfl⟩
    | _ => cases hb
  have hnot : ¬ a.lt b = true := hnot
  have hle : b.le a = true := by
    rw [lt, hx, hy, decide_eq_true_iff] at hnot
    rw [le, hx, hy, decide_eq_true_iff]
    exact Int.not_lt.mp hnot
  exact hle

namespace Rate

/-- A number of milliseconds that frames can last. -/
structure IsFrameTime (millis : Binary64) : Prop where
  isFinite : millis.isFinite = true
  min_le : minFrameTime ≤ millis

instance (millis : Binary64) : Decidable (IsFrameTime millis) :=
  decidable_of_iff (_ ∧ _) ⟨fun h => ⟨h.1, h.2⟩, fun h => ⟨h.isFinite, h.min_le⟩⟩

theorem isFrameTime_min : IsFrameTime minFrameTime := by
  decide +kernel

theorem isFrameTime_clamp (millis : Binary64) : IsFrameTime (clampFrameTime millis) := by
  unfold clampFrameTime
  split
  · rename_i hpositive
    have hfinite := (Bool.and_eq_true_iff.mp hpositive).1
    unfold Binary64.max
    split
    · exact isFrameTime_min
    · rename_i hnot
      exact ⟨hfinite, Binary64.le_of_not_lt hfinite isFrameTime_min.isFinite hnot⟩
  · exact isFrameTime_min

/-- At least one cycle and no more than can be stored, at a usable frame time. -/
structure InRange (rate : Rate) : Prop where
  cycles : 1 ≤ rate.cycles.toNat ∧ rate.cycles.toNat ≤ maxCycles
  frameTime : IsFrameTime rate.frameTime

instance (rate : Rate) : Decidable rate.InRange :=
  decidable_of_iff (_ ∧ _) ⟨fun h => ⟨h.1, h.2⟩, fun h => ⟨h.cycles, h.frameTime⟩⟩

theorem toNat_le_maxCycles (cycles : UInt32) : cycles.toNat ≤ maxCycles :=
  Nat.le_sub_one_of_lt cycles.toNat_lt

theorem cycles_inRange (cycles : Int) :
    1 ≤ (clampCycles cycles).toNat ∧ (clampCycles cycles).toNat ≤ maxCycles :=
  ⟨one_le_clampCycles cycles, toNat_le_maxCycles _⟩

/-- Whatever a store is built from, it starts in range. -/
theorem inRange_clamped (rate : Rate) : rate.clamped.InRange where
  cycles := by
    refine ⟨?_, toNat_le_maxCycles _⟩
    rw [clamped]
    split
    · exact Nat.le_refl 1
    · rename_i hne
      exact Nat.pos_iff_ne_zero.mpr fun hzero => hne (UInt32.toNat_inj.mp hzero)
  frameTime := isFrameTime_clamp rate.frameTime

theorem inRange_initial : initial.InRange := by
  decide +kernel

/-- Setters leave a rate in range. -/
theorem InRange.sets {rate other : Rate} (h : rate.InRange) (hsets : rate.Sets other) :
    other.InRange := by
  cases hsets with
  | cycles cycles => exact ⟨cycles_inRange cycles, h.frameTime⟩
  | frameTime millis => exact ⟨h.cycles, isFrameTime_clamp millis⟩

end Rate

/-- The environment asks for nothing out of range. -/
theorem Environment.inRange_rate (environment : Environment) :
    environment.rate.value.InRange where
  cycles := by
    unfold Environment.rate
    dsimp only
    cases (environment.read cyclesVariable Decimal.readInt64?).value with
    | none => exact Rate.inRange_initial.cycles
    | some cycles => exact Rate.cycles_inRange cycles
  frameTime := by
    unfold Environment.rate
    dsimp only
    cases (environment.read frameTimeVariable Decimal.readBinary64?).value with
    | none => exact Rate.inRange_initial.frameTime
    | some millis => exact Rate.isFrameTime_clamp millis

/-- The rates that an event stores, announces, or tells an observer. -/
def Event.rates : Event → List Rate
  | .stored rate => [rate]
  | .told _ rate => [rate]
  | .announced rate => [rate]
  | _ => []

theorem Event.rates_of_facet {event : Event} (hpace : event.facet ≠ .pace) :
    event.rates = [] := by
  cases event with
  | stored => exact absurd rfl hpace
  | told => exact absurd rfl hpace
  | announced => exact absurd rfl hpace
  | _ => rfl

/-- Every rate that some events tell of is in range. -/
def AllInRange (events : List Event) : Prop :=
  ∀ event ∈ events, ∀ rate ∈ event.rates, rate.InRange

theorem AllInRange.cons {event : Event} {events : List Event} (h : AllInRange events)
    (hevent : ∀ rate ∈ event.rates, rate.InRange) : AllInRange (event :: events) :=
  List.forall_mem_cons.mpr ⟨hevent, h⟩

/-- A cap awaits no unusable frame time, and it is one. -/
structure Cap.InRange (cap : Cap) : Prop where
  pending : ∀ millis, cap.pending = some millis → Rate.IsFrameTime millis
  interval : cap.throttle = true → Duration.ofMillis 1 ≤ cap.interval

/-- Frames of a usable time are rendered at intervals of at least a millisecond. -/
theorem Rate.IsFrameTime.le_interval {millis : Binary64} (h : Rate.IsFrameTime millis) :
    Duration.ofMillis 1 ≤ Driver.intervalOfFrameTime millis :=
  Driver.le_intervalOfFrameTime h.isFinite
    (Binary64.atLeast_of_le Nat.one_pos (by decide) h.min_le)

namespace Cap.InRange

variable {cap : Cap}

theorem fresh {rate : Rate} (hrate : rate.InRange) (throttle : Bool) :
    (Cap.fresh throttle rate).InRange where
  pending _ hnone := by cases hnone
  interval hthrottle := by
    have hinterval : (Cap.fresh throttle rate).interval =
        Driver.intervalOfFrameTime rate.frameTime := if_pos hthrottle
    rw [hinterval]
    exact hrate.frameTime.le_interval

theorem awaiting (h : cap.InRange) {millis : Binary64} (hmillis : Rate.IsFrameTime millis) :
    (cap.awaiting millis).InRange where
  pending other hother := by
    obtain rfl := Option.some.inj hother
    exact hmillis
  interval := h.interval

/-- A frame time is taken over by the cap that awaited it. -/
theorem applied (h : cap.InRange) : cap.applied.InRange where
  pending := by
    rw [Cap.pending_applied]
    exact fun _ hnone => by cases hnone
  interval := by
    rw [Cap.throttle_applied]
    intro hthrottle
    cases hpending : cap.pending with
    | none =>
      have hkept : cap.applied = cap := by rw [Cap.applied, hpending]
      rw [hkept]
      exact h.interval hthrottle
    | some millis =>
      have hinterval : cap.applied.interval = Driver.intervalOfFrameTime millis := by
        rw [Cap.applied, hpending]
        exact if_pos hthrottle
      rw [hinterval]
      exact (h.pending millis hpending).le_interval

theorem retired (h : cap.InRange) : cap.retired.InRange :=
  ⟨h.pending, h.interval⟩

end Cap.InRange

namespace Pacing

/-- Everything about a pace and the announcements under way is in range. -/
structure InRange (state : Pacing) (notices : List Notice) : Prop where
  rate : state.rate.InRange
  notices : ∀ notice ∈ notices, notice.rate.InRange
  caps : AtEach state.caps fun _ cap => cap.InRange
  journal : AllInRange state.journal

namespace InRange

variable {state next : Pacing} {notices later : List Notice}

/-- What changes neither the rate nor a cap needs to tell of no rate. -/
theorem aside (h : InRange state notices) {event : Event} (hevent : event.rates = [])
    (hrate : next.rate = state.rate) (hcaps : next.caps = state.caps)
    (hjournal : next.journal = event :: state.journal) : InRange next notices where
  rate := by
    rw [hrate]
    exact h.rate
  notices := h.notices
  caps := by
    rw [hcaps]
    exact h.caps
  journal := by
    rw [hjournal]
    apply h.journal.cons
    rw [hevent]
    exact List.forall_mem_nil _

theorem step (h : InRange state notices) (hstep : Step (state, notices) (next, later)) :
    InRange next later := by
  cases hstep with
  | aside hpace htiming => exact h.aside (Event.rates_of_facet hpace) rfl rfl rfl
  | @store _ _ rate hsets =>
      have hrate := h.rate.sets hsets
      refine ⟨hrate, List.forall_mem_cons.mpr ⟨hrate, h.notices⟩, h.caps, ?_⟩
      exact h.journal.cons (List.forall_mem_singleton.mpr hrate)
  | @tell _ observer rest notices =>
      have hjournal : AllInRange (.told observer.id state.rate :: state.journal) :=
        h.journal.cons (List.forall_mem_singleton.mpr h.rate)
      obtain ⟨hrate, hnotices⟩ := List.forall_mem_cons.mp h.notices
      refine ⟨h.rate, List.forall_mem_cons.mpr ⟨hrate, hnotices⟩, ?_, hjournal⟩
      cases observer with
      | caller number routine => exact h.caps
      | driver number =>
          exact h.caps.modify (fun cap hcap => hcap.awaiting h.rate.frameTime)
            fun _ _ _ hcap => hcap
  | @announce _ rate waiting notices hover =>
      obtain ⟨hrate, hnotices⟩ := List.forall_mem_cons.mp h.notices
      exact ⟨h.rate, hnotices, h.caps,
        h.journal.cons (List.forall_mem_singleton.mpr hrate)⟩
  | subscribe routine => exact h.aside rfl rfl rfl rfl
  | unsubscribe number => exact h.aside rfl rfl rfl rfl
  | create throttle =>
      refine ⟨h.rate, h.notices, ?_, h.journal.cons (List.forall_mem_nil _)⟩
      exact h.caps.push (.fresh h.rate throttle) fun _ _ _ hcap => hcap
  | retire number =>
      refine ⟨h.rate, h.notices, ?_, h.journal.cons (List.forall_mem_nil _)⟩
      exact h.caps.modify (fun _ hcap => hcap.retired) fun _ _ _ hcap => hcap
  | turns number =>
      refine ⟨h.rate, h.notices, ?_, h.journal.cons (List.forall_mem_nil _)⟩
      exact h.caps.modify (fun _ hcap => hcap.applied) fun _ _ _ hcap => hcap
  | activates => exact h.aside rfl rfl rfl rfl

end InRange

/-- A pace that starts in range stays there, through announcements of any depth. -/
theorem Steps.inRange {start : Pacing} {after : Pacing × List Notice}
    (hstart : InRange start []) (hsteps : Steps (start, []) after) :
    InRange after.1 after.2 := by
  induction hsteps with
  | refl => exact hstart
  | tail _ hstep ih => exact ih.step hstep

theorem inRange_fresh (rate : Rate) (reportInterval : Nat) :
    InRange (Rig.fresh rate reportInterval).pacing [] where
  rate := rate.inRange_clamped
  notices := List.forall_mem_nil _
  caps number cap hcap := by simp [Rig.pacing, Rig.fresh] at hcap
  journal := List.forall_mem_nil _

end Pacing

namespace Rig

/-- Nothing about the pace of a rig is out of range, and no cap on renders is off. -/
structure StaysInRange (rig : Rig) : Prop where
  rate : rig.pace.rate.InRange
  /-- So is every rate that was ever stored, announced, or told to an observer. -/
  journal : AllInRange rig.journal
  /-- So is the rate that an observer is told when it is called, whoever asks for it. -/
  called : ∀ depth (order : Order), order.callsObservers = true → ∀ script begun,
    (order.carryOut (depth + 1) rig).Hands (Script.playWithin depth) script begun →
    (∃ observer : Observer, observer.Begins script begun) ∧ begun.pace.rate.InRange
  /-- A frame time that a driver has been told and has not taken over yet. -/
  awaited : ∀ (number : Nat) (driver : Driver), rig.drivers[number]? = some driver →
    ∀ millis, driver.pending = some millis → Rate.IsFrameTime millis
  capped : ∀ (number : Nat) (driver : Driver), rig.drivers[number]? = some driver →
    driver.throttle = true →
      Duration.ofMillis 1 ≤ driver.render.interval ∧ driver.render.isEnabled = true

/-- Whatever rate a store is built from and whatever is asked of it, it stays in range,
and so does everything that observers and drivers take from it. -/
theorem staysInRange {rate : Rate} {reportInterval : Nat} {rig : Rig}
    (hbecomes : (Rig.fresh rate reportInterval).Becomes rig) : rig.StaysInRange := by
  obtain ⟨notices, hsteps⟩ := hbecomes.paced
  have hrange := hsteps.inRange (Pacing.inRange_fresh rate reportInterval)
  have hcalled (depth : Nat) (order : Order) (horder : order.callsObservers = true)
      (script : Script) (begun : Rig)
      (hhands : (order.carryOut (depth + 1) rig).Hands (Script.playWithin depth) script begun) :
      (∃ observer : Observer, observer.Begins script begun) ∧ begun.pace.rate.InRange := by
    obtain ⟨observer, -, hbegins⟩ := (order.handsOnly_carryOut horder _ rig).of_hands hhands
    have hpasses : Script.Passes (depth + 1) (.order order fun _ => .done .null) rig begun :=
      .inside hhands .here
    obtain ⟨_, hbegun⟩ := (hbecomes.midway hpasses).paced
    have hheld := hbegun.inRange (Pacing.inRange_fresh rate reportInterval)
    exact ⟨⟨observer, hbegins⟩, hheld.rate⟩
  have hcap {number : Nat} {driver : Driver} (hdriver : rig.drivers[number]? = some driver) :
      driver.cap.InRange := by
    apply hrange.caps number
    change (rig.drivers.map Driver.cap)[number]? = some driver.cap
    rw [Array.getElem?_map, hdriver]
    rfl
  refine ⟨hrange.rate, hrange.journal, hcalled, fun _ _ hdriver => (hcap hdriver).pending, ?_⟩
  intro number driver hdriver hthrottle
  have hinterval : Duration.ofMillis 1 ≤ driver.render.interval :=
    (hcap hdriver).interval hthrottle
  have hpositive : 0 < driver.render.interval :=
    Nat.lt_of_lt_of_le (by decide) hinterval
  exact ⟨hinterval, bne_iff_ne.mpr (Nat.pos_iff_ne_zero.mp hpositive)⟩

/-- An observed pace with a driver, from which everything out of range is asked. -/
def straining : Script :=
  .routine (fun _ _ => .done .null) fun routine =>
    let demands : List Order :=
      [.pace (.subscribe routine),
        .driver (.newEmulator (.card default)),
        .driver (.newDriver 0 default .standard .shared),
        .pace (.setCycles 0), .control (.apply .fewerCycles),
        .pace (.setFrameTime .nan), .pace (.setFrameTime (.infinite false)),
        .pace (.setFrameTime (Binary64.ofBits 1)),
        .pace (.setFrameTime (Binary64.ofBits 0x7fefffffffffffff)),
        .driver (.turn 0 none), .control (.apply .shorterFrame)]
    demands.foldr (fun demand rest => .order demand fun _ => rest) (.done .null)

def strainedRig : Rig :=
  (straining.playWithin 3 (Rig.fresh ⟨0, .nan⟩ Duration.perSecond)).2

/-- The largest frame time gives the longest interval. -/
theorem staysInRange_straining :
    strainedRig.StaysInRange ∧
      (strainedRig.driver 0).render.interval = Duration.longest := by
  have hbecomes : (Rig.fresh ⟨0, .nan⟩ Duration.perSecond).Becomes strainedRig :=
    .after 3 straining .start
  exact ⟨staysInRange hbecomes, by decide +kernel⟩

end Rig

end Cadence
