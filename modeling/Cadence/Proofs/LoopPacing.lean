import Cadence.Proofs.GentleRuns
import Cadence.Proofs.Handovers

/-!
The pacing of event loops.  Turns of a loop that are each given the deadline that
the one before answered run their refreshes by deadlines that lie at least a period
apart, however late a turn comes.
-/

namespace Cadence

open Exec Contract

namespace Loop

/-- What the clock reads in a turn: its time when the messages have been
delivered. -/
def reading (play : Play) (rig : Rig) : Nat :=
  ((Mailbox.deliver 0 rig).run play).2.now

section Turn

variable {period tick deadline depth : Nat} {rig later : Rig}

/-- The deadline that a turn is left with when its clock reads `now`. -/
def deadlineAfter (period deadline now : Nat) : Nat :=
  if deadline ≤ now then Refresh.nextDeadline period deadline now else deadline

/-- A turn opens one refresh if it is due, and none if it is not. -/
theorem run_turn {answer : Option Nat} (hgentle : rig.KeepsTo Order.IsGentle)
    (hrun : (turn period tick deadline rig).run (Script.playWithin depth) =
      (.value answer, later)) :
    let now := reading (Script.playWithin depth) rig
    later.KeepsTo Order.IsGentle ∧
      openings later.journal = openings rig.journal ++
        (if deadline ≤ now then [now] else []) ∧
      answer =
        if later.refresher.stopped || later.isIdle then none
        else some (deadlineAfter period deadline now) := by
  intro now
  have hplay : gently.Honoured (Script.playWithin depth) :=
    Gentle.soundOrders.honoured depth
  obtain ⟨fired, delivered, hdeliver, hrest⟩ := Progress.run_andThen_eq_value hrun
  have hdelivered := (Gentle.allowsMail.delivers 0 rig hgentle).run hplay
  have hnow : delivered.now = now := by
    simp only [now, reading, hdeliver]
  rw [hdeliver] at hdelivered
  -- At the end of a turn nothing changes any more.
  have hfinish {next : Nat} {state : Rig}
      (h : Progress.run (Script.playWithin depth)
        ((if state.refresher.stopped || state.isIdle then (pure none : Exec _)
          else pure (some next)) state) = (.value answer, later)) :
      state = later ∧ answer =
        if later.refresher.stopped || later.isIdle then none else some next := by
    split at h
    · rename_i hover
      cases h
      exact ⟨rfl, by rw [if_pos hover]⟩
    · rename_i hon
      cases h
      exact ⟨rfl, by rw [if_neg hon]⟩
  simp only [readClock, bind_apply, look_apply, update_apply, pure_apply,
    Progress.andThen, hnow, Refresh.isDue, decide_eq_true_eq] at hrest
  rw [deadlineAfter]
  by_cases hdue : deadline ≤ now
  · rw [if_pos hdue] at hrest
    rw [if_pos hdue, if_pos hdue]
    obtain ⟨count, refreshed, hrefresh, hend⟩ := Progress.run_andThen_eq_value hrest
    obtain ⟨rfl, hanswer⟩ := hfinish hend
    have hread : ({ delivered with now := now + tick } : Rig).KeepsTo
        Order.IsGentle := hdelivered.1.of_courses rfl
    have hrefreshed := (Gentle.respects_refresh now hread).run hplay
    rw [hrefresh] at hrefreshed
    exact ⟨hrefreshed.1, hrefreshed.2.trans (congrArg (· ++ [now]) hdelivered.2),
      hanswer⟩
  · rw [if_neg hdue] at hrest
    rw [if_neg hdue, if_neg hdue, List.append_nil]
    obtain ⟨rfl, hanswer⟩ := hfinish hrest
    exact ⟨hdelivered.1.of_courses rfl, hdelivered.2, hanswer⟩

end Turn

/-- A turn of a loop: the deadline it was given, the states in which it began and
ended, and what it answered. -/
structure Turned where
  deadline : Nat
  depth : Nat
  before : Rig
  after : Rig
  answer : Option Nat

namespace Turned

/-- What the clock read in a turn. -/
def reading (turned : Turned) : Nat :=
  Loop.reading (Script.playWithin turned.depth) turned.before

/-- The deadline of a turn has come. -/
def IsDue (turned : Turned) : Prop := turned.deadline ≤ turned.reading

instance (turned : Turned) : Decidable turned.IsDue :=
  inferInstanceAs (Decidable (_ ≤ _))

/-- The times of the refreshes that a turn ran. -/
def refreshes (turned : Turned) : List Nat :=
  (openings turned.after.journal).drop (openings turned.before.journal).length

end Turned

/-- Turns of a loop, the last one first, each given the deadline that the one before
it answered.  Between them anything may happen that leaves the routines gentle. -/
inductive Course (period first : Nat) : List Turned → Option Nat → Rig → Prop
  | start {rig} (hgentle : rig.KeepsTo Order.IsGentle) :
      Course period first [] (some first) rig
  | meanwhile {turns next rig later} (h : Course period first turns next rig)
      (hgentle : later.KeepsTo Order.IsGentle) :
      Course period first turns next later
  | turn {turns deadline rig answer later} (tick depth : Nat)
      (h : Course period first turns (some deadline) rig)
      (hrun : (Loop.turn period tick deadline rig).run (Script.playWithin depth) =
        (.value answer, later)) :
      Course period first (⟨deadline, depth, rig, later, answer⟩ :: turns) answer
        later

namespace Course

variable {period first deadline depth : Nat} {turns : List Turned}
  {next : Option Nat} {rig later : Rig}

theorem gentle (h : Course period first turns next rig) :
    rig.KeepsTo Order.IsGentle := by
  induction h with
  | start hgentle => exact hgentle
  | meanwhile _ hgentle _ => exact hgentle
  | turn tick depth _ hrun ih => exact (run_turn ih hrun).1

theorem same (h : Course period first turns next rig)
    (hcourses : later.courses = rig.courses) :
    Course period first turns next later :=
  h.meanwhile (h.gentle.of_courses hcourses)

/-- A loop that is turned by hand with the deadline that it answered. -/
theorem byHand (h : Course period first turns (some deadline) rig) {number : Nat}
    {answer : Option Nat} (hloop : rig.loops[number]? = some ⟨period, false⟩)
    (hperform : (Order.loop (.turn number deadline)).perform (depth + 1) rig =
      (.value (some answer), later)) :
    ∃ turned, Course period first (turned :: turns) answer later := by
  have hrun : (turnByHand number deadline rig).run (Script.playWithin depth) =
      (.value (some answer), later) := hperform
  simp only [turnByHand, bind_apply, look_apply, Progress.andThen, hloop,
    Bool.false_eq_true, if_false, map_apply, within_apply] at hrun
  obtain ⟨result, middle, hwithin, hend⟩ := Progress.run_andThen_eq_value hrun
  cases hend
  obtain ⟨turned, hturn, rfl⟩ := Progress.run_atEnd_eq_value hwithin
  have hbegan : Course period first turns (some deadline)
      { mark number true rig with
        journal := .entered (.loop number) :: rig.journal } := h.same rfl
  exact ⟨_, (hbegan.turn 0 depth hturn).same rfl⟩

/-- Turns until a loop ends. -/
theorem toEnd {tick limit : Nat} (h : Course period first turns (some deadline) rig)
    (hrun : (Loop.turns period tick limit deadline rig).run
      (Script.playWithin depth) = (.value (), later)) :
    ∃ more, Course period first (more ++ turns) none later := by
  induction limit generalizing deadline rig turns with
  | zero => cases hrun
  | succ limit ih =>
      obtain ⟨answer, middle, hturn, hrest⟩ := Progress.run_andThen_eq_value hrun
      have hturned := h.turn tick depth hturn
      rcases answer with _ | next
      · cases hrest
        exact ⟨[_], hturned⟩
      · simp only [bind_apply, look_apply, Progress.andThen] at hrest
        -- The clock may be read once more before the next turn.
        have hgoes : ∃ turned onward,
            Course period first (turned :: turns) (some next) onward ∧
            (Loop.turns period tick limit next onward).run
              (Script.playWithin depth) = (.value (), later) := by
          split at hrest
          · exact ⟨_, { middle with now := middle.now + tick }, hturned.same rfl, hrest⟩
          · exact ⟨_, middle, hturned, hrest⟩
        obtain ⟨turned, onward, honward, hturns⟩ := hgoes
        obtain ⟨more, hmore⟩ := ih honward hturns
        refine ⟨more ++ [turned], ?_⟩
        rw [List.append_assoc]
        exact hmore

/-- A loop that is run to its end starts with the time that its clock reads at
first. -/
theorem ofRun {tick limit : Nat} (hgentle : rig.KeepsTo Order.IsGentle)
    (hrun : (Loop.run limit period tick rig).run (Script.playWithin depth) =
      (.value (), later)) :
    ∃ turns, Course period rig.now turns none later := by
  simp only [Loop.run, readClock, bind_apply, log_apply, look_apply, update_apply,
    pure_apply, Progress.andThen] at hrun
  obtain ⟨_, middle, hturns, hend⟩ := Progress.run_andThen_eq_value hrun
  cases hend
  have hstart : Course period rig.now [] (some rig.now)
      { rig with
        now := rig.now + tick
        journal := .logged (Refresher.loopNotice period) :: rig.journal } :=
    .start (hgentle.of_courses rfl)
  obtain ⟨turns, hcourse⟩ := hstart.toEnd hturns
  rw [List.append_nil] at hcourse
  exact ⟨turns, hcourse.same rfl⟩

end Course

/-- What is promised of a turn. -/
structure PacesTurn (period : Nat) (turned : Turned) : Prop where
  /-- There is one refresh at most, at the time that the clock reads, and one exactly
  if the deadline has come. -/
  refreshes : turned.refreshes =
    if turned.IsDue then [turned.reading] else []
  /-- The loop ends if refreshes have been stopped or nothing is queued. -/
  ends : turned.answer = none ↔
    turned.after.refresher.stopped = true ∨ turned.after.isIdle = true
  unchanged : ¬ turned.IsDue → ∀ next ∈ turned.answer, next = turned.deadline
  /-- Deadlines do not drift, and missed refreshes are dropped. -/
  advances : turned.IsDue → ∀ next ∈ turned.answer,
    turned.reading < next ∧ next ≤ turned.reading + period ∧
      (turned.reading < turned.deadline + period →
        next = turned.deadline + period) ∧
      (turned.deadline + period ≤ turned.reading →
        next = turned.reading + period)

theorem PacesTurn.of_run {period tick deadline depth : Nat} {rig later : Rig}
    {answer : Option Nat} (hpositive : 0 < period)
    (hgentle : rig.KeepsTo Order.IsGentle)
    (hrun : (Loop.turn period tick deadline rig).run (Script.playWithin depth) =
      (.value answer, later)) :
    PacesTurn period ⟨deadline, depth, rig, later, answer⟩ := by
  obtain ⟨_, hopenings, hanswer⟩ := run_turn hgentle hrun
  have hnext : ∀ next ∈ answer, next =
      deadlineAfter period deadline (reading (Script.playWithin depth) rig) := by
    intro next hnext
    rw [hanswer] at hnext
    split at hnext
    · cases hnext
    · cases hnext
      rfl
  constructor
  · rw [Turned.refreshes, hopenings, List.drop_left]
    rfl
  · rw [hanswer, ← Bool.or_eq_true]
    split
    · rename_i hover
      exact iff_of_true rfl hover
    · rename_i hon
      exact iff_of_false (Option.some_ne_none _) hon
  · intro hearly next hmem
    exact (hnext next hmem).trans (if_neg hearly)
  · intro hdue next hmem
    obtain rfl : next = Refresh.nextDeadline period deadline
        (reading (Script.playWithin depth) rig) :=
      (hnext next hmem).trans (if_pos hdue)
    exact ⟨Refresh.lt_nextDeadline hpositive _ _,
      Refresh.nextDeadline_le (decide_eq_true hdue),
      fun hsoon => if_neg (Nat.not_le_of_lt hsoon), fun hlate => if_pos hlate⟩

/-- The deadline of one turn lies at least a period after that of another. -/
def Spaced (period : Nat) (later earlier : Turned) : Prop :=
  earlier.deadline + period ≤ later.deadline

section Spaced

variable {period first time : Nat}

theorem add_mul_le_of_spaced {turned : Turned} {turns : List Turned}
    (hspaced : (turned :: turns).Pairwise (Spaced period))
    (hfirst : ∀ other ∈ turned :: turns, first ≤ other.deadline) :
    first + turns.length * period ≤ turned.deadline := by
  induction turns generalizing turned with
  | nil => simpa using hfirst turned List.mem_cons_self
  | cons earlier oldest ih =>
      rw [List.pairwise_cons] at hspaced
      have hbefore := ih hspaced.2 fun other hother =>
        hfirst other (List.mem_cons_of_mem _ hother)
      have hgap : earlier.deadline + period ≤ turned.deadline :=
        hspaced.1 earlier List.mem_cons_self
      rw [List.length_cons, Nat.succ_mul]
      omega

/-- No more than one deadline, and one more for each period, falls into a span of
time. -/
theorem length_le_of_spaced (hpositive : 0 < period) {turns : List Turned}
    (hspaced : turns.Pairwise (Spaced period))
    (hfirst : ∀ turned ∈ turns, first ≤ turned.deadline)
    (hlast : ∀ turned ∈ turns, turned.deadline ≤ time) :
    turns.length ≤ 1 + (time - first) / period := by
  cases turns with
  | nil => exact Nat.zero_le _
  | cons turned older =>
      have hspan := add_mul_le_of_spaced hspaced hfirst
      have htime := hlast turned List.mem_cons_self
      have holder : older.length ≤ (time - first) / period :=
        (Nat.le_div_iff_mul_le hpositive).mpr (by omega)
      rw [List.length_cons]
      omega

/-- The refreshes up to some time are those of the turns that were due by then. -/
theorem refreshes_until {turns : List Turned}
    (hpaces : ∀ turned ∈ turns, PacesTurn period turned) (time : Nat) :
    (turns.flatMap Turned.refreshes).filter (· ≤ time) =
      ((turns.filter (·.IsDue)).filter (·.reading ≤ time)).map Turned.reading := by
  induction turns with
  | nil => rfl
  | cons turned older ih =>
      have hrest := ih fun other hother => hpaces other (List.mem_cons_of_mem _ hother)
      rw [List.flatMap_cons, List.filter_append, hrest,
        (hpaces turned List.mem_cons_self).refreshes]
      by_cases hdue : turned.IsDue
      · by_cases htime : turned.reading ≤ time
        · simp [hdue, htime]
        · simp [hdue, htime]
      · simp [hdue]

end Spaced

/-- What is promised of the turns of a loop with a given period, from its first
deadline on. -/
structure PacesRefreshes (period first : Nat) (turns : List Turned) : Prop where
  paces : ∀ turned ∈ turns, PacesTurn period turned
  spaced : (turns.filter (·.IsDue)).Pairwise (Spaced period)
  bounded : ∀ time, first ≤ time →
    ((turns.flatMap Turned.refreshes).filter (· ≤ time)).length ≤
      1 + (time - first) / period

/-- Where a loop stands after some turns. -/
structure Stands (period first : Nat) (turns : List Turned) (next : Option Nat)
    (rig : Rig) : Prop where
  gentle : rig.KeepsTo Order.IsGentle
  paces : ∀ turned ∈ turns, PacesTurn period turned
  spaced : (turns.filter (·.IsDue)).Pairwise (Spaced period)
  since : ∀ turned ∈ turns, first ≤ turned.deadline
  ahead : ∀ deadline ∈ next, first ≤ deadline ∧
    ∀ turned ∈ turns, turned.IsDue → turned.deadline + period ≤ deadline

theorem Course.stands {period first : Nat} {turns : List Turned} {next : Option Nat}
    {rig : Rig} (hpositive : 0 < period) (h : Course period first turns next rig) :
    Stands period first turns next rig := by
  induction h with
  | start hgentle =>
      refine ⟨hgentle, by simp, by simp, by simp, ?_⟩
      intro deadline hdeadline
      cases hdeadline
      exact ⟨Nat.le_refl _, by simp⟩
  | meanwhile _ hgentle ih => exact { ih with gentle := hgentle }
  | @turn turns deadline rig answer later tick depth _ hrun ih =>
      have hpaces := PacesTurn.of_run hpositive ih.gentle hrun
      have hahead := ih.ahead deadline rfl
      constructor
      · exact (run_turn ih.gentle hrun).1
      · intro turned hturned
        rcases List.mem_cons.mp hturned with rfl | holder
        · exact hpaces
        · exact ih.paces turned holder
      · by_cases hdue : (⟨deadline, depth, rig, later, answer⟩ : Turned).IsDue
        · rw [List.filter_cons, if_pos (decide_eq_true hdue), List.pairwise_cons]
          refine ⟨fun earlier hearlier => ?_, ih.spaced⟩
          obtain ⟨holder, hearlier⟩ := List.mem_filter.mp hearlier
          exact hahead.2 earlier holder (of_decide_eq_true hearlier)
        · rw [List.filter_cons, if_neg fun h => hdue (of_decide_eq_true h)]
          exact ih.spaced
      · intro turned hturned
        rcases List.mem_cons.mp hturned with rfl | holder
        · exact hahead.1
        · exact ih.since turned holder
      · -- A refresh moves the deadline by a period at least, and without one it
        -- stays where it was.
        intro next hnext
        by_cases hdue : (⟨deadline, depth, rig, later, answer⟩ : Turned).IsDue
        · have hmoved : deadline + period ≤ next := by
            obtain ⟨hlater, _, hon, _⟩ := hpaces.advances hdue next hnext
            rcases Nat.lt_or_ge (reading (Script.playWithin depth) rig)
              (deadline + period) with hsoon | hlate
            · exact Nat.le_of_eq (hon hsoon).symm
            · exact Nat.le_trans hlate (Nat.le_of_lt hlater)
          refine ⟨by omega, fun turned hturned hrefreshed => ?_⟩
          rcases List.mem_cons.mp hturned with rfl | holder
          · exact hmoved
          · have hbefore := hahead.2 turned holder hrefreshed
            omega
        · obtain rfl : next = deadline := hpaces.unchanged hdue next hnext
          refine ⟨hahead.1, fun turned hturned hrefreshed => ?_⟩
          rcases List.mem_cons.mp hturned with rfl | holder
          · exact absurd hrefreshed hdue
          · exact hahead.2 turned holder hrefreshed

/-- However late the turns of a loop come, and whatever its messages and frames do
short of running refreshes themselves, the refreshes of the loop keep to their
deadlines and are never more than the period allows. -/
theorem pacesRefreshes {period first : Nat} {turns : List Turned}
    {next : Option Nat} {rig : Rig} (hpositive : 0 < period)
    (hcourse : Course period first turns next rig) :
    PacesRefreshes period first turns := by
  have hstands := hcourse.stands hpositive
  refine ⟨hstands.paces, hstands.spaced, fun time hfirst => ?_⟩
  rw [refreshes_until hstands.paces, List.length_map]
  apply length_le_of_spaced hpositive (hstands.spaced.filter _)
  · intro turned hturned
    have hmem := (List.mem_filter.mp (List.mem_filter.mp hturned).1).1
    exact hstands.since turned hmem
  · intro turned hturned
    obtain ⟨hdue, htime⟩ := List.mem_filter.mp hturned
    have hcome : turned.deadline ≤ turned.reading :=
      of_decide_eq_true (List.mem_filter.mp hdue).2
    exact Nat.le_trans hcome (of_decide_eq_true htime)

/-- A frame callback that requests itself again and again. -/
def animating : Script :=
  .routine (fun _ _ => .order (.refresh (.request 0)) fun _ => .done .null)
    fun routine => .order (.refresh (.request routine)) fun _ => .done .null

def animatingRig : Rig :=
  (animating.playWithin 1 (Rig.fresh .initial Duration.perSecond)).2

/-- A turn of a loop with a period of ten, with the clock set. -/
def turnAt (deadline now : Nat) (rig : Rig) : Ending (Option Nat) × Rig :=
  (Loop.turn 10 0 deadline { rig with now }).run (Script.playWithin 1)

theorem Course.turnsAt {first deadline now : Nat} {turns : List Turned} {rig : Rig}
    {answer : Option Nat} (h : Course 10 first turns (some deadline) rig)
    (hanswer : (turnAt deadline now rig).1 = .value answer) :
    Course 10 first (⟨deadline, 1, { rig with now }, (turnAt deadline now rig).2,
      answer⟩ :: turns) answer (turnAt deadline now rig).2 := by
  have hwaited : Course 10 first turns (some deadline) { rig with now } :=
    h.same rfl
  exact hwaited.turn 0 1 (Prod.ext hanswer rfl)

def onTime : Rig := (turnAt 0 0 animatingRig).2

def late : Rig := (turnAt 10 35 onTime).2

/-- A turn in time, a late one, and one that comes too early. -/
theorem pacesRefreshes_animating : ∃ turns rig,
    Course 10 0 turns (some 45) rig ∧
      turns.map (fun turned => (turned.deadline, turned.reading, turned.refreshes)) =
        [(45, 40, []), (10, 35, [35]), (0, 0, [0])] ∧
      PacesRefreshes 10 0 turns := by
  have hkeeps : animating.KeepsTo Order.IsGentle :=
    ⟨fun _ _ => ⟨rfl, fun _ => trivial⟩, fun _ => ⟨rfl, fun _ => trivial⟩⟩
  have hgentle : animatingRig.KeepsTo Order.IsGentle :=
    (Gentle.soundOrders.honoured 1 animating _ hkeeps (Rig.keepsTo_fresh _ _ _)).1
  have hstart : Course 10 0 [] (some 0) animatingRig := .start hgentle
  have hfirst : (turnAt 0 0 animatingRig).1 = .value (some 10) := by rfl
  have hsecond : (turnAt 10 35 onTime).1 = .value (some 45) := by rfl
  have hthird : (turnAt 45 40 late).1 = .value (some 45) := by rfl
  have hcourse := ((hstart.turnsAt hfirst).turnsAt hsecond).turnsAt hthird
  exact ⟨_, _, hcourse, by decide +kernel, pacesRefreshes (by decide) hcourse⟩

end Loop

end Cadence
