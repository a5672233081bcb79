import Mathlib.Data.List.Forall2
import Cadence.Proofs.Handovers
import Cadence.Proofs.KeptFacts

/-!
Invocations of observers.  What a setter hands the rig over to is what its observers
do, in the order of their subscriptions, and each of them is told the rate that is held
at the moment when it begins.
-/

namespace Cadence

open Exec

/-- Whatever user code does, a computation hands the rig over as it is allowed to. -/
def Progress.HandsOnly {α : Type} (allowed : Script → Rig → Prop) : Progress α → Prop
  | .ended _ _ => True
  | .handed script rig resume =>
      allowed script rig ∧ ∀ ending later, (resume ending later).HandsOnly allowed

namespace Progress

variable {α β : Type} {allowed : Script → Rig → Prop}

theorem handsOnly_andThen {next : α → Exec β} {progress : Progress α}
    (h : progress.HandsOnly allowed) (hnext : ∀ a rig, (next a rig).HandsOnly allowed) :
    (progress.andThen next).HandsOnly allowed := by
  induction progress with
  | ended ending rig =>
      cases ending with
      | value a => exact hnext a rig
      | _ => trivial
  | handed script rig resume ih => exact ⟨h.1, fun ending later => ih _ _ (h.2 ending later)⟩

theorem HandsOnly.imp {wider : Script → Rig → Prop}
    (himp : ∀ script rig, allowed script rig → wider script rig) {progress : Progress α}
    (h : progress.HandsOnly allowed) : progress.HandsOnly wider := by
  induction progress with
  | ended => trivial
  | handed script rig resume ih =>
      exact ⟨himp _ _ h.1, fun ending later => ih _ _ (h.2 ending later)⟩

theorem HandsOnly.of_hands {play : Play} {progress : Progress α}
    (h : progress.HandsOnly allowed) {script : Script} {moment : Rig}
    (hhands : progress.Hands play script moment) : allowed script moment := by
  induction hhands with
  | now => exact h.1
  | later _ ih => exact ih (h.2 _ _)

end Progress

/-- A script that begins at some moment is what an observer does when it is told the
rate that is held then, of which the journal has told right before. -/
def Observer.Begins (script : Script) (moment : Rig) : Observer → Prop
  | .driver _ => False
  | .caller number routine => ∃ course call older,
      moment.routines[routine]? = some ⟨course, call + 1⟩ ∧
        moment.journal = .told (.caller number) moment.pace.rate :: older ∧
        script = course call (.rate moment.pace.rate)

/-- What an observer calls that is told a rate: a routine is run with it once, and a
driver notes it down and calls nothing. -/
def Observer.Hears (rig : Rig) (rate : Rate) : Observer → List Handover → Prop
  | .driver _, calls => calls = []
  | .caller _ routine, calls => ∀ course, rig.Runs routine course →
      ∃ call answer, calls = [⟨course call (.rate rate), .value answer⟩]

theorem Observer.Hears.of_runs {rig later : Rig} {rate : Rate} {observer : Observer}
    {calls : List Handover} (h : observer.Hears later rate calls)
    (hruns : ∀ routine course, rig.Runs routine course → later.Runs routine course) :
    observer.Hears rig rate calls := by
  cases observer with
  | driver number => exact h
  | caller number routine => exact fun course hcourse => h course (hruns _ _ hcourse)

namespace Pace

/-- Observers have been told a rate one after the other, and have called so much; those
who are left were kept from it by another rate. -/
def Tells (rate : Rate) (observers : List Observer) (rig later : Rig)
    (calls : List Handover) : Prop :=
  ∃ told left heard, observers = told ++ left ∧ calls = heard.flatten ∧
    List.Forall₂ (Observer.Hears rig rate) told heard ∧
    (left = [] ∨ later.pace.rate ≠ rate)

theorem Tells.of_runs {rate : Rate} {observers : List Observer} {rig middle later : Rig}
    {calls : List Handover} (h : Tells rate observers middle later calls)
    (hruns : ∀ routine course, rig.Runs routine course → middle.Runs routine course) :
    Tells rate observers rig later calls := by
  obtain ⟨told, left, heard, hobservers, hcalls, hheard, hover⟩ := h
  exact ⟨told, left, heard, hobservers, hcalls,
    hheard.imp fun _ _ hhears => hhears.of_runs hruns, hover⟩

/-! ### Every invocation -/

/-- The beginning of some observer who is told the rate. -/
abbrev Invokes (observes : Observer → Prop) (script : Script) (moment : Rig) : Prop :=
  ∃ observer, observes observer ∧ observer.Begins script moment

theorem Invokes.anyone {observes : Observer → Prop} (script : Script) (moment : Rig)
    (h : Invokes observes script moment) : Invokes (fun _ => True) script moment :=
  h.imp fun _ hbegins => ⟨trivial, hbegins.2⟩

section Beginnings

variable {rate : Rate} {rig : Rig}

/-- The journal has told of an observer who is about to be told. -/
def heralded (rate : Rate) (number : Nat) (rig : Rig) : Rig :=
  { rig with journal := .told (.caller number) rate :: rig.journal }

theorem tell_apply (rate : Rate) (number routine : Nat) (rig : Rig) :
    tell rate (.caller number routine) rig =
      (call routine (.rate rate) (heralded rate number rig)).andThen fun _ =>
        (pure () : Exec Unit) :=
  rfl

theorem handsOnly_tell {observes : Observer → Prop} {observer : Observer}
    (hobserves : observes observer) (hrate : rig.pace.rate = rate) :
    (tell rate observer rig).HandsOnly (Invokes observes) := by
  cases observer with
  | driver number => trivial
  | caller number routine =>
      rw [tell_apply]
      refine Progress.handsOnly_andThen ?_ fun _ _ => trivial
      rcases hentry : (heralded rate number rig).routines[routine]? with _ | entry
      · simp only [call, bind_apply, look_apply, Progress.andThen, hentry]
        trivial
      · rw [call_apply hentry]
        subst hrate
        refine ⟨⟨_, hobserves, entry.course, entry.calls, rig.journal, ?_, rfl, rfl⟩,
          fun ending later => Progress.handsOnly_andThen trivial fun _ _ => trivial⟩
        rw [Array.getElem?_modify, if_pos rfl, hentry]
        rfl

/-- Nobody is told a rate that is not held any more. -/
theorem handsOnly_announce {observes : Observer → Prop} {observers : List Observer}
    (hobserves : ∀ observer ∈ observers, observes observer) (hrate : rig.pace.rate = rate) :
    (announce rate observers rig).HandsOnly (Invokes observes) := by
  induction observers generalizing rig with
  | nil => trivial
  | cons observer rest ih =>
      obtain ⟨hfirst, hrest⟩ := List.forall_mem_cons.mp hobserves
      refine Progress.handsOnly_andThen (handsOnly_tell hfirst hrate) fun _ middle => ?_
      simp only [bind_apply, look_apply, Progress.andThen]
      split
      · rename_i hsame
        exact ih hrest hsame
      · trivial

/-- A rate has been stored, and is about to be announced. -/
def stored (rate : Rate) (rig : Rig) : Rig :=
  { rig with
    pace := { rig.pace with rate }
    journal := (rateNotice rate).reverse.map Event.logged ++ .stored rate :: rig.journal }

theorem adopt_apply (rate : Rate) (rig : Rig) :
    adopt rate rig =
      (announce rate rig.pace.observers (stored rate rig)).andThen fun _ =>
        record (.announced rate) :=
  rfl

theorem handsOnly_adopt (rate : Rate) (rig : Rig) :
    (adopt rate rig).HandsOnly (Invokes (· ∈ rig.pace.observers)) := by
  rw [adopt_apply]
  exact Progress.handsOnly_andThen (handsOnly_announce (fun _ => id) rfl) fun _ _ => trivial

end Beginnings

/-! ### Setters -/

/-- The rate that a setter asks for. -/
def target (rate : Rate) : PaceOrder → Option Rate
  | .setCycles cycles =>
      some { rate with cycles := Rate.clampCycles cycles.toNat }
  | .setFrameTime millis =>
      some { rate with frameTime := Rate.clampFrameTime millis }
  | _ => none

/-- The part of a rate that a setter sets, and answers. -/
def setPart : (order : PaceOrder) → Rate → Option order.Answer
  | .setCycles _, rate => some rate.cycles
  | .setFrameTime _, rate => some rate.frameTime
  | .rate, _ => none
  | .setRunning _, _ => none
  | .toggleRunning, _ => none
  | .subscribe _, _ => none
  | .unsubscribe _, _ => none
  | .describe, _ => none

section Setters

variable {rig : Rig} {rate : Rate} {order : PaceOrder}

/-- A setter logs something, adopts the rate it asks for unless it is held already, and
answers its own part of that rate. -/
theorem perform_setter (htarget : target rig.pace.rate order = some rate) :
    ∃ (lines : List Log.Line) (answer : order.Answer),
      setPart order rate = some answer ∧ rig.pace.rate.Sets rate ∧
        perform order rig =
          (if rate = rig.pace.rate then pure answer
            else adopt rate >>= fun _ => pure answer)
            { rig with journal := lines.map Event.logged ++ rig.journal } := by
  cases order with
  | setCycles cycles =>
      cases htarget
      refine ⟨(Rate.cyclesComplaint cycles.toNat).reverse, _, rfl, .cycles _, ?_⟩
      simp only [perform, setCycles, Exec.bind_apply, Exec.log_apply,
        Exec.look_apply, Progress.andThen]
      split
      · rename_i hsame
        rw [if_pos (by rw [← hsame])]
      · rename_i hother
        rw [if_neg fun hrate => hother (congrArg Rate.cycles hrate).symm]
  | setFrameTime millis =>
      cases htarget
      refine ⟨(Rate.frameTimeComplaint millis).reverse, _, rfl, .frameTime _, ?_⟩
      simp only [perform, setFrameTime, Exec.bind_apply, Exec.log_apply,
        Exec.look_apply, Progress.andThen]
      split
      · rename_i hsame
        rw [if_pos (by rw [← hsame])]
      · rename_i hother
        rw [if_neg fun hrate => hother (congrArg Rate.frameTime hrate).symm]
  | _ => cases htarget

/-- Whatever is asked of the pace, nobody is called but observers, and they are told the
rate that is held. -/
theorem handsOnly_perform (order : PaceOrder) (rig : Rig) :
    (perform order rig).HandsOnly (Invokes (· ∈ rig.pace.observers)) := by
  have hsetter {rate : Rate} (htarget : target rig.pace.rate order = some rate) :
      (perform order rig).HandsOnly (Invokes (· ∈ rig.pace.observers)) := by
    obtain ⟨lines, answer, _, _, hcourse⟩ := perform_setter htarget
    rw [hcourse]
    split
    · trivial
    · have hadopts := handsOnly_adopt rate
        { rig with journal := lines.map Event.logged ++ rig.journal }
      exact Progress.handsOnly_andThen hadopts fun _ _ => trivial
  cases order with
  | setCycles cycles => exact hsetter rfl
  | setFrameTime millis => exact hsetter rfl
  | unsubscribe number =>
      simp only [perform, forget, modify, Exec.bind_apply, Exec.look_apply, Exec.update_apply,
        Progress.andThen]
      split <;> trivial
  | _ => trivial

end Setters

/-! ### Invocations one after the other -/

section Runs

variable {rate : Rate} {rig later : Rig} {depth : Nat}

theorem hears_of_run_tell {observer : Observer}
    (h : (tell rate observer rig).run (Script.playWithin depth) = (.value (), later)) :
    observer.Hears rig rate ((tell rate observer rig).handovers (Script.playWithin depth)) := by
  cases observer with
  | driver number => rfl
  | caller number routine =>
      intro course hruns
      have hheralded : (heralded rate number rig).Runs routine course := hruns
      obtain ⟨entry, hentry, rfl⟩ := hheralded.exists_entry
      rw [tell_apply] at h ⊢
      obtain ⟨verdict, middle, hcalled, -⟩ := Progress.run_andThen_eq_value h
      obtain ⟨answer, hhanded, -⟩ := run_call_eq_value hentry hcalled
      rw [Progress.handovers_andThen_of_nil fun _ _ => rfl, hhanded]
      exact ⟨entry.calls, answer, rfl⟩

theorem runs_of_run_tell {observer : Observer}
    (h : (tell rate observer rig).run (Script.playWithin depth) = (.value (), later))
    (routine : Nat) (course : Course) (hruns : rig.Runs routine course) :
    later.Runs routine course := by
  have hlasting := Rig.lasting_runs routine course
  have hsound := Pace.Aside.sound_tell (hlasting.ignores .pace) (hlasting.ignores .calls)
    (fun _ _ => (hlasting.ignores .timing).admits fun _ => .timing _) rate observer
  exact hlasting.run hsound h hruns

theorem tells_announce {observers : List Observer}
    (h : (announce rate observers rig).run (Script.playWithin depth) = (.value (), later)) :
    Tells rate observers rig later
      ((announce rate observers rig).handovers (Script.playWithin depth)) := by
  induction observers generalizing rig with
  | nil => exact ⟨[], [], [], rfl, rfl, .nil, .inl rfl⟩
  | cons observer rest ih =>
      rw [announce, bind_apply] at h ⊢
      obtain ⟨_, middle, htold, hrest⟩ := Progress.run_andThen_eq_value h
      have hhears := hears_of_run_tell htold
      rw [Progress.handovers_andThen, htold]
      simp only [bind_apply, look_apply, Progress.andThen] at hrest ⊢
      by_cases hsame : middle.pace.rate = rate
      · rw [if_pos hsame] at hrest ⊢
        obtain ⟨told, left, heard, rfl, hhanded, hheard, hover⟩ :=
          (ih hrest).of_runs (runs_of_run_tell htold)
        refine ⟨observer :: told, left, _ :: heard, rfl, ?_, .cons hhears hheard, hover⟩
        rw [hhanded, List.flatten_cons]
      · rw [if_neg hsame] at hrest ⊢
        cases hrest
        refine ⟨[observer], rest, [_], rfl, ?_, .cons hhears .nil, .inr hsame⟩
        rw [List.flatten_cons, List.flatten_nil]
        rfl

/-- Adopting a rate calls nothing but those who observe at that moment. -/
theorem tells_adopt
    (h : (adopt rate rig).run (Script.playWithin depth) = (.value (), later)) :
    Tells rate rig.pace.observers rig later
      ((adopt rate rig).handovers (Script.playWithin depth)) := by
  rw [adopt_apply] at h ⊢
  obtain ⟨_, middle, hspread, hrecorded⟩ := Progress.run_andThen_eq_value h
  cases hrecorded
  rw [Progress.handovers_andThen_of_nil fun _ _ => rfl]
  have htells := tells_announce hspread
  exact htells.of_runs fun _ _ hruns => hruns

/-- A setter that returns has told its observers, unless it found its rate held. -/
theorem tells_setter {order : PaceOrder} {value : order.Answer}
    (htarget : target rig.pace.rate order = some rate)
    (h : (perform order rig).run (Script.playWithin depth) = (.value value, later)) :
    if rate = rig.pace.rate then
      (perform order rig).handovers (Script.playWithin depth) = []
    else
      Tells rate rig.pace.observers rig later
        ((perform order rig).handovers (Script.playWithin depth)) := by
  obtain ⟨lines, answer, _, _, hcourse⟩ := perform_setter htarget
  rw [hcourse] at h ⊢
  by_cases hsame : rate = rig.pace.rate
  · rw [if_pos hsame, if_pos hsame]
    rfl
  · rw [if_neg hsame, Exec.bind_apply] at h
    obtain ⟨_, middle, hadopted, hanswered⟩ := Progress.run_andThen_eq_value h
    cases hanswered
    rw [if_neg hsame, if_neg hsame, Exec.bind_apply,
      Progress.handovers_andThen_of_nil fun _ _ => rfl]
    exact (tells_adopt hadopted).of_runs fun _ _ hruns => hruns

end Runs

end Pace

/-! ### Commands -/

/-- Whether an order may call those who observe the pace. -/
def Order.callsObservers : Order → Bool
  | .pace _ => true
  | .control _ => true
  | _ => false

namespace Controls

open Pace

/-- A command calls nobody but observers. -/
theorem handsOnly_apply (step : Option Tag) (command : Command) (rig : Rig) :
    (apply step command rig).HandsOnly (Invokes fun _ => True) := by
  have hsetter (order : PaceOrder) (rig : Rig) :
      (Pace.perform order >>= fun _ => (pure () : Exec Unit) : Exec Unit) rig |>.HandsOnly
        (Invokes fun _ => True) := by
    exact Progress.handsOnly_andThen ((handsOnly_perform order rig).imp Invokes.anyone)
      fun _ _ => trivial
  cases command with
  | step =>
      cases step with
      | none => trivial
      | some tag =>
          unfold apply Mailbox.send
          simp only [bind_apply, record_apply, log_apply, look_apply, Progress.andThen]
          split <;> trivial
  | moreCycles => exact hsetter (.setCycles _) _
  | fewerCycles => exact hsetter (.setCycles _) _
  | longerFrame => exact hsetter (.setFrameTime _) _
  | shorterFrame => exact hsetter (.setFrameTime _) _
  | _ => trivial

theorem handsOnly_applyAll (step : Option Tag) (commands : List Command) (rig : Rig) :
    (applyAll step commands rig).HandsOnly (Invokes fun _ => True) := by
  induction commands generalizing rig with
  | nil => trivial
  | cons command rest ih =>
      exact Progress.handsOnly_andThen (handsOnly_apply step command rig) fun _ => ih

end Controls

/-- Those who are called observe the pace, and are told the rate that is held. -/
theorem Order.handsOnly_carryOut {order : Order} (h : order.callsObservers = true)
    (limit : Nat) (rig : Rig) :
    (order.carryOut limit rig).HandsOnly (Pace.Invokes fun _ => True) := by
  cases order with
  | pace asked => exact (Pace.handsOnly_perform asked rig).imp Pace.Invokes.anyone
  | control asked =>
      cases asked with
      | apply command => exact Controls.handsOnly_apply _ command _
      | pump name =>
          simp only [carryOut, Controls.perform, Controls.pump, bind_apply, look_apply,
            log_apply, update_apply, Progress.andThen]
          exact Progress.handsOnly_andThen (Controls.handsOnly_applyAll _ _ _)
            fun _ _ => trivial
      | _ => trivial
  | _ => cases h

end Cadence
