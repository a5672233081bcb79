import Cadence.Proofs.Handovers
import Cadence.Proofs.KeptFacts

/-!
What a delivery does with its messages.  It handles them one after the other; each
starts its callback or comes to nothing, and nothing but a callback that does not
come to its end keeps it from the next.
-/

namespace Cadence

open Exec Contract

namespace Mailbox

variable {play : Play} {number : Nat} {message : Message} {rig later : Rig}

/-- A delivery has taken its messages. -/
def opened (number : Nat) (rig : Rig) : Rig :=
  { rig with
    mailboxes := rig.mailboxes.modify number ({ · with queue := [] })
    journal := .deliveryOpened number (rig.mailbox number).queue :: rig.journal }

/-- A message is about to start its callback. -/
def begun (number : Nat) (message : Message) (rig : Rig) : Rig :=
  { markOnRig number message.tag true rig with
    journal := .entered (.callback message.tag) :: .delivered number message ::
      rig.journal }

/-- The callback of a message has come to its end. -/
def left (number : Nat) (message : Message) (rig : Rig) : Rig :=
  { markOnRig number message.tag false rig with
    journal := .left (.callback message.tag) :: rig.journal }

/-- A message came upon no callback. -/
def dropped (number : Nat) (message : Message) (rig : Rig) : Rig :=
  { rig with
    journal := .logged (droppedNotice message.tag) :: .undeliverable number message ::
      rig.journal }

/-- A message came upon a callback that executes. -/
def refused (number : Nat) (message : Message) (rig : Rig) : Rig :=
  { rig with
    journal := .logged (reenteredNotice message.tag) :: .reentrant number message ::
      rig.journal }

/-! ### One message -/

theorem handle_of_none (hnone : (rig.mailbox number).find? message.tag = none) :
    handle number message rig =
      (pure false : Exec Bool) (dropped number message rig) := by
  simp only [handle, bind_apply, look_apply, Progress.andThen, hnone]
  rfl

theorem handle_of_executing {entry : Registration}
    (hentry : (rig.mailbox number).find? message.tag = some entry)
    (hbusy : entry.executing = true) :
    handle number message rig =
      (pure false : Exec Bool) (refused number message rig) := by
  simp only [handle, bind_apply, look_apply, Progress.andThen, hentry, hbusy]
  rfl

theorem handle_of_idle {entry : Registration}
    (hentry : (rig.mailbox number).find? message.tag = some entry)
    (hidle : entry.executing = false) :
    handle number message rig =
      ((start entry.callback).ensuring (left number message) >>= fun _ =>
        (pure true : Exec Bool)) (begun number message rig) := by
  simp only [handle, bind_apply, look_apply, Progress.andThen, hentry, hidle]
  rfl

/-- What a message can come to. -/
inductive Outcome
  | started
  | unregistered
  | reentrant
deriving DecidableEq

/-- A message that was handled: what it came to, and what was called for it. -/
structure Attempt where
  outcome : Outcome
  calls : List Handover

/-- A callback that is a routine is called once. -/
def Invokes (callback : Callback) (rig : Rig) (calls : List Handover) : Prop :=
  ∀ routine course, callback = .routine routine → rig.Runs routine course →
    ∃ call answer, calls = [⟨course call .plain, .value answer⟩]

/-- How a message is handled, by what it comes upon. -/
inductive Attempted (play : Play) (number : Nat) (message : Message) (rig : Rig) :
    Attempt → Rig → Prop
  | started {entry calls middle}
      (hentry : (rig.mailbox number).find? message.tag = some entry)
      (hidle : entry.executing = false)
      (hrun : (start entry.callback (begun number message rig)).run play =
        (.value (), middle))
      (hcalls : (start entry.callback (begun number message rig)).handovers play =
        calls)
      (hinvokes : Invokes entry.callback rig calls) :
      Attempted play number message rig ⟨.started, calls⟩ (left number message middle)
  | unregistered (hnone : (rig.mailbox number).find? message.tag = none) :
      Attempted play number message rig ⟨.unregistered, []⟩
        (dropped number message rig)
  | reentrant {entry}
      (hentry : (rig.mailbox number).find? message.tag = some entry)
      (hbusy : entry.executing = true) :
      Attempted play number message rig ⟨.reentrant, []⟩ (refused number message rig)

theorem invokes_start {callback : Callback}
    (h : (start callback rig).run play = (.value (), later)) :
    Invokes callback rig ((start callback rig).handovers play) := by
  rintro routine course rfl hruns
  obtain ⟨entry, hentry, rfl⟩ := hruns.exists_entry
  rw [start, callQuietly, bind_apply] at h ⊢
  obtain ⟨verdict, middle, hcalled, _⟩ := Progress.run_andThen_eq_value h
  obtain ⟨answer, hhandovers, _⟩ := run_call_eq_value hentry hcalled
  refine ⟨entry.calls, answer, ?_⟩
  rw [Progress.handovers_andThen_of_nil fun _ _ => rfl, hhandovers]

/-- A message that has been handled was attempted in one of the three ways. -/
theorem attempted_handle {fired : Bool}
    (h : (handle number message rig).run play = (.value fired, later)) :
    ∃ attempt, Attempted play number message rig attempt later ∧
      (handle number message rig).handovers play = attempt.calls ∧
      fired = decide (attempt.outcome = .started) := by
  rcases hentry : (rig.mailbox number).find? message.tag with _ | entry
  · rw [handle_of_none hentry] at h ⊢
    cases h
    exact ⟨_, .unregistered hentry, rfl, rfl⟩
  · cases hexecuting : entry.executing with
    | true =>
        rw [handle_of_executing hentry hexecuting] at h ⊢
        cases h
        exact ⟨_, .reentrant hentry hexecuting, rfl, rfl⟩
    | false =>
        rw [handle_of_idle hentry hexecuting, bind_apply, ensuring_apply] at h ⊢
        obtain ⟨_, _, hended, hanswer⟩ := Progress.run_andThen_eq_value h
        obtain ⟨middle, hrun, rfl⟩ := Progress.run_atEnd_eq_value hended
        cases hanswer
        have hinvokes : Invokes entry.callback (begun number message rig) _ :=
          invokes_start hrun
        refine ⟨_, .started hentry hexecuting hrun rfl hinvokes, ?_, rfl⟩
        rw [Progress.handovers_andThen_of_nil fun _ _ => rfl, Progress.handovers_atEnd]

/-- A message that is not handled to the end broke off in its callback. -/
theorem breaks_handle (h : ((handle number message rig).run play).1.isValue = false) :
    ∃ entry, (rig.mailbox number).find? message.tag = some entry ∧
      entry.executing = false ∧
      ((start entry.callback (begun number message rig)).run play).1.isValue =
        false := by
  rcases hentry : (rig.mailbox number).find? message.tag with _ | entry
  · rw [handle_of_none hentry] at h
    cases h
  · cases hexecuting : entry.executing with
    | true =>
        rw [handle_of_executing hentry hexecuting] at h
        cases h
    | false =>
        rw [handle_of_idle hentry hexecuting, bind_apply, ensuring_apply,
          Progress.run_andThen, Progress.run_atEnd] at h
        refine ⟨entry, rfl, hexecuting, ?_⟩
        rcases hrun : (start entry.callback (begun number message rig)).run play
          with ⟨ending, middle⟩
        rw [hrun] at h
        cases ending with
        | value done => cases h
        | panicked cause => rfl
        | exhausted => rfl

/-! ### All messages -/

/-- Messages are handled one after the other. -/
inductive Handles (play : Play) (number : Nat) :
    Rig → List Message → List Attempt → Rig → Prop
  | nil {rig : Rig} : Handles play number rig [] [] rig
  | cons {rig middle later : Rig} {message attempt rest attempts}
      (hattempted : Attempted play number message rig attempt middle)
      (hrest : Handles play number middle rest attempts later) :
      Handles play number rig (message :: rest) (attempt :: attempts) later

/-- How many messages came to something. -/
def tally (outcome : Outcome) (attempts : List Attempt) : Nat :=
  attempts.countP fun attempt => decide (attempt.outcome = outcome)

section Deliveries

variable {messages : List Message} {attempts : List Attempt}

/-- Every message comes to one of the three. -/
theorem Handles.length_eq (h : Handles play number rig messages attempts later) :
    messages.length = tally .started attempts + tally .unregistered attempts +
      tally .reentrant attempts := by
  induction h with
  | nil => rfl
  | @cons rig middle later message attempt rest attempts hattempted hrest ih =>
      unfold tally at ih ⊢
      rw [List.length_cons, List.countP_cons, List.countP_cons, List.countP_cons, ih]
      rcases houtcome : attempt.outcome with _ | _ | _ <;> simp <;> omega

theorem handles_handleAll {fired count : Nat}
    (h : (handleAll number messages fired rig).run play = (.value count, later)) :
    ∃ attempts, Handles play number rig messages attempts later ∧
      (handleAll number messages fired rig).handovers play =
        attempts.flatMap Attempt.calls ∧
      count = fired + tally .started attempts := by
  induction messages generalizing rig fired with
  | nil =>
      cases h
      exact ⟨[], .nil, rfl, rfl⟩
  | cons message rest ih =>
      rw [handleAll, bind_apply] at h ⊢
      obtain ⟨started, middle, hfirst, hrest⟩ := Progress.run_andThen_eq_value h
      obtain ⟨attempt, hattempted, hcalls, rfl⟩ := attempted_handle hfirst
      obtain ⟨attempts, hhandles, hhandovers, rfl⟩ := ih hrest
      refine ⟨attempt :: attempts, .cons hattempted hhandles, ?_, ?_⟩
      · rw [Progress.handovers_andThen, hfirst, List.flatMap_cons, ← hhandovers, hcalls]
      · unfold tally
        rw [List.countP_cons]
        split <;> omega

/-- Messages that are not all handled broke off in the callback of one of them. -/
theorem breaks_handleAll {fired : Nat}
    (h : ((handleAll number messages fired rig).run play).1.isValue = false) :
    ∃ before message after attempts middle entry,
      messages = before ++ message :: after ∧
      Handles play number rig before attempts middle ∧
      (middle.mailbox number).find? message.tag = some entry ∧
      entry.executing = false ∧
      ((start entry.callback (begun number message middle)).run play).1.isValue =
        false := by
  induction messages generalizing rig fired with
  | nil => cases h
  | cons message rest ih =>
      rw [handleAll, bind_apply, Progress.run_andThen] at h
      rcases hfirst : (handle number message rig).run play with ⟨ending, middle⟩
      rw [hfirst] at h
      have hbreaks (hvalue : ending.isValue = false) :=
        breaks_handle (hfirst ▸ hvalue :
          ((handle number message rig).run play).1.isValue = false)
      cases ending with
      | value started =>
          obtain ⟨attempt, hattempted, _⟩ := attempted_handle hfirst
          obtain ⟨before, other, after, attempts, last, entry, rfl, hhandles, hbroke⟩ :=
            ih h
          exact ⟨message :: before, other, after, attempt :: attempts, last, entry, rfl,
            .cons hattempted hhandles, hbroke⟩
      | panicked cause =>
          obtain ⟨entry, hbroke⟩ := hbreaks rfl
          exact ⟨[], message, rest, [], rig, entry, rfl, .nil, hbroke⟩
      | exhausted =>
          obtain ⟨entry, hbroke⟩ := hbreaks rfl
          exact ⟨[], message, rest, [], rig, entry, rfl, .nil, hbroke⟩

end Deliveries

/-- A delivery is the handling of its messages, from its opening on. -/
theorem deliver_apply (number : Nat) (rig : Rig) :
    deliver number rig =
      handleAll number (rig.mailbox number).queue 0 (opened number rig) :=
  rfl

/-- A registration ends at once; its callback is found under its tag. -/
theorem enter_apply (hsize : number < rig.mailboxes.size)
    (hfresh : (rig.mailbox number).find? ⟨rig.nextTag⟩ = none) (callback : Callback) :
    ∃ later, enter number callback rig = .ended (.value ⟨rig.nextTag⟩) later ∧
      (later.mailbox number).find? ⟨rig.nextTag⟩ =
        some ⟨⟨rig.nextTag⟩, callback, false⟩ := by
  simp only [enter, bind_apply, look_apply, update_apply, Progress.andThen,
    Array.size_modify, if_pos hsize]
  refine ⟨_, rfl, ?_⟩
  have hbox : (rig.mailboxes.modify number
      (·.register ⟨rig.nextTag⟩ callback))[number]?.getD .empty =
        (rig.mailbox number).register ⟨rig.nextTag⟩ callback := by
    simp [Rig.mailbox, hsize, Array.getElem_modify]
  refine (congrArg (·.find? ⟨rig.nextTag⟩) hbox).trans ?_
  rw [find?_register, hfresh, if_pos rfl]
  rfl

/-- A post ends at once, and hands the rig over to nobody. -/
theorem send_apply (number : Nat) (tag : Tag) (hsize : number < rig.mailboxes.size) :
    ∃ later, send number tag rig = .ended (.value ()) later ∧
      later.journal = .posted number ⟨rig.nextMessage, tag⟩ :: rig.journal := by
  simp only [send, bind_apply, look_apply, Progress.andThen, if_pos hsize]
  exact ⟨_, rfl, rfl⟩

end Mailbox

end Cadence
