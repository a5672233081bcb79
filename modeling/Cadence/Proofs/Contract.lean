import Cadence.Rig.Perform

/-!
Contracts with user code.  A contract says how scripts find the rig and how they
leave it.  A computation that finds the rig as a script does is sound if it hands
the rig over in such a state only, and leaves it as a script may.  If all orders
are sound, every run keeps to the contract, at every moment at which user code is
in control.
-/

namespace Cadence

variable {α β : Type}

/-- How a computation ends, without its value. -/
def Ending.plain : Ending α → Ending Unit
  | .value _ => .value ()
  | .panicked cause => .panicked cause
  | .exhausted => .exhausted

/-- Whether a computation ended with a value. -/
def Ending.isValue : Ending α → Bool
  | .value _ => true
  | _ => false

@[simp] theorem Ending.isValue_plain (ending : Ending α) :
    ending.plain.isValue = ending.isValue := by
  cases ending <;> rfl

/-- The routines of a rig give allowed orders only. -/
def Rig.KeepsTo (allowed : Order → Prop) (rig : Rig) : Prop :=
  ∀ routine ∈ rig.routines, ∀ call occasion,
    (routine.course call occasion).KeepsTo allowed

theorem Rig.keepsTo_all (rig : Rig) : rig.KeepsTo fun _ => True :=
  fun routine _ call occasion => (routine.course call occasion).keepsTo_all

/-- A contract with scripts that give allowed orders only. -/
structure Contract where
  allowed : Order → Prop
  finds : Rig → Prop
  leaves : Rig → Ending Unit → Rig → Prop
  refl : ∀ {rig ending}, finds rig → leaves rig ending rig
  trans : ∀ {rig middle later ending}, leaves rig (.value ()) middle →
    leaves middle ending later → leaves rig ending later
  keeps : ∀ {rig later}, finds rig → leaves rig (.value ()) later → finds later
  bound : ∀ {rig}, finds rig → rig.KeepsTo allowed
  enrolls : ∀ {rig} {course : Course}, finds rig →
    (∀ call occasion, (course call occasion).KeepsTo allowed) →
    leaves rig (.value ()) (rig.enroll course)

/-- A computation under way hands the rig over as the contract wants it and, if it
gets it back as the contract promises, ends as `post` says. -/
def Progress.Respects (contract : Contract) (post : Ending α → Rig → Prop) :
    Progress α → Prop
  | .ended ending rig => post ending rig
  | .handed script rig resume =>
      contract.finds rig ∧ script.KeepsTo contract.allowed ∧
        ∀ ending later, contract.leaves rig ending.plain later →
          (resume ending later).Respects contract post

namespace Progress

variable {contract : Contract}

@[simp] theorem respects_ended {post : Ending α → Rig → Prop}
    {ending : Ending α} {rig : Rig} :
    (Progress.ended ending rig).Respects contract post ↔ post ending rig :=
  Iff.rfl

theorem Respects.imp {post wider : Ending α → Rig → Prop}
    (himp : ∀ ending rig, post ending rig → wider ending rig)
    {progress : Progress α} (h : progress.Respects contract post) :
    progress.Respects contract wider := by
  induction progress with
  | ended ending rig => exact himp ending rig h
  | handed script rig resume ih =>
      refine ⟨h.1, h.2.1, ?_⟩
      intro ending later hleaves
      exact ih ending later (h.2.2 ending later hleaves)

/-- A computation that gets by with a wider promise of user code gets by with a
narrower one. -/
theorem Respects.narrow {wider : Contract} {post : Ending α → Rig → Prop}
    (hallowed : ∀ order, wider.allowed order → contract.allowed order)
    (hfinds : ∀ {rig}, wider.finds rig → contract.finds rig)
    (hleaves : ∀ {rig ending later}, wider.finds rig →
      contract.leaves rig ending later → wider.leaves rig ending later)
    {progress : Progress α} (h : progress.Respects wider post) :
    progress.Respects contract post := by
  induction progress with
  | ended => exact h
  | handed script rig resume ih =>
      refine ⟨hfinds h.1, h.2.1.imp hallowed, ?_⟩
      intro ending later hlater
      exact ih ending later (h.2.2 ending later (hleaves h.1 hlater))

/-- What is to hold after a sequence is to hold, after its first part, of the
rest if there is a value, and at once if there is none. -/
def Rest (contract : Contract) (next : α → Exec β)
    (post : Ending β → Rig → Prop) : Ending α → Rig → Prop
  | .value a, rig => (next a rig).Respects contract post
  | .panicked cause, rig => post (.panicked cause) rig
  | .exhausted, rig => post .exhausted rig

@[simp] theorem respects_andThen {next : α → Exec β}
    {post : Ending β → Rig → Prop} {progress : Progress α} :
    (progress.andThen next).Respects contract post ↔
      progress.Respects contract (Rest contract next post) := by
  induction progress with
  | ended ending rig => cases ending <;> rfl
  | handed script rig resume ih =>
      simp only [andThen, Respects]
      exact and_congr_right fun _ => and_congr_right fun _ =>
        forall_congr' fun ending => forall_congr' fun later =>
          imp_congr_right fun _ => ih ending later

@[simp] theorem respects_atEnd {release : Rig → Rig}
    {post : Ending α → Rig → Prop} {progress : Progress α} :
    (progress.atEnd release).Respects contract post ↔
      progress.Respects contract fun ending rig => post ending (release rig) := by
  induction progress with
  | ended => rfl
  | handed script rig resume ih =>
      simp only [atEnd, Respects]
      exact and_congr_right fun _ => and_congr_right fun _ =>
        forall_congr' fun ending => forall_congr' fun later =>
          imp_congr_right fun _ => ih ending later

end Progress

namespace Contract

variable (contract : Contract)

/-- A computation that leaves one rig as a script may. -/
def SoundAt (rig : Rig) (x : Exec α) : Prop :=
  (x rig).Respects contract fun ending later =>
    contract.leaves rig ending.plain later

/-- A computation that takes the place of a script in its contract. -/
def Sound (x : Exec α) : Prop :=
  ∀ rig, contract.finds rig →
    (x rig).Respects contract fun ending later =>
      contract.leaves rig ending.plain later

/-- A way of running scripts that keeps to their contract. -/
def Honoured (play : Play) : Prop :=
  ∀ script rig, script.KeepsTo contract.allowed → contract.finds rig →
    contract.leaves rig (play script rig).1.plain (play script rig).2

end Contract

variable {contract : Contract}

/-- What is promised of a computation holds of its run. -/
theorem Progress.Respects.run {post : Ending α → Rig → Prop} {play : Play}
    (hplay : contract.Honoured play) {progress : Progress α}
    (h : progress.Respects contract post) :
    post (progress.run play).1 (progress.run play).2 := by
  induction progress with
  | ended => exact h
  | handed script rig resume ih =>
      exact ih _ _ (h.2.2 _ _ (hplay script rig h.2.1 h.1))

/-- A script runs as its contract wants it if its orders do. -/
theorem Contract.honoured_playWith
    {perform : (order : Order) → Rig → Ending order.Answer × Rig}
    (hperform : ∀ order rig, contract.allowed order → contract.finds rig →
      contract.leaves rig (perform order rig).1.plain (perform order rig).2) :
    contract.Honoured (Script.playWith perform) := by
  intro script
  induction script with
  | done answer => exact fun rig _ hfinds => contract.refl hfinds
  | fail failure => exact fun rig _ hfinds => contract.refl hfinds
  | panic cause => exact fun rig _ hfinds => contract.refl hfinds
  | order asked next ih =>
      intro rig hkeeps hfinds
      have hleaves := hperform asked rig hkeeps.1 hfinds
      rw [Script.playWith]
      rcases hasked : perform asked rig with ⟨ending, later⟩
      rw [hasked] at hleaves
      cases ending with
      | value answer =>
          exact contract.trans hleaves
            (ih answer later (hkeeps.2 answer) (contract.keeps hfinds hleaves))
      | panicked cause => exact hleaves
      | exhausted => exact hleaves
  | routine course next _ hnext =>
      intro rig hkeeps hfinds
      have henrolls := contract.enrolls hfinds hkeeps.1
      exact contract.trans henrolls
        (hnext _ _ (hkeeps.2 _) (contract.keeps hfinds henrolls))

/-- All orders that user code may give are sound. -/
def Contract.SoundOrders (contract : Contract) : Prop :=
  ∀ order limit, contract.allowed order → contract.Sound (order.carryOut limit)

namespace Contract.SoundOrders

variable (horders : contract.SoundOrders)

include horders

theorem leaves_perform (depth : Nat) : ∀ order rig, contract.allowed order →
    contract.finds rig →
    contract.leaves rig (order.perform depth rig).1.plain
      (order.perform depth rig).2 := by
  -- Orders run the scripts that they come upon one level deeper, which the
  -- induction hypothesis makes an honoured way of running scripts.
  induction depth with
  | zero => exact fun order rig _ hfinds => contract.refl hfinds
  | succ depth ih =>
      intro order rig hallowed hfinds
      exact (horders order (depth + 1) hallowed rig hfinds).run
        (honoured_playWith ih)

/-- Runs keep to the contract, however deep their orders nest. -/
theorem honoured (depth : Nat) : contract.Honoured (Script.playWithin depth) :=
  honoured_playWith (horders.leaves_perform depth)

end Contract.SoundOrders

/-- A computation under way hands a rig over to a script, where `play` runs the
scripts. -/
inductive Progress.Hands (play : Play) : Progress α → Script → Rig → Prop
  | now {script rig resume} : Hands play (.handed script rig resume) script rig
  | later {script rig resume inner moment} :
      Hands play (resume (play script rig).1 (play script rig).2) inner moment →
      Hands play (.handed script rig resume) inner moment

/-- The moments of a run: the states in which user code has control of the rig,
from the start of the script, through all scripts that its orders come upon, to
its end. -/
inductive Script.Passes : Nat → Script → Rig → Rig → Prop
  | here {depth script rig} : Passes depth script rig rig
  | inside {depth asked next rig inner begun moment} :
      (asked.carryOut (depth + 1) rig).Hands (playWithin depth) inner begun →
      Passes depth inner begun moment →
      Passes (depth + 1) (.order asked next) rig moment
  | onward {depth asked next rig answer later moment} :
      asked.perform depth rig = (.value answer, later) →
      Passes depth (next answer) later moment →
      Passes depth (.order asked next) rig moment
  | enrolled {depth course next rig moment} :
      Passes depth (next rig.routines.size) (rig.enroll course) moment →
      Passes depth (.routine course next) rig moment

/-- A run that is not cut short comes to its end. -/
theorem Script.passes_end {depth : Nat} {script : Script} {rig : Rig}
    (hvalue : (script.playWithin depth rig).1.isValue = true) :
    Passes depth script rig (script.playWithin depth rig).2 := by
  induction script generalizing rig with
  | done answer => exact .here
  | fail failure => exact .here
  | panic cause => exact .here
  | order asked next ih =>
      rw [playWithin, playWith] at hvalue ⊢
      rcases hasked : asked.perform depth rig with ⟨ending, later⟩
      rw [hasked] at hvalue
      cases ending with
      | value answer => exact .onward hasked (ih answer hvalue)
      | panicked cause => cases hvalue
      | exhausted => cases hvalue
  | routine course next _ ih => exact .enrolled (ih _ hvalue)

/-- What a rig can become: what scripts make of it one after the other, whatever
their ends, and what they pass on the way. -/
inductive Rig.Becomes (start : Rig) : Rig → Prop
  | start : Becomes start start
  | midway {depth script rig moment} : Becomes start rig →
      Script.Passes depth script rig moment → Becomes start moment
  | after {rig} (depth : Nat) (script : Script) : Becomes start rig →
      Becomes start (script.playWithin depth rig).2

/-- A computation that respects a contract hands the rig over as user code is to
find it. -/
theorem Progress.Respects.hands {post : Ending α → Rig → Prop} {play : Play}
    (hplay : contract.Honoured play) {progress : Progress α}
    (h : progress.Respects contract post) {inner : Script} {moment : Rig}
    (hhands : progress.Hands play inner moment) :
    contract.finds moment ∧ inner.KeepsTo contract.allowed := by
  induction hhands with
  | now => exact ⟨h.1, h.2.1⟩
  | later _ ih => exact ih (h.2.2 _ _ (hplay _ _ h.2.1 h.1))

/-- At every moment of a run the rig is as user code is to find it. -/
theorem Contract.SoundOrders.finds_moment (horders : contract.SoundOrders)
    {depth : Nat} {script : Script} {rig moment : Rig}
    (hpasses : script.Passes depth rig moment)
    (hkeeps : script.KeepsTo contract.allowed) (hfinds : contract.finds rig) :
    contract.finds moment := by
  induction hpasses with
  | here => exact hfinds
  | inside hhands _ ih =>
      have hinner := (horders _ _ hkeeps.1 _ hfinds).hands
        (horders.honoured _) hhands
      exact ih hinner.2 hinner.1
  | @onward depth asked next rig answer later moment hperform _ ih =>
      have hleaves := horders.leaves_perform depth asked rig hkeeps.1 hfinds
      rw [hperform] at hleaves
      exact ih (hkeeps.2 _) (contract.keeps hfinds hleaves)
  | enrolled _ ih =>
      exact ih (hkeeps.2 _)
        (contract.keeps hfinds (contract.enrolls hfinds hkeeps.1))

end Cadence
