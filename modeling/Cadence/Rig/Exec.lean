import Cadence.Rig.State

/-!
Computations on a rig.  A computation goes on by itself until it ends or comes
to a script, which it hands the rig over to and waits for.  It ends with a value,
by a panic, or because something nested too deeply, and leaves the rig as it was
at its end in each case.
-/

namespace Cadence

/-- How far a computation gets by itself: to its end, or to a script and what it
makes of the end of that. -/
inductive Progress (α : Type)
  | ended (ending : Ending α) (rig : Rig)
  | handed (script : Script) (rig : Rig)
      (resume : Ending (Except Failure Datum) → Rig → Progress α)

/-- A computation on a rig. -/
def Exec (α : Type) := Rig → Progress α

/-- How user code is run. -/
abbrev Play := Script → Rig → Ending (Except Failure Datum) × Rig

namespace Progress

variable {α β : Type}

/-- Goes on after a value; every other end stays what it is. -/
def andThen (next : α → Exec β) : Progress α → Progress β
  | .ended (.value a) rig => next a rig
  | .ended (.panicked cause) rig => .ended (.panicked cause) rig
  | .ended .exhausted rig => .ended .exhausted rig
  | .handed script rig resume =>
      .handed script rig fun ending rig => (resume ending rig).andThen next

/-- Changes the rig at the end, whatever the end is. -/
def atEnd (release : Rig → Rig) : Progress α → Progress α
  | .ended ending rig => .ended ending (release rig)
  | .handed script rig resume =>
      .handed script rig fun ending rig => (resume ending rig).atEnd release

/-- Runs a computation to its end, where `play` runs the scripts. -/
def run (play : Play) : Progress α → Ending α × Rig
  | .ended ending rig => (ending, rig)
  | .handed script rig resume =>
      let (ending, rig) := play script rig
      (resume ending rig).run play

theorem andThen_pure (progress : Progress α) :
    progress.andThen (fun a rig => .ended (.value a) rig) = progress := by
  induction progress with
  | ended ending rig => cases ending <;> rfl
  | handed script rig resume ih =>
      simp only [andThen]
      congr 1
      funext ending rig
      exact ih ending rig

theorem andThen_assoc {γ : Type} (progress : Progress α) (next : α → Exec β)
    (last : β → Exec γ) :
    (progress.andThen next).andThen last =
      progress.andThen fun a rig => (next a rig).andThen last := by
  induction progress with
  | ended ending rig => cases ending <;> rfl
  | handed script rig resume ih =>
      simp only [andThen]
      congr 1
      funext ending rig
      exact ih ending rig

end Progress

namespace Exec

variable {α β : Type}

@[inline] protected def pure (a : α) : Exec α := fun rig => .ended (.value a) rig

@[inline] protected def bind (first : Exec α) (next : α → Exec β) : Exec β :=
  fun rig => (first rig).andThen next

instance : Monad Exec where
  pure := Exec.pure
  bind := Exec.bind

theorem ext {x y : Exec α} (h : ∀ rig, x rig = y rig) : x = y := funext h

@[simp] theorem pure_apply (a : α) (rig : Rig) :
    (pure a : Exec α) rig = .ended (.value a) rig := rfl

@[simp] theorem bind_apply (first : Exec α) (next : α → Exec β) (rig : Rig) :
    (first >>= next) rig = (first rig).andThen next := rfl

instance : LawfulMonad Exec := LawfulMonad.mk' Exec
  (fun x => ext fun rig => (x rig).andThen_pure)
  (fun _ _ => rfl)
  (fun x next last => ext fun rig => (x rig).andThen_assoc next last)

@[simp] theorem map_apply (f : α → β) (x : Exec α) (rig : Rig) :
    (f <$> x) rig =
      (x rig).andThen fun a rig => .ended (.value (f a)) rig := by
  rw [map_eq_pure_bind]
  rfl

instance : Inhabited (Exec α) := ⟨fun rig => .ended .exhausted rig⟩

def unwind (cause : Panic) : Exec α := fun rig => .ended (.panicked cause) rig

/-- Gives up. -/
def exhausted : Exec α := fun rig => .ended .exhausted rig

/-- Hands the rig over to a script. -/
def handOver (script : Script) : Exec (Except Failure Datum) :=
  fun rig => .handed script rig .ended

@[inline] def look (view : Rig → α) : Exec α :=
  fun rig => .ended (.value (view rig)) rig

@[inline] def update (change : Rig → Rig) : Exec Unit :=
  fun rig => .ended (.value ()) (change rig)

@[simp] theorem handOver_apply (script : Script) (rig : Rig) :
    handOver script rig = .handed script rig .ended := rfl

@[simp] theorem look_apply (view : Rig → α) (rig : Rig) :
    look view rig = .ended (.value (view rig)) rig := rfl

@[simp] theorem update_apply (change : Rig → Rig) (rig : Rig) :
    update change rig = .ended (.value ()) (change rig) := rfl

/-- A computation with a change of the rig at its end, whatever the end is. -/
@[inline] def ensuring (body : Exec α) (release : Rig → Rig) : Exec α :=
  fun rig => (body rig).atEnd release

@[simp] theorem ensuring_apply (body : Exec α) (release : Rig → Rig)
    (rig : Rig) : body.ensuring release rig = (body rig).atEnd release := rfl

/-- Enters an event into the journal. -/
def record (event : Event) : Exec Unit :=
  update fun rig => { rig with journal := event :: rig.journal }

@[simp] theorem record_apply (event : Event) (rig : Rig) :
    record event rig =
      .ended (.value ()) { rig with journal := event :: rig.journal } := rfl

/-- Executes a part of the rig: `mark` sets or clears its mark. -/
@[inline] def within (part : Part) (mark : Bool → Rig → Rig) (body : Exec α) :
    Exec α :=
  let marked : Exec α := fun rig =>
    body { mark true rig with journal := .entered part :: rig.journal }
  marked.ensuring fun rig =>
    { mark false rig with journal := .left part :: rig.journal }

/-- The mark is cleared and the part left, whatever the end is. -/
theorem within_apply (part : Part) (mark : Bool → Rig → Rig) (body : Exec α)
    (rig : Rig) :
    within part mark body rig =
      (body { mark true rig with journal := .entered part :: rig.journal }).atEnd
        fun rig =>
          { mark false rig with journal := .left part :: rig.journal } := rfl

def log (lines : List Log.Line) : Exec Unit :=
  update fun rig =>
    { rig with journal := lines.reverse.map Event.logged ++ rig.journal }

@[simp] theorem log_apply (lines : List Log.Line) (rig : Rig) :
    log lines rig =
      .ended (.value ())
        { rig with journal := lines.reverse.map Event.logged ++ rig.journal } :=
  rfl

/-- Calls a routine; one that does not exist does nothing. -/
def call (routine : Nat) (occasion : Occasion) : Exec Verdict := do
  match ← look (·.routines[routine]?) with
  | none => return .ok ()
  | some entry =>
      update fun rig =>
        { rig with
          routines := rig.routines.modify routine fun entry =>
            { entry with calls := entry.calls + 1 } }
      let answer ← handOver (entry.course entry.calls occasion)
      return answer.map fun _ => ()

/-- Calls a routine whose failures nobody hears of. -/
def callQuietly (routine : Nat) (occasion : Occasion) : Exec Unit := do
  let _ ← call routine occasion

end Exec

end Cadence
