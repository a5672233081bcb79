import Cadence.Log

/-!
Mailboxes: callbacks registered under tags, and messages posted for them.  A
message names its tag alone; whether anything is registered under it is looked
up when the message is delivered.
-/

namespace Cadence

/-- Names a registration; no two registrations share one, in whatever
mailbox. -/
structure Tag where
  number : Nat
deriving DecidableEq, Repr

def Tag.text (tag : Tag) : String :=
  "$immediate$" ++ Nat.repr tag.number ++ "$"

/-- What a delivery starts: a caller's routine, or a single step of a driver as
it was started for the `generation`-th time. -/
inductive Callback
  | routine (routine : Nat)
  | step (driver generation : Nat)
deriving DecidableEq, Repr

/-- A callback under its tag, marked while it executes. -/
structure Registration where
  tag : Tag
  callback : Callback
  executing : Bool
deriving DecidableEq, Repr

/-- A posted message; its serial number tells it from all others. -/
structure Message where
  serial : Nat
  tag : Tag
deriving DecidableEq, Repr

/-- Registered callbacks, and messages in the order they were posted. -/
structure Mailbox where
  registrations : List Registration
  queue : List Message
deriving DecidableEq, Repr

namespace Mailbox

def empty : Mailbox := ⟨[], []⟩

instance : Inhabited Mailbox := ⟨empty⟩

def register (mailbox : Mailbox) (tag : Tag) (callback : Callback) : Mailbox :=
  { mailbox with
    registrations := mailbox.registrations ++ [⟨tag, callback, false⟩] }

def find? (mailbox : Mailbox) (tag : Tag) : Option Registration :=
  mailbox.registrations.find? fun entry => entry.tag == tag

def isRegistered (mailbox : Mailbox) (tag : Tag) : Bool :=
  (mailbox.find? tag).isSome

def cancel (mailbox : Mailbox) (tag : Tag) : Mailbox :=
  { mailbox with
    registrations := mailbox.registrations.filter fun entry => entry.tag != tag }

def mark (mailbox : Mailbox) (tag : Tag) (executing : Bool) : Mailbox :=
  { mailbox with
    registrations := mailbox.registrations.map fun entry =>
      if entry.tag = tag then { entry with executing } else entry }

def post (mailbox : Mailbox) (message : Message) : Mailbox :=
  { mailbox with queue := mailbox.queue ++ [message] }

/-- A new registration is found unless its tag was in use. -/
theorem find?_register (mailbox : Mailbox) (tag other : Tag)
    (callback : Callback) :
    (mailbox.register tag callback).find? other =
      (mailbox.find? other).or
        (if tag = other then some ⟨tag, callback, false⟩ else none) := by
  simp only [register, find?, List.find?_append, List.find?_cons,
    List.find?_nil]
  by_cases h : tag = other
  · simp [h]
  · simp [h, beq_eq_false_iff_ne.2 h]

/-- What is found has the tag that was looked for. -/
theorem tag_of_find? {mailbox : Mailbox} {tag : Tag} {entry : Registration}
    (h : mailbox.find? tag = some entry) : entry.tag = tag := by
  have htag := List.find?_some h
  exact beq_iff_eq.mp htag

/-- A cancellation touches its own tag alone. -/
theorem find?_cancel (mailbox : Mailbox) (tag other : Tag) :
    (mailbox.cancel tag).find? other =
      if tag = other then none else mailbox.find? other := by
  by_cases h : tag = other
  · subst h
    simp [find?, cancel, List.find?_eq_none]
  · rw [if_neg h]
    simp only [find?, cancel, List.find?_filter]
    congr 1
    funext entry
    by_cases hother : entry.tag = other
    · simp [hother, Ne.symm h]
    · simp [hother]

/-- Marking a registration changes its mark. -/
theorem find?_mark (mailbox : Mailbox) (tag other : Tag) (executing : Bool) :
    (mailbox.mark tag executing).find? other =
      (mailbox.find? other).map fun entry =>
        if entry.tag = tag then { entry with executing } else entry := by
  have hsame : (fun entry : Registration => entry.tag == other) ∘
      (fun entry => if entry.tag = tag then { entry with executing } else entry) =
        fun entry => entry.tag == other := by
    funext entry
    by_cases htag : entry.tag = tag <;> simp [htag]
  simp only [find?, mark, List.find?_map, hsame]

@[simp] theorem queue_post (mailbox : Mailbox) (message : Message) :
    (mailbox.post message).queue = mailbox.queue ++ [message] := rfl

def describe (mailbox : Mailbox) : String :=
  "Immediate \x7b registered: " ++ Nat.repr mailbox.registrations.length ++
    ", pending: " ++ Nat.repr mailbox.queue.length ++ " \x7d"

private def line (level : Log.Level) (message : String) : Log.Line :=
  ⟨level, Log.targetOf "immediate", message⟩

def registeredNotice (tag : Tag) : Log.Line :=
  line .trace ("registered " ++ tag.text)

def cancelledNotice (tag : Tag) : Log.Line :=
  line .trace ("cancelled " ++ tag.text)

def droppedNotice (tag : Tag) : Log.Line :=
  line .trace ("dropping delivery for unregistered " ++ tag.text)

def reenteredNotice (tag : Tag) : Log.Line :=
  line .warn (tag.text ++ " re-entered its own delivery; skipped")

end Mailbox

end Cadence
