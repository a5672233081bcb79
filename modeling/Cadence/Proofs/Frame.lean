import Cadence.Proofs.Contract

/-!
Frames.  Each step of a library function touches one facet of the rig.  A
contract that ignores the facets that a function touches is kept by the function,
whatever else the contract says.
-/

namespace Cadence

/-- A facet of the rig. -/
inductive Facet
  | clock
  | calls
  /-- The rate and its observers. -/
  | pace
  | running
  /-- What caps a driver's renders. -/
  | timing
  /-- Which drivers are busy, and since when. -/
  | marks
  /-- Everything else about drivers. -/
  | handles
  | emulators
  | mail
  | refreshes
  | bench
  | loops
  | controls
  /-- Lines and notes. -/
  | diary
deriving DecidableEq

/-- The facet that has the mark of a part. -/
def Part.facet : Part → Facet
  | .driver _ => .marks
  | .emulator _ => .emulators
  | .task _ => .refreshes
  | .callback _ => .mail
  | .debouncer _ => .bench
  | .loop _ => .loops

/-- The facet that an event belongs to. -/
def Event.facet : Event → Facet
  | .logged _ => .diary
  | .noted _ => .diary
  | .entered part => part.facet
  | .left part => part.facet
  | .stored _ => .pace
  | .announced _ => .pace
  | .told _ _ => .pace
  | .subscribed _ => .pace
  | .unsubscribed _ => .pace
  | .registered _ _ => .mail
  | .cancelled _ _ => .mail
  | .posted _ _ => .mail
  | .deliveryOpened _ _ => .mail
  | .delivered _ _ => .mail
  | .undeliverable _ _ => .mail
  | .reentrant _ _ => .mail
  | .requested _ => .refreshes
  | .refreshOpened _ _ => .refreshes
  | .began _ _ => .refreshes
  | .ended _ _ _ => .refreshes
  | .stopped => .refreshes
  | .advanced _ => .emulators
  | .rendered _ => .emulators
  | .statusSet _ _ => .handles
  | .drawn _ _ => .handles
  | .drawSucceeded _ => .handles
  | .turnBegan _ => .timing
  | .stepBegan _ => .handles
  | .activated _ _ _ => .timing
  | .applied _ => .controls

/-- Two changes of one entry, one after the other. -/
theorem modify_modify {α : Type} (entries : Array α) (number : Nat)
    (first second : α → α) :
    (entries.modify number first).modify number second =
      entries.modify number fun entry => second (first entry) := by
  apply Array.ext_getElem?
  intro index
  simp only [Array.getElem?_modify]
  split <;> simp [Function.comp_def]

/-- Only what becomes of the entry matters. -/
theorem modify_congr {α : Type} {entries : Array α} {number : Nat} {entry : α}
    (hentry : entries[number]? = some entry) {first second : α → α}
    (heq : first entry = second entry) :
    entries.modify number first = entries.modify number second := by
  apply Array.ext_getElem?
  intro index
  rw [Array.getElem?_modify, Array.getElem?_modify]
  split
  · rename_i hindex
    rw [← hindex, hentry, Option.map_some, Option.map_some, heq]
  · rfl

/-- Changes of two entries may change places. -/
theorem modify_comm {α : Type} (entries : Array α) {number other : Nat}
    (hne : number ≠ other) (first second : α → α) :
    (entries.modify number first).modify other second =
      (entries.modify other second).modify number first := by
  apply Array.ext_getElem?
  intro index
  simp only [Array.getElem?_modify]
  split <;> split <;> simp_all

/-- After a change of one entry, each entry was there before or is the changed one. -/
theorem mem_of_mem_modify {α : Type} {entries : Array α} {number : Nat} {change : α → α}
    {entry : α} (h : entry ∈ entries.modify number change) :
    entry ∈ entries ∨ ∃ old ∈ entries, entry = change old := by
  obtain ⟨index, hindex⟩ := Array.mem_iff_getElem?.mp h
  rw [Array.getElem?_modify] at hindex
  split at hindex
  · obtain ⟨old, hold, rfl⟩ := Option.map_eq_some_iff.mp hindex
    exact .inr ⟨old, Array.mem_of_getElem? hold, rfl⟩
  · exact .inl (Array.mem_of_getElem? hindex)

/-- What caps the renders of a driver. -/
structure Cap where
  throttle : Bool
  pending : Option Binary64
  interval : Nat
  alive : Bool
deriving DecidableEq

namespace Driver

def cap (driver : Driver) : Cap :=
  ⟨driver.throttle, driver.pending, driver.render.interval, driver.alive⟩

/-- What matters of a driver to turns: its cap, and whether it is busy. -/
def footing (driver : Driver) : Cap × Bool := (driver.cap, driver.busy)

theorem map_cap_modify (drivers : Array Driver) (number : Nat)
    (alter : Cap → Cap) {change : Driver → Driver}
    (hcap : ∀ driver, (change driver).cap = alter driver.cap) :
    (drivers.modify number change).map cap =
      (drivers.map cap).modify number alter := by
  apply Array.ext
  · simp
  · intro index hleft hright
    simp only [Array.getElem_map, Array.getElem_modify]
    split
    · exact hcap _
    · rfl

theorem map_modify_of_eq {α : Type} {view : Driver → α} (drivers : Array Driver)
    (number : Nat) {change : Driver → Driver}
    (hview : ∀ driver, view (change driver) = view driver) :
    (drivers.modify number change).map view = drivers.map view := by
  apply Array.ext
  · simp
  · intro index hleft hright
    simp only [Array.getElem_map, Array.getElem_modify]
    split
    · exact hview _
    · rfl

section Lookup

variable {rig : Rig} {number : Nat}

theorem getElem?_driver (hsize : number < rig.drivers.size) :
    rig.drivers[number]? = some (rig.driver number) := by
  rw [Rig.driver, Array.getElem?_eq_getElem hsize]
  rfl

theorem driver_modify (hsize : number < rig.drivers.size)
    (change : Driver → Driver) :
    (rig.drivers.modify number change)[number]?.getD default =
      change (rig.driver number) := by
  rw [Array.getElem?_modify, if_pos rfl, getElem?_driver hsize]
  rfl

theorem size_of_busy (hbusy : (rig.driver number).busy = true) :
    number < rig.drivers.size := by
  by_cases hsize : number < rig.drivers.size
  · exact hsize
  · rw [Rig.driver, Array.getElem?_eq_none (Nat.le_of_not_lt hsize)] at hbusy
    cases hbusy

theorem size_of_alive (halive : (rig.driver number).alive = true) :
    number < rig.drivers.size := by
  by_cases hsize : number < rig.drivers.size
  · exact hsize
  · rw [Rig.driver, Array.getElem?_eq_none (Nat.le_of_not_lt hsize)] at halive
    cases halive

theorem view_modify {α : Type} (view : Driver → α) (change : Driver → Driver)
    (hview : ∀ driver, view (change driver) = view driver) (rig : Rig)
    (number other : Nat) :
    view ((rig.drivers.modify other change)[number]?.getD default) =
      view (rig.driver number) := by
  rw [Rig.driver, Array.getElem?_modify]
  split
  · cases rig.drivers[number]? with
    | none => rfl
    | some driver => exact hview driver
  · rfl

end Lookup

end Driver

/-- One change of one facet. -/
inductive Rig.Touch : Facet → Rig → Rig → Prop
  | clock {rig} (now : Nat) : Touch .clock rig { rig with now }
  | called {rig} (number : Nat) :
      Touch .calls rig
        { rig with
          routines := rig.routines.modify number fun entry =>
            { entry with calls := entry.calls + 1 } }
  | pace {rig} (pace : Pace) : Touch .pace rig { rig with pace }
  | running {rig} (running : Bool) :
      Touch .running rig { rig with pace := { rig.pace with running } }
  | timing {rig} (drivers : Array Driver) : Touch .timing rig { rig with drivers }
  | marks {rig : Rig} {drivers : Array Driver}
      (hcaps : drivers.map Driver.cap = rig.drivers.map Driver.cap) :
      Touch .marks rig { rig with drivers }
  | handles {rig : Rig} {drivers : Array Driver}
      (hfooting : drivers.map Driver.footing = rig.drivers.map Driver.footing) :
      Touch .handles rig { rig with drivers }
  | emulators {rig} (emulators : Array Emulator) :
      Touch .emulators rig { rig with emulators }
  | mail {rig} (mailboxes : Array Mailbox) (nextTag nextMessage : Nat) :
      Touch .mail rig { rig with mailboxes, nextTag, nextMessage }
  | refreshes {rig} (refresher : Refresher) :
      Touch .refreshes rig { rig with refresher }
  | bench {rig} (debouncers : Array Debounced) (meters : Array RateMeter) :
      Touch .bench rig { rig with debouncers, meters }
  | loops {rig} (loops : Array LoopState) : Touch .loops rig { rig with loops }
  | controls {rig} (stepTag : Option Tag) (keyboard canned : Input) :
      Touch .controls rig { rig with stepTag, keyboard, canned }
  | event {rig facet} (event : Event) (hfacet : event.facet = facet) :
      Touch facet rig { rig with journal := event :: rig.journal }

namespace Rig

/-- What the routines of a rig do when they are called. -/
def courses (rig : Rig) : Array Course := rig.routines.map Routine.course

@[simp] theorem courses_enroll (rig : Rig) (course : Course) :
    (rig.enroll course).courses = rig.courses.push course :=
  Array.map_push

/-- Whatever a rig is touched in, its routines do what they did. -/
theorem Touch.courses {facet : Facet} {rig later : Rig}
    (h : rig.Touch facet later) : later.courses = rig.courses := by
  cases h with
  | called number =>
      apply Array.ext
      · simp [Rig.courses]
      · intro index hleft hright
        simp only [Rig.courses, Array.getElem_map, Array.getElem_modify]
        split <;> rfl
  | _ => rfl

theorem keepsTo_iff {allowed : Order → Prop} {rig : Rig} :
    rig.KeepsTo allowed ↔
      ∀ course ∈ rig.courses, ∀ call occasion,
        (course call occasion).KeepsTo allowed := by
  simp [KeepsTo, courses, Array.mem_map]

/-- A fresh rig has no routines yet. -/
theorem keepsTo_fresh (allowed : Order → Prop) (rate : Rate) (reportInterval : Nat) :
    (fresh rate reportInterval).KeepsTo allowed :=
  fun routine hroutine => by simp [fresh] at hroutine

theorem KeepsTo.of_courses {allowed : Order → Prop} {rig later : Rig}
    (h : rig.KeepsTo allowed) (hcourses : later.courses = rig.courses) :
    later.KeepsTo allowed := by
  rw [keepsTo_iff, hcourses, ← keepsTo_iff]
  exact h

theorem KeepsTo.enroll {allowed : Order → Prop} {rig : Rig} {course : Course}
    (h : rig.KeepsTo allowed)
    (hcourse : ∀ call occasion, (course call occasion).KeepsTo allowed) :
    (rig.enroll course).KeepsTo allowed := by
  intro routine hroutine
  rcases Array.mem_push.mp hroutine with hold | rfl
  · exact h routine hold
  · exact hcourse

end Rig

/-- If nobody is abandoned, nobody is let go. -/
theorem Rig.retireAbandoned_eq_self {rig : Rig}
    (h : ∀ number, rig.isAbandoned number = false) : rig.retireAbandoned = rig := by
  unfold retireAbandoned
  induction List.range rig.drivers.size with
  | nil => rfl
  | cons number rest ih => rw [List.foldl_cons, if_neg (by simp [h number]), ih]

namespace Contract

variable {contract : Contract} {facet : Facet} {α β : Type}

/-- A change after which a contract is kept if it was kept before. -/
def Admits (contract : Contract) (change : Rig → Rig) : Prop :=
  ∀ ⦃rig ending middle⦄, contract.leaves rig ending middle →
    contract.leaves rig ending (change middle)

/-- A contract that says nothing about a facet. -/
def Ignores (contract : Contract) (facet : Facet) : Prop :=
  ∀ ⦃rig ending middle later⦄, contract.leaves rig ending middle →
    middle.Touch facet later → contract.leaves rig ending later

def IgnoresAll (contract : Contract) (facets : List Facet) : Prop :=
  ∀ facet ∈ facets, contract.Ignores facet

theorem IgnoresAll.of_subset {few many : List Facet}
    (h : contract.IgnoresAll many) (hsubset : few ⊆ many) :
    contract.IgnoresAll few :=
  fun facet hfacet => h facet (hsubset hfacet)

theorem Admits.comp {first second : Rig → Rig} (hfirst : contract.Admits first)
    (hsecond : contract.Admits second) :
    contract.Admits fun rig => second (first rig) :=
  fun _ _ _ hleaves => hsecond (hfirst hleaves)

theorem Ignores.admits (h : contract.Ignores facet) {change : Rig → Rig}
    (htouch : ∀ rig, Rig.Touch facet rig (change rig)) :
    contract.Admits change :=
  fun _ _ middle hleaves => h hleaves (htouch middle)

theorem Ignores.admits_event (h : contract.Ignores facet) {event : Event}
    (hfacet : event.facet = facet) :
    contract.Admits fun rig => { rig with journal := event :: rig.journal } :=
  h.admits fun _ => .event event hfacet

/-- Drivers may change in anything but their footing. -/
theorem Ignores.admits_driver (h : contract.Ignores .handles) (number : Nat)
    {change : Driver → Driver}
    (hfooting : ∀ driver, (change driver).footing = driver.footing) :
    contract.Admits fun rig =>
      { rig with drivers := rig.drivers.modify number change } := by
  exact h.admits fun rig =>
    .handles (Driver.map_modify_of_eq rig.drivers number hfooting)

section Combinators

theorem sound_pure (a : α) : contract.Sound (pure a : Exec α) :=
  fun _ hfinds => contract.refl hfinds

theorem sound_unwind (cause : Panic) :
    contract.Sound (Exec.unwind cause : Exec α) :=
  fun _ hfinds => contract.refl hfinds

theorem sound_exhausted : contract.Sound (Exec.exhausted : Exec α) :=
  fun _ hfinds => contract.refl hfinds

theorem sound_look (view : Rig → α) : contract.Sound (Exec.look view) :=
  fun _ hfinds => contract.refl hfinds

theorem Admits.sound {change : Rig → Rig} (h : contract.Admits change) :
    contract.Sound (Exec.update change) :=
  fun _ hfinds => h (contract.refl hfinds)

/-- Where a sequence is promised to leave the rig, its second part may start
from what the first part made of the rig. -/
theorem SoundAt.bind {rig : Rig} {first : Exec α} {next : α → Exec β}
    (hfirst : contract.SoundAt rig first) (hfinds : contract.finds rig)
    (hnext : ∀ a, contract.Sound (next a)) :
    contract.SoundAt rig (first >>= next) := by
  rw [SoundAt, Exec.bind_apply, Progress.respects_andThen]
  apply hfirst.imp
  intro ending middle hleaves
  cases ending with
  | value a =>
      apply (hnext a middle (contract.keeps hfinds hleaves)).imp
      exact fun _ _ hrest => contract.trans hleaves hrest
  | panicked cause => exact hleaves
  | exhausted => exact hleaves

theorem Sound.bind {first : Exec α} {next : α → Exec β}
    (hfirst : contract.Sound first) (hnext : ∀ a, contract.Sound (next a)) :
    contract.Sound (first >>= next) :=
  fun rig hfinds => SoundAt.bind (hfirst rig hfinds) hfinds hnext

/-- A second part that does not depend on the first. -/
theorem Sound.seq {first : Exec α} {next : Exec β}
    (hfirst : contract.Sound first) (hnext : contract.Sound next) :
    contract.Sound (first >>= fun _ => next) :=
  hfirst.bind fun _ => hnext

/-- A sequence that starts with a look at the rig. -/
theorem sound_of_look {view : Rig → α} {next : α → Exec β}
    (hnext : ∀ rig, contract.finds rig → contract.SoundAt rig (next (view rig))) :
    contract.Sound (Exec.look view >>= next) :=
  fun rig hfinds => hnext rig hfinds

theorem SoundAt.map {rig : Rig} {x : Exec α} (h : contract.SoundAt rig x)
    (hfinds : contract.finds rig) (f : α → β) : contract.SoundAt rig (f <$> x) := by
  rw [map_eq_pure_bind]
  exact h.bind hfinds fun a => sound_pure (f a)

theorem Sound.map {x : Exec α} (h : contract.Sound x) (f : α → β) :
    contract.Sound (f <$> x) :=
  fun rig hfinds => SoundAt.map (h rig hfinds) hfinds f

theorem SoundAt.ensuring {rig : Rig} {body : Exec α} {release : Rig → Rig}
    (hbody : contract.SoundAt rig body) (hrelease : contract.Admits release) :
    contract.SoundAt rig (body.ensuring release) := by
  rw [SoundAt, Exec.ensuring_apply, Progress.respects_atEnd]
  exact hbody.imp fun _ _ hleaves => hrelease hleaves

theorem Sound.ensuring {body : Exec α} {release : Rig → Rig}
    (hbody : contract.Sound body) (hrelease : contract.Admits release) :
    contract.Sound (body.ensuring release) :=
  fun rig hfinds => SoundAt.ensuring (hbody rig hfinds) hrelease

/-- A computation that starts with a change. -/
theorem Sound.after {body : Exec α} {change : Rig → Rig}
    (hbody : contract.Sound body) (hchange : contract.Admits change) :
    contract.Sound fun rig => body (change rig) := by
  intro rig hfinds
  have hstart : contract.leaves rig (.value ()) rig := contract.refl hfinds
  have hleaves := hchange hstart
  exact (hbody _ (contract.keeps hfinds hleaves)).imp fun _ _ hrest =>
    contract.trans hleaves hrest

theorem Ignores.sound_record (h : contract.Ignores facet) {event : Event}
    (hfacet : event.facet = facet) : contract.Sound (Exec.record event) :=
  (h.admits_event hfacet).sound

theorem Ignores.admits_log (h : contract.Ignores .diary) (lines : List Log.Line) :
    contract.Admits fun rig =>
      { rig with journal := lines.map Event.logged ++ rig.journal } := by
  induction lines with
  | nil => exact fun _ _ _ hleaves => hleaves
  | cons line rest ih =>
      have hline : contract.Admits fun rig =>
          { rig with journal := .logged line :: rig.journal } :=
        h.admits_event rfl
      exact ih.comp hline

theorem Ignores.sound_log (h : contract.Ignores .diary) (lines : List Log.Line) :
    contract.Sound (Exec.log lines) :=
  (h.admits_log lines.reverse).sound

theorem Sound.within {body : Exec α} {part : Part} {mark : Bool → Rig → Rig}
    (hbody : contract.Sound body)
    (hentered : contract.Admits fun rig =>
      { mark true rig with journal := .entered part :: rig.journal })
    (hleft : contract.Admits fun rig =>
      { mark false rig with journal := .left part :: rig.journal }) :
    contract.Sound (Exec.within part mark body) :=
  (hbody.after hentered).ensuring hleft

/-- A routine may be called wherever it is known that calls are counted. -/
theorem Ignores.sound_call (h : contract.Ignores .calls) (routine : Nat)
    (occasion : Occasion) : contract.Sound (Exec.call routine occasion) := by
  intro rig hfinds
  simp only [Exec.call, Exec.bind_apply, Exec.look_apply, Progress.andThen]
  rcases hentry : rig.routines[routine]? with _ | entry
  · exact contract.refl hfinds
  · have hstart : contract.leaves rig (.value ()) rig := contract.refl hfinds
    have hcalled := h hstart (.called routine)
    have hkeeps := contract.bound hfinds entry
      (Array.mem_of_getElem? hentry) entry.calls occasion
    refine ⟨contract.keeps hfinds hcalled, hkeeps, ?_⟩
    intro ending later hleaves
    have hrest := contract.trans hcalled hleaves
    cases ending <;> exact hrest

theorem Ignores.sound_callQuietly (h : contract.Ignores .calls) (routine : Nat)
    (occasion : Occasion) :
    contract.Sound (Exec.callQuietly routine occasion) :=
  (h.sound_call routine occasion).bind fun _ => sound_pure ()

end Combinators

end Contract

end Cadence
