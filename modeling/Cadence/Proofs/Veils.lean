import Cadence.Proofs.Frame

/-!
Veils.  A veil hides a part of one driver and everything in the journal but what was
asked of emulators and displays.  Two rigs are alike if they cannot be told apart
through the veil.  A computation that is blind goes the same way on alike rigs and
leaves them alike, provided that user code does; and if all orders of some user code
are blind, then it does.
-/

namespace Cadence

/-- An emulator was asked for a cycle or a frame, or a display was given a status or a
frame. -/
def Event.isCall : Event → Bool
  | .advanced _ => true
  | .rendered _ => true
  | .statusSet _ _ => true
  | .drawn _ _ => true
  | _ => false

/-- Lines are no calls. -/
theorem filter_isCall_logged (lines : List Log.Line) :
    (lines.map Event.logged).filter Event.isCall = [] := by
  rw [List.filter_eq_nil_iff]
  intro event hevent
  obtain ⟨line, _, rfl⟩ := List.mem_map.mp hevent
  exact Bool.false_ne_true

/-- Orders that have nothing to do with emulators and drivers. -/
def Order.isDriverless : Order → Bool
  | .driver _ => false
  | _ => true

/-- User code can reach drivers in no other way than by changing the pace, and none of
them is about to be let go. -/
structure Rig.Driverless (rig : Rig) : Prop where
  routines : rig.KeepsTo (·.isDriverless = true)
  tasks : ∀ entry ∈ rig.refresher.tasks, ∃ routine, entry.body = .routine routine
  callbacks : ∀ mailbox ∈ rig.mailboxes, ∀ entry ∈ mailbox.registrations,
    ∃ routine, entry.callback = .routine routine
  handles : ∀ driver ∈ rig.drivers, driver.alive = true → driver.handle = true

/-- What hides a part of a driver.  The blur may take a shift into account by which two
rigs differ; what it leaves of a driver tells what it leaves of it when the driver is
told a frame time.  Something may be known of the driver all the same. -/
structure Veil where
  number : Nat
  blur : Nat → Driver → Driver
  told : Binary64 → Driver → Driver
  knows : Driver → Prop
  blur_told : ∀ shift driver millis,
    blur shift { driver with pending := some millis } = told millis (blur shift driver)
  knows_told : ∀ driver millis, knows driver →
    knows { driver with pending := some millis }

namespace Veil

variable (veil : Veil) {α β : Type}

/-- What can be seen of a rig. -/
def hide (shift : Nat) (rig : Rig) : Rig :=
  { rig with
    drivers := rig.drivers.modify veil.number (veil.blur shift)
    journal := rig.journal.filter Event.isCall }

/-- There is a driver to hide, and what is to be known of it holds. -/
structure Covers (rig : Rig) : Prop extends rig.Driverless where
  known : ∃ driver, rig.drivers[veil.number]? = some driver ∧ veil.knows driver

/-- Two rigs that cannot be told apart, where the second one is shifted. -/
structure Alike (shift : Nat) (rig other : Rig) : Prop where
  hidden : veil.hide 0 rig = veil.hide shift other
  covers : veil.Covers rig
  otherCovers : veil.Covers other

/-- Computations that go the same way on alike rigs, as long as scripts do. -/
inductive Twin (shift : Nat) : Progress α → Progress α → Prop
  | ended {ending rig other} : veil.Alike shift rig other →
      Twin shift (.ended ending rig) (.ended ending other)
  | handed {script rig other resume resumeOther} : veil.Alike shift rig other →
      script.KeepsTo (·.isDriverless = true) →
      (∀ ending later otherLater, veil.Alike shift later otherLater →
        Twin shift (resume ending later) (resumeOther ending otherLater)) →
      Twin shift (.handed script rig resume) (.handed script other resumeOther)

/-- A computation that does not see what is hidden. -/
def Blind (x : Exec α) : Prop :=
  ∀ shift rig other, veil.Alike shift rig other → veil.Twin shift (x rig) (x other)

/-- A change that keeps alike rigs alike. -/
def Keeps (change : Rig → Rig) : Prop :=
  ∀ shift rig other, veil.Alike shift rig other →
    veil.Alike shift (change rig) (change other)

/-- A way of running scripts that keeps alike rigs alike. -/
def Plays (play : Play) : Prop :=
  ∀ shift script rig other, script.KeepsTo (·.isDriverless = true) →
    veil.Alike shift rig other →
    (play script rig).1 = (play script other).1 ∧
      veil.Alike shift (play script rig).2 (play script other).2

variable {veil} {shift : Nat} {rig other : Rig}

/-! ### Alike rigs -/

/-- What is seen through the veil is the same. -/
theorem Alike.view (halike : veil.Alike shift rig other) {γ : Type} (view : Rig → γ)
    (hview : ∀ shift rig, view (veil.hide shift rig) = view rig) :
    view rig = view other := by
  rw [← hview 0 rig, halike.hidden, hview]

theorem Keeps.comp {first second : Rig → Rig} (hfirst : veil.Keeps first)
    (hsecond : veil.Keeps second) : veil.Keeps fun rig => second (first rig) :=
  fun shift rig other halike => hsecond _ _ _ (hfirst shift rig other halike)

/-- A change that can be followed through the veil. -/
theorem keeps_of_hide {change : Rig → Rig} (seen : Rig → Rig)
    (hseen : ∀ shift rig, veil.hide shift (change rig) = seen (veil.hide shift rig))
    (hkept : ∀ rig, veil.Covers rig → veil.Covers (change rig)) : veil.Keeps change := by
  intro shift rig other halike
  refine ⟨?_, hkept rig halike.covers, hkept other halike.otherCovers⟩
  rw [hseen, hseen, halike.hidden]

/-- Only some parts of a rig matter to the covered driver. -/
theorem Covers.of_eq {later : Rig} (h : veil.Covers rig)
    (hcourses : later.courses = rig.courses)
    (htasks : later.refresher.tasks = rig.refresher.tasks)
    (hmailboxes : later.mailboxes = rig.mailboxes)
    (hdrivers : later.drivers = rig.drivers) : veil.Covers later := by
  refine ⟨⟨h.routines.of_courses hcourses, ?_, ?_, ?_⟩, ?_⟩
  · rw [htasks]
    exact h.tasks
  · rw [hmailboxes]
    exact h.callbacks
  · rw [hdrivers]
    exact h.handles
  · rw [hdrivers]
    exact h.known

end Veil

namespace Rig.Driverless

variable {rig : Rig}

/-- One driver may change in anything but its handle and its life. -/
theorem of_modify {later : Rig} (h : rig.Driverless) (number : Nat)
    (change : Driver → Driver) (hhandle : ∀ driver, (change driver).handle = driver.handle)
    (halive : ∀ driver, (change driver).alive = driver.alive)
    (hcourses : later.courses = rig.courses)
    (htasks : later.refresher.tasks = rig.refresher.tasks)
    (hmailboxes : later.mailboxes = rig.mailboxes)
    (hdrivers : later.drivers = rig.drivers.modify number change) : later.Driverless := by
  refine ⟨h.routines.of_courses hcourses, ?_, ?_, ?_⟩
  · rw [htasks]
    exact h.tasks
  · rw [hmailboxes]
    exact h.callbacks
  · intro driver hdriver halives
    rw [hdrivers] at hdriver
    rcases mem_of_mem_modify hdriver with hold | ⟨old, hold, rfl⟩
    · exact h.handles driver hold halives
    · rw [halive] at halives
      rw [hhandle]
      exact h.handles old hold halives

/-- Nobody is to be let go. -/
theorem retireAbandoned (h : rig.Driverless) : rig.retireAbandoned = rig := by
  refine retireAbandoned_eq_self fun number => ?_
  have hhandle : (rig.driver number).alive = true →
      (rig.driver number).handle = true := by
    rw [Rig.driver]
    cases hdriver : rig.drivers[number]? with
    | none => exact fun halive => absurd halive (by decide)
    | some driver => exact h.handles driver (Array.mem_of_getElem? hdriver)
  cases halive : (rig.driver number).alive with
  | false => simp [isAbandoned, halive]
  | true => simp [isAbandoned, isReferenced, hhandle halive]

end Rig.Driverless

namespace Veil

variable {veil : Veil} {α β : Type} {shift : Nat} {rig other : Rig}

theorem keeps_retireAbandoned : veil.Keeps Rig.retireAbandoned := by
  intro shift rig other halike
  rw [halike.covers.retireAbandoned, halike.otherCovers.retireAbandoned]
  exact halike

theorem keeps_record (event : Event) :
    veil.Keeps fun rig => { rig with journal := event :: rig.journal } := by
  refine keeps_of_hide (fun rig => { rig with
    journal := [event].filter Event.isCall ++ rig.journal }) (fun shift rig => ?_)
    fun rig h => h.of_eq rfl rfl rfl rfl
  rw [hide, hide, ← List.filter_append]
  rfl

theorem keeps_log (lines : List Log.Line) :
    veil.Keeps fun rig =>
      { rig with journal := lines.reverse.map Event.logged ++ rig.journal } := by
  refine keeps_of_hide id (fun shift rig => ?_) fun rig h => h.of_eq rfl rfl rfl rfl
  rw [hide, hide, List.filter_append, filter_isCall_logged]
  rfl

/-- What happens to drivers can be followed if it is the same to a blurred driver. -/
theorem keeps_drivers (number : Nat) {change : Driver → Driver} (seen : Driver → Driver)
    (hseen : ∀ shift driver, number = veil.number →
      veil.blur shift (change driver) = seen (veil.blur shift driver))
    (hknows : ∀ driver, number = veil.number → veil.knows driver →
      veil.knows (change driver))
    (hhandle : ∀ driver, (change driver).handle = driver.handle)
    (halive : ∀ driver, (change driver).alive = driver.alive) :
    veil.Keeps fun rig => { rig with drivers := rig.drivers.modify number change } := by
  refine keeps_of_hide (fun rig => { rig with
    drivers := rig.drivers.modify number (if number = veil.number then seen else change) })
    (fun shift rig => ?_) fun rig h =>
      ⟨h.toDriverless.of_modify number change hhandle halive rfl rfl rfl rfl, ?_⟩
  -- The veiled driver changes as the blurred one does, and a change of any other
  -- driver passes the veil.
  · have hdrivers : (rig.drivers.modify number change).modify veil.number
        (veil.blur shift) =
          (rig.drivers.modify veil.number (veil.blur shift)).modify number
            (if number = veil.number then seen else change) := by
      by_cases hnumber : number = veil.number
      · rw [if_pos hnumber, hnumber, modify_modify, modify_modify]
        exact congrArg _ (funext fun driver => hseen shift driver hnumber)
      · rw [if_neg hnumber]
        exact modify_comm _ hnumber change (veil.blur shift)
    rw [hide, hide, hdrivers]
  · obtain ⟨driver, hdriver, hknown⟩ := h.known
    by_cases hnumber : number = veil.number
    · refine ⟨change driver, ?_, hknows driver hnumber hknown⟩
      simp [Array.getElem?_modify, hnumber, hdriver]
    · exact ⟨driver, by simp [Array.getElem?_modify, hnumber, hdriver], hknown⟩

/-! ### Blind computations -/

theorem Twin.andThen {x y : Progress α} {next : α → Exec β}
    (htwin : veil.Twin shift x y) (hnext : ∀ a, veil.Blind (next a)) :
    veil.Twin shift (x.andThen next) (y.andThen next) := by
  induction htwin with
  | @ended ending rig other halike =>
      cases ending with
      | value a => exact hnext a shift rig other halike
      | panicked cause => exact .ended halike
      | exhausted => exact .ended halike
  | handed halike hkeeps _ ih => exact .handed halike hkeeps ih

theorem Twin.atEnd {x y : Progress α} {release : Rig → Rig}
    (htwin : veil.Twin shift x y) (hrelease : veil.Keeps release) :
    veil.Twin shift (x.atEnd release) (y.atEnd release) := by
  induction htwin with
  | ended halike => exact .ended (hrelease _ _ _ halike)
  | handed halike hkeeps _ ih => exact .handed halike hkeeps ih

/-- Twins end alike. -/
theorem Twin.run {play : Play} (hplays : veil.Plays play) {x y : Progress α}
    (htwin : veil.Twin shift x y) :
    (x.run play).1 = (y.run play).1 ∧
      veil.Alike shift (x.run play).2 (y.run play).2 := by
  induction htwin with
  | ended halike => exact ⟨rfl, halike⟩
  | @handed script rig other resume resumeOther halike hkeeps _ ih =>
      obtain ⟨hending, hlater⟩ := hplays shift script rig other hkeeps halike
      simp only [Progress.run]
      rw [← hending]
      exact ih _ _ _ hlater

theorem blind_pure (a : α) : veil.Blind (pure a : Exec α) :=
  fun _ _ _ halike => .ended halike

theorem blind_unwind (cause : Panic) : veil.Blind (Exec.unwind cause : Exec α) :=
  fun _ _ _ halike => .ended halike

theorem blind_exhausted : veil.Blind (Exec.exhausted : Exec α) :=
  fun _ _ _ halike => .ended halike

theorem blind_look {view : Rig → α}
    (hview : ∀ shift rig, view (veil.hide shift rig) = view rig) :
    veil.Blind (Exec.look view) := by
  intro shift rig other halike
  rw [Exec.look_apply, Exec.look_apply, halike.view view hview]
  exact .ended halike

/-- A look at what has a property where user code cannot reach drivers. -/
theorem blind_look_bind {view : Rig → α} {next : α → Exec β} (property : α → Prop)
    (hview : ∀ shift rig, view (veil.hide shift rig) = view rig)
    (hproperty : ∀ rig, rig.Driverless → property (view rig))
    (hnext : ∀ a, property a → veil.Blind (next a)) :
    veil.Blind (Exec.look view >>= next) := by
  intro shift rig other halike
  have hother : view rig = view other := halike.view view hview
  simp only [Exec.bind_apply, Exec.look_apply, Progress.andThen]
  rw [← hother]
  exact hnext _ (hproperty rig halike.covers.toDriverless) shift rig other halike

theorem Keeps.blind {change : Rig → Rig} (h : veil.Keeps change) :
    veil.Blind (Exec.update change) :=
  fun _ _ _ halike => .ended (h _ _ _ halike)

theorem Blind.bind {first : Exec α} {next : α → Exec β} (hfirst : veil.Blind first)
    (hnext : ∀ a, veil.Blind (next a)) : veil.Blind (first >>= next) :=
  fun shift rig other halike => (hfirst shift rig other halike).andThen hnext

/-- A second part that does not depend on the first. -/
theorem Blind.seq {first : Exec α} {next : Exec β} (hfirst : veil.Blind first)
    (hnext : veil.Blind next) : veil.Blind (first >>= fun _ => next) :=
  hfirst.bind fun _ => hnext

theorem Blind.map {x : Exec α} (h : veil.Blind x) (f : α → β) : veil.Blind (f <$> x) := by
  rw [map_eq_pure_bind]
  exact h.bind fun a => blind_pure (f a)

theorem Blind.ensuring {body : Exec α} {release : Rig → Rig} (hbody : veil.Blind body)
    (hrelease : veil.Keeps release) : veil.Blind (body.ensuring release) :=
  fun shift rig other halike => (hbody shift rig other halike).atEnd hrelease

theorem blind_record (event : Event) : veil.Blind (Exec.record event) :=
  (keeps_record event).blind

theorem blind_log (lines : List Log.Line) : veil.Blind (Exec.log lines) :=
  (keeps_log lines).blind

theorem Blind.within {body : Exec α} {part : Part} {mark : Bool → Rig → Rig}
    (hbody : veil.Blind body)
    (hentered : veil.Keeps fun rig =>
      { mark true rig with journal := .entered part :: rig.journal })
    (hleft : veil.Keeps fun rig =>
      { mark false rig with journal := .left part :: rig.journal }) :
    veil.Blind (Exec.within part mark body) := by
  intro shift rig other halike
  rw [Exec.within_apply, Exec.within_apply]
  exact (hbody _ _ _ (hentered _ _ _ halike)).atEnd hleft

theorem keeps_called (routine : Nat) :
    veil.Keeps fun rig =>
      { rig with
        routines := rig.routines.modify routine fun entry =>
          { entry with calls := entry.calls + 1 } } := by
  refine keeps_of_hide (fun rig => { rig with
    routines := rig.routines.modify routine fun entry =>
      { entry with calls := entry.calls + 1 } }) (fun _ _ => rfl) fun rig h => ?_
  exact h.of_eq (Rig.Touch.called routine).courses rfl rfl rfl

/-- What a routine does is the same on alike rigs. -/
theorem blind_call (routine : Nat) (occasion : Occasion) :
    veil.Blind (Exec.call routine occasion) := by
  intro shift rig other halike
  have hroutine : rig.routines[routine]? = other.routines[routine]? :=
    halike.view (·.routines[routine]?) fun _ _ => rfl
  simp only [Exec.call, Exec.bind_apply, Exec.look_apply, Progress.andThen]
  rw [← hroutine]
  cases hentry : rig.routines[routine]? with
  | none => exact .ended halike
  | some entry =>
      have hkeeps := halike.covers.routines entry (Array.mem_of_getElem? hentry)
        entry.calls occasion
      refine .handed (keeps_called routine _ _ _ halike) hkeeps ?_
      intro ending later otherLater hlater
      cases ending with
      | value answer => exact .ended hlater
      | panicked cause => exact .ended hlater
      | exhausted => exact .ended hlater

theorem blind_callQuietly (routine : Nat) (occasion : Occasion) :
    veil.Blind (Exec.callQuietly routine occasion) :=
  (blind_call routine occasion).bind fun _ => blind_pure ()

end Veil

end Cadence
