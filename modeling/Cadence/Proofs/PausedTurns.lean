import Cadence.Proofs.BlindTurns
import Cadence.Proofs.Handovers

/-!
Paused turns.  A turn that is taken while the emulation is paused can be left out of a
run, and the rest goes on in the same way: what it does to its driver, any later turn
would have done as well.
-/

namespace Cadence

open Exec Veil

namespace Driver

/-- The last frame time that was announced is the one that counts. -/
theorem applyPending_applyPending (driver : Driver) (millis : Binary64) :
    ({ driver.applyPending with pending := some millis } : Driver).applyPending =
      ({ driver with pending := some millis } : Driver).applyPending := by
  obtain ⟨_, _, render, throttle, _, pending, _, _, _, _, _, _⟩ := driver
  cases pending with
  | none => rfl
  | some earlier =>
      cases throttle with
      | false => simp only [applyPending, Bool.false_eq_true, if_false]
      | true => simp only [applyPending, if_true, Debouncer.withInterval]

end Driver

namespace Veil

/-- Hides of a driver between its turns what a turn starts with anyway: the frame time
that has been announced since the last one, if it is taken over, and the refresh rate
that was told; and by how many paused turns drivers differ. -/
def between (number : Nat) : Veil where
  number
  blur shift driver :=
    { driver.applyPending with measuredRate := none, stats := driver.stats.shifted shift }
  told millis driver := ({ driver with pending := some millis } : Driver).applyPending
  knows driver := driver.handle = true ∧ driver.busy = false
  blur_told shift driver millis := by
    have htold := Driver.applyPending_with
      { driver.applyPending with pending := some millis } none (driver.stats.shifted shift)
    rw [Driver.applyPending_applyPending] at htold
    exact htold.symm
  knows_told _ _ h := h

@[simp] theorem number_between (number : Nat) : (between number).number = number := rfl

end Veil

namespace Driver

variable {number shift : Nat} {rig other : Rig}

theorem drivers_turnStarted (measuredRate : Option Binary64) (rig : Rig) :
    (turnStarted number measuredRate rig).drivers =
      rig.drivers.modify number fun driver =>
        begun measuredRate { driver with busy := true } := by
  simp only [turnStarted, opened, Rig.entered, mark, modify_modify]

theorem calls_turnStarted (measuredRate : Option Binary64) (rig : Rig) :
    (turnStarted number measuredRate rig).journal.filter Event.isCall =
      rig.journal.filter Event.isCall := by
  simp only [turnStarted, opened, Rig.entered, List.filter_append, filter_isCall_logged]
  rfl

theorem begun_eq (measuredRate : Option Binary64) (driver : Driver) :
    begun measuredRate { driver with busy := true } =
      { driver.applyPending with
        measuredRate
        busy := true
        stats := { driver.stats with turns := driver.stats.turns + 1 } } := by
  have hbegun := applyPending_with { driver with busy := true } measuredRate
    { driver.stats with turns := driver.stats.turns + 1 }
  rw [applyPending_busy] at hbegun
  exact hbegun

/-- What becomes of what is seen of a driver when a turn begins. -/
def seenBegun (measuredRate : Option Binary64) (seen : Driver) : Driver :=
  { seen with
    measuredRate
    busy := true
    stats := { seen.stats with turns := seen.stats.turns + 1 } }

/-- The beginning of a turn overwrites what was hidden before. -/
theorem shifted_begun (measuredRate : Option Binary64) (shift : Nat) (driver : Driver) :
    (begun measuredRate { driver with busy := true }).shifted shift =
      seenBegun measuredRate ((between number).blur shift driver) := by
  have hstats (stats : DriverStats) :
      ({ stats with turns := stats.turns + 1 } : DriverStats).shifted shift =
        { stats.shifted shift with turns := (stats.shifted shift).turns + 1 } := by
    simp [DriverStats.shifted, Nat.add_right_comm]
  rw [begun_eq, shifted, hstats]
  rfl

theorem covers_turnStarted (measuredRate : Option Binary64)
    (h : (between number).Covers rig) :
    (counts number).Covers (turnStarted number measuredRate rig) := by
  obtain ⟨driver, hdriver, hhandle, -⟩ := h.known
  refine ⟨h.toDriverless.of_modify number _ (fun driver => ?_) (fun driver => ?_) rfl rfl
    rfl (drivers_turnStarted measuredRate rig), ?_⟩
  · rw [begun_eq, handle_applyPending]
  · rw [begun_eq, alive_applyPending]
  · refine ⟨begun measuredRate { driver with busy := true }, ?_, ?_⟩
    · have hfound : rig.drivers[number]? = some driver := hdriver
      change (turnStarted number measuredRate rig).drivers[number]? = _
      rw [drivers_turnStarted, Array.getElem?_modify, if_pos rfl, hfound]
      rfl
    · rw [begun_eq]
      exact ⟨(handle_applyPending driver).trans hhandle, rfl⟩

/-- Rigs that are alike between turns are alike in turns. -/
theorem alike_turnStarted (measuredRate : Option Binary64)
    (halike : (between number).Alike shift rig other) :
    (counts number).Alike shift (turnStarted number measuredRate rig)
      (turnStarted number measuredRate other) := by
  have hseen (shift : Nat) (rig : Rig) :
      (counts number).hide shift (turnStarted number measuredRate rig) =
        changed number (seenBegun measuredRate) ((between number).hide shift rig) := by
    have hdrivers : (turnStarted number measuredRate rig).drivers.modify number
        (Driver.shifted shift) =
          (rig.drivers.modify number ((between number).blur shift)).modify number
            (seenBegun measuredRate) := by
      simp only [drivers_turnStarted, modify_modify]
      exact congrArg (rig.drivers.modify number)
        (funext (shifted_begun measuredRate shift))
    rw [hide, calls_turnStarted]
    change ({ turnStarted number measuredRate rig with
      drivers := (turnStarted number measuredRate rig).drivers.modify number
        (Driver.shifted shift)
      journal := rig.journal.filter Event.isCall } : Rig) = _
    rw [hdrivers]
    rfl
  refine ⟨?_, covers_turnStarted measuredRate halike.covers,
    covers_turnStarted measuredRate halike.otherCovers⟩
  rw [hseen, hseen, halike.hidden]

/-- What becomes of what is seen of a driver when a turn ends. -/
def seenOver (seen : Driver) : Driver :=
  { seen.applyPending with measuredRate := none, busy := false }

theorem covers_leftBy (h : (counts number).Covers rig) :
    (between number).Covers (rig.leftBy (.driver number) (mark number)) := by
  obtain ⟨driver, hdriver, hhandle, -⟩ := h.known
  refine ⟨h.toDriverless.of_modify number ({ · with busy := false }) (fun _ => rfl)
    (fun _ => rfl) rfl rfl rfl rfl, { driver with busy := false }, ?_, hhandle, rfl⟩
  have hfound : rig.drivers[number]? = some driver := hdriver
  simp [Rig.leftBy, mark, Array.getElem?_modify, hfound]

theorem turnOver_eq (h : (counts number).Covers rig) :
    turnOver number rig = rig.leftBy (.driver number) (mark number) :=
  (covers_leftBy h).retireAbandoned

/-- Rigs that are alike in turns are alike between turns. -/
theorem alike_turnOver (halike : (counts number).Alike shift rig other) :
    (between number).Alike shift (turnOver number rig) (turnOver number other) := by
  have hblur (shift : Nat) (driver : Driver) :
      (between number).blur shift { driver with busy := false } =
        seenOver (driver.shifted shift) := by
    have hshifted := applyPending_with driver driver.measuredRate
      (driver.stats.shifted shift)
    rw [seenOver, shifted, hshifted]
    change ({ ({ driver with busy := false } : Driver).applyPending with
      measuredRate := none, stats := driver.stats.shifted shift } : Driver) = _
    rw [applyPending_busy]
  have hseen (shift : Nat) (rig : Rig) :
      (between number).hide shift (rig.leftBy (.driver number) (mark number)) =
        changed number seenOver ((counts number).hide shift rig) := by
    have hdrivers : (rig.leftBy (.driver number) (mark number)).drivers.modify number
        ((between number).blur shift) =
          (rig.drivers.modify number (Driver.shifted shift)).modify number seenOver := by
      simp only [Rig.leftBy, mark, modify_modify]
      exact congrArg (rig.drivers.modify number) (funext (hblur shift))
    rw [hide, number_between, hdrivers]
    rfl
  rw [turnOver_eq halike.covers, turnOver_eq halike.otherCovers]
  refine ⟨?_, covers_leftBy halike.covers, covers_leftBy halike.otherCovers⟩
  rw [hseen, hseen, halike.hidden]

/-- A turn of a driver that is free: it has begun, goes on, and is over. -/
theorem run_turnByHand {measuredRate : Option Binary64} {play : Play}
    (h : (between number).Covers rig) {ending : Ending (Except Failure Turn)} {later : Rig}
    (hcarried : (carryOn number (turnStarted number measuredRate rig)).run play =
      (ending, later)) :
    (turnByHand number measuredRate rig).run play =
      (ending.map some, turnOver number later) := by
  obtain ⟨driver, hdriver, hhandle, hfree⟩ := h.known
  have hfound : rig.drivers[number]? = some driver := hdriver
  have hhas : (rig.driver number).handle = true := by
    rw [Rig.driver, hfound]
    exact hhandle
  have hhand : turnByHand number measuredRate rig =
      ifFree number (turn number measuredRate) rig := by
    simp [turnByHand, Progress.andThen, hhas]
  rw [← turn_entered] at hcarried
  rw [hhand]
  exact run_ifFree hfound hfree hcarried

/-- A turn that is taken on both sides keeps rigs alike, and has the same end. -/
theorem alike_turnByHand {measuredRate : Option Binary64} {play : Play}
    (hplays : ∀ veil : Veil, veil.Plays play)
    (halike : (between number).Alike shift rig other) :
    ((turnByHand number measuredRate rig).run play).1 =
        ((turnByHand number measuredRate other).run play).1 ∧
      (between number).Alike shift ((turnByHand number measuredRate rig).run play).2
        ((turnByHand number measuredRate other).run play).2 := by
  have hstarted := alike_turnStarted measuredRate halike
  have htwin := blind_carryOn number shift _ _ hstarted
  obtain ⟨hending, hlater⟩ := htwin.run (hplays _)
  rw [run_turnByHand halike.covers rfl, run_turnByHand halike.otherCovers rfl]
  exact ⟨congrArg (Ending.map some) hending, alike_turnOver hlater⟩

/-- When renders were last activated is not hidden. -/
theorem lastActivation_of_alike (halike : (between number).Alike shift rig other) :
    (rig.driver number).render.lastActivation =
      (other.driver number).render.lastActivation := by
  have hkept (driver : Driver) :
      driver.applyPending.render.lastActivation = driver.render.lastActivation := by
    simp only [applyPending]
    split
    · rfl
    · simp only [apply_ite Debouncer.lastActivation, Debouncer.withInterval, ite_self]
  refine halike.view (fun rig => (rig.driver number).render.lastActivation)
    fun shift rig => ?_
  exact view_modify (·.render.lastActivation) ((between number).blur shift) hkept rig
    number number

/-- The counts of drivers differ by the shift, and nothing else does. -/
theorem stats_of_alike (halike : (between number).Alike shift rig other) :
    (rig.driver number).stats = (other.driver number).stats.shifted shift := by
  have hstats {rig : Rig} (hcovers : (between number).Covers rig) (shift : Nat) :
      (((between number).hide shift rig).driver number).stats =
        (rig.driver number).stats.shifted shift := by
    obtain ⟨driver, hdriver, -⟩ := hcovers.known
    have hfound : rig.drivers[number]? = some driver := hdriver
    simp [Rig.driver, hide, Array.getElem?_modify, hfound, between]
  have hsame := hstats halike.covers 0
  rw [halike.hidden, hstats halike.otherCovers] at hsame
  exact hsame.symm

theorem shifted_countPaused (shift : Nat) (driver : Driver) :
    (countPaused driver).shifted shift = countPaused (driver.shifted shift) := by
  simp [countPaused, shifted, DriverStats.shifted, Nat.add_right_comm]

/-- What a turn that is paused makes of its driver cannot be seen, but for the shift. -/
theorem blur_paused (measuredRate : Option Binary64) {driver : Driver}
    (hfree : driver.busy = false) :
    (between number).blur 0
        { countPaused (begun measuredRate { driver with busy := true }) with
          busy := false } =
      (between number).blur 1 driver := by
  have hidle : ({ driver.applyPending with busy := false } : Driver) =
      driver.applyPending := by
    rw [← hfree, ← busy_applyPending]
  have hagain := applyPending_with { driver.applyPending with busy := false } measuredRate
    { driver.stats with
      turns := driver.stats.turns + 1
      pausedTurns := driver.stats.pausedTurns + 1 }
  rw [begun_eq]
  change ({ ({ ({ driver.applyPending with busy := false } : Driver) with
      measuredRate
      stats := { driver.stats with
        turns := driver.stats.turns + 1
        pausedTurns := driver.stats.pausedTurns + 1 } } : Driver).applyPending with
    measuredRate := none
    stats := driver.stats.shifted 1 } : Driver) = _
  rw [hagain, applyPending_busy, applyPending_idem, hidle]
  rfl

theorem covers_countPaused (h : (counts number).Covers rig) :
    (counts number).Covers (changed number countPaused rig) := by
  have hkeeps : (counts number).Keeps (changed number countPaused) :=
    keeps_counts_drivers number shifted_countPaused (fun _ => rfl) (fun _ => rfl)
      fun _ => rfl
  exact (hkeeps 0 _ _ ⟨rfl, h, h⟩).covers

/-- What is seen of a rig after a paused turn is what was seen before, but for the
shift. -/
theorem hide_paused (measuredRate : Option Binary64) (h : (between number).Covers rig) :
    (between number).hide 0
        ((changed number countPaused (turnStarted number measuredRate rig)).leftBy
          (.driver number) (mark number)) =
      (between number).hide 1 rig := by
  obtain ⟨driver, hdriver, -, hfree⟩ := h.known
  have hdrivers : ((changed number countPaused (turnStarted number measuredRate rig)).leftBy
      (.driver number) (mark number)).drivers.modify number ((between number).blur 0) =
        rig.drivers.modify number ((between number).blur 1) := by
    simp only [Rig.leftBy, mark, changed, drivers_turnStarted, modify_modify]
    exact modify_congr hdriver (blur_paused measuredRate hfree)
  have hjournal : ((changed number countPaused (turnStarted number measuredRate rig)).leftBy
      (.driver number) (mark number)).journal.filter Event.isCall =
        rig.journal.filter Event.isCall := by
    rw [← calls_turnStarted measuredRate rig]
    exact List.filter_cons_of_neg Bool.false_ne_true
  have hrest (drivers : Array Driver) (journal : List Event) :
      ({ (changed number countPaused (turnStarted number measuredRate rig)).leftBy
        (.driver number) (mark number) with drivers, journal } : Rig) =
          { rig with drivers, journal } := by
    simp only [Rig.leftBy, mark, changed, turnStarted, opened, Rig.entered]
  rw [hide, hide, number_between, hdrivers, hjournal, hrest]

/-- A greater shift hides the more. -/
theorem hide_succ (shift : Nat) (rig : Rig) :
    (between number).hide (shift + 1) rig =
      changed number (Driver.shifted 1) ((between number).hide shift rig) := by
  rw [hide, hide, changed, number_between, modify_modify]
  rfl

/-- A turn while the emulation is paused makes a shift by one. -/
theorem alike_paused (measuredRate : Option Binary64) (play : Play)
    (halike : (between number).Alike shift rig other) (hpaused : rig.pace.running = false) :
    ((turnByHand number measuredRate rig).run play).1 = .value (some (.ok .paused)) ∧
      (between number).Alike (shift + 1)
        ((turnByHand number measuredRate rig).run play).2 other := by
  have hcarried : (carryOn number (turnStarted number measuredRate rig)).run play =
      (.value (.ok .paused), changed number countPaused (turnStarted number measuredRate rig)) :=
    run_carryOn_paused play hpaused
  have hcounted := covers_countPaused (covers_turnStarted measuredRate halike.covers)
  rw [run_turnByHand halike.covers hcarried, turnOver_eq hcounted]
  refine ⟨rfl, ?_, covers_leftBy hcounted, halike.otherCovers⟩
  rw [hide_paused measuredRate halike.covers, hide_succ, hide_succ, halike.hidden]

end Driver

/-! ### Runs with and without paused turns -/

/-- What happens in a run of a driver: its turns, each of which is told a refresh rate,
and user code, which may change the pace and move the clock. -/
inductive Happening
  | turn (measuredRate : Option Binary64)
  | script (code : Script)

/-- What a turn answered, and when the renders of its driver were last activated. -/
structure Outcome where
  /-- Whether the emulation was running. -/
  running : Bool
  answer : Ending (Option (Except Failure Turn))
  lastActivation : Option Nat

namespace Happening

/-- The rig after something has happened. -/
def play (number depth : Nat) (rig : Rig) : Happening → Rig
  | .turn measuredRate =>
      ((Order.driver (.turn number measuredRate)).perform (depth + 1) rig).2
  | .script code => (code.playWithin (depth + 1) rig).2

def playAll (number depth : Nat) (happenings : List Happening) (rig : Rig) : Rig :=
  happenings.foldl (play number depth) rig

/-- The outcome, if it is a turn. -/
def outcome? (number depth : Nat) (rig : Rig) : Happening → Option Outcome
  | .turn measuredRate =>
      let (answer, later) :=
        (Order.driver (.turn number measuredRate)).perform (depth + 1) rig
      some ⟨rig.pace.running, answer, (later.driver number).render.lastActivation⟩
  | .script _ => none

/-- The outcomes of all turns. -/
def outcomes (number depth : Nat) : List Happening → Rig → List Outcome
  | [], _ => []
  | happening :: rest, rig =>
      (happening.outcome? number depth rig).toList ++
        outcomes number depth rest (happening.play number depth rig)

/-- Whether it is a turn that is taken while the emulation is paused. -/
def isPausedTurn (rig : Rig) : Happening → Bool
  | .turn _ => !rig.pace.running
  | .script _ => false

/-- What is left of a run without its paused turns. -/
def withoutPaused (number depth : Nat) : List Happening → Rig → List Happening
  | [], _ => []
  | happening :: rest, rig =>
      (if happening.isPausedTurn rig then [] else [happening]) ++
        withoutPaused number depth rest (happening.play number depth rig)

variable {number depth shift : Nat} {rig other : Rig}

theorem perform_turn (measuredRate : Option Binary64) (rig : Rig) :
    (Order.driver (.turn number measuredRate)).perform (depth + 1) rig =
      (Driver.turnByHand number measuredRate rig).run (Script.playWithin depth) := rfl

/-- A step of a run, with the paused turns and without. -/
theorem alike_play (number depth : Nat) {happening : Happening}
    (hkeeps : ∀ code, happening = .script code → code.KeepsTo (·.isDriverless = true))
    (halike : (between number).Alike shift rig other)
    (hrunning : happening.isPausedTurn rig = false) :
    happening.outcome? number depth other = happening.outcome? number depth rig ∧
      (between number).Alike shift (happening.play number depth rig)
        (happening.play number depth other) := by
  cases happening with
  | script code =>
      have hplayed := plays_playWithin (depth + 1) shift code rig other (hkeeps code rfl)
        halike
      exact ⟨rfl, hplayed.2⟩
  | turn measuredRate =>
      obtain ⟨hanswer, hlater⟩ := Driver.alike_turnByHand
        (fun veil => plays_playWithin depth) halike
      have hpace : rig.pace = other.pace := halike.view (·.pace) fun _ _ => rfl
      refine ⟨?_, hlater⟩
      simp only [outcome?, perform_turn, hpace, hanswer, Driver.lastActivation_of_alike hlater]

/-- Whatever is not a paused turn has no outcome, or one of a turn that was running. -/
theorem running_of_isPausedTurn (number depth : Nat) {happening : Happening}
    (hrunning : happening.isPausedTurn rig = false) :
    (happening.outcome? number depth rig).toList.filter (·.running) =
        (happening.outcome? number depth rig).toList ∧
      (happening.outcome? number depth rig).toList.countP (!·.running) = 0 := by
  cases happening with
  | script code => exact ⟨rfl, rfl⟩
  | turn measuredRate =>
      have hpace : rig.pace.running = true := by simpa [isPausedTurn] using hrunning
      simp [outcome?, hpace]

/-- A run without the paused turns has the outcomes of the other turns, and ends alike. -/
theorem alike_playAll {happenings : List Happening}
    (hkeeps : ∀ code, .script code ∈ happenings → code.KeepsTo (·.isDriverless = true))
    (halike : (between number).Alike shift rig other) :
    outcomes number depth (withoutPaused number depth happenings rig) other =
        (outcomes number depth happenings rig).filter (·.running) ∧
      (between number).Alike
        (shift + (outcomes number depth happenings rig).countP (!·.running))
        (playAll number depth happenings rig)
        (playAll number depth (withoutPaused number depth happenings rig) other) := by
  -- The rigs part at each paused turn, which only the first one takes: the shift grows by
  -- one there, and they remain alike.
  induction happenings generalizing rig other shift with
  | nil => exact ⟨rfl, halike⟩
  | cons happening rest ih =>
      have hrest : ∀ code, .script code ∈ rest → code.KeepsTo (·.isDriverless = true) :=
        fun code hcode => hkeeps code (List.mem_cons_of_mem _ hcode)
      cases hpaused : happening.isPausedTurn rig with
      | false =>
          have hcode : ∀ code, happening = .script code →
              code.KeepsTo (·.isDriverless = true) :=
            fun code heq => hkeeps code (heq ▸ List.mem_cons_self)
          obtain ⟨houtcome, hplayed⟩ := alike_play number depth hcode halike hpaused
          obtain ⟨houtcomes, hlater⟩ := ih hrest hplayed
          obtain ⟨hfilter, hcount⟩ := running_of_isPausedTurn number depth hpaused
          have hshort : withoutPaused number depth (happening :: rest) rig =
              happening :: withoutPaused number depth rest
                (happening.play number depth rig) := by
            rw [withoutPaused, hpaused]
            rfl
          rw [hshort, outcomes, outcomes, houtcome, houtcomes, List.filter_append, hfilter,
            List.countP_append, hcount, Nat.zero_add]
          exact ⟨rfl, hlater⟩
      | true =>
          cases happening with
          | script code => cases hpaused
          | turn measuredRate =>
              have hstill : rig.pace.running = false := by simpa [isPausedTurn] using hpaused
              obtain ⟨-, hplayed⟩ :=
                Driver.alike_paused measuredRate (Script.playWithin depth) halike hstill
              obtain ⟨houtcomes, hlater⟩ := ih hrest hplayed
              have hshort : withoutPaused number depth (.turn measuredRate :: rest) rig =
                  withoutPaused number depth rest
                    ((Happening.turn measuredRate).play number depth rig) := by
                rw [withoutPaused, hpaused]
                rfl
              have hnone : ((Happening.turn measuredRate).outcome? number depth
                  rig).toList.filter (·.running) = [] := by
                simp [outcome?, hstill]
              have hone : ((Happening.turn measuredRate).outcome? number depth
                  rig).toList.countP (!·.running) = 1 := by
                simp [outcome?, hstill]
              rw [hshort, outcomes, List.filter_append, hnone, List.countP_append, hone,
                ← Nat.add_assoc]
              exact ⟨houtcomes, hlater⟩

/-- For every configuration of a driver, of its emulator and its display, and every run
of its turns, interleaved with user code that sets the clock, changes the pace and turns
the running flag over: without the turns that were taken while the emulation was paused
the run has the same outcomes of all other turns, the same calls of emulators and
displays, and ends with the same counts of cycles and renders; the counts of turns and of
paused turns are less by the number of turns that were left out. -/
theorem erasesPaused (number depth : Nat) {happenings : List Happening}
    (hdriverless : rig.Driverless)
    (hhandle : (rig.driver number).handle = true)
    (hfree : (rig.driver number).busy = false)
    (hkeeps : ∀ code, .script code ∈ happenings →
      code.KeepsTo (·.isDriverless = true)) :
    let short := withoutPaused number depth happenings rig
    let paused := (outcomes number depth happenings rig).countP (!·.running)
    let later := playAll number depth happenings rig
    let shortLater := playAll number depth short rig
    outcomes number depth short rig =
        (outcomes number depth happenings rig).filter (·.running) ∧
      shortLater.journal.filter Event.isCall = later.journal.filter Event.isCall ∧
        (later.driver number).stats =
          { (shortLater.driver number).stats with
            turns := (shortLater.driver number).stats.turns + paused
            pausedTurns := (shortLater.driver number).stats.pausedTurns + paused } := by
  intro short paused later shortLater
  have hknown : ∃ driver, rig.drivers[number]? = some driver ∧
      driver.handle = true ∧ driver.busy = false := by
    rw [Rig.driver] at hhandle hfree
    cases hdriver : rig.drivers[number]? with
    | none =>
        rw [hdriver] at hhandle
        cases hhandle
    | some driver =>
        rw [hdriver] at hhandle hfree
        exact ⟨driver, rfl, hhandle, hfree⟩
  have hcovers : (between number).Covers rig := ⟨hdriverless, hknown⟩
  have halike : (between number).Alike 0 rig rig := ⟨rfl, hcovers, hcovers⟩
  obtain ⟨houtcomes, hlater⟩ := alike_playAll hkeeps halike
  rw [Nat.zero_add] at hlater
  have hjournal : later.journal.filter Event.isCall =
      shortLater.journal.filter Event.isCall := congrArg Rig.journal hlater.hidden
  exact ⟨houtcomes, hjournal.symm, Driver.stats_of_alike hlater⟩

/-- A driver on a rig with quiet user code. -/
def building : Script :=
  .routine (fun _ _ => .done .null) fun quiet =>
  .order (.driver (.newEmulator
    (.scripted (Machine.countingPicture 8) 0 quiet quiet))) fun _ =>
  .order (.driver (.newDriver 0 (.scripted 8 (some quiet) quiet) .standard .shared))
    fun _ => .done .null

def builtRig : Rig :=
  (building.playWithin 2 (.fresh .initial Duration.perSecond)).2

/-- The emulation is paused, and its frames are to take longer. -/
def pausing : Script :=
  .order (.pace (.setRunning false)) fun _ =>
  .order (.pace (.setFrameTime 40)) fun _ => .done .null

/-- The emulation is resumed a tenth of a second later. -/
def resuming : Script :=
  .order (.clock (.advance (Duration.ofMillis 100))) fun _ =>
  .order (.pace (.setRunning true)) fun _ => .done .null

/-- The turn that is paused takes the longer frame time over. -/
def lingering : List Happening :=
  [.turn none, .script pausing, .turn (some 60), .script resuming, .turn none]

theorem driverless_builtRig : builtRig.Driverless := by
  have hquiet : builtRig.routines = #[⟨fun _ _ => .done .null, 0⟩] := rfl
  have htasks : builtRig.refresher.tasks = #[] := rfl
  have hmailboxes : builtRig.mailboxes = #[.empty] := rfl
  refine ⟨?_, ?_, ?_, ?_⟩
  · intro routine hroutine call occasion
    rw [hquiet] at hroutine
    rw [Array.mem_singleton.mp hroutine]
    trivial
  · rw [htasks]
    exact fun entry hentry => absurd hentry (Array.not_mem_empty entry)
  · rw [hmailboxes]
    intro mailbox hmailbox entry hentry
    rw [Array.mem_singleton.mp hmailbox] at hentry
    cases hentry
  · decide +kernel

theorem erasesPaused_lingering :
    let short := withoutPaused 0 1 lingering builtRig
    let later := playAll 0 1 lingering builtRig
    let shortLater := playAll 0 1 short builtRig
    short.length = 4 ∧ (shortLater.driver 0).stats = ⟨2, 0, 40, 2⟩ ∧
      (later.driver 0).stats = ⟨3, 1, 40, 2⟩ ∧
        shortLater.journal.filter Event.isCall = later.journal.filter Event.isCall := by
  intro short later shortLater
  have hkeeps : ∀ code, .script code ∈ lingering →
      code.KeepsTo (·.isDriverless = true) := by
    intro code hcode
    simp only [lingering, List.mem_cons, List.not_mem_nil, or_false, reduceCtorEq,
      false_or, script.injEq] at hcode
    rcases hcode with rfl | rfl
    · exact ⟨rfl, fun _ => ⟨rfl, fun _ => trivial⟩⟩
    · exact ⟨rfl, fun _ => ⟨rfl, fun _ => trivial⟩⟩
  have hhandle : (builtRig.driver 0).handle = true := by decide +kernel
  have hfree : (builtRig.driver 0).busy = false := by decide +kernel
  obtain ⟨-, hjournal, hstats⟩ := erasesPaused 0 1 driverless_builtRig hhandle hfree hkeeps
  have hpaused : (outcomes 0 1 lingering builtRig).countP (!·.running) = 1 := by
    decide +kernel
  have hshort : (shortLater.driver 0).stats = ⟨2, 0, 40, 2⟩ := by decide +kernel
  have hlength : short.length = 4 := by decide +kernel
  have hmore (stats : DriverStats) (paused : Nat) (hstats : stats = ⟨2, 0, 40, 2⟩)
      (hpaused : paused = 1) :
      ({ stats with
        turns := stats.turns + paused
        pausedTurns := stats.pausedTurns + paused } : DriverStats) = ⟨3, 1, 40, 2⟩ := by
    rw [hstats, hpaused]
  exact ⟨hlength, hshort, hstats.trans (hmore _ _ hshort hpaused), hjournal⟩

end Happening

end Cadence
