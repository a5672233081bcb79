import Cadence.Proofs.Seclusion

/-!
Orders in seclusion.  Every order leaves the parts under way alone, and executes a part
only if it is not under way; whatever its end, no part is under way afterwards that was
not so before.
-/

namespace Cadence

open Exec Contract

variable {fact : Rig.Fact} {mine : List Part} {rig later : Rig}

/-- The mailbox after a change of one that leaves an empty one empty. -/
theorem Rig.mailbox_modify (change : Mailbox → Mailbox) (hempty : change .empty = .empty)
    (rig : Rig) (number place : Nat) :
    (rig.mailboxes.modify number change)[place]?.getD .empty =
      if number = place then change (rig.mailbox place) else rig.mailbox place := by
  rw [Rig.mailbox, Array.getElem?_modify]
  split
  · cases rig.mailboxes[place]? with
    | none => exact hempty.symm
    | some mailbox => rfl
  · rfl

namespace Rig

/-- A part comes to the rig, at rest; the mark of a callback is in the mailbox at
`place`. -/
structure Creates (part : Part) (place : Nat) (rig later : Rig) : Prop where
  flags : ∀ spot other flag, later.flag spot other = some flag →
    (other = part ∧ flag = false ∧ part.At place spot) ∨ rig.flag spot other = some flag
  knows : ∀ other, rig.Knows other → later.Knows other
  issued : ∀ tag, part = .callback tag → tag.number < later.nextTag
  nextTag : rig.nextTag ≤ later.nextTag
  journal : later.journal = rig.journal
  belonging : ∀ other, other ≠ part → later.belonging other = rig.belonging other

namespace Creates

variable {part : Part} {place : Nat}

/-- What is registered afterwards is the part that came, or was so before. -/
theorem registered (h : rig.Creates part place later) {spot : Nat} {tag : Tag}
    (hlater : (later.flag spot (.callback tag)).isSome = true) :
    (.callback tag = part ∧ part.At place spot) ∨
      (rig.flag spot (.callback tag)).isSome = true := by
  obtain ⟨flag, hflag⟩ := Option.isSome_iff_exists.mp hlater
  rcases h.flags spot _ flag hflag with ⟨hown, _, hat⟩ | hold
  · exact Or.inl ⟨hown, hat⟩
  · rw [hold]
    exact Or.inr rfl

/-- A part that has never been before may come. -/
theorem orderly (h : rig.Creates part place later) (hrig : rig.Orderly fact)
    (hnew : ¬ rig.Knows part)
    (hfact : ∀ number, part = .driver number → rig.Has fact number →
      later.Has fact number) : later.Orderly fact := by
  have hpart : part ∉ underWay rig.journal := fun hmem => hnew (hrig.known part hmem)
  -- A tag that nobody has used is registered nowhere.
  have hfresh {spot : Nat} {tag : Tag} (hown : .callback tag = part)
      (hold : (rig.flag spot (.callback tag)).isSome = true) : False := by
    subst hown
    exact hnew (hrig.issued spot tag hold)
  constructor
  · rw [h.journal]
    exact hrig.fitting
  · intro spot other flag hflag
    rw [h.journal]
    rcases h.flags spot other flag hflag with ⟨rfl, rfl, _⟩ | hold
    · simpa using hpart
    · exact hrig.flags spot other flag hold
  · rw [h.journal]
    exact fun other hother => h.knows other (hrig.known other hother)
  · intro spot tag hlater
    rcases h.registered hlater with hown | hold
    · exact h.issued tag hown.1.symm
    · exact Nat.lt_of_lt_of_le (hrig.issued spot tag hold) h.nextTag
  · intro spot other tag hspot hother
    rcases h.registered hspot with hown | hold
    · rcases h.registered hother with hown' | hold
      · rw [hown.2 tag hown.1.symm, hown'.2 tag hown'.1.symm]
      · exact (hfresh hown.1 hold).elim
    · rcases h.registered hother with hown | hold'
      · exact (hfresh hown.1 hold).elim
      · exact hrig.home spot other tag hold hold'
  · intro number hnumber
    rw [h.journal] at hnumber
    have hrests := hrig.rests number hnumber
    by_cases hown : part = .driver number
    · exact hfact number hown hrests
    · have hcore := Belonging.driver.inj (h.belonging _ (Ne.symm hown))
      rw [Has, hcore, h.journal]
      exact hrests

/-- Who comes leaves alone what is under way. -/
theorem attends (h : rig.Creates part place later) (hrig : rig.Orderly fact)
    (hmine : ∀ part ∈ mine, part ∈ underWay rig.journal) (hnew : ¬ rig.Knows part)
    (hfact : ∀ number, part = .driver number → rig.Has fact number →
      later.Has fact number) : rig.Attends fact mine later where
  orderly := h.orderly hrig hnew hfact
  stays := congrArg underWay h.journal
  holds := hmine
  spares other hother _ := by
    have hne : other ≠ part := by
      rintro rfl
      exact hnew (hrig.known other hother)
    exact ⟨h.belonging other hne, congrArg (workOf other) h.journal⟩
  nextTag := h.nextTag
  registered spot tag hbefore hlater := by
    rcases h.registered hlater with hown | hold
    · have hknown : rig.Knows (.callback tag) := hbefore
      rw [hown.1] at hknown
      exact (hnew hknown).elim
    · exact hold

end Creates

end Rig

namespace Seclusion

/-! ### Drivers and emulators -/

theorem flag_drivers {drivers : Array Driver}
    (hbusy : ∀ number : Nat, drivers[number]?.map (·.busy) =
      rig.drivers[number]?.map (·.busy)) :
    ({ rig with drivers } : Rig).flag = rig.flag :=
  Rig.flag_congr hbusy (fun _ => rfl) (fun _ => rfl) (fun _ _ => rfl) (fun _ => rfl)
    fun _ => rfl

theorem belonging_driver {number : Nat} {change : Driver → Driver}
    (hchange : Part.driver number ∈ mine ∨ ∀ driver, (change driver).core = driver.core)
    {part : Part} (hpart : part ∉ mine) :
    ({ rig with drivers := rig.drivers.modify number change } : Rig).belonging part =
      rig.belonging part := by
  cases part with
  | driver other =>
      by_cases hother : number = other
      · subst hother
        exact congrArg Belonging.driver (Driver.view_modify Driver.core change
          (hchange.resolve_left hpart) rig number number)
      · show Belonging.driver (Driver.core ((rig.drivers.modify number change)[other]?.getD
          default)) = _
        rw [Array.getElem?_modify, if_neg hother]
        rfl
  | _ => rfl

/-- A driver may change in what is not its own; one at hand may change in anything but
its mark. -/
theorem admits_driver {number : Nat} {change : Driver → Driver}
    (hbusy : ∀ driver, (change driver).busy = driver.busy)
    (hchange : Part.driver number ∈ mine ∨ ∀ driver, (change driver).core = driver.core) :
    (secluding fact mine).Admits fun rig =>
      { rig with drivers := rig.drivers.modify number change } :=
  admits_quiet (fun rig => flag_drivers (map_getElem?_modify hbusy rig.drivers number))
    (fun _ => rfl) (fun _ => rfl) fun _ _ => belonging_driver hchange

theorem allowsShowing {number : Nat} (hnumber : Part.driver number ∈ mine) :
    (secluding fact mine).AllowsShowing number where
  logs := ignores (by decide)
  calls := ignores (by decide)
  modifies hfooting _ := admits_driver (fun driver => congrArg Prod.snd (hfooting driver))
    (Or.inl hnumber)
  shows := by
    intro event hevent
    cases event with
    | statusSet other text =>
        obtain rfl := eq_of_beq hevent
        exact admits_work rfl rfl hnumber
    | drawn other bytes =>
        obtain rfl := eq_of_beq hevent
        exact admits_work rfl rfl hnumber
    | drawSucceeded other =>
        obtain rfl := eq_of_beq hevent
        exact admits_work rfl rfl hnumber
    | _ => cases hevent

theorem allowsCycles {number : Nat} (hnumber : Part.emulator number ∈ mine) :
    (secluding fact mine).AllowsCycles number where
  calls := ignores (by decide)
  modifies hinUse := by
    refine admits_quiet (fun rig => ?_) (fun _ => rfl) (fun _ => rfl) ?_
    · exact Rig.flag_congr (fun _ => rfl)
        (map_getElem?_modify hinUse rig.emulators number) (fun _ => rfl) (fun _ _ => rfl)
        (fun _ => rfl) fun _ => rfl
    · intro rig part hpart
      cases part with
      | emulator other =>
          have hother : number ≠ other := by
            rintro rfl
            exact hpart hnumber
          exact congrArg Belonging.emulator
            ((Array.getElem?_modify ..).trans (if_neg hother))
      | _ => rfl
  advanced := admits_work rfl rfl hnumber
  rendered := admits_work rfl rfl hnumber

/-! ### Marks -/

/-- A part whose marks stand in a row, each at its number. -/
theorem marks_of_row {part : Part} {mark : Bool → Rig → Rig}
    (hcallback : ∀ tag, part ≠ .callback tag)
    (hown : ∀ flag rig spot,
      (mark flag rig).flag spot part = (rig.flag spot part).map fun _ => flag)
    (hother : ∀ flag rig spot other, other ≠ part →
      (mark flag rig).flag spot other = rig.flag spot other)
    (htag : ∀ flag rig, (mark flag rig).nextTag = rig.nextTag)
    (hbelonging : ∀ flag rig other, other ≠ part →
      (mark flag rig).belonging other = rig.belonging other)
    (hcore : ∀ flag rig number,
      ((mark flag rig).driver number).core = (rig.driver number).core) :
    part.Marks 0 mark where
  own flag rig spot _ := hown flag rig spot
  elsewhere _ _ _ hspot := absurd (fun tag htag => absurd htag (hcallback tag)) hspot
  other := hother
  nextTag := htag
  belonging := hbelonging
  core := hcore

theorem marks_driver (number : Nat) :
    (Part.driver number).Marks 0 (Driver.mark number) := by
  refine marks_of_row (fun _ => Part.noConfusion) ?_ ?_ (fun _ _ => rfl) ?_ ?_
  · intro flag rig spot
    simp [Rig.flag, Driver.mark, Array.getElem?_modify, Function.comp_def]
  · intro flag rig spot other hother
    cases other with
    | driver index =>
        have hne : number ≠ index := by simpa [eq_comm] using hother
        simp [Rig.flag, Driver.mark, Array.getElem?_modify, hne]
    | _ => rfl
  · intro flag rig other _
    have hcore (driver : Driver) : { driver with busy := flag }.core = driver.core := rfl
    exact belonging_driver (Or.inr hcore) (List.not_mem_nil (a := other))
  · intro flag rig index
    exact Driver.view_modify Driver.core ({ · with busy := flag }) (fun _ => rfl) rig
      index number

theorem marks_emulator (number : Nat) :
    (Part.emulator number).Marks 0 (Emulator.mark number) := by
  refine marks_of_row (fun _ => Part.noConfusion) ?_ ?_ (fun _ _ => rfl) ?_
    fun _ _ _ => rfl
  · intro flag rig spot
    simp [Rig.flag, Emulator.mark, Array.getElem?_modify, Function.comp_def]
  · intro flag rig spot other hother
    cases other with
    | emulator index =>
        have hne : number ≠ index := by simpa [eq_comm] using hother
        simp [Rig.flag, Emulator.mark, Array.getElem?_modify, hne]
    | _ => rfl
  · intro flag rig other hother
    cases other with
    | emulator index =>
        have hne : number ≠ index := by simpa [eq_comm] using hother
        simp [Rig.belonging, Emulator.mark, Array.getElem?_modify, hne]
    | _ => rfl

theorem marks_task (number : Nat) :
    (Part.task number).Marks 0 (Refresher.markOnRig number) := by
  refine marks_of_row (fun _ => Part.noConfusion) ?_ ?_ (fun _ _ => rfl) ?_
    fun _ _ _ => rfl
  · intro flag rig spot
    simp [Rig.flag, Refresher.markOnRig, Refresher.mark, Array.getElem?_modify,
      Function.comp_def]
  · intro flag rig spot other hother
    cases other with
    | task index =>
        have hne : number ≠ index := by simpa [eq_comm] using hother
        simp [Rig.flag, Refresher.markOnRig, Refresher.mark, Array.getElem?_modify, hne]
    | _ => rfl
  · exact fun _ _ other _ => by cases other <;> rfl

theorem marks_debouncer (number : Nat) :
    (Part.debouncer number).Marks 0 (Debounced.mark number) := by
  refine marks_of_row (fun _ => Part.noConfusion) ?_ ?_ (fun _ _ => rfl) ?_
    fun _ _ _ => rfl
  · intro flag rig spot
    simp [Rig.flag, Debounced.mark, Array.getElem?_modify, Function.comp_def]
  · intro flag rig spot other hother
    cases other with
    | debouncer index =>
        have hne : number ≠ index := by simpa [eq_comm] using hother
        simp [Rig.flag, Debounced.mark, Array.getElem?_modify, hne]
    | _ => rfl
  · intro flag rig other hother
    cases other with
    | debouncer index =>
        have hne : number ≠ index := by simpa [eq_comm] using hother
        simp [Rig.belonging, Debounced.mark, Array.getElem?_modify, hne]
    | _ => rfl

theorem marks_loop (number : Nat) :
    (Part.loop number).Marks 0 (Loop.mark number) := by
  refine marks_of_row (fun _ => Part.noConfusion) ?_ ?_ (fun _ _ => rfl) ?_
    fun _ _ _ => rfl
  · intro flag rig spot
    simp [Rig.flag, Loop.mark, Array.getElem?_modify, Function.comp_def]
  · intro flag rig spot other hother
    cases other with
    | loop index =>
        have hne : number ≠ index := by simpa [eq_comm] using hother
        simp [Rig.flag, Loop.mark, Array.getElem?_modify, hne]
    | _ => rfl
  · exact fun _ _ other _ => by cases other <;> rfl

theorem marks_callback (number : Nat) (tag : Tag) :
    (Part.callback tag).Marks number (Mailbox.markOnRig number tag) := by
  have hmailbox (flag : Bool) (rig : Rig) (spot : Nat) :
      (Mailbox.markOnRig number tag flag rig).mailbox spot =
        if number = spot then (rig.mailbox spot).mark tag flag else rig.mailbox spot :=
    Rig.mailbox_modify (·.mark tag flag) rfl rig number spot
  constructor
  · intro flag rig spot hspot
    obtain rfl := hspot tag rfl
    show (((Mailbox.markOnRig spot tag flag rig).mailbox spot).find? tag).map _ = _
    rw [hmailbox, if_pos rfl, Mailbox.find?_mark, Option.map_map]
    cases hentry : (rig.mailbox spot).find? tag with
    | none => simp [Rig.flag, hentry]
    | some entry => simp [Rig.flag, hentry, Mailbox.tag_of_find? hentry]
  · intro flag rig spot hspot
    have hne : number ≠ spot := by
      rintro rfl
      exact hspot fun _ _ => rfl
    show (((Mailbox.markOnRig number tag flag rig).mailbox spot).find? tag).map _ = _
    rw [hmailbox, if_neg hne]
    rfl
  · intro flag rig spot other hother
    cases other with
    | callback label =>
        have hne : label ≠ tag := by
          rintro rfl
          exact hother rfl
        show (((Mailbox.markOnRig number tag flag rig).mailbox spot).find? label).map _ = _
        rw [hmailbox]
        split
        · rw [Mailbox.find?_mark, Option.map_map]
          cases hentry : (rig.mailbox spot).find? label with
          | none => simp [Rig.flag, hentry]
          | some entry => simp [Rig.flag, hentry, Mailbox.tag_of_find? hentry, hne]
        · rfl
    | _ => rfl
  · exact fun _ _ => rfl
  · exact fun _ _ other _ => by cases other <;> rfl
  · exact fun _ _ _ => rfl

/-! ### New parts -/

/-- A part is made at the end of its row. -/
theorem attends_push (part : Part) (hrig : rig.Orderly fact)
    (hmine : ∀ part ∈ mine, part ∈ underWay rig.journal)
    (hcallback : ∀ tag, part ≠ .callback tag) (hnew : rig.flag 0 part = none)
    (hflag : ∀ spot other, later.flag spot other =
      if other = part then some false else rig.flag spot other)
    (htag : later.nextTag = rig.nextTag) (hjournal : later.journal = rig.journal)
    (hbelonging : ∀ other, other ≠ part → later.belonging other = rig.belonging other)
    (hfact : ∀ number, part = .driver number → rig.Has fact number →
      later.Has fact number) : rig.Attends fact mine later := by
  have hcount : rig.nextTag ≤ later.nextTag := Nat.le_of_eq htag.symm
  have hunknown : ¬ rig.Knows part := by
    cases part with
    | callback tag => exact absurd rfl (hcallback tag)
    | _ => simp [Rig.Knows, hnew]
  have hcreates : rig.Creates part 0 later := by
    refine ⟨fun spot other flag hother => ?_, fun other hknown => ?_,
      fun tag htag => absurd htag (hcallback tag), hcount, hjournal, hbelonging⟩
    · rw [hflag] at hother
      split at hother
      · rename_i heq
        exact Or.inl ⟨heq, (Option.some.inj hother).symm,
          fun tag htag => absurd htag (hcallback tag)⟩
      · exact Or.inr hother
    · refine Rig.Knows.mono hknown (fun hsome => ?_) hcount
      rw [hflag]
      split
      · rfl
      · exact hsome
  exact hcreates.attends hrig hmine hunknown hfact

theorem admits_pushEmulator (machine : Machine) :
    (secluding fact mine).Admits fun rig =>
      { rig with emulators := rig.emulators.push ⟨machine, false, false⟩ } := by
  refine admits fun rig hrig hmine => ?_
  refine attends_push (.emulator rig.emulators.size) hrig hmine
    (fun _ => Part.noConfusion) ?_ ?_ rfl rfl ?_ fun _ => Part.noConfusion
  · simp [Rig.flag]
  · intro spot other
    cases other with
    | emulator number =>
        simp only [Rig.flag, Array.getElem?_push, Part.emulator.injEq]
        split <;> rfl
    | _ => rfl
  · intro other hother
    cases other with
    | emulator number =>
        have hne : number ≠ rig.emulators.size := by simpa using hother
        simp [Rig.belonging, Array.getElem?_push, hne]
    | _ => rfl

theorem admits_pushDebouncer (timing : Debouncer) (fallible : Bool) (routine : Nat) :
    (secluding fact mine).Admits fun rig =>
      { rig with
        debouncers := rig.debouncers.push ⟨timing, fallible, routine, false⟩ } := by
  refine admits fun rig hrig hmine => ?_
  refine attends_push (.debouncer rig.debouncers.size) hrig hmine
    (fun _ => Part.noConfusion) ?_ ?_ rfl rfl ?_ fun _ => Part.noConfusion
  · simp [Rig.flag]
  · intro spot other
    cases other with
    | debouncer number =>
        simp only [Rig.flag, Array.getElem?_push, Part.debouncer.injEq]
        split <;> rfl
    | _ => rfl
  · intro other hother
    cases other with
    | debouncer number =>
        have hne : number ≠ rig.debouncers.size := by simpa using hother
        simp [Rig.belonging, Array.getElem?_push, hne]
    | _ => rfl

theorem admits_pushLoop (period : Nat) :
    (secluding fact mine).Admits fun rig =>
      { rig with loops := rig.loops.push ⟨period, false⟩ } := by
  refine admits fun rig hrig hmine => ?_
  refine attends_push (.loop rig.loops.size) hrig hmine
    (fun _ => Part.noConfusion) ?_ ?_ rfl rfl ?_ fun _ => Part.noConfusion
  · simp [Rig.flag]
  · intro spot other
    cases other with
    | loop number =>
        simp only [Rig.flag, Array.getElem?_push, Part.loop.injEq]
        split <;> rfl
    | _ => rfl
  · intro other hother
    cases other <;> rfl

theorem admits_recur (body : TaskBody) :
    (secluding fact mine).Admits fun rig =>
      { rig with refresher := rig.refresher.recur body } := by
  refine admits fun rig hrig hmine => ?_
  refine attends_push (.task rig.refresher.tasks.size) hrig hmine
    (fun _ => Part.noConfusion) ?_ ?_ rfl rfl ?_ fun _ => Part.noConfusion
  · simp [Rig.flag]
  · intro spot other
    cases other with
    | task number =>
        simp only [Rig.flag, Refresher.recur, Refresher.request, Array.getElem?_push,
          Part.task.injEq]
        split <;> rfl
    | _ => rfl
  · intro other hother
    cases other <;> rfl

theorem admits_pushDriver (driver : Driver) (hfree : driver.busy = false)
    (hfresh : ∀ number work, fact number (default : Driver).core work →
      fact number driver.core work) :
    (secluding fact mine).Admits fun rig =>
      { rig with drivers := rig.drivers.push driver } := by
  refine admits fun rig hrig hmine => ?_
  refine attends_push (.driver rig.drivers.size) hrig hmine
    (fun _ => Part.noConfusion) ?_ ?_ rfl rfl ?_ ?_
  · simp [Rig.flag]
  · intro spot other
    cases other with
    | driver number =>
        simp only [Rig.flag, Array.getElem?_push, Part.driver.injEq]
        split
        · exact congrArg some hfree
        · rfl
    | _ => rfl
  · intro other hother
    cases other with
    | driver number =>
        have hne : number ≠ rig.drivers.size := by simpa using hother
        simp [Rig.belonging, Rig.driver, Array.getElem?_push, hne]
    | _ => rfl
  · intro number hnumber hhas
    obtain rfl := Part.driver.inj hnumber
    simp only [Rig.Has, Rig.driver, Array.getElem?_eq_none (Nat.le_refl _),
      Option.getD_none] at hhas
    simpa [Rig.Has, Rig.driver] using hfresh _ _ hhas

/-! ### Executing a part -/

section Within

variable {α : Type} {part : Part} {place : Nat} {mark : Bool → Rig → Rig}

/-- A part may be executed that is not under way, if it is then left with nobody
else under way and, if it is a driver, as drivers at rest should be. -/
theorem soundAt_within (hmark : part.Marks place mark)
    (hfinds : (secluding fact mine).finds rig) (hflag : rig.flag place part = some false)
    {body : Exec α}
    (hbody : (body (rig.entered part mark)).Respects (secluding fact mine)
      fun _ later => (rig.entered part mark).Attends fact (part :: mine) later ∧
        ∀ number, part = .driver number → later.Has fact number) :
    (secluding fact mine).SoundAt rig (within part mark body) := by
  rw [SoundAt, within_apply, Progress.respects_atEnd]
  exact hbody.imp fun _ _ hlater =>
    hlater.1.leave hmark hfinds.1 hfinds.2 hflag hlater.2

/-- While a part executes, user code may be kept to leave it alone, though the part
itself does not. -/
theorem respects_narrow (part : Part) {post : Ending α → Rig → Prop} {progress : Progress α}
    (h : progress.Respects (secluding fact (part :: mine)) post) :
    progress.Respects (secluding fact mine) post := by
  refine h.narrow (fun _ _ => trivial) ?_ ?_
  · exact fun hfinds =>
      ⟨hfinds.1, fun other hother => hfinds.2 other (List.mem_cons_of_mem _ hother)⟩
  · exact fun hfinds hleaves => hleaves.widen (hfinds.2 part List.mem_cons_self)

theorem finds_entered (hmark : part.Marks place mark)
    (hfinds : (secluding fact mine).finds rig) (hflag : rig.flag place part = some false) :
    (secluding fact (part :: mine)).finds (rig.entered part mark) := by
  refine ⟨hfinds.1.enter hmark hflag, fun other hother => ?_⟩
  rcases List.mem_cons.mp hother with rfl | hother
  · exact List.mem_cons_self
  · exact List.mem_cons_of_mem _ (hfinds.2 other hother)

/-- A part that is no driver may be executed if its execution is sound. -/
theorem soundAt_within_of_sound (hmark : part.Marks place mark)
    (hfinds : (secluding fact mine).finds rig) (hflag : rig.flag place part = some false)
    (hdriver : ∀ number, part ≠ .driver number) {body : Exec α}
    (hbody : (secluding fact (part :: mine)).Sound body) :
    (secluding fact mine).SoundAt rig (within part mark body) := by
  refine soundAt_within hmark hfinds hflag ?_
  apply respects_narrow part
  refine (hbody _ (finds_entered hmark hfinds hflag)).imp fun _ _ hlater => ?_
  exact ⟨hlater, fun number hnumber => absurd hnumber (hdriver number)⟩

end Within

end Seclusion

end Cadence
