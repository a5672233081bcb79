import Cadence.Proofs.OrderFrame
import Cadence.Proofs.UnderWay

/-!
Seclusion.  The marks of a rig show which parts are under way, whatever user code
does and however runs nest and end.  While a part is under way it is left alone:
nobody else changes what belongs to it or does its work.  What holds of drivers that
are at rest is kept if turns and steps keep it.
-/

namespace Cadence

open Exec Contract

/-- What belongs to a part. -/
inductive Belonging
  | driver (driver : Driver)
  | emulator (emulator : Option Emulator)
  | debouncer (entry : Option Debounced)
  | nothing

/-- What of a driver is its own.  Frame times are announced to it, and handles,
starts and its end are the business of others. -/
def Driver.core (driver : Driver) : Driver :=
  { driver with
    pending := none, busy := false, handle := false, generation := 0
    alive := false }

namespace Rig

def belonging (rig : Rig) : Part → Belonging
  | .driver number => .driver (rig.driver number).core
  | .emulator number => .emulator rig.emulators[number]?
  | .debouncer number => .debouncer rig.debouncers[number]?
  | _ => .nothing

/-- The mark of a part, if there is such a part; the one of a callback is in the
mailbox at `place`, if it is registered there. -/
def flag (rig : Rig) (place : Nat) : Part → Option Bool
  | .driver number => rig.drivers[number]?.map (·.busy)
  | .emulator number => rig.emulators[number]?.map (·.inUse)
  | .task number => rig.refresher.tasks[number]?.map (·.executing)
  | .callback tag => ((rig.mailbox place).find? tag).map (·.executing)
  | .debouncer number => rig.debouncers[number]?.map (·.busy)
  | .loop number => rig.loops[number]?.map (·.busy)

/-- Whether there has been such a part. -/
def Knows (rig : Rig) : Part → Prop
  | .callback tag => tag.number < rig.nextTag
  | part => (rig.flag 0 part).isSome = true

/-- A fact about drivers: about what belongs to one and what its work has been. -/
abbrev Fact : Type := Nat → Driver → List Event → Prop

/-- A fact about a driver of the rig. -/
def Has (fact : Fact) (number : Nat) (rig : Rig) : Prop :=
  fact number (rig.driver number).core (workOf (.driver number) rig.journal)

/-- The marks of a rig show what is under way, and drivers at rest are as they
should be. -/
structure Orderly (fact : Fact) (rig : Rig) : Prop where
  fitting : Lawful Event.Befits rig.journal
  flags : ∀ place part flag, rig.flag place part = some flag →
    (flag = true ↔ part ∈ underWay rig.journal)
  known : ∀ part ∈ underWay rig.journal, rig.Knows part
  issued : ∀ place tag, (rig.flag place (.callback tag)).isSome = true →
    tag.number < rig.nextTag
  home : ∀ place other tag, (rig.flag place (.callback tag)).isSome = true →
    (rig.flag other (.callback tag)).isSome = true → place = other
  rests : ∀ number, .driver number ∉ underWay rig.journal → rig.Has fact number

/-- A part has been left alone. -/
structure Spares (part : Part) (rig later : Rig) : Prop where
  belonging : later.belonging part = rig.belonging part
  work : workOf part later.journal = workOf part rig.journal

/-- What has become of a rig while the parts under way were left alone, all but those
of `mine`. -/
structure Attends (fact : Fact) (mine : List Part) (rig later : Rig) : Prop where
  orderly : later.Orderly fact
  stays : underWay later.journal = underWay rig.journal
  holds : ∀ part ∈ mine, part ∈ underWay rig.journal
  spares : ∀ part ∈ underWay rig.journal, part ∉ mine → rig.Spares part later
  nextTag : rig.nextTag ≤ later.nextTag
  registered : ∀ place tag, tag.number < rig.nextTag →
    (later.flag place (.callback tag)).isSome = true →
      (rig.flag place (.callback tag)).isSome = true

end Rig

variable {fact : Rig.Fact} {mine : List Part} {rig middle later : Rig}

namespace Rig

theorem Spares.refl (part : Part) (rig : Rig) : rig.Spares part rig := ⟨rfl, rfl⟩

theorem Spares.trans {part : Part} (hfirst : rig.Spares part middle)
    (hsecond : middle.Spares part later) : rig.Spares part later :=
  ⟨hsecond.belonging.trans hfirst.belonging, hsecond.work.trans hfirst.work⟩

namespace Attends

theorem refl (hrig : rig.Orderly fact)
    (hmine : ∀ part ∈ mine, part ∈ underWay rig.journal) :
    rig.Attends fact mine rig where
  orderly := hrig
  stays := rfl
  holds := hmine
  spares part _ _ := .refl part rig
  nextTag := Nat.le_refl _
  registered _ _ _ h := h

theorem trans (hfirst : rig.Attends fact mine middle)
    (hsecond : middle.Attends fact mine later) : rig.Attends fact mine later where
  orderly := hsecond.orderly
  stays := hsecond.stays.trans hfirst.stays
  holds := hfirst.holds
  spares part hpart hmine := by
    have hmiddle : part ∈ underWay middle.journal := by
      rw [hfirst.stays]
      exact hpart
    exact (hfirst.spares part hpart hmine).trans (hsecond.spares part hmiddle hmine)
  nextTag := Nat.le_trans hfirst.nextTag hsecond.nextTag
  registered place tag htag hlater := by
    have hmiddle := hsecond.registered place tag
      (Nat.lt_of_lt_of_le htag hfirst.nextTag) hlater
    exact hfirst.registered place tag htag hmiddle

theorem holds_later (h : rig.Attends fact mine later) :
    ∀ part ∈ mine, part ∈ underWay later.journal := by
  rw [h.stays]
  exact h.holds

/-- Parts that are left alone are left alone whoever else is not. -/
theorem widen (h : rig.Attends fact mine later) {part : Part}
    (hpart : part ∈ underWay rig.journal) :
    rig.Attends fact (part :: mine) later where
  orderly := h.orderly
  stays := h.stays
  holds other hother := by
    rcases List.mem_cons.mp hother with rfl | hother
    · exact hpart
    · exact h.holds other hother
  spares other hunder hother :=
    h.spares other hunder fun hmem => hother (List.mem_cons_of_mem _ hmem)
  nextTag := h.nextTag
  registered := h.registered

end Attends

/-- Marks may go with what bears them, and nothing else happens to the parts. -/
theorem Orderly.shrink (h : rig.Orderly fact)
    (hflags : ∀ place part flag, later.flag place part = some flag →
      rig.flag place part = some flag)
    (hknows : ∀ part, rig.Knows part → later.Knows part)
    (htag : rig.nextTag ≤ later.nextTag) (hjournal : later.journal = rig.journal)
    (hbelonging : ∀ number, .driver number ∉ underWay rig.journal →
      later.belonging (.driver number) = rig.belonging (.driver number)) :
    later.Orderly fact := by
  have hsome (place : Nat) (tag : Tag)
      (hlater : (later.flag place (.callback tag)).isSome = true) :
      (rig.flag place (.callback tag)).isSome = true := by
    obtain ⟨flag, hflag⟩ := Option.isSome_iff_exists.mp hlater
    rw [hflags place _ flag hflag]
    rfl
  constructor
  · rw [hjournal]
    exact h.fitting
  · rw [hjournal]
    exact fun place part flag hflag => h.flags place part flag (hflags _ _ _ hflag)
  · rw [hjournal]
    exact fun part hpart => hknows part (h.known part hpart)
  · exact fun place tag hlater =>
      Nat.lt_of_lt_of_le (h.issued place tag (hsome place tag hlater)) htag
  · exact fun place other tag hplace hother =>
      h.home place other tag (hsome place tag hplace) (hsome other tag hother)
  · intro number hnumber
    rw [hjournal] at hnumber
    have hcore := Belonging.driver.inj (hbelonging number hnumber)
    rw [Has, hcore, hjournal]
    exact h.rests number hnumber

/-- Parts are known as long as their marks are there. -/
theorem Knows.mono {part : Part} (h : rig.Knows part)
    (hsome : (rig.flag 0 part).isSome = true → (later.flag 0 part).isSome = true)
    (htag : rig.nextTag ≤ later.nextTag) : later.Knows part := by
  cases part with
  | callback tag => exact Nat.lt_of_lt_of_le h htag
  | _ => exact hsome h

namespace Attends

theorem shrink (h : rig.Orderly fact) (hmine : ∀ part ∈ mine, part ∈ underWay rig.journal)
    (hflags : ∀ place part flag, later.flag place part = some flag →
      rig.flag place part = some flag)
    (hknows : ∀ part, rig.Knows part → later.Knows part)
    (htag : rig.nextTag ≤ later.nextTag) (hjournal : later.journal = rig.journal)
    (hdrivers : ∀ number, .driver number ∉ underWay rig.journal →
      later.belonging (.driver number) = rig.belonging (.driver number))
    (hbelonging : ∀ part ∈ underWay rig.journal, part ∉ mine →
      later.belonging part = rig.belonging part) : rig.Attends fact mine later where
  orderly := h.shrink hflags hknows htag hjournal hdrivers
  stays := by rw [hjournal]
  holds := hmine
  spares part hpart hown := by
    refine ⟨hbelonging part hpart hown, ?_⟩
    rw [hjournal]
  nextTag := htag
  registered place tag _ hlater := by
    obtain ⟨flag, hflag⟩ := Option.isSome_iff_exists.mp hlater
    rw [hflags place _ flag hflag]
    rfl

/-- A change that no mark shows. -/
theorem quiet (h : rig.Orderly fact) (hmine : ∀ part ∈ mine, part ∈ underWay rig.journal)
    (hflag : later.flag = rig.flag) (htag : later.nextTag = rig.nextTag)
    (hjournal : later.journal = rig.journal)
    (hdrivers : ∀ number, .driver number ∉ underWay rig.journal →
      later.belonging (.driver number) = rig.belonging (.driver number))
    (hbelonging : ∀ part ∈ underWay rig.journal, part ∉ mine →
      later.belonging part = rig.belonging part) : rig.Attends fact mine later := by
  have hcount := Nat.le_of_eq htag.symm
  refine shrink h hmine (fun place part flag => ?_) (fun part hpart => ?_) hcount hjournal
    hdrivers hbelonging
  · rw [hflag]
    exact id
  · refine hpart.mono ?_ hcount
    rw [hflag]
    exact id

end Attends

end Rig

/-- Runs in which the parts under way are left alone, all but those of `mine`, which
the computation at hand executes. -/
def secluding (fact : Rig.Fact) (mine : List Part) : Contract where
  allowed _ := True
  finds rig := rig.Orderly fact ∧ ∀ part ∈ mine, part ∈ underWay rig.journal
  leaves rig _ later := rig.Attends fact mine later
  refl hfinds := .refl hfinds.1 hfinds.2
  trans hfirst hsecond := hfirst.trans hsecond
  keeps _ hleaves := ⟨hleaves.orderly, hleaves.holds_later⟩
  bound _ := Rig.keepsTo_all _
  enrolls hfinds _ :=
    .quiet hfinds.1 hfinds.2 rfl rfl rfl (fun _ _ => rfl) fun _ _ _ => rfl

/-! ### Coming and going -/

/-- Whether the mark of a part that is registered at `place` is looked for there. -/
def Part.At (part : Part) (place spot : Nat) : Prop :=
  ∀ tag, part = .callback tag → spot = place

/-- A way of setting the mark of a part; the one of a callback is in the mailbox at
`place`. -/
structure Part.Marks (part : Part) (place : Nat) (mark : Bool → Rig → Rig) : Prop where
  own : ∀ flag rig spot, part.At place spot →
    (mark flag rig).flag spot part = (rig.flag spot part).map fun _ => flag
  elsewhere : ∀ flag rig spot, ¬ part.At place spot →
    (mark flag rig).flag spot part = rig.flag spot part
  other : ∀ flag rig spot other, other ≠ part →
    (mark flag rig).flag spot other = rig.flag spot other
  nextTag : ∀ flag rig, (mark flag rig).nextTag = rig.nextTag
  belonging : ∀ flag rig other, other ≠ part →
    (mark flag rig).belonging other = rig.belonging other
  core : ∀ flag rig number,
    ((mark flag rig).driver number).core = (rig.driver number).core

/-- Marks are set and cleared, but they neither come nor go. -/
theorem Part.Marks.same {part : Part} {place : Nat} {mark : Bool → Rig → Rig}
    (h : part.Marks place mark) (flag : Bool) (rig : Rig) (spot : Nat) (other : Part) :
    ((mark flag rig).flag spot other).isSome = (rig.flag spot other).isSome := by
  by_cases hother : other = part
  · subst hother
    by_cases hspot : other.At place spot
    · rw [h.own flag rig spot hspot, Option.isSome_map]
    · rw [h.elsewhere flag rig spot hspot]
  · rw [h.other flag rig spot other hother]

theorem Part.Marks.knows {part : Part} {place : Nat} {mark : Bool → Rig → Rig}
    (h : part.Marks place mark) (flag : Bool) {other : Part} (hknown : rig.Knows other) :
    (mark flag rig).Knows other :=
  hknown.mono (h.same flag rig 0 other).trans (Nat.le_of_eq (h.nextTag flag rig).symm)

namespace Rig

theorem Orderly.knows (h : rig.Orderly fact) {place : Nat} {part : Part}
    (hflag : (rig.flag place part).isSome = true) : rig.Knows part := by
  cases part with
  | callback tag => exact h.issued place tag hflag
  | _ => exact hflag

section Crossing

variable {part : Part} {place : Nat} {mark : Bool → Rig → Rig}
  (hmark : part.Marks place mark)

/-- The rig when a part has come. -/
def entered (part : Part) (mark : Bool → Rig → Rig) (rig : Rig) : Rig :=
  { mark true rig with journal := .entered part :: rig.journal }

/-- The rig when a part has gone. -/
def leftBy (part : Part) (mark : Bool → Rig → Rig) (rig : Rig) : Rig :=
  { mark false rig with journal := .left part :: rig.journal }

theorem Orderly.not_underWay (h : rig.Orderly fact)
    (hflag : rig.flag place part = some false) : part ∉ underWay rig.journal := by
  intro hpart
  have htrue := (h.flags place part false hflag).mpr hpart
  cases htrue

include hmark

/-- A part that is not under way may come. -/
theorem Orderly.enter (h : rig.Orderly fact)
    (hflag : rig.flag place part = some false) : (rig.entered part mark).Orderly fact := by
  have hpart := h.not_underWay hflag
  have hplace : (rig.flag place part).isSome = true := by
    rw [hflag]
    rfl
  constructor
  · exact ⟨.of_entered hpart, h.fitting⟩
  · intro spot other flag hother
    change (mark true rig).flag spot other = some flag at hother
    by_cases heq : other = part
    · subst heq
      have hspot : other.At place spot := by
        intro tag htag
        have hsome := hmark.same true rig spot other
        rw [hother, htag] at hsome
        rw [htag] at hplace
        exact h.home spot place tag hsome.symm hplace
      rw [hmark.own true rig spot hspot] at hother
      obtain ⟨_, _, rfl⟩ := Option.map_eq_some_iff.mp hother
      simp [Rig.entered]
    · rw [hmark.other true rig spot other heq] at hother
      simpa [Rig.entered, heq] using h.flags spot other flag hother
  · intro other hother
    have hknown : rig.Knows other := by
      rcases List.mem_cons.mp hother with rfl | hother
      · exact h.knows hplace
      · exact h.known other hother
    exact hmark.knows true hknown
  · intro spot tag hsome
    have hold := hmark.same true rig spot (.callback tag)
    show tag.number < (mark true rig).nextTag
    rw [hmark.nextTag]
    exact h.issued spot tag (hold.symm.trans hsome)
  · intro spot other tag hspot hother
    have hold (spot : Nat) := hmark.same true rig spot (.callback tag)
    exact h.home spot other tag ((hold spot).symm.trans hspot)
      ((hold other).symm.trans hother)
  · intro number hnumber
    have hold : .driver number ∉ underWay rig.journal :=
      fun hmem => hnumber (List.mem_cons_of_mem _ hmem)
    have hcore : ((rig.entered part mark).driver number).core =
        (rig.driver number).core := hmark.core true rig number
    rw [Has, hcore]
    exact h.rests number hold

/-- The part that came last may go, if it is registered nowhere else and is then, if it
is a driver, as drivers at rest should be. -/
theorem Orderly.leave {older : List Part} (h : later.Orderly fact)
    (hunder : underWay later.journal = part :: older) (hpart : part ∉ older)
    (hat : ∀ spot, (later.flag spot part).isSome = true → part.At place spot)
    (hrests : ∀ number, part = .driver number → later.Has fact number) :
    (later.leftBy part mark).Orderly fact := by
  have hgone : underWay (later.leftBy part mark).journal = older := underWay_left hunder
  have hsame := hmark.same false later
  constructor
  · exact ⟨.of_left hunder, h.fitting⟩
  · intro spot other flag hother
    rw [hgone]
    change (mark false later).flag spot other = some flag at hother
    by_cases heq : other = part
    · subst heq
      have hspot : other.At place spot := by
        refine hat spot ((hsame spot other).symm.trans ?_)
        rw [hother]
        rfl
      rw [hmark.own false later spot hspot] at hother
      obtain ⟨_, _, rfl⟩ := Option.map_eq_some_iff.mp hother
      simpa using hpart
    · rw [hmark.other false later spot other heq] at hother
      rw [h.flags spot other flag hother, hunder]
      simp [heq]
  · intro other hother
    rw [hgone] at hother
    have hknown : later.Knows other := by
      apply h.known
      rw [hunder]
      exact List.mem_cons_of_mem _ hother
    exact hmark.knows false hknown
  · intro spot tag hsome
    show tag.number < (mark false later).nextTag
    rw [hmark.nextTag]
    exact h.issued spot tag ((hsame spot _).symm.trans hsome)
  · exact fun spot other tag hspot hother =>
      h.home spot other tag ((hsame spot _).symm.trans hspot)
        ((hsame other _).symm.trans hother)
  · intro number hnumber
    rw [hgone] at hnumber
    have hcore : ((later.leftBy part mark).driver number).core =
        (later.driver number).core := hmark.core false later number
    rw [Has, hcore]
    by_cases heq : part = .driver number
    · exact hrests number heq
    · refine h.rests number ?_
      rw [hunder]
      simp [hnumber, Ne.symm heq]

/-- What was left alone while a part was executed is as it was before. -/
theorem Spares.around {other : Part} (hne : other ≠ part)
    (h : (rig.entered part mark).Spares other later) :
    rig.Spares other (later.leftBy part mark) := by
  have hbefore : rig.Spares other (rig.entered part mark) :=
    ⟨hmark.belonging true rig other hne, rfl⟩
  have hafter : later.Spares other (later.leftBy part mark) :=
    ⟨hmark.belonging false later other hne, rfl⟩
  exact (hbefore.trans h).trans hafter

/-- A part that has been executed goes, and leaves everything as it found it that was
left alone meanwhile. -/
theorem Attends.leave (hrig : rig.Orderly fact)
    (hmine : ∀ part ∈ mine, part ∈ underWay rig.journal)
    (hflag : rig.flag place part = some false)
    (hlater : (rig.entered part mark).Attends fact (part :: mine) later)
    (hrests : ∀ number, part = .driver number → later.Has fact number) :
    rig.Attends fact mine (later.leftBy part mark) := by
  have hpart := hrig.not_underWay hflag
  have hplace : (rig.flag place part).isSome = true := by
    rw [hflag]
    rfl
  have hunder : underWay later.journal = part :: underWay rig.journal := hlater.stays
  have hregistered (spot : Nat) (tag : Tag) (htag : tag.number < rig.nextTag)
      (hsome : (later.flag spot (.callback tag)).isSome = true) :
      (rig.flag spot (.callback tag)).isSome = true := by
    have hentered : tag.number < (rig.entered part mark).nextTag :=
      Nat.lt_of_lt_of_eq htag (hmark.nextTag true rig).symm
    exact (hmark.same true rig spot _).symm.trans (hlater.registered spot tag hentered hsome)
  -- A callback that came was registered at `place` before, and nothing that was known
  -- then has been registered elsewhere since.
  have hat (spot : Nat) (hsome : (later.flag spot part).isSome = true) :
      part.At place spot := by
    rintro tag rfl
    refine hrig.home spot place tag ?_ hplace
    exact hregistered spot tag (hrig.issued place tag hplace) hsome
  refine ⟨hlater.orderly.leave hmark hunder hpart hat hrests, underWay_left hunder, hmine,
    fun other hother hnot => ?_, ?_, fun spot tag htag hsome => ?_⟩
  · have hne : other ≠ part := by
      rintro rfl
      exact hpart hother
    refine .around hmark hne (hlater.spares other (List.mem_cons_of_mem _ hother) ?_)
    simp [hne, hnot]
  · have htag := hlater.nextTag
    show rig.nextTag ≤ (mark false later).nextTag
    rw [hmark.nextTag]
    exact Nat.le_trans (Nat.le_of_eq (hmark.nextTag true rig).symm) htag
  · exact hregistered spot tag htag ((hmark.same false later spot _).symm.trans hsome)

end Crossing

end Rig

/-! ### What leaves the parts under way alone -/

/-- A view that a change keeps does not show it. -/
theorem map_getElem?_modify {α β : Type} {view : α → β} {change : α → α}
    (hview : ∀ a, view (change a) = view a) (entries : Array α) (number index : Nat) :
    (entries.modify number change)[index]?.map view = entries[index]?.map view := by
  rw [Array.getElem?_modify]
  split
  · cases entries[index]? with
    | none => rfl
    | some entry => exact congrArg some (hview entry)
  · rfl

namespace Rig

theorem flag_congr
    (hdrivers : ∀ number : Nat, later.drivers[number]?.map (·.busy) =
      rig.drivers[number]?.map (·.busy))
    (hemulators : ∀ number : Nat, later.emulators[number]?.map (·.inUse) =
      rig.emulators[number]?.map (·.inUse))
    (htasks : ∀ number : Nat, later.refresher.tasks[number]?.map (·.executing) =
      rig.refresher.tasks[number]?.map (·.executing))
    (hmail : ∀ place tag, ((later.mailbox place).find? tag).map (·.executing) =
      ((rig.mailbox place).find? tag).map (·.executing))
    (hdebouncers : ∀ number : Nat, later.debouncers[number]?.map (·.busy) =
      rig.debouncers[number]?.map (·.busy))
    (hloops : ∀ number : Nat, later.loops[number]?.map (·.busy) =
      rig.loops[number]?.map (·.busy)) : later.flag = rig.flag := by
  funext place part
  cases part with
  | driver number => exact hdrivers number
  | emulator number => exact hemulators number
  | task number => exact htasks number
  | callback tag => exact hmail place tag
  | debouncer number => exact hdebouncers number
  | loop number => exact hloops number

end Rig

namespace Seclusion

/-- What leaves the parts alone on each rig is admitted. -/
theorem admits {change : Rig → Rig}
    (h : ∀ rig : Rig, rig.Orderly fact → (∀ part ∈ mine, part ∈ underWay rig.journal) →
      rig.Attends fact mine (change rig)) :
    (secluding fact mine).Admits change :=
  fun _ _ middle hleaves => hleaves.trans (h middle hleaves.orderly hleaves.holds_later)

theorem admits_quiet {change : Rig → Rig}
    (hflag : ∀ rig : Rig, (change rig).flag = rig.flag)
    (htag : ∀ rig : Rig, (change rig).nextTag = rig.nextTag)
    (hjournal : ∀ rig : Rig, (change rig).journal = rig.journal)
    (hbelonging : ∀ (rig : Rig) part, part ∉ mine →
      (change rig).belonging part = rig.belonging part) :
    (secluding fact mine).Admits change :=
  admits fun rig hrig hmine =>
    .quiet hrig hmine (hflag rig) (htag rig) (hjournal rig)
      (fun _ hnumber => hbelonging rig _ fun hmem => hnumber (hmine _ hmem))
      fun part _ => hbelonging rig part

/-- Events that fit, and that are nobody's work or work at hand. -/
theorem attends_note {event : Event} (hrig : rig.Orderly fact)
    (hmine : ∀ part ∈ mine, part ∈ underWay rig.journal)
    (hcrosses : event.crosses = false) (hfits : event.Befits rig.journal)
    (hworker : ∀ part, event.worker = some part → part ∈ mine) :
    rig.Attends fact mine { rig with journal := event :: rig.journal } := by
  have hunder : underWay (event :: rig.journal) = underWay rig.journal :=
    underWay_of_not_crosses hcrosses
  have hwork {part : Part} (hpart : part ∉ mine) :
      workOf part (event :: rig.journal) = workOf part rig.journal :=
    workOf_cons_of_ne fun hown => hpart (hworker part hown)
  constructor
  · constructor
    · exact ⟨hfits, hrig.fitting⟩
    · rw [hunder]
      exact hrig.flags
    · rw [hunder]
      exact hrig.known
    · exact hrig.issued
    · exact hrig.home
    · intro number hnumber
      rw [hunder] at hnumber
      show fact number _ (workOf _ (event :: rig.journal))
      rw [hwork fun hmem => hnumber (hmine _ hmem)]
      exact hrig.rests number hnumber
  · exact hunder
  · exact hmine
  · exact fun part _ hpart => ⟨rfl, hwork hpart⟩
  · exact Nat.le_refl _
  · exact fun _ _ _ h => h

theorem admits_plain {event : Event} (hcrosses : event.crosses = false)
    (hworker : event.worker = none) :
    (secluding fact mine).Admits fun rig =>
      { rig with journal := event :: rig.journal } :=
  admits fun rig hrig hmine => by
    refine attends_note hrig hmine hcrosses (.of_plain hcrosses hworker) ?_
    intro part hpart
    rw [hworker] at hpart
    cases hpart

/-- Work at hand is admitted, apart from the beginning of turns and steps. -/
theorem admits_work {event : Event} {part : Part} (hworker : event.worker = some part)
    (hbeginner : event.beginner = none) (hpart : part ∈ mine) :
    (secluding fact mine).Admits fun rig =>
      { rig with journal := event :: rig.journal } :=
  admits fun rig hrig hmine => by
    have hcrosses : event.crosses = false := by
      cases event with
      | entered => cases hworker
      | left => cases hworker
      | _ => rfl
    refine attends_note hrig hmine hcrosses
      (.of_work hworker hbeginner (hmine part hpart)) ?_
    intro other hother
    rw [hworker] at hother
    cases hother
    exact hpart

/-- What no part is concerned with. -/
def aloof : List Facet := [.clock, .calls, .pace, .running, .controls, .diary]

theorem ignores {facet : Facet} (hfacet : facet ∈ aloof) :
    (secluding fact mine).Ignores facet := by
  intro rig ending middle later hleaves htouch
  have hquiet {later : Rig} (hflag : later.flag = middle.flag)
      (htag : later.nextTag = middle.nextTag) (hjournal : later.journal = middle.journal)
      (hbelonging : ∀ part, later.belonging part = middle.belonging part) :
      (secluding fact mine).leaves rig ending later :=
    hleaves.trans (.quiet hleaves.orderly hleaves.holds_later hflag htag hjournal
      (fun _ _ => hbelonging _) fun part _ _ => hbelonging part)
  cases htouch with
  | event event hevent =>
      have hplain : event.crosses = false ∧ event.worker = none := by
        subst hevent
        cases event with
        | entered part => cases part <;> simp [Event.facet, Part.facet, aloof] at hfacet
        | left part => cases part <;> simp [Event.facet, Part.facet, aloof] at hfacet
        | _ => simp [Event.facet, aloof] at hfacet <;> exact ⟨rfl, rfl⟩
      exact admits_plain hplain.1 hplain.2 hleaves
  | clock now => exact hquiet rfl rfl rfl fun _ => rfl
  | called number => exact hquiet rfl rfl rfl fun _ => rfl
  | pace pace => exact hquiet rfl rfl rfl fun _ => rfl
  | running running => exact hquiet rfl rfl rfl fun _ => rfl
  | controls stepTag keyboard canned => exact hquiet rfl rfl rfl fun _ => rfl
  | _ => simp [aloof] at hfacet

end Seclusion

end Cadence
