import Mathlib.Data.List.Forall2
import Cadence.Proofs.StepCourse

/-!
One render.  The display takes its status, the emulator is asked for one frame, and the
display takes that frame if it has its size.  Whatever goes wrong ends the render, and
nothing is done twice.
-/

namespace Cadence

open Exec

/-- Whatever user code does, a computation hands the rig over at most once for each of
some stages, in their order, and a value that it comes to is as promised. -/
def Progress.HandsInTurn {α : Type} (yields : α → Rig → Prop) :
    Progress α → List (Script → Rig → Prop) → Prop
  | .ended (.value a) rig, _ => yields a rig
  | .ended _ _, _ => True
  | .handed script rig resume, stages =>
      ∃ before stage after, stages = before ++ stage :: after ∧ stage script rig ∧
        ∀ ending later, (resume ending later).HandsInTurn yields after

namespace Progress

variable {α β : Type} {yields : α → Rig → Prop} {last : β → Rig → Prop}
  {stages first rest : List (Script → Rig → Prop)} {progress : Progress α}

/-- Stages may be passed over. -/
theorem HandsInTurn.after (h : progress.HandsInTurn yields rest) :
    progress.HandsInTurn yields (first ++ rest) := by
  cases progress with
  | ended ending => cases ending <;> exact h
  | handed script rig resume =>
      obtain ⟨before, stage, after, rfl, hstage, hresume⟩ := h
      exact ⟨first ++ before, stage, after, (List.append_assoc ..).symm, hstage, hresume⟩

theorem HandsInTurn.andThen {next : α → Exec β} (h : progress.HandsInTurn yields first)
    (hnext : ∀ a rig, yields a rig → (next a rig).HandsInTurn last rest) :
    (progress.andThen next).HandsInTurn last (first ++ rest) := by
  induction progress generalizing first with
  | ended ending rig =>
      cases ending with
      | value a => exact (hnext a rig h).after
      | _ => trivial
  | handed script rig resume ih =>
      obtain ⟨before, stage, after, rfl, hstage, hresume⟩ := h
      refine ⟨before, stage, after ++ rest, List.append_assoc .., hstage, ?_⟩
      exact fun ending later => ih ending later (hresume ending later)

/-- What comes after may call nothing. -/
theorem HandsInTurn.andThen_quiet {next : α → Exec β} (h : progress.HandsInTurn yields stages)
    (hnext : ∀ a rig, yields a rig → (next a rig).HandsInTurn last []) :
    (progress.andThen next).HandsInTurn last stages :=
  List.append_nil stages ▸ h.andThen hnext

theorem HandsInTurn.atEnd {release : Rig → Rig}
    (h : progress.HandsInTurn (fun a rig => yields a (release rig)) stages) :
    (progress.atEnd release).HandsInTurn yields stages := by
  induction progress generalizing stages with
  | ended ending => cases ending <;> exact h
  | handed script rig resume ih =>
      obtain ⟨before, stage, after, rfl, hstage, hresume⟩ := h
      exact ⟨before, stage, after, rfl, hstage,
        fun ending later => ih ending later (hresume ending later)⟩

/-- The scripts that are run belong to different stages. -/
theorem HandsInTurn.handovers (h : progress.HandsInTurn yields stages) (play : Play) :
    ∃ chosen, chosen.Sublist stages ∧
      List.Forall₂ (fun stage handover => ∃ moment, stage handover.script moment) chosen
        (progress.handovers play) := by
  induction progress generalizing stages with
  | ended => exact ⟨[], List.nil_sublist _, .nil⟩
  | handed script rig resume ih =>
      obtain ⟨before, stage, after, rfl, hstage, hresume⟩ := h
      obtain ⟨chosen, hchosen, hlater⟩ := ih _ _ (hresume _ _)
      exact ⟨stage :: chosen, (hchosen.cons_cons stage).trans (List.sublist_append_right _ _),
        .cons ⟨rig, hstage⟩ hlater⟩

theorem handsInTurn_call {routine : Nat} {occasion : Occasion} {rig : Rig}
    {stage : Script → Rig → Prop}
    (hstage : ∀ course call, ∀ routines : Array Routine,
      routines[routine]? = some ⟨course, call + 1⟩ →
        stage (course call occasion) { rig with routines }) :
    (call routine occasion rig).HandsInTurn (fun _ _ => True) [stage] := by
  cases hentry : rig.routines[routine]? with
  | none =>
      simp only [call, bind_apply, look_apply, Progress.andThen, hentry]
      trivial
  | some entry =>
      rw [call_apply hentry]
      refine ⟨[], stage, [], rfl, hstage entry.course entry.calls _ ?_, fun ending _ => ?_⟩
      · rw [Array.getElem?_modify, if_pos rfl, hentry]
        rfl
      · cases ending <;> trivial

end Progress

namespace Driver

/-- What a driver's display is to show as its status. -/
def statusText (number : Nat) (rig : Rig) : String :=
  statusLine rig.pace.rate rig.pace.running (rig.driver number).measuredRate

/-! ### What a render calls -/

/-- The display of a driver is called with its status. -/
def GivesStatus (number : Nat) (script : Script) (moment : Rig) : Prop :=
  ∃ size onStatus onDraw course call older,
    (moment.driver number).display = .scripted size (some onStatus) onDraw ∧
      moment.routines[onStatus]? = some ⟨course, call + 1⟩ ∧
      script = course call (.status number (statusText number moment)) ∧
      moment.journal = .statusSet number (statusText number moment) :: older

/-- An emulator that has just been taken into use is called for a frame. -/
def AsksForFrame (script : Script) (moment : Rig) : Prop :=
  ∃ emulator picture advances onAdvance onRender course call older,
    (moment.emulator emulator).machine = .scripted picture advances onAdvance onRender ∧
      moment.routines[onRender]? = some ⟨course, call + 1⟩ ∧
      script = course call .plain ∧
      moment.journal = .rendered emulator :: .entered (.emulator emulator) :: older

/-- The display of a driver is called with a frame of its size, which an emulator shows. -/
def GivesFrame (number : Nat) (script : Script) (moment : Rig) : Prop :=
  ∃ emulator size onStatus onDraw course call older,
    (moment.driver number).display = .scripted size onStatus onDraw ∧
      moment.routines[onDraw]? = some ⟨course, call + 1⟩ ∧
      script = course call (.frame number (moment.emulator emulator).picture) ∧
      (moment.emulator emulator).picture.size = size ∧
      moment.journal = .drawn number (moment.emulator emulator).picture :: older

section Calls

theorem handsInTurn_setStatus (number : Nat) (rig : Rig) :
    (setStatus number (statusText number rig) rig).HandsInTurn (fun _ _ => True)
      [GivesStatus number] := by
  rw [setStatus, bind_apply]
  simp only [look_apply, Progress.andThen]
  rcases hdisplay : (rig.driver number).display with
    _ | ⟨size, _ | onStatus, onDraw⟩ | screen
  · trivial
  · trivial
  · have hcall : (call onStatus (.status number (statusText number rig)) { rig with
        journal := .statusSet number (statusText number rig) :: rig.journal }).HandsInTurn
          (fun _ _ => True) [GivesStatus number] :=
      Progress.handsInTurn_call fun course call routines hroutine =>
        ⟨size, onStatus, onDraw, course, call, rig.journal, hdisplay, hroutine, rfl, rfl⟩
    exact hcall.andThen_quiet fun _ _ _ => trivial
  · trivial

/-- A frame is what its emulator shows. -/
def ShowsPicture (emulator : Nat) (frame : Except Failure (Array UInt8)) (rig : Rig) : Prop :=
  ∀ bytes, frame = .ok bytes → bytes = (rig.emulator emulator).picture

theorem handsInTurn_render (emulator : Nat) (rig : Rig) :
    (Emulator.render emulator
      (rig.entered (.emulator emulator) (Emulator.mark emulator))).HandsInTurn
        (ShowsPicture emulator) [AsksForFrame] := by
  obtain ⟨asked, hasked⟩ : ∃ asked : Rig,
      { Emulator.mark emulator true rig with
        journal := .rendered emulator :: .entered (.emulator emulator) :: rig.journal } =
          asked := ⟨_, rfl⟩
  have hjournal : asked.journal =
      .rendered emulator :: .entered (.emulator emulator) :: rig.journal := by
    rw [← hasked]
  simp only [Emulator.render, Rig.entered, bind_apply, record_apply, look_apply,
    Progress.andThen, hasked]
  cases hmachine : (asked.emulator emulator).machine with
  | card card =>
      rintro bytes ⟨⟩
      rfl
  | scripted picture advances onAdvance onRender =>
      refine Progress.HandsInTurn.andThen_quiet
        (Progress.handsInTurn_call fun course call routines hroutine => ?_)
        fun verdict later _ => ?_
      · exact ⟨emulator, picture, advances, onAdvance, onRender, course, call, rig.journal,
          hmachine, hroutine, rfl, hjournal⟩
      · cases verdict with
        | error failure => rintro bytes ⟨⟩
        | ok answer =>
            rintro bytes ⟨⟩
            rfl

theorem handsInTurn_draw (number emulator : Nat) {rig : Rig} {bytes : Array UInt8}
    (hbytes : bytes = (rig.emulator emulator).picture)
    (hsize : bytes.size = (rig.driver number).display.frameBytes) :
    (draw number bytes rig).HandsInTurn (fun _ _ => True) [GivesFrame number] := by
  obtain ⟨noted, hnoted⟩ : ∃ noted : Rig,
      { rig with journal := .drawn number bytes :: rig.journal } = noted := ⟨_, rfl⟩
  have hjournal : noted.journal = .drawn number bytes :: rig.journal := by
    rw [← hnoted]
  have hframe : bytes = (noted.emulator emulator).picture := by
    rw [← hnoted]
    exact hbytes
  have hfits : bytes.size = (noted.driver number).display.frameBytes := by
    rw [← hnoted]
    exact hsize
  simp only [draw, bind_apply, record_apply, look_apply, Progress.andThen, hnoted]
  cases hdisplay : (noted.driver number).display with
  | counting draws status => trivial
  | scripted size onStatus onDraw =>
      refine Progress.handsInTurn_call fun course call routines hroutine => ?_
      rw [hdisplay] at hfits
      subst hframe
      exact ⟨emulator, size, onStatus, onDraw, course, call, rig.journal, hdisplay, hroutine,
        rfl, hfits, hjournal⟩
  | terminal screen =>
      dsimp only
      rcases screen.draw bytes with cause | failure | drawn <;> trivial

theorem handsInTurn_renderAndDraw (number emulator : Nat) (rig : Rig) :
    (renderAndDraw number emulator
      (rig.entered (.emulator emulator) (Emulator.mark emulator))).HandsInTurn
        (fun _ _ => True) [AsksForFrame, GivesFrame number] := by
  rw [renderAndDraw, bind_apply]
  refine (handsInTurn_render emulator rig).andThen fun frame shown hshown => ?_
  cases frame with
  | error failure => trivial
  | ok bytes =>
      simp only [bind_apply, look_apply, Progress.andThen]
      split
      · trivial
      · rename_i hsize
        refine (handsInTurn_draw number emulator (hshown bytes rfl)
          (not_ne_iff.mp hsize)).andThen_quiet fun verdict _ _ => ?_
        cases verdict <;> trivial

/-- Whatever user code does, a render calls the display for its status, the emulator for a
frame and the display for that frame, each at most once and in this order. -/
theorem handsInTurn_renderOnce (number : Nat) (rig : Rig) :
    (renderOnce number rig).HandsInTurn (fun _ _ => True)
      [GivesStatus number, AsksForFrame, GivesFrame number] := by
  rw [renderOnce_eq, bind_apply]
  refine (handsInTurn_setStatus number rig).andThen fun _ told _ => ?_
  simp only [bind_apply, look_apply, Progress.andThen, Emulator.whenFree]
  split
  · trivial
  · exact (handsInTurn_renderAndDraw number _ told).atEnd

end Calls

/-! ### How a render ends -/

/-- What becomes of a rig when a driver has taken an emulator into use for a frame: it is
asked for one, which the display is given if it has its size. -/
inductive FrameCourse (play : Play) (number emulator : Nat) (rig : Rig) :
    Ending Verdict → Rig → Prop
  | blank {ending outcome later}
      (hframe : (Emulator.render emulator rig).run play = (ending, later))
      (hpasses : ending.PassesOn outcome) :
      FrameCourse play number emulator rig outcome later
  | unfit {bytes expected later}
      (hframe : (Emulator.render emulator rig).run play = (.value (.ok bytes), later))
      (hexpected : (later.driver number).display.frameBytes = expected)
      (hsize : bytes.size ≠ expected) :
      FrameCourse play number emulator rig
        (.value (.error (.frameSize bytes.size expected))) later
  | undrawn {bytes shown ending later}
      (hframe : (Emulator.render emulator rig).run play = (.value (.ok bytes), shown))
      (hsize : bytes.size = (shown.driver number).display.frameBytes)
      (hdraw : (draw number bytes shown).run play = (ending, later))
      (hfails : ∀ answer, ending ≠ .value (.ok answer)) :
      FrameCourse play number emulator rig ending later
  | draws {bytes shown answer drawn}
      (hframe : (Emulator.render emulator rig).run play = (.value (.ok bytes), shown))
      (hsize : bytes.size = (shown.driver number).display.frameBytes)
      (hdraw : (draw number bytes shown).run play = (.value (.ok answer), drawn)) :
      FrameCourse play number emulator rig (.value (.ok ()))
        { drawn with journal := .drawSucceeded number :: drawn.journal }

/-- What becomes of a rig in a render. -/
inductive RenderCourse (play : Play) (number : Nat) (rig : Rig) :
    Ending Verdict → Rig → Prop
  | unset {ending later}
      (hstatus : (setStatus number (statusText number rig) rig).run play =
        (ending.plain, later)) (hending : ending.isValue = false) :
      RenderCourse play number rig ending later
  | refused {told}
      (hstatus : (setStatus number (statusText number rig) rig).run play = (.value (), told))
      (hbusy : (told.emulator (told.driver number).emulator).isBusy = true) :
      RenderCourse play number rig (.value (.error (.emulatorBusy .render))) told
  | renders {told emulator ending later}
      (hstatus : (setStatus number (statusText number rig) rig).run play = (.value (), told))
      (hemulator : (told.driver number).emulator = emulator)
      (hfree : (told.emulator emulator).isBusy = false)
      (hframe : FrameCourse play number emulator
        (told.entered (.emulator emulator) (Emulator.mark emulator)) ending later) :
      RenderCourse play number rig ending
        (later.leftBy (.emulator emulator) (Emulator.mark emulator))

section Course

variable {play : Play} {number emulator : Nat} {rig later : Rig} {ending : Ending Verdict}

theorem course_renderAndDraw
    (hrun : (renderAndDraw number emulator rig).run play = (ending, later)) :
    FrameCourse play number emulator rig ending later := by
  rcases hframe : (Emulator.render emulator rig).run play with ⟨rendering, shown⟩
  change ((Emulator.render emulator rig).andThen _).run play = _ at hrun
  by_cases hok : ∃ bytes, rendering = .value (.ok bytes)
  · obtain ⟨bytes, rfl⟩ := hok
    rw [Progress.run_andThen, hframe] at hrun
    simp only [bind_apply, look_apply, Progress.andThen] at hrun
    by_cases hsize : bytes.size = (shown.driver number).display.frameBytes
    · rw [if_neg (not_not_intro hsize)] at hrun
      rcases hdraw : (draw number bytes shown).run play with ⟨drawing, drawn⟩
      change ((draw number bytes shown).andThen _).run play = _ at hrun
      by_cases hok : ∃ answer, drawing = .value (.ok answer)
      · obtain ⟨answer, rfl⟩ := hok
        rw [Progress.run_andThen, hdraw] at hrun
        cases hrun
        exact .draws hframe hsize hdraw
      · have hfails := not_exists.mp hok
        obtain ⟨hpasses, rfl⟩ := passesOn_of_run hrun hdraw hfails fun _ _ => rfl
        obtain rfl := hpasses.eq
        exact .undrawn hframe hsize hdraw hfails
    · rw [if_pos hsize] at hrun
      cases hrun
      exact .unfit hframe rfl hsize
  · obtain ⟨hpasses, rfl⟩ := passesOn_of_run hrun hframe (not_exists.mp hok) fun _ _ => rfl
    exact .blank hframe hpasses

/-- A render takes its course, whatever user code does. -/
theorem course_renderOnce (hrun : (renderOnce number rig).run play = (ending, later)) :
    RenderCourse play number rig ending later := by
  rcases hstatus : (setStatus number (statusText number rig) rig).run play with
    ⟨setting, told⟩
  rw [renderOnce_eq] at hrun
  change ((setStatus number (statusText number rig) rig).andThen _).run play = _ at hrun
  rw [Progress.run_andThen, hstatus] at hrun
  cases setting with
  | value done =>
      simp only [bind_apply, look_apply, Progress.andThen] at hrun
      cases hbusy : (told.emulator (told.driver number).emulator).isBusy with
      | true =>
          rw [Emulator.whenFree_of_busy hbusy] at hrun
          cases hrun
          exact .refused hstatus hbusy
      | false =>
          rw [Emulator.whenFree_of_free hbusy, Emulator.occupying, within_apply] at hrun
          rcases hframe : (renderAndDraw number (told.driver number).emulator
            (told.entered (.emulator (told.driver number).emulator)
              (Emulator.mark (told.driver number).emulator))).run play with
            ⟨drawing, drawn⟩
          rw [Progress.run_atEnd] at hrun
          change (((renderAndDraw _ _ (told.entered _ _)).run play).1,
            ((renderAndDraw _ _ (told.entered _ _)).run play).2.leftBy _ _) = _ at hrun
          rw [hframe] at hrun
          cases hrun
          exact .renders hstatus rfl hbusy (course_renderAndDraw hframe)
  | panicked cause =>
      cases hrun
      exact .unset hstatus rfl
  | exhausted =>
      cases hrun
      exact .unset hstatus rfl

end Course

/-- What one render of a driver comes to. -/
structure RendersOnce (play : Play) (number : Nat) (rig : Rig) : Prop where
  /-- It calls for a status, for a frame, and for a draw of it, each at most once and in
  this order. -/
  calls : ∃ chosen, chosen.Sublist [GivesStatus number, AsksForFrame, GivesFrame number] ∧
    List.Forall₂ (fun stage handover => ∃ moment, stage handover.script moment) chosen
      ((renderOnce number rig).handovers play)
  course : RenderCourse play number rig ((renderOnce number rig).run play).1
    ((renderOnce number rig).run play).2

theorem rendersOnce (play : Play) (number : Nat) (rig : Rig) :
    RendersOnce play number rig where
  calls := (handsInTurn_renderOnce number rig).handovers play
  course := course_renderOnce rfl

end Driver

end Cadence
