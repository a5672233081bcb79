import Mathlib.Algebra.GroupWithZero.Nat
import Cadence.Proofs.WatchedDrivers

/-!
Renders counted and renders drawn.  Each activation of a driver's render, and each of
its steps, plans a batch of renders.  A batch is counted when all of it has been drawn,
and not at all if it is cut short.
-/

namespace Cadence

open Exec Contract

/-- Renders that were to be made at once, and how many of them have been drawn. -/
structure DrawBatch where
  planned : Nat
  drawn : Nat
deriving DecidableEq, Repr

def DrawBatch.isComplete (batch : DrawBatch) : Bool := batch.drawn == batch.planned

/-- The renders of a batch that are counted. -/
def DrawBatch.counted (batch : DrawBatch) : Nat :=
  if batch.isComplete then batch.drawn else 0

/-- A batch with so many more renders drawn. -/
def DrawBatch.drew (times : Nat) (batch : DrawBatch) : DrawBatch :=
  { batch with drawn := batch.drawn + times }

/-- The batches of a driver's renders, by what its work has been, the last one first. -/
def drawBatches : List Event → List DrawBatch
  | [] => []
  | .activated _ _ count :: older => ⟨count, 0⟩ :: drawBatches older
  | .stepBegan _ :: older => ⟨1, 0⟩ :: drawBatches older
  | .drawSucceeded _ :: older => (drawBatches older).modifyHead (·.drew 1)
  | _ :: older => drawBatches older

namespace Event

/-- Whether a display took its frame. -/
def isDraw : Event → Bool
  | .drawSucceeded _ => true
  | _ => false

/-- Whether an event begins a batch or is a draw of one. -/
def isTallied : Event → Bool
  | .activated _ _ _ => true
  | .stepBegan _ => true
  | .drawSucceeded _ => true
  | _ => false

end Event

/-- What is counted of a driver's renders: whether it makes up for missed ones, how many
it says it has made, how many displays have taken, and its batches. -/
structure RenderTally where
  catchUp : Bool
  renders : Nat
  draws : Nat
  batches : List DrawBatch

namespace RenderTally

/-- The tally of a driver with some work behind it. -/
def of (driver : Driver) (work : List Event) : RenderTally where
  catchUp := driver.render.catchUp
  renders := driver.stats.renders
  draws := work.countP Event.isDraw
  batches := drawBatches work

/-- Events other than draws and beginnings of batches are not counted. -/
theorem of_event {event : Event} (hevent : event.isTallied = false) (driver : Driver)
    (work : List Event) : of driver (event :: work) = of driver work := by
  cases event with
  | activated => cases hevent
  | stepBegan => cases hevent
  | drawSucceeded => cases hevent
  | _ => exact congrArg (mk _ _ · _) (List.countP_cons_of_neg Bool.false_ne_true)

/-- A batch is begun. -/
def plan (planned : Nat) (tally : RenderTally) : RenderTally :=
  { tally with batches := ⟨planned, 0⟩ :: tally.batches }

/-- So many renders of the last batch are drawn. -/
def drew (times : Nat) (tally : RenderTally) : RenderTally :=
  { tally with
    draws := tally.draws + times
    batches := tally.batches.modifyHead (·.drew times) }

/-- So many renders are counted. -/
def count (times : Nat) (tally : RenderTally) : RenderTally :=
  { tally with renders := tally.renders + times }

/-- Each draw belongs to a batch, batches are counted when they are complete, and without
catch-up there is at most one render in a batch. -/
structure Balanced (tally : RenderTally) : Prop where
  drawn : ∀ batch ∈ tally.batches, batch.drawn ≤ batch.planned
  draws : tally.draws = (tally.batches.map DrawBatch.drawn).sum
  renders : tally.renders = (tally.batches.map DrawBatch.counted).sum
  single : tally.catchUp = false → ∀ batch ∈ tally.batches, batch.planned ≤ 1

variable {tally : RenderTally}

@[simp] theorem drew_zero : tally.drew 0 = tally := by
  cases tally with
  | mk catchUp renders draws batches => cases batches <;> rfl

@[simp] theorem drew_drew (first second : Nat) :
    (tally.drew first).drew second = tally.drew (first + second) := by
  cases tally with
  | mk catchUp renders draws batches =>
      cases batches <;> simp [drew, DrawBatch.drew, Nat.add_assoc]

@[simp] theorem count_zero : tally.count 0 = tally := rfl

/-- A batch that has had its draws, and that is counted if they are all there are. -/
theorem Balanced.plan_drew (h : tally.Balanced) {planned times : Nat}
    (htimes : times ≤ planned) (hsingle : tally.catchUp = false → planned ≤ 1) :
    (((tally.plan planned).drew times).count
      (if times = planned then times else 0)).Balanced := by
  constructor
  · intro batch hbatch
    rcases List.mem_cons.mp hbatch with rfl | hbatch
    · simpa [DrawBatch.drew] using htimes
    · exact h.drawn batch hbatch
  · simp [plan, drew, count, DrawBatch.drew, h.draws, Nat.add_comm]
  · simp [plan, drew, count, DrawBatch.drew, DrawBatch.counted, DrawBatch.isComplete,
      h.renders, Nat.add_comm]
  · intro hcatchUp batch hbatch
    rcases List.mem_cons.mp hbatch with rfl | hbatch
    · exact hsingle hcatchUp
    · exact h.single hcatchUp batch hbatch

/-- A batch that was cut short is not counted. -/
theorem Balanced.of_cut (h : tally.Balanced) {planned times : Nat}
    (htimes : times < planned) (hsingle : tally.catchUp = false → planned ≤ 1) :
    ((tally.plan planned).drew times).Balanced := by
  have hbalanced := h.plan_drew (Nat.le_of_lt htimes) hsingle
  rwa [if_neg (Nat.ne_of_lt htimes), count_zero] at hbalanced

/-- A complete batch is counted as a whole. -/
theorem Balanced.of_complete (h : tally.Balanced) {planned : Nat}
    (hsingle : tally.catchUp = false → planned ≤ 1) :
    (((tally.plan planned).drew planned).count planned).Balanced := by
  have hbalanced := h.plan_drew (Nat.le_refl planned) hsingle
  rwa [if_pos rfl] at hbalanced

end RenderTally

namespace DrawBatch

theorem counted_le (batch : DrawBatch) : batch.counted ≤ batch.drawn := by
  unfold counted
  split
  · exact Nat.le_refl _
  · exact Nat.zero_le _

/-- A batch is counted as far as it was drawn, unless it was cut short after a draw. -/
theorem counted_eq_drawn_iff (batch : DrawBatch) :
    batch.counted = batch.drawn ↔ batch.drawn = 0 ∨ batch.drawn = batch.planned := by
  by_cases hcomplete : batch.drawn = batch.planned
  · simp [counted, isComplete, hcomplete]
  · have hcut : batch.isComplete = false := beq_eq_false_iff_ne.mpr hcomplete
    simp only [counted, hcut, Bool.false_eq_true, if_false, hcomplete, or_false]
    exact eq_comm

theorem sum_counted_le (batches : List DrawBatch) :
    (batches.map counted).sum ≤ (batches.map drawn).sum := by
  induction batches with
  | nil => exact Nat.le_refl _
  | cons batch rest ih =>
      simp only [List.map_cons, List.sum_cons]
      exact Nat.add_le_add batch.counted_le ih

theorem sum_counted_eq_iff (batches : List DrawBatch) :
    (batches.map counted).sum = (batches.map drawn).sum ↔
      ∀ batch ∈ batches, batch.drawn = 0 ∨ batch.drawn = batch.planned := by
  induction batches with
  | nil => simp
  | cons batch rest ih =>
      have hbatch := batch.counted_le
      have hrest := sum_counted_le rest
      rw [List.forall_mem_cons, ← ih, ← counted_eq_drawn_iff]
      simp only [List.map_cons, List.sum_cons]
      omega

end DrawBatch

/-- As many renders are counted as were drawn exactly if no batch was cut short after a
draw. -/
theorem RenderTally.Balanced.renders_eq_iff {tally : RenderTally} (h : tally.Balanced) :
    tally.renders = tally.draws ↔
      ∀ batch ∈ tally.batches, batch.drawn = 0 ∨ batch.drawn = batch.planned := by
  rw [h.renders, h.draws]
  exact DrawBatch.sum_counted_eq_iff tally.batches

/-! ### What leaves the tally as it is -/

namespace Rig

variable {rig : Rig} {number : Nat}

/-- The tally of a driver of the rig. -/
def tally (number : Nat) (rig : Rig) : RenderTally :=
  .of (rig.driver number) (workOf (.driver number) rig.journal)

/-- Events other than draws and beginnings of batches leave the tally as it is. -/
theorem tally_event {event : Event} (hevent : event.isTallied = false) :
    ({ rig with journal := event :: rig.journal } : Rig).tally number =
      rig.tally number :=
  seen_event (RenderTally.of_event hevent)

/-- What is counted of a driver after a change of its own. -/
theorem tally_modify_self (hsize : number < rig.drivers.size) (change : Driver → Driver) :
    ({ rig with drivers := rig.drivers.modify number change } : Rig).tally number =
      .of (change (rig.driver number)) (workOf (.driver number) rig.journal) :=
  congrArg (RenderTally.of · _) (Driver.driver_modify hsize change)

end Rig

/-- A draw belongs to the last batch. -/
theorem Rig.tally_drawSucceeded {rig : Rig} {number : Nat} :
    ({ rig with journal := .drawSucceeded number :: rig.journal } : Rig).tally number =
      (rig.tally number).drew 1 := by
  have hown : (Event.drawSucceeded number).worker = some (.driver number) := rfl
  rw [Rig.tally, RenderTally.of, workOf_cons_self hown, List.countP_cons_of_pos rfl]
  rfl

/-- An event that begins a batch. -/
theorem Rig.tally_planned {rig : Rig} {number planned : Nat} {event : Event}
    (hown : event.worker = some (.driver number)) (hdraw : event.isDraw = false)
    (hplans : ∀ older, drawBatches (event :: older) = ⟨planned, 0⟩ :: drawBatches older) :
    ({ rig with journal := event :: rig.journal } : Rig).tally number =
      (rig.tally number).plan planned := by
  rw [Rig.tally, RenderTally.of, workOf_cons_self hown, hplans,
    List.countP_cons_of_neg (ne_true_of_eq_false hdraw)]
  rfl

/-- Runs that leave the tally of a driver as it is. -/
def tallying (number : Nat) : Contract where
  allowed _ := True
  finds _ := True
  leaves rig _ later := later.tally number = rig.tally number ∧
    (number < rig.drivers.size → number < later.drivers.size)
  refl _ := ⟨rfl, id⟩
  trans hfirst hsecond := ⟨hsecond.1.trans hfirst.1, hsecond.2 ∘ hfirst.2⟩
  keeps _ _ := trivial
  bound _ := Rig.keepsTo_all _
  enrolls _ _ := ⟨rfl, id⟩

namespace Tallying

variable {number : Nat}

theorem admits_event {event : Event} (hevent : event.isTallied = false) :
    (tallying number).Admits fun rig =>
      { rig with journal := event :: rig.journal } :=
  Watching.admits_event (RenderTally.of_event hevent)

theorem admits_driver (change : Driver → Driver)
    (hchange : ∀ driver work,
      RenderTally.of (change driver) work = RenderTally.of driver work) (other : Nat) :
    (tallying number).Admits fun rig =>
      { rig with drivers := rig.drivers.modify other change } :=
  Watching.admits_driver change hchange other

theorem ignoresEmulation : (tallying number).IgnoresAll Facet.emulation := by
  refine Watching.ignoresEmulation fun event hfacet => RenderTally.of_event ?_
  cases event with
  | activated => simp [Event.facet, Facet.emulation] at hfacet
  | stepBegan => simp [Event.facet, Facet.emulation] at hfacet
  | drawSucceeded => simp [Event.facet, Facet.emulation] at hfacet
  | _ => rfl

theorem allowsDisplay : (tallying number).AllowsDisplay number where
  calls := ignoresEmulation .calls (by decide)
  paints display := admits_driver ({ · with display }) (fun _ _ => rfl) number
  statuses _ := admits_event rfl
  frames _ := admits_event rfl

/-- A computation that starts with a given tally and ends as `post` says, if user code
leaves the tally as it is. -/
def Leads {α : Type} (number : Nat) (tally : RenderTally) (x : Exec α)
    (post : Ending α → RenderTally → Prop) : Prop :=
  ∀ rig : Rig, number < rig.drivers.size → rig.tally number = tally →
    (x rig).Respects (tallying number) fun ending later =>
      number < later.drivers.size ∧ post ending (later.tally number)

section Leads

variable {α β : Type} {tally : RenderTally}

theorem leads_pure {a : α} {post : Ending α → RenderTally → Prop}
    (h : post (.value a) tally) : Leads number tally (pure a) post := by
  rintro rig hsize rfl
  exact ⟨hsize, h⟩

theorem Leads.bind {first : Exec α} {next : α → Exec β}
    {mid : Ending α → RenderTally → Prop} {post : Ending β → RenderTally → Prop}
    (hfirst : Leads number tally first mid)
    (hnext : ∀ a middle, mid (.value a) middle → Leads number middle (next a) post)
    (hpanicked : ∀ cause middle, mid (.panicked cause) middle → post (.panicked cause) middle)
    (hexhausted : ∀ middle, mid .exhausted middle → post .exhausted middle) :
    Leads number tally (first >>= next) post := by
  intro rig hsize htally
  rw [bind_apply, Progress.respects_andThen]
  refine (hfirst rig hsize htally).imp fun ending middle hmiddle => ?_
  cases ending with
  | value a => exact hnext a _ hmiddle.2 middle hmiddle.1 rfl
  | panicked cause => exact ⟨hmiddle.1, hpanicked cause _ hmiddle.2⟩
  | exhausted => exact ⟨hmiddle.1, hexhausted _ hmiddle.2⟩

/-- What goes before may leave the tally as it is. -/
theorem Leads.after {first : Exec α} {next : α → Exec β}
    {post : Ending β → RenderTally → Prop} (hfirst : (tallying number).Sound first)
    (hnext : ∀ a, Leads number tally (next a) post)
    (hpanicked : ∀ cause, post (.panicked cause) tally) (hexhausted : post .exhausted tally) :
    Leads number tally (first >>= next) post := by
  have hquiet : Leads number tally first fun _ later => later = tally := by
    rintro rig hsize rfl
    exact (hfirst rig trivial).imp fun _ _ hleaves => ⟨hleaves.2 hsize, hleaves.1⟩
  refine hquiet.bind ?_ ?_ ?_
  · rintro a middle rfl
    exact hnext a
  · rintro cause middle rfl
    exact hpanicked cause
  · rintro middle rfl
    exact hexhausted

/-- A change may come before. -/
theorem Leads.step {change : Rig → Rig} {middle : RenderTally} {next : Exec β}
    {post : Ending β → RenderTally → Prop} (hnext : Leads number middle next post)
    (hchange : ∀ rig : Rig, number < rig.drivers.size → rig.tally number = tally →
      number < (change rig).drivers.size ∧ (change rig).tally number = middle) :
    Leads number tally (update change >>= fun _ => next) post :=
  fun rig hsize htally =>
    hnext _ (hchange rig hsize htally).1 (hchange rig hsize htally).2

theorem Leads.logged {next : Exec β} {post : Ending β → RenderTally → Prop}
    (hnext : Leads number tally next post) (lines : List Log.Line) :
    Leads number tally (log lines >>= fun _ => next) post := by
  refine hnext.step fun rig hsize htally => ?_
  have hstart : (tallying number).leaves rig (.value ()) rig := ⟨rfl, id⟩
  have hlogged := (ignoresEmulation .diary (by decide)).admits_log lines.reverse hstart
  exact ⟨hsize, hlogged.1.trans htally⟩

/-- A look comes before, and shows some rig with that tally. -/
theorem Leads.looking {view : Rig → α} {next : α → Exec β}
    {post : Ending β → RenderTally → Prop}
    (hnext : ∀ rig : Rig, rig.tally number = tally →
      Leads number tally (next (view rig)) post) :
    Leads number tally (look view >>= next) post :=
  fun rig hsize htally => hnext rig htally rig hsize htally

end Leads

end Tallying

/-- Whether a computation has ended well. -/
def Ending.isOk {α : Type} : Ending (Except Failure α) → Bool
  | .value (.ok _) => true
  | _ => false

/-! ### Turns and steps -/

namespace Driver

open Tallying

variable {number : Nat} {tally : RenderTally}

/-- A batch as far as it has been drawn: all of it if all went well. -/
def DrawnOf {α : Type} (tally : RenderTally) (planned : Nat)
    (ending : Ending (Except Failure α)) (later : RenderTally) : Prop :=
  ∃ times ≤ planned, later = tally.drew times ∧
    (ending.isOk = true ↔ times = planned)

theorem DrawnOf.none {α : Type} {planned : Nat} {ending : Ending (Except Failure α)}
    (hending : ending.isOk = false) (hplanned : 0 < planned) :
    DrawnOf tally planned ending tally := by
  refine ⟨0, Nat.zero_le _, RenderTally.drew_zero.symm, ?_⟩
  simp [hending, Nat.ne_of_lt hplanned]

theorem leads_renderAndDraw (emulator : Nat) :
    Leads number tally (renderAndDraw number emulator) (DrawnOf tally 1) := by
  have hcycles : (tallying number).AllowsCycles emulator :=
    .of_ignores ignoresEmulation emulator
  have hfails {ending : Ending Verdict} (hending : ending.isOk = false) :
      DrawnOf tally 1 ending tally := .none hending Nat.one_pos
  refine .after (Emulator.sound_render hcycles) (fun frame => ?_) (fun _ => hfails rfl)
    (hfails rfl)
  split
  · exact leads_pure (hfails rfl)
  · refine .after (sound_look _) (fun expected => ?_) (fun _ => hfails rfl) (hfails rfl)
    split
    · exact leads_pure (hfails rfl)
    · refine .after (sound_draw Tallying.allowsDisplay _) (fun verdict => ?_) (fun _ => hfails rfl)
        (hfails rfl)
      split
      · exact leads_pure (hfails rfl)
      · rintro rig hsize rfl
        exact ⟨hsize, 1, Nat.le_refl _, Rig.tally_drawSucceeded, by simp [Ending.isOk]⟩

/-- Whether an emulator is used or not, nothing is counted on its account. -/
theorem leads_whenFree {emulator : Nat} {phase : EmulatorPhase} {body : Exec Verdict}
    {post : Ending Verdict → RenderTally → Prop} (hbody : Leads number tally body post)
    (hrefused : post (.value (.error (.emulatorBusy phase))) tally) :
    Leads number tally (Emulator.whenFree emulator phase body) post := by
  have hmark (inUse : Bool) {event : Event} (hevent : event.isTallied = false) (rig : Rig) :
      ({ Emulator.mark emulator inUse rig with
        journal := event :: rig.journal } : Rig).tally number = rig.tally number :=
    (Rig.tally_event hevent : _ = (Emulator.mark emulator inUse rig).tally number)
  rintro rig hsize rfl
  simp only [Emulator.whenFree, bind_apply, look_apply, Progress.andThen]
  split
  · exact ⟨hsize, hrefused⟩
  · have hentered : (rig.entered (.emulator emulator) (Emulator.mark emulator)).tally
        number = rig.tally number := hmark true rfl rig
    rw [Emulator.occupying, within_apply, Progress.respects_atEnd]
    refine Progress.Respects.imp (fun ending later hlater => ?_) (hbody _ hsize hentered)
    have hleft : (later.leftBy (.emulator emulator) (Emulator.mark emulator)).tally
        number = later.tally number := hmark false rfl later
    refine ⟨hlater.1, ?_⟩
    change post ending ((later.leftBy _ _).tally number)
    rw [hleft]
    exact hlater.2

theorem leads_renderOnce : Leads number tally (renderOnce number) (DrawnOf tally 1) := by
  have hfails {ending : Ending Verdict} (hending : ending.isOk = false) :
      DrawnOf tally 1 ending tally := .none hending Nat.one_pos
  rw [renderOnce_eq]
  refine .after (sound_look _) (fun status => ?_) (fun _ => hfails rfl) (hfails rfl)
  refine .after (sound_setStatus Tallying.allowsDisplay _) (fun _ => ?_)
    (fun _ => hfails rfl) (hfails rfl)
  refine .after (sound_look _) (fun emulator => ?_) (fun _ => hfails rfl) (hfails rfl)
  exact leads_whenFree (leads_renderAndDraw emulator) (hfails rfl)

/-- A batch is drawn one render after the other, up to the first that fails. -/
theorem leads_renderTimes (planned : Nat) :
    Leads number tally (renderTimes number planned) (DrawnOf tally planned) := by
  induction planned generalizing tally with
  | zero =>
      exact leads_pure ⟨0, Nat.le_refl _, RenderTally.drew_zero.symm, by simp [Ending.isOk]⟩
  | succ planned ih =>
      -- A render that failed was not drawn, so the batch ends where it began.
      have hcut {ending : Ending Verdict} {later : RenderTally}
          (hending : ending.isOk = false) (hlater : DrawnOf tally 1 ending later) :
          DrawnOf tally (planned + 1) ending later := by
        obtain ⟨times, htimes, rfl, hok⟩ := hlater
        have hnone : times = 0 := by
          rw [hending] at hok
          simp at hok
          omega
        subst hnone
        simpa using DrawnOf.none hending (Nat.succ_pos planned)
      refine leads_renderOnce.bind (fun verdict middle hmiddle => ?_)
        (fun _ _ => hcut rfl) (fun _ => hcut rfl)
      cases verdict with
      | error failure => exact leads_pure (hcut rfl hmiddle)
      | ok answer =>
          obtain ⟨times, _, rfl, hok⟩ := hmiddle
          obtain rfl := hok.mp rfl
          intro rig hsize htally
          refine (ih rig hsize htally).imp fun ending later hlater => ?_
          obtain ⟨hsize, times, htimes, hdrawn, hok⟩ := hlater
          refine ⟨hsize, 1 + times, by omega, ?_, ?_⟩
          · rw [hdrawn, RenderTally.drew_drew]
          · rw [hok]
            omega

/-- Without catch-up there is at most one render to be made. -/
theorem plan_le_one {timing : Debouncer} (hcatchUp : timing.catchUp = false) (now : Nat) :
    (timing.plan now).1 ≤ 1 := by
  unfold Debouncer.plan
  split
  · exact Nat.le_refl _
  · split
    · exact Nat.le_refl _
    · dsimp only
      split
      · exact Nat.zero_le _
      · exact Nat.le_of_eq (Debouncer.runsAfter_of_not_catchUp hcatchUp _)

/-- An activation plans a batch and draws it as far as it goes. -/
def Activated (tally : RenderTally) (ending : Ending (Except Failure Activation))
    (later : RenderTally) : Prop :=
  ∃ planned, (tally.catchUp = false → planned ≤ 1) ∧
    DrawnOf (tally.plan planned) planned ending later ∧
      ∀ rendered, ending = .value (.ok rendered) → rendered.count = planned

/-- A batch that was cut short has been activated and drawn as far as it went. -/
theorem Activated.of_cut {planned : Nat} {later : RenderTally} {ending : Ending Verdict}
    {outcome : Ending (Except Failure Activation)}
    (hsingle : tally.catchUp = false → planned ≤ 1)
    (hdrawn : DrawnOf (tally.plan planned) planned ending later)
    (hending : ending.isOk = false) (houtcome : outcome.isOk = false) :
    Activated tally outcome later := by
  obtain ⟨times, htimes, hlater, hok⟩ := hdrawn
  refine ⟨planned, hsingle, ⟨times, htimes, hlater, ?_⟩, ?_⟩
  · rw [houtcome, ← hending]
    exact hok
  · rintro rendered rfl
    cases houtcome

/-- The renders of a batch that has been planned. -/
theorem leads_planned {planned : Nat} (hsingle : tally.catchUp = false → planned ≤ 1) :
    Leads number (tally.plan planned)
      (do
        match ← renderTimes number planned with
        | .error failure => return .error failure
        | .ok _ => return .ok (.ofCount planned))
      (Activated tally) := by
  refine (leads_renderTimes planned).bind (fun verdict middle hmiddle => ?_)
    (fun _ _ hmiddle => .of_cut hsingle hmiddle rfl rfl)
    (fun _ hmiddle => .of_cut hsingle hmiddle rfl rfl)
  cases verdict with
  | error failure => exact leads_pure (.of_cut hsingle hmiddle rfl rfl)
  | ok answer =>
      obtain ⟨times, htimes, hdrawn, hok⟩ := hmiddle
      refine leads_pure ⟨planned, hsingle, ⟨times, htimes, hdrawn, hok⟩, ?_⟩
      rintro rendered ⟨⟩
      exact Activation.count_ofCount planned

theorem leads_activateRender :
    Leads number tally (activateRender number) (Activated tally) := by
  refine .looking fun before htally => .looking fun clock _ => ?_
  have hcatchUp : tally.catchUp = (before.driver number).render.catchUp := by
    rw [← htally]
    rfl
  -- The count is planned from the timing as it was found, of which the tally shows only
  -- whether it catches up.
  set timing := (before.driver number).render
  set now := clockTime (before.driver number).timebase clock
  have hactivated (rig : Rig) (hsize : number < rig.drivers.size)
      (hrig : rig.tally number = tally) :
      number < rig.drivers.size ∧
        ({ rig with journal := .activated number timing (timing.plan now).1 ::
          rig.journal } : Rig).tally number = tally.plan (timing.plan now).1 := by
    refine ⟨hsize, ?_⟩
    rw [← hrig]
    exact Rig.tally_planned rfl rfl fun _ => rfl
  have hretimed (rig : Rig) (hsize : number < rig.drivers.size)
      (hrig : rig.tally number = tally.plan (timing.plan now).1) :
      number < (rig.drivers.modify number ({ · with render := (timing.plan now).2 })).size ∧
        ({ rig with
          drivers := rig.drivers.modify number ({ · with render := (timing.plan now).2 }) } :
            Rig).tally number = tally.plan (timing.plan now).1 := by
    refine ⟨by rwa [Array.size_modify], ?_⟩
    have hkept : (timing.plan now).2.catchUp = (rig.tally number).catchUp := by
      rw [hrig, Debouncer.plan_settings]
      exact hcatchUp.symm
    rw [Rig.tally_modify_self hsize, RenderTally.of, hkept, ← hrig]
    rfl
  have hsingle (hoff : tally.catchUp = false) : (timing.plan now).1 ≤ 1 :=
    plan_le_one (hcatchUp.symm.trans hoff) now
  exact (((leads_planned hsingle).step hretimed).step hactivated).logged _

/-- Renders are counted. -/
theorem leads_count {α : Type} {next : Exec α} {post : Ending α → RenderTally → Prop}
    {times : Nat} (hnext : Leads number (tally.count times) next post) :
    Leads number tally
      (modifyStats number (fun stats => { stats with renders := stats.renders + times }) >>=
        fun _ => next) post := by
  refine hnext.step fun rig hsize hrig => ⟨by rwa [Array.size_modify], ?_⟩
  rw [Rig.tally_modify_self hsize, ← hrig]
  rfl

/-- If a tally is balanced, it is so again at the end. -/
def KeepsBalance {α : Type} (tally : RenderTally) (_ : Ending α) (later : RenderTally) :
    Prop :=
  tally.Balanced → later.Balanced

theorem sound_modifyStats_tallying {change : DriverStats → DriverStats}
    (hchange : ∀ stats, (change stats).renders = stats.renders) :
    (tallying number).Sound (modifyStats number change) := by
  refine (admits_driver (fun driver => { driver with stats := change driver.stats })
    (fun driver work => ?_) number).sound
  rw [RenderTally.of, RenderTally.of, hchange]

theorem sound_advance_tallying (cycles : UInt32) :
    (tallying number).Sound (advance number cycles) := by
  have hcounts : (tallying number).Sound (modifyStats number fun stats =>
      { stats with cycles := stats.cycles + 1 }) :=
    sound_modifyStats_tallying fun _ => rfl
  exact Watching.sound_advance ignoresEmulation hcounts cycles

theorem sound_openTurn_tallying (measuredRate : Option Binary64) :
    (tallying number).Sound (openTurn number measuredRate) := by
  have hdiary : (tallying number).Ignores .diary := ignoresEmulation _ (by decide)
  have hturns : (tallying number).Sound (modifyStats number fun stats =>
      { stats with turns := stats.turns + 1 }) :=
    sound_modifyStats_tallying fun _ => rfl
  have hmeasures : (tallying number).Sound (modify number ({ · with measuredRate })) :=
    (admits_driver ({ · with measuredRate }) (fun _ _ => rfl) number).sound
  have happlies : (tallying number).Sound (modify number applyPending) := by
    refine (admits_driver applyPending (fun driver work => ?_) number).sound
    simp only [RenderTally.of, applyPending]
    split
    · rfl
    · simp only [Debouncer.withInterval, apply_ite Debouncer.catchUp, ite_self]
  refine (admits_event rfl).sound.seq (hturns.seq (hmeasures.seq ?_))
  exact (sound_look _).bind fun driver => (hdiary.sound_log _).seq happlies

/-- A batch that was not drawn completely is not counted. -/
theorem keepsBalance_of_cut {α β : Type} {planned : Nat} {ending : Ending (Except Failure α)}
    {outcome : Ending β} {later : RenderTally}
    (hsingle : tally.catchUp = false → planned ≤ 1)
    (hdrawn : DrawnOf (tally.plan planned) planned ending later)
    (hending : ending.isOk = false) : KeepsBalance tally outcome later := by
  intro hbalanced
  obtain ⟨times, htimes, rfl, hok⟩ := hdrawn
  rw [hending] at hok
  have hcut : times ≠ planned := fun heq => Bool.false_ne_true (hok.mpr heq)
  exact hbalanced.of_cut (Nat.lt_of_le_of_ne htimes hcut) hsingle

/-- A batch that was drawn completely is counted. -/
theorem keepsBalance_of_complete {α β : Type} {planned : Nat}
    {ending : Ending (Except Failure α)} {outcome : Ending β} {later : RenderTally}
    (hsingle : tally.catchUp = false → planned ≤ 1)
    (hdrawn : DrawnOf (tally.plan planned) planned ending later)
    (hending : ending.isOk = true) : KeepsBalance tally outcome (later.count planned) := by
  intro hbalanced
  obtain ⟨times, _, rfl, hok⟩ := hdrawn
  rw [hok.mp hending]
  exact hbalanced.of_complete hsingle

theorem leads_turn (measuredRate : Option Binary64) :
    Leads number tally (turn number measuredRate) (KeepsBalance tally) := by
  have hkept {α : Type} {ending : Ending α} : KeepsBalance tally ending tally := id
  refine .after (sound_openTurn_tallying measuredRate) (fun _ => ?_) (fun _ => hkept) hkept
  refine .after (sound_look _) (fun running => ?_) (fun _ => hkept) hkept
  split
  · exact .after (sound_modifyStats_tallying fun _ => rfl) (fun _ => leads_pure hkept)
      (fun _ => hkept) hkept
  · refine .after (sound_look _) (fun rate => ?_) (fun _ => hkept) hkept
    refine .after (sound_advance_tallying _) (fun verdict => ?_) (fun _ => hkept) hkept
    split
    · exact leads_pure hkept
    · refine leads_activateRender.bind (fun result middle hmiddle => ?_) ?_ ?_
      · obtain ⟨planned, hsingle, hdrawn, hcount⟩ := hmiddle
        cases result with
        | error failure => exact leads_pure (keepsBalance_of_cut hsingle hdrawn rfl)
        | ok rendered =>
            refine leads_count (leads_pure ?_)
            rw [hcount rendered rfl]
            exact keepsBalance_of_complete hsingle hdrawn rfl
      · rintro cause middle ⟨planned, hsingle, hdrawn, _⟩
        exact keepsBalance_of_cut hsingle hdrawn rfl
      · rintro middle ⟨planned, hsingle, hdrawn, _⟩
        exact keepsBalance_of_cut hsingle hdrawn rfl

theorem leads_step : Leads number tally (step number) (KeepsBalance tally) := by
  have hsingle (_ : tally.catchUp = false) : 1 ≤ 1 := Nat.le_refl 1
  have hcut {outcome : Ending Verdict} :
      KeepsBalance tally outcome (tally.plan 1) := by
    have hnone : DrawnOf (tally.plan 1) 1 (.exhausted : Ending Verdict) (tally.plan 1) :=
      .none rfl Nat.one_pos
    exact keepsBalance_of_cut hsingle hnone rfl
  have hbegins (rig : Rig) (hsize : number < rig.drivers.size)
      (hrig : rig.tally number = tally) :
      number < rig.drivers.size ∧
        ({ rig with journal := .stepBegan number :: rig.journal } : Rig).tally number =
          tally.plan 1 := by
    refine ⟨hsize, ?_⟩
    rw [← hrig]
    exact Rig.tally_planned rfl rfl fun _ => rfl
  refine Leads.step ?_ hbegins
  refine .after (sound_look _) (fun rate => ?_) (fun _ => hcut) hcut
  refine .after (sound_advance_tallying _) (fun verdict => ?_) (fun _ => hcut) hcut
  split
  · exact leads_pure hcut
  · refine leads_renderOnce.bind (fun rendered middle hmiddle => ?_)
      (fun _ _ hmiddle => keepsBalance_of_cut hsingle hmiddle rfl)
      (fun _ hmiddle => keepsBalance_of_cut hsingle hmiddle rfl)
    cases rendered with
    | error failure => exact leads_pure (keepsBalance_of_cut hsingle hmiddle rfl)
    | ok answer =>
        exact leads_count (leads_pure (keepsBalance_of_complete hsingle hmiddle rfl))

end Driver

end Cadence
