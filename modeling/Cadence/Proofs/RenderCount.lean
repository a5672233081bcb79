import Cadence.Proofs.RenderTally

/-!
Which renders a driver counts.  Between its turns and steps a driver has counted all
renders of the batches that were drawn completely and none of those that were cut short,
whatever fails and however runs nest.
-/

namespace Cadence

/-- The tally of a driver at rest is balanced. -/
def RenderTally.fact : Rig.Fact :=
  fun _ driver work => (RenderTally.of driver work).Balanced

/-- What leaves a driver alone leaves its tally as it is. -/
theorem Tallying.of_sparing {α : Type} {number : Nat} {post : Ending α → Rig → Prop}
    {progress : Progress α} (h : progress.Respects (tallying number) post) :
    progress.Respects (sparing number) post :=
  Watching.of_sparing (fun _ _ => rfl) h

theorem RenderTally.kept_fact : RenderTally.fact.Kept where
  absent _ := by
    constructor <;> simp [RenderTally.of, drawBatches, Driver.core, default]
  fresh _ _ _ _ _ _ _ h := ⟨h.drawn, h.draws, h.renders, fun _ => h.single rfl⟩
  turns _ measuredRate hsize hhas := Tallying.of_sparing <|
    (Driver.leads_turn measuredRate _ hsize rfl).imp fun _ _ hlater => hlater.2 hhas
  steps _ hsize hhas := Tallying.of_sparing <|
    (Driver.leads_step _ hsize rfl).imp fun _ _ hlater => hlater.2 hhas

namespace Driver

/-- However turns and steps nest, fail or unwind, a driver at rest has counted the renders
of its complete batches.  They are as many as were drawn exactly if no batch was cut short
after a draw, and so they are if the driver does not make up for missed renders. -/
theorem countsRenders {rate : Rate} {reportInterval : Nat} {rig : Rig}
    (hbecomes : (Rig.fresh rate reportInterval).Becomes rig) {number : Nat}
    (hrests : .driver number ∉ underWay rig.journal) :
    let driver := rig.driver number
    let work := workOf (.driver number) rig.journal
    (∀ batch ∈ drawBatches work, batch.drawn ≤ batch.planned) ∧
      work.countP Event.isDraw = ((drawBatches work).map DrawBatch.drawn).sum ∧
      driver.stats.renders = ((drawBatches work).map DrawBatch.counted).sum ∧
      (driver.stats.renders = work.countP Event.isDraw ↔
        ∀ batch ∈ drawBatches work, batch.drawn = 0 ∨ batch.drawn = batch.planned) ∧
      (driver.render.catchUp = false →
        driver.stats.renders = work.countP Event.isDraw) := by
  intro driver work
  have hbalanced : (rig.tally number).Balanced :=
    (hbecomes.orderly RenderTally.kept_fact).rests number hrests
  have hiff := hbalanced.renders_eq_iff
  refine ⟨hbalanced.drawn, hbalanced.draws, hbalanced.renders, hiff, fun hoff => ?_⟩
  refine hiff.mpr fun batch hbatch => ?_
  have hdrawn := hbalanced.drawn batch hbatch
  have hsingle := hbalanced.single hoff batch hbatch
  omega

/-- A driver that makes up for missed renders, and whose display breaks on its fourth
frame, the third of the batch that makes up for a tenth of a second. -/
def breaking : Script :=
  .routine (fun _ _ => .done .null) fun quiet =>
  .routine (fun call _ => if call = 3 then .fail (.reported "broken") else .done .null)
    fun onDraw =>
  .order (.driver (.newEmulator
    (.scripted (Machine.countingPicture 8) 0 quiet quiet))) fun _ =>
  .order (.driver (.newDriver 0 (.scripted 8 none onDraw) ⟨true, true⟩ .shared)) fun _ =>
  .order (.driver (.turn 0 none)) fun _ =>
  .order (.clock (.advance (Duration.ofMillis 100))) fun _ =>
  .order (.driver (.turn 0 none)) fun _ => .done .null

def brokenRig : Rig :=
  (breaking.playWithin 3 (.fresh .initial Duration.perSecond)).2

/-- The two frames that were drawn before the display broke are not counted. -/
theorem not_countsRenders_breaking :
    drawBatches (workOf (.driver 0) brokenRig.journal) = [⟨6, 2⟩, ⟨1, 1⟩] ∧
      (workOf (.driver 0) brokenRig.journal).countP Event.isDraw = 3 ∧
      (brokenRig.driver 0).stats.renders = 1 := by
  have hbecomes : (Rig.fresh .initial Duration.perSecond).Becomes brokenRig :=
    .after 3 breaking .start
  have hbatches : drawBatches (workOf (.driver 0) brokenRig.journal) =
      [⟨6, 2⟩, ⟨1, 1⟩] := by decide +kernel
  have hrests : .driver 0 ∉ underWay brokenRig.journal := by decide +kernel
  obtain ⟨_, hdraws, hrenders, _⟩ :=
    countsRenders hbecomes hrests
  rw [hbatches] at hdraws hrenders
  exact ⟨hbatches, hdraws, hrenders⟩

end Driver

end Cadence
