import Cadence.Proofs.LiveDrivers

/-!
Settled refreshes.  A task requests its next turn while the last one is still owed,
so its driver is alive at that moment; a request that has had its turn, a batch that
is left and a queue that is dropped may let drivers go.
-/

namespace Cadence

open Exec Contract

namespace Settling

variable {rig later : Rig} {task : Nat} {frame : FrameTime} {request : FrameRequest}
  {rest : List FrameRequest} {outer : List Batch}

/-- The turns that are owed may be kept in another place. -/
theorem settled_refresher (h : rig.Settled) (refresher : Refresher)
    (hbodies : ∀ task, refresher.body? task = rig.refresher.body? task)
    (hturns : turnsOf refresher.backlog = turnsOf rig.refresher.backlog)
    (journal : List Event) : ({ rig with refresher, journal } : Rig).Settled :=
  h.of_tenures (fun _ => rfl) fun _ => Refresher.owesDriver_congr hbodies hturns

/-- Turns that are not owed any more are given up. -/
theorem housed_refresher (h : rig.Housed) (refresher : Refresher)
    (hbodies : ∀ task, refresher.body? task = rig.refresher.body? task)
    (hbacklog : refresher.backlog.Sublist rig.refresher.backlog) (journal : List Event) :
    ({ rig with refresher, journal } : Rig).Housed := by
  refine h.of_fewer (fun _ => rfl) fun number hreferenced => ?_
  rw [Rig.isReferenced, Bool.or_eq_true] at hreferenced ⊢
  exact hreferenced.imp_right (Refresher.owesDriver_of_sublist hbodies hbacklog)

/-- A task whose driver is alive may have another turn. -/
theorem housed_requestNext (h : rig.Housed)
    (halive : ∀ number, rig.refresher.body? task = some (.driver number) →
      (rig.driver number).alive = true) :
    (Refresher.requestNext task rig).Housed := by
  intro number hreferenced
  rw [Rig.isReferenced, Bool.or_eq_true] at hreferenced
  rcases hreferenced with hown | howes
  · exact h number (Bool.or_eq_true_iff.mpr (.inl hown))
  · have hagain : (rig.refresher.requestAgain task).owesDriver number = true := howes
    unfold Refresher.requestAgain at hagain
    split at hagain
    · exact h number (Bool.or_eq_true_iff.mpr (.inr hagain))
    · obtain ⟨other, hbody, hturn⟩ := Refresher.owesDriver_iff.mp hagain
      rcases Refresher.mem_turnsOf_request.mp hturn with hnew | hold
      · obtain rfl := FrameWork.turn.inj hnew
        exact halive number hbody
      · have howed : rig.refresher.owesDriver number = true :=
          Refresher.owesDriver_iff.mpr ⟨other, hbody, hold⟩
        exact h number (Bool.or_eq_true_iff.mpr (.inr howed))

/-- The driver of a task that is owed a turn is alive. -/
theorem alive_of_owed (h : rig.Settled) (hturn : task ∈ turnsOf rig.refresher.backlog)
    {number : Nat} (hbody : rig.refresher.body? task = some (.driver number)) :
    (rig.driver number).alive = true :=
  h.alive_of_owes (Refresher.owesDriver_iff.mpr ⟨task, hbody, hturn⟩)

/-! ### Requests -/

/-- What has become of a rig when a request has had its turn and is to be ended. -/
structure Worked (rig later : Rig) : Prop where
  housed : later.Housed
  batches : later.refresher.batches = rig.refresher.batches
  tasks : rig.refresher.KeepsTasks later.refresher

theorem Worked.of_leaves {ending : Ending Unit} (h : settling.leaves rig ending later) :
    Worked rig later :=
  ⟨h.1.housed, h.2.1, h.2.2⟩

theorem soundAt_runBody (hfinds : rig.Settled)
    (hturn : task ∈ turnsOf rig.refresher.backlog) {body : TaskBody}
    (hbody : rig.refresher.body? task = some body) (frame : FrameTime) :
    settling.SoundAt rig (Refresher.runBody frame body) := by
  cases body with
  | routine routine =>
      have hcalls : settling.Ignores .calls := ignores_touch (by decide)
      exact hcalls.sound_call _ _ rig hfinds
  | driver number => exact soundAt_taskTurn hfinds (alive_of_owed hfinds hturn hbody) frame

/-- A task requests its next turn while it is still owed the last one. -/
theorem worked_requestNext (hworked : Worked rig later) (hsettled : later.Settled)
    (hbatches : rig.refresher.batches = ⟨frame, some request, rest⟩ :: outer)
    (hwork : request.work = .turn task) :
    Worked rig (Refresher.requestNext task later) := by
  have hturn := Refresher.mem_turnsOf_current (hworked.batches.trans hbatches) hwork
  refine ⟨housed_requestNext hworked.housed fun number hbody =>
    alive_of_owed hsettled hturn hbody, ?_, ?_⟩
  · have hagain : (later.refresher.requestAgain task).batches = later.refresher.batches := by
      unfold Refresher.requestAgain
      split <;> rfl
    exact hagain.trans hworked.batches
  · refine hworked.tasks.trans (.of_eq fun other => ?_)
    change (later.refresher.requestAgain task).body? other = _
    unfold Refresher.requestAgain
    split <;> rfl

theorem settled_markTask (h : rig.Settled) (task : Nat) (executing : Bool)
    (journal : List Event) :
    ({ Refresher.markOnRig task executing rig with journal } : Rig).Settled :=
  settled_refresher h _ (fun _ => Refresher.body?_mark ..) rfl journal

theorem respects_runTask (hfinds : rig.Settled)
    (hbatches : rig.refresher.batches = ⟨frame, some request, rest⟩ :: outer)
    (hwork : request.work = .turn task) :
    (Refresher.runTask frame task rig).Respects settling fun _ later =>
      Worked rig later := by
  simp only [Refresher.runTask, bind_apply, look_apply, Progress.andThen]
  rcases hentry : rig.refresher.tasks[task]? with _ | ⟨body, executing⟩
  · exact ⟨hfinds.housed, rfl, .refl _⟩
  · cases executing with
    | true =>
        have hsame : Worked rig rig := ⟨hfinds.housed, rfl, .refl _⟩
        exact worked_requestNext hsame hfinds hbatches hwork
    | false =>
        simp only [Bool.false_eq_true, if_false, ensuring_apply, within_apply,
          Progress.respects_atEnd]
        have hentered := settled_markTask hfinds task true
          (.entered (.task task) :: rig.journal)
        have hbody : (Refresher.markOnRig task true rig).refresher.body? task =
            some body := by
          refine (Refresher.body?_mark ..).trans ?_
          rw [Refresher.body?, hentry]
          rfl
        have hturn := Refresher.mem_turnsOf_current hbatches hwork
        refine (soundAt_runBody hentered hturn hbody frame).imp ?_
        rintro ending later ⟨hsettled, hbatch, htasks⟩
        have hleft := settled_markTask hsettled task false
          (.left (.task task) :: later.journal)
        have hkept : rig.refresher.KeepsTasks (later.refresher.mark task false) := by
          have hbegan : rig.refresher.KeepsTasks (rig.refresher.mark task true) :=
            .of_eq fun _ => Refresher.body?_mark ..
          exact (hbegan.trans htasks).trans (.of_eq fun _ => Refresher.body?_mark ..)
        exact worked_requestNext ⟨hleft.housed, hbatch, hkept⟩ hleft hbatches hwork

theorem respects_runWork (hfinds : rig.Settled)
    (hbatches : rig.refresher.batches = ⟨frame, some request, rest⟩ :: outer) :
    (Refresher.runWork frame request.work rig).Respects settling fun _ later =>
      Worked rig later := by
  cases hwork : request.work with
  | turn task => exact respects_runTask hfinds hbatches hwork
  | once routine =>
      have hcalls : settling.Ignores .calls := ignores_touch (by decide)
      exact (hcalls.sound_call routine (.refresh frame) rig hfinds).imp
        fun _ _ hleaves => .of_leaves hleaves

/-- Whoever a request has kept alive may be let go when it has had its turn. -/
theorem settled_endRequest (h : Worked rig later)
    (hbatches : rig.refresher.batches = ⟨frame, some request, rest⟩ :: outer)
    (journal : List Event) :
    let ended := { later with
      refresher := later.refresher.endRequest, journal }.retireAbandoned
    ended.Settled ∧ ended.refresher.batches = ⟨frame, none, rest⟩ :: outer ∧
      rig.refresher.KeepsTasks ended.refresher := by
  have hbodies (task : Nat) :
      later.refresher.endRequest.body? task = later.refresher.body? task := by
    unfold Refresher.endRequest Refresher.modifyBatch
    split <;> rfl
  have hcurrent := h.batches.trans hbatches
  refine ⟨(housed_refresher h.housed _ hbodies (Refresher.sublist_endRequest hcurrent)
    journal).settles, ?_, ?_⟩
  · rw [Rig.refresher_retireAbandoned]
    exact Refresher.batches_endRequest hcurrent
  · rw [Rig.refresher_retireAbandoned]
    exact h.tasks.trans (.of_eq hbodies)

/-- A request takes its place in the batch and nothing more. -/
theorem respects_runRequest (hfinds : rig.Settled)
    (hbatches : rig.refresher.batches = ⟨frame, none, request :: rest⟩ :: outer) :
    (Refresher.runRequest frame request rig).Respects settling fun _ later =>
      later.Settled ∧ later.refresher.batches = ⟨frame, none, rest⟩ :: outer ∧
        rig.refresher.KeepsTasks later.refresher := by
  have hbodies (task : Nat) :
      rig.refresher.beginRequest.body? task = rig.refresher.body? task := by
    unfold Refresher.beginRequest Refresher.modifyBatch
    split <;> rfl
  have hbegun := settled_refresher hfinds _ hbodies
    (congrArg turnsOf (Refresher.backlog_beginRequest hbatches))
    (.began frame request :: rig.journal)
  have hcurrent := Refresher.batches_beginRequest hbatches
  simp only [Refresher.runRequest, Refresher.modify, bind_apply, ensuring_apply,
    update_apply, record_apply, Progress.andThen, Progress.respects_andThen,
    Progress.respects_atEnd]
  refine (respects_runWork hbegun hcurrent).imp fun ending later hworked => ?_
  have hended (journal : List Event) := settled_endRequest hworked hcurrent journal
  have hbegan : rig.refresher.KeepsTasks rig.refresher.beginRequest := .of_eq hbodies
  have hover (journal : List Event) :
      let ended := { later with
        refresher := later.refresher.endRequest, journal }.retireAbandoned
      ended.Settled ∧ ended.refresher.batches = ⟨frame, none, rest⟩ :: outer ∧
        rig.refresher.KeepsTasks ended.refresher :=
    ⟨(hended journal).1, (hended journal).2.1, hbegan.trans (hended journal).2.2⟩
  cases ending with
  | panicked cause => exact hover later.journal
  | exhausted => exact hover later.journal
  | value verdict =>
      have hconcluded := hover (.ended frame request verdict :: later.journal)
      cases verdict <;> exact hconcluded

/-- A refresh goes through its batch, and leaves the rest of it if it is cut short. -/
theorem respects_runAll (requests : List FrameRequest) (hfinds : rig.Settled)
    (hbatches : rig.refresher.batches = ⟨frame, none, requests⟩ :: outer) :
    (Refresher.runAll frame requests rig).Respects settling fun _ later =>
      later.Settled ∧ later.refresher.batches.tail = outer ∧
        rig.refresher.KeepsTasks later.refresher := by
  induction requests generalizing rig with
  | nil => exact ⟨hfinds, congrArg List.tail hbatches, .refl _⟩
  | cons request rest ih =>
      rw [Refresher.runAll, bind_apply, Progress.respects_andThen]
      refine (respects_runRequest hfinds hbatches).imp ?_
      rintro ending middle ⟨hsettled, hmiddle, htasks⟩
      cases ending with
      | panicked cause => exact ⟨hsettled, congrArg List.tail hmiddle, htasks⟩
      | exhausted => exact ⟨hsettled, congrArg List.tail hmiddle, htasks⟩
      | value done =>
          refine (ih hsettled hmiddle).imp ?_
          rintro ending later ⟨hlater, hbatch, hkept⟩
          exact ⟨hlater, hbatch, htasks.trans hkept⟩

theorem sound_refresh (now : Nat) : settling.Sound (Refresher.refresh now) := by
  intro rig hfinds
  simp only [Refresher.refresh, bind_apply, look_apply, log_apply, update_apply,
    record_apply, ensuring_apply, Progress.andThen, Progress.respects_andThen,
    Progress.respects_atEnd]
  refine Progress.Respects.imp ?_ (respects_runAll _ (settled_refresher hfinds _
    (fun _ => rfl) (congrArg turnsOf (Refresher.backlog_openBatch rig.refresher now)) _) rfl)
  rintro ending later ⟨hsettled, hbatches, htasks⟩
  have hclosed := housed_refresher hsettled.housed later.refresher.closeBatch
    (fun _ => rfl) (Refresher.sublist_closeBatch later.refresher) later.journal
  have hrun : settling.leaves rig ending.plain
      ({ later with refresher := later.refresher.closeBatch } : Rig).retireAbandoned :=
    leaves_retireAbandoned ending.plain hclosed hbatches htasks
  cases ending <;> exact hrun

/-! ### What else is asked of refreshes -/

/-- A driver that has a handle may have a task. -/
theorem settled_recur (h : rig.Settled) {body : TaskBody}
    (hhandle : ∀ number, body = .driver number → (rig.driver number).handle = true)
    (journal : List Event) :
    ({ rig with refresher := rig.refresher.recur body, journal } : Rig).Settled := by
  intro number
  by_cases hbody : body = .driver number
  · have hreferenced : ({ rig with
        refresher := rig.refresher.recur body, journal } : Rig).isReferenced number = true :=
      Bool.or_eq_true_iff.mpr (.inr (Refresher.owesDriver_recur.mpr (.inl hbody)))
    rw [hreferenced]
    exact h.alive_of_handle (hhandle number hbody)
  · have howes : (rig.refresher.recur body).owesDriver number =
        rig.refresher.owesDriver number := by
      rw [Bool.eq_iff_iff, Refresher.owesDriver_recur, or_iff_right hbody]
    rw [Rig.isReferenced, howes]
    exact h number

theorem sound_ask (routine : Nat) : settling.Sound (Refresher.ask (.once routine)) :=
  fun rig hfinds => ⟨settled_refresher hfinds (rig.refresher.request (.once routine))
    (fun _ => rfl) (Refresher.turnsOf_once_backlog rig.refresher routine) _, rfl, .refl _⟩

theorem sound_repeatedly (routine : Nat) :
    settling.Sound (Refresher.repeatedly routine) :=
  fun rig hfinds => ⟨settled_recur hfinds (fun _ => TaskBody.noConfusion) _, rfl,
    Refresher.keepsTasks_recur rig.refresher _⟩

theorem sound_start (number : Nat) : settling.Sound (Driver.start number) := by
  apply sound_of_look
  intro rig hfinds
  split
  · exact sound_pure _ rig hfinds
  · rename_i hgone
    have hhandle : (rig.driver number).handle = true := by simpa using hgone
    rw [SoundAt, bind_apply, look_apply, Progress.andThen]
    split
    · exact settling.refl hfinds
    · have hrestarted : (rig.restarted number).Settled :=
        hfinds.of_tenures (Rig.tenure_restarted rig number) fun _ => rfl
      have hheld (other : Nat) (hother : TaskBody.driver number = .driver other) :
          ((rig.restarted number).driver other).handle = true := by
        obtain rfl := TaskBody.driver.inj hother
        exact (congrArg Prod.fst (Rig.tenure_restarted rig number number)).trans hhandle
      exact ⟨settled_recur hrestarted hheld _, rfl,
        Refresher.keepsTasks_recur rig.refresher _⟩

theorem sound_halt : settling.Sound Refresher.halt := by
  have hdiary : settling.Ignores .diary := ignores_touch (by decide)
  apply (sound_look _).bind
  intro refresher
  apply (hdiary.sound_log _).seq
  apply (admits_event _).sound.seq
  intro rig hfinds
  have hhoused := housed_refresher hfinds.housed rig.refresher.stop (fun _ => rfl)
    (Refresher.sublist_stop rig.refresher) rig.journal
  exact leaves_retireAbandoned (.value ()) hhoused rfl (.refl rig.refresher)

theorem allowsRefreshes : settling.AllowsRefreshes where
  asks := sound_ask
  repeats := sound_repeatedly
  starts := sound_start
  refreshes := sound_refresh
  halts := sound_halt

/-- Whatever user code orders, it finds drivers settled. -/
theorem soundOrders : settling.SoundOrders := by
  have hloops : settling.Ignores .loops := ignores_touch (by decide)
  have hcontrols : settling.Ignores .controls := ignores_touch (by decide)
  refine soundOrders_of_parts ignoresAll_ambience allowsPacing
    allowsRefreshes.toAllowsRequests allowsMail
    (.of_ignores ignoresAll_ambience (ignores_touch (by decide))) allowsFleet
    (Loop.allowsLoops hloops) ⟨fun order _ => ?_⟩ fun _ _ _ => allowsRefreshes.refreshes
  exact Controls.sound_perform ignoresAll_ambience hcontrols allowsPacing
    allowsRefreshes.toAllowsRequests allowsMail order

end Settling

namespace Rig

variable {rate : Rate} {reportInterval : Nat} {rig : Rig}

theorem settled_fresh : (fresh rate reportInterval).Settled := by
  intro number
  rfl

/-- At every moment of every run exactly those drivers are alive that something refers
to. -/
theorem Becomes.settled (h : (fresh rate reportInterval).Becomes rig) : rig.Settled := by
  induction h with
  | start => exact settled_fresh
  | midway _ hpasses ih =>
      exact Settling.soundOrders.finds_moment hpasses (Script.keepsTo_all _) ih
  | after depth script _ ih =>
      exact (Settling.soundOrders.honoured depth script _ script.keepsTo_all ih).1

end Rig

end Cadence
