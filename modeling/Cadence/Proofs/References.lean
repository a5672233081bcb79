import Cadence.Proofs.RefreshTurns

/-!
References to drivers.  A driver is referred to by its handle, by a turn or step of
it, and by a turn of its task that is queued or in a batch under way.  Whoever gives
such a reference up retires the drivers that nothing refers to any more, and then
exactly those are alive that something refers to.
-/

namespace Cadence

open Exec Contract

namespace Refresher

/-- What a task does on its turns. -/
def body? (refresher : Refresher) (task : Nat) : Option TaskBody :=
  refresher.tasks[task]?.map RecurringTask.body

/-- All requests that have not had their turns. -/
def backlog (refresher : Refresher) : List FrameRequest :=
  refresher.queue ++ refresher.batches.flatMap Batch.line

/-- Tasks stay what they are. -/
def KeepsTasks (refresher later : Refresher) : Prop :=
  ∀ task body, refresher.body? task = some body → later.body? task = some body

theorem KeepsTasks.refl (refresher : Refresher) : refresher.KeepsTasks refresher :=
  fun _ _ hbody => hbody

theorem KeepsTasks.trans {refresher middle later : Refresher}
    (hfirst : refresher.KeepsTasks middle) (hsecond : middle.KeepsTasks later) :
    refresher.KeepsTasks later :=
  fun task body hbody => hsecond task body (hfirst task body hbody)

variable {refresher later : Refresher} {task number : Nat}

theorem KeepsTasks.of_eq (h : ∀ task, later.body? task = refresher.body? task) :
    refresher.KeepsTasks later :=
  fun task _ hbody => (h task).trans hbody

/-! ### What is owed -/

theorem any_turn {requests : List FrameRequest} :
    (requests.any fun request => request.work == .turn task) = true ↔
      task ∈ turnsOf requests := by
  rw [List.any_eq_true, mem_turnsOf]
  constructor
  · rintro ⟨⟨ticket, work⟩, hrequest, hwork⟩
    obtain rfl := eq_of_beq hwork
    exact ⟨ticket, hrequest⟩
  · rintro ⟨ticket, hrequest⟩
    exact ⟨_, hrequest, beq_self_eq_true _⟩

theorem owes_batch (batch : Batch) :
    batch.owes task = true ↔ task ∈ turnsOf batch.line := by
  rw [← any_turn, Batch.line, List.any_append, Batch.owes]
  cases batch.current <;> simp

theorem owes_iff : refresher.owes task = true ↔ task ∈ turnsOf refresher.backlog := by
  have hbatches : refresher.batches.any (·.owes task) = true ↔
      task ∈ turnsOf (refresher.batches.flatMap Batch.line) := by
    rw [← any_turn, List.any_flatMap, List.any_eq_true, List.any_eq_true]
    simp only [owes_batch, any_turn]
  rw [owes, Bool.or_eq_true, any_turn, hbatches, backlog, turnsOf_append, List.mem_append]

theorem owesDriver_iff : refresher.owesDriver number = true ↔
    ∃ task, refresher.body? task = some (.driver number) ∧
      task ∈ turnsOf refresher.backlog := by
  simp only [owesDriver, List.any_eq_true, List.mem_range, Bool.and_eq_true, owes_iff]
  refine exists_congr fun task => ?_
  rw [body?]
  constructor
  · rintro ⟨-, hbody, hturn⟩
    cases hentry : refresher.tasks[task]? with
    | none => simp [hentry] at hbody
    | some entry =>
        rw [hentry] at hbody
        exact ⟨congrArg some (eq_of_beq hbody), hturn⟩
  · rintro ⟨hbody, hturn⟩
    obtain ⟨entry, hentry, hdriver⟩ := Option.map_eq_some_iff.mp hbody
    obtain ⟨hsize, -⟩ := Array.getElem?_eq_some_iff.mp hentry
    refine ⟨hsize, ?_, hturn⟩
    rw [hentry, Option.any_some, hdriver]
    exact beq_self_eq_true _

/-- What is owed to drivers depends on the tasks and on their turns. -/
theorem owesDriver_congr (hbodies : ∀ task, later.body? task = refresher.body? task)
    (hturns : turnsOf later.backlog = turnsOf refresher.backlog) :
    later.owesDriver number = refresher.owesDriver number := by
  rw [Bool.eq_iff_iff, owesDriver_iff, owesDriver_iff]
  simp only [hbodies, hturns]

/-- A shorter backlog owes no more. -/
theorem owesDriver_of_sublist (hbodies : ∀ task, later.body? task = refresher.body? task)
    (hbacklog : later.backlog.Sublist refresher.backlog)
    (howes : later.owesDriver number = true) : refresher.owesDriver number = true := by
  obtain ⟨task, hbody, hturn⟩ := owesDriver_iff.mp howes
  refine owesDriver_iff.mpr ⟨task, (hbodies task).symm.trans hbody, ?_⟩
  exact (hbacklog.filterMap _).subset hturn

theorem body?_mark (refresher : Refresher) (task other : Nat) (executing : Bool) :
    (refresher.mark task executing).body? other = refresher.body? other := by
  rw [body?, mark, Array.getElem?_modify]
  split
  · rw [Option.map_map]
    rfl
  · rfl

/-- A new task is the last one. -/
theorem body?_recur (refresher : Refresher) (body : TaskBody) (task : Nat) :
    (refresher.recur body).body? task =
      if task = refresher.tasks.size then some body else refresher.body? task := by
  change ((refresher.tasks.push ⟨body, false⟩)[task]?).map _ = _
  rw [Array.getElem?_push]
  split <;> rfl

theorem keepsTasks_recur (refresher : Refresher) (body : TaskBody) :
    refresher.KeepsTasks (refresher.recur body) := by
  intro task other hbody
  obtain ⟨entry, hentry, -⟩ := Option.map_eq_some_iff.mp hbody
  obtain ⟨hsize, -⟩ := Array.getElem?_eq_some_iff.mp hentry
  rw [body?_recur, if_neg (Nat.ne_of_lt hsize)]
  exact hbody

theorem mem_turnsOf_request {work : FrameWork} :
    task ∈ turnsOf (refresher.request work).backlog ↔
      work = .turn task ∨ task ∈ turnsOf refresher.backlog := by
  have hbacklog : (refresher.request work).backlog =
      refresher.queue ++ [⟨refresher.nextTicket, work⟩] ++
        refresher.batches.flatMap Batch.line := rfl
  have hnew : task ∈ turnsOf [⟨refresher.nextTicket, work⟩] ↔ work = .turn task := by
    rw [← any_turn]
    simp
  rw [hbacklog, backlog, turnsOf_append, turnsOf_append, turnsOf_append]
  simp only [List.mem_append, hnew]
  tauto

theorem turnsOf_once_backlog (refresher : Refresher) (routine : Nat) :
    turnsOf (refresher.request (.once routine)).backlog = turnsOf refresher.backlog := by
  have hbacklog : (refresher.request (.once routine)).backlog =
      refresher.queue ++ [⟨refresher.nextTicket, .once routine⟩] ++
        refresher.batches.flatMap Batch.line := rfl
  rw [hbacklog, backlog, turnsOf_append, turnsOf_append, turnsOf_append, turnsOf_once rfl,
    List.append_nil]

/-- A driver is owed the first turn of its new task. -/
theorem owesDriver_recur {body : TaskBody} :
    (refresher.recur body).owesDriver number = true ↔
      body = .driver number ∨ refresher.owesDriver number = true := by
  have hturns (task : Nat) : task ∈ turnsOf (refresher.recur body).backlog ↔
      task = refresher.tasks.size ∨ task ∈ turnsOf refresher.backlog := by
    refine mem_turnsOf_request.trans (or_congr ?_ Iff.rfl)
    rw [FrameWork.turn.injEq, eq_comm]
  rw [owesDriver_iff, owesDriver_iff]
  constructor
  · rintro ⟨task, hbody, hturn⟩
    rw [body?_recur] at hbody
    split at hbody
    · exact .inl (Option.some.inj hbody)
    · rename_i hold
      exact .inr ⟨task, hbody, ((hturns task).mp hturn).resolve_left hold⟩
  · rintro (rfl | ⟨task, hbody, hturn⟩)
    · refine ⟨refresher.tasks.size, ?_, (hturns _).mpr (.inl rfl)⟩
      rw [body?_recur, if_pos rfl]
    · exact ⟨task, keepsTasks_recur _ _ task _ hbody, (hturns task).mpr (.inr hturn)⟩

theorem backlog_openBatch (refresher : Refresher) (now : Nat) :
    (refresher.openBatch now).2.backlog = refresher.backlog := rfl

theorem sublist_closeBatch (refresher : Refresher) :
    refresher.closeBatch.backlog.Sublist refresher.backlog := by
  refine (List.Sublist.refl _).append ?_
  rw [closeBatch]
  cases refresher.batches with
  | nil => exact .refl _
  | cons batch outer => exact List.sublist_append_right _ _

theorem sublist_stop (refresher : Refresher) :
    refresher.stop.backlog.Sublist refresher.backlog :=
  List.sublist_append_right _ _

section Batches

variable {frame : FrameTime} {request : FrameRequest} {rest : List FrameRequest}
  {outer : List Batch}

theorem batches_beginRequest
    (hbatches : refresher.batches = ⟨frame, none, request :: rest⟩ :: outer) :
    refresher.beginRequest.batches = ⟨frame, some request, rest⟩ :: outer := by
  simp [beginRequest, modifyBatch, hbatches]

theorem batches_endRequest
    (hbatches : refresher.batches = ⟨frame, some request, rest⟩ :: outer) :
    refresher.endRequest.batches = ⟨frame, none, rest⟩ :: outer := by
  simp [endRequest, modifyBatch, hbatches]

/-- The current request is the first of its batch. -/
theorem backlog_beginRequest
    (hbatches : refresher.batches = ⟨frame, none, request :: rest⟩ :: outer) :
    refresher.beginRequest.backlog = refresher.backlog := by
  simp [backlog, beginRequest, modifyBatch, hbatches, Batch.line]

theorem sublist_endRequest
    (hbatches : refresher.batches = ⟨frame, some request, rest⟩ :: outer) :
    refresher.endRequest.backlog.Sublist refresher.backlog := by
  simp [backlog, endRequest, modifyBatch, hbatches, Batch.line]

/-- A turn under way is owed. -/
theorem mem_turnsOf_current
    (hbatches : refresher.batches = ⟨frame, some request, rest⟩ :: outer)
    (hwork : request.work = .turn task) : task ∈ turnsOf refresher.backlog := by
  obtain ⟨ticket, work⟩ := request
  obtain rfl := hwork
  refine mem_turnsOf.mpr ⟨ticket, ?_⟩
  simp [backlog, hbatches, Batch.line]

end Batches

end Refresher

/-- What a driver's life depends on, of what is its own. -/
def Driver.tenure (driver : Driver) : Bool × Bool × Bool :=
  (driver.handle, driver.busy, driver.alive)

@[simp] theorem Driver.tenure_applyPending (driver : Driver) :
    driver.applyPending.tenure = driver.tenure := by
  rw [tenure, handle_applyPending, busy_applyPending, alive_applyPending]
  rfl

namespace Rig

variable {rig later : Rig} {number other : Nat}

/-- A driver is started once more. -/
def restarted (rig : Rig) (number : Nat) : Rig :=
  { rig with
    drivers := rig.drivers.modify number fun driver =>
      { driver with generation := driver.generation + 1 } }

theorem tenure_restarted (rig : Rig) (number other : Nat) :
    ((rig.restarted number).driver other).tenure = (rig.driver other).tenure :=
  Driver.view_modify Driver.tenure
    (fun driver => { driver with generation := driver.generation + 1 }) (fun _ => rfl) rig
    other number

/-- No driver that something refers to has been let go. -/
def Housed (rig : Rig) : Prop :=
  ∀ number, rig.isReferenced number = true → (rig.driver number).alive = true

/-- A driver is alive exactly while something refers to it. -/
def Settled (rig : Rig) : Prop :=
  ∀ number, (rig.driver number).alive = rig.isReferenced number

theorem Settled.housed (h : rig.Settled) : rig.Housed :=
  fun number hreferenced => (h number).trans hreferenced

theorem Settled.alive_of_handle (h : rig.Settled)
    (hhandle : (rig.driver number).handle = true) : (rig.driver number).alive = true := by
  rw [h number, isReferenced, hhandle]
  rfl

theorem Settled.alive_of_owes (h : rig.Settled)
    (howes : rig.refresher.owesDriver number = true) :
    (rig.driver number).alive = true := by
  rw [h number, isReferenced, howes, Bool.or_true]

theorem Settled.of_tenures (h : rig.Settled)
    (htenure : ∀ number, (later.driver number).tenure = (rig.driver number).tenure)
    (howes : ∀ number,
      later.refresher.owesDriver number = rig.refresher.owesDriver number) :
    later.Settled := by
  intro number
  have hkept := htenure number
  simp only [Driver.tenure, Prod.mk.injEq] at hkept
  rw [isReferenced, howes, hkept.1, hkept.2.1, hkept.2.2]
  exact h number

/-- A driver may lose what refers to it, and is still housed. -/
theorem Housed.of_fewer (h : rig.Housed)
    (halive : ∀ number, (later.driver number).alive = (rig.driver number).alive)
    (hreferenced : ∀ number, later.isReferenced number = true →
      rig.isReferenced number = true) : later.Housed :=
  fun number hlater => (halive number).trans (h number (hreferenced number hlater))

/-- A driver that gives up its handle or what keeps it busy is still housed. -/
theorem Housed.modify (h : rig.Housed) {change : Driver → Driver}
    (halive : ∀ driver, (change driver).alive = driver.alive)
    (hhandle : ∀ driver, (change driver).handle = true → driver.handle = true)
    (hbusy : ∀ driver, (change driver).busy = true → driver.busy = true) :
    ({ rig with drivers := rig.drivers.modify number change } : Rig).Housed := by
  have hfewer (view : Driver → Bool)
      (hview : ∀ driver, view (change driver) = true → view driver = true) (other : Nat)
      (hlater : view ((rig.drivers.modify number change)[other]?.getD default) = true) :
      view (rig.driver other) = true := by
    rw [Array.getElem?_modify] at hlater
    rw [driver]
    split at hlater
    · cases hdriver : rig.drivers[other]? with
      | none =>
          rw [hdriver] at hlater
          exact hlater
      | some driver =>
          rw [hdriver] at hlater
          exact hview driver hlater
    · exact hlater
  refine h.of_fewer (fun other => Driver.view_modify Driver.alive change halive rig other
    number) fun other hreferenced => ?_
  simp only [isReferenced, Bool.or_eq_true] at hreferenced ⊢
  exact hreferenced.imp_left (.imp (hfewer Driver.handle hhandle other)
    (hfewer Driver.busy hbusy other))

/-! ### Retirement -/

theorem isReferenced_retire (rig : Rig) (number other : Nat) :
    (rig.retire number).isReferenced other = rig.isReferenced other := by
  have hhandle : ((rig.retire number).driver other).handle =
      (rig.driver other).handle :=
    Driver.view_modify Driver.handle ({ · with alive := false }) (fun _ => rfl) rig other
      number
  have hbusy : ((rig.retire number).driver other).busy = (rig.driver other).busy :=
    Driver.view_modify Driver.busy ({ · with alive := false }) (fun _ => rfl) rig other
      number
  rw [isReferenced, hhandle, hbusy]
  rfl

theorem driver_retire_of_ne (rig : Rig) (h : other ≠ number) :
    (rig.retire number).driver other = rig.driver other := by
  rw [driver, retire, Array.getElem?_modify, if_neg h.symm]
  rfl

theorem alive_retire_self (rig : Rig) (number : Nat) :
    ((rig.retire number).driver number).alive = false := by
  by_contra halive
  have hsize := Driver.size_of_alive (eq_true_of_ne_false halive)
  rw [retire, Array.size_modify] at hsize
  exact halive (congrArg Driver.alive (Driver.driver_modify hsize _))

theorem Housed.retire (h : rig.Housed) (habandoned : rig.isAbandoned number = true) :
    (rig.retire number).Housed := by
  intro other hreferenced
  rw [isReferenced_retire] at hreferenced
  have hne : other ≠ number := by
    rintro rfl
    simp [isAbandoned, hreferenced] at habandoned
  rw [driver_retire_of_ne rig hne]
  exact h other hreferenced

theorem isAbandoned_of_retire (h : (rig.retire number).isAbandoned other = true) :
    rig.isAbandoned other = true ∧ other ≠ number := by
  have hne : other ≠ number := by
    rintro rfl
    simp [isAbandoned, alive_retire_self] at h
  rw [isAbandoned, isReferenced_retire, driver_retire_of_ne rig hne] at h
  exact ⟨h, hne⟩

/-- If those on a list are retired as far as they are abandoned, nobody on it is
abandoned any more. -/
theorem Housed.retireAll (h : rig.Housed) (numbers : List Nat) :
    let later := numbers.foldl
      (fun rig number => if rig.isAbandoned number then rig.retire number else rig) rig
    later.Housed ∧ ∀ number, later.isAbandoned number = true →
      rig.isAbandoned number = true ∧ number ∉ numbers := by
  induction numbers generalizing rig with
  | nil => exact ⟨h, fun _ habandoned => ⟨habandoned, List.not_mem_nil⟩⟩
  | cons first rest ih =>
      rw [List.foldl_cons]
      by_cases hfirst : rig.isAbandoned first = true
      · rw [if_pos hfirst]
        obtain ⟨hhoused, hleft⟩ := ih (h.retire hfirst)
        refine ⟨hhoused, fun number habandoned => ?_⟩
        obtain ⟨hretired, hrest⟩ := hleft number habandoned
        obtain ⟨hbefore, hne⟩ := isAbandoned_of_retire hretired
        exact ⟨hbefore, List.not_mem_cons_of_ne_of_not_mem hne hrest⟩
      · rw [if_neg hfirst]
        obtain ⟨hhoused, hleft⟩ := ih h
        refine ⟨hhoused, fun number habandoned => ?_⟩
        obtain ⟨hbefore, hrest⟩ := hleft number habandoned
        have hne : number ≠ first := by
          rintro rfl
          exact hfirst hbefore
        exact ⟨hbefore, List.not_mem_cons_of_ne_of_not_mem hne hrest⟩

theorem Housed.settled (h : rig.Housed)
    (habandoned : ∀ number, rig.isAbandoned number ≠ true) : rig.Settled := by
  intro number
  refine Bool.eq_iff_iff.mpr ⟨fun halive => ?_, h number⟩
  by_contra hreferenced
  refine habandoned number ?_
  rw [isAbandoned, halive, eq_false_of_ne_true hreferenced]
  rfl

/-- After the abandoned ones have been retired, exactly those are alive that something
refers to. -/
theorem Housed.settles (h : rig.Housed) : rig.retireAbandoned.Settled := by
  obtain ⟨hhoused, hleft⟩ := h.retireAll (List.range rig.drivers.size)
  refine hhoused.settled fun number habandoned => ?_
  obtain ⟨hbefore, hrange⟩ := hleft number habandoned
  have halive : (rig.driver number).alive = true := (Bool.and_eq_true_iff.mp hbefore).1
  exact hrange (List.mem_range.mpr (Driver.size_of_alive halive))

end Rig

end Cadence
