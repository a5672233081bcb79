import Cadence.Proofs.OrderFrame

/-!
Keys in, commands out.  A pump applies the commands of all keys that had arrived when it
looked, in the order of their arrival, and drops what arrives between its look and its
flush; everything else is applied exactly once, by that pump or a later one.
-/

namespace Cadence

open Exec Contract

namespace Input

/-- The commands that a source holds: those that have been read, and those of events
that have not. -/
def commands (input : Input) : List Command := input.peek.1

@[simp] theorem commands_empty : empty.commands = [] := rfl

@[simp] theorem commands_arrive (input : Input) (events : List TerminalEvent) :
    (input.arrive events).commands =
      input.commands ++ events.filterMap TerminalEvent.command? := by
  simp [commands, peek, readEvents, arrive]

@[simp] theorem arrive_nil (input : Input) : input.arrive [] = input := by
  simp [arrive]

/-- What has arrived since a source was in an earlier state, if nothing has been read
since then. -/
def since (later earlier : Input) : List TerminalEvent :=
  later.waiting.drop earlier.waiting.length

@[simp] theorem since_arrive (input : Input) (events : List TerminalEvent) :
    (input.arrive events).since input = events := by
  simp [since, arrive]

theorem arrive_arrive (input : Input) (first second : List TerminalEvent) :
    (input.arrive first).arrive second = input.arrive (first ++ second) := by
  simp [arrive]

end Input

/-- The command that was applied. -/
def Event.command? : Event → Option Command
  | .applied command => some command
  | _ => none

/-- The commands that have been applied, the first one first. -/
def appliedCommands (journal : List Event) : List Command :=
  (journal.filterMap Event.command?).reverse

theorem appliedCommands_applied (command : Command) (older : List Event) :
    appliedCommands (.applied command :: older) = appliedCommands older ++ [command] := by
  simp [appliedCommands, Event.command?]

theorem appliedCommands_of_facet {event : Event} (hfacet : event.facet ≠ .controls)
    (older : List Event) : appliedCommands (event :: older) = appliedCommands older := by
  cases event with
  | applied command => exact absurd rfl hfacet
  | _ => rfl

theorem appliedCommands_logged (lines : List Log.Line) (older : List Event) :
    appliedCommands (lines.map Event.logged ++ older) = appliedCommands older := by
  induction lines with
  | nil => rfl
  | cons line rest ih =>
      rw [← ih]
      exact appliedCommands_of_facet (by simp [Event.facet]) _

/-- Orders that leave the taking of keys and the applying of commands to others; they may
type. -/
def Order.mayType : Order → Bool
  | .control (.apply _) => false
  | .control (.pump _) => false
  | .control (.peek .keyboard) => false
  | .control (.flush .keyboard) => false
  | _ => true

/-! ### User code that may type -/

namespace Typing

/-- Keys have arrived, and no commands were applied. -/
structure Typed (rig later : Rig) : Prop where
  keyboard : ∃ events, later.keyboard = rig.keyboard.arrive events
  applied : appliedCommands later.journal = appliedCommands rig.journal
  keeps : later.KeepsTo (·.mayType = true)

theorem Typed.trans {rig middle later : Rig} (hfirst : Typed rig middle)
    (hsecond : Typed middle later) : Typed rig later := by
  obtain ⟨first, hfirstkeys⟩ := hfirst.keyboard
  obtain ⟨second, hsecondkeys⟩ := hsecond.keyboard
  refine ⟨⟨first ++ second, ?_⟩, hsecond.applied.trans hfirst.applied, hsecond.keeps⟩
  rw [hsecondkeys, hfirstkeys, Input.arrive_arrive]

/-- What neither takes keys nor applies commands. -/
theorem Typed.of_eq {rig later : Rig} (hkeeps : rig.KeepsTo (·.mayType = true))
    (hcourses : later.courses = rig.courses) (hkeyboard : later.keyboard = rig.keyboard)
    (happlied : appliedCommands later.journal = appliedCommands rig.journal) :
    Typed rig later := by
  refine ⟨⟨[], ?_⟩, happlied, hkeeps.of_courses hcourses⟩
  rw [hkeyboard, Input.arrive_nil]

end Typing

open Typing in
/-- User code that may type. -/
def typing : Contract where
  allowed order := order.mayType = true
  finds rig := rig.KeepsTo (·.mayType = true)
  leaves rig _ later := Typed rig later
  refl hkeeps := .of_eq hkeeps rfl rfl rfl
  trans := Typed.trans
  keeps _ htyped := htyped.keeps
  bound := id
  enrolls hkeeps hcourse := by
    refine ⟨⟨[], ?_⟩, rfl, hkeeps.enroll hcourse⟩
    rw [Input.arrive_nil]
    rfl

namespace Typing

theorem ignores {facet : Facet} (hfacet : facet ≠ .controls) : typing.Ignores facet := by
  intro rig ending middle later htyped htouch
  have hcourses := htouch.courses
  have hkept {later : Rig} (hcourses : later.courses = middle.courses)
      (hkeyboard : later.keyboard = middle.keyboard)
      (happlied : appliedCommands later.journal = appliedCommands middle.journal) :
      Typed rig later :=
    htyped.trans (.of_eq htyped.keeps hcourses hkeyboard happlied)
  cases htouch with
  | controls => exact absurd rfl hfacet
  | event event hevent =>
      refine hkept hcourses rfl (appliedCommands_of_facet ?_ _)
      rw [hevent]
      exact hfacet
  | _ => exact hkept hcourses rfl rfl

theorem ignoresAll {facets : List Facet} (hfacets : Facet.controls ∉ facets) :
    typing.IgnoresAll facets :=
  fun _ hfacet => ignores fun heq => hfacets (heq ▸ hfacet)

theorem allowsTurns : typing.AllowsTurns :=
  .of_ignores (ignoresAll (by decide)) (ignores (by decide)) (ignores (by decide))
    (ignores (by decide))

theorem allowsPacing : typing.AllowsPacing :=
  .of_ignores (ignores (by decide)) (ignores (by decide)) (ignores (by decide))
    (ignores (by decide))

theorem allowsMail : typing.AllowsMail :=
  Mailbox.allowsMail (ignoresAll (by decide)) (ignores (by decide)) allowsTurns

theorem allowsRefreshes : typing.AllowsRefreshes :=
  .of_ignores (ignores (by decide)) (ignoresAll (by decide)) allowsTurns

/-- The controls may change in anything but the keys. -/
theorem admits_controls (stepTag : Rig → Option Tag) (canned : Rig → Input) :
    typing.Admits fun rig => { rig with stepTag := stepTag rig, canned := canned rig } :=
  fun _ _ _ htyped => htyped.trans (.of_eq htyped.keeps rfl rfl rfl)

theorem allowsControls : typing.AllowsControls where
  controls order hallowed := by
    have hdiary : typing.Ignores .diary := ignores (by decide)
    have hcanned (input : Input) :
        typing.Sound (update (Controls.withSource input .canned)) :=
      (admits_controls (·.stepTag) fun _ => input).sound
    cases order with
    | setStep tag => exact (admits_controls (fun _ => some tag) (·.canned)).sound
    | apply command => cases hallowed
    | arrive events =>
        refine fun rig hkeeps => ⟨⟨events, rfl⟩, rfl, ?_⟩
        exact hkeeps.of_courses rfl
    | load commands =>
        exact (admits_controls (·.stepTag) fun _ => .ofCommands commands).sound
    | peek name =>
        cases name with
        | keyboard => cases hallowed
        | canned =>
            apply (sound_look _).bind
            intro input
            apply (hdiary.sound_log _).seq
            exact (hcanned _).bind fun _ => sound_pure _
    | flush name =>
        cases name with
        | keyboard => cases hallowed
        | canned =>
            apply (sound_look _).bind
            intro input
            exact (hdiary.sound_log _).seq (hcanned _)
    | pump name => cases hallowed

theorem soundOrders : typing.SoundOrders :=
  soundOrders_of_parts (ignoresAll (by decide)) allowsPacing
    allowsRefreshes.toAllowsRequests allowsMail
    (.of_ignores (ignoresAll (by decide)) (ignores (by decide)))
    (.of_ignores (ignores (by decide)) (ignores (by decide)) allowsTurns)
    (Loop.allowsLoops (ignores (by decide))) allowsControls
    fun _ _ _ => allowsRefreshes.refreshes

end Typing

/-! ### Pumps -/

namespace Controls

open Typing

/-- A pump of the keyboard, while some events arrive between its look and its flush. -/
def pumpAround (amid : List TerminalEvent) : Exec Nat := do
  let step ← look (·.stepTag)
  let commands ← peek .keyboard
  update fun rig => { rig with keyboard := rig.keyboard.arrive amid }
  flush .keyboard
  applyAll step commands
  return commands.length

/-- A pump is a look, a flush, and then the commands of the look. -/
theorem pump_eq_pumpAround : pump .keyboard = pumpAround [] := by
  apply Exec.ext
  intro rig
  simp [pump, pumpAround, peek, flush, source, withSource, Progress.andThen,
    Input.pump_eq, Input.flush_eq_empty, Input.readNotices, Input.peek, Input.readEvents]

variable {rig later : Rig}

/-- Commands are applied one after the other.  If none of their effects is cut short,
all of them are. -/
theorem respects_applyAll (step : Option Tag) (commands : List Command)
    (hkeeps : rig.KeepsTo (·.mayType = true)) :
    (applyAll step commands rig).Respects typing fun ending later =>
      (∃ events, later.keyboard = rig.keyboard.arrive events) ∧
        later.KeepsTo (·.mayType = true) ∧
          (ending.isValue = true →
            appliedCommands later.journal = appliedCommands rig.journal ++ commands) := by
  induction commands generalizing rig with
  | nil => exact ⟨⟨[], (Input.arrive_nil _).symm⟩, hkeeps, fun _ => by simp⟩
  | cons command rest ih =>
      obtain ⟨effect, hsound, heffect⟩ := exists_effect (ignoresAll (by decide))
        allowsPacing allowsRefreshes.toAllowsRequests allowsMail step command
      have hnoted : ({ rig with journal := .applied command :: rig.journal } :
          Rig).KeepsTo (·.mayType = true) := hkeeps.of_courses rfl
      rw [applyAll, heffect, bind_apply, bind_apply, record_apply, Progress.andThen,
        Progress.respects_andThen]
      refine Progress.Respects.imp ?_ (hsound _ hnoted)
      intro ending middle hmiddle
      obtain ⟨first, hfirst⟩ := hmiddle.keyboard
      have happlied := hmiddle.applied
      rw [appliedCommands_applied] at happlied
      cases ending with
      | panicked cause => exact ⟨⟨first, hfirst⟩, hmiddle.keeps, fun h => by cases h⟩
      | exhausted => exact ⟨⟨first, hfirst⟩, hmiddle.keeps, fun h => by cases h⟩
      | value answer =>
          refine (ih hmiddle.keeps).imp fun ending later hlater => ?_
          obtain ⟨⟨second, hsecond⟩, hkept, hall⟩ := hlater
          refine ⟨⟨first ++ second, ?_⟩, hkept, fun hvalue => ?_⟩
          · rw [hsecond, hfirst, Input.arrive_arrive]
          · rw [hall hvalue, happlied, List.append_assoc]
            rfl

/-- A pump takes its look and its flush by itself, and then applies the commands of
the look to a rig without keys. -/
theorem pumpAround_eq (amid : List TerminalEvent) (rig : Rig) :
    ∃ lines : List Log.Line, pumpAround amid rig =
      (applyAll rig.stepTag rig.keyboard.commands
        { rig with
          keyboard := .empty
          journal := lines.map Event.logged ++ rig.journal }).andThen
        fun _ => (pure rig.keyboard.commands.length : Exec Nat) := by
  refine ⟨(rig.keyboard.readNotices ++
    (rig.keyboard.peek.2.arrive amid).readNotices).reverse, ?_⟩
  simp [pumpAround, peek, flush, source, withSource, Progress.andThen, Input.commands,
    Input.flush_eq_empty]
  rfl

/-- A pump that is not cut short applies what had arrived when it looked, and leaves
what has arrived since its flush. -/
theorem applied_of_pumpAround {depth : Nat} {amid : List TerminalEvent}
    {ending : Ending Nat} (hkeeps : rig.KeepsTo (·.mayType = true))
    (hpump : (pumpAround amid rig).run (Script.playWithin depth) = (ending, later))
    (hvalue : ending.isValue = true) :
    appliedCommands later.journal =
        appliedCommands rig.journal ++ rig.keyboard.commands ∧
      (∃ events, later.keyboard = Input.empty.arrive events) ∧
        later.KeepsTo (·.mayType = true) := by
  obtain ⟨lines, heq⟩ := pumpAround_eq amid rig
  have hdrained : ({ rig with
      keyboard := .empty
      journal := lines.map Event.logged ++ rig.journal } : Rig).KeepsTo
        (·.mayType = true) := hkeeps.of_courses rfl
  have happlies := respects_applyAll rig.stepTag rig.keyboard.commands hdrained
  have hruns : (pumpAround amid rig).Respects typing fun ending later =>
      ending.isValue = true →
        appliedCommands later.journal =
            appliedCommands rig.journal ++ rig.keyboard.commands ∧
          (∃ events, later.keyboard = Input.empty.arrive events) ∧
            later.KeepsTo (·.mayType = true) := by
    rw [heq, Progress.respects_andThen]
    refine Progress.Respects.imp ?_ happlies
    rintro (_ | cause | _) middle ⟨hkeyboard, hkept, happlied⟩
    · intro _
      refine ⟨?_, hkeyboard, hkept⟩
      rw [happlied rfl, appliedCommands_logged]
    · intro hvalue
      cases hvalue
    · intro hvalue
      cases hvalue
  have hend := hruns.run (soundOrders.honoured depth)
  rw [hpump] at hend
  exact hend hvalue

/-- An event that has arrived.  It is amid a pump if it arrived between the look and
the flush of one. -/
structure Arrival where
  event : TerminalEvent
  amid : Bool

/-- The commands of those events that did not arrive amid a pump. -/
def heard (arrivals : List Arrival) : List Command :=
  (arrivals.filter (!·.amid)).filterMap (·.event.command?)

/-- Pumps of the keyboard, each around what arrives amid it, and scripts in between and
from the effects of commands, which may type.  The events are listed as they arrive. -/
inductive Pumps (depth : Nat) : Rig → List Arrival → Rig → Prop
  | still {rig : Rig} : Pumps depth rig [] rig
  | elsewhere {script : Script} {rig middle later : Rig} {arrivals ending} :
      script.KeepsTo (·.mayType = true) →
      script.playWithin depth rig = (ending, middle) →
      Pumps depth middle arrivals later →
      Pumps depth rig
        ((middle.keyboard.since rig.keyboard).map (Arrival.mk · false) ++ arrivals) later
  | pump {amid ending arrivals} {rig middle later : Rig} :
      (pumpAround amid rig).run (Script.playWithin depth) = (ending, middle) →
      ending.isValue = true →
      Pumps depth middle arrivals later →
      Pumps depth rig
        (amid.map (Arrival.mk · true) ++
          ((middle.keyboard.since .empty).map (Arrival.mk · false) ++ arrivals)) later

@[simp] theorem heard_append (first second : List Arrival) :
    heard (first ++ second) = heard first ++ heard second := by
  simp [heard]

@[simp] theorem heard_amid (events : List TerminalEvent) :
    heard (events.map (Arrival.mk · true)) = [] := by
  simp [heard]

@[simp] theorem heard_elsewhere (events : List TerminalEvent) :
    heard (events.map (Arrival.mk · false)) =
      events.filterMap TerminalEvent.command? := by
  have hkept : (events.map (Arrival.mk · false)).filter (!·.amid) =
      events.map (Arrival.mk · false) :=
    List.filter_eq_self.mpr (by simp)
  simp only [heard, hkept, List.filterMap_map]
  rfl

/-- The commands of all events are heard exactly when no event amid a pump has one. -/
theorem heard_eq_iff (arrivals : List Arrival) :
    heard arrivals = arrivals.filterMap (·.event.command?) ↔
      ∀ arrival ∈ arrivals, arrival.amid = true → arrival.event.command? = none := by
  induction arrivals with
  | nil => simp [heard]
  | cons arrival rest ih =>
      have hfewer : (heard rest).length ≤
          (rest.filterMap (·.event.command?)).length :=
        (List.filter_sublist.filterMap _).length_le
      obtain ⟨event, amid⟩ := arrival
      cases amid with
      | false => cases hcommand : event.command? <;> simp_all [heard]
      | true =>
          cases hcommand : event.command? with
          | none => simp_all [heard]
          | some command =>
              -- One command of the first event is missing, and no other is there twice.
              have hne : heard rest ≠ command :: rest.filterMap (·.event.command?) := by
                intro heq
                rw [heq, List.length_cons] at hfewer
                omega
              simp_all [heard]

/-- Commands that wait are applied before those of later arrivals, and nothing is
dropped but what arrives amid a pump. -/
theorem Pumps.balance {depth : Nat} {arrivals : List Arrival}
    (hpumps : Pumps depth rig arrivals later)
    (hkeeps : rig.KeepsTo (·.mayType = true)) :
    appliedCommands later.journal ++ later.keyboard.commands =
      appliedCommands rig.journal ++ rig.keyboard.commands ++ heard arrivals := by
  induction hpumps with
  | still => simp [heard]
  | @elsewhere script rig middle later arrivals ending hscript hplay _ ih =>
      have htyped := soundOrders.honoured depth script rig hscript hkeeps
      rw [hplay] at htyped
      obtain ⟨events, hevents⟩ := htyped.keyboard
      rw [ih htyped.keeps, htyped.applied, hevents, Input.since_arrive,
        Input.commands_arrive, heard_append, heard_elsewhere]
      simp
  | @pump amid ending arrivals rig middle later hpump hvalue _ ih =>
      obtain ⟨happlied, ⟨events, hevents⟩, hkept⟩ := applied_of_pumpAround hkeeps hpump hvalue
      rw [ih hkept, happlied, hevents, Input.since_arrive, Input.commands_arrive,
        heard_append, heard_append, heard_amid, heard_elsewhere]
      simp

/-- For every state of the keyboard and however events arrive around, between and amid
pumps: the commands that have been applied, and then those that wait, are the ones that
had been applied or waited at the start and then those of the events that did not arrive
amid a pump, each once and in the order of arrival.  So the commands of all events are
applied, once and in order, if and only if no event amid a pump has one. -/
theorem drains {depth : Nat} {arrivals : List Arrival}
    (hpumps : Pumps depth rig arrivals later)
    (hkeeps : rig.KeepsTo (·.mayType = true)) :
    let before := appliedCommands rig.journal ++ rig.keyboard.commands
    let after := appliedCommands later.journal ++ later.keyboard.commands
    after = before ++ heard arrivals ∧
      (after = before ++ arrivals.filterMap (·.event.command?) ↔
        ∀ arrival ∈ arrivals, arrival.amid = true → arrival.event.command? = none) := by
  intro before after
  have hbalance : after = before ++ heard arrivals := hpumps.balance hkeeps
  refine ⟨hbalance, ?_⟩
  rw [hbalance, List.append_cancel_left_eq, heard_eq_iff]

/-- The plus key is pressed. -/
def pressing : Script :=
  .order (.control (.arrive [.key (.char '+') false])) fun _ => .done .null

def pressedRig : Rig :=
  (pressing.playWithin 2 (.fresh .initial Duration.perSecond)).2

/-- The rig after a pump amid which somebody asks to quit. -/
def pumpedRig : Rig :=
  ((pumpAround [.key (.char 'q') false] pressedRig).run (Script.playWithin 2)).2

/-- A second pump has nothing to apply: what somebody asked for amid the first one is
lost. -/
theorem not_drains_quitting :
    let arrivals : List Arrival :=
      [⟨.key (.char '+') false, false⟩, ⟨.key (.char 'q') false, true⟩]
    let later := ((pump .keyboard pumpedRig).run (Script.playWithin 2)).2
    Pumps 2 (.fresh .initial Duration.perSecond) arrivals later ∧
      appliedCommands later.journal ++ later.keyboard.commands = [.moreCycles] ∧
        arrivals.filterMap (·.event.command?) = [.moreCycles, .quit] := by
  intro arrivals later
  have hfirst : ((pumpAround [.key (.char 'q') false] pressedRig).run
      (Script.playWithin 2)).1.isValue = true := by decide +kernel
  have hsecond : ((pumpAround [] pumpedRig).run
      (Script.playWithin 2)).1.isValue = true := by decide +kernel
  have hlast : Pumps 2 pumpedRig [] later :=
    .pump (by rw [← pump_eq_pumpAround]) hsecond .still
  have hboth : Pumps 2 pressedRig [⟨.key (.char 'q') false, true⟩] later :=
    .pump rfl hfirst hlast
  have hpressing : pressing.KeepsTo (·.mayType = true) := ⟨rfl, fun _ => trivial⟩
  have hpumps : Pumps 2 (.fresh .initial Duration.perSecond) arrivals later :=
    .elsewhere hpressing rfl hboth
  have hdrains := (drains hpumps (Rig.keepsTo_fresh _ _ _)).1
  exact ⟨hpumps, hdrains, rfl⟩

end Controls

end Cadence
