import Cadence.Proofs.Journal
import Cadence.Proofs.PaceProtocol

/-!
The ledger of the pace: which rate was held at a point of the journal, and what
each observer was told last.
-/

namespace Cadence

/-- The rate that is held after some events: the one stored last. -/
def held (start : Rate) : List Event → Rate
  | [] => start
  | .stored rate :: _ => rate
  | _ :: older => held start older

/-- What an observer was told last. -/
def lastTold (id : ObserverId) : List Event → Option Rate
  | [] => none
  | .told other rate :: older =>
      if other = id then some rate else lastTold id older
  | _ :: older => lastTold id older

/-- Everyone who was told something was told the rate held at that moment. -/
def ToldHeld (start : Rate) (events : List Event) : Prop :=
  ∀ newer id rate older, events = newer ++ .told id rate :: older →
    rate = held start older

/-- The rate that was stored. -/
def Event.stores : Event → List Rate
  | .stored rate => [rate]
  | _ => []

/-- The rate that is held is the one stored last. -/
theorem held_eq_getLast (start : Rate) (events : List Event) :
    held start events = (chronicle Event.stores events).getLast?.getD start := by
  induction events with
  | nil => rfl
  | cons event older ih =>
      rw [chronicle_cons]
      cases event with
      | stored rate =>
          rw [Event.stores, List.getLast?_concat]
          rfl
      | _ =>
          exact ih.trans (congrArg (·.getLast?.getD start) (List.append_nil _).symm)

/-- Who was told which rate. -/
def Event.tells : Event → List (ObserverId × Rate)
  | .told id rate => [(id, rate)]
  | _ => []

/-- Events by which no rate is stored and nobody is told one. -/
def Event.isMute : Event → Bool
  | .stored _ => false
  | .told _ _ => false
  | _ => true

section Mute

variable {start : Rate} {event : Event} {events : List Event}

theorem Event.isMute_of_facet (hpace : event.facet ≠ .pace) :
    event.isMute = true := by
  cases event with
  | stored => exact absurd rfl hpace
  | told => exact absurd rfl hpace
  | _ => rfl

theorem held_of_isMute (hmute : event.isMute = true) :
    held start (event :: events) = held start events := by
  cases event with
  | stored => cases hmute
  | told => cases hmute
  | _ => rfl

theorem lastTold_of_isMute (hmute : event.isMute = true) (id : ObserverId) :
    lastTold id (event :: events) = lastTold id events := by
  cases event with
  | stored => cases hmute
  | told => cases hmute
  | _ => rfl

theorem not_stored_of_isMute (hmute : event.isMute = true) (rate : Rate) :
    .stored rate ≠ event := by
  rintro rfl
  cases hmute

theorem tells_of_isMute (hmute : event.isMute = true) : event.tells = [] := by
  cases event with
  | stored => cases hmute
  | told => cases hmute
  | _ => rfl

theorem ToldHeld.cons (h : ToldHeld start events)
    (hevent : ∀ id rate, event = .told id rate → rate = held start events) :
    ToldHeld start (event :: events) := by
  intro newer id rate older hsplit
  cases newer with
  | nil =>
      obtain ⟨hnew, rfl⟩ := List.cons.inj hsplit
      exact hevent id rate hnew
  | cons head tail => exact h tail id rate older (List.cons.inj hsplit).2

theorem ToldHeld.mute (h : ToldHeld start events) (hmute : event.isMute = true) :
    ToldHeld start (event :: events) := by
  apply h.cons
  rintro id rate rfl
  cases hmute

end Mute

end Cadence
