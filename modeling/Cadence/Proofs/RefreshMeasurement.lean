import Cadence.Proofs.Journal
import Cadence.Proofs.KeptFacts
import Cadence.Proofs.MeasuringWindows
import Cadence.Proofs.ServedBatches

/-!
The measurement of refreshes.  Every refresh, nested ones included, ticks once, takes the
next index and is told the time since the one that opened before it; so the times add up,
and no refresh is lost or counted twice.
-/

namespace Cadence

open Contract

/-- The frame of a refresh that opens. -/
def Event.openedFrame : Event → List FrameTime
  | .refreshOpened frame _ => [frame]
  | _ => []

/-- The frames of the refreshes that a journal tells of, in the order of their opening. -/
def refreshFrames (journal : List Event) : List FrameTime :=
  chronicle Event.openedFrame journal

@[simp] theorem refreshFrames_opened (frame : FrameTime) (requests : List FrameRequest)
    (older : List Event) :
    refreshFrames (.refreshOpened frame requests :: older) = refreshFrames older ++ [frame] :=
  rfl

theorem refreshFrames_cons {event : Event}
    (h : ∀ frame requests, event ≠ .refreshOpened frame requests) (older : List Event) :
    refreshFrames (event :: older) = refreshFrames older := by
  cases event with
  | refreshOpened frame requests => exact absurd rfl (h frame requests)
  | _ => exact List.append_nil _

namespace Refresher

/-- What a refresh tells its callbacks if others have opened before it. -/
structure Follows (window : Nat) (before : List FrameTime) (frame : FrameTime) : Prop where
  index : frame.index = before.length % indexLimit
  elapsed : frame.elapsed =
    (before.getLast?.map fun last => Duration.since frame.now last.now).getD 0
  measuredRate : frame.measuredRate =
    ((RateMeter.ofWindow window).after ((before ++ [frame]).map (·.now))).rate

/-- What refreshes have been counted and measured to be. -/
def gaugeAfter (window : Nat) (frames : List FrameTime) : Gauge where
  frameIndex := frames.length % indexLimit
  lastFrame := frames.getLast?.map (·.now)
  meter := (RateMeter.ofWindow window).after (frames.map (·.now))

section Opening

variable {window : Nat} {frames : List FrameTime} {refresher : Refresher}

theorem meter_openFrame (h : refresher.gauge = gaugeAfter window frames) (now : Nat) :
    (refresher.openFrame now).2.meter = (RateMeter.ofWindow window).after
      ((frames ++ [(refresher.openFrame now).1]).map (·.now)) := by
  have hmeter : refresher.meter = (RateMeter.ofWindow window).after (frames.map (·.now)) :=
    congrArg Gauge.meter h
  have hticked : (refresher.openFrame now).2.meter = (refresher.meter.tick now).2 := rfl
  rw [List.map_append, List.map_singleton, RateMeter.after_concat, ← hmeter, hticked]
  rfl

/-- A refresh that opens takes the next index and ticks once. -/
theorem gauge_openFrame (h : refresher.gauge = gaugeAfter window frames) (now : Nat) :
    (refresher.openFrame now).2.gauge =
      gaugeAfter window (frames ++ [(refresher.openFrame now).1]) := by
  have hindex : refresher.frameIndex = frames.length % indexLimit :=
    congrArg Gauge.frameIndex h
  rw [gauge, gaugeAfter, ← meter_openFrame h now, List.length_append, List.length_singleton,
    ← Nat.mod_add_mod, ← hindex, List.getLast?_concat]
  rfl

theorem follows_openFrame (h : refresher.gauge = gaugeAfter window frames) (now : Nat) :
    Follows window frames (refresher.openFrame now).1 where
  index := congrArg Gauge.frameIndex h
  elapsed := by
    have hlast : refresher.lastFrame = frames.getLast?.map (·.now) :=
      congrArg Gauge.lastFrame h
    show (refresher.lastFrame.map _).getD 0 = _
    rw [hlast, Option.map_map]
    rfl
  measuredRate := congrArg RateMeter.rate (meter_openFrame h now)

end Opening

/-- A refresh that opens follows the ones before it. -/
def Succeeds (window : Nat) : Event → List Event → Prop
  | .refreshOpened frame _, older => Follows window (refreshFrames older) frame
  | _, _ => True

theorem succeeds_of_not_opened {event : Event}
    (h : ∀ frame requests, event ≠ .refreshOpened frame requests) (window : Nat)
    (older : List Event) : Succeeds window event older := by
  cases event with
  | refreshOpened frame requests => exact absurd rfl (h frame requests)
  | _ => trivial

/-- The times between refreshes add up to the time since the first one. -/
theorem sum_elapsed {window : Nat} {journal : List Event}
    (h : Lawful (Succeeds window) journal)
    (hordered : ((refreshFrames journal).map (·.now)).Pairwise (· ≤ ·))
    {first last : FrameTime} (hfirst : (refreshFrames journal).head? = some first)
    (hlast : (refreshFrames journal).getLast? = some last) :
    first.now + ((refreshFrames journal).map (·.elapsed)).sum = last.now := by
  induction journal generalizing last with
  | nil => cases hfirst
  | cons event journal ih =>
      by_cases hopened : ∃ frame requests, event = .refreshOpened frame requests
      · obtain ⟨frame, requests, rfl⟩ := hopened
        have hfollows : Follows window (refreshFrames journal) frame := h.1
        rw [refreshFrames_opened] at hordered hfirst hlast ⊢
        rw [List.getLast?_concat, Option.some_inj] at hlast
        subst hlast
        rw [List.map_append, List.sum_append, List.map_singleton, List.sum_singleton,
          hfollows.elapsed]
        cases hprevious : (refreshFrames journal).getLast? with
        | none =>
            rw [List.getLast?_eq_none_iff] at hprevious
            rw [hprevious, List.nil_append, List.head?_cons, Option.some_inj] at hfirst
            rw [hprevious, hfirst]
            rfl
        | some previous =>
            have hmem : previous ∈ refreshFrames journal := List.mem_of_getLast? hprevious
            rw [List.head?_append_of_ne_nil _ (List.ne_nil_of_mem hmem)] at hfirst
            rw [List.map_append, List.pairwise_append] at hordered
            have hsum := ih h.2 hordered.1 hfirst hprevious
            have hle : previous.now ≤ frame.now :=
              hordered.2.2 _ (List.mem_map_of_mem hmem) _ List.mem_cons_self
            show first.now + (_ + (frame.now - previous.now)) = frame.now
            omega
      · have hsame : refreshFrames (event :: journal) = refreshFrames journal :=
          refreshFrames_cons (fun frame requests heq => hopened ⟨frame, requests, heq⟩) journal
        rw [hsame] at hordered hfirst hlast ⊢
        exact ih h.2 hordered hfirst hlast

end Refresher

open Refresher

/-- The refresher has counted and measured the refreshes that the journal tells of. -/
structure Rig.Gauges (window : Nat) (rig : Rig) : Prop where
  gauge : rig.refresher.gauge = gaugeAfter window (refreshFrames rig.journal)
  law : Lawful (Succeeds window) rig.journal

namespace Rig.Gauges

variable {window : Nat} {rig : Rig}

theorem note (h : rig.Gauges window) {event : Event}
    (hevent : ∀ frame requests, event ≠ .refreshOpened frame requests) :
    Gauges window { rig with journal := event :: rig.journal } where
  gauge := by
    rw [refreshFrames_cons hevent]
    exact h.gauge
  law := ⟨succeeds_of_not_opened hevent window rig.journal, h.law⟩

theorem opensOnRig (h : rig.Gauges window) (now : Nat) :
    (Refresher.opensOnRig now rig).Gauges window where
  gauge := gauge_openFrame h.gauge now
  law := ⟨follows_openFrame h.gauge now, h.law⟩

end Rig.Gauges

/-- Whatever user code does, every refresh is counted and measured. -/
theorem Rig.soundOrders_gauges (window : Nat) :
    (keeping (Rig.Gauges window) fun _ _ h => ⟨h.gauge, h.law⟩).SoundOrders := by
  have haside : ∀ facet, facet ≠ .refreshes → ∀ rig later, Rig.Touch facet rig later →
      Rig.Gauges window rig → Rig.Gauges window later := by
    intro facet hfacet rig later htouch hrig
    cases htouch with
    | refreshes => exact absurd rfl hfacet
    | event event hevent =>
        refine hrig.note fun frame requests heq => hfacet ?_
        rw [← hevent, heq]
        rfl
    | _ => exact ⟨hrig.gauge, hrig.law⟩
  apply soundOrders_keeping haside
  · intro hturns
    refine .of_admits (fun change hchange => ?_) (fun event _ hevent => ?_) ?_ hturns
    · exact admits_keeping fun rig hrig =>
        ⟨(hchange rig.refresher).trans hrig.gauge, hrig.law⟩
    · exact admits_keeping fun rig hrig => hrig.note hevent
    · exact ignores_keeping (haside .diary Facet.noConfusion)
  · exact fun now rig hrig => hrig.opensOnRig now

namespace Refresher

theorem refreshFrames_journal_opened (now : Nat) (rig : Rig) :
    refreshFrames (opened now rig).journal =
      refreshFrames rig.journal ++ [frameAt now rig] := by
  have hlines (lines : List Log.Line) : refreshFrames (lines.map Event.logged) = [] := by
    rw [refreshFrames, chronicle_map]
    induction lines with
    | nil => rfl
    | cons line lines ih => rw [chronicle_cons, ih]; rfl
  have hnotice : chronicle Event.openedFrame
      ((rig.refresher.measureNotice now).reverse.map Event.logged) = [] := hlines _
  rw [opened, refreshFrames_opened, refreshFrames, chronicle_append, hnotice,
    List.append_nil]
  rfl

/-- What holds of all refreshes that a rig has had. -/
structure MeasuresRefreshes (window : Nat) (moment : Rig) : Prop where
  /-- Each refresh has ticked once, at its time. -/
  meter : moment.refresher.meter = (RateMeter.ofWindow window).after
    ((refreshFrames moment.journal).map (·.now))
  frameIndex : moment.refresher.frameIndex =
    (refreshFrames moment.journal).length % indexLimit
  told : ∀ newer frame requests older,
    moment.journal = newer ++ .refreshOpened frame requests :: older →
      Follows window (refreshFrames older) frame
  /-- Where time has not gone back up to a refresh, none of it is lost. -/
  total : ∀ newer frame requests older,
    moment.journal = newer ++ .refreshOpened frame requests :: older →
      ((refreshFrames older ++ [frame]).map (·.now)).Pairwise (· ≤ ·) →
        ∀ first ∈ (refreshFrames older ++ [frame]).head?,
          ((refreshFrames older ++ [frame]).map (·.elapsed)).sum = frame.now - first.now
  /-- A refresh opens before any of its requests is run. -/
  opens : ∀ now, (frameAt now moment).now = now ∧
    refreshFrames (opened now moment).journal =
      refreshFrames moment.journal ++ [frameAt now moment] ∧
    refresh now moment =
      ((runAll (frameAt now moment) moment.refresher.queue).ensuring closed >>= fun _ =>
        (pure moment.refresher.queue.length : Exec Nat)) (opened now moment)

/-- A meter takes each of its ticks but the first into one window, whatever their times
are.  Whatever user code does, every refresh ticks once, takes the next index, and is
told the time since the one before it, so that these times add up. -/
theorem measuresRefreshes {rate : Rate} {reportInterval : Nat} {moment : Rig}
    (h : (Rig.fresh rate reportInterval).Becomes moment) :
    (∀ length first ticks, RateMeter.Measures length first ticks) ∧
      MeasuresRefreshes reportInterval moment := by
  have hfresh : (Rig.fresh rate reportInterval).Gauges reportInterval := ⟨rfl, trivial⟩
  have hgauges := h.kept (Rig.soundOrders_gauges reportInterval) hfresh
  refine ⟨RateMeter.measures, ⟨congrArg Gauge.meter hgauges.gauge,
    congrArg Gauge.frameIndex hgauges.gauge, fun _ _ _ _ => hgauges.law.of_split, ?_,
    fun now => ⟨rfl, refreshFrames_journal_opened now moment, refresh_apply now moment⟩⟩⟩
  intro newer frame requests older hsplit hordered first hfirst
  have hlaw := hgauges.law
  rw [hsplit] at hlaw
  have hsum := sum_elapsed hlaw.of_append hordered hfirst List.getLast?_concat
  rw [refreshFrames_opened] at hsum
  omega

/-- A refresh in which a callback runs two more, after some time and at once, and one
after it. -/
def nestingClock : Script :=
  .routine (fun _ _ => .order (.clock (.advance 3)) fun _ =>
      .order (.refresh .refresh) fun _ => .order (.refresh .refresh) fun _ => .done .null)
    fun outer =>
      .order (.refresh (.request outer)) fun _ =>
        .order (.clock (.advance 5)) fun _ =>
          .order (.refresh .refresh) fun _ =>
            .order (.clock (.advance 4)) fun _ =>
              .order (.refresh .refresh) fun _ => .done .null

theorem measuresRefreshes_nesting :
    let moment := (nestingClock.playWithin 3 (Rig.fresh .initial 4)).2
    (Rig.fresh .initial 4).Becomes moment ∧
      (refreshFrames moment.journal).map (fun frame => (frame.index, frame.now, frame.elapsed)) =
        [(0, 5, 0), (1, 8, 3), (2, 8, 0), (3, 12, 4)] ∧
      ((∀ length first ticks, RateMeter.Measures length first ticks) ∧
        MeasuresRefreshes 4 moment) := by
  intro moment
  have hbecomes : (Rig.fresh .initial 4).Becomes moment := .after 3 nestingClock .start
  exact ⟨hbecomes, by decide +kernel, measuresRefreshes hbecomes⟩

end Refresher

end Cadence
