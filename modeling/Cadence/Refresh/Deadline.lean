import Cadence.Duration

/-!
When refreshes are due.  The next deadline lies one period after the last one,
or one period after now if that has passed already: missed refreshes are
dropped, not replayed.
-/

namespace Cadence.Refresh

/-- The time between refreshes at a rate; less than one refresh per second, or
no number of them, counts as one. -/
def period (hertz : Binary64) : Nat :=
  let usable := if hertz.isFinite then Binary64.max hertz 1 else 1
  Duration.ofSeconds (1 / usable)

def isDue (deadline now : Nat) : Bool := deadline ≤ now

/-- The deadline after a refresh at `now` that was due at `deadline`. -/
def nextDeadline (period deadline now : Nat) : Nat :=
  if deadline + period ≤ now then now + period else deadline + period

/-- A refresh is never due again at the instant it ran at. -/
theorem lt_nextDeadline {period : Nat} (hpos : 0 < period)
    (deadline now : Nat) : now < nextDeadline period deadline now := by
  unfold nextDeadline
  split <;> omega

/-- The next deadline is at most a period away. -/
theorem nextDeadline_le {period deadline now : Nat}
    (hdue : isDue deadline now = true) :
    nextDeadline period deadline now ≤ now + period := by
  simp only [isDue, decide_eq_true_eq] at hdue
  unfold nextDeadline
  split <;> omega

end Cadence.Refresh
