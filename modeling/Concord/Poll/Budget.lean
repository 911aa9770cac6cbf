import Concord.Poll.Duration

/-!
# Retry budgets

A budget says how often to probe and how long to wait in between.  No agreement can
be observed without a probe, so a budget has at least one.
-/

namespace Concord

/-- How often to probe and how long to wait in between. -/
structure Budget where
  /-- The number of probes. -/
  attempts : Nat
  /-- The time between two probes. -/
  interval : Duration
  /-- There is at least one probe. -/
  attempts_pos : 0 < attempts
  deriving Repr, DecidableEq

namespace Budget

/-- The budget of a number of probes, if there is one. -/
def new? (attempts : Nat) (interval : Duration) : Option Budget :=
  if h : 0 < attempts then some ⟨attempts, interval, h⟩ else none

/-- What is said of a budget without a probe. -/
def noAttemptsText : String := "A retry budget needs at least one attempt"

/-- The budget of a check that does not set one. -/
def standard : Budget := ⟨10, .ofMillis 1000, by decide⟩

/-- The longest time that a budget waits in all, if it is a duration. -/
def totalWait? (b : Budget) : Option Duration :=
  b.interval.times? (b.attempts - 1)

/-- What is said of a total that is not a duration. -/
def overflowText : String := "overflow when multiplying duration by scalar"

end Budget

end Concord
