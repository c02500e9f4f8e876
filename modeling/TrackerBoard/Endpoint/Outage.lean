/-!
# Outages

An outage schedule takes the endpoint down for the last steps of every period.  Steps are counted
from one.
-/

namespace TrackerBoard

/-- When the endpoint is down. -/
structure OutageSchedule where
  /-- The length of a period; without one the endpoint is never down. -/
  every : Option UInt64
  /-- How many steps at the end of a period are down. -/
  length : UInt64
deriving DecidableEq

namespace OutageSchedule

/-- The schedule with a period; a period of no steps is none. -/
def new (every : Option UInt64) (length : UInt64) : OutageSchedule :=
  ⟨every.filter (0 < ·), length⟩

/-- The first step of a period, counted from zero, that is down. -/
def firstDown (every length : UInt64) : UInt64 :=
  if length ≤ every then every - length else 0

/-- Whether the endpoint is down at a step. -/
def isDown (s : OutageSchedule) (step : UInt64) : Bool :=
  match s.every with
  | some every => 0 < step ∧ firstDown every s.length ≤ (step - 1) % every
  | none => false

end OutageSchedule

end TrackerBoard
