import TrackerBoard.Poll.History
import TrackerBoard.Snapshot.Basic

/-!
# The event log

The most recent events of a tracker, oldest first.
-/

namespace TrackerBoard

/-- The most recent events, oldest first. -/
structure EventLog where
  events : List TrackerEvent

namespace EventLog

/-- How many events are kept. -/
def capacity : Nat := 20

/-- No event was recorded yet. -/
def empty : EventLog := ⟨[]⟩

/-- Adds an event; the oldest of too many is dropped. -/
def add (log : EventLog) (event : TrackerEvent) : EventLog :=
  ⟨pushBounded capacity log.events event⟩

/-- Records what happened at a moment. -/
def record (log : EventLog) (time : Instant) (source message : String) : EventLog :=
  log.add ⟨some time, source, message⟩

end EventLog

end TrackerBoard
