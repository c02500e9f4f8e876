import TrackerBoard.Log
import TrackerBoard.Snapshot.Basic

/-!
# The channel designator

The monitors hop over the configured channels.  Once a cycle the designator narrows them to those
on which a bandit was traced during the cycle; without a trace it takes all configured channels
again.  The fifth cycle, and every fourth from then on, is a sweep over all of them instead if it
has a trace.
-/

namespace TrackerBoard

/-- The channel designator of a monitor. -/
structure Designator where
  configured : List Int64
  /-- The channels traced during this cycle, in the order of their first trace; all configured
  ones count as traced in the first cycle. -/
  designated : List Int64
  /-- The channels the monitor is on. -/
  active : List Int64
  /-- Whether a bandit was traced during this cycle. -/
  hasContact : Bool
  status : Designation
  /-- How many cycles have passed since the last one that could be a sweep, and that one. -/
  cycles : Nat
deriving DecidableEq

namespace Designator

/-- The number of the first cycle that a trace makes a sweep. -/
def sweepBreak : Nat := 5

/-- The designator before its first cycle. -/
def new (configured : List Int64) : Designator where
  configured := configured
  designated := configured
  active := configured
  hasContact := false
  status := .unlocked
  cycles := 0

/-- A bandit was traced on a channel. -/
def trace (d : Designator) (channel : Int64) : Designator :=
  { d with
    hasContact := true
    designated :=
      if channel ∈ d.designated then d.designated else d.designated ++ [channel] }

/-- What a cycle comes to. -/
def verdict (d : Designator) : Designation :=
  if ¬ d.hasContact then .unlocked
  else if d.cycles = sweepBreak - 1 then .sweeping
  else .locked

/-- The channels that were traced and are configured. -/
def tracedChannels (d : Designator) : List Int64 :=
  d.designated.filter (· ∈ d.configured)

/-- Some channels as they are logged. -/
def channelsText (channels : List Int64) : String :=
  "[" ++ ", ".intercalate (channels.map fun channel => toString channel.toInt) ++ "]"

/-- What is logged about the end of a cycle. -/
def logLine (d : Designator) : Designation → String
  | .unlocked => "No contacts during cycle. Resuming configured channels."
  | .locked =>
    "Contacts recorded during cycle. Designating channels " ++ channelsText d.tracedChannels ++ "."
  | .sweeping => "Starting designator sweep."

/-- Ends a cycle. -/
def designate (d : Designator) : Designator × List LogRecord :=
  let status := d.verdict
  ({ d with
      active := if status = .locked then d.tracedChannels else d.configured
      status := status
      hasContact := false
      designated := []
      cycles := (if d.cycles = sweepBreak - 1 then 0 else d.cycles) + 1 },
    [.info (d.logLine status)])

end Designator

end TrackerBoard
