import TrackerBoard.Text.Occurrence
import TrackerBoard.Time.Instant

/-!
# Status snapshots

A snapshot is what a tracker says of itself at one moment: how well it hears its leader, whether
its devices live, which channels its monitors are on, and, while it tracks a bandit, what it knows
of it.  Every field has a default, so that a snapshot can be made of whatever a tracker sends.
-/

namespace TrackerBoard

/-- The state names that a tracker uses. -/
inductive TrackerState where
  | online
  | weak
  | outOfSync
  | dark
deriving DecidableEq, Repr

/-- The name of a state. -/
def TrackerState.name : TrackerState → String
  | online => "ONLINE"
  | weak => "WEAK"
  | outOfSync => "OUT_OF_SYNC"
  | dark => "DARK"

/-- Whether one of the names contains the token. -/
def mentions (names : List String) (token : String) : Bool :=
  names.any fun name => occursIn token.toList name.toList

/-- The channels that the monitors are on: how many, or which. -/
inductive Channels where
  | count (n : Int64)
  | list (channels : List Int64)
deriving DecidableEq

/-- What the channel designator does. -/
inductive Designation where
  | unlocked
  | locked
  | sweeping
deriving DecidableEq, Repr

/-- The name of a designation. -/
def Designation.name : Designation → String
  | unlocked => "UNLOCKED"
  | locked => "LOCKED"
  | sweeping => "SWEEPING"

/-- The designation of a name. -/
def Designation.ofName? (name : String) : Option Designation :=
  [unlocked, locked, sweeping].find? (·.name == name)

/-- An entry of the tracker's event log. -/
structure TrackerEvent where
  timestamp : Option Instant := none
  source : String := ""
  message : String := ""
deriving DecidableEq

/-- A tracker's status at one moment. -/
structure Snapshot where
  clock : Option Instant := none
  /-- State names; a tracker may also send all of them in one string. -/
  trackerState : List String := []
  leaderSignalStrength : Int64 := 0
  trackerDeviceLive : Bool := false
  monitorsLive : Bool := false
  channels : Option Channels := none
  channelDesignation : Option Designation := none
  isTracking : Bool := false
  trackingTarget : Option String := none
  track : Option String := none
  trackFrames : UInt64 := 0
  trackContact : Option Instant := none
  banditSignal : Option Int64 := none
  /-- Oldest first. -/
  events : List TrackerEvent := []
deriving DecidableEq

namespace Snapshot

/-- The identifier of the active track; an empty one is no contact. -/
def activeTrack (s : Snapshot) : Option String := s.track.filter (· ≠ "")

/-- The name of the target, unless it is empty. -/
def target (s : Snapshot) : Option String := s.trackingTarget.filter (· ≠ "")

end Snapshot

end TrackerBoard
