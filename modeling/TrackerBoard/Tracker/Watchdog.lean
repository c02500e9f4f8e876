import TrackerBoard.Snapshot.Basic

/-!
# The watchdog

The watchdog keeps the last ping of the leader and judges the link by it.  Without a ping, or
with one that is too old, the link is dark.  Otherwise it is online; it is weak as well if the
ping was weak, and out of sync if the leader knows another list of bandits than the tracker.
-/

namespace TrackerBoard

/-- A ping of the leader. -/
structure Ping where
  receivedAt : Instant
  rssi : Int64
  /-- Which list of bandits the leader knows. -/
  banditHash : String

/-- The last ping, if there was one. -/
structure Watchdog where
  lastPing : Option Ping

namespace Watchdog

/-- The age in seconds from which a ping counts for nothing. -/
def timeout : Nat := 20

/-- The strength below which a ping is weak. -/
def weakThreshold : Int64 := 50

/-- No ping was received yet. -/
def new : Watchdog := ⟨none⟩

/-- A ping was received. -/
def registerPing (_ : Watchdog) (ping : Ping) : Watchdog := ⟨some ping⟩

/-- The strength of the last ping, 0 if there was none. -/
def leaderRssi (w : Watchdog) : Int64 := (w.lastPing.map (·.rssi)).getD 0

/-- The states of a link whose last ping is recent. -/
def liveStates (ping : Ping) (banditHash : String) : List TrackerState :=
  [.online] ++ (if ping.rssi < weakThreshold then [.weak] else []) ++
    (if ping.banditHash ≠ banditHash then [.outOfSync] else [])

/-- The states of the link at `now`, for a tracker with the given list of bandits.  There is no
answer when the moment from which pings count is out of range. -/
def evaluate? (w : Watchdog) (now : Instant) (banditHash : String) : Option (List TrackerState) :=
  match w.lastPing with
  | none => some [.dark]
  | some ping =>
    (now.before? timeout).map fun limit =>
      if ping.receivedAt.isUpTo limit then [.dark] else liveStates ping banditHash

end Watchdog

end TrackerBoard
