import TrackerBoard.Frame.Indicator
import TrackerBoard.Frame.Label
import TrackerBoard.Snapshot.Basic
import TrackerBoard.Time.Clock

/-!
# Frames

A frame is everything the dashboard shows of one snapshot.  Each cell is a function of the few
fields it speaks of (`Frame.ofSnapshot`).  What is known of a bandit shows only while the tracker
tracks, and only once there is a track; times of day are shown in a given zone.
-/

namespace TrackerBoard

/-- The cells that speak of tracking. -/
structure TrackingCells where
  task : Indicator
  target : Indicator
  track : Indicator
  frameCount : Indicator
  contactTime : Indicator
  banditSignal : Indicator
deriving DecidableEq, Repr

/-- Everything shown for one snapshot. -/
structure Frame where
  connection : Indicator
  signal : Indicator
  deviceLink : Indicator
  monitorsLink : Indicator
  channels : Indicator
  designator : Indicator
  tracking : TrackingCells
  /-- Newest first. -/
  events : List String
deriving DecidableEq, Repr

/-- The cell of the connection state: a weak link is shown as weak, whether or not it is also
said to be online. -/
def connectionCell (states : List String) : Indicator :=
  if mentions states TrackerState.weak.name then ⟨"WEAK", .yellow⟩
  else if mentions states TrackerState.online.name then ⟨"ONLINE", .green⟩
  else ⟨"DARK", .red⟩

/-- The cell of the leader's signal strength, which a dark link does not have. -/
def signalCell (states : List String) (strength : Int64) : Indicator :=
  if (connectionCell states).label = "DARK" then .notAvailable
  else ⟨toString (signalPercent strength).toInt ++ "%", .neutral⟩

/-- The cell of something that lives or does not. -/
def linkCell (live : Bool) : Indicator :=
  if live then ⟨"ONLINE", .green⟩ else ⟨"OFFLINE", .red⟩

/-- The cell of the channels: their number, or all of them. -/
def channelsCell : Option Channels → Indicator
  | some (.count n) => ⟨toString n.toInt, .neutral⟩
  | some (.list channels) =>
    ⟨",".intercalate (channels.map fun channel => toString channel.toInt), .neutral⟩
  | none => .notAvailable

/-- The cell of the channel designator. -/
def designatorCell : Option Designation → Indicator
  | some .unlocked => ⟨Designation.unlocked.name, .neutral⟩
  | some .locked => ⟨Designation.locked.name, .green⟩
  | some .sweeping => ⟨Designation.sweeping.name, .yellow⟩
  | none => ⟨"Unknown", .red⟩

/-- The cell of a signal in dBm. -/
def dbmCell (dbm : Int64) : Indicator := ⟨toString dbm.toInt ++ " dBm", .neutral⟩

namespace TrackingCells

/-- The cells without contact to a bandit. -/
def withoutContact (task target track : Indicator) : TrackingCells where
  task := task
  target := target
  track := track
  frameCount := .notAvailable
  contactTime := .notAvailable
  banditSignal := .notAvailable

/-- The cells of a tracker that does not track. -/
def idle : TrackingCells :=
  withoutContact ⟨"NONE", .inactive⟩ ⟨"NONE", .inactive⟩ .notAvailable

/-- The cells of a snapshot. -/
def ofSnapshot (s : Snapshot) (zone : Zone) : TrackingCells :=
  if s.isTracking then
    let task : Indicator := ⟨"TRACKING", .green⟩
    let target := Indicator.ofOption (⟨·, .neutral⟩) s.target
    match s.activeTrack with
    | none => withoutContact task target ⟨"NO CTCT", .red⟩
    | some track =>
      { task := task
        target := target
        track := ⟨track, .green⟩
        frameCount := ⟨frameLabel s.trackFrames, .neutral⟩
        contactTime := Indicator.ofOption (fun t => ⟨t.clockLabel zone, .neutral⟩) s.trackContact
        banditSignal := Indicator.ofOption dbmCell s.banditSignal }
  else idle

end TrackingCells

/-- The line of an event. -/
def eventLine (zone : Zone) (e : TrackerEvent) : String :=
  let time := (e.timestamp.map (·.clockLabel zone)).getD notAvailableLabel
  time ++ " [" ++ e.source ++ "]: " ++ e.message

/-- What is shown when there are no events. -/
def noEventsLine : String := "No events."

/-- The lines of some events, newest first. -/
def eventLines (zone : Zone) (events : List TrackerEvent) : List String :=
  if events.isEmpty then [noEventsLine] else events.reverse.map (eventLine zone)

/-- The frame of a snapshot. -/
def Frame.ofSnapshot (s : Snapshot) (zone : Zone) : Frame where
  connection := connectionCell s.trackerState
  signal := signalCell s.trackerState s.leaderSignalStrength
  deviceLink := linkCell s.trackerDeviceLive
  monitorsLink := linkCell s.monitorsLive
  channels := channelsCell s.channels
  designator := designatorCell s.channelDesignation
  tracking := .ofSnapshot s zone
  events := eventLines zone s.events

end TrackerBoard
