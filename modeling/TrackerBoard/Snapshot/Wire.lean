import TrackerBoard.Json.Printer
import TrackerBoard.Json.Reader
import TrackerBoard.Log
import TrackerBoard.Snapshot.Field

/-!
# Snapshots on the wire

A snapshot is sent as a JSON object with a member for each of its fields.  Reading one takes each
field from the member of its name; a member that is missing or has another shape leaves the
default.  Only a body that is not JSON, or is no object, is refused.
-/

namespace TrackerBoard

open Json

/-- An instant as a JSON value. -/
def Instant.toJson (t : Instant) : Value := .string (String.ofList (Timestamp.print t))

/-- Channels as a JSON value. -/
def Channels.toJson : Channels → Value
  | count n => .int64 n
  | list channels => .list (channels.map .int64)

/-- An event as a JSON value. -/
def TrackerEvent.toJson (e : TrackerEvent) : Value :=
  .object
    [("timestamp", .option Instant.toJson e.timestamp),
      ("source", .string e.source),
      ("message", .string e.message)]

namespace Snapshot

/-- The members of a snapshot, in the order in which they are sent. -/
def toMembers (s : Snapshot) : Members :=
  [("clock", .option Instant.toJson s.clock),
    ("tracker_state", .list (s.trackerState.map .string)),
    ("leader_signal_strength", .int64 s.leaderSignalStrength),
    ("tracker_device_live", .bool s.trackerDeviceLive),
    ("monitors_live", .bool s.monitorsLive),
    ("channels", .option Channels.toJson s.channels),
    ("channel_designation_status", .option (fun d => .string d.name) s.channelDesignation),
    ("is_tracking", .bool s.isTracking),
    ("tracking_target", .option .string s.trackingTarget),
    ("track", .option .string s.track),
    ("track_frames", .uint64 s.trackFrames),
    ("track_contact", .option Instant.toJson s.trackContact),
    ("bandit_signal", .option .int64 s.banditSignal),
    ("events", .list (s.events.map TrackerEvent.toJson))]

/-- A snapshot as a JSON value. -/
def toJson (s : Snapshot) : Value := .object s.toMembers

/-- The text that is sent for a snapshot. -/
def wire (s : Snapshot) : String := s.toJson.render

/-- The snapshot of an object's members. -/
def ofMembers (members : Members) : Snapshot :=
  let field := Members.find? members
  { clock := (field "clock").bind Field.instant?
    trackerState := ((field "tracker_state").map Field.names).getD []
    leaderSignalStrength := ((field "leader_signal_strength").bind Field.signed?).getD 0
    trackerDeviceLive := ((field "tracker_device_live").bind Field.bool?).getD false
    monitorsLive := ((field "monitors_live").bind Field.bool?).getD false
    channels := (field "channels").bind Field.channels?
    channelDesignation := (field "channel_designation_status").bind Field.designation?
    isTracking := ((field "is_tracking").bind Field.bool?).getD false
    trackingTarget := (field "tracking_target").bind Field.string?
    track := (field "track").bind Field.string?
    trackFrames := ((field "track_frames").bind Field.natural?).getD 0
    trackContact := (field "track_contact").bind Field.instant?
    banditSignal := (field "bandit_signal").bind Field.signed?
    events := ((field "events").map Field.events).getD [] }

/-- Reads the body of an answer. -/
def decode (body : List UInt8) : Except FetchFailure Snapshot :=
  match Json.parse body with
  | .error e => .error (.decode e.message)
  | .ok (.object members) => .ok (ofMembers members)
  | .ok _ => .error (.decode "expected a JSON object")

/-- The bytes that are sent for a snapshot. -/
def body (s : Snapshot) : List UInt8 := Utf8.encode s.wire.toList

end Snapshot

end TrackerBoard
