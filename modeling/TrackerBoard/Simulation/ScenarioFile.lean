import TrackerBoard.Simulation.Scenario
import TrackerBoard.Text.Utf8
import TrackerBoard.Yaml.Node

/-!
# Scenario files

A scenario file is a YAML mapping.  Fields that are missing have their defaults, and entries with
other names are left out.
-/

namespace TrackerBoard.Scenario

open Yaml

/-- The fields of a scenario file. -/
def fieldNames : List String :=
  ["seed", "channels", "tracking_target", "leader_rssi_start", "leader_rssi_drift",
    "ping_loss_probability", "out_of_sync_probability", "track_request_probability",
    "track_cancel_probability", "contact_probability", "max_frames_per_contact",
    "designator_cycle_steps", "monitor_failure_probability", "device_failure_probability"]

/-- A list of channels. -/
def channels? (document : Document) (node : Node) : Option (List Int64) :=
  (document.items? node).bind fun items => items.mapM Node.int64?

/-- The scenario of a YAML document. -/
def ofDocument? (document : Document) : Option Scenario := do
  let fields ← document.fields? fieldNames
  let d : Scenario := {}
  return {
    seed := ← field fields "seed" Node.uint64? d.seed
    channels := ← field fields "channels" (channels? document) d.channels
    trackingTarget := ← field fields "tracking_target" Node.string? d.trackingTarget
    leaderRssiStart := ← field fields "leader_rssi_start" Node.int64? d.leaderRssiStart
    leaderRssiDrift := ← field fields "leader_rssi_drift" Node.int64? d.leaderRssiDrift
    pingLossProbability :=
      ← field fields "ping_loss_probability" Node.float? d.pingLossProbability
    outOfSyncProbability :=
      ← field fields "out_of_sync_probability" Node.float? d.outOfSyncProbability
    trackRequestProbability :=
      ← field fields "track_request_probability" Node.float? d.trackRequestProbability
    trackCancelProbability :=
      ← field fields "track_cancel_probability" Node.float? d.trackCancelProbability
    contactProbability := ← field fields "contact_probability" Node.float? d.contactProbability
    maxFramesPerContact :=
      ← field fields "max_frames_per_contact" Node.uint64? d.maxFramesPerContact
    designatorCycleSteps :=
      ← field fields "designator_cycle_steps" Node.uint64? d.designatorCycleSteps
    monitorFailureProbability :=
      ← field fields "monitor_failure_probability" Node.float? d.monitorFailureProbability
    deviceFailureProbability :=
      ← field fields "device_failure_probability" Node.float? d.deviceFailureProbability }

/-- The scenario of a file, given its contents if it could be read. -/
def load (path : String) (contents : Option (List UInt8)) : Except ScenarioError Scenario :=
  match contents.bind Utf8.decode? with
  | none => .error (.unreadable path)
  | some text =>
    match (Document.ofText? (String.ofList text)).bind ofDocument? with
    | none => .error (.unparsable path)
    | some scenario => do
      scenario.validate
      return scenario

end TrackerBoard.Scenario
