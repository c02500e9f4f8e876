import TrackerBoard.Chance.Plan
import TrackerBoard.Number.Shortest

/-!
# Scenarios

A scenario says how a simulated tracker behaves.  Its probabilities are per step.  `validate`
refuses a scenario with a probability that is none, naming the first such, or without channels.
-/

namespace TrackerBoard

/-- How a simulated tracker behaves. -/
structure Scenario where
  seed : UInt64 := 0
  channels : List Int64 := [1, 6, 11]
  trackingTarget : String := "pineapple"
  leaderRssiStart : Int64 := 180
  leaderRssiDrift : Int64 := 20
  pingLossProbability : Float := 0.05
  outOfSyncProbability : Float := 0.02
  trackRequestProbability : Float := 0.05
  trackCancelProbability : Float := 0.01
  contactProbability : Float := 0.6
  maxFramesPerContact : UInt64 := 40000
  designatorCycleSteps : UInt64 := 30
  monitorFailureProbability : Float := 0.01
  deviceFailureProbability : Float := 0.01

/-- Why a scenario is refused. -/
inductive ScenarioError where
  | unreadable (path : String)
  | unparsable (path : String)
  | notAProbability (name : String) (value : Float)
  | noChannels

/-- The wording of a refusal. -/
def ScenarioError.message : ScenarioError → String
  | unreadable path => "reading scenario " ++ path
  | unparsable path => "parsing scenario " ++ path
  | notAProbability name value =>
    name ++ " must be within [0, 1], got " ++ Decimal.shortest value
  | noChannels => "at least one channel must be configured"

namespace Scenario

/-- The probabilities with their names, in the order in which they are checked. -/
def probabilities (s : Scenario) : List (String × Float) :=
  [("ping_loss_probability", s.pingLossProbability),
    ("out_of_sync_probability", s.outOfSyncProbability),
    ("track_request_probability", s.trackRequestProbability),
    ("track_cancel_probability", s.trackCancelProbability),
    ("contact_probability", s.contactProbability),
    ("monitor_failure_probability", s.monitorFailureProbability),
    ("device_failure_probability", s.deviceFailureProbability)]

/-- Refuses a scenario that cannot be simulated. -/
def validate (s : Scenario) : Except ScenarioError Unit :=
  match s.probabilities.find? fun (_, p) => ¬ isProbability p with
  | some (name, p) => .error (.notAProbability name p)
  | none => if s.channels.isEmpty then .error .noChannels else .ok ()

end Scenario

end TrackerBoard
