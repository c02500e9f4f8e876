import TrackerBoard.Chance.Generator
import TrackerBoard.Endpoint.Bridge
import TrackerBoard.Endpoint.Outage
import TrackerBoard.Simulation.Node

/-!
# A simulated tracker with its endpoint

Every step of the tracker publishes its snapshot, and the schedule of outages says whether the
endpoint is down from then on.  What happens in a step is drawn from the generator of the
scenario's seed.
-/

namespace TrackerBoard

/-- A simulated tracker that serves its status. -/
structure Service where
  tracker : SimulatedTracker
  generator : Generator
  bridge : Bridge
  outages : OutageSchedule

namespace Service

/-- The service of a scenario before the first step. -/
def new (scenario : Scenario) (outages : OutageSchedule) : Service where
  tracker := .new scenario
  generator := .ofSeed scenario.seed
  bridge := .new
  outages := outages

/-- One step, at the moment `now`. -/
def step (s : Service) (now : Instant) : Except StepFault (Service × List LogRecord) := do
  let (result, generator) ← (s.tracker.step now).run s.generator
  let isDown := s.outages.isDown result.tracker.steps.toUInt64
  let (bridge, logs) := s.bridge.publish result.snapshot isDown
  return ({ s with tracker := result.tracker, generator := generator, bridge := bridge },
    result.logs ++ logs)

end Service

end TrackerBoard
