import TrackerBoard.Number.Word
import TrackerBoard.Simulation.Scenario
import TrackerBoard.Text.Hex
import TrackerBoard.Tracker.Designator
import TrackerBoard.Tracker.EventLog
import TrackerBoard.Tracker.Watchdog

/-!
# The simulated tracker

A simulated tracker is stepped once a second.  In a step a ping of the leader may come through,
the leader may ask for tracking or cancel it, and a tracker that tracks may hear the bandit; every
so many steps the channel designator ends a cycle.  A step is a plan: what happens is drawn, and
the statements about it hold for every draw.

What is known of a bandit belongs to a session, from a request of the leader to the next cancel.
Before the first contact of a session nothing is known, and every contact adds to the frames and
replaces the time and the signal.
-/

namespace TrackerBoard

/-- A simulated tracker. -/
structure SimulatedTracker where
  scenario : Scenario
  watchdog : Watchdog
  designator : Designator
  events : EventLog
  /-- The strength with which the leader is heard, from 0 to 255. -/
  leaderRssi : Int64
  isTracking : Bool
  /-- The identifier that the bandit got when it was first heard. -/
  track : Option String
  /-- The number of frames heard of it. -/
  trackFrames : UInt64
  /-- When it was last heard. -/
  trackContact : Option Instant
  /-- How strongly it was last heard. -/
  banditSignal : Option Int64
  /-- The number of steps made. -/
  steps : Nat

/-- Ways in which a step cannot be made. -/
inductive StepFault where
  | draw (fault : DrawFault)
  /-- the drifted signal strength is no word -/
  | rssiOverflow
  /-- the moment from which pings count is out of range -/
  | clockOutOfRange
deriving DecidableEq, Repr

/-- What happens in a part of a step, beside what it makes of the tracker. -/
structure Activity where
  /-- The events that are recorded, oldest first. -/
  recorded : List TrackerEvent := []
  /-- Whether the bandit is heard. -/
  heard : Bool := false
  logs : List LogRecord := []

/-- What a step comes to. -/
structure StepResult where
  tracker : SimulatedTracker
  snapshot : Snapshot
  logs : List LogRecord
  /-- The events that were recorded, oldest first. -/
  recorded : List TrackerEvent
  /-- Whether the bandit was heard. -/
  heard : Bool

namespace SimulatedTracker

/-- A computation with the questions of a step. -/
abbrev StepPlan := Plan StepFault

/-- The list of bandits that the tracker knows. -/
def banditHash : String := "bandits-2f9c"

/-- The list of bandits of a leader that is out of sync. -/
def staleBanditHash : String := "bandits-0000"

/-- Who records the requests of the leader. -/
def leaderSource : String := "leader"

/-- Who records the contacts of the tracker. -/
def trackerSource : String := "tracker"

/-- What is recorded of a request to track. -/
def requestMessage : String := "Received request to track bandit."

/-- What is recorded of a request to cancel. -/
def cancelMessage : String := "All bandit tracking canceled on leader request."

/-- What is recorded of the first contact of a session. -/
def contactMessage (track : String) : String :=
  "Initial contact with bandit, track [" ++ track ++ "]."

/-- The event of a request to track. -/
def requestEvent (now : Instant) : TrackerEvent := ⟨some now, leaderSource, requestMessage⟩

/-- The event of a request to cancel. -/
def cancelEvent (now : Instant) : TrackerEvent := ⟨some now, leaderSource, cancelMessage⟩

/-- The event of the first contact of a session. -/
def contactEvent (now : Instant) (track : String) : TrackerEvent :=
  ⟨some now, trackerSource, contactMessage track⟩

/-- Yes with a probability. -/
def chance (p : Float) : StepPlan Bool := Plan.chance .draw p

/-- A number between two others. -/
def between (low high : Int) : StepPlan Int := Plan.between .draw low high

/-- The nearest signal strength. -/
def clampRssi (x : Int) : Int64 := Int64.ofInt (max 0 (min 255 x))

/-- The tracker of a scenario before its first step. -/
def new (scenario : Scenario) : SimulatedTracker where
  scenario := scenario
  watchdog := .new
  designator := .new scenario.channels
  events := .empty
  leaderRssi := clampRssi scenario.leaderRssiStart.toInt
  isTracking := false
  track := none
  trackFrames := 0
  trackContact := none
  banditSignal := none
  steps := 0

/-- Records an event. -/
def record (t : SimulatedTracker) (event : TrackerEvent) : SimulatedTracker :=
  { t with events := t.events.add event }

/-- The signal strength after a drift, if it is a word before it is clamped. -/
def drifted (rssi : Int64) (drift : Int) : StepPlan Int64 :=
  match signedWord? (rssi.toInt + drift) with
  | some x => .done (clampRssi x.toInt)
  | none => .fail .rssiOverflow

/-- A ping of the leader, unless it is lost.  The strength drifts by at most the scenario's drift
either way. -/
def receivePing (t : SimulatedTracker) (now : Instant) : StepPlan SimulatedTracker := do
  if ← chance t.scenario.pingLossProbability then
    return t
  let drift := max t.scenario.leaderRssiDrift.toInt 0
  let rssi ← drifted t.leaderRssi (← between (-drift) drift)
  let isStale ← chance t.scenario.outOfSyncProbability
  let ping : Ping := ⟨now, rssi, if isStale then staleBanditHash else banditHash⟩
  return { t with leaderRssi := rssi, watchdog := t.watchdog.registerPing ping }

/-- Begins a session. -/
def startTracking (t : SimulatedTracker) : SimulatedTracker := { t with isTracking := true }

/-- Ends a session. -/
def stopTracking (t : SimulatedTracker) : SimulatedTracker :=
  { t with
    isTracking := false
    track := none
    trackFrames := 0
    trackContact := none
    banditSignal := none }

/-- A request of the leader to track, or to cancel if the tracker tracks already. -/
def handleRequests (t : SimulatedTracker) (now : Instant) :
    StepPlan (SimulatedTracker × Activity) := do
  if t.isTracking then
    if ← chance t.scenario.trackCancelProbability then
      return (t.stopTracking.record (cancelEvent now),
        { recorded := [cancelEvent now], logs := [.info "leader canceled all tracking"] })
    return (t, {})
  else
    if ← chance t.scenario.trackRequestProbability then
      let line := "leader requested tracking of [" ++ t.scenario.trackingTarget ++ "]"
      return (t.startTracking.record (requestEvent now),
        { recorded := [requestEvent now], logs := [.info line] })
    return (t, {})

/-- A trace of the bandit on one of the configured channels. -/
def traceBandit (t : SimulatedTracker) : StepPlan SimulatedTracker := do
  match ← Plan.choose t.scenario.channels with
  | some channel => return { t with designator := t.designator.trace channel }
  | none => return t

/-- The identifier of a bandit: a word in eight hexadecimal digits. -/
def trackName (word : UInt32) : String := String.ofList (Hex.padded 8 word.toNat)

/-- The first contact of a session gives the bandit an identifier. -/
def openTrack (t : SimulatedTracker) (now : Instant) :
    StepPlan (SimulatedTracker × List TrackerEvent) := do
  if t.track.isNone then
    let track := trackName (← Plan.word)
    return ({ t.record (contactEvent now track) with track := some track },
      [contactEvent now track])
  else
    return (t, [])

/-- A sum of words that stays at the largest word instead of going beyond it. -/
def addFrames (frames : UInt64) (more : Nat) : UInt64 :=
  UInt64.ofNat (min (UInt64.size - 1) (frames.toNat + more))

/-- A contact: some frames are heard, with a signal. -/
def hear (t : SimulatedTracker) (now : Instant) (frames : Nat) (signal : Int64) :
    SimulatedTracker :=
  { t with
    trackFrames := addFrames t.trackFrames frames
    trackContact := some now
    banditSignal := some signal }

/-- The bandit may be heard. -/
def tryContact (t : SimulatedTracker) (now : Instant) :
    StepPlan (SimulatedTracker × Activity) := do
  if ← chance t.scenario.contactProbability then
    let t ← t.traceBandit
    let (t, recorded) ← t.openTrack now
    let frames ← between 1 (max t.scenario.maxFramesPerContact.toNat 1)
    let signal ← between (-95) (-30)
    return (t.hear now frames.toNat (Int64.ofInt signal), { recorded := recorded, heard := true })
  else
    return (t, {})

/-- A tracker that tracks listens for the bandit. -/
def listen (t : SimulatedTracker) (now : Instant) : StepPlan (SimulatedTracker × Activity) :=
  if t.isTracking then t.tryContact now else return (t, {})

/-- The end of a cycle of the channel designator, at every so many steps. -/
def endCycle (t : SimulatedTracker) : SimulatedTracker × List LogRecord :=
  if t.steps % max t.scenario.designatorCycleSteps.toNat 1 = 0 then
    let (designator, logs) := t.designator.designate
    let line :=
      "designator cycle " ++ toString t.steps ++ " -> " ++ designator.status.name
    ({ t with designator := designator }, logs ++ [.debug line])
  else (t, [])

/-- The status of the tracker, given the verdict of the watchdog. -/
def snapshot (t : SimulatedTracker) (now : Instant) (states : List TrackerState)
    (deviceLive monitorsLive : Bool) : Snapshot where
  clock := some now
  trackerState := states.map (·.name)
  leaderSignalStrength := t.watchdog.leaderRssi
  trackerDeviceLive := deviceLive
  monitorsLive := monitorsLive
  channels := some (.list t.designator.active)
  channelDesignation := some t.designator.status
  isTracking := t.isTracking
  trackingTarget := if t.isTracking then some t.scenario.trackingTarget else none
  track := t.track
  trackFrames := t.trackFrames
  trackContact := t.trackContact
  banditSignal := t.banditSignal
  events := t.events.events

/-- One step, at the moment `now`. -/
def step (t : SimulatedTracker) (now : Instant) : StepPlan StepResult := do
  let t := { t with steps := t.steps + 1 }
  let t ← t.receivePing now
  let (t, requests) ← t.handleRequests now
  let (t, contact) ← t.listen now
  let (t, cycleLogs) := t.endCycle
  let monitorsFail ← chance t.scenario.monitorFailureProbability
  let deviceFails ← chance t.scenario.deviceFailureProbability
  match t.watchdog.evaluate? now banditHash with
  | some states =>
    return {
      tracker := t
      snapshot := t.snapshot now states (!deviceFails) (!monitorsFail)
      logs := requests.logs ++ cycleLogs
      recorded := requests.recorded ++ contact.recorded
      heard := contact.heard }
  | none => .fail .clockOutOfRange

end SimulatedTracker

end TrackerBoard
