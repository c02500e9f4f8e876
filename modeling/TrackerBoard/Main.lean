import TrackerBoard.Dashboard.Basic
import TrackerBoard.Dashboard.Config
import TrackerBoard.Endpoint.Reply
import TrackerBoard.Flags.Commands
import TrackerBoard.Poll.Headless
import TrackerBoard.Simulation.ScenarioFile
import TrackerBoard.Simulation.Service

/-!
# The command line

`tracker` steps a simulated tracker once a second and writes what its endpoint would answer, one
line for each step.  `dashboard` takes such lines from its standard input as the replies to its
fetches and shows the texts of the dashboard after each, or logs every frame.  Times are those of
a clock with a start of its own.
-/

namespace TrackerBoard

/-- Writes log records to the error output. -/
def writeLogs (logs : List LogRecord) : IO Unit := do
  for record in logs do
    IO.eprintln (record.level.name ++ " " ++ record.text)

/-- The contents of a file, if it can be read. -/
def contents? (path : String) : IO (Option (List UInt8)) := do
  try
    return some (← IO.FS.readBinFile path).toList
  catch _ =>
    return none

/-- Ends a command with a message. -/
def refuse (message : String) : IO UInt32 := do
  IO.eprintln ("Error: " ++ message)
  return 1

/-- Steps a simulated tracker once a second. -/
partial def runTracker (once : Bool) (s : Service) : IO UInt32 := do
  match (Instant.ofMillis? (← IO.monoMsNow)).map s.step with
  | some (.ok (s, logs)) =>
    writeLogs logs
    if once then
      IO.println s.bridge.snapshot.wire
      return 0
    else
      IO.println s.bridge.current.line
      (← IO.getStdout).flush
      IO.sleep 1000
      runTracker once s
  | _ => refuse "the step cannot be made"

/-- Runs a simulated tracker. -/
def tracker (f : TrackerFlags) : IO UInt32 := do
  let loaded ← match f.scenario with
    | some path => pure (Scenario.load path (← contents? path))
    | none => pure (.ok {})
  match loaded with
  | .error e => refuse e.message
  | .ok scenario =>
    let scenario := { scenario with seed := f.seed.getD scenario.seed }
    runTracker f.once (.new scenario (.new f.outageEvery f.outageLength))

/-- The outcome of the fetch that the next line of the standard input replies to. -/
def nextOutcome? : IO (Option Outcome) := do
  let line ← (← IO.getStdin).getLine
  if line.isEmpty then return none
  return some (Reply.ofLine (String.ofList (line.toList.takeWhile (· ≠ '\n')))).outcome

/-- Polls without a window, `left` more times if there is a limit. -/
partial def runHeadless (left : Option Nat) (p : Poller) : IO UInt32 := do
  let outcome ← if left = some 0 then pure none else nextOutcome?
  match outcome with
  | none =>
    writeLogs [Headless.summary p.metrics]
    return 0
  | some outcome =>
    let (_, p) := p.beginTick
    let (p, logs) := p.complete .utc outcome
    writeLogs (logs ++ p.frameLog)
    runHeadless (left.map (· - 1)) p

/-- Shows the dashboard after every fetch. -/
partial def runDashboard (u : DashboardUpdate) : IO UInt32 := do
  IO.println ("\n".intercalate u.dashboard.texts)
  match ← nextOutcome? with
  | none => return 0
  | some outcome =>
    let u := u.dashboard.update .utc (.fetched outcome)
    writeLogs u.logs
    runDashboard (u.dashboard.update .utc .tick)

/-- Runs the dashboard. -/
def dashboard (f : DashboardFlags) : IO UInt32 := do
  let loaded ← match f.config with
    | some path => pure (DashboardConfig.load path (← contents? path))
    | none => pure (.ok {})
  match loaded with
  | .error e => refuse e.message
  | .ok config =>
    let config := config.withOverrides f.endpoint f.timeoutMs
    if f.headless then runHeadless (f.ticks.map (·.toNat)) (.new config.endpoint)
    else runDashboard (Dashboard.boot config.endpoint)

/-- Carries out a command with the flags it was given. -/
def withFlags {α : Type} (flags : Except FlagError α) (run : α → IO UInt32) : IO UInt32 :=
  match flags with
  | .ok f => run f
  | .error e => do
    IO.eprintln e.message
    return if e = .helpWanted ∨ e = .versionWanted then 0 else 2

end TrackerBoard

def main (arguments : List String) : IO UInt32 :=
  match arguments with
  | "tracker" :: rest =>
    TrackerBoard.withFlags (TrackerBoard.TrackerFlags.read rest) TrackerBoard.tracker
  | "dashboard" :: rest =>
    TrackerBoard.withFlags (TrackerBoard.DashboardFlags.read rest) TrackerBoard.dashboard
  | _ => TrackerBoard.refuse "expected tracker or dashboard"
