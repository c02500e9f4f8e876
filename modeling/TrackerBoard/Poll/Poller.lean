import TrackerBoard.Frame.Basic
import TrackerBoard.Log
import TrackerBoard.Poll.History

/-!
# The poller

The poller is told of every tick and of every outcome of a fetch.  A tick is admitted unless a
fetch is pending.  A snapshot connects the link, adds one sample to the history and replaces the
frame; a failure disconnects the link and drops the frame.  Nothing is tried again: the next tick
is the next try.
-/

namespace TrackerBoard

/-- Whether the last fetch gave a snapshot. -/
inductive Link where
  | connected
  | disconnected
deriving DecidableEq, Repr

/-- The name of a link state. -/
def Link.name : Link → String
  | connected => "Connected"
  | disconnected => "Disconnected"

/-- How many fetches gave a snapshot, how many failed, and how many ticks were skipped. -/
structure Metrics where
  fetched : Nat := 0
  failed : Nat := 0
  skipped : Nat := 0
deriving DecidableEq, Repr

namespace Metrics

def recordFetched (m : Metrics) : Metrics := { m with fetched := m.fetched + 1 }

def recordFailed (m : Metrics) : Metrics := { m with failed := m.failed + 1 }

def recordSkipped (m : Metrics) : Metrics := { m with skipped := m.skipped + 1 }

end Metrics

/-- What a fetch comes to. -/
abbrev Outcome := Except FetchFailure Snapshot

/-- The state of the poll of one endpoint. -/
structure Poller where
  endpoint : String
  history : History
  link : Link
  frame : Option Frame
  lastFailure : Option FetchFailure
  inFlight : Bool
  metrics : Metrics
deriving DecidableEq

namespace Poller

/-- Nothing was fetched yet. -/
def new (endpoint : String) : Poller where
  endpoint := endpoint
  history := .empty
  link := .disconnected
  frame := none
  lastFailure := none
  inFlight := false
  metrics := {}

/-- A tick: whether it is admitted. -/
def beginTick (p : Poller) : Bool × Poller :=
  if p.inFlight then (false, { p with metrics := p.metrics.recordSkipped })
  else (true, { p with inFlight := true })

/-- Moves the link, and logs it if it moved. -/
def transition (p : Poller) (next : Link) : Poller × List LogRecord :=
  if p.link = next then (p, [])
  else
    ({ p with link := next },
      [.ofEndpoint p.endpoint ("link " ++ p.link.name ++ " -> " ++ next.name)])

/-- The outcome of a fetch; the frame shows times in the given zone. -/
def complete (p : Poller) (zone : Zone) : Outcome → Poller × List LogRecord
  | .ok snapshot =>
    let p := { p with inFlight := false, metrics := p.metrics.recordFetched }
    let (p, logs) := p.transition .connected
    ({ p with
        lastFailure := none
        history := p.history.pushSignal snapshot.banditSignal
        frame := some (.ofSnapshot snapshot zone) }, logs)
  | .error failure =>
    let p := { p with inFlight := false, metrics := p.metrics.recordFailed }
    let (p, logs) := p.transition .disconnected
    ({ p with frame := none, lastFailure := some failure },
      .ofFailure p.endpoint failure :: logs)

/-- Whether the panel with the frame is visible. -/
def mainVisible (p : Poller) : Bool := p.link = .connected

/-- Whether the panel with the failure is visible. -/
def errorVisible (p : Poller) : Bool := ¬ p.mainVisible

end Poller

end TrackerBoard
