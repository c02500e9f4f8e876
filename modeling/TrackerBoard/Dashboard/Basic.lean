import TrackerBoard.Dashboard.Chart
import TrackerBoard.Poll.Poller

/-!
# The dashboard

The dashboard polls one endpoint and shows the poller in a window.  It is told of every tick and
of every fetch that is over, and says whether a fetch is to be started.  While the link is
connected it shows the frame and the chart, otherwise the failure and the counters.

The chart is drawn into a cache and drawn anew only when the cache is empty; a history with a new
sample empties it.
-/

namespace TrackerBoard

/-- The state of the dashboard. -/
structure Dashboard where
  poller : Poller
  endpoint : String
  /-- The chart as it was drawn last, unless it has to be drawn anew. -/
  chartCache : Option (List Vertex)
  /-- The revision of the history since which the cache was not emptied. -/
  chartRevision : Nat

/-- What a dashboard is told. -/
inductive DashboardMessage where
  | tick
  | fetched (outcome : Outcome)

/-- What a message leads to. -/
structure DashboardUpdate where
  dashboard : Dashboard
  /-- Whether a fetch is to be started. -/
  startsFetch : Bool
  logs : List LogRecord

namespace Dashboard

/-- The title of the window. -/
def title : String := "nzyme tracker"

/-- The theme of the window. -/
def theme : String := "Dark"

/-- Asks for a fetch, unless one is pending. -/
def fetch (d : Dashboard) : DashboardUpdate :=
  let (admitted, poller) := d.poller.beginTick
  ⟨{ d with poller := poller }, admitted, []⟩

/-- Empties the cache if the history has a new sample. -/
def refreshChart (d : Dashboard) : Dashboard :=
  if d.poller.history.revision = d.chartRevision then d
  else { d with chartCache := none, chartRevision := d.poller.history.revision }

/-- The dashboard at its start, which asks for a first fetch. -/
def boot (endpoint : String) : DashboardUpdate :=
  fetch ⟨.new endpoint, endpoint, none, 0⟩

/-- Handles a message; times of day are shown in the given zone. -/
def update (d : Dashboard) (zone : Zone) : DashboardMessage → DashboardUpdate
  | .tick => d.fetch
  | .fetched outcome =>
    let (poller, logs) := d.poller.complete zone outcome
    ⟨{ d with poller := poller }.refreshChart, false, logs⟩

/-- Draws the chart at some size: the cached one if there is one. -/
def drawChart (d : Dashboard) (width height : Float32) : Dashboard × List Vertex :=
  match d.chartCache with
  | some vertices => (d, vertices)
  | none =>
    let vertices := Chart.steppedPoints d.poller.history.samples width height
    ({ d with chartCache := some vertices }, vertices)

/-- The frame that is shown, if one is. -/
def shownFrame (d : Dashboard) : Option Frame :=
  if d.poller.mainVisible then d.poller.frame else none

/-- The cells of a frame with their titles, in the order in which they stand. -/
def titledCells (f : Frame) : List (String × Indicator) :=
  [("CONN", f.connection), ("SIG", f.signal), ("TRACKER", f.deviceLink),
    ("MONITORS", f.monitorsLink), ("CHANNELS", f.channels), ("DESIGNATOR", f.designator),
    ("TASK", f.tracking.task), ("BANDIT", f.tracking.target), ("TRACK", f.tracking.track),
    ("FRAMES", f.tracking.frameCount), ("CONTACT", f.tracking.contactTime),
    ("SIGNAL", f.tracking.banditSignal)]

/-- The texts of the panel with a frame. -/
def mainTexts (f : Frame) : List String :=
  (titledCells f).flatMap (fun (title, cell) => [title, cell.label]) ++ "Events" :: f.events

/-- What the panel without a frame says of the failure. -/
def failureDetail (d : Dashboard) : String :=
  (d.poller.lastFailure.map FetchFailure.message).getD "Waiting for tracker..."

/-- The texts of the panel without a frame. -/
def errorTexts (d : Dashboard) : List String :=
  let m := d.poller.metrics
  ["TRACKER UNREACHABLE",
    d.failureDetail ++ " (" ++ d.endpoint ++ ")",
    toString m.fetched ++ " fetched / " ++ toString m.failed ++ " failed / " ++
      toString m.skipped ++ " skipped"]

/-- The texts that are shown. -/
def texts (d : Dashboard) : List String :=
  match d.shownFrame with
  | some frame => mainTexts frame
  | none => d.errorTexts

end Dashboard

end TrackerBoard
