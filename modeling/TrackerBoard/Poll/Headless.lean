import TrackerBoard.Poll.Loop

/-!
# Polling without a window

The poll loop, with every frame in the log, and a count of the fetches at the end.  A frame is one
line with all its cells, one for the history and one for the newest event.
-/

namespace TrackerBoard

namespace Poller

/-- One line for a frame. -/
def frameLine (f : Frame) : String :=
  "CONN " ++ f.connection.label ++ " | SIG " ++ f.signal.label ++
    " | DEV " ++ f.deviceLink.label ++ " | MON " ++ f.monitorsLink.label ++
    " | CHAN " ++ f.channels.label ++ " (" ++ f.designator.label ++
    ") | TASK " ++ f.tracking.task.label ++ " | TGT " ++ f.tracking.target.label ++
    " | TRACK " ++ f.tracking.track.label ++ " | FRAMES " ++ f.tracking.frameCount.label ++
    " | CTCT " ++ f.tracking.contactTime.label ++ " | BSIG " ++ f.tracking.banditSignal.label

/-- One line for a history with a newest sample. -/
def historyLine (h : History) (latest : Int64) : String :=
  "bandit signal history: " ++ toString h.size ++ " samples, latest " ++
    toString latest.toInt ++ " dBm"

/-- The records that show the state without a window: the frame, the history and the newest
event, or the failure. -/
def frameLog (p : Poller) : List LogRecord :=
  match p.frame with
  | none => (p.lastFailure.map fun failure =>
      LogRecord.warn ("tracker unreachable: " ++ failure.message)).toList
  | some frame =>
    .info (frameLine frame) ::
      (p.history.latest?.map fun latest => LogRecord.info (historyLine p.history latest)).toList ++
      (frame.events.head?.map fun line => LogRecord.info ("latest event: " ++ line)).toList

end Poller

namespace Headless

/-- The record at the end. -/
def summary (m : Metrics) : LogRecord :=
  .info ("headless polling finished: " ++ toString m.fetched ++ " fetched, " ++
    toString m.failed ++ " failed, " ++ toString m.skipped ++ " skipped")

/-- What is logged up to `deadline` by a loop that returns after `ticks` fetches, if it does. -/
def logs (endpoint : String) (fetch : Nat → Fetch) (zone : Zone) (ticks : Option Nat)
    (deadline : Nat) : List LogRecord :=
  let trace :=
    (Loop.start (.new endpoint)).observe fetch zone Poller.frameLog ticks deadline
  trace.logs ++ if trace.finished then [summary trace.poller.metrics] else []

end Headless

end TrackerBoard
