import TrackerBoard.Flags.Address
import TrackerBoard.Flags.Basic

/-!
# The flags of the two commands

The simulated tracker and the dashboard, each with its table of flags and their defaults.
-/

namespace TrackerBoard

/-- The flags of the simulated tracker. -/
structure TrackerFlags where
  /-- Where the endpoint listens. -/
  bind : SocketAddress := .bytes [0, 0, 0, 0] 13000
  scenario : Option String := none
  seed : Option UInt64 := none
  outageEvery : Option UInt64 := none
  outageLength : UInt64 := 3
  /-- Whether to write one snapshot and be done. -/
  once : Bool := false

namespace TrackerFlags

/-- The flags with their kinds. -/
def table : FlagTable :=
  [("bind", Flags.readable SocketAddress.ofText?), ("scenario", Flags.path),
    ("seed", Flags.readable Flags.natural?), ("outage-every", Flags.readable Flags.natural?),
    ("outage-length", Flags.readable Flags.natural?), ("once", .switch)]

/-- Reads the command line of the simulated tracker. -/
def read (arguments : List String) : Except FlagError TrackerFlags := do
  let given ← Flags.read table arguments
  let d : TrackerFlags := {}
  return {
    bind := ((given.value? "bind").bind SocketAddress.ofText?).getD d.bind
    scenario := given.value? "scenario"
    seed := (given.value? "seed").bind Flags.natural?
    outageEvery := (given.value? "outage-every").bind Flags.natural?
    outageLength := ((given.value? "outage-length").bind Flags.natural?).getD d.outageLength
    once := given.has "once" }

end TrackerFlags

/-- The flags of the dashboard. -/
structure DashboardFlags where
  config : Option String := none
  endpoint : Option String := none
  timeoutMs : Option UInt64 := none
  headless : Bool := false
  /-- After how many fetches polling without a window ends. -/
  ticks : Option UInt64 := none

namespace DashboardFlags

/-- The flags with their kinds. -/
def table : FlagTable :=
  [("config", Flags.path), ("endpoint", Flags.anyText),
    ("timeout-ms", Flags.readable Flags.natural?), ("headless", .switch),
    ("ticks", Flags.readable Flags.natural?)]

/-- Reads the command line of the dashboard. -/
def read (arguments : List String) : Except FlagError DashboardFlags := do
  let given ← Flags.read table arguments
  return {
    config := given.value? "config"
    endpoint := given.value? "endpoint"
    timeoutMs := (given.value? "timeout-ms").bind Flags.natural?
    headless := given.has "headless"
    ticks := (given.value? "ticks").bind Flags.natural? }

end DashboardFlags

end TrackerBoard
