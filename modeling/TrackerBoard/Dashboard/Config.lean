import TrackerBoard.Text.Utf8
import TrackerBoard.Yaml.Node

/-!
# Dashboard settings

Which endpoint the dashboard polls, and how long it waits for an answer.  A settings file is a
YAML mapping; what the command line gives wins over it.
-/

namespace TrackerBoard

/-- Where and how the dashboard polls. -/
structure DashboardConfig where
  endpoint : String := "http://127.0.0.1:13000/api/state"
  requestTimeoutMs : UInt64 := 900

/-- Why settings are refused. -/
inductive ConfigError where
  | unreadable (path : String)
  | unparsable (path : String)

/-- The wording of a refusal. -/
def ConfigError.message : ConfigError → String
  | unreadable path => "reading dashboard config " ++ path
  | unparsable path => "parsing dashboard config " ++ path

namespace DashboardConfig

open Yaml

/-- The settings of a YAML document. -/
def ofDocument? (document : Document) : Option DashboardConfig := do
  let fields ← document.fields? ["endpoint", "request_timeout_ms"]
  let d : DashboardConfig := {}
  return {
    endpoint := ← field fields "endpoint" Node.string? d.endpoint
    requestTimeoutMs := ← field fields "request_timeout_ms" Node.uint64? d.requestTimeoutMs }

/-- The settings of a file, given its contents if it could be read. -/
def load (path : String) (contents : Option (List UInt8)) : Except ConfigError DashboardConfig :=
  match contents.bind Utf8.decode? with
  | none => .error (.unreadable path)
  | some text =>
    match (Document.ofText? (String.ofList text)).bind ofDocument? with
    | none => .error (.unparsable path)
    | some config => .ok config

/-- The settings with what the command line gives instead. -/
def withOverrides (c : DashboardConfig) (endpoint : Option String) (timeoutMs : Option UInt64) :
    DashboardConfig where
  endpoint := endpoint.getD c.endpoint
  requestTimeoutMs := timeoutMs.getD c.requestTimeoutMs

/-- How long to wait for an answer, in milliseconds: never no time at all. -/
def requestTimeout (c : DashboardConfig) : UInt64 := max c.requestTimeoutMs 1

end DashboardConfig

end TrackerBoard
