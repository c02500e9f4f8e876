import TrackerBoard.Chance.Generator
import TrackerBoard.Chance.Plan
import TrackerBoard.Dashboard.Basic
import TrackerBoard.Dashboard.Chart
import TrackerBoard.Dashboard.Config
import TrackerBoard.Endpoint.Bridge
import TrackerBoard.Endpoint.Outage
import TrackerBoard.Endpoint.Reply
import TrackerBoard.Endpoint.Target
import TrackerBoard.Flags.Address
import TrackerBoard.Flags.Basic
import TrackerBoard.Flags.Commands
import TrackerBoard.Frame.Basic
import TrackerBoard.Frame.Indicator
import TrackerBoard.Frame.Label
import TrackerBoard.Json.Fault
import TrackerBoard.Json.Numeral
import TrackerBoard.Json.Printer
import TrackerBoard.Json.Quoted
import TrackerBoard.Json.Reader
import TrackerBoard.Json.Value
import TrackerBoard.Log
import TrackerBoard.Main
import TrackerBoard.Number.Binary64
import TrackerBoard.Number.Shortest
import TrackerBoard.Number.Word
import TrackerBoard.Poll.Headless
import TrackerBoard.Poll.History
import TrackerBoard.Poll.Loop
import TrackerBoard.Poll.Poller
import TrackerBoard.Proofs.Chance.Lockstep
import TrackerBoard.Proofs.Chance.Yields
import TrackerBoard.Proofs.Dashboard.Chart
import TrackerBoard.Proofs.Dashboard.ChartCache
import TrackerBoard.Proofs.Dashboard.SingleFlight
import TrackerBoard.Proofs.Endpoint.Outage
import TrackerBoard.Proofs.Endpoint.Rounds
import TrackerBoard.Proofs.Frame.Connection
import TrackerBoard.Proofs.Frame.Dependence
import TrackerBoard.Proofs.Frame.Label
import TrackerBoard.Proofs.Frame.Text
import TrackerBoard.Proofs.Json.Grammar
import TrackerBoard.Proofs.Json.GrammarSound
import TrackerBoard.Proofs.Json.Numeral
import TrackerBoard.Proofs.Json.NumeralGrammar
import TrackerBoard.Proofs.Json.Quoted
import TrackerBoard.Proofs.Json.RoundTrip
import TrackerBoard.Proofs.Json.Run
import TrackerBoard.Proofs.Json.StringGrammar
import TrackerBoard.Proofs.Number.Rational
import TrackerBoard.Proofs.Number.Rounding
import TrackerBoard.Proofs.Poll.Calls
import TrackerBoard.Proofs.Poll.History
import TrackerBoard.Proofs.Poll.Polling
import TrackerBoard.Proofs.Poll.Records
import TrackerBoard.Proofs.Poll.Schedule
import TrackerBoard.Proofs.Simulation.Channels
import TrackerBoard.Proofs.Simulation.ExactStep
import TrackerBoard.Proofs.Simulation.Faults
import TrackerBoard.Proofs.Simulation.Independence
import TrackerBoard.Proofs.Simulation.Journal
import TrackerBoard.Proofs.Simulation.Link
import TrackerBoard.Proofs.Simulation.Pings
import TrackerBoard.Proofs.Simulation.Run
import TrackerBoard.Proofs.Simulation.Session
import TrackerBoard.Proofs.Simulation.Step
import TrackerBoard.Proofs.Simulation.Tracking
import TrackerBoard.Proofs.Snapshot.Field
import TrackerBoard.Proofs.Snapshot.Instant
import TrackerBoard.Proofs.Snapshot.Integer
import TrackerBoard.Proofs.Snapshot.Lenient
import TrackerBoard.Proofs.Snapshot.RoundTrip
import TrackerBoard.Proofs.Snapshot.Truncation
import TrackerBoard.Proofs.Text.Digits
import TrackerBoard.Proofs.Text.Occurrence
import TrackerBoard.Proofs.Text.Utf8
import TrackerBoard.Proofs.Time.Calendar
import TrackerBoard.Proofs.Time.Clock
import TrackerBoard.Proofs.Time.DayCount
import TrackerBoard.Proofs.Time.Denotation
import TrackerBoard.Proofs.Time.Instant
import TrackerBoard.Proofs.Time.Timestamp
import TrackerBoard.Proofs.Time.TimestampGrammar
import TrackerBoard.Proofs.Tracker.Cadence
import TrackerBoard.Proofs.Tracker.Outcome
import TrackerBoard.Proofs.Tracker.Verdict
import TrackerBoard.Simulation.Node
import TrackerBoard.Simulation.Scenario
import TrackerBoard.Simulation.ScenarioFile
import TrackerBoard.Simulation.Service
import TrackerBoard.Snapshot.Basic
import TrackerBoard.Snapshot.Field
import TrackerBoard.Snapshot.Wire
import TrackerBoard.Text.Digits
import TrackerBoard.Text.Hex
import TrackerBoard.Text.Occurrence
import TrackerBoard.Text.Utf8
import TrackerBoard.Time.Calendar
import TrackerBoard.Time.Clock
import TrackerBoard.Time.Instant
import TrackerBoard.Time.Timestamp
import TrackerBoard.Tracker.Designator
import TrackerBoard.Tracker.EventLog
import TrackerBoard.Tracker.Watchdog
import TrackerBoard.Yaml.BlockScalar
import TrackerBoard.Yaml.Cursor
import TrackerBoard.Yaml.Directive
import TrackerBoard.Yaml.Event
import TrackerBoard.Yaml.Layout
import TrackerBoard.Yaml.Lexer
import TrackerBoard.Yaml.Mark
import TrackerBoard.Yaml.Node
import TrackerBoard.Yaml.Numeral
import TrackerBoard.Yaml.Scalar
import TrackerBoard.Yaml.Token
