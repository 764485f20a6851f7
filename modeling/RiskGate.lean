import RiskGate.Assessment
import RiskGate.BatchOutcome
import RiskGate.Breaker
import RiskGate.Cache.Expiring
import RiskGate.Cache.Stats
import RiskGate.Cache.Store
import RiskGate.Cache.Sweeper
import RiskGate.CommandLine
import RiskGate.Config.Address
import RiskGate.Config.OfToml
import RiskGate.Config.Settings
import RiskGate.Config.ToJson
import RiskGate.Config.Validation
import RiskGate.Deadline
import RiskGate.Decimal.Binary
import RiskGate.Decimal.Reading
import RiskGate.Decimal.Shortest
import RiskGate.Decimal.Text
import RiskGate.Engine
import RiskGate.Engine.Errand
import RiskGate.Engine.Scripted
import RiskGate.Engine.Service
import RiskGate.Failure
import RiskGate.Fingerprint
import RiskGate.Json.Number
import RiskGate.Json.Reader
import RiskGate.Json.Value
import RiskGate.Main
import RiskGate.Metrics.Collector
import RiskGate.Metrics.Durations
import RiskGate.Metrics.Exposition
import RiskGate.Metrics.Health
import RiskGate.Metrics.Ledger
import RiskGate.Metrics.Snapshot
import RiskGate.Pool.Calls
import RiskGate.Pool.Drill
import RiskGate.Pool.Floor
import RiskGate.Pool.Job
import RiskGate.Pool.Worker
import RiskGate.Proofs.BatchOutcome
import RiskGate.Proofs.Breaker.Announcement
import RiskGate.Proofs.Breaker.HalfOpen
import RiskGate.Proofs.Breaker.Isolation
import RiskGate.Proofs.Breaker.Outcomes
import RiskGate.Proofs.Breaker.Staleness
import RiskGate.Proofs.Breaker.Tripping
import RiskGate.Proofs.Cache.Contents
import RiskGate.Proofs.Cache.Gauge
import RiskGate.Proofs.Cache.Ideal
import RiskGate.Proofs.Cache.Sweeping
import RiskGate.Proofs.Config.Constraints
import RiskGate.Proofs.Config.FaceValue
import RiskGate.Proofs.Decimal.Order
import RiskGate.Proofs.Engine.Accord
import RiskGate.Proofs.Engine.Aftermath
import RiskGate.Proofs.Engine.Agreement
import RiskGate.Proofs.Engine.Answers
import RiskGate.Proofs.Engine.BatchAlone
import RiskGate.Proofs.Engine.Building
import RiskGate.Proofs.Engine.CacheHits
import RiskGate.Proofs.Engine.Coherence
import RiskGate.Proofs.Engine.Counting
import RiskGate.Proofs.Engine.Crew
import RiskGate.Proofs.Engine.Deadlines
import RiskGate.Proofs.Engine.Exposition
import RiskGate.Proofs.Engine.Log
import RiskGate.Proofs.Engine.OnceCounted
import RiskGate.Proofs.Engine.OneByOne
import RiskGate.Proofs.Engine.OneCall
import RiskGate.Proofs.Engine.Reckoning
import RiskGate.Proofs.Engine.Rounds
import RiskGate.Proofs.Engine.Run
import RiskGate.Proofs.Engine.Seclusion
import RiskGate.Proofs.Engine.Stories
import RiskGate.Proofs.Engine.Unmetered
import RiskGate.Proofs.Engine.Unoccupied
import RiskGate.Proofs.Engine.Vigil
import RiskGate.Proofs.Fingerprint
import RiskGate.Proofs.Metrics.Aggregates
import RiskGate.Proofs.Metrics.Mirror
import RiskGate.Proofs.Metrics.Thresholds
import RiskGate.Proofs.Pool.Accounts
import RiskGate.Proofs.Pool.Advancing
import RiskGate.Proofs.Pool.Alignment
import RiskGate.Proofs.Pool.Attention
import RiskGate.Proofs.Pool.Balance
import RiskGate.Proofs.Pool.Books
import RiskGate.Proofs.Pool.Cancellation
import RiskGate.Proofs.Pool.Conservation
import RiskGate.Proofs.Pool.Desks
import RiskGate.Proofs.Pool.Dispatch
import RiskGate.Proofs.Pool.Heeding
import RiskGate.Proofs.Pool.Moves
import RiskGate.Proofs.Pool.OrderlyRun
import RiskGate.Proofs.Pool.Orders
import RiskGate.Proofs.Pool.Places
import RiskGate.Proofs.Pool.Provenance
import RiskGate.Proofs.Pool.Quiet
import RiskGate.Proofs.Pool.Reporting
import RiskGate.Proofs.Pool.Run
import RiskGate.Proofs.Pool.Shutdown
import RiskGate.Proofs.Pool.Solo
import RiskGate.Proofs.Pool.SoloRun
import RiskGate.Proofs.Pool.Tracing
import RiskGate.Proofs.Pool.Vigilance
import RiskGate.Proofs.Pool.Whereabouts
import RiskGate.Proofs.Schedule.Agenda
import RiskGate.Proofs.Schedule.Plans
import RiskGate.Proofs.Simulation.Reconciliation
import RiskGate.Proofs.Simulation.Traffic
import RiskGate.Proofs.Text.Words
import RiskGate.Report
import RiskGate.Request
import RiskGate.RequestReader
import RiskGate.Schedule.Agenda
import RiskGate.Schedule.Clockwork
import RiskGate.Simulation.Run
import RiskGate.Simulation.Scoring
import RiskGate.Simulation.Traffic
import RiskGate.Span
import RiskGate.Tally
import RiskGate.Text.Blank
import RiskGate.Text.Casing
import RiskGate.Text.CodeRanges
import RiskGate.Text.Lowercase
import RiskGate.Text.LowercaseRuns
import RiskGate.Text.NonspacingMark
import RiskGate.Text.Quoted
import RiskGate.Text.Unprintable
import RiskGate.Toml.Document
import RiskGate.Toml.Lexical
import RiskGate.Toml.Node
import RiskGate.Toml.Table
