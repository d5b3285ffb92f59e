import GraphSweep.CommandLine.Result
import GraphSweep.Main
import GraphSweep.Pipeline.Delivery
import GraphSweep.Pipeline.Lifetime
import GraphSweep.Script
import GraphSweep.Session
import GraphSweep.Proofs.Feed
import GraphSweep.Proofs.Fixture.Contents
import GraphSweep.Proofs.Fixture.Documents
import GraphSweep.Proofs.Fixture.Generated
import GraphSweep.Proofs.Fixture.Pieces
import GraphSweep.Proofs.Fixture.Places
import GraphSweep.Proofs.Fixture.Reordering
import GraphSweep.Proofs.Fixture.Rows
import GraphSweep.Proofs.Fixture.Stored
import GraphSweep.Proofs.Fixture.Validation
import GraphSweep.Proofs.GraphStore.Columns
import GraphSweep.Proofs.GraphStore.CursorAccounts
import GraphSweep.Proofs.GraphStore.CursorHistory
import GraphSweep.Proofs.GraphStore.Edges
import GraphSweep.Proofs.GraphStore.History
import GraphSweep.Proofs.GraphStore.KeyOrder
import GraphSweep.Proofs.GraphStore.Records
import GraphSweep.Proofs.GraphStore.RelationOrder
import GraphSweep.Proofs.GraphStore.Reordering
import GraphSweep.Proofs.GraphStore.Scan
import GraphSweep.Proofs.IdLayout
import GraphSweep.Proofs.Job.Conservation
import GraphSweep.Proofs.Job.Coverage
import GraphSweep.Proofs.Job.Dispatch
import GraphSweep.Proofs.Job.Exactness
import GraphSweep.Proofs.Job.Failures
import GraphSweep.Proofs.Job.FollowUp
import GraphSweep.Proofs.Job.Punctual
import GraphSweep.Proofs.Job.Isolation
import GraphSweep.Proofs.Job.Narrow
import GraphSweep.Proofs.Job.Opening
import GraphSweep.Proofs.Job.Overflow
import GraphSweep.Proofs.Job.Rejection
import GraphSweep.Proofs.Job.Release
import GraphSweep.Proofs.Job.Retirement
import GraphSweep.Proofs.Job.Rounds
import GraphSweep.Proofs.Job.Schedules
import GraphSweep.Proofs.Job.Served
import GraphSweep.Proofs.Job.Snapshot
import GraphSweep.Proofs.Job.Standing
import GraphSweep.Proofs.Job.Stored
import GraphSweep.Proofs.Job.Streams
import GraphSweep.Proofs.Job.Truncation
import GraphSweep.Proofs.Join.Ascending
import GraphSweep.Proofs.Join.Continued
import GraphSweep.Proofs.Join.Course
import GraphSweep.Proofs.Join.Cut
import GraphSweep.Proofs.Join.Effects
import GraphSweep.Proofs.Join.Errors
import GraphSweep.Proofs.Join.Leading
import GraphSweep.Proofs.Join.Ledger
import GraphSweep.Proofs.JobConfig
import GraphSweep.Proofs.Json.Records
import GraphSweep.Proofs.Json.RoundTrip
import GraphSweep.Proofs.Json.Scanning
import GraphSweep.Proofs.Json.Tokens
import GraphSweep.Proofs.Measure.Report
import GraphSweep.Proofs.Measure.Shares
import GraphSweep.Proofs.Measure.Totals
import GraphSweep.Proofs.Measure.Values
import GraphSweep.Proofs.Pipeline.Coverage
import GraphSweep.Proofs.Pipeline.Cut
import GraphSweep.Proofs.Pipeline.Delivery
import GraphSweep.Proofs.Pipeline.Faithful
import GraphSweep.Proofs.Pipeline.Forecast
import GraphSweep.Proofs.Pipeline.Ledger
import GraphSweep.Proofs.Pipeline.Lifetime
import GraphSweep.Proofs.Pipeline.Pool
import GraphSweep.Proofs.Pipeline.Progress
import GraphSweep.Proofs.Pipeline.Reader
import GraphSweep.Proofs.Pipeline.Record
import GraphSweep.Proofs.Pipeline.Steps
import GraphSweep.Proofs.Pipeline.Success
import GraphSweep.Proofs.Pipeline.Workers
import GraphSweep.Proofs.StateStore.Absorb
import GraphSweep.Proofs.StateStore.Answers
import GraphSweep.Proofs.StateStore.Entries
import GraphSweep.Proofs.StateStore.FoldOrder
import GraphSweep.Proofs.StateStore.Integers
import GraphSweep.Proofs.StateStore.MergeLaw
import GraphSweep.Proofs.StateStore.Overflow
import GraphSweep.Proofs.StateStore.Siblings
import GraphSweep.Proofs.StateStore.Writing
import GraphSweep.Proofs.VertexId.Keys
import GraphSweep.Proofs.VertexId.Parts
import GraphSweep.Proofs.VertexId.Siblings
import GraphSweep.Proofs.View
