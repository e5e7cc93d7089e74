import TenantWork.Access.Admin
import TenantWork.Command.Arguments
import TenantWork.Command.Report
import TenantWork.Command.Task
import TenantWork.Config.Ini
import TenantWork.Config.Settings
import TenantWork.Config.Source
import TenantWork.Config.Validation
import TenantWork.Error
import TenantWork.Json.Fault
import TenantWork.Json.Layout
import TenantWork.Json.Printer
import TenantWork.Json.Reader
import TenantWork.Json.Skip
import TenantWork.Json.Value
import TenantWork.Main
import TenantWork.Number.Double
import TenantWork.Number.Power
import TenantWork.Number.Shortest
import TenantWork.Number.Whole
import TenantWork.Proofs.Calls.Alone
import TenantWork.Proofs.Calls.Atomic
import TenantWork.Proofs.Calls.Contents
import TenantWork.Proofs.Calls.Dispatching
import TenantWork.Proofs.Calls.Faithful
import TenantWork.Proofs.Calls.Independent
import TenantWork.Proofs.Calls.KeyEntries
import TenantWork.Proofs.Calls.Levels
import TenantWork.Proofs.Calls.Modes
import TenantWork.Proofs.Calls.Moves
import TenantWork.Proofs.Calls.Performance
import TenantWork.Proofs.Calls.Refusals
import TenantWork.Proofs.Config.Agreement
import TenantWork.Proofs.Json.Reading
import TenantWork.Proofs.Number.Rounding
import TenantWork.Proofs.Schedule.Attempts
import TenantWork.Proofs.Schedule.Backends
import TenantWork.Proofs.Schedule.Chain
import TenantWork.Proofs.Schedule.Chronicle
import TenantWork.Proofs.Schedule.Commits
import TenantWork.Proofs.Schedule.Conduct
import TenantWork.Proofs.Schedule.Discipline
import TenantWork.Proofs.Schedule.Execution
import TenantWork.Proofs.Schedule.HandOver
import TenantWork.Proofs.Schedule.History
import TenantWork.Proofs.Schedule.InTurn
import TenantWork.Proofs.Schedule.Interchange
import TenantWork.Proofs.Schedule.JsonForms
import TenantWork.Proofs.Schedule.Keys
import TenantWork.Proofs.Schedule.Ledger
import TenantWork.Proofs.Schedule.Lockstep
import TenantWork.Proofs.Schedule.OneEffect
import TenantWork.Proofs.Schedule.Operation
import TenantWork.Proofs.Schedule.Removal
import TenantWork.Proofs.Schedule.Serial
import TenantWork.Proofs.Schedule.Snapshots
import TenantWork.Proofs.Schedule.Staleness
import TenantWork.Proofs.Schedule.StoredWork
import TenantWork.Proofs.Schedule.System
import TenantWork.Proofs.Store.KeyIndex
import TenantWork.Proofs.Store.Limit
import TenantWork.Proofs.Store.Listing
import TenantWork.Proofs.Store.Lossless
import TenantWork.Proofs.Store.MemoryCalls
import TenantWork.Proofs.Store.MemoryListing
import TenantWork.Proofs.Store.Mirror
import TenantWork.Proofs.Store.MirrorCalls
import TenantWork.Proofs.Store.ReadBack
import TenantWork.Proofs.Store.RowCodec
import TenantWork.Proofs.Store.Rows
import TenantWork.Proofs.Tenancy.Calls
import TenantWork.Proofs.Tenancy.DatabaseParts
import TenantWork.Proofs.Tenancy.MemoryParts
import TenantWork.Proofs.Tenancy.Noninterference
import TenantWork.Proofs.Tenancy.Pairing
import TenantWork.Proofs.Tenancy.Separation
import TenantWork.Proofs.Time.FixedText
import TenantWork.Proofs.Work.Entering
import TenantWork.Proofs.Work.WellFormed
import TenantWork.Service.Calls
import TenantWork.Service.Completion
import TenantWork.Service.Dispatch
import TenantWork.Service.Executor
import TenantWork.Service.Local
import TenantWork.Service.Program
import TenantWork.Service.Setup
import TenantWork.Service.Submission
import TenantWork.Service.World
import TenantWork.Store.Archive
import TenantWork.Store.Cell
import TenantWork.Store.Database
import TenantWork.Store.Gate
import TenantWork.Store.Memory
import TenantWork.Store.Row
import TenantWork.Store.Storage
import TenantWork.Store.Table
import TenantWork.Text.Blank
import TenantWork.Text.Identifier
import TenantWork.Text.Lowercase
import TenantWork.Text.Quoted
import TenantWork.Text.Ranges
import TenantWork.Text.Visible
import TenantWork.Time.Clock
import TenantWork.Time.Date
import TenantWork.Time.Instant
import TenantWork.Time.Rfc3339
import TenantWork.Work.Entity
import TenantWork.Work.EntityJson
import TenantWork.Work.EntityText
import TenantWork.Work.Kind
import TenantWork.Work.Lifecycle
import TenantWork.Work.Owner
import TenantWork.Work.Status
import TenantWork.Work.Transition
