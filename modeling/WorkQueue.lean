import WorkQueue.Config.Codec
import WorkQueue.Config.Environment
import WorkQueue.Document.Decode
import WorkQueue.Document.Printer
import WorkQueue.Document.Reader
import WorkQueue.Event.Broadcast
import WorkQueue.Event.Counters
import WorkQueue.Event.Fanout
import WorkQueue.Event.Metrics
import WorkQueue.Memory.Backend
import WorkQueue.Memory.Store
import WorkQueue.Proofs.Discipline
import WorkQueue.Proofs.Exclusion
import WorkQueue.Proofs.Location
import WorkQueue.Proofs.Undo
import WorkQueue.Queue.Append
import WorkQueue.Queue.Maintenance
import WorkQueue.Queue.Recovery
import WorkQueue.Queue.Retention
import WorkQueue.Queue.Settlement
import WorkQueue.Queue.Worker
import WorkQueue.Session.Machine
import WorkQueue.Session.Play
import WorkQueue.Session.Schedule
import WorkQueue.Session.Script
import WorkQueue.Sql.Connection
import WorkQueue.Sql.Identifier
import WorkQueue.Proofs.History
import WorkQueue.Proofs.Conformance
import WorkQueue.Proofs.Budget
import WorkQueue.Proofs.Settlement
import WorkQueue.Proofs.Staleness
import WorkQueue.Proofs.Purge
import WorkQueue.Proofs.Census
import WorkQueue.Proofs.Stock
import WorkQueue.Proofs.InFlight
import WorkQueue.Proofs.Waiting
import WorkQueue.Proofs.Drain
import WorkQueue.Proofs.Trail
import WorkQueue.Proofs.Independence
import WorkQueue.Proofs.RoundTrip
import WorkQueue.Proofs.Duty
import WorkQueue.Proofs.Pool
import WorkQueue.Proofs.Decision
import WorkQueue.Proofs.Series
import WorkQueue.Proofs.Insertion
import WorkQueue.Proofs.Release
import WorkQueue.Proofs.Intake
import WorkQueue.Proofs.Commutation
import WorkQueue.Proofs.Account
import WorkQueue.Proofs.Cycle
import WorkQueue.Proofs.Window
import WorkQueue.Proofs.Setting
import WorkQueue.Proofs.Shutdown
import WorkQueue.Proofs.Indexes
import WorkQueue.Proofs.Boundary
import WorkQueue.Proofs.Sinks
