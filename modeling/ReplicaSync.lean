import ReplicaSync.Config.Basic
import ReplicaSync.Config.Draft
import ReplicaSync.Config.Endpoint
import ReplicaSync.Coordinator.Act
import ReplicaSync.Coordinator.Basic
import ReplicaSync.Coordinator.Flight
import ReplicaSync.Coordinator.Task
import ReplicaSync.Coordinator.World
import ReplicaSync.Decimal.Shortest
import ReplicaSync.Event.Basic
import ReplicaSync.Event.Bus
import ReplicaSync.Event.Wire
import ReplicaSync.Failure
import ReplicaSync.Fanout.Client
import ReplicaSync.Fanout.Inbound
import ReplicaSync.Fanout.Line
import ReplicaSync.Gate
import ReplicaSync.Identity
import ReplicaSync.Json.Basic
import ReplicaSync.Json.Memory
import ReplicaSync.Json.Printer
import ReplicaSync.Json.Reader
import ReplicaSync.Json.Schema
import ReplicaSync.Log.Entry
import ReplicaSync.Log.Fields
import ReplicaSync.Log.Level
import ReplicaSync.Logging.Config
import ReplicaSync.Logging.Directive
import ReplicaSync.Logging.Event
import ReplicaSync.Logging.Filter
import ReplicaSync.Logging.Layout
import ReplicaSync.Logging.Session
import ReplicaSync.Logging.Threshold
import ReplicaSync.Pass
import ReplicaSync.Path.Basic
import ReplicaSync.Path.Disk
import ReplicaSync.Pattern.Basic
import ReplicaSync.Pattern.Brackets
import ReplicaSync.Pattern.CharSet
import ReplicaSync.Pattern.Escape
import ReplicaSync.Pattern.Flags
import ReplicaSync.Pattern.Place
import ReplicaSync.Pattern.Reader
import ReplicaSync.Pattern.Search
import ReplicaSync.Pipeline.Basic
import ReplicaSync.Pipeline.Wire
import ReplicaSync.Rehearsal.Basic
import ReplicaSync.Rehearsal.Clock
import ReplicaSync.Rehearsal.Fanout
import ReplicaSync.Rehearsal.Gate
import ReplicaSync.Rehearsal.Network
import ReplicaSync.Rehearsal.Response
import ReplicaSync.Rehearsal.Run
import ReplicaSync.Rehearsal.Script
import ReplicaSync.Rehearsal.Watcher
import ReplicaSync.Text.Alphanumeric
import ReplicaSync.Text.Blank
import ReplicaSync.Text.Cased
import ReplicaSync.Text.Hexadecimal
import ReplicaSync.Text.Lowercase
import ReplicaSync.Text.Printable
import ReplicaSync.Text.Quoted
import ReplicaSync.Text.Ranges
import ReplicaSync.Text.Slice
import ReplicaSync.Text.Utf8
import ReplicaSync.Time.Date
import ReplicaSync.Time.Duration
import ReplicaSync.Time.Instant
import ReplicaSync.Time.Rfc3339
import ReplicaSync.Trigger
import ReplicaSync.Watcher.Basic
import ReplicaSync.Watcher.RawEvent
import ReplicaSync.Proofs.Coordinator.Leg
import ReplicaSync.Proofs.Coordinator.Stretch
import ReplicaSync.Proofs.Coordinator.Course
import ReplicaSync.Proofs.Coordinator.History
import ReplicaSync.Proofs.Coordinator.SingleFlight
import ReplicaSync.Proofs.Coordinator.Pages
import ReplicaSync.Proofs.Coordinator.Deferral
import ReplicaSync.Proofs.Coordinator.EventGrammar
import ReplicaSync.Proofs.Coordinator.Exchanges
import ReplicaSync.Proofs.Coordinator.Round
import ReplicaSync.Proofs.Coordinator.TaskView
import ReplicaSync.Proofs.Coordinator.Clock
import ReplicaSync.Proofs.Coordinator.Listeners
import ReplicaSync.Proofs.Coordinator.Cadence
import ReplicaSync.Proofs.Coordinator.Endurance
import ReplicaSync.Proofs.Coordinator.SoleLoop
import ReplicaSync.Proofs.Coordinator.ChangeRequests
import ReplicaSync.Proofs.Coordinator.Story
import ReplicaSync.Proofs.Coordinator.Announcing
import ReplicaSync.Proofs.Coordinator.Observers
import ReplicaSync.Proofs.Coordinator.Thinning
import ReplicaSync.Proofs.Coordinator.Marks
import ReplicaSync.Proofs.Coordinator.Counterpart
import ReplicaSync.Proofs.Coordinator.Refusals
import ReplicaSync.Proofs.Coordinator.Shutdown
import ReplicaSync.Proofs.Fanout.Replay
import ReplicaSync.Proofs.Fanout.Announcements
import ReplicaSync.Proofs.Watcher.Bookkeeping
import ReplicaSync.Proofs.Watcher.Batches
import ReplicaSync.Proofs.Coordinator.Alarms
import ReplicaSync.Proofs.Coordinator.Warnings
import ReplicaSync.Proofs.Fanout.Lines
import ReplicaSync.Proofs.Fanout.Relay
import ReplicaSync.Proofs.Json.RoundTrip
import ReplicaSync.Proofs.Gate.Discipline
import ReplicaSync.Proofs.Coordinator.Bystanders
import ReplicaSync.Proofs.Coordinator.Abandonment
import ReplicaSync.Proofs.Coordinator.Cancellation
import ReplicaSync.Proofs.Coordinator.Reports
import ReplicaSync.Proofs.Watcher.Punctuality
import ReplicaSync.Proofs.Watcher.Endings
import ReplicaSync.Proofs.Fanout.ServerLines
import ReplicaSync.Proofs.Fanout.Dispatch
import ReplicaSync.Proofs.Fanout.RefusedCalls
import ReplicaSync.Proofs.Identity.Codec
import ReplicaSync.Proofs.Config.Layout
import ReplicaSync.Proofs.Config.Acceptance
import ReplicaSync.Proofs.Event.Streams
import ReplicaSync.Proofs.Path.Spelling
import ReplicaSync.Proofs.Text.Names
import ReplicaSync.Proofs.Time.Calendar
import ReplicaSync.Proofs.Time.Timestamps
import ReplicaSync.Proofs.Log.Entries
