import TaskCoordination.Barrier.Basic
import TaskCoordination.Barrier.Operation
import TaskCoordination.Barrier.Request
import TaskCoordination.Catalog.Basic
import TaskCoordination.Catalog.Json
import TaskCoordination.Coordinator.Basic
import TaskCoordination.Coordinator.Setup
import TaskCoordination.Descriptor
import TaskCoordination.Directory
import TaskCoordination.Duration
import TaskCoordination.Feed.Listener
import TaskCoordination.Feed.Queue
import TaskCoordination.Identifier
import TaskCoordination.Invocation
import TaskCoordination.Json.Basic
import TaskCoordination.Json.Compact
import TaskCoordination.Lifecycle.Basic
import TaskCoordination.Lifecycle.Event
import TaskCoordination.Lifecycle.State
import TaskCoordination.Number
import TaskCoordination.ObjectStore
import TaskCoordination.Parameter.Basic
import TaskCoordination.Parameter.Json
import TaskCoordination.Profile
import TaskCoordination.Proofs.Barrier.Clearance
import TaskCoordination.Proofs.Barrier.Duplicate
import TaskCoordination.Proofs.Barrier.Finality
import TaskCoordination.Proofs.Barrier.Firing
import TaskCoordination.Proofs.Barrier.Quiescence
import TaskCoordination.Proofs.Barrier.Run
import TaskCoordination.Proofs.Barrier.Step
import TaskCoordination.Proofs.Catalog.Implementations
import TaskCoordination.Proofs.Catalog.Rendering
import TaskCoordination.Proofs.Catalog.Signatures
import TaskCoordination.Proofs.Catalog.Step
import TaskCoordination.Proofs.Coordinator.Command
import TaskCoordination.Proofs.Coordinator.Observers
import TaskCoordination.Proofs.Coordinator.Setup
import TaskCoordination.Proofs.Coordinator.Shutdown
import TaskCoordination.Proofs.Directory.Description
import TaskCoordination.Proofs.Directory.Labels
import TaskCoordination.Proofs.Directory.Pending
import TaskCoordination.Proofs.Directory.Reference
import TaskCoordination.Proofs.Directory.Refusal
import TaskCoordination.Proofs.Directory.Run
import TaskCoordination.Proofs.Directory.Step
import TaskCoordination.Proofs.Feed
import TaskCoordination.Proofs.Feed.Delivery
import TaskCoordination.Proofs.Json.Basic
import TaskCoordination.Proofs.Json.Records
import TaskCoordination.Proofs.Lifecycle.Accounting
import TaskCoordination.Proofs.Lifecycle.Attempt
import TaskCoordination.Proofs.Lifecycle.History
import TaskCoordination.Proofs.Lifecycle.Outcome
import TaskCoordination.Proofs.Lifecycle.Step
import TaskCoordination.Proofs.Lifecycle.Values
import TaskCoordination.Proofs.List
import TaskCoordination.Proofs.Number
import TaskCoordination.Proofs.ObjectStore
import TaskCoordination.Proofs.Profile.Reload
import TaskCoordination.Proofs.Profile.Statistics
import TaskCoordination.Proofs.Resource.Coverage
import TaskCoordination.Proofs.Resource.Overflow
import TaskCoordination.Proofs.Resource.Slots
import TaskCoordination.Proofs.Session.Basic
import TaskCoordination.Proofs.Session.Log
import TaskCoordination.Proofs.Session.Outcome
import TaskCoordination.Proofs.Session.Pending
import TaskCoordination.Proofs.Session.Refusal
import TaskCoordination.Proofs.Session.Submission
import TaskCoordination.Proofs.Settings.Grammar
import TaskCoordination.Proofs.Settings.Reading
import TaskCoordination.Proofs.Workflow.Agreement
import TaskCoordination.Proofs.Workflow.Calls
import TaskCoordination.Proofs.Workflow.Cascade
import TaskCoordination.Proofs.Workflow.Chain
import TaskCoordination.Proofs.Workflow.Change
import TaskCoordination.Proofs.Workflow.Delivery
import TaskCoordination.Proofs.Workflow.Dispatch
import TaskCoordination.Proofs.Workflow.Frame
import TaskCoordination.Proofs.Workflow.Log
import TaskCoordination.Proofs.Workflow.Pending
import TaskCoordination.Proofs.Workflow.Records
import TaskCoordination.Proofs.Workflow.Report
import TaskCoordination.Proofs.Workflow.Submission
import TaskCoordination.Proofs.Workflow.Transcript
import TaskCoordination.Proofs.Workflow.Unobserved
import TaskCoordination.Proofs.Workflow.Verdict
import TaskCoordination.Rejection
import TaskCoordination.Resource.Basic
import TaskCoordination.Resource.Capacity
import TaskCoordination.Resource.Debug
import TaskCoordination.Resource.Json
import TaskCoordination.Settings
import TaskCoordination.Snapshot
import TaskCoordination.Telemetry
import TaskCoordination.Text.Blank
import TaskCoordination.Text.CharClass
import TaskCoordination.Text.Debug
import TaskCoordination.Text.Extender
import TaskCoordination.Text.Ignorable
import TaskCoordination.Text.Numeral
import TaskCoordination.Text.Printable
import TaskCoordination.Workflow.Basic
import TaskCoordination.Workflow.Cascade
import TaskCoordination.Workflow.Event
