import TopoExec.Lib.Scc
import TopoExec.Lib.Kahn
import TopoExec.Lib.KahnPriority
import TopoExec.Lib.KahnVisits
import TopoExec.Lib.Loop
import TopoExec.Lib.History
import TopoExec.Lib.Queues
import TopoExec.Lib.OrderedMap
import TopoExec.Lib.Paired
import TopoExec.Lib.Accepts
import TopoExec.Lib.TopK
import TopoExec.Lib.Text
import TopoExec.Lib.Fresh
import TopoExec.Lib.Machine
import TopoExec.Lib.Transition
import TopoExec.Lib.CondVar
import TopoExec.Lib.Selection
import TopoExec.Lib.Ring
import TopoExec.Lib.Alignment
import TopoExec.Lib.Watermark
import TopoExec.Graph.Spec
import TopoExec.Graph.Compile
import TopoExec.Graph.Regions
import TopoExec.Graph.RegionVisits
import TopoExec.Graph.Acceptance
import TopoExec.Graph.Validate
import TopoExec.Graph.Validated
import TopoExec.Graph.LifecycleOrder
import TopoExec.Graph.Priority
import TopoExec.Graph.Subgraph
import TopoExec.Graph.Utf8
import TopoExec.Graph.Template
import TopoExec.Graph.Mermaid
import TopoExec.Graph.MermaidText
import TopoExec.Graph.Diagnostics
import TopoExec.Loader.Node
import TopoExec.Loader.Read
import TopoExec.Loader.Load
import TopoExec.Loader.Limits
import TopoExec.Loader.Fields
import TopoExec.Loader.Flatten
import TopoExec.Loader.WellFormed
import TopoExec.Loader.Text
import TopoExec.Channel.State
import TopoExec.Channel.Bus
import TopoExec.Channel.Step
import TopoExec.Channel.Laws
import TopoExec.Channel.Effect
import TopoExec.Channel.Accounting
import TopoExec.Channel.Slots
import TopoExec.Channel.Whereabouts
import TopoExec.Channel.Delivery
import TopoExec.Channel.DeliveryLaw
import TopoExec.Channel.Batch
import TopoExec.Channel.Stored
import TopoExec.Channel.Reading
import TopoExec.Channel.PreviousTick
import TopoExec.Channel.Barrier
import TopoExec.Channel.Peek
import TopoExec.Channel.Cursors
import TopoExec.Channel.ReaderCap
import TopoExec.Channel.Simulation
import TopoExec.Channel.Pruning
import TopoExec.Channel.Wiring
import TopoExec.Channel.Stamps
import TopoExec.Trigger.State
import TopoExec.Trigger.Flow
import TopoExec.Trigger.Run
import TopoExec.Trigger.RateLimit
import TopoExec.Trigger.TimeSync
import TopoExec.Trigger.Int64
import TopoExec.Trigger.Watermark
import TopoExec.Trigger.BatchWindow
import TopoExec.Trigger.Inheritance
import TopoExec.Router.State
import TopoExec.Router.Laws
import TopoExec.Router.Staging
import TopoExec.Router.Feed
import TopoExec.Router.Conservation
import TopoExec.Router.FanOut
import TopoExec.Router.Admission
import TopoExec.Router.InFlight
import TopoExec.Router.Visibility
import TopoExec.Router.Handover
import TopoExec.Router.Order
import TopoExec.Router.Fate
import TopoExec.Router.Refusal
import TopoExec.Runtime.ExecutionOrder
import TopoExec.Runtime.EventRuntime
import TopoExec.Runtime.Rules
import TopoExec.Runtime.Timeline
import TopoExec.Runtime.Iteration
import TopoExec.Runtime.Steps
import TopoExec.Runtime.Buses
import TopoExec.Runtime.RunInvariant
import TopoExec.Runtime.EdgeVisibility
import TopoExec.Runtime.Quiescence
import TopoExec.Runtime.PartialSuccess
import TopoExec.Runtime.History
import TopoExec.Runtime.Provenance
import TopoExec.Runtime.Causality
import TopoExec.Runtime.LoopErrors
import TopoExec.Runtime.FixedRate
import TopoExec.Runtime.Runner
import TopoExec.Runtime.Lifecycle
import TopoExec.Runtime.Cleanup
import TopoExec.Runtime.StartOrder
import TopoExec.Runtime.Verdict
import TopoExec.Runtime.GraphRun
import TopoExec.Runtime.WorkerPool
import TopoExec.Runtime.PoolRuns
import TopoExec.Runtime.PoolBatch
import TopoExec.Config.Store
import TopoExec.Config.Transaction
import TopoExec.Config.Commit
import TopoExec.Config.Rollback
import TopoExec.Config.TransactionOrder
import TopoExec.State.Store
import TopoExec.State.History
import TopoExec.Buffer.Pool
import TopoExec.Buffer.Ledger
import TopoExec.Buffer.Accounting
import TopoExec.Executor.State
import TopoExec.Executor.Invariant
import TopoExec.Executor.Accounts
import TopoExec.Executor.Wakeups
import TopoExec.Executor.Deterministic
import TopoExec.Executor.DeterministicContract
import TopoExec.Observe.LiveEventStream
import TopoExec.Observe.Fifo
import TopoExec.Observe.HealthEvents
import TopoExec.Plugin.Loader
import TopoExec.Plugin.Host
