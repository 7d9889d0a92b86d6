import ProcessEngine.Condition
import ProcessEngine.Data.KeyOrder
import ProcessEngine.Data.OrderedMap
import ProcessEngine.Data.Search
import ProcessEngine.Data.Sorting
import ProcessEngine.DeadLetter
import ProcessEngine.Digest.Sha256
import ProcessEngine.Engine.Basic
import ProcessEngine.Engine.Config
import ProcessEngine.Engine.Error
import ProcessEngine.Engine.Incidents
import ProcessEngine.Engine.Instances
import ProcessEngine.Engine.Jobs
import ProcessEngine.Engine.Operation
import ProcessEngine.Engine.Reply
import ProcessEngine.Engine.Signals
import ProcessEngine.Engine.Workers
import ProcessEngine.Event
import ProcessEngine.Fiber.Basic
import ProcessEngine.Fiber.Wait
import ProcessEngine.Graph.Basic
import ProcessEngine.Graph.Draft
import ProcessEngine.Graph.Error
import ProcessEngine.Graph.Flow
import ProcessEngine.Graph.Node
import ProcessEngine.Graph.Script
import ProcessEngine.Identifier
import ProcessEngine.Incident
import ProcessEngine.Instance.Basic
import ProcessEngine.Instance.State
import ProcessEngine.Instance.Status
import ProcessEngine.Job.Basic
import ProcessEngine.Job.Key
import ProcessEngine.Job.Result
import ProcessEngine.Job.Status
import ProcessEngine.Join
import ProcessEngine.Json.Basic
import ProcessEngine.Json.Decode
import ProcessEngine.Json.Number
import ProcessEngine.Json.Parser
import ProcessEngine.Json.Printer
import ProcessEngine.Lifecycle
import ProcessEngine.Logging.Config
import ProcessEngine.Logging.Filter
import ProcessEngine.Logging.Live
import ProcessEngine.Logging.Pattern
import ProcessEngine.Lowering.Assembly
import ProcessEngine.Lowering.Basic
import ProcessEngine.Lowering.Error
import ProcessEngine.Lowering.Layout
import ProcessEngine.Machine.Delivery
import ProcessEngine.Machine.Ending
import ProcessEngine.Machine.Error
import ProcessEngine.Machine.Forking
import ProcessEngine.Machine.Halting
import ProcessEngine.Machine.Operation
import ProcessEngine.Machine.Run
import ProcessEngine.Machine.Step
import ProcessEngine.Machine.Waiting
import ProcessEngine.NodeKey
import ProcessEngine.Number.Fraction
import ProcessEngine.Number.Shortest
import ProcessEngine.Program.Basic
import ProcessEngine.Program.Cache
import ProcessEngine.Program.Codec
import ProcessEngine.Program.Error
import ProcessEngine.Program.Instruction
import ProcessEngine.Program.Listing
import ProcessEngine.Program.Symbols
import ProcessEngine.Proofs.Advances
import ProcessEngine.Proofs.Agreement
import ProcessEngine.Proofs.Anchors
import ProcessEngine.Proofs.AssembledCode
import ProcessEngine.Proofs.Attempts
import ProcessEngine.Proofs.Awaiting
import ProcessEngine.Proofs.Blocks
import ProcessEngine.Proofs.CompiledGraphs
import ProcessEngine.Proofs.CheckedCode
import ProcessEngine.Proofs.CodeReferences
import ProcessEngine.Proofs.Commits
import ProcessEngine.Proofs.Completions
import ProcessEngine.Proofs.Contention
import ProcessEngine.Proofs.Continuations
import ProcessEngine.Proofs.Endings
import ProcessEngine.Proofs.Epochs
import ProcessEngine.Proofs.FiberEffects
import ProcessEngine.Proofs.FiberShape
import ProcessEngine.Proofs.Filing
import ProcessEngine.Proofs.GraphParts
import ProcessEngine.Proofs.Gathering
import ProcessEngine.Proofs.GraphCode
import ProcessEngine.Proofs.Interventions
import ProcessEngine.Proofs.JobAgreement
import ProcessEngine.Proofs.JobKeys
import ProcessEngine.Proofs.JobTables
import ProcessEngine.Proofs.NodeCode
import ProcessEngine.Proofs.Outcomes
import ProcessEngine.Proofs.ProgramParts
import ProcessEngine.Proofs.RaceArms
import ProcessEngine.Proofs.Results
import ProcessEngine.Proofs.FailureReports
import ProcessEngine.Proofs.Sendings
import ProcessEngine.Proofs.Scheduling
import ProcessEngine.Proofs.Sparing
import ProcessEngine.Proofs.Supplies
import ProcessEngine.Proofs.Tables
import ProcessEngine.Proofs.Transactions
import ProcessEngine.Proofs.Traversal
import ProcessEngine.Proofs.Turns
import ProcessEngine.Proofs.VerifiedGraphs
import ProcessEngine.Proofs.Wakes
import ProcessEngine.Retry
import ProcessEngine.Signal
import ProcessEngine.Store.Basic
import ProcessEngine.Store.Column
import ProcessEngine.Store.Error
import ProcessEngine.Store.Memory
import ProcessEngine.Store.Operation
import ProcessEngine.Store.Rivals
import ProcessEngine.Store.Settings
import ProcessEngine.Store.Tables
import ProcessEngine.Text.Blank
import ProcessEngine.Text.Letter
import ProcessEngine.Text.Numeral
import ProcessEngine.Text.Printable
import ProcessEngine.Text.Quoted
import ProcessEngine.Time.Calendar
import ProcessEngine.Time.Instant
import ProcessEngine.Time.Rfc3339
import ProcessEngine.Transition
import ProcessEngine.UnitOfWork
import ProcessEngine.Value
import ProcessEngine.Verification.Basic
import ProcessEngine.Verification.Pairing
import ProcessEngine.Verification.Problem
import ProcessEngine.Verification.Reachability
import ProcessEngine.Verification.Routing
import ProcessEngine.Verification.Shape
import ProcessEngine.Proofs.Successes
import ProcessEngine.Proofs.SafeWork
import ProcessEngine.Proofs.SafeTurns
import ProcessEngine.Proofs.SafeChanges
import ProcessEngine.Proofs.FaultFreedom
import ProcessEngine.Proofs.Stranding
import ProcessEngine.Proofs.Deployments
import ProcessEngine.Proofs.StuckInstances
import ProcessEngine.Proofs.SharedStores
import ProcessEngine.Proofs.Transitions
import ProcessEngine.Proofs.Logs
import ProcessEngine.Proofs.Narration
import ProcessEngine.Proofs.Finality
import ProcessEngine.Proofs.Phases
import ProcessEngine.Proofs.Notices
import ProcessEngine.Proofs.Replays
import ProcessEngine.Proofs.Mirrors
import ProcessEngine.Proofs.Slicing
import ProcessEngine.Proofs.Boundaries
import ProcessEngine.Proofs.Companions
import ProcessEngine.Proofs.FreshDispatches
import ProcessEngine.Proofs.WrittenPrograms
import ProcessEngine.Proofs.Commuting
import ProcessEngine.Proofs.ContentHashes
import ProcessEngine.Proofs.JoinCounts
import ProcessEngine.Proofs.RoutingChoices
import ProcessEngine.Proofs.BranchPaths
import ProcessEngine.Proofs.ReachabilityReports
import ProcessEngine.Proofs.FiberRuns
import ProcessEngine.Proofs.ExclusiveGateways
import ProcessEngine.Proofs.InclusiveGateways
import ProcessEngine.Proofs.ControlFlow
import ProcessEngine.Proofs.Lineages
import ProcessEngine.Proofs.CountedLoops
import ProcessEngine.Proofs.GatewayPartners
import ProcessEngine.Proofs.Faults
import ProcessEngine.Proofs.Bounds
import ProcessEngine.Proofs.CheckedParts
import ProcessEngine.Proofs.Sweeps
import ProcessEngine.Proofs.Leases
import ProcessEngine.Proofs.RaceTargets
import ProcessEngine.Proofs.Waits
import ProcessEngine.Proofs.Races
import ProcessEngine.Proofs.Origins
import ProcessEngine.Proofs.Requeues
import ProcessEngine.Proofs.Budgets
import ProcessEngine.Proofs.Exhaustion
import ProcessEngine.Proofs.EmptyWork
import ProcessEngine.Proofs.HaltedFibers
import ProcessEngine.Proofs.RoutingFaults
