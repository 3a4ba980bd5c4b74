import Torsor.Library.Transaction
import Torsor.Library.Table
import Torsor.Library.Versions
import Torsor.Library.LeaseQueue
import Torsor.Library.LogReader
import Torsor.Library.Machine
import Torsor.Library.NumberedLog
import Torsor.Library.KeysetPages
import Torsor.Library.NumberedRange
import Torsor.Library.EntryMap
import Torsor.Library.Following
import Torsor.Library.Ancestry
import Torsor.Library.PrefixCode
import Torsor.Library.JsonQuote
import Torsor.Library.Coupling
import Torsor.Library.JsText
import Torsor.Library.QuotedUnits
import Torsor.Library.Binary64
import Torsor.Library.CommandLine
import Torsor.Library.JsonValue
import Torsor.Library.Framing
import Torsor.Kernel.Values
import Torsor.Kernel.CanonicalJson
import Torsor.Kernel.Schema
import Torsor.Kernel.Types
import Torsor.Kernel.Database
import Torsor.Kernel.Frame
import Torsor.Kernel.Triggers
import Torsor.Kernel.Mappings
import Torsor.Kernel.ArtifactVisibility
import Torsor.Kernel.Invariants
import Torsor.Kernel.CausalLimits
import Torsor.Kernel.Outbox
import Torsor.Kernel.Execution
import Torsor.Kernel.Collaboration
import Torsor.Kernel.Runs
import Torsor.Kernel.Attentions
import Torsor.Kernel.Configuration
import Torsor.Kernel.Artifacts
import Torsor.Kernel.WorktreeWriterLeases
import Torsor.Kernel.PhysicalWorktrees
import Torsor.Kernel.History
import Torsor.Kernel.Projections
import Torsor.Kernel.ActivityPages
import Torsor.Kernel.Kernel
import Torsor.Kernel.System
import Torsor.Kernel.Commits
import Torsor.Kernel.PlainErrors
import Torsor.Kernel.OutboxQueue
import Torsor.Kernel.OutboxAuthority
import Torsor.Kernel.WorktreeBook
import Torsor.Kernel.WorktreeLedger
import Torsor.Kernel.RunBook
import Torsor.Kernel.RunMoves
import Torsor.Kernel.RunLaws
import Torsor.Kernel.RunCompletion
import Torsor.Kernel.ConfigPinning
import Torsor.Kernel.ConfigRevisions
import Torsor.Kernel.MessageMoves
import Torsor.Kernel.MessageHistory
import Torsor.Kernel.ThreadBook
import Torsor.Kernel.Provenance
import Torsor.Kernel.CausalContainment
import Torsor.Kernel.Replays
import Torsor.Kernel.ReplayResults
import Torsor.Kernel.EventLog
import Torsor.Kernel.EventPages
import Torsor.Kernel.Failures
import Torsor.Kernel.Idempotency
import Torsor.Kernel.WorktreeExclusion
import Torsor.Kernel.AttentionOrder
import Torsor.Kernel.AgentStatus
import Torsor.Kernel.WriterFencing
import Torsor.Kernel.LeaseFencing
import Torsor.Kernel.AttentionDecisions
import Torsor.Kernel.ActivityLog
import Torsor.Kernel.AttentionDomains
import Torsor.Kernel.SpentLeases
import Torsor.Kernel.ArtifactRows
import Torsor.Kernel.ArtifactStorage
import Torsor.Kernel.ArtifactIntegrity
import Torsor.Server.EventStream
import Torsor.Server.LocalRuntimeHost
import Torsor.AgentRuntime.ControlledWorktreeProcess
import Torsor.AgentRuntime.StopHonesty
import Torsor.AgentRuntime.AttentionDispatch
import Torsor.AgentRuntime.AttentionScheduler
import Torsor.AgentRuntime.SchedulerInvariants
import Torsor.AgentRuntime.SchedulerSafety
import Torsor.AgentRuntime.WindowsArguments
import Torsor.AgentRuntime.ToolActivity
import Torsor.AgentRuntime.NdjsonFraming
import Torsor.AgentRuntime.ActionPlan
import Torsor.AgentRuntime.CopilotExecution
import Torsor.AgentRuntime.CopilotPlanSafety
import Torsor.Server.Sessions
import Torsor.Web.Window
import Torsor.Web.Browser
import Torsor.Web.SessionIsolation
import Torsor.Web.ProjectionRefresh
import Torsor.Web.ReadInvariants
import Torsor.Web.ReadSteps
import Torsor.Web.ComposerSteps
import Torsor.Web.InvalidationWork
import Torsor.Web.Invalidations
import Torsor.Web.ShownProjections
import Torsor.Web.TimelineHistory
import Torsor.Web.RunTimeline
import Torsor.Web.TimelineWindows
import Torsor.Web.TimelineReads
import Torsor.Web.TimelineSound
import Torsor.Web.RunCommands
import Torsor.Web.RunControls
import Torsor.Web.RunControlMoves
import Torsor.Web.RunControlRecovery
import Torsor.Web.RunControlRuns
import Torsor.AcpConformance.Wire
import Torsor.AcpConformance.Lifecycle
import Torsor.AcpConformance.WireObservation
import Torsor.AcpConformance.WireLifecycle
import Torsor.AcpConformance.WireFraming
import Torsor.AcpConformance.Transcript
import Torsor.AcpConformance.Redaction
import Torsor.AcpConformance.Noninterference
