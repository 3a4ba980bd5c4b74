import Torsor.Library.Table
import Torsor.Kernel.Values

/-! # The tables of the Kernel database

One structure per table, with the columns the Kernel's functions use, and for every
row the keys its `PRIMARY KEY` and `UNIQUE` constraints name. A key with a `NULL`
column constrains nothing, as in SQL.
-/

namespace Torsor.Kernel

open Torsor.Library

/-! ## Rows -/

inductive PrincipalKind where
  | human | agent | runtime
  deriving DecidableEq, Repr

structure Principal where
  id : String
  kind : PrincipalKind
  displayName : String

structure Project where
  id : String
  name : String

structure Channel where
  id : String
  projectId : String
  name : String

structure Agent where
  id : String
  principalId : String
  projectId : String
  name : String
  currentConfigRevision : Nat

structure AgentConfigRevision where
  agentId : String
  revision : Nat
  config : Json
  createdAt : Timestamp

/-- The single row of `causal_limits`. -/
structure CausalLimits where
  maxDepth : Nat
  maxNonTerminalRunsPerRoot : Nat

structure Thread where
  rootMessageId : String
  projectId : String
  channelId : String
  createdEventSequence : Option Nat
  cursor : Nat

structure Message where
  id : String
  projectId : String
  channelId : String
  threadRootId : String
  replyToMessageId : Option String
  authorPrincipalId : String
  authorAgentId : Option String
  causedByAttentionId : Option String
  causedByRunId : Option String
  threadSequence : Nat
  latestRevision : Nat
  createdEventSequence : Option Nat
  createdAt : Timestamp

structure MessageRevision where
  id : String
  messageId : String
  revision : Nat
  body : String
  tombstone : Bool
  createdEventSequence : Option Nat
  createdAt : Timestamp

structure Mention where
  id : String
  messageRevisionId : String
  targetAgentId : String
  createdEventSequence : Option Nat
  createdAt : Timestamp

inductive AttentionStatus where
  | Open | Resolved | Ignored
  deriving DecidableEq, Repr

inductive AttentionResolutionOutcome where
  | RunCreated | ExistingRunContinued | Ignored
  deriving DecidableEq, Repr

structure Attention where
  sequence : Nat
  id : String
  projectId : String
  channelId : String
  threadRootId : String
  messageRevisionId : String
  targetAgentId : String
  triggerKind : String
  status : AttentionStatus
  revision : Nat
  handlerLeaseHolderPrincipalId : Option String
  handlerLeaseToken : Option String
  handlerLeaseExpiresAt : Option Timestamp
  resolutionOutcome : Option AttentionResolutionOutcome
  resolvedByPrincipalId : Option String
  resolvedActivationId : Option String
  resolvedRunId : Option String
  createdEventSequence : Option Nat
  createdAt : Timestamp
  resolvedAt : Option Timestamp
  deriving DecidableEq

inductive RunState where
  | Active | Waiting | Completed | Failed | Cancelled
  deriving DecidableEq, Repr

def isTerminalRunState : RunState → Bool
  | .Completed | .Failed | .Cancelled => true
  | .Active | .Waiting => false

structure Run where
  id : String
  projectId : String
  homeChannelId : String
  threadRootId : String
  ownerAgentId : String
  agentConfigRevision : Nat
  causalRootId : String
  parentAttentionId : String
  parentRunId : Option String
  delegationDepth : Nat
  state : RunState
  revision : Nat
  activationGeneration : Nat
  nextInputSequence : Nat
  nextActivitySequence : Nat
  createdEventSequence : Option Nat
  createdAt : Timestamp
  updatedAt : Timestamp
  terminalReason : Option String

inductive RunInputDisposition where
  | Pending | Incorporated | Declined | Superseded | Withdrawn | Abandoned
  deriving DecidableEq, Repr

structure RunInput where
  id : String
  runId : String
  messageRevisionId : String
  runInputSequence : Nat
  assignedByPrincipalId : String
  assignedByActivationId : Option String
  sourceAttentionId : Option String
  createdEventSequence : Option Nat
  createdAt : Timestamp
  disposition : RunInputDisposition
  dispositionRevision : Nat
  dispositionReason : Option String
  supersededByRunInputId : Option String

inductive ActivationCause where
  | Run | Attention
  deriving DecidableEq, Repr

inductive ActivationOutcome where
  | Completed | Failed | Cancelled | Expired
  deriving DecidableEq, Repr

structure ActivationAttempt where
  id : String
  agentId : String
  runId : Option String
  attentionId : Option String
  attentionLeaseToken : Option String
  runActivationGeneration : Option Nat
  cause : ActivationCause
  configRevision : Nat
  createdEventSequence : Option Nat
  startedAt : Timestamp
  expiresAt : Timestamp
  revokedAt : Option Timestamp
  revocationReason : Option String
  finishedAt : Option Timestamp
  outcome : Option ActivationOutcome
  detail : Option String
  deriving DecidableEq

structure ActivationRunInput where
  activationId : String
  runInputId : String
  runInputSequence : Nat

inductive ProviderAttemptStatus where
  | Started | Acknowledged | Completed | Failed | Unknown
  deriving DecidableEq, Repr

/-- `status IN ('Started', 'Acknowledged')`. -/
def ProviderAttemptStatus.isUnsettled : ProviderAttemptStatus → Bool
  | .Started | .Acknowledged => true
  | .Completed | .Failed | .Unknown => false

structure ProviderAttempt where
  id : String
  activationId : String
  runId : Option String
  adapter : String
  adapterVersion : String
  capabilitySnapshot : Json
  runInputIds : List String
  requestIdempotencyKey : String
  status : ProviderAttemptStatus
  detail : Option String
  createdEventSequence : Option Nat
  startedAt : Timestamp
  finishedAt : Option Timestamp

/-- The single row of `kernel_runtime_state`. -/
structure KernelRuntimeState where
  attentionRecoveryRevision : Nat

structure AttentionRecoveryExecution where
  activationId : String
  startedAt : Timestamp
  expiresAt : Timestamp
  unfinished : Bool
  expiredRecoverable : Bool
  unsettledProviderAttemptCount : Nat
  finishedWithUnsettledProvider : Bool
  deriving DecidableEq

structure AttentionDomainFence where
  agentId : String
  projectId : String
  channelId : String
  threadRootId : String
  attentionId : String
  leaseToken : Option String
  leaseExpiresAt : Option Timestamp
  unsettledProviderAttemptCount : Nat
  deriving DecidableEq

inductive RetentionClass where
  | durable | transient
  deriving DecidableEq, Repr

structure RunActivityEvent where
  id : String
  runId : String
  activationId : Option String
  providerAttemptId : Option String
  sequence : Nat
  kind : String
  payload : Json
  retentionClass : RetentionClass
  createdEventSequence : Option Nat
  createdAt : Timestamp

structure Artifact where
  id : String
  contentDigest : String
  producerRunId : String
  producerActivationId : String
  producerThreadRootId : String
  baseRevision : String
  mediaType : String
  byteLength : Nat
  visibilityChannelId : String
  metadata : Option Json
  createdEventSequence : Option Nat
  createdAt : Timestamp

inductive OutboxTopic where
  | messagePublished | messageRevised | runActivationRequested | runInputAvailable
  | runInputWithdrawn | runActivated | runWaiting | runCompleted | runFailed | runCancelled
  | artifactPublished
  deriving DecidableEq, Repr

inductive AggregateType where
  | Message | Run | RunInput | Artifact
  deriving DecidableEq, Repr

structure OutboxEvent where
  sequence : Nat
  id : String
  topic : OutboxTopic
  aggregateType : AggregateType
  aggregateId : String
  payload : Json
  deliveryAttempts : Nat
  leaseHolderPrincipalId : Option String
  leaseToken : Option String
  leaseExpiresAt : Option Timestamp
  createdAt : Timestamp
  acknowledgedAt : Option Timestamp
  acknowledgedByPrincipalId : Option String

inductive WorktreeWriterLeaseStatus where
  | Active | Released | Expired | Quarantined
  deriving DecidableEq, Repr

structure WorktreeWriterLease where
  worktreeId : String
  revision : Nat
  generation : Nat
  fencingToken : Nat
  status : WorktreeWriterLeaseStatus
  holderPrincipalId : Option String
  leaseToken : Option String
  acquiredAt : Option Timestamp
  renewedAt : Option Timestamp
  expiresAt : Option Timestamp
  releasedAt : Option Timestamp
  quarantineReason : Option String
  quarantineToken : Option String
  quarantineEvidence : Option Json
  quarantinedAt : Option Timestamp
  quarantineResolvedAt : Option Timestamp
  quarantineResolution : Option String
  updatedAt : Timestamp

inductive WorktreeWriterLeaseEventType where
  | WorktreeWriterLeaseAcquired | WorktreeWriterLeaseRenewed | WorktreeWriterLeaseReleased
  | WorktreeWriterLeaseExpired | WorktreeWriterLeaseQuarantined
  | WorktreeWriterLeaseQuarantineResolved
  deriving DecidableEq, Repr

structure WorktreeWriterLeaseEvent where
  sequence : Nat
  id : String
  worktreeId : String
  type : WorktreeWriterLeaseEventType
  revision : Nat
  generation : Nat
  fencingToken : Nat
  actorPrincipalId : String
  holderPrincipalId : Option String
  expiresAt : Option Timestamp
  reason : Option String
  evidence : Option Json
  correlationId : String
  occurredAt : Timestamp

inductive PhysicalWorktreeState where
  | Ready | Quarantined
  deriving DecidableEq, Repr

structure PhysicalWorktree where
  worktreeId : String
  runId : String
  repositoryId : String
  repositoryPath : String
  baseRevision : String
  directoryPath : String
  directoryIdentity : String
  state : PhysicalWorktreeState
  createdAt : Timestamp

inductive WorktreeExecutionState where
  | Starting | Running | StopRequested | StopConfirmed | ForceTerminated | Uncertain
  deriving DecidableEq, Repr

inductive WorktreeOperation where
  | writeProbe | nativeProvider
  deriving DecidableEq, Repr

inductive PermissionMode where
  | providerDefault | allowAll
  deriving DecidableEq, Repr

structure WorktreeExecution where
  sequence : Nat
  id : String
  worktreeId : String
  activationId : String
  runtimePrincipalId : String
  executorId : String
  executionToken : String
  generation : Nat
  fencingToken : Nat
  operation : WorktreeOperation
  providerAttemptId : Option String
  permissionMode : Option PermissionMode
  state : WorktreeExecutionState
  pid : Option Nat
  authorityRevokedAt : Option Timestamp
  authorityRevocationReason : Option String
  createdAt : Timestamp

structure WorktreeExecutionEvent where
  sequence : Nat
  executionId : String
  state : WorktreeExecutionState
  evidence : String
  occurredAt : Timestamp

inductive EventType where
  | MessagePublished | MessageEdited | MessageDeleted | AttentionOpened | AttentionClaimed
  | AttentionHandlerLeaseSuperseded | AttentionResolved | AttentionIgnored | RunCreated
  | RunInputAdded | RunInputWithdrawn | RunActivated | RunWaiting | RunCompleted | RunFailed
  | RunCancelled | RunConfigAdopted | AgentConfigUpdated | ActivationStarted
  | ActivationFinished | ProviderAttemptStarted | ProviderAttemptAcknowledged
  | ProviderAttemptFinished | RunActivityAppended | LateOutputRecorded | ArtifactPublished
  deriving DecidableEq, Repr

inductive EntityType where
  | Message | Attention | Run | RunInput | ActivationAttempt | ProviderAttempt
  | RunActivityEvent | Artifact | Agent
  deriving DecidableEq, Repr

structure PublicEvent where
  sequence : Nat
  eventId : String
  type : EventType
  projectId : String
  channelId : Option String
  threadRootId : Option String
  threadCursor : Option Nat
  entityType : EntityType
  entityId : String
  actorPrincipalId : String
  activationId : Option String
  causationId : Option String
  correlationId : String
  payload : Json
  occurredAt : Timestamp

structure RunHistory where
  runId : String
  eventSequence : Nat
  state : RunState
  revision : Nat
  agentConfigRevision : Nat
  activationGeneration : Nat
  updatedAt : Timestamp
  terminalReason : Option String

structure RunInputHistory where
  runInputId : String
  eventSequence : Nat
  disposition : RunInputDisposition
  dispositionRevision : Nat
  dispositionReason : Option String
  supersededByRunInputId : Option String

structure ActivationHistory where
  activationId : String
  eventSequence : Nat
  revokedAt : Option Timestamp
  revocationReason : Option String
  finishedAt : Option Timestamp
  outcome : Option ActivationOutcome
  detail : Option String

structure ProviderAttemptHistory where
  providerAttemptId : String
  eventSequence : Nat
  status : ProviderAttemptStatus
  detail : Option String
  finishedAt : Option Timestamp

structure AttentionHistory where
  attentionId : String
  eventSequence : Nat
  status : AttentionStatus
  revision : Nat
  handlerLeaseHolderPrincipalId : Option String
  handlerLeaseExpiresAt : Option Timestamp
  resolutionOutcome : Option AttentionResolutionOutcome
  resolvedRunId : Option String
  resolvedAt : Option Timestamp

/-- A row of the temporary table `projection_activation_changes`. -/
structure ProjectionActivationChange where
  activationId : String

/-! ## Keys -/

/-- A column value in a key. -/
inductive Cell where
  | text (value : String)
  | integer (value : Nat)
  deriving DecidableEq

/-- The columns of one row under the constraint with this number on its table. -/
structure UniqueKey where
  constraint : Nat
  cells : List Cell
  deriving DecidableEq

/-- The primary key of a row. -/
def primaryKey (cells : List Cell) : UniqueKey := ⟨0, cells⟩

open Cell

instance : Keyed Principal UniqueKey := ⟨fun r => [primaryKey [text r.id]]⟩
instance : Keyed Project UniqueKey := ⟨fun r => [primaryKey [text r.id]]⟩
instance : Keyed Channel UniqueKey := ⟨fun r => [primaryKey [text r.id]]⟩
instance : Keyed Agent UniqueKey :=
  ⟨fun r => [primaryKey [text r.id], ⟨1, [text r.principalId]⟩]⟩
instance : Keyed AgentConfigRevision UniqueKey :=
  ⟨fun r => [primaryKey [text r.agentId, integer r.revision]]⟩
instance : Keyed CausalLimits UniqueKey := ⟨fun _ => [primaryKey []]⟩
instance : Keyed Thread UniqueKey := ⟨fun r => [primaryKey [text r.rootMessageId]]⟩
instance : Keyed Message UniqueKey := ⟨fun r => [primaryKey [text r.id]]⟩
instance : Keyed MessageRevision UniqueKey :=
  ⟨fun r => [primaryKey [text r.id], ⟨1, [text r.messageId, integer r.revision]⟩]⟩
instance : Keyed Mention UniqueKey :=
  ⟨fun r => [primaryKey [text r.id], ⟨1, [text r.messageRevisionId, text r.targetAgentId]⟩]⟩
instance : Keyed Attention UniqueKey :=
  ⟨fun r => [primaryKey [integer r.sequence], ⟨1, [text r.id]⟩,
    ⟨2, [text r.messageRevisionId, text r.targetAgentId, text r.triggerKind]⟩]⟩
instance : Keyed Run UniqueKey := ⟨fun r => [primaryKey [text r.id]]⟩
instance : Keyed RunInput UniqueKey :=
  ⟨fun r => [primaryKey [text r.id], ⟨1, [text r.runId, text r.messageRevisionId]⟩,
    ⟨2, [text r.runId, integer r.runInputSequence]⟩]⟩
instance : Keyed ActivationAttempt UniqueKey :=
  ⟨fun r => primaryKey [text r.id] ::
    match r.attentionId, r.attentionLeaseToken with
    | some attentionId, some token => [⟨1, [text attentionId, text token]⟩]
    | _, _ => []⟩
instance : Keyed ActivationRunInput UniqueKey :=
  ⟨fun r => [primaryKey [text r.activationId, text r.runInputId],
    ⟨1, [text r.activationId, integer r.runInputSequence]⟩]⟩
instance : Keyed ProviderAttempt UniqueKey :=
  ⟨fun r => [primaryKey [text r.id], ⟨1, [text r.activationId, text r.requestIdempotencyKey]⟩]⟩
instance : Keyed KernelRuntimeState UniqueKey := ⟨fun _ => [primaryKey []]⟩
instance : Keyed AttentionRecoveryExecution UniqueKey :=
  ⟨fun r => [primaryKey [text r.activationId]]⟩
instance : Keyed AttentionDomainFence UniqueKey :=
  ⟨fun r => [primaryKey [text r.agentId, text r.projectId, text r.channelId,
    text r.threadRootId], ⟨1, [text r.attentionId]⟩]⟩
instance : Keyed RunActivityEvent UniqueKey :=
  ⟨fun r => [primaryKey [text r.id], ⟨1, [text r.runId, integer r.sequence]⟩]⟩
instance : Keyed Artifact UniqueKey :=
  ⟨fun r => [primaryKey [text r.id], ⟨1, [text r.producerRunId, text r.contentDigest]⟩]⟩
instance : Keyed OutboxEvent UniqueKey :=
  ⟨fun r => [primaryKey [integer r.sequence], ⟨1, [text r.id]⟩]⟩
instance : Keyed WorktreeWriterLease UniqueKey := ⟨fun r => [primaryKey [text r.worktreeId]]⟩
instance : Keyed WorktreeWriterLeaseEvent UniqueKey :=
  ⟨fun r => [primaryKey [integer r.sequence], ⟨1, [text r.id]⟩]⟩
instance : Keyed PhysicalWorktree UniqueKey :=
  ⟨fun r => [primaryKey [text r.worktreeId], ⟨1, [text r.directoryPath]⟩,
    ⟨2, [text r.directoryIdentity]⟩]⟩
/-- The partial index `worktree_unsettled_execution_idx` forbids two executions of a
Worktree that are not stopped. -/
instance : Keyed WorktreeExecution UniqueKey :=
  ⟨fun r => primaryKey [integer r.sequence] :: ⟨1, [text r.id]⟩ ::
    if r.state = .StopConfirmed ∨ r.state = .ForceTerminated then []
    else [⟨2, [text r.worktreeId]⟩]⟩
instance : Keyed WorktreeExecutionEvent UniqueKey :=
  ⟨fun r => [primaryKey [integer r.sequence]]⟩
instance : Keyed PublicEvent UniqueKey :=
  ⟨fun r => [primaryKey [integer r.sequence], ⟨1, [text r.eventId]⟩]⟩
instance : Keyed RunHistory UniqueKey :=
  ⟨fun r => [primaryKey [text r.runId, integer r.eventSequence]]⟩
instance : Keyed RunInputHistory UniqueKey :=
  ⟨fun r => [primaryKey [text r.runInputId, integer r.eventSequence]]⟩
instance : Keyed ActivationHistory UniqueKey :=
  ⟨fun r => [primaryKey [text r.activationId, integer r.eventSequence]]⟩
instance : Keyed ProviderAttemptHistory UniqueKey :=
  ⟨fun r => [primaryKey [text r.providerAttemptId, integer r.eventSequence]]⟩
instance : Keyed AttentionHistory UniqueKey :=
  ⟨fun r => [primaryKey [text r.attentionId, integer r.eventSequence]]⟩
instance : Keyed ProjectionActivationChange UniqueKey :=
  ⟨fun r => [primaryKey [text r.activationId]]⟩

end Torsor.Kernel
