import Torsor.Kernel.Schema

/-! # Commands, contexts and results

The command records of the Kernel, one structure each, with the results a command
returns and the view of a row that a result carries. A number a caller supplies is an
`Int` where the Kernel checks its range or compares it with a stored counter.
-/

namespace Torsor.Kernel

open Torsor.Library

structure PrincipalContext where
  principalId : String
  activationId : Option String := none

structure KernelOperationContext where
  correlationId : String

/-! ## Commands -/

structure StartThreadCommand where
  idempotencyKey : String
  projectId : String
  channelId : String
  body : String
  targetAgentIds : Option (List String) := none

structure ReplyToThreadCommand where
  idempotencyKey : String
  threadRootId : String
  body : String
  targetAgentIds : Option (List String) := none
  expectedThreadCursor : Option Int := none

structure EditMessageCommand where
  idempotencyKey : String
  messageId : String
  expectedMessageRevision : Int
  body : String
  targetAgentIds : Option (List String) := none

structure DeleteMessageCommand where
  idempotencyKey : String
  messageId : String
  expectedMessageRevision : Int

structure UpdateAgentConfigCommand where
  idempotencyKey : String
  agentId : String
  expectedAgentConfigRevision : Int
  config : Json

structure AdoptRunConfigCommand where
  idempotencyKey : String
  runId : String
  expectedRunRevision : Int
  expectedAgentConfigRevision : Int
  targetAgentConfigRevision : Int

structure SendToRunCommand where
  idempotencyKey : String
  runId : String
  expectedRunRevision : Option Int
  body : String
  targetAgentIds : Option (List String) := none

structure CancelRunCommand where
  idempotencyKey : String
  runId : String
  expectedRunRevision : Int
  reason : String

structure WithdrawRunInputCommand where
  idempotencyKey : String
  runInputId : String
  expectedRunRevision : Int
  expectedDispositionRevision : Int
  reason : String

structure ClaimAttentionCommand where
  idempotencyKey : String
  attentionId : String
  expectedAttentionRevision : Int
  leaseDurationMs : Int

/-- The fields a decision on an Attention has in common. -/
structure AttentionDecision where
  attentionId : String
  expectedAttentionRevision : Int
  handlerLeaseToken : String

structure ResolveAttentionWithRunCommand extends AttentionDecision where
  idempotencyKey : String

structure IgnoreAttentionCommand extends AttentionDecision where
  idempotencyKey : String
  reason : String

structure ResolveAttentionWithExistingRunCommand extends AttentionDecision where
  idempotencyKey : String
  runId : String
  expectedRunRevision : Int

/-- The Outbox event and the lease token a delivery is admitted under. -/
structure OutboxAuthority where
  outboxEventId : Option String := none
  outboxLeaseToken : Option String := none

structure StartActivationCommand extends OutboxAuthority where
  idempotencyKey : String
  runId : Option String := none
  attentionId : Option String := none
  handlerLeaseToken : Option String := none
  expectedRunRevision : Option Int := none
  durationMs : Option Int := none

structure FinishActivationCommand where
  idempotencyKey : String
  activationId : String
  outcome : ActivationOutcome
  detail : Option String := none

structure StartProviderAttemptCommand extends OutboxAuthority where
  idempotencyKey : String
  activationId : String
  adapter : String
  adapterVersion : String
  capabilitySnapshot : Json
  runInputIds : List String
  requestIdempotencyKey : String

structure FinishProviderAttemptCommand where
  idempotencyKey : String
  providerAttemptId : String
  status : ProviderAttemptStatus
  detail : Option String := none

structure FailProviderAttemptCommand where
  idempotencyKey : String
  providerAttemptId : String
  error : String

structure ParkRunAfterProviderAttemptFailureCommand where
  idempotencyKey : String
  runId : String
  providerAttemptId : String
  expectedRunRevision : Int
  expectedActivationGeneration : Int
  reason : String

structure ClaimOutboxEventsCommand where
  idempotencyKey : String
  limit : Option Int := none
  leaseDurationMs : Int

structure AcknowledgeOutboxEventsCommand where
  idempotencyKey : String
  outboxEventIds : List String
  leaseToken : String

structure AppendRunActivityCommand where
  idempotencyKey : String
  runId : String
  activationId : Option String := none
  providerAttemptId : Option String := none
  kind : String
  payload : Json
  retentionClass : RetentionClass

structure PublishRunReplyCommand where
  idempotencyKey : String
  runId : String
  expectedRunRevision : Int
  body : String
  targetAgentIds : Option (List String) := none
  expectedThreadCursor : Option Int := none

structure PublishArtifactCommand where
  idempotencyKey : String
  runId : String
  expectedRunRevision : Int
  contentDigest : String
  byteLength : Nat

structure CompletionException where
  runInputId : String
  disposition : RunInputDisposition
  reason : String
  supersededByRunInputId : Option String := none

structure FinalReply where
  body : String
  targetAgentIds : Option (List String) := none
  expectedThreadCursor : Option Int := none

structure CompleteRunCommand where
  idempotencyKey : String
  runId : String
  expectedRunRevision : Int
  incorporatedThroughInputSequence : Int
  exceptions : Option (List CompletionException) := none
  finalReply : Option FinalReply := none

structure WaitRunCommand where
  idempotencyKey : String
  runId : String
  expectedRunRevision : Int
  reason : String

structure FailRunCommand where
  idempotencyKey : String
  runId : String
  expectedRunRevision : Int
  reason : String

structure RecordLateOutputCommand where
  idempotencyKey : String
  runId : String
  activationId : Option String := none
  providerAttemptId : Option String := none
  payload : Json

structure WorktreeLeaseAuthority where
  worktreeId : String
  generation : Nat
  fencingToken : Nat
  leaseToken : String

structure WorktreeExecutionReceipt where
  executionId : String
  executorId : String
  executionToken : String

structure WorktreeMutationAuthority extends WorktreeLeaseAuthority, WorktreeExecutionReceipt

structure WorktreeProviderBinding where
  providerAttemptId : String
  permissionMode : PermissionMode

structure RegisterPhysicalWorktreeCommand where
  idempotencyKey : String
  worktreeId : String
  runId : String
  repositoryId : String
  repositoryPath : String
  baseRevision : String
  directoryPath : String
  directoryIdentity : String

structure StartWorktreeExecutionCommand extends WorktreeLeaseAuthority where
  idempotencyKey : String
  activationId : String
  executorId : String
  provider : Option WorktreeProviderBinding := none

structure RecordWorktreeExecutionCommand extends WorktreeExecutionReceipt where
  idempotencyKey : String
  state : WorktreeExecutionState
  pid : Option Int := none
  evidence : String
  preservePublicationAuthority : Option Bool := none

structure RevokeWorktreeExecutionAuthorityCommand extends WorktreeExecutionReceipt where
  idempotencyKey : String
  reason : String

structure RecoverWorktreeExecutionCommand where
  idempotencyKey : String
  executionId : String
  reason : String

structure AcquireWorktreeWriterLeaseCommand where
  idempotencyKey : String
  worktreeId : String
  leaseDurationMs : Int

structure RenewWorktreeWriterLeaseCommand extends WorktreeLeaseAuthority where
  idempotencyKey : String
  leaseDurationMs : Int

structure ReleaseWorktreeWriterLeaseCommand extends WorktreeLeaseAuthority where
  idempotencyKey : String

structure QuarantineWorktreeWriterLeaseCommand where
  idempotencyKey : String
  worktreeId : String
  expectedGeneration : Option Nat := none
  expectedFencingToken : Option Nat := none
  leaseToken : Option String := none
  reason : String
  evidence : Option Json := none

structure ResolveWorktreeWriterLeaseQuarantineCommand where
  idempotencyKey : String
  worktreeId : String
  expectedRevision : Int
  expectedFencingToken : Int
  quarantineToken : String
  resolution : String

inductive KernelCommand where
  | StartThread (command : StartThreadCommand)
  | ReplyToThread (command : ReplyToThreadCommand)
  | EditMessage (command : EditMessageCommand)
  | DeleteMessage (command : DeleteMessageCommand)
  | UpdateAgentConfig (command : UpdateAgentConfigCommand)
  | AdoptRunConfig (command : AdoptRunConfigCommand)
  | SendToRun (command : SendToRunCommand)
  | CancelRun (command : CancelRunCommand)
  | WithdrawRunInput (command : WithdrawRunInputCommand)
  | ClaimAttention (command : ClaimAttentionCommand)
  | ResolveAttentionWithRun (command : ResolveAttentionWithRunCommand)
  | IgnoreAttention (command : IgnoreAttentionCommand)
  | ResolveAttentionWithExistingRun (command : ResolveAttentionWithExistingRunCommand)
  | StartActivation (command : StartActivationCommand)
  | FinishActivation (command : FinishActivationCommand)
  | StartProviderAttempt (command : StartProviderAttemptCommand)
  | FinishProviderAttempt (command : FinishProviderAttemptCommand)
  | FailProviderAttempt (command : FailProviderAttemptCommand)
  | ParkRunAfterProviderAttemptFailure (command : ParkRunAfterProviderAttemptFailureCommand)
  | ClaimOutboxEvents (command : ClaimOutboxEventsCommand)
  | AcknowledgeOutboxEvents (command : AcknowledgeOutboxEventsCommand)
  | AppendRunActivity (command : AppendRunActivityCommand)
  | PublishRunReply (command : PublishRunReplyCommand)
  | PublishArtifact (command : PublishArtifactCommand)
  | CompleteRun (command : CompleteRunCommand)
  | WaitRun (command : WaitRunCommand)
  | FailRun (command : FailRunCommand)
  | RecordLateOutput (command : RecordLateOutputCommand)
  | RegisterPhysicalWorktree (command : RegisterPhysicalWorktreeCommand)
  | StartWorktreeExecution (command : StartWorktreeExecutionCommand)
  | RecordWorktreeExecution (command : RecordWorktreeExecutionCommand)
  | RevokeWorktreeExecutionAuthority (command : RevokeWorktreeExecutionAuthorityCommand)
  | RecoverWorktreeExecution (command : RecoverWorktreeExecutionCommand)
  | AcquireWorktreeWriterLease (command : AcquireWorktreeWriterLeaseCommand)
  | RenewWorktreeWriterLease (command : RenewWorktreeWriterLeaseCommand)
  | ReleaseWorktreeWriterLease (command : ReleaseWorktreeWriterLeaseCommand)
  | QuarantineWorktreeWriterLease (command : QuarantineWorktreeWriterLeaseCommand)
  | ResolveWorktreeWriterLeaseQuarantine (command : ResolveWorktreeWriterLeaseQuarantineCommand)

inductive CommandType where
  | StartThread | ReplyToThread | EditMessage | DeleteMessage | UpdateAgentConfig
  | AdoptRunConfig | SendToRun | CancelRun | WithdrawRunInput | ClaimAttention
  | ResolveAttentionWithRun | IgnoreAttention | ResolveAttentionWithExistingRun
  | StartActivation | FinishActivation | StartProviderAttempt | FinishProviderAttempt
  | FailProviderAttempt | ParkRunAfterProviderAttemptFailure | ClaimOutboxEvents
  | AcknowledgeOutboxEvents | AppendRunActivity | PublishRunReply | PublishArtifact
  | CompleteRun | WaitRun | FailRun | RecordLateOutput | RegisterPhysicalWorktree
  | StartWorktreeExecution | RecordWorktreeExecution | RevokeWorktreeExecutionAuthority
  | RecoverWorktreeExecution | AcquireWorktreeWriterLease | RenewWorktreeWriterLease
  | ReleaseWorktreeWriterLease | QuarantineWorktreeWriterLease
  | ResolveWorktreeWriterLeaseQuarantine
  deriving DecidableEq, Repr

def KernelCommand.type : KernelCommand → CommandType
  | .StartThread _ => .StartThread
  | .ReplyToThread _ => .ReplyToThread
  | .EditMessage _ => .EditMessage
  | .DeleteMessage _ => .DeleteMessage
  | .UpdateAgentConfig _ => .UpdateAgentConfig
  | .AdoptRunConfig _ => .AdoptRunConfig
  | .SendToRun _ => .SendToRun
  | .CancelRun _ => .CancelRun
  | .WithdrawRunInput _ => .WithdrawRunInput
  | .ClaimAttention _ => .ClaimAttention
  | .ResolveAttentionWithRun _ => .ResolveAttentionWithRun
  | .IgnoreAttention _ => .IgnoreAttention
  | .ResolveAttentionWithExistingRun _ => .ResolveAttentionWithExistingRun
  | .StartActivation _ => .StartActivation
  | .FinishActivation _ => .FinishActivation
  | .StartProviderAttempt _ => .StartProviderAttempt
  | .FinishProviderAttempt _ => .FinishProviderAttempt
  | .FailProviderAttempt _ => .FailProviderAttempt
  | .ParkRunAfterProviderAttemptFailure _ => .ParkRunAfterProviderAttemptFailure
  | .ClaimOutboxEvents _ => .ClaimOutboxEvents
  | .AcknowledgeOutboxEvents _ => .AcknowledgeOutboxEvents
  | .AppendRunActivity _ => .AppendRunActivity
  | .PublishRunReply _ => .PublishRunReply
  | .PublishArtifact _ => .PublishArtifact
  | .CompleteRun _ => .CompleteRun
  | .WaitRun _ => .WaitRun
  | .FailRun _ => .FailRun
  | .RecordLateOutput _ => .RecordLateOutput
  | .RegisterPhysicalWorktree _ => .RegisterPhysicalWorktree
  | .StartWorktreeExecution _ => .StartWorktreeExecution
  | .RecordWorktreeExecution _ => .RecordWorktreeExecution
  | .RevokeWorktreeExecutionAuthority _ => .RevokeWorktreeExecutionAuthority
  | .RecoverWorktreeExecution _ => .RecoverWorktreeExecution
  | .AcquireWorktreeWriterLease _ => .AcquireWorktreeWriterLease
  | .RenewWorktreeWriterLease _ => .RenewWorktreeWriterLease
  | .ReleaseWorktreeWriterLease _ => .ReleaseWorktreeWriterLease
  | .QuarantineWorktreeWriterLease _ => .QuarantineWorktreeWriterLease
  | .ResolveWorktreeWriterLeaseQuarantine _ => .ResolveWorktreeWriterLeaseQuarantine

def KernelCommand.idempotencyKey : KernelCommand → String
  | .StartThread command => command.idempotencyKey
  | .ReplyToThread command => command.idempotencyKey
  | .EditMessage command => command.idempotencyKey
  | .DeleteMessage command => command.idempotencyKey
  | .UpdateAgentConfig command => command.idempotencyKey
  | .AdoptRunConfig command => command.idempotencyKey
  | .SendToRun command => command.idempotencyKey
  | .CancelRun command => command.idempotencyKey
  | .WithdrawRunInput command => command.idempotencyKey
  | .ClaimAttention command => command.idempotencyKey
  | .ResolveAttentionWithRun command => command.idempotencyKey
  | .IgnoreAttention command => command.idempotencyKey
  | .ResolveAttentionWithExistingRun command => command.idempotencyKey
  | .StartActivation command => command.idempotencyKey
  | .FinishActivation command => command.idempotencyKey
  | .StartProviderAttempt command => command.idempotencyKey
  | .FinishProviderAttempt command => command.idempotencyKey
  | .FailProviderAttempt command => command.idempotencyKey
  | .ParkRunAfterProviderAttemptFailure command => command.idempotencyKey
  | .ClaimOutboxEvents command => command.idempotencyKey
  | .AcknowledgeOutboxEvents command => command.idempotencyKey
  | .AppendRunActivity command => command.idempotencyKey
  | .PublishRunReply command => command.idempotencyKey
  | .PublishArtifact command => command.idempotencyKey
  | .CompleteRun command => command.idempotencyKey
  | .WaitRun command => command.idempotencyKey
  | .FailRun command => command.idempotencyKey
  | .RecordLateOutput command => command.idempotencyKey
  | .RegisterPhysicalWorktree command => command.idempotencyKey
  | .StartWorktreeExecution command => command.idempotencyKey
  | .RecordWorktreeExecution command => command.idempotencyKey
  | .RevokeWorktreeExecutionAuthority command => command.idempotencyKey
  | .RecoverWorktreeExecution command => command.idempotencyKey
  | .AcquireWorktreeWriterLease command => command.idempotencyKey
  | .RenewWorktreeWriterLease command => command.idempotencyKey
  | .ReleaseWorktreeWriterLease command => command.idempotencyKey
  | .QuarantineWorktreeWriterLease command => command.idempotencyKey
  | .ResolveWorktreeWriterLeaseQuarantine command => command.idempotencyKey

/-! ## Results -/

structure OutboxEventView where
  cursor : Nat
  id : String
  topic : OutboxTopic
  aggregateType : AggregateType
  aggregateId : String
  payload : Json
  deliveryAttempts : Nat
  leaseHolderPrincipalId : Option String
  leaseExpiresAt : Option Timestamp
  acknowledgedAt : Option Timestamp
  createdAt : Timestamp

structure WorktreeWriterLeaseView where
  worktreeId : String
  revision : Nat
  generation : Nat
  fencingToken : Nat
  status : WorktreeWriterLeaseStatus
  holderPrincipalId : Option String
  acquiredAt : Option Timestamp
  renewedAt : Option Timestamp
  expiresAt : Option Timestamp
  releasedAt : Option Timestamp
  quarantineReason : Option String
  quarantineEvidence : Option Json
  quarantinedAt : Option Timestamp
  quarantineResolvedAt : Option Timestamp
  quarantineResolution : Option String
  updatedAt : Timestamp

structure CommandResult where
  commandType : CommandType
  entityId : String
  correlationId : Option String := none
  revision : Option Nat := none
  threadCursor : Option Nat := none
  relatedIds : List (String × String) := []
  leaseToken : Option String := none
  leaseExpiresAt : Option Timestamp := none
  authorityObservedAt : Option Timestamp := none
  outboxEvents : Option (List OutboxEventView) := none
  leaseGeneration : Option Nat := none
  fencingToken : Option Nat := none
  quarantineToken : Option String := none
  executionToken : Option String := none
  worktreeWriterLease : Option WorktreeWriterLeaseView := none

/-- `result.relatedIds?.key`. -/
def CommandResult.relatedId? (result : CommandResult) (key : String) : Option String :=
  (result.relatedIds.find? fun entry => entry.1 = key).map (·.2)

structure IdempotencyRecord where
  principalId : String
  commandName : CommandType
  idempotencyKey : String
  payloadHash : String
  result : CommandResult
  createdAt : Timestamp

/-- The primary key of `idempotency_records`; the command name is counted off in the
constraint number. -/
instance : Keyed IdempotencyRecord UniqueKey :=
  ⟨fun r => [⟨r.commandName.ctorIdx, [.text r.principalId, .text r.idempotencyKey]⟩]⟩

end Torsor.Kernel
