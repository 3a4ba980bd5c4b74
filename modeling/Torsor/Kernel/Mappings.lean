import Torsor.Kernel.Types

/-! # Views of rows

What a query shows of a row, and the text of the values a payload names.
-/

namespace Torsor.Kernel

/-! ## Text of enumerations -/

def RunState.text : RunState → String
  | .Active => "Active"
  | .Waiting => "Waiting"
  | .Completed => "Completed"
  | .Failed => "Failed"
  | .Cancelled => "Cancelled"

def RunInputDisposition.text : RunInputDisposition → String
  | .Pending => "Pending"
  | .Incorporated => "Incorporated"
  | .Declined => "Declined"
  | .Superseded => "Superseded"
  | .Withdrawn => "Withdrawn"
  | .Abandoned => "Abandoned"

def ActivationOutcome.text : ActivationOutcome → String
  | .Completed => "Completed"
  | .Failed => "Failed"
  | .Cancelled => "Cancelled"
  | .Expired => "Expired"

def ProviderAttemptStatus.text : ProviderAttemptStatus → String
  | .Started => "Started"
  | .Acknowledged => "Acknowledged"
  | .Completed => "Completed"
  | .Failed => "Failed"
  | .Unknown => "Unknown"

def WorktreeExecutionState.text : WorktreeExecutionState → String
  | .Starting => "Starting"
  | .Running => "Running"
  | .StopRequested => "StopRequested"
  | .StopConfirmed => "StopConfirmed"
  | .ForceTerminated => "ForceTerminated"
  | .Uncertain => "Uncertain"

def RetentionClass.text : RetentionClass → String
  | .durable => "durable"
  | .transient => "transient"

def PrincipalKind.text : PrincipalKind → String
  | .human => "human"
  | .agent => "agent"
  | .runtime => "runtime"

def EventType.text : EventType → String
  | .MessagePublished => "MessagePublished"
  | .MessageEdited => "MessageEdited"
  | .MessageDeleted => "MessageDeleted"
  | .AttentionOpened => "AttentionOpened"
  | .AttentionClaimed => "AttentionClaimed"
  | .AttentionHandlerLeaseSuperseded => "AttentionHandlerLeaseSuperseded"
  | .AttentionResolved => "AttentionResolved"
  | .AttentionIgnored => "AttentionIgnored"
  | .RunCreated => "RunCreated"
  | .RunInputAdded => "RunInputAdded"
  | .RunInputWithdrawn => "RunInputWithdrawn"
  | .RunActivated => "RunActivated"
  | .RunWaiting => "RunWaiting"
  | .RunCompleted => "RunCompleted"
  | .RunFailed => "RunFailed"
  | .RunCancelled => "RunCancelled"
  | .RunConfigAdopted => "RunConfigAdopted"
  | .AgentConfigUpdated => "AgentConfigUpdated"
  | .ActivationStarted => "ActivationStarted"
  | .ActivationFinished => "ActivationFinished"
  | .ProviderAttemptStarted => "ProviderAttemptStarted"
  | .ProviderAttemptAcknowledged => "ProviderAttemptAcknowledged"
  | .ProviderAttemptFinished => "ProviderAttemptFinished"
  | .RunActivityAppended => "RunActivityAppended"
  | .LateOutputRecorded => "LateOutputRecorded"
  | .ArtifactPublished => "ArtifactPublished"

def EntityType.text : EntityType → String
  | .Message => "Message"
  | .Attention => "Attention"
  | .Run => "Run"
  | .RunInput => "RunInput"
  | .ActivationAttempt => "ActivationAttempt"
  | .ProviderAttempt => "ProviderAttempt"
  | .RunActivityEvent => "RunActivityEvent"
  | .Artifact => "Artifact"
  | .Agent => "Agent"

/-! ## Views -/

structure MessageRevisionView where
  id : String
  revision : Nat
  body : String
  tombstone : Bool
  targetAgentIds : List String
  createdAt : Timestamp

def mapMessageRevision (row : MessageRevision) (targetAgentIds : List String) :
    MessageRevisionView where
  id := row.id
  revision := row.revision
  body := row.body
  tombstone := row.tombstone
  targetAgentIds := targetAgentIds
  createdAt := row.createdAt

structure MessageView where
  id : String
  threadRootId : String
  replyToMessageId : Option String
  authorPrincipalId : String
  authorAgentId : Option String
  causedByAttentionId : Option String
  causedByRunId : Option String
  threadCursor : Nat
  latestRevision : Nat
  revisions : List MessageRevisionView
  targetAgentIds : List String
  createdAt : Timestamp

def mapMessage (row : Message) (revisions : List MessageRevisionView)
    (targetAgentIds : List String) : MessageView where
  id := row.id
  threadRootId := row.threadRootId
  replyToMessageId := row.replyToMessageId
  authorPrincipalId := row.authorPrincipalId
  authorAgentId := row.authorAgentId
  causedByAttentionId := row.causedByAttentionId
  causedByRunId := row.causedByRunId
  threadCursor := row.threadSequence
  latestRevision := row.latestRevision
  revisions := revisions
  targetAgentIds := targetAgentIds
  createdAt := row.createdAt

structure AttentionView where
  cursor : Nat
  id : String
  projectId : String
  channelId : String
  threadRootId : String
  messageRevisionId : String
  targetAgentId : String
  triggerKind : String
  status : AttentionStatus
  revision : Nat
  handlerLeaseHolderPrincipalId : Option String
  handlerLeaseExpiresAt : Option Timestamp
  resolutionOutcome : Option AttentionResolutionOutcome
  resolvedRunId : Option String
  createdAt : Timestamp
  resolvedAt : Option Timestamp

def mapAttention (row : Attention) : AttentionView where
  cursor := row.sequence
  id := row.id
  projectId := row.projectId
  channelId := row.channelId
  threadRootId := row.threadRootId
  messageRevisionId := row.messageRevisionId
  targetAgentId := row.targetAgentId
  triggerKind := row.triggerKind
  status := row.status
  revision := row.revision
  handlerLeaseHolderPrincipalId := row.handlerLeaseHolderPrincipalId
  handlerLeaseExpiresAt := row.handlerLeaseExpiresAt
  resolutionOutcome := row.resolutionOutcome
  resolvedRunId := row.resolvedRunId
  createdAt := row.createdAt
  resolvedAt := row.resolvedAt

structure RunView where
  id : String
  projectId : String
  homeChannelId : String
  threadRootId : String
  ownerAgentId : String
  agentConfigRevision : Nat
  causalRootId : String
  parentAttentionId : String
  parentRunId : Option String
  delegationDepth : Nat
  state : RunState
  revision : Nat
  activationGeneration : Nat
  createdAt : Timestamp
  updatedAt : Timestamp
  terminalReason : Option String

def mapRun (row : Run) : RunView where
  id := row.id
  projectId := row.projectId
  homeChannelId := row.homeChannelId
  threadRootId := row.threadRootId
  ownerAgentId := row.ownerAgentId
  agentConfigRevision := row.agentConfigRevision
  causalRootId := row.causalRootId
  parentAttentionId := row.parentAttentionId
  parentRunId := row.parentRunId
  delegationDepth := row.delegationDepth
  state := row.state
  revision := row.revision
  activationGeneration := row.activationGeneration
  createdAt := row.createdAt
  updatedAt := row.updatedAt
  terminalReason := row.terminalReason

structure RunInputView where
  id : String
  runId : String
  messageRevisionId : String
  sequence : Nat
  assignedByPrincipalId : String
  assignedByActivationId : Option String
  sourceAttentionId : Option String
  disposition : RunInputDisposition
  dispositionRevision : Nat
  dispositionReason : Option String
  supersededByRunInputId : Option String
  createdAt : Timestamp

def mapRunInput (row : RunInput) : RunInputView where
  id := row.id
  runId := row.runId
  messageRevisionId := row.messageRevisionId
  sequence := row.runInputSequence
  assignedByPrincipalId := row.assignedByPrincipalId
  assignedByActivationId := row.assignedByActivationId
  sourceAttentionId := row.sourceAttentionId
  disposition := row.disposition
  dispositionRevision := row.dispositionRevision
  dispositionReason := row.dispositionReason
  supersededByRunInputId := row.supersededByRunInputId
  createdAt := row.createdAt

structure ActivationAttemptView where
  id : String
  agentId : String
  runId : Option String
  attentionId : Option String
  configRevision : Nat
  runActivationGeneration : Option Nat
  runInputIds : List String
  startedAt : Timestamp
  expiresAt : Timestamp
  revokedAt : Option Timestamp
  revocationReason : Option String
  finishedAt : Option Timestamp
  outcome : Option ActivationOutcome
  detail : Option String

def mapActivation (row : ActivationAttempt) (runInputIds : List String) :
    ActivationAttemptView where
  id := row.id
  agentId := row.agentId
  runId := row.runId
  attentionId := row.attentionId
  configRevision := row.configRevision
  runActivationGeneration := row.runActivationGeneration
  runInputIds := runInputIds
  startedAt := row.startedAt
  expiresAt := row.expiresAt
  revokedAt := row.revokedAt
  revocationReason := row.revocationReason
  finishedAt := row.finishedAt
  outcome := row.outcome
  detail := row.detail

structure ProviderAttemptView where
  id : String
  activationId : String
  runId : Option String
  adapter : String
  adapterVersion : String
  capabilitySnapshot : Json
  runInputIds : List String
  requestIdempotencyKey : String
  status : ProviderAttemptStatus
  detail : Option String
  startedAt : Timestamp
  finishedAt : Option Timestamp

def mapProviderAttempt (row : ProviderAttempt) : ProviderAttemptView where
  id := row.id
  activationId := row.activationId
  runId := row.runId
  adapter := row.adapter
  adapterVersion := row.adapterVersion
  capabilitySnapshot := row.capabilitySnapshot
  runInputIds := row.runInputIds
  requestIdempotencyKey := row.requestIdempotencyKey
  status := row.status
  detail := row.detail
  startedAt := row.startedAt
  finishedAt := row.finishedAt

structure RunActivityEventView where
  id : String
  runId : String
  activationId : Option String
  providerAttemptId : Option String
  sequence : Nat
  kind : String
  payload : Json
  retentionClass : RetentionClass
  createdAt : Timestamp

def mapActivity (row : RunActivityEvent) : RunActivityEventView where
  id := row.id
  runId := row.runId
  activationId := row.activationId
  providerAttemptId := row.providerAttemptId
  sequence := row.sequence
  kind := row.kind
  payload := row.payload
  retentionClass := row.retentionClass
  createdAt := row.createdAt

def mapOutboxEvent (row : OutboxEvent) : OutboxEventView where
  cursor := row.sequence
  id := row.id
  topic := row.topic
  aggregateType := row.aggregateType
  aggregateId := row.aggregateId
  payload := row.payload
  deliveryAttempts := row.deliveryAttempts
  leaseHolderPrincipalId := row.leaseHolderPrincipalId
  leaseExpiresAt := row.leaseExpiresAt
  acknowledgedAt := row.acknowledgedAt
  createdAt := row.createdAt

structure ArtifactView where
  id : String
  contentDigest : String
  producerRunId : String
  producerActivationId : String
  producerThreadRootId : String
  baseRevision : String
  mediaType : String
  byteLength : Nat
  visibilityChannelId : String
  metadata : Option Json
  createdAt : Timestamp

def mapArtifact (row : Artifact) : ArtifactView where
  id := row.id
  contentDigest := row.contentDigest
  producerRunId := row.producerRunId
  producerActivationId := row.producerActivationId
  producerThreadRootId := row.producerThreadRootId
  baseRevision := row.baseRevision
  mediaType := row.mediaType
  byteLength := row.byteLength
  visibilityChannelId := row.visibilityChannelId
  metadata := row.metadata
  createdAt := row.createdAt

structure PublicEventEnvelope where
  eventId : String
  type : EventType
  projectId : String
  channelId : Option String
  threadRootId : Option String
  threadCursor : Option Nat
  entityType : EntityType
  entityId : String
  actorPrincipalId : String
  activationId : Option String
  causationId : Option String
  correlationId : String
  payload : Json
  occurredAt : Timestamp

def mapPublicEvent (row : PublicEvent) : PublicEventEnvelope where
  eventId := row.eventId
  type := row.type
  projectId := row.projectId
  channelId := row.channelId
  threadRootId := row.threadRootId
  threadCursor := row.threadCursor
  entityType := row.entityType
  entityId := row.entityId
  actorPrincipalId := row.actorPrincipalId
  activationId := row.activationId
  causationId := row.causationId
  correlationId := row.correlationId
  payload := row.payload
  occurredAt := row.occurredAt

/-- `JSON.parse(JSON.stringify(event))`. -/
def PublicEventEnvelope.toJson (event : PublicEventEnvelope) : Json :=
  .obj [("eventId", .str event.eventId), ("type", .str event.type.text),
    ("projectId", .str event.projectId), ("channelId", .ofText event.channelId),
    ("threadRootId", .ofText event.threadRootId),
    ("threadCursor", event.threadCursor.elim .null .nat),
    ("entityType", .str event.entityType.text), ("entityId", .str event.entityId),
    ("actorPrincipalId", .str event.actorPrincipalId),
    ("activationId", .ofText event.activationId), ("causationId", .ofText event.causationId),
    ("correlationId", .str event.correlationId), ("payload", event.payload),
    ("occurredAt", .instant event.occurredAt)]

def mapWorktreeWriterLease (row : WorktreeWriterLease) : WorktreeWriterLeaseView where
  worktreeId := row.worktreeId
  revision := row.revision
  generation := row.generation
  fencingToken := row.fencingToken
  status := row.status
  holderPrincipalId := row.holderPrincipalId
  acquiredAt := row.acquiredAt
  renewedAt := row.renewedAt
  expiresAt := row.expiresAt
  releasedAt := row.releasedAt
  quarantineReason := row.quarantineReason
  quarantineEvidence := row.quarantineEvidence
  quarantinedAt := row.quarantinedAt
  quarantineResolvedAt := row.quarantineResolvedAt
  quarantineResolution := row.quarantineResolution
  updatedAt := row.updatedAt

end Torsor.Kernel
