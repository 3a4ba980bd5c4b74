import Torsor.Kernel.Runs

/-! # Claiming and deciding Attentions -/

namespace Torsor.Kernel

open Torsor.Library Tx

/-! ## Claims -/

/-- The event and the history of an Attention that lost its domain. -/
def recordSupersededAttention (kernel : KernelContext) (superseded : SupersededAttention)
    (attentionId : String) (principal : Principal) (correlationId : String) : K Unit := do
  let supersededEventSequence ← emitEvent kernel
    { type := .AttentionHandlerLeaseSuperseded
      projectId := superseded.attention.projectId
      channelId := some superseded.attention.channelId
      threadRootId := some superseded.attention.threadRootId
      entityType := .Attention
      entityId := superseded.attention.id
      actorPrincipalId := principal.id
      activationId := none
      causationId := some attentionId
      correlationId
      payload := .obj [("revision", .nat superseded.revision),
        ("supersededByAttentionId", .str attentionId),
        ("revokedActivationIds", .texts superseded.activationIds)] }
  recordAttentionHistory superseded.attention.id supersededEventSequence

/-- A handler lease is given to a principal. -/
def Attention.claim (revision : Nat) (principalId leaseToken : String) (expiresAt : Timestamp)
    (attention : Attention) : Attention :=
  { attention with
    revision
    handlerLeaseHolderPrincipalId := some principalId
    handlerLeaseToken := some leaseToken
    handlerLeaseExpiresAt := some expiresAt }

def claimAttention (kernel : KernelContext) (command : ClaimAttentionCommand)
    (principal : Principal) (correlationId : String) : K CommandResult := do
  requireKind principal .runtime
  throwIf (command.leaseDurationMs < 1000 ∨ 300000 < command.leaseDurationMs)
    (kernelError .InvalidCommand "Attention leases must be between 1 and 300 seconds.")
  let attention ← requireAttention command.attentionId
  throwIf (attention.status ≠ .Open)
    (kernelError .Conflict "The Attention is already resolved.")
  checkRevision attention.revision command.expectedAttentionRevision "Attention"
  let now ← kernel.readClock
  throwIf (attention.handlerLeaseExpiresAt.any (now < ·))
    (kernelError .Conflict "The Attention already has an active handler lease.")
  let leaseToken ← kernel.newId "lease"
  let revision := attention.revision + 1
  let expiresAt := now + command.leaseDurationMs.toNat
  let superseded ← claimAttentionDomain attention leaseToken expiresAt now
  superseded.elim (pure ()) fun superseded =>
    recordSupersededAttention kernel superseded command.attentionId principal correlationId
  let changed ← updateActivations
    (fun r => r.attentionId = some command.attentionId && r.revokedAt.isNone)
    (ActivationAttempt.revoke now "attention_lease_replaced")
  markActivationChanges changed
  updateAttention command.attentionId
    (Attention.claim revision principal.id leaseToken expiresAt)
  let eventSequence ← emitEvent kernel
    { type := .AttentionClaimed
      projectId := attention.projectId
      channelId := some attention.channelId
      threadRootId := some attention.threadRootId
      entityType := .Attention
      entityId := command.attentionId
      actorPrincipalId := principal.id
      activationId := none
      causationId := some attention.messageRevisionId
      correlationId
      payload := .obj [("revision", .nat revision), ("expiresAt", .instant expiresAt)] }
  recordAttentionHistory command.attentionId eventSequence
  pure
    { commandType := .ClaimAttention
      entityId := command.attentionId
      revision := some revision
      leaseExpiresAt := some expiresAt
      relatedIds := [("handlerLeaseToken", leaseToken)] }

def resolveCachedAttentionClaim (kernel : KernelContext) (result : CommandResult)
    (principal : Principal) : K CommandResult := do
  let stale := kernelError .Conflict "The cached Attention claim lease is no longer current."
  throwIf (¬ truthy (result.relatedId? "handlerLeaseToken"))
    (kernelError .Conflict
      "The cached Attention claim does not contain a handler lease token.")
  let leaseToken := (result.relatedId? "handlerLeaseToken").getD ""
  let attention ← requireAttention result.entityId
  throwIf (attention.status ≠ .Open ∨
    attention.handlerLeaseHolderPrincipalId ≠ some principal.id ∨
    attention.handlerLeaseToken ≠ some leaseToken) stale
  let expiresAt ← require attention.handlerLeaseExpiresAt stale
  let now ← kernel.readClock
  throwIf (expiresAt ≤ now) stale
  let current ← isAttentionDomainLeaseCurrent attention leaseToken
  throwIf (¬ current) stale
  pure { result with leaseExpiresAt := some expiresAt }

/-! ## Decisions -/

structure AttentionDecisionContext where
  agent : Agent
  attention : Attention
  activation : ActivationAttempt

def requireAttentionDecisionContext (kernel : KernelContext) (command : AttentionDecision)
    (principal : Principal) (context : PrincipalContext) : K AttentionDecisionContext := do
  requireKind principal .agent
  let agent ← requireAgentForPrincipal principal.id
  let attention ← requireAttention command.attentionId
  throwIf (agent.id ≠ attention.targetAgentId)
    (kernelError .Forbidden "An Agent may only resolve its own Attention.")
  throwIf (attention.status ≠ .Open)
    (kernelError .Conflict "The Attention is already resolved.")
  checkRevision attention.revision command.expectedAttentionRevision "Attention"
  assertAttentionLease kernel attention (some command.handlerLeaseToken)
  throwIf (¬ truthy context.activationId)
    (kernelError .Unauthorized
      "Resolving Attention requires its authenticated Activation.")
  let activation ← requireLiveActivation (context.activationId.getD "")
  throwIf (activation.attentionId ≠ some command.attentionId ∨ activation.agentId ≠ agent.id)
    (kernelError .Forbidden
      "The Activation does not belong to this Attention and Agent.")
  assertActivationScopeCurrent kernel activation
  pure { agent, attention, activation }

/-- The Activation that decided an Attention is over. -/
def ActivationAttempt.finishDecision (now : Timestamp) (reason : String)
    (activation : ActivationAttempt) : ActivationAttempt :=
  { activation with
    revokedAt := some now
    revocationReason := some reason
    finishedAt := some now
    outcome := some .Completed
    detail := some reason }

def finishAttentionActivation (activationId : String) (now : Timestamp) (reason : String) :
    K Unit := do
  let changed ← updateActivations (fun r => r.id = activationId)
    (ActivationAttempt.finishDecision now reason)
  markActivationChanges changed

/-- What a decision writes into its Attention. -/
structure AttentionOutcome where
  status : AttentionStatus
  revision : Nat
  outcome : AttentionResolutionOutcome
  principalId : String
  activationId : String
  runId : Option String
  at' : Timestamp

/-- A decided Attention has no handler lease. -/
def Attention.decide (outcome : AttentionOutcome) (attention : Attention) : Attention :=
  { attention with
    status := outcome.status
    revision := outcome.revision
    resolutionOutcome := some outcome.outcome
    resolvedByPrincipalId := some outcome.principalId
    resolvedActivationId := some outcome.activationId
    resolvedRunId := outcome.runId
    resolvedAt := some outcome.at'
    handlerLeaseHolderPrincipalId := none
    handlerLeaseToken := none
    handlerLeaseExpiresAt := none }

/-- The decision and the release of the domain. -/
def decideAttention (attentionId : String) (outcome : AttentionOutcome) : K Unit := do
  updateAttention attentionId (Attention.decide outcome)
  releaseAttentionDomainLease attentionId

/-- The event of a decision and the history of its Attention. -/
def recordAttentionDecision (kernel : KernelContext) (decision : AttentionDecisionContext)
    (type : EventType) (attentionId : String) (principal : Principal)
    (correlationId : String) (payload : Json) : K Unit := do
  let eventSequence ← emitEvent kernel
    { type
      projectId := decision.attention.projectId
      channelId := some decision.attention.channelId
      threadRootId := some decision.attention.threadRootId
      entityType := .Attention
      entityId := attentionId
      actorPrincipalId := principal.id
      activationId := some decision.activation.id
      causationId := some decision.attention.messageRevisionId
      correlationId
      payload }
  recordAttentionHistory attentionId eventSequence

def resolveAttentionWithRun (kernel : KernelContext) (command : ResolveAttentionWithRunCommand)
    (principal : Principal) (context : PrincipalContext) (correlationId : String) :
    K CommandResult := do
  let decision ←
    requireAttentionDecisionContext kernel command.toAttentionDecision principal context
  let attention := decision.attention
  let admission ← admitRunFromAttention attention
  let runId ← kernel.newId "run"
  let now ← kernel.now
  insertRow
    ({ id := runId
       projectId := attention.projectId
       homeChannelId := attention.channelId
       threadRootId := attention.threadRootId
       ownerAgentId := decision.agent.id
       agentConfigRevision := decision.agent.currentConfigRevision
       causalRootId := admission.causalRootId
       parentAttentionId := admission.parentAttentionId
       parentRunId := admission.parentRunId
       delegationDepth := admission.delegationDepth
       state := .Active
       revision := 1
       activationGeneration := 0
       nextInputSequence := 1
       nextActivitySequence := 1
       createdEventSequence := none
       createdAt := now
       updatedAt := now
       terminalReason := none } : Run)
  let run ← requireRun runId
  let input ← createRunInput kernel run attention.messageRevisionId principal.id
    (some decision.activation.id) (some command.attentionId)
  finishAttentionActivation decision.activation.id now "attention_resolved"
  updateRows (fun r : Run => r.id = runId) fun r => { r with nextInputSequence := 2 }
  let revision := attention.revision + 1
  decideAttention command.attentionId
    { status := .Resolved
      revision
      outcome := .RunCreated
      principalId := principal.id
      activationId := decision.activation.id
      runId := some runId
      at' := now }
  let cursor ← emitThreadEvent kernel attention.threadRootId
    { type := .RunCreated
      projectId := attention.projectId
      channelId := some attention.channelId
      threadRootId := some attention.threadRootId
      entityType := .Run
      entityId := runId
      actorPrincipalId := principal.id
      activationId := some decision.activation.id
      causationId := some command.attentionId
      correlationId
      payload := .obj ([("state", .str "Active"), ("ownerAgentId", .str decision.agent.id)] ++
        admission.fields) }
  recordAttentionDecision kernel decision .AttentionResolved command.attentionId principal
    correlationId
    (.obj [("outcome", .str "RunCreated"), ("revision", .nat revision), ("runId", .str runId),
      ("runInputId", .str input.id)])
  enqueueOutbox kernel .runActivationRequested .Run runId
    (.obj [("runInputId", .str input.id), ("sourceAttentionId", .str command.attentionId)])
  pure
    { commandType := .ResolveAttentionWithRun
      entityId := runId
      revision := some 1
      threadCursor := some cursor
      relatedIds := [("attentionId", command.attentionId), ("runInputId", input.id)] }

def ignoreAttention (kernel : KernelContext) (command : IgnoreAttentionCommand)
    (principal : Principal) (context : PrincipalContext) (correlationId : String) :
    K CommandResult := do
  let decision ←
    requireAttentionDecisionContext kernel command.toAttentionDecision principal context
  requireNonEmpty command.reason "reason"
  let now ← kernel.now
  let revision := decision.attention.revision + 1
  finishAttentionActivation decision.activation.id now "attention_ignored"
  decideAttention command.attentionId
    { status := .Ignored
      revision
      outcome := .Ignored
      principalId := principal.id
      activationId := decision.activation.id
      runId := none
      at' := now }
  recordAttentionDecision kernel decision .AttentionIgnored command.attentionId principal
    correlationId
    (.obj [("outcome", .str "Ignored"), ("reason", .str (trim command.reason)),
      ("revision", .nat revision)])
  pure
    { commandType := .IgnoreAttention
      entityId := command.attentionId
      revision := some revision
      relatedIds := [("activationId", decision.activation.id)] }

/-- The Run an Attention continues: the target Agent's, in the same Thread, not ended. -/
def requireContinuedRun (command : ResolveAttentionWithExistingRunCommand)
    (decision : AttentionDecisionContext) : K Run := do
  let run ← requireRun command.runId
  throwIf (run.ownerAgentId ≠ decision.agent.id)
    (kernelError .Forbidden
      "An Attention may only continue a Run owned by its target Agent.")
  throwIf (run.projectId ≠ decision.attention.projectId ∨
      run.homeChannelId ≠ decision.attention.channelId ∨
      run.threadRootId ≠ decision.attention.threadRootId)
    (kernelError .Forbidden
      "The Run must belong to the Attention Project, Channel, and Thread.")
  throwIf (isTerminalRunState run.state)
    (kernelError .TerminalRun
      s!"Run {command.runId} is terminal and cannot accept this command."
      (some (.obj [("state", .str run.state.text)])))
  checkRevision run.revision command.expectedRunRevision "Run"
  pure run

def resolveAttentionWithExistingRun (kernel : KernelContext)
    (command : ResolveAttentionWithExistingRunCommand) (principal : Principal)
    (context : PrincipalContext) (correlationId : String) : K CommandResult := do
  let decision ←
    requireAttentionDecisionContext kernel command.toAttentionDecision principal context
  let attention := decision.attention
  let run ← requireContinuedRun command decision
  let now ← kernel.now
  let input ← createRunInput kernel run attention.messageRevisionId principal.id
    (some decision.activation.id) (some command.attentionId)
  let runRevision := run.revision + 1
  updateRows (fun r : Run => r.id = command.runId) fun r =>
    { r with revision := runRevision, nextInputSequence := input.sequence + 1, updatedAt := now }
  finishAttentionActivation decision.activation.id now "attention_resolved_with_existing_run"
  let attentionRevision := attention.revision + 1
  decideAttention command.attentionId
    { status := .Resolved
      revision := attentionRevision
      outcome := .ExistingRunContinued
      principalId := principal.id
      activationId := decision.activation.id
      runId := some command.runId
      at' := now }
  let cursor ← emitThreadEvent kernel run.threadRootId
    { type := .RunInputAdded
      projectId := run.projectId
      channelId := some run.homeChannelId
      threadRootId := some run.threadRootId
      entityType := .RunInput
      entityId := input.id
      actorPrincipalId := principal.id
      activationId := some decision.activation.id
      causationId := some command.attentionId
      correlationId
      payload := .obj [("runId", .str command.runId), ("sequence", .nat input.sequence),
        ("runRevision", .nat runRevision), ("sourceAttentionId", .str command.attentionId)] }
  recordAttentionDecision kernel decision .AttentionResolved command.attentionId principal
    correlationId
    (.obj [("outcome", .str "ExistingRunContinued"), ("revision", .nat attentionRevision),
      ("runId", .str command.runId), ("runInputId", .str input.id),
      ("runRevision", .nat runRevision)])
  enqueueOutbox kernel .runInputAvailable .Run command.runId
    (.obj [("runInputId", .str input.id), ("runRevision", .nat runRevision),
      ("sourceAttentionId", .str command.attentionId)])
  pure
    { commandType := .ResolveAttentionWithExistingRun
      entityId := command.runId
      revision := some runRevision
      threadCursor := some cursor
      relatedIds := [("attentionId", command.attentionId),
        ("attentionRevision", toString attentionRevision), ("runInputId", input.id),
        ("activationId", decision.activation.id)] }

/-! ## Tables the commands write -/

section Within

set_option synthInstance.maxSize 100000

variable {R : World → World → Prop} {ts : List TableName} [Concerns R ts]
  [IsPreorder World R] (kernel : KernelContext)

instance [NotAmong .publicEvents ts] [NotAmong .attentionHistory ts]
    (superseded : SupersededAttention) (attentionId : String) (principal : Principal)
    (correlationId : String) :
    Within R (recordSupersededAttention kernel superseded attentionId principal
      correlationId) := by
  unfold recordSupersededAttention
  infer_instance

instance [NotAmong .publicEvents ts] [NotAmong .attentionHistory ts] [NotAmong .attentions ts]
    [NotAmong .attentionDomainFences ts] [NotAmong .activationAttempts ts]
    [NotAmong .kernelRuntimeState ts] [NotAmong .attentionRecoveryExecutions ts]
    [NotAmong .projectionActivationChanges ts] (command : ClaimAttentionCommand)
    (principal : Principal) (correlationId : String) :
    Within R (claimAttention kernel command principal correlationId) := by
  unfold claimAttention
  infer_instance

instance (result : CommandResult) (principal : Principal) :
    Within R (resolveCachedAttentionClaim kernel result principal) := by
  unfold resolveCachedAttentionClaim
  infer_instance

instance (command : AttentionDecision) (principal : Principal) (context : PrincipalContext) :
    Within R (requireAttentionDecisionContext kernel command principal context) := by
  unfold requireAttentionDecisionContext
  infer_instance

instance [NotAmong .activationAttempts ts] [NotAmong .kernelRuntimeState ts]
    [NotAmong .attentionRecoveryExecutions ts] [NotAmong .projectionActivationChanges ts]
    (activationId : String) (now : Timestamp) (reason : String) :
    Within R (finishAttentionActivation activationId now reason) := by
  unfold finishAttentionActivation
  infer_instance

instance [NotAmong .attentions ts] [NotAmong .kernelRuntimeState ts]
    [NotAmong .attentionDomainFences ts] (attentionId : String) (outcome : AttentionOutcome) :
    Within R (decideAttention attentionId outcome) := by
  unfold decideAttention
  infer_instance

instance [NotAmong .publicEvents ts] [NotAmong .attentionHistory ts]
    (decision : AttentionDecisionContext) (type : EventType) (attentionId : String)
    (principal : Principal) (correlationId : String) (payload : Json) :
    Within R (recordAttentionDecision kernel decision type attentionId principal correlationId
      payload) := by
  unfold recordAttentionDecision
  infer_instance

instance [NotAmong .publicEvents ts] [NotAmong .attentionHistory ts] [NotAmong .attentions ts]
    [NotAmong .attentionDomainFences ts] [NotAmong .activationAttempts ts]
    [NotAmong .kernelRuntimeState ts] [NotAmong .attentionRecoveryExecutions ts]
    [NotAmong .projectionActivationChanges ts] [NotAmong .runs ts] [NotAmong .runInputs ts]
    [NotAmong .threads ts] [Enqueues R kernel]
    (command : ResolveAttentionWithRunCommand) (principal : Principal)
    (context : PrincipalContext) (correlationId : String) :
    Within R (resolveAttentionWithRun kernel command principal context correlationId) := by
  unfold resolveAttentionWithRun
  infer_instance

instance [NotAmong .publicEvents ts] [NotAmong .attentionHistory ts] [NotAmong .attentions ts]
    [NotAmong .attentionDomainFences ts] [NotAmong .activationAttempts ts]
    [NotAmong .kernelRuntimeState ts] [NotAmong .attentionRecoveryExecutions ts]
    [NotAmong .projectionActivationChanges ts] (command : IgnoreAttentionCommand)
    (principal : Principal) (context : PrincipalContext) (correlationId : String) :
    Within R (ignoreAttention kernel command principal context correlationId) := by
  unfold ignoreAttention
  infer_instance

instance (command : ResolveAttentionWithExistingRunCommand)
    (decision : AttentionDecisionContext) :
    Within R (requireContinuedRun command decision) := by
  unfold requireContinuedRun
  infer_instance

instance [NotAmong .publicEvents ts] [NotAmong .attentionHistory ts] [NotAmong .attentions ts]
    [NotAmong .attentionDomainFences ts] [NotAmong .activationAttempts ts]
    [NotAmong .kernelRuntimeState ts] [NotAmong .attentionRecoveryExecutions ts]
    [NotAmong .projectionActivationChanges ts] [NotAmong .runs ts] [NotAmong .runInputs ts]
    [NotAmong .threads ts] [Enqueues R kernel]
    (command : ResolveAttentionWithExistingRunCommand) (principal : Principal)
    (context : PrincipalContext) (correlationId : String) :
    Within R (resolveAttentionWithExistingRun kernel command principal context
      correlationId) := by
  unfold resolveAttentionWithExistingRun
  infer_instance

end Within

end Torsor.Kernel
