import Torsor.Kernel.Outbox

/-! # Activations and provider attempts -/

namespace Torsor.Kernel

open Torsor.Library Tx

/-! ## Activations -/

/-- What `startActivation` has found out about the Activation it creates. -/
structure NewActivation where
  agentId : String
  runId : Option String
  attentionId : Option String
  attentionLeaseToken : Option String
  runActivationGeneration : Option Nat
  configRevision : Nat
  projectId : String
  channelId : String
  threadRootId : String
  startedAt : Timestamp
  expiresAt : Timestamp
  resultRunRevision : Option Nat
  runAuthority : Option DeliveryAuthority

/-- The Activation row, the inputs it is given, its event and the result. -/
def createActivation (kernel : KernelContext) (new : NewActivation) (principal : Principal)
    (correlationId : String) : K CommandResult := do
  let activationId ← kernel.newId "activation"
  insertActivation
    { id := activationId
      agentId := new.agentId
      runId := new.runId
      attentionId := new.attentionId
      attentionLeaseToken := new.attentionLeaseToken
      runActivationGeneration := new.runActivationGeneration
      cause := if truthy new.runId then .Run else .Attention
      configRevision := new.configRevision
      createdEventSequence := none
      startedAt := new.startedAt
      expiresAt := new.expiresAt
      revokedAt := none
      revocationReason := none
      finishedAt := none
      outcome := none
      detail := none }
  let inputs ← selectRows fun r : RunInput => truthy new.runId && some r.runId = new.runId
  forEach (orderBy RunInput.runInputSequence inputs) fun input =>
    insertRow
      ({ activationId
         runInputId := input.id
         runInputSequence := input.runInputSequence } : ActivationRunInput)
  let _ ← emitEvent kernel
    { type := .ActivationStarted
      projectId := new.projectId
      channelId := some new.channelId
      threadRootId := some new.threadRootId
      entityType := .ActivationAttempt
      entityId := activationId
      actorPrincipalId := principal.id
      activationId := some activationId
      causationId := new.runId.or new.attentionId
      correlationId
      payload := .obj [("runId", .ofText new.runId), ("attentionId", .ofText new.attentionId),
        ("agentId", .str new.agentId), ("configRevision", .nat new.configRevision),
        ("runActivationGeneration", new.runActivationGeneration.elim .null .nat),
        ("expiresAt", .instant new.expiresAt)] }
  pure
    { commandType := .StartActivation
      entityId := activationId
      leaseExpiresAt := new.runAuthority.map (·.leaseExpiresAt)
      authorityObservedAt := new.runAuthority.map (·.observedAt)
      revision := new.resultRunRevision
      relatedIds := ("agentId", new.agentId) ::
        if truthy new.runId then [("runId", new.runId.getD "")]
        else [("attentionId", new.attentionId.getD "")] }

/-- A Waiting Run becomes Active; an Active one only gets a new activation generation. -/
def activateRun (kernel : KernelContext) (run : Run) (runId : String) (generation : Nat)
    (now : Timestamp) (principal : Principal) (correlationId : String) : K Nat :=
  if run.state = .Waiting then do
    let revision := run.revision + 1
    updateRows (fun r : Run => r.id = runId) fun r =>
      { r with state := .Active, revision, activationGeneration := generation, updatedAt := now }
    let _ ← emitThreadEvent kernel run.threadRootId
      { type := .RunActivated
        projectId := run.projectId
        channelId := some run.homeChannelId
        threadRootId := some run.threadRootId
        entityType := .Run
        entityId := runId
        actorPrincipalId := principal.id
        activationId := none
        causationId := some runId
        correlationId
        payload := .obj [("revision", .nat revision)] }
    enqueueOutbox kernel .runActivated .Run runId (.obj [("revision", .nat revision)])
    pure revision
  else do
    updateRows (fun r : Run => r.id = runId) fun r =>
      { r with activationGeneration := generation, updatedAt := now }
    pure run.revision

def startRunActivation (kernel : KernelContext) (command : StartActivationCommand)
    (runId : String) (now expiresAt : Timestamp) (principal : Principal)
    (correlationId : String) : K CommandResult := do
  throwIf command.expectedRunRevision.isNone
    (kernelError .InvalidCommand "Run Activation requires an expected Run revision.")
  let run ← requireMutableRun runId command.expectedRunRevision
  let runAuthority ←
    requireOutboxActivationAuthority kernel command.toOutboxAuthority principal runId
  let agent ← requireAgent run.ownerAgentId
  let generation := run.activationGeneration + 1
  revokeRunActivations runId "superseded_activation" now
  let resultRunRevision ← activateRun kernel run runId generation now principal correlationId
  createActivation kernel
    { agentId := agent.id
      runId := some runId
      attentionId := none
      attentionLeaseToken := none
      runActivationGeneration := some generation
      configRevision := run.agentConfigRevision
      projectId := run.projectId
      channelId := run.homeChannelId
      threadRootId := run.threadRootId
      startedAt := now
      expiresAt
      resultRunRevision := some resultRunRevision
      runAuthority := some runAuthority }
    principal correlationId

/-- The Activation of an Attention ends with the handler lease at the latest. -/
def startAttentionActivation (kernel : KernelContext) (command : StartActivationCommand)
    (attentionId : String) (now expiresAt : Timestamp) (principal : Principal)
    (correlationId : String) : K CommandResult := do
  let attention ← requireAttention attentionId
  throwIf (attention.status ≠ .Open)
    (kernelError .Conflict "The Attention is already resolved.")
  assertAttentionLease kernel attention command.handlerLeaseToken
  let leaseExpiry ← require attention.handlerLeaseExpiresAt (.fault .invalidStoredText)
  let existing ← selectRow fun r : ActivationAttempt =>
    r.attentionId = some attentionId && r.attentionLeaseToken = command.handlerLeaseToken
  existing.elim
    (do
      let agent ← requireAgent attention.targetAgentId
      createActivation kernel
        { agentId := agent.id
          runId := none
          attentionId := some attentionId
          attentionLeaseToken := command.handlerLeaseToken
          runActivationGeneration := none
          configRevision := agent.currentConfigRevision
          projectId := attention.projectId
          channelId := attention.channelId
          threadRootId := attention.threadRootId
          startedAt := now
          expiresAt := min leaseExpiry expiresAt
          resultRunRevision := none
          runAuthority := none }
        principal correlationId)
    fun existing => pure
      { commandType := .StartActivation
        entityId := existing.id
        relatedIds := [("agentId", attention.targetAgentId), ("attentionId", attentionId)] }

def startActivation (kernel : KernelContext) (command : StartActivationCommand)
    (principal : Principal) (correlationId : String) : K CommandResult := do
  requireKind principal .runtime
  throwIf (truthy command.runId = truthy command.attentionId)
    (kernelError .InvalidCommand
      "StartActivation requires exactly one Run or Attention cause.")
  let durationMs ← boundedDuration (command.durationMs.getD kernel.activationDurationMs)
    "durationMs"
  let now ← kernel.readClock
  let expiresAt := now + durationMs
  (if truthy command.runId then
    startRunActivation kernel command (command.runId.getD "") now expiresAt principal
      correlationId
  else
    startAttentionActivation kernel command (command.attentionId.getD "") now expiresAt
      principal correlationId : K CommandResult)

def resolveCachedActivation (kernel : KernelContext) (command : StartActivationCommand)
    (result : CommandResult) (principal : Principal) : K CommandResult :=
  if ¬ truthy command.runId then pure result else do
    let activation ← requireLiveActivation result.entityId
    assertActivationScopeCurrent kernel activation
    throwIf (activation.runId ≠ command.runId)
      (.fault (.cachedActivationMismatch result.entityId))
    let authority ← requireOutboxActivationAuthority kernel command.toOutboxAuthority
      principal (command.runId.getD "")
    pure
      { result with
        leaseExpiresAt := some authority.leaseExpiresAt
        authorityObservedAt := some authority.observedAt }

def finishActivation (kernel : KernelContext) (command : FinishActivationCommand)
    (principal : Principal) (context : PrincipalContext) (correlationId : String) :
    K CommandResult := do
  let activation ← requireActivation command.activationId
  authorizeActivationActor principal context activation false
  (if principal.kind = .agent then assertActivationScopeCurrent kernel activation
  else pure () : K Unit)
  throwIf activation.finishedAt.isSome
    (kernelError .Conflict "The Activation is already finished.")
  let now ← kernel.now
  let changed ← updateActivations (fun r => r.id = command.activationId) fun r =>
    { r with finishedAt := some now, outcome := some command.outcome, detail := command.detail }
  markActivationChanges changed
  let scope ← activationScope activation
  let _ ← emitEvent kernel
    { type := .ActivationFinished
      projectId := scope.1
      channelId := some scope.2.1
      threadRootId := some scope.2.2
      entityType := .ActivationAttempt
      entityId := command.activationId
      actorPrincipalId := principal.id
      activationId := some command.activationId
      causationId := activation.runId.or activation.attentionId
      correlationId
      payload := .obj [("outcome", .str command.outcome.text)] }
  pure
    { commandType := .FinishActivation
      entityId := command.activationId
      relatedIds := [("outcome", command.outcome.text)] }

/-! ## Provider attempts -/

def providerAttemptAuthority (kernel : KernelContext) (command : StartProviderAttemptCommand)
    (principal : Principal) (runId : Option String) (runInputIds : List String) :
    K DeliveryAuthority :=
  runId.elim
    (do
      throwIf (command.outboxEventId.isSome ∨ command.outboxLeaseToken.isSome)
        (kernelError .InvalidCommand
          "Attention ProviderAttempts cannot carry Outbox authority.")
      let observed ← kernel.readClock
      let activation ← requireActivation command.activationId
      pure { leaseExpiresAt := activation.expiresAt, observedAt := observed })
    fun runId =>
      requireOutboxProviderAuthority kernel command.toOutboxAuthority principal runId
        runInputIds

/-- An input can be delivered if it is a Pending input the Activation was given. -/
def checkProviderInput (activationId : String) (runId : Option String) (inputId : String) :
    K Unit := do
  let input ← requireRow (fun r : RunInput => r.id = inputId)
    (kernelError .NotFound s!"RunInput {inputId} does not exist.")
  throwIf (¬ truthy runId ∨ some input.runId ≠ runId)
    (kernelError .Forbidden "Provider input must belong to the Activation Run.")
  throwIf (input.disposition ≠ .Pending)
    (kernelError .Conflict "Provider input must still be Pending when delivery starts.")
  let supplied ← selectRow fun r : ActivationRunInput =>
    r.activationId = activationId && r.runInputId = inputId
  throwIf supplied.isNone
    (kernelError .Forbidden "Provider input was not supplied to this Activation.")

def startProviderAttempt (kernel : KernelContext) (command : StartProviderAttemptCommand)
    (principal : Principal) (context : PrincipalContext) (correlationId : String) :
    K CommandResult := do
  let activation ← requireLiveActivation command.activationId
  authorizeActivationActor principal context activation false
  assertActivationScopeCurrent kernel activation
  let runInputIds := unique command.runInputIds
  let authority ←
    providerAttemptAuthority kernel command principal activation.runId runInputIds
  forEach runInputIds (checkProviderInput command.activationId activation.runId)
  let providerAttemptId ← kernel.newId "provider"
  let startedAt ← kernel.now
  insertProviderAttempt
    { id := providerAttemptId
      activationId := command.activationId
      runId := activation.runId
      adapter := command.adapter
      adapterVersion := command.adapterVersion
      capabilitySnapshot := command.capabilitySnapshot
      runInputIds
      requestIdempotencyKey := command.requestIdempotencyKey
      status := .Started
      detail := none
      createdEventSequence := none
      startedAt
      finishedAt := none }
  let scope ← activationScope activation
  let _ ← emitEvent kernel
    { type := .ProviderAttemptStarted
      projectId := scope.1
      channelId := some scope.2.1
      threadRootId := some scope.2.2
      entityType := .ProviderAttempt
      entityId := providerAttemptId
      actorPrincipalId := principal.id
      activationId := some command.activationId
      causationId := some command.activationId
      correlationId
      payload := .obj [("adapter", .str command.adapter),
        ("adapterVersion", .str command.adapterVersion),
        ("runInputIds", .texts (unique command.runInputIds))] }
  pure
    { commandType := .StartProviderAttempt
      entityId := providerAttemptId
      leaseExpiresAt := some authority.leaseExpiresAt
      authorityObservedAt := some authority.observedAt
      relatedIds := [("activationId", command.activationId)] }

def resolveCachedProviderAttempt (kernel : KernelContext)
    (command : StartProviderAttemptCommand) (result : CommandResult) (principal : Principal)
    (context : PrincipalContext) : K CommandResult := do
  let activation ← requireLiveActivation command.activationId
  authorizeActivationActor principal context activation false
  assertActivationScopeCurrent kernel activation
  let authority ← providerAttemptAuthority kernel command principal activation.runId
    (unique command.runInputIds)
  let attempt ← requireProviderAttempt result.entityId
  throwIf (attempt.activationId ≠ command.activationId ∨
      attempt.requestIdempotencyKey ≠ command.requestIdempotencyKey)
    (.fault (.cachedProviderAttemptMismatch result.entityId))
  pure
    { result with
      leaseExpiresAt := some authority.leaseExpiresAt
      authorityObservedAt := some authority.observedAt }

def setProviderAttemptStatus (kernel : KernelContext) (providerAttemptId : String)
    (status : ProviderAttemptStatus) (detail : Option String) (commandType : CommandType)
    (principal : Principal) (context : PrincipalContext) (correlationId : String) :
    K CommandResult := do
  let attempt ← requireProviderAttempt providerAttemptId
  let activation ← requireActivation attempt.activationId
  (if principal.kind = .agent then do
    throwIf activation.finishedAt.isSome
      (kernelError .Forbidden
        "Only runtime reconciliation can settle a ProviderAttempt after its Activation ends.")
    assertActivationScopeCurrent kernel activation
  else pure () : K Unit)
  authorizeActivationActor principal context activation true
  throwIf (¬ attempt.status.isUnsettled)
    (kernelError .Conflict "The ProviderAttempt is already finished.")
  throwIf (attempt.status = .Acknowledged ∧ status = .Acknowledged)
    (kernelError .Conflict "The ProviderAttempt is already acknowledged.")
  (if status = .Unknown then requireNonEmpty (detail.getD "") "Unknown reason"
  else pure () : K Unit)
  let finishedAt ← (if status = .Acknowledged then pure none else do
    let now ← kernel.now
    pure (some now) : K (Option Timestamp))
  updateProviderAttempt providerAttemptId fun r => { r with status, detail, finishedAt }
  let scope ← activationScope activation
  let _ ← emitEvent kernel
    { type := if status = .Acknowledged then .ProviderAttemptAcknowledged
        else .ProviderAttemptFinished
      projectId := scope.1
      channelId := some scope.2.1
      threadRootId := some scope.2.2
      entityType := .ProviderAttempt
      entityId := providerAttemptId
      actorPrincipalId := principal.id
      activationId := some attempt.activationId
      causationId := some attempt.activationId
      correlationId
      payload := .obj [("status", .str status.text), ("detail", .ofText detail)] }
  pure { commandType, entityId := providerAttemptId, relatedIds := [("status", status.text)] }

def finishProviderAttempt (kernel : KernelContext) (command : FinishProviderAttemptCommand)
    (principal : Principal) (context : PrincipalContext) (correlationId : String) :
    K CommandResult := do
  throwIf (command.status ∉ [ProviderAttemptStatus.Acknowledged, .Completed, .Unknown])
    (kernelError .InvalidCommand
      "FinishProviderAttempt status must be Acknowledged, Completed, or Unknown.")
  setProviderAttemptStatus kernel command.providerAttemptId command.status command.detail
    .FinishProviderAttempt principal context correlationId

def failProviderAttempt (kernel : KernelContext) (command : FailProviderAttemptCommand)
    (principal : Principal) (context : PrincipalContext) (correlationId : String) :
    K CommandResult :=
  setProviderAttemptStatus kernel command.providerAttemptId .Failed (some command.error)
    .FailProviderAttempt principal context correlationId

/-! ## Run activity -/

/-- The identifier and the sequence of an activity. -/
structure ActivityPosition where
  id : String
  sequence : Nat

def insertActivity (kernel : KernelContext) (runId activationId : String)
    (providerAttemptId : Option String) (kind : String) (payload : Json)
    (retentionClass : RetentionClass) : K ActivityPosition := do
  requireNonEmpty kind "kind"
  let run ← requireRun runId
  let sequence := run.nextActivitySequence
  let id ← kernel.newId "activity"
  let createdAt ← kernel.now
  let attempt ← selectRow fun r : ProviderAttempt => some r.id = providerAttemptId
  -- An empty identifier passes the command's checks but references no ProviderAttempt.
  throwIf (providerAttemptId.isSome ∧ attempt.isNone) .constraint
  insertRow
    ({ id, runId, providerAttemptId, sequence, kind, payload, retentionClass, createdAt
       activationId := some activationId
       createdEventSequence := none } : RunActivityEvent)
  updateRows (fun r : Run => r.id = runId) fun r =>
    { r with nextActivitySequence := sequence + 1 }
  pure { id, sequence }

/-- The Activation of a ProviderAttempt that belongs to the Run and, if the command names
an Activation as well, to that one. -/
def providerActivationId (runId : String) (activationId : Option String)
    (providerAttemptId : String) : K String := do
  let providerAttempt ← requireProviderAttempt providerAttemptId
  throwIf (providerAttempt.runId ≠ some runId)
    (kernelError .Forbidden "ProviderAttempt belongs to another Run.")
  throwIf (truthy activationId ∧ activationId ≠ some providerAttempt.activationId)
    (kernelError .InvalidCommand "Activity provenance is inconsistent.")
  pure providerAttempt.activationId

def validateActivityProvenance (kernel : KernelContext) (runId : String)
    (activationId providerAttemptId : Option String) (principal : Principal)
    (context : PrincipalContext) (allowFinished : Bool) : K String := do
  throwIf (¬ truthy activationId ∧ ¬ truthy providerAttemptId)
    (kernelError .InvalidCommand
      "Run activity requires Activation or ProviderAttempt provenance.")
  let resolvedActivationId ← (if truthy providerAttemptId then
      providerActivationId runId activationId (providerAttemptId.getD "")
    else pure (activationId.getD "") : K String)
  let activation ← (if allowFinished then requireActivation resolvedActivationId
    else requireLiveActivation resolvedActivationId : K ActivationAttempt)
  throwIf (activation.runId ≠ some runId)
    (kernelError .Forbidden "Activation belongs to another Run.")
  authorizeActivationActor principal context activation allowFinished
  (if allowFinished then pure () else assertActivationScopeCurrent kernel activation : K Unit)
  pure resolvedActivationId

def appendRunActivity (kernel : KernelContext) (command : AppendRunActivityCommand)
    (principal : Principal) (context : PrincipalContext) (correlationId : String) :
    K CommandResult := do
  let activationId ← validateActivityProvenance kernel command.runId command.activationId
    command.providerAttemptId principal context false
  let activity ← insertActivity kernel command.runId activationId command.providerAttemptId
    command.kind command.payload command.retentionClass
  let run ← requireRun command.runId
  let _ ← emitEvent kernel
    { type := .RunActivityAppended
      projectId := run.projectId
      channelId := some run.homeChannelId
      threadRootId := some run.threadRootId
      entityType := .RunActivityEvent
      entityId := activity.id
      actorPrincipalId := principal.id
      activationId := some activationId
      causationId := command.providerAttemptId.or (some activationId)
      correlationId
      payload := .obj [("runId", .str command.runId), ("sequence", .nat activity.sequence),
        ("kind", .str command.kind)] }
  pure
    { commandType := .AppendRunActivity
      entityId := activity.id
      revision := some activity.sequence
      relatedIds := [("runId", command.runId)] }

/-! ## Parking a Run -/

/-- The checks of `parkRunAfterProviderAttemptFailure`; the Run, the ProviderAttempt and
its Activation when they pass. -/
def requireParkableRun (command : ParkRunAfterProviderAttemptFailureCommand) :
    K (Run × ProviderAttempt × ActivationAttempt) := do
  let run ← requireRun command.runId
  checkRevision run.revision command.expectedRunRevision "Run"
  throwIf (run.state ≠ .Active)
    (kernelError (if isTerminalRunState run.state then .TerminalRun else .Conflict)
      "Only an Active Run can be parked after ProviderAttempt failure."
      (some (.obj [("state", .str run.state.text)])))
  throwIf ((run.activationGeneration : Int) ≠ command.expectedActivationGeneration)
    (kernelError .Conflict
      "The Run activation generation changed after the ProviderAttempt was observed."
      (some (.obj [("expectedActivationGeneration", .num command.expectedActivationGeneration),
        ("actualActivationGeneration", .nat run.activationGeneration)])))
  let attempt ← requireProviderAttempt command.providerAttemptId
  throwIf (attempt.runId ≠ some command.runId)
    (kernelError .Forbidden "The ProviderAttempt belongs to another Run.")
  let activation ← requireActivation attempt.activationId
  throwIf (activation.runId ≠ some command.runId ∨ activation.agentId ≠ run.ownerAgentId)
    (kernelError .Forbidden
      "The ProviderAttempt does not belong to the Run's owning Activation.")
  throwIf (activation.runActivationGeneration.map Int.ofNat ≠
      some command.expectedActivationGeneration)
    (kernelError .Conflict
      "The ProviderAttempt belongs to a stale Run activation generation.")
  throwIf (attempt.status ≠ .Failed ∧ attempt.status ≠ .Unknown)
    (kernelError .Conflict "Only a Failed or Unknown ProviderAttempt can park its Run."
      (some (.obj [("status", .str attempt.status.text)])))
  pure (run, attempt, activation)

def parkRunAfterProviderAttemptFailure (kernel : KernelContext)
    (command : ParkRunAfterProviderAttemptFailureCommand) (principal : Principal)
    (correlationId : String) : K CommandResult := do
  requireKind principal .runtime
  requireNonEmpty command.reason "reason"
  throwIf (command.expectedActivationGeneration < 1)
    (kernelError .InvalidCommand
      "expectedActivationGeneration must be a positive integer.")
  let parkable ← requireParkableRun command
  let run := parkable.1
  let providerStatus := parkable.2.1.status
  let activation := parkable.2.2
  let now ← kernel.now
  let revision := run.revision + 1
  let reason := trim command.reason
  updateRows (fun r : Run => r.id = command.runId) fun r =>
    { r with state := .Waiting, revision, updatedAt := now }
  revokeRunActivations command.runId "provider_attempt_failure_parked" now
  let activity ← insertActivity kernel command.runId activation.id
    (some command.providerAttemptId) "provider_attempt_failure_parked"
    (.obj [("providerAttemptStatus", .str providerStatus.text), ("reason", .str reason),
      ("runRevision", .nat revision)])
    .durable
  let cursor ← emitThreadEvent kernel run.threadRootId
    { type := .RunWaiting
      projectId := run.projectId
      channelId := some run.homeChannelId
      threadRootId := some run.threadRootId
      entityType := .Run
      entityId := command.runId
      actorPrincipalId := principal.id
      activationId := some activation.id
      causationId := some command.providerAttemptId
      correlationId
      payload := .obj [("revision", .nat revision), ("reason", .str reason),
        ("providerAttemptId", .str command.providerAttemptId),
        ("providerAttemptStatus", .str providerStatus.text),
        ("activityId", .str activity.id)] }
  enqueueOutbox kernel .runWaiting .Run command.runId
    (.obj [("revision", .nat revision), ("reason", .str reason),
      ("providerAttemptId", .str command.providerAttemptId),
      ("providerAttemptStatus", .str providerStatus.text)])
  pure
    { commandType := .ParkRunAfterProviderAttemptFailure
      entityId := command.runId
      revision := some revision
      threadCursor := some cursor
      relatedIds := [("activationId", activation.id),
        ("providerAttemptId", command.providerAttemptId), ("activityId", activity.id)] }

/-! ## Tables the commands write -/

section Within

set_option synthInstance.maxSize 100000

variable {R : World → World → Prop} {ts : List TableName} [Concerns R ts]
  [IsPreorder World R] (kernel : KernelContext)

instance [NotAmong .kernelRuntimeState ts] [NotAmong .attentionRecoveryExecutions ts]
    [NotAmong .activationAttempts ts] [NotAmong .activationRunInputs ts]
    [NotAmong .publicEvents ts] (new : NewActivation) (principal : Principal)
    (correlationId : String) :
    Within R (createActivation kernel new principal correlationId) := by
  unfold createActivation
  infer_instance

instance [NotAmong .runs ts] [NotAmong .threads ts] [NotAmong .publicEvents ts]
    [Enqueues R kernel] (run : Run) (runId : String) (generation : Nat)
    (now : Timestamp) (principal : Principal) (correlationId : String) :
    Within R (activateRun kernel run runId generation now principal correlationId) := by
  unfold activateRun
  infer_instance

instance [NotAmong .kernelRuntimeState ts] [NotAmong .attentionRecoveryExecutions ts]
    [NotAmong .activationAttempts ts] [NotAmong .activationRunInputs ts]
    [NotAmong .publicEvents ts] [NotAmong .runs ts] [NotAmong .threads ts]
    [Enqueues R kernel] [NotAmong .projectionActivationChanges ts]
    (command : StartActivationCommand) (runId : String) (now expiresAt : Timestamp)
    (principal : Principal) (correlationId : String) :
    Within R (startRunActivation kernel command runId now expiresAt principal
      correlationId) := by
  unfold startRunActivation
  infer_instance

instance [NotAmong .kernelRuntimeState ts] [NotAmong .attentionRecoveryExecutions ts]
    [NotAmong .activationAttempts ts] [NotAmong .activationRunInputs ts]
    [NotAmong .publicEvents ts] (command : StartActivationCommand) (attentionId : String)
    (now expiresAt : Timestamp) (principal : Principal) (correlationId : String) :
    Within R (startAttentionActivation kernel command attentionId now expiresAt principal
      correlationId) := by
  unfold startAttentionActivation
  infer_instance

instance [NotAmong .kernelRuntimeState ts] [NotAmong .attentionRecoveryExecutions ts]
    [NotAmong .activationAttempts ts] [NotAmong .activationRunInputs ts]
    [NotAmong .publicEvents ts] [NotAmong .runs ts] [NotAmong .threads ts]
    [Enqueues R kernel] [NotAmong .projectionActivationChanges ts]
    (command : StartActivationCommand) (principal : Principal) (correlationId : String) :
    Within R (startActivation kernel command principal correlationId) := by
  unfold startActivation
  infer_instance

instance (command : StartActivationCommand) (result : CommandResult) (principal : Principal) :
    Within R (resolveCachedActivation kernel command result principal) := by
  unfold resolveCachedActivation
  infer_instance

instance [NotAmong .kernelRuntimeState ts] [NotAmong .attentionRecoveryExecutions ts]
    [NotAmong .activationAttempts ts] [NotAmong .projectionActivationChanges ts]
    [NotAmong .publicEvents ts] (command : FinishActivationCommand) (principal : Principal)
    (context : PrincipalContext) (correlationId : String) :
    Within R (finishActivation kernel command principal context correlationId) := by
  unfold finishActivation
  infer_instance

instance (command : StartProviderAttemptCommand) (principal : Principal)
    (runId : Option String) (runInputIds : List String) :
    Within R (providerAttemptAuthority kernel command principal runId runInputIds) := by
  unfold providerAttemptAuthority
  infer_instance

instance (activationId : String) (runId : Option String) (inputId : String) :
    Within R (checkProviderInput activationId runId inputId) := by
  unfold checkProviderInput
  infer_instance

instance [NotAmong .kernelRuntimeState ts] [NotAmong .attentionRecoveryExecutions ts]
    [NotAmong .attentionDomainFences ts] [NotAmong .providerAttempts ts]
    [NotAmong .publicEvents ts] (command : StartProviderAttemptCommand)
    (principal : Principal) (context : PrincipalContext) (correlationId : String) :
    Within R (startProviderAttempt kernel command principal context correlationId) := by
  unfold startProviderAttempt
  infer_instance

instance (command : StartProviderAttemptCommand) (result : CommandResult)
    (principal : Principal) (context : PrincipalContext) :
    Within R (resolveCachedProviderAttempt kernel command result principal context) := by
  unfold resolveCachedProviderAttempt
  infer_instance

instance [NotAmong .kernelRuntimeState ts] [NotAmong .attentionRecoveryExecutions ts]
    [NotAmong .attentionDomainFences ts] [NotAmong .providerAttempts ts]
    [NotAmong .publicEvents ts] (providerAttemptId : String) (status : ProviderAttemptStatus)
    (detail : Option String) (commandType : CommandType) (principal : Principal)
    (context : PrincipalContext) (correlationId : String) :
    Within R (setProviderAttemptStatus kernel providerAttemptId status detail commandType
      principal context correlationId) := by
  unfold setProviderAttemptStatus
  infer_instance

instance [NotAmong .kernelRuntimeState ts] [NotAmong .attentionRecoveryExecutions ts]
    [NotAmong .attentionDomainFences ts] [NotAmong .providerAttempts ts]
    [NotAmong .publicEvents ts] (command : FinishProviderAttemptCommand)
    (principal : Principal) (context : PrincipalContext) (correlationId : String) :
    Within R (finishProviderAttempt kernel command principal context correlationId) := by
  unfold finishProviderAttempt
  infer_instance

instance [NotAmong .kernelRuntimeState ts] [NotAmong .attentionRecoveryExecutions ts]
    [NotAmong .attentionDomainFences ts] [NotAmong .providerAttempts ts]
    [NotAmong .publicEvents ts] (command : FailProviderAttemptCommand)
    (principal : Principal) (context : PrincipalContext) (correlationId : String) :
    Within R (failProviderAttempt kernel command principal context correlationId) := by
  unfold failProviderAttempt
  infer_instance

instance [NotAmong .runActivityEvents ts] [NotAmong .runs ts] (runId activationId : String)
    (providerAttemptId : Option String) (kind : String) (payload : Json)
    (retentionClass : RetentionClass) :
    Within R (insertActivity kernel runId activationId providerAttemptId kind payload
      retentionClass) := by
  unfold insertActivity
  infer_instance

instance (runId : String) (activationId : Option String) (providerAttemptId : String) :
    Within R (providerActivationId runId activationId providerAttemptId) := by
  unfold providerActivationId
  infer_instance

instance (runId : String) (activationId providerAttemptId : Option String)
    (principal : Principal) (context : PrincipalContext) (allowFinished : Bool) :
    Within R (validateActivityProvenance kernel runId activationId providerAttemptId
      principal context allowFinished) := by
  unfold validateActivityProvenance
  infer_instance

instance [NotAmong .runActivityEvents ts] [NotAmong .runs ts] [NotAmong .publicEvents ts]
    (command : AppendRunActivityCommand) (principal : Principal) (context : PrincipalContext)
    (correlationId : String) :
    Within R (appendRunActivity kernel command principal context correlationId) := by
  unfold appendRunActivity
  infer_instance

instance (command : ParkRunAfterProviderAttemptFailureCommand) :
    Within R (requireParkableRun command) := by
  unfold requireParkableRun
  infer_instance

instance [NotAmong .runActivityEvents ts] [NotAmong .runs ts] [NotAmong .publicEvents ts]
    [NotAmong .threads ts] [Enqueues R kernel] [NotAmong .activationAttempts ts]
    [NotAmong .kernelRuntimeState ts] [NotAmong .attentionRecoveryExecutions ts]
    [NotAmong .projectionActivationChanges ts]
    (command : ParkRunAfterProviderAttemptFailureCommand) (principal : Principal)
    (correlationId : String) :
    Within R (parkRunAfterProviderAttemptFailure kernel command principal
      correlationId) := by
  unfold parkRunAfterProviderAttemptFailure
  infer_instance

end Within

end Torsor.Kernel
