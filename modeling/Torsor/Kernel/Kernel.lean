import Torsor.Kernel.Artifacts
import Torsor.Kernel.Attentions
import Torsor.Kernel.Collaboration
import Torsor.Kernel.Configuration
import Torsor.Kernel.PhysicalWorktrees
import Torsor.Kernel.Projections

/-! # Transactions of the Kernel

Every command runs in one transaction: the writer fence, the idempotency record, the
command itself, the versions of what it changed. A failed transaction is rolled back,
unless its error is durable. The same holds of a check of Worktree authority; a query is
always rolled back when it fails.
-/

namespace Torsor.Kernel

open Torsor.Library Tx

/-! ## Transactions -/

/-- The database goes back to what it was; readings, identifiers and draws stay taken. -/
def World.rollback (w w' : World) : World := { w' with db := w.db }

/-- `BEGIN IMMEDIATE`, then `COMMIT`, or `ROLLBACK` on an error that is not durable. -/
def transaction {α : Type} (m : K α) : K α := fun w =>
  match m w with
  | (.ok a, w') => (.ok a, w')
  | (.error e, w') =>
      if e.isDurable then (.error e, w') else (.error (translateError e), w.rollback w')

/-- A transaction that is rolled back on every error. -/
def queryTransaction {α : Type} (m : K α) : K α := fun w =>
  match m w with
  | (.ok a, w') => (.ok a, w')
  | (.error e, w') => (.error (translateError e), w.rollback w')

/-- A transaction that is rolled back whatever its outcome. -/
def observation {α : Type} (m : K α) : K α := fun w =>
  ((m w).1, w.rollback (m w).2)

/-! ## Commands -/

/-- `/^[A-Za-z0-9][A-Za-z0-9._-]{0,127}$/`. -/
def isOperationalCorrelationId (correlationId : String) : Bool :=
  let isAlphanumeric := fun c : Char =>
    ('A' ≤ c && c ≤ 'Z') || ('a' ≤ c && c ≤ 'z') || ('0' ≤ c && c ≤ '9')
  match correlationId.toList with
  | [] => false
  | c :: rest =>
      isAlphanumeric c && rest.length ≤ 127 &&
        rest.all fun c => isAlphanumeric c || c = '.' || c = '_' || c = '-'

/-- `validateWorktreeProviderBinding`, of the fields a binding has. -/
def validateWorktreeProviderBinding (provider : WorktreeProviderBinding) : K Unit :=
  throwIf (trim provider.providerAttemptId = "" ∨
      256 < (utf16Units provider.providerAttemptId).length)
    (kernelError .InvalidCommand "Worktree provider binding is invalid.")

/-- What is checked before the transaction of a command begins. -/
def checkCommand (principal : Principal) : KernelCommand → K Unit
  | .ClaimAttention _ | .StartActivation _ | .ParkRunAfterProviderAttemptFailure _ =>
      requireKind principal .runtime
  | .StartWorktreeExecution command =>
      command.provider.elim (pure ()) validateWorktreeProviderBinding
  | _ => pure ()

def dispatchCommand (kernel : KernelContext) (command : KernelCommand)
    (context : PrincipalContext) (principal : Principal) (correlationId : String) :
    K CommandResult :=
  match command with
  | .StartThread command => startThread kernel command principal correlationId
  | .ReplyToThread command => replyToThread kernel command principal context correlationId
  | .EditMessage command => editMessage kernel command principal correlationId
  | .DeleteMessage command => deleteMessage kernel command principal correlationId
  | .UpdateAgentConfig command => updateAgentConfig kernel command principal correlationId
  | .AdoptRunConfig command => adoptRunConfig kernel command principal correlationId
  | .SendToRun command => sendToRun kernel command principal correlationId
  | .CancelRun command => cancelRun kernel command principal correlationId
  | .WithdrawRunInput command =>
      withdrawRunInput kernel command principal context correlationId
  | .ClaimAttention command => claimAttention kernel command principal correlationId
  | .ResolveAttentionWithRun command =>
      resolveAttentionWithRun kernel command principal context correlationId
  | .IgnoreAttention command =>
      ignoreAttention kernel command principal context correlationId
  | .ResolveAttentionWithExistingRun command =>
      resolveAttentionWithExistingRun kernel command principal context correlationId
  | .StartActivation command => startActivation kernel command principal correlationId
  | .FinishActivation command =>
      finishActivation kernel command principal context correlationId
  | .StartProviderAttempt command =>
      startProviderAttempt kernel command principal context correlationId
  | .FinishProviderAttempt command =>
      finishProviderAttempt kernel command principal context correlationId
  | .FailProviderAttempt command =>
      failProviderAttempt kernel command principal context correlationId
  | .ParkRunAfterProviderAttemptFailure command =>
      parkRunAfterProviderAttemptFailure kernel command principal correlationId
  | .ClaimOutboxEvents command => claimOutboxEvents kernel command principal
  | .AcknowledgeOutboxEvents command =>
      acknowledgeOutboxEvents kernel command principal correlationId
  | .AppendRunActivity command =>
      appendRunActivity kernel command principal context correlationId
  | .PublishRunReply command =>
      publishRunReply kernel command principal context correlationId
  | .PublishArtifact command =>
      publishArtifact kernel command principal context correlationId
  | .CompleteRun command => completeRun kernel command principal context correlationId
  | .WaitRun command => waitRun kernel command principal context correlationId
  | .FailRun command => failRun kernel command principal context correlationId
  | .RecordLateOutput command =>
      recordLateOutput kernel command principal context correlationId
  | .RegisterPhysicalWorktree command => registerPhysicalWorktree kernel command principal
  | .StartWorktreeExecution command =>
      startWorktreeExecution kernel command principal correlationId
  | .RecordWorktreeExecution command => recordWorktreeExecution kernel command principal
  | .RevokeWorktreeExecutionAuthority command =>
      revokeWorktreeExecutionAuthority kernel command principal
  | .RecoverWorktreeExecution command => recoverWorktreeExecution kernel command principal
  | .AcquireWorktreeWriterLease command =>
      acquireWorktreeWriterLease kernel command principal correlationId
  | .RenewWorktreeWriterLease command =>
      renewWorktreeWriterLease kernel command principal correlationId
  | .ReleaseWorktreeWriterLease command =>
      releaseWorktreeWriterLease kernel command principal correlationId
  | .QuarantineWorktreeWriterLease command =>
      quarantineWorktreeWriterLease kernel command principal correlationId
  | .ResolveWorktreeWriterLeaseQuarantine command =>
      resolveWorktreeWriterLeaseQuarantine kernel command principal correlationId

/-! ## Idempotency -/

/-- The result of a replay: the recorded one, with its authority as it is now. -/
def resolveCachedResult (kernel : KernelContext) (command : KernelCommand)
    (result : CommandResult) (principal : Principal) (context : PrincipalContext) :
    K CommandResult :=
  match command with
  | .StartWorktreeExecution command =>
      resolveCachedWorktreeExecution kernel command result principal
  | .PublishArtifact _ => do
      let _ ← getArtifact kernel result.entityId context
      pure result
  | .ClaimAttention _ => resolveCachedAttentionClaim kernel result principal
  | .ClaimOutboxEvents command => resolveCachedOutboxClaim kernel command result principal
  | .StartActivation command => resolveCachedActivation kernel command result principal
  | .StartProviderAttempt command =>
      resolveCachedProviderAttempt kernel command result principal context
  | .AcquireWorktreeWriterLease command =>
      resolveCachedWorktreeWriterLeaseAuthority kernel command.worktreeId
        .AcquireWorktreeWriterLease result principal
  | .RenewWorktreeWriterLease command =>
      resolveCachedWorktreeWriterLeaseAuthority kernel command.worktreeId
        .RenewWorktreeWriterLease result principal
  | .QuarantineWorktreeWriterLease command =>
      resolveCachedWorktreeWriterLeaseQuarantine kernel command result principal
  | _ => pure result

/-- The record of a command of the principal under its idempotency key. -/
def IdempotencyRecord.isOf (principalId : String) (command : KernelCommand)
    (record : IdempotencyRecord) : Bool :=
  record.principalId = principalId && record.commandName = command.type &&
    record.idempotencyKey = command.idempotencyKey

/-- A command that is already recorded; storing an unchanged result changes nothing. -/
def replayCommand (kernel : KernelContext) (command : KernelCommand) (principal : Principal)
    (context : PrincipalContext) (cached : IdempotencyRecord) : K CommandResult := do
  (match command with
  | .PublishArtifact command => do
      let _ ← authorizeReport kernel command.runId context
  | _ => pure () : K Unit)
  throwIf (cached.payloadHash ≠ kernel.hashPayload command)
    (kernelError .Conflict "The idempotency key was already used with a different payload.")
  let refreshed ← resolveCachedResult kernel command cached.result principal context
  updateRows (IdempotencyRecord.isOf principal.id command) fun r => { r with result := refreshed }
  pure refreshed

/-- A command that is executed for the first time. -/
def performCommand (kernel : KernelContext) (command : KernelCommand) (principal : Principal)
    (context : PrincipalContext) (operationContext : Option KernelOperationContext) :
    K CommandResult := do
  let correlationId ← operationContext.elim (kernel.newId "corr") fun operation =>
    pure operation.correlationId
  let dispatched ← dispatchCommand kernel command context principal correlationId
  let result := { dispatched with correlationId := some correlationId }
  recordProjectionVersions correlationId
  let createdAt ← kernel.now
  insertRow
    ({ principalId := principal.id
       commandName := command.type
       idempotencyKey := command.idempotencyKey
       payloadHash := kernel.hashPayload command
       result, createdAt } : IdempotencyRecord)
  pure result

/-- A Human acts under no Activation. -/
def effectiveContext (principal : Principal) (context : PrincipalContext) : PrincipalContext :=
  if principal.kind = .human then { principalId := context.principalId } else context

/-- The body of the transaction of a command. -/
def commandBody (kernel : KernelContext) (command : KernelCommand) (principal : Principal)
    (context : PrincipalContext) (operationContext : Option KernelOperationContext) :
    K CommandResult := do
  assertWriterCommandAuthority kernel command principal context
  let cached ← selectRow (IdempotencyRecord.isOf principal.id command)
  cached.elim (performCommand kernel command principal context operationContext)
    (replayCommand kernel command principal context)

def executeTransaction (kernel : KernelContext) (command : KernelCommand)
    (context : PrincipalContext) (operationContext : Option KernelOperationContext) :
    K CommandResult := do
  throwIf (operationContext.any fun operation =>
      !isOperationalCorrelationId operation.correlationId)
    (kernelError .InvalidCommand "Operational correlation identifier is invalid.")
  let principal ← requirePrincipal context.principalId
  checkCommand principal command
  transaction
    (commandBody kernel command principal (effectiveContext principal context)
      operationContext)

/-- The process remembers the executions it started itself. -/
def rememberExecution (command : KernelCommand) (context : PrincipalContext)
    (result : CommandResult) : K Unit :=
  match command with
  | .StartWorktreeExecution command =>
      if truthy result.executionToken then
        modify fun w =>
          { w with
            localWorktreeExecutions :=
              { receipt :=
                  { executionId := result.entityId
                    executorId := command.executorId
                    executionToken := result.executionToken.getD "" }
                principalId := context.principalId
                activationId := command.activationId } ::
              w.localWorktreeExecutions.filter (·.receipt.executionId ≠ result.entityId) }
      else pure ()
  | _ => pure ()

def execute (kernel : KernelContext) (command : KernelCommand) (context : PrincipalContext)
    (operationContext : Option KernelOperationContext) : K CommandResult := do
  throwIf (command.type = .PublishArtifact)
    (kernelError .Forbidden "Artifact descriptors require trusted byte finalization.")
  let result ← executeTransaction kernel command context operationContext
  rememberExecution command context result
  pure result

/-! ## Checks of Worktree authority -/

/-- `effect` is the error the caller's effect raises, if it does. -/
def performWorktreeMutation (kernel : KernelContext) (authority : WorktreeMutationAuthority)
    (context : PrincipalContext) (effect : Option Failure) : K Unit :=
  transaction do
    let principal ← requirePrincipal context.principalId
    assertWorktreeMutation kernel authority principal
    reject effect

def checkWorktreeAuthority (kernel : KernelContext) (authority : WorktreeMutationAuthority)
    (context : PrincipalContext) : K Unit :=
  observation do
    let principal ← requirePrincipal context.principalId
    assertWorktreeMutation kernel authority principal

def checkWorktreePublication (kernel : KernelContext) (authority : WorktreeMutationAuthority)
    (context : PrincipalContext) : K Unit :=
  transaction do
    let principal ← requirePrincipal context.principalId
    assertWorktreePublication kernel authority principal

/-- The receipt, presented by the principal it was issued to. -/
def LocalWorktreeExecution.binds (receipt : WorktreeExecutionReceipt)
    (context : PrincipalContext) (execution : LocalWorktreeExecution) : Bool :=
  execution.principalId = context.principalId &&
    execution.receipt.executorId = receipt.executorId &&
    execution.receipt.executionToken = receipt.executionToken

def revokeLocalWorktreeAuthority (receipt : WorktreeExecutionReceipt)
    (context : PrincipalContext) : K Unit := do
  let executions ← gets World.localWorktreeExecutions
  let binding ← require
    ((executions.find? (·.receipt.executionId = receipt.executionId)).filter
      (LocalWorktreeExecution.binds receipt context))
    (kernelError .Forbidden "Original local execution receipt is required.")
  modify fun w =>
    { w with
      localWorktreeRevocations :=
        if binding.activationId ∈ w.localWorktreeRevocations then w.localWorktreeRevocations
        else binding.activationId :: w.localWorktreeRevocations }

/-! ## Reports -/

/-- What `finalizeReport` is called with; the content arrives as a stream. -/
structure FinalizeReportInput where
  runId : String
  expectedRunRevision : Int
  idempotencyKey : String

/-- The digest and the length of the bytes collected. -/
structure ReportContent where
  contentDigest : String
  byteLength : Nat

def validateReportInput (input : FinalizeReportInput) : K Unit := do
  requireNonEmpty input.runId "runId"
  requireNonEmpty input.idempotencyKey "idempotencyKey"
  throwIf (256 < (utf16Units input.idempotencyKey).length ∨
      maxSafeInteger < input.expectedRunRevision ∨ input.expectedRunRevision < 1)
    (kernelError .InvalidCommand "Report key or expected Run revision is invalid.")

/-- The writer check and the authorization made before and after the content arrives. -/
def admitReport (kernel : KernelContext) (runId : String) (context : PrincipalContext) :
    K Unit := do
  transaction do
    let principal ← requirePrincipal context.principalId
    assertWriterContextAuthority kernel principal context false
  let _ ← authorizeReport kernel runId context

/-- One character of a JSON string. -/
def jsonChar (c : Char) : String :=
  match c with
  | '"' => "\\\""
  | '\\' => "\\\\"
  | '\n' => "\\n"
  | '\r' => "\\r"
  | '\t' => "\\t"
  | c =>
      if c.toNat = 8 then "\\b"
      else if c.toNat = 12 then "\\f"
      else if c.toNat < 0x20 then
        "\\u00" ++ (if c.toNat < 0x10 then "0" else "1") ++
          String.singleton (Nat.digitChar (c.toNat % 16))
      else String.singleton c

def jsonString (s : String) : String :=
  "\"" ++ String.join (s.toList.map jsonChar) ++ "\""

/-- `JSON.stringify([runId, idempotencyKey])`. -/
def reportKey (runId idempotencyKey : String) : String :=
  "[" ++ jsonString runId ++ "," ++ jsonString idempotencyKey ++ "]"

/-- The command that publishes a report, once its content is stored. -/
def FinalizeReportInput.command (input : FinalizeReportInput) (content : ReportContent) :
    KernelCommand :=
  .PublishArtifact
    { idempotencyKey := reportKey input.runId input.idempotencyKey
      runId := input.runId
      expectedRunRevision := input.expectedRunRevision
      contentDigest := content.contentDigest
      byteLength := content.byteLength }

/-- The last step of `finalizeReport`. -/
def publishReport (kernel : KernelContext) (input : FinalizeReportInput)
    (content : ReportContent) (context : PrincipalContext)
    (operationContext : Option KernelOperationContext) : K CommandResult :=
  executeTransaction kernel (input.command content) context operationContext

/-- `finalizeReport` with nothing happening while it awaits its content. -/
def finalizeReport (kernel : KernelContext) (input : FinalizeReportInput)
    (content : ReportContent) (context : PrincipalContext)
    (operationContext : Option KernelOperationContext) : K CommandResult := do
  validateReportInput input
  admitReport kernel input.runId context
  admitReport kernel input.runId context
  publishReport kernel input content context operationContext

/-! ## Queries -/

def queryThreadProjection (kernel : KernelContext) (threadRootId : String)
    (context : PrincipalContext) : K ThreadProjection :=
  queryTransaction do
    let principal ← requirePrincipal context.principalId
    let thread ← requireThread threadRootId
    assertProjectAccess principal thread.projectId
    let scope ← assertAgentQueryScope kernel principal context thread.projectId threadRootId none
    getThreadProjection threadRootId scope

def queryRunProjection (kernel : KernelContext) (runId : String) (context : PrincipalContext) :
    K RunProjection :=
  queryTransaction do
    let principal ← requirePrincipal context.principalId
    let run ← requireRun runId
    assertProjectAccess principal run.projectId
    let _ ← assertAgentQueryScope kernel principal context run.projectId run.threadRootId
      (some runId)
    getRunProjection runId

structure PageQuery where
  projectId : String
  channelId : Option String := none
  snapshotEventId : Option (Option String) := none
  afterEventId : Option String := none
  limit : Option Int := none

/-- What the two page queries have in common: the scope, the cursor and the snapshot. -/
def resolvePage (kernel : KernelContext) (query : PageQuery) (principal : Principal)
    (context : PrincipalContext) : K (PrincipalReadScope × Snapshot × Snapshot) := do
  (if truthy query.channelId then
    assertProjectChannel query.projectId (query.channelId.getD "")
  else pure () : K Unit)
  let scope ← resolvePrincipalReadScope kernel principal context query.projectId
  throwIf (truthy query.channelId ∧ truthy scope.channelId ∧ query.channelId ≠ scope.channelId)
    (kernelError .Forbidden "The Activation cannot read this Channel.")
  let snapshot ← resolvePublicSnapshot query.projectId query.snapshotEventId
  let after ← resolvePublicSnapshot query.projectId (some query.afterEventId)
  throwIf (snapshot.sequence < after.sequence)
    (kernelError .InvalidCommand "The page cursor is after the requested snapshot.")
  pure (scope, snapshot, after)

def queryThreadProjections (kernel : KernelContext) (query : PageQuery)
    (context : PrincipalContext) : K ThreadProjectionPage :=
  queryTransaction do
    let principal ← requirePrincipal context.principalId
    let (scope, snapshot, after) ← resolvePage kernel query principal context
    let limit ← boundedLimit query.limit
    listThreadProjections query.projectId query.channelId after.sequence snapshot.sequence
      snapshot.eventId limit scope

def queryRunProjections (kernel : KernelContext) (query : PageQuery)
    (context : PrincipalContext) : K RunProjectionPage :=
  queryTransaction do
    let principal ← requirePrincipal context.principalId
    let (scope, snapshot, after) ← resolvePage kernel query principal context
    let limit ← boundedLimit query.limit
    listRunProjections query.projectId query.channelId after.sequence snapshot.sequence
      snapshot.eventId limit scope

structure AttentionQuery where
  projectId : Option String := none
  targetAgentId : Option String := none
  snapshotEventId : Option (Option String) := none
  afterCursor : Option Int := none
  limit : Option Int := none

/-- The Project, the Agent and the snapshot an Agent lists its own Attentions under. -/
def agentAttentionQuery (query : AttentionQuery) (principal : Principal) :
    K (Option String × Option String × Snapshot) := do
  let agent ← requireAgentForPrincipal principal.id
  throwIf (truthy query.projectId ∧ query.projectId ≠ some agent.projectId)
    (kernelError .Forbidden "The Agent cannot access this Project.")
  throwIf (truthy query.targetAgentId ∧ query.targetAgentId ≠ some agent.id)
    (kernelError .Forbidden "An Agent may only list its own Attention.")
  let snapshot ← resolvePublicSnapshot agent.projectId query.snapshotEventId
  pure (some agent.projectId, some agent.id, snapshot)

def otherAttentionQuery (query : AttentionQuery) (principal : Principal) :
    K (Option String × Option String × Snapshot) := do
  let projectId := query.projectId.getD ""
  (if truthy query.projectId then assertProjectAccess principal projectId else pure () : K Unit)
  let snapshot ← (if truthy query.projectId then
      resolvePublicSnapshot projectId query.snapshotEventId
    else resolveAttentionSnapshot query.snapshotEventId : K Snapshot)
  pure (query.projectId, query.targetAgentId, snapshot)

def queryOpenAttentions (query : AttentionQuery) (context : PrincipalContext) :
    K AttentionPage :=
  queryTransaction do
    let principal ← requirePrincipal context.principalId
    let (projectId, targetAgentId, snapshot) ← (if principal.kind = .agent then
        agentAttentionQuery query principal
      else otherAttentionQuery query principal : K (Option String × Option String × Snapshot))
    let limit ← boundedLimit query.limit
    gets fun w =>
      listOpenAttentions w.db projectId targetAgentId (query.afterCursor.getD 0)
        snapshot.sequence snapshot.eventId limit

def queryAttentionRecoverySnapshot (kernel : KernelContext) (context : PrincipalContext) :
    K AttentionRecoverySnapshot :=
  queryTransaction do
    let principal ← requirePrincipal context.principalId
    requireKind principal .runtime
    getAttentionRecoverySnapshot kernel

def queryRecoverableAttentionExecutions (kernel : KernelContext)
    (afterCursor : Option RecoverableAttentionExecutionCursor) (recoveryRevision : Option Int)
    (limit : Option Int) (context : PrincipalContext) : K RecoverableAttentionExecutionPage :=
  queryTransaction do
    let principal ← requirePrincipal context.principalId
    requireKind principal .runtime
    let limit ← boundedLimit limit
    listRecoverableAttentionExecutions kernel afterCursor recoveryRevision limit

def queryWorktreeWriterLease (kernel : KernelContext) (worktreeId : String)
    (context : PrincipalContext) : K WorktreeWriterLeaseView :=
  queryTransaction do
    let principal ← requirePrincipal context.principalId
    getWorktreeWriterLease kernel worktreeId principal

end Torsor.Kernel
