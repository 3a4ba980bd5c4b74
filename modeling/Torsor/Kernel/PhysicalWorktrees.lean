import Torsor.Kernel.Execution
import Torsor.Kernel.WorktreeWriterLeases

/-! # Physical Worktrees and their executions

A physical Worktree is a directory a trusted local executor has registered. What runs in
it is an execution, started under the live writer lease of the Worktree and the live
Activation of its Run. An execution that is recovered or does not finish normally revokes
the publication authority of its Activation; the revocation is committed even when it is
found out by a command that then fails.
-/

namespace Torsor.Kernel

open Torsor.Library Tx

/-! ## Rows -/

/-- `requireRuntime` of this module. -/
def requireTrustedRuntime (principal : Principal) : K Unit :=
  throwIf (principal.kind ≠ .runtime)
    (kernelError .Forbidden "Physical Worktree operations require a trusted Runtime.")

def requireWorktree (id : String) : K PhysicalWorktree :=
  requireRow (fun r : PhysicalWorktree => r.worktreeId = id)
    (kernelError .NotFound "Physical Worktree is not registered.")

def requireExecution (id : String) : K WorktreeExecution :=
  requireRow (fun r : WorktreeExecution => r.id = id)
    (kernelError .NotFound "Physical execution does not exist.")

def requireReceipt (execution : WorktreeExecution) (receipt : WorktreeExecutionReceipt)
    (principal : Principal) : K Unit :=
  throwIf (execution.executorId ≠ receipt.executorId ∨
      execution.executionToken ≠ receipt.executionToken ∨
      execution.runtimePrincipalId ≠ principal.id)
    (kernelError .Forbidden "Original executor receipt is required.")

def requireSourceActivation (kernel : KernelContext) (runId activationId : String) :
    K Unit := do
  let activation ← requireLiveActivation activationId
  throwIf (activation.runId ≠ some runId)
    (kernelError .Forbidden "Physical Worktree belongs to a different Run.")
  assertActivationScopeCurrent kernel activation

def requireExecutingProvider (provider : WorktreeProviderBinding) (activationId : String) :
    K Unit := do
  let attempt ← requireRow (fun r : ProviderAttempt => r.id = provider.providerAttemptId)
    (kernelError .NotFound "Worktree ProviderAttempt does not exist.")
  throwIf (attempt.activationId ≠ activationId)
    (kernelError .Forbidden "Worktree ProviderAttempt belongs to a different Activation.")
  throwIf (¬ attempt.status.isUnsettled)
    (kernelError .Conflict "Worktree ProviderAttempt is not executing.")

def isStopped : WorktreeExecutionState → Bool
  | .StopConfirmed | .ForceTerminated => true
  | _ => false

/-- `child` is the directory `parent` or lies below it. -/
def contains (kernel : KernelContext) (parent child : String) : Bool :=
  let path := kernel.relative parent child
  path = "" || (!kernel.isAbsolute path && path ≠ ".." && !path.startsWith (".." ++ kernel.sep))

/-- `/^(?:[a-f0-9]{40}|[a-f0-9]{64})$/`. -/
def isCommitId (revision : String) : Bool :=
  (revision.length = 40 || revision.length = 64) &&
    revision.toList.all fun c => ('a' ≤ c && c ≤ 'f') || ('0' ≤ c && c ≤ '9')

/-! ## Steps of an execution -/

def appendWorktreeExecutionEvent (kernel : KernelContext) (executionId : String)
    (state : WorktreeExecutionState) (evidence : String) : K Unit := do
  let occurredAt ← kernel.now
  let table ← selectTable WorktreeExecutionEvent
  insertRow
    ({ sequence := nextSequence WorktreeExecutionEvent.sequence table.rows
       executionId, state, evidence, occurredAt } : WorktreeExecutionEvent)

/-- The first revocation is the one that stays. -/
def revokePublication (kernel : KernelContext) (executionId reason : String) : K Unit := do
  let revokedAt ← kernel.now
  updateRows
    (fun r : WorktreeExecution => r.id = executionId && r.authorityRevokedAt.isNone) fun r =>
    { r with authorityRevokedAt := some revokedAt, authorityRevocationReason := some reason }

def recordState (kernel : KernelContext) (execution : WorktreeExecution)
    (state : WorktreeExecutionState) (evidence : String) : K Unit := do
  (if state = .Uncertain ∨ state = .ForceTerminated then
    revokePublication kernel execution.id
      "Physical execution did not finish normally under confirmed authority."
  else pure () : K Unit)
  updateKeys (fun r : WorktreeExecution => r.id = execution.id) fun r => { r with state }
  (if state = .Uncertain ∨ isStopped state then
    updateRows (fun r : PhysicalWorktree => r.worktreeId = execution.worktreeId) fun r =>
      { r with state := if state = .Uncertain then .Quarantined else .Ready }
  else pure () : K Unit)
  appendWorktreeExecutionEvent kernel execution.id state evidence

/-- The states an executor may report after `previous`. -/
def allowedExecutionStates : WorktreeExecutionState → List WorktreeExecutionState
  | .Starting => [.Running, .StopRequested, .StopConfirmed, .Uncertain]
  | .Running => [.StopRequested, .StopConfirmed, .Uncertain]
  | .StopRequested => [.StopConfirmed, .ForceTerminated, .Uncertain]
  | .Uncertain => [.StopConfirmed, .ForceTerminated]
  | .StopConfirmed => []
  | .ForceTerminated => []

/-! ## Writer authority of an Activation -/

/-- The reason a Run gives its Activations when it leaves the state Active, with the state
it is in then. -/
def settledState : String → Option RunState
  | "run_completed" => some .Completed
  | "run_failed" => some .Failed
  | "run_waiting" => some .Waiting
  | _ => none

/-- `Number.MAX_SAFE_INTEGER`. -/
def maxSafeInteger : Int := 9007199254740991

def writerAuthorityLost : KernelError :=
  ⟨.WriterAuthorityLost, "Controlled Worktree publication authority was lost.", none⟩

/-- The native provider of an execution still works for its Activation. -/
def assertNativeProvider (activationId providerAttemptId : String)
    (allowCommittedDecision : Bool) : K Unit := do
  let attempt ← selectRow fun r : ProviderAttempt => r.id = providerAttemptId
  throwIf (attempt.all fun attempt =>
      attempt.activationId ≠ activationId ||
        !(attempt.status.isUnsettled ||
          (allowCommittedDecision && attempt.status = .Completed)))
    (kernelError .WriterAuthorityLost "Native ProviderAttempt authority was lost.")

/-- The Activation has itself taken the decision that ended its Run's activity. -/
def committedDecision (kernel : KernelContext) (activation : ActivationAttempt)
    (sourceRun : Run) : K Bool := do
  let at' ← kernel.now
  (if activation.expiresAt ≤ at' ∨ activation.finishedAt.isSome then pure false else do
    let generation ← require activation.runActivationGeneration (.fault .invalidStoredInteger)
    let event ← selectRow fun r : PublicEvent =>
      r.activationId = some activation.id && r.entityId = sourceRun.id &&
        (r.type = .RunCompleted || r.type = .RunFailed || r.type = .RunWaiting)
    pure (generation = sourceRun.activationGeneration &&
      settledState (activation.revocationReason.getD "") = some sourceRun.state &&
      event.isSome) : K Bool)

/-- The `try` block of `assertActivationWriterAuthority` for one execution. -/
def assertExecutionAuthority (kernel : KernelContext) (activationId : String)
    (requireStopped allowCommittedDecision : Bool) (execution : WorktreeExecution)
    (worktree : PhysicalWorktree) (lease : Option WorktreeWriterLease) : K Unit := do
  execution.providerAttemptId.elim (pure ()) fun providerAttemptId =>
    assertNativeProvider activationId providerAttemptId allowCommittedDecision
  let revocations ← gets World.localWorktreeRevocations
  throwIf (activationId ∈ revocations ∨ execution.authorityRevokedAt.isSome ∨
      worktree.state ≠ .Ready ∨ lease.isNone ∨
      execution.state ∈ [WorktreeExecutionState.ForceTerminated, .Uncertain] ∨
      (requireStopped ∧ execution.state ≠ .StopConfirmed))
    (.kernel writerAuthorityLost)
  let runtime ← requirePrincipal execution.runtimePrincipalId
  let observedAt ← kernel.now
  let correlationId ← kernel.newId "corr"
  let _ ← requireLiveAuthority kernel
    { worktreeId := execution.worktreeId
      generation := execution.generation
      fencingToken := execution.fencingToken
      leaseToken := (lease.bind (·.leaseToken)).getD "revoked" }
    runtime observedAt correlationId
  let activation ← requireActivation activationId
  let sourceRun ← requireRun worktree.runId
  let decided ← (if allowCommittedDecision then committedDecision kernel activation sourceRun
    else pure false : K Bool)
  (if decided then pure () else requireSourceActivation kernel worktree.runId activationId :
    K Unit)

/-- Authority that is found to be lost is revoked for good. -/
def revokeLostAuthority (kernel : KernelContext) (execution : WorktreeExecution)
    (failure : Failure) : K Unit := do
  throwIf (¬ failure.isKernelError) failure
  revokePublication kernel execution.id "Controlled Worktree publication authority was lost."
  raise (.durable writerAuthorityLost)

def assertActivationWriterAuthority (kernel : KernelContext) (activationId : String)
    (requireStopped allowCommittedDecision : Bool) : K Unit := do
  let executions ← selectRows fun r : WorktreeExecution => r.activationId = activationId
  forEach (orderBy WorktreeExecution.sequence executions) fun execution => do
    let worktree ← requireWorktree execution.worktreeId
    let lease ← getLease execution.worktreeId
    orElse
      (assertExecutionAuthority kernel activationId requireStopped allowCommittedDecision
        execution worktree lease)
      (revokeLostAuthority kernel execution)

def assertWriterContextAuthority (kernel : KernelContext) (principal : Principal)
    (context : PrincipalContext) (requireStopped : Bool) : K Unit := do
  let activationId := context.activationId.getD ""
  let execution ← selectRow fun r : WorktreeExecution => r.activationId = activationId
  (if principal.kind = .agent ∧ truthy context.activationId ∧ execution.isSome then do
    let activation ← requireActivation activationId
    authorizeActivationActor principal context activation true
    assertActivationWriterAuthority kernel activationId requireStopped false
  else pure () : K Unit)

/-- `command.activationId ?? (...)`: the Activation the prologue takes an activity to
belong to. -/
def activityActivationId (activationId providerAttemptId : Option String) :
    K (Option String) :=
  if activationId.isSome then pure activationId
  else if truthy providerAttemptId then do
    let attempt ← selectRow fun r : ProviderAttempt => some r.id = providerAttemptId
    pure (attempt.map (·.activationId))
  else pure none

def assertActivityAuthority (kernel : KernelContext)
    (activationId providerAttemptId : Option String) : K Unit := do
  let activationId ← activityActivationId activationId providerAttemptId
  (if truthy activationId then
    assertActivationWriterAuthority kernel (activationId.getD "") false false
  else pure () : K Unit)

/-- What a Runtime's command needs of the Worktrees of the Activation it is about. -/
def assertRuntimeCommandAuthority (kernel : KernelContext) : KernelCommand → K Unit
  | .FinishActivation command =>
      if command.outcome = .Completed then
        assertActivationWriterAuthority kernel command.activationId true true
      else pure ()
  | .FinishProviderAttempt command =>
      if command.status = .Unknown then pure () else do
        let attempt ← selectRow fun r : ProviderAttempt => r.id = command.providerAttemptId
        attempt.elim (pure ()) fun attempt =>
          assertActivationWriterAuthority kernel attempt.activationId
            (command.status = .Completed) true
  | .AppendRunActivity command =>
      assertActivityAuthority kernel command.activationId command.providerAttemptId
  | .RecordLateOutput command =>
      assertActivityAuthority kernel command.activationId command.providerAttemptId
  | .StartProviderAttempt command =>
      assertActivityAuthority kernel (some command.activationId) none
  | _ => pure ()

def assertWriterCommandAuthority (kernel : KernelContext) (command : KernelCommand)
    (principal : Principal) (context : PrincipalContext) : K Unit := do
  assertWriterContextAuthority kernel principal context (command.type = .CompleteRun)
  (if principal.kind = .runtime then assertRuntimeCommandAuthority kernel command
  else pure () : K Unit)

/-! ## Mutation and publication checks -/

/-- The receipt names an execution of the Worktree under this generation and token. -/
def WorktreeExecution.grants (authority : WorktreeMutationAuthority)
    (execution : WorktreeExecution) : Bool :=
  execution.worktreeId = authority.worktreeId &&
    execution.generation = authority.generation &&
    execution.fencingToken = authority.fencingToken

def assertWorktreeMutation (kernel : KernelContext) (authority : WorktreeMutationAuthority)
    (principal : Principal) : K Unit := do
  requireTrustedRuntime principal
  let execution ← requireExecution authority.executionId
  requireReceipt execution authority.toWorktreeExecutionReceipt principal
  let worktree ← requireWorktree authority.worktreeId
  throwIf (¬ execution.grants authority ∨
      execution.state ∉ [WorktreeExecutionState.Starting, .Running] ∨ worktree.state ≠ .Ready)
    (kernelError .Conflict "Physical execution no longer grants mutation authority.")
  assertActivationWriterAuthority kernel execution.activationId false false
  let observedAt ← kernel.now
  let correlationId ← kernel.newId "corr"
  let _ ← requireLiveAuthority kernel authority.toWorktreeLeaseAuthority principal observedAt
    correlationId

def assertWorktreePublication (kernel : KernelContext) (authority : WorktreeMutationAuthority)
    (principal : Principal) : K Unit := do
  requireTrustedRuntime principal
  let execution ← requireExecution authority.executionId
  requireReceipt execution authority.toWorktreeExecutionReceipt principal
  throwIf (¬ execution.grants authority) (.kernel writerAuthorityLost)
  assertActivationWriterAuthority kernel execution.activationId true false
  let observedAt ← kernel.now
  let correlationId ← kernel.newId "corr"
  let _ ← requireLiveAuthority kernel authority.toWorktreeLeaseAuthority principal observedAt
    correlationId

/-! ## Commands -/

def registerPhysicalWorktree (kernel : KernelContext) (command : RegisterPhysicalWorktreeCommand)
    (principal : Principal) : K CommandResult := do
  requireTrustedRuntime principal
  requireNonEmpty command.worktreeId "worktreeId"
  requireNonEmpty command.repositoryId "repositoryId"
  requireNonEmpty command.repositoryPath "repositoryPath"
  requireNonEmpty command.directoryPath "directoryPath"
  requireNonEmpty command.directoryIdentity "directoryIdentity"
  throwIf (¬ isCommitId command.baseRevision)
    (kernelError .InvalidCommand "A full immutable Git commit ID is required.")
  let _ ← requireRun command.runId
  let registered ← selectTable PhysicalWorktree
  throwIf (registered.rows.any fun existing =>
      contains kernel existing.directoryPath command.directoryPath ||
        contains kernel command.directoryPath existing.directoryPath)
    (kernelError .Conflict "Physical Worktree directories must be disjoint.")
  let createdAt ← kernel.now
  insertRow
    ({ worktreeId := command.worktreeId
       runId := command.runId
       repositoryId := command.repositoryId
       repositoryPath := command.repositoryPath
       baseRevision := command.baseRevision
       directoryPath := command.directoryPath
       directoryIdentity := command.directoryIdentity
       state := .Ready
       createdAt } : PhysicalWorktree)
  pure { commandType := .RegisterPhysicalWorktree, entityId := command.worktreeId }

def startWorktreeExecution (kernel : KernelContext) (command : StartWorktreeExecutionCommand)
    (principal : Principal) (correlationId : String) : K CommandResult := do
  requireTrustedRuntime principal
  requireNonEmpty command.executorId "executorId"
  assertPhysicalWorktreeIdle command.worktreeId false
  let worktree ← requireWorktree command.worktreeId
  requireSourceActivation kernel worktree.runId command.activationId
  command.provider.elim (pure ()) fun provider =>
    requireExecutingProvider provider command.activationId
  assertActivationWriterAuthority kernel command.activationId false false
  let observedAt ← kernel.now
  let _ ← requireLiveAuthority kernel command.toWorktreeLeaseAuthority principal observedAt
    correlationId
  let id ← kernel.newId "worktree_execution"
  let executionToken ← kernel.drawToken
  let createdAt ← kernel.now
  let table ← selectTable WorktreeExecution
  insertRow
    ({ sequence := nextSequence WorktreeExecution.sequence table.rows
       id, executionToken, createdAt
       worktreeId := command.worktreeId
       activationId := command.activationId
       runtimePrincipalId := principal.id
       executorId := command.executorId
       generation := command.generation
       fencingToken := command.fencingToken
       operation := if command.provider.isSome then .nativeProvider else .writeProbe
       providerAttemptId := command.provider.map (·.providerAttemptId)
       permissionMode := command.provider.map (·.permissionMode)
       state := .Starting
       pid := none
       authorityRevokedAt := none
       authorityRevocationReason := none } : WorktreeExecution)
  appendWorktreeExecutionEvent kernel id .Starting
    "Durable intent before any file or process effect."
  pure
    { commandType := .StartWorktreeExecution
      entityId := id
      executionToken := some executionToken }

def recoverWorktreeExecution (kernel : KernelContext)
    (command : RecoverWorktreeExecutionCommand) (principal : Principal) : K CommandResult := do
  requireTrustedRuntime principal
  let execution ← requireExecution command.executionId
  requireNonEmpty command.reason "reason"
  revokePublication kernel execution.id command.reason
  (if isStopped execution.state ∨ execution.state = .Uncertain then pure ()
  else recordState kernel execution .Uncertain command.reason : K Unit)
  pure { commandType := .RecoverWorktreeExecution, entityId := command.executionId }

def revokeWorktreeExecutionAuthority (kernel : KernelContext)
    (command : RevokeWorktreeExecutionAuthorityCommand) (principal : Principal) :
    K CommandResult := do
  requireTrustedRuntime principal
  let execution ← requireExecution command.executionId
  requireReceipt execution command.toWorktreeExecutionReceipt principal
  requireNonEmpty command.reason "reason"
  revokePublication kernel execution.id command.reason
  pure { commandType := .RevokeWorktreeExecutionAuthority, entityId := command.executionId }

/-- The process identity an executor reports, which is recorded once. -/
def recordProcess (execution : WorktreeExecution) (pid : Option Int) : K Unit :=
  pid.elim (pure ()) fun pid => do
    throwIf (maxSafeInteger < pid ∨ pid < 1 ∨
        execution.pid.any fun recorded => (recorded : Int) ≠ pid)
      (kernelError .Conflict "Process identity cannot be replaced.")
    updateRows (fun r : WorktreeExecution => r.id = execution.id) fun r =>
      { r with pid := some pid.toNat }

def recordWorktreeExecution (kernel : KernelContext) (command : RecordWorktreeExecutionCommand)
    (principal : Principal) : K CommandResult := do
  requireTrustedRuntime principal
  let execution ← requireExecution command.executionId
  requireReceipt execution command.toWorktreeExecutionReceipt principal
  requireNonEmpty command.evidence "evidence"
  throwIf (command.state ∉ allowedExecutionStates execution.state)
    (kernelError .Conflict
      s!"Invalid physical execution transition: {execution.state.text} -> {command.state.text}.")
  recordProcess execution command.pid
  (if command.state = .StopRequested ∧ command.preservePublicationAuthority ≠ some true then
    revokePublication kernel execution.id "Execution stop revoked publication authority."
  else pure () : K Unit)
  recordState kernel execution command.state command.evidence
  pure { commandType := .RecordWorktreeExecution, entityId := command.executionId }

def resolveCachedWorktreeExecution (kernel : KernelContext)
    (command : StartWorktreeExecutionCommand) (result : CommandResult)
    (principal : Principal) : K CommandResult := do
  command.provider.elim (pure ()) fun provider =>
    requireExecutingProvider provider command.activationId
  assertWorktreeMutation kernel
    { toWorktreeLeaseAuthority := command.toWorktreeLeaseAuthority
      executionId := result.entityId
      executorId := command.executorId
      executionToken := result.executionToken.getD "" }
    principal
  pure result

/-! ## Tables the functions write -/

section Within

set_option synthInstance.maxSize 100000

variable {R : World → World → Prop} {ts : List TableName} [Concerns R ts]
  [IsPreorder World R] (kernel : KernelContext)

instance (principal : Principal) : Within R (requireTrustedRuntime principal) := by
  unfold requireTrustedRuntime
  infer_instance

instance (id : String) : Within R (requireWorktree id) := by
  unfold requireWorktree
  infer_instance

instance (id : String) : Within R (requireExecution id) := by
  unfold requireExecution
  infer_instance

instance (execution : WorktreeExecution) (receipt : WorktreeExecutionReceipt)
    (principal : Principal) : Within R (requireReceipt execution receipt principal) := by
  unfold requireReceipt
  infer_instance

instance (runId activationId : String) :
    Within R (requireSourceActivation kernel runId activationId) := by
  unfold requireSourceActivation
  infer_instance

instance (provider : WorktreeProviderBinding) (activationId : String) :
    Within R (requireExecutingProvider provider activationId) := by
  unfold requireExecutingProvider
  infer_instance

instance [NotAmong .worktreeExecutionEvents ts] (executionId : String)
    (state : WorktreeExecutionState) (evidence : String) :
    Within R (appendWorktreeExecutionEvent kernel executionId state evidence) := by
  unfold appendWorktreeExecutionEvent
  infer_instance

instance (activationId providerAttemptId : String) (allowCommittedDecision : Bool) :
    Within R (assertNativeProvider activationId providerAttemptId allowCommittedDecision) := by
  unfold assertNativeProvider
  infer_instance

instance (activation : ActivationAttempt) (sourceRun : Run) :
    Within R (committedDecision kernel activation sourceRun) := by
  unfold committedDecision
  infer_instance

instance (activationId providerAttemptId : Option String) :
    Within R (activityActivationId activationId providerAttemptId) := by
  unfold activityActivationId
  infer_instance

instance [NotAmong .physicalWorktrees ts] (command : RegisterPhysicalWorktreeCommand)
    (principal : Principal) :
    Within R (registerPhysicalWorktree kernel command principal) := by
  unfold registerPhysicalWorktree
  infer_instance

section Executions

variable [NotAmong .worktreeExecutions ts]

instance (executionId reason : String) :
    Within R (revokePublication kernel executionId reason) := by
  unfold revokePublication
  infer_instance

instance (execution : WorktreeExecution) (pid : Option Int) :
    Within R (recordProcess execution pid) := by
  unfold recordProcess
  infer_instance

instance (execution : WorktreeExecution) (failure : Failure) :
    Within R (revokeLostAuthority kernel execution failure) := by
  unfold revokeLostAuthority
  infer_instance

instance (command : RevokeWorktreeExecutionAuthorityCommand) (principal : Principal) :
    Within R (revokeWorktreeExecutionAuthority kernel command principal) := by
  unfold revokeWorktreeExecutionAuthority
  infer_instance

variable [NotAmong .worktreeExecutionEvents ts] [NotAmong .physicalWorktrees ts]

instance (execution : WorktreeExecution) (state : WorktreeExecutionState)
    (evidence : String) : Within R (recordState kernel execution state evidence) := by
  unfold recordState
  infer_instance

instance (command : RecoverWorktreeExecutionCommand) (principal : Principal) :
    Within R (recoverWorktreeExecution kernel command principal) := by
  unfold recoverWorktreeExecution
  infer_instance

instance (command : RecordWorktreeExecutionCommand) (principal : Principal) :
    Within R (recordWorktreeExecution kernel command principal) := by
  unfold recordWorktreeExecution
  infer_instance

end Executions

section Leases

variable [NotAmong .worktreeWriterLeases ts] [NotAmong .worktreeWriterLeaseEvents ts]

instance (activationId : String) (requireStopped allowCommittedDecision : Bool)
    (execution : WorktreeExecution) (worktree : PhysicalWorktree)
    (lease : Option WorktreeWriterLease) :
    Within R (assertExecutionAuthority kernel activationId requireStopped
      allowCommittedDecision execution worktree lease) := by
  unfold assertExecutionAuthority
  infer_instance

variable [NotAmong .worktreeExecutions ts]

instance (activationId : String) (requireStopped allowCommittedDecision : Bool) :
    Within R (assertActivationWriterAuthority kernel activationId requireStopped
      allowCommittedDecision) := by
  unfold assertActivationWriterAuthority
  infer_instance

instance (principal : Principal) (context : PrincipalContext) (requireStopped : Bool) :
    Within R (assertWriterContextAuthority kernel principal context requireStopped) := by
  unfold assertWriterContextAuthority
  infer_instance

instance (activationId providerAttemptId : Option String) :
    Within R (assertActivityAuthority kernel activationId providerAttemptId) := by
  unfold assertActivityAuthority
  infer_instance

instance (command : KernelCommand) :
    Within R (assertRuntimeCommandAuthority kernel command) := by
  unfold assertRuntimeCommandAuthority
  split <;> infer_instance

instance (command : KernelCommand) (principal : Principal) (context : PrincipalContext) :
    Within R (assertWriterCommandAuthority kernel command principal context) := by
  unfold assertWriterCommandAuthority
  infer_instance

instance (authority : WorktreeMutationAuthority) (principal : Principal) :
    Within R (assertWorktreeMutation kernel authority principal) := by
  unfold assertWorktreeMutation
  infer_instance

instance (authority : WorktreeMutationAuthority) (principal : Principal) :
    Within R (assertWorktreePublication kernel authority principal) := by
  unfold assertWorktreePublication
  infer_instance

instance (command : StartWorktreeExecutionCommand) (result : CommandResult)
    (principal : Principal) :
    Within R (resolveCachedWorktreeExecution kernel command result principal) := by
  unfold resolveCachedWorktreeExecution
  infer_instance

instance [NotAmong .worktreeExecutionEvents ts] (command : StartWorktreeExecutionCommand)
    (principal : Principal) (correlationId : String) :
    Within R (startWorktreeExecution kernel command principal correlationId) := by
  unfold startWorktreeExecution
  infer_instance

end Leases

end Within

end Torsor.Kernel
