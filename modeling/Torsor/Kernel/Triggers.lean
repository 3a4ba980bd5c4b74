import Torsor.Kernel.Frame

/-! # Triggers

The statements on `activation_attempts`, `provider_attempts` and `attentions` with the
triggers they fire. The triggers keep the rows of `attention_recovery_executions`, the
provider counts of `attention_domain_fences` and the recovery revision; the two triggers
of one statement read and write different tables, so their order is immaterial. Nothing
deletes a ProviderAttempt, so the delete triggers are left out.
-/

namespace Torsor.Kernel

open Torsor.Library Tx

def bumpAttentionRecoveryRevision : K Unit :=
  updateRows (fun _ : KernelRuntimeState => true) fun r =>
    { r with attentionRecoveryRevision := r.attentionRecoveryRevision + 1 }

/-! ## Activations -/

def attentionRecoveryActivationInsert (new : ActivationAttempt) : K Unit :=
  if new.cause = .Attention then do
    insertRow
      ({ activationId := new.id
         startedAt := new.startedAt
         expiresAt := new.expiresAt
         unfinished := new.finishedAt.isNone && new.revokedAt.isNone
         expiredRecoverable := false
         unsettledProviderAttemptCount := 0
         finishedWithUnsettledProvider := false } : AttentionRecoveryExecution)
    deleteRows fun r : AttentionRecoveryExecution =>
      r.activationId = new.id && new.revokedAt.isSome && new.finishedAt.isNone
    bumpAttentionRecoveryRevision
  else pure ()

/-- The columns the update trigger watches are `IS NOT` the same. -/
def ActivationAttempt.recoveryColumnsChanged (old new : ActivationAttempt) : Bool :=
  old.startedAt ≠ new.startedAt || old.expiresAt ≠ new.expiresAt ||
    old.revokedAt ≠ new.revokedAt || old.revocationReason ≠ new.revocationReason ||
    old.finishedAt ≠ new.finishedAt || old.outcome ≠ new.outcome || old.detail ≠ new.detail

/-- The recovery row of an Activation that changed from `old` to `new`. -/
def AttentionRecoveryExecution.afterActivationUpdate (r : AttentionRecoveryExecution)
    (old new : ActivationAttempt) : AttentionRecoveryExecution :=
  { r with
    startedAt := new.startedAt
    expiresAt := new.expiresAt
    unfinished := new.finishedAt.isNone && new.revokedAt.isNone
    expiredRecoverable :=
      if new.finishedAt.isNone && new.revokedAt.isNone && new.expiresAt = old.expiresAt then
        r.expiredRecoverable
      else false
    finishedWithUnsettledProvider :=
      new.finishedAt.isSome && 0 < r.unsettledProviderAttemptCount }

def attentionRecoveryActivationUpdate (old new : ActivationAttempt) : K Unit :=
  if old.cause = .Attention ∧ old.recoveryColumnsChanged new then do
    updateRows (fun r : AttentionRecoveryExecution => r.activationId = new.id)
      (·.afterActivationUpdate old new)
    deleteRows fun r : AttentionRecoveryExecution =>
      r.activationId = new.id && new.revokedAt.isSome && r.unsettledProviderAttemptCount = 0
    bumpAttentionRecoveryRevision
  else pure ()

def insertActivation (activation : ActivationAttempt) : K Unit := do
  insertRow activation
  attentionRecoveryActivationInsert activation

/-- `UPDATE activation_attempts SET f WHERE p RETURNING id`, for an `f` that assigns
columns the trigger watches. -/
def updateActivations (p : ActivationAttempt → Bool) (f : ActivationAttempt → ActivationAttempt)
    (h : KeepsKeys f := by exact ⟨fun _ => rfl⟩) : K (List String) := do
  let changed ← selectRows p
  updateRows p f h
  forEach changed fun old => attentionRecoveryActivationUpdate old (f old)
  pure (changed.map (·.id))

/-! ## Provider attempts -/

/-- `CASE WHEN status IN ('Started', 'Acknowledged') THEN 1 ELSE 0 END`. -/
def ProviderAttemptStatus.unsettledCount (status : ProviderAttemptStatus) : Nat :=
  if status.isUnsettled then 1 else 0

/-- The recovery row with `added` and `removed` unsettled ProviderAttempts. -/
def AttentionRecoveryExecution.recount (r : AttentionRecoveryExecution)
    (added removed : Nat) : AttentionRecoveryExecution :=
  { r with
    unsettledProviderAttemptCount := r.unsettledProviderAttemptCount + added - removed
    finishedWithUnsettledProvider :=
      !r.unfinished && 0 < r.unsettledProviderAttemptCount + added - removed }

/-- The two recovery triggers on `provider_attempts`; the count has a `CHECK (... >= 0)`. -/
def attentionRecoveryProviderChange (activationId : String) (added removed : Nat) : K Unit := do
  let execution ← selectRow fun r : AttentionRecoveryExecution => r.activationId = activationId
  throwIf (execution.any fun r => r.unsettledProviderAttemptCount + added < removed)
    (.fault .recoveryCountUnderflow)
  (if execution.isSome then do
    updateRows (fun r : AttentionRecoveryExecution => r.activationId = activationId)
      (·.recount added removed)
    bumpAttentionRecoveryRevision
  else pure () : K Unit)

/-- `SELECT attention_id FROM activation_attempts WHERE id = NEW.activation_id`. -/
def activationAttentionId (activationId : String) : K (Option String) := do
  let activation ← selectRow fun r : ActivationAttempt => r.id = activationId
  pure (activation.bind (·.attentionId))

def attentionDomainProviderInsert (new : ProviderAttempt) : K Unit := do
  let execution ← selectRow fun r : AttentionRecoveryExecution =>
    r.activationId = new.activationId
  (if new.status.isUnsettled ∧ execution.isSome then do
    let attentionId ← activationAttentionId new.activationId
    let fence ← selectRow fun r : AttentionDomainFence => some r.attentionId = attentionId
    throwIf fence.isNone (.fault .missingDomainFence)
    updateRows (fun r : AttentionDomainFence => some r.attentionId = attentionId) fun r =>
      { r with unsettledProviderAttemptCount := r.unsettledProviderAttemptCount + 1 }
  else pure () : K Unit)

/-- A fence with one unsettled ProviderAttempt more, or one less, as `new` is unsettled. -/
def AttentionDomainFence.recount (r : AttentionDomainFence) (new : ProviderAttemptStatus) :
    AttentionDomainFence :=
  { r with
    unsettledProviderAttemptCount :=
      if new.isUnsettled then r.unsettledProviderAttemptCount + 1
      else r.unsettledProviderAttemptCount - 1 }

def attentionDomainProviderUpdate (old new : ProviderAttempt) : K Unit := do
  let execution ← selectRow fun r : AttentionRecoveryExecution =>
    r.activationId = new.activationId
  (if old.status.unsettledCount ≠ new.status.unsettledCount ∧ execution.isSome then do
    let attentionId ← activationAttentionId new.activationId
    let fence ← selectRow fun r : AttentionDomainFence =>
      some r.attentionId = attentionId &&
        (new.status.isUnsettled || 0 < r.unsettledProviderAttemptCount)
    throwIf fence.isNone (.fault .domainCountUnderflow)
    updateRows (fun r : AttentionDomainFence => some r.attentionId = attentionId)
      (·.recount new.status)
    deleteRows fun r : AttentionDomainFence =>
      some r.attentionId = attentionId && r.leaseToken.isNone &&
        r.unsettledProviderAttemptCount = 0
  else pure () : K Unit)

def insertProviderAttempt (attempt : ProviderAttempt) : K Unit := do
  insertRow attempt
  attentionRecoveryProviderChange attempt.activationId attempt.status.unsettledCount 0
  attentionDomainProviderInsert attempt

/-- The recovery trigger of an update fires when a watched column changed. -/
def attentionRecoveryProviderUpdate (old new : ProviderAttempt) : K Unit :=
  if old.status ≠ new.status ∨ old.detail ≠ new.detail ∨ old.finishedAt ≠ new.finishedAt then
    attentionRecoveryProviderChange new.activationId new.status.unsettledCount
      old.status.unsettledCount
  else pure ()

/-- `UPDATE provider_attempts SET f WHERE id = ?`, for an `f` that assigns the status. -/
def updateProviderAttempt (id : String) (f : ProviderAttempt → ProviderAttempt)
    (h : KeepsKeys f := by exact ⟨fun _ => rfl⟩) : K Unit := do
  let changed ← selectRows fun r : ProviderAttempt => r.id = id
  updateRows (fun r : ProviderAttempt => r.id = id) f h
  forEach changed fun old => do
    attentionRecoveryProviderUpdate old (f old)
    attentionDomainProviderUpdate old (f old)

/-! ## Attentions -/

/-- The columns the update trigger of `attentions` watches are `IS NOT` the same. -/
def Attention.recoveryColumnsChanged (old new : Attention) : Bool :=
  old.status ≠ new.status || old.revision ≠ new.revision ||
    old.handlerLeaseHolderPrincipalId ≠ new.handlerLeaseHolderPrincipalId ||
    old.handlerLeaseToken ≠ new.handlerLeaseToken ||
    old.handlerLeaseExpiresAt ≠ new.handlerLeaseExpiresAt ||
    old.resolutionOutcome ≠ new.resolutionOutcome ||
    old.resolvedByPrincipalId ≠ new.resolvedByPrincipalId ||
    old.resolvedActivationId ≠ new.resolvedActivationId ||
    old.resolvedRunId ≠ new.resolvedRunId || old.resolvedAt ≠ new.resolvedAt

def attentionRecoveryAttentionUpdate (old new : Attention) : K Unit :=
  if old.recoveryColumnsChanged new then bumpAttentionRecoveryRevision else pure ()

/-- `UPDATE attentions SET f WHERE id = ?`, for an `f` that assigns watched columns. -/
def updateAttention (id : String) (f : Attention → Attention)
    (h : KeepsKeys f := by exact ⟨fun _ => rfl⟩) : K Unit := do
  let changed ← selectRows fun r : Attention => r.id = id
  updateRows (fun r : Attention => r.id = id) f h
  forEach changed fun old => attentionRecoveryAttentionUpdate old (f old)

/-! ## Tables the statements write -/

section Within

variable {R : World → World → Prop} {ts : List TableName} [Concerns R ts]
  [IsPreorder World R]

instance [NotAmong .kernelRuntimeState ts] : Within R bumpAttentionRecoveryRevision := by
  unfold bumpAttentionRecoveryRevision
  infer_instance

instance [NotAmong .kernelRuntimeState ts] [NotAmong .attentionRecoveryExecutions ts]
    (new : ActivationAttempt) : Within R (attentionRecoveryActivationInsert new) := by
  unfold attentionRecoveryActivationInsert
  infer_instance

instance [NotAmong .kernelRuntimeState ts] [NotAmong .attentionRecoveryExecutions ts]
    (old new : ActivationAttempt) : Within R (attentionRecoveryActivationUpdate old new) := by
  unfold attentionRecoveryActivationUpdate
  infer_instance

instance [NotAmong .kernelRuntimeState ts] [NotAmong .attentionRecoveryExecutions ts]
    [NotAmong .activationAttempts ts] (activation : ActivationAttempt) :
    Within R (insertActivation activation) := by
  unfold insertActivation
  infer_instance

instance [NotAmong .kernelRuntimeState ts] [NotAmong .attentionRecoveryExecutions ts]
    [NotAmong .activationAttempts ts] (p : ActivationAttempt → Bool)
    (f : ActivationAttempt → ActivationAttempt) (h : KeepsKeys f) :
    Within R (updateActivations p f h) := by
  unfold updateActivations
  infer_instance

instance [NotAmong .kernelRuntimeState ts] [NotAmong .attentionRecoveryExecutions ts]
    (activationId : String) (added removed : Nat) :
    Within R (attentionRecoveryProviderChange activationId added removed) := by
  unfold attentionRecoveryProviderChange
  infer_instance

instance (activationId : String) : Within R (activationAttentionId activationId) := by
  unfold activationAttentionId
  infer_instance

instance [NotAmong .attentionDomainFences ts] (new : ProviderAttempt) :
    Within R (attentionDomainProviderInsert new) := by
  unfold attentionDomainProviderInsert
  infer_instance

instance [NotAmong .attentionDomainFences ts] (old new : ProviderAttempt) :
    Within R (attentionDomainProviderUpdate old new) := by
  unfold attentionDomainProviderUpdate
  infer_instance

instance [NotAmong .kernelRuntimeState ts] [NotAmong .attentionRecoveryExecutions ts]
    [NotAmong .attentionDomainFences ts] [NotAmong .providerAttempts ts]
    (attempt : ProviderAttempt) : Within R (insertProviderAttempt attempt) := by
  unfold insertProviderAttempt
  infer_instance

instance [NotAmong .kernelRuntimeState ts] [NotAmong .attentionRecoveryExecutions ts]
    (old new : ProviderAttempt) : Within R (attentionRecoveryProviderUpdate old new) := by
  unfold attentionRecoveryProviderUpdate
  infer_instance

instance [NotAmong .kernelRuntimeState ts] [NotAmong .attentionRecoveryExecutions ts]
    [NotAmong .attentionDomainFences ts] [NotAmong .providerAttempts ts] (id : String)
    (f : ProviderAttempt → ProviderAttempt) (h : KeepsKeys f) :
    Within R (updateProviderAttempt id f h) := by
  unfold updateProviderAttempt
  infer_instance

instance [NotAmong .kernelRuntimeState ts] (old new : Attention) :
    Within R (attentionRecoveryAttentionUpdate old new) := by
  unfold attentionRecoveryAttentionUpdate
  infer_instance

instance [NotAmong .kernelRuntimeState ts] [NotAmong .attentions ts] (id : String)
    (f : Attention → Attention) (h : KeepsKeys f) :
    Within R (updateAttention id f h) := by
  unfold updateAttention
  infer_instance

end Within

end Torsor.Kernel
