import Torsor.Kernel.Invariants

/-! # Writer leases of Worktrees

A lease is Active until it is released, quarantined or seen to have expired. An expiry is
recorded by whichever operation sees it first; an operation that then fails raises a
durable error, so that the expiry is committed.
-/

namespace Torsor.Kernel

open Torsor.Library Tx

/-! ## Rows -/

def requireRuntime (principal : Principal) : K Unit :=
  throwIf (principal.kind ≠ .runtime)
    (kernelError .Forbidden "This command requires a runtime principal.")

def getLease (worktreeId : String) : K (Option WorktreeWriterLease) :=
  selectRow fun r : WorktreeWriterLease => r.worktreeId = worktreeId

def requireLease (worktreeId : String) : K WorktreeWriterLease :=
  requireRow (fun r : WorktreeWriterLease => r.worktreeId = worktreeId)
    (kernelError .NotFound s!"Worktree writer lease {worktreeId} does not exist.")

/-- `new (durable ? DurableKernelError : KernelError)(code, message, details)`. -/
def leaseError (durable : Bool) (code : ErrorCode) (message : String)
    (details : Option Json := none) : Failure :=
  if durable then .durable ⟨code, message, details⟩ else .kernel ⟨code, message, details⟩

def staleAuthority (expectedGeneration expectedFencingToken : Option Nat)
    (lease : Option WorktreeWriterLease) (durable : Bool) : Failure :=
  leaseError durable .ConditionalCheckFailed
    "The Worktree writer lease authority is stale."
    (some (.obj [("expectedGeneration", expectedGeneration.elim .null .nat),
      ("actualGeneration", lease.elim .null fun lease => .nat lease.generation),
      ("expectedFencingToken", expectedFencingToken.elim .null .nat),
      ("actualFencingToken", lease.elim .null fun lease => .nat lease.fencingToken)]))

/-- `appendEvent` of the lease module. -/
def appendWorktreeWriterLeaseEvent (kernel : KernelContext) (lease : WorktreeWriterLease)
    (type : WorktreeWriterLeaseEventType) (actorPrincipalId correlationId : String)
    (reason : Option String) (evidence : Option Json) : K Unit := do
  let id ← kernel.newId "worktree_writer_lease_event"
  let occurredAt ← kernel.now
  let table ← selectTable WorktreeWriterLeaseEvent
  insertRow
    ({ sequence := nextSequence WorktreeWriterLeaseEvent.sequence table.rows
       id, type, actorPrincipalId, reason, evidence, correlationId, occurredAt
       worktreeId := lease.worktreeId
       revision := lease.revision
       generation := lease.generation
       fencingToken := lease.fencingToken
       holderPrincipalId := lease.holderPrincipalId
       expiresAt := lease.expiresAt } : WorktreeWriterLeaseEvent)

/-- The Worktree runs nothing that is not known to have stopped. -/
def assertPhysicalWorktreeIdle (worktreeId : String) (durable : Bool) : K Unit := do
  let worktree ← selectRow fun r : PhysicalWorktree => r.worktreeId = worktreeId
  let unsettled ← selectRow fun r : WorktreeExecution =>
    r.worktreeId = worktreeId && r.state ≠ .StopConfirmed && r.state ≠ .ForceTerminated
  throwIf (worktree.any (·.state = .Quarantined) ∨ unsettled.isSome)
    (leaseError durable .DomainBusy
      "Physical Worktree stop is unconfirmed; lease reassignment or release is unsafe.")

def secretToken (kernel : KernelContext) (kind : String) : K String := do
  let random ← kernel.drawToken
  pure (kind ++ "_" ++ random)

/-! ## Expiry -/

/-- The lease is Active and its time is over. -/
def WorktreeWriterLease.expired (observedAt : Timestamp) (lease : WorktreeWriterLease) : Bool :=
  lease.status = .Active && lease.expiresAt.any (· ≤ observedAt)

def WorktreeWriterLease.expire (observedAt : Timestamp) (lease : WorktreeWriterLease) :
    WorktreeWriterLease :=
  { lease with
    revision := lease.revision + 1
    status := .Expired
    holderPrincipalId := none
    leaseToken := none
    expiresAt := none
    updatedAt := observedAt }

def expireLease (kernel : KernelContext) (lease : WorktreeWriterLease)
    (actorPrincipalId correlationId : String) (observedAt : Timestamp) :
    K WorktreeWriterLease := do
  updateRows (fun r : WorktreeWriterLease => r.worktreeId = lease.worktreeId)
    (WorktreeWriterLease.expire observedAt)
  let expired ← requireLease lease.worktreeId
  appendWorktreeWriterLeaseEvent kernel expired .WorktreeWriterLeaseExpired actorPrincipalId
    correlationId (some "lease_expired") none
  pure expired

def expireIfNeeded (kernel : KernelContext) (lease : Option WorktreeWriterLease)
    (actorPrincipalId correlationId : String) (observedAt : Timestamp) :
    K (Option WorktreeWriterLease) :=
  lease.elim (pure none) fun lease =>
    if lease.expired observedAt then do
      let expired ← expireLease kernel lease actorPrincipalId correlationId observedAt
      pure (some expired)
    else pure (some lease)

def requireLiveAuthority (kernel : KernelContext) (command : WorktreeLeaseAuthority)
    (principal : Principal) (observedAt : Timestamp) (correlationId : String) :
    K WorktreeWriterLease := do
  requireNonEmpty command.worktreeId "worktreeId"
  requireNonEmpty command.leaseToken "leaseToken"
  let lease ← requireLease command.worktreeId
  (if lease.expired observedAt then do
    let _ ← expireLease kernel lease principal.id correlationId observedAt
    raise (leaseError true .Conflict "The Worktree writer lease has expired.")
  else pure () : K Unit)
  throwIf (lease.status = .Expired)
    (kernelError .Conflict "The Worktree writer lease has expired.")
  throwIf (lease.generation ≠ command.generation ∨ lease.fencingToken ≠ command.fencingToken ∨
      lease.leaseToken ≠ some command.leaseToken)
    (staleAuthority (some command.generation) (some command.fencingToken) (some lease) false)
  throwIf (lease.status ≠ .Active ∨ lease.holderPrincipalId ≠ some principal.id)
    (kernelError .Conflict "The Worktree writer lease is not held by this Runtime.")
  throwIf (lease.expiresAt.all (· ≤ observedAt))
    (kernelError .Conflict "The Worktree writer lease has expired.")
  pure lease

/-! ## Results -/

def authorityResult (commandType : CommandType) (lease : WorktreeWriterLease)
    (observedAt : Timestamp) : CommandResult :=
  { commandType
    entityId := lease.worktreeId
    revision := some lease.revision
    leaseToken := lease.leaseToken
    leaseExpiresAt := lease.expiresAt
    authorityObservedAt := some observedAt
    leaseGeneration := some lease.generation
    fencingToken := some lease.fencingToken
    worktreeWriterLease := some (mapWorktreeWriterLease lease) }

def stateResult (commandType : CommandType) (lease : WorktreeWriterLease)
    (quarantineToken : Option String) : CommandResult :=
  { commandType
    entityId := lease.worktreeId
    revision := some lease.revision
    leaseGeneration := some lease.generation
    fencingToken := some lease.fencingToken
    quarantineToken
    worktreeWriterLease := some (mapWorktreeWriterLease lease) }

/-! ## Commands -/

/-- `INSERT ... ON CONFLICT(worktree_id) DO UPDATE`: `fresh` is inserted unless the
Worktree has a lease, which then becomes `replace` of itself. -/
def upsertLease (fresh : WorktreeWriterLease)
    (replace : WorktreeWriterLease → WorktreeWriterLease)
    (h : KeepsKeys replace := by exact ⟨fun _ => rfl⟩) : K Unit := do
  let existing ← getLease fresh.worktreeId
  (if existing.isSome then
    updateRows (fun r : WorktreeWriterLease => r.worktreeId = fresh.worktreeId) replace h
  else insertRow fresh : K Unit)

/-- The lease an acquisition grants. -/
def acquiredLease (worktreeId : String) (existing : Option WorktreeWriterLease)
    (principalId leaseToken : String) (observedAt expiresAt : Timestamp) :
    WorktreeWriterLease :=
  { worktreeId
    revision := existing.elim 1 (·.revision + 1)
    generation := existing.elim 1 (·.generation + 1)
    fencingToken := existing.elim 1 (·.fencingToken + 1)
    status := .Active
    holderPrincipalId := some principalId
    leaseToken := some leaseToken
    acquiredAt := some observedAt
    renewedAt := none
    expiresAt := some expiresAt
    releasedAt := none
    quarantineReason := none
    quarantineToken := none
    quarantineEvidence := none
    quarantinedAt := none
    quarantineResolvedAt := none
    quarantineResolution := none
    updatedAt := observedAt }

def acquireWorktreeWriterLease (kernel : KernelContext)
    (command : AcquireWorktreeWriterLeaseCommand) (principal : Principal)
    (correlationId : String) : K CommandResult := do
  requireRuntime principal
  requireNonEmpty command.worktreeId "worktreeId"
  let durationMs ← boundedDuration command.leaseDurationMs "leaseDurationMs"
  let observedAt ← kernel.now
  let previous ← getLease command.worktreeId
  let existing ← expireIfNeeded kernel previous principal.id correlationId observedAt
  assertPhysicalWorktreeIdle command.worktreeId
    (previous.any (·.status = .Active) && existing.any (·.status = .Expired))
  throwIf (existing.any (·.status = .Active))
    (kernelError .DomainBusy "The Worktree already has an active writer lease.")
  throwIf (existing.any (·.status = .Quarantined))
    (kernelError .DomainBusy
      "The Worktree writer state is quarantined and must be resolved before acquisition.")
  let leaseToken ← secretToken kernel "wlt"
  let acquired := acquiredLease command.worktreeId existing principal.id leaseToken observedAt
    (observedAt + durationMs)
  upsertLease acquired fun r => { acquired with worktreeId := r.worktreeId }
  let lease ← requireLease command.worktreeId
  appendWorktreeWriterLeaseEvent kernel lease .WorktreeWriterLeaseAcquired principal.id
    correlationId none none
  pure (authorityResult .AcquireWorktreeWriterLease lease observedAt)

def renewWorktreeWriterLease (kernel : KernelContext)
    (command : RenewWorktreeWriterLeaseCommand) (principal : Principal)
    (correlationId : String) : K CommandResult := do
  requireRuntime principal
  let durationMs ← boundedDuration command.leaseDurationMs "leaseDurationMs"
  let observedAt ← kernel.now
  let lease ← requireLiveAuthority kernel command.toWorktreeLeaseAuthority principal observedAt
    correlationId
  updateRows (fun r : WorktreeWriterLease => r.worktreeId = command.worktreeId) fun r =>
    { r with
      revision := lease.revision + 1
      renewedAt := some observedAt
      expiresAt := some (observedAt + durationMs)
      updatedAt := observedAt }
  let renewed ← requireLease command.worktreeId
  appendWorktreeWriterLeaseEvent kernel renewed .WorktreeWriterLeaseRenewed principal.id
    correlationId none none
  pure (authorityResult .RenewWorktreeWriterLease renewed observedAt)

def releaseWorktreeWriterLease (kernel : KernelContext)
    (command : ReleaseWorktreeWriterLeaseCommand) (principal : Principal)
    (correlationId : String) : K CommandResult := do
  requireRuntime principal
  let observedAt ← kernel.now
  let lease ← requireLiveAuthority kernel command.toWorktreeLeaseAuthority principal observedAt
    correlationId
  assertPhysicalWorktreeIdle command.worktreeId false
  updateRows (fun r : WorktreeWriterLease => r.worktreeId = command.worktreeId) fun r =>
    { r with
      revision := lease.revision + 1
      status := .Released
      holderPrincipalId := none
      leaseToken := none
      expiresAt := none
      releasedAt := some observedAt
      updatedAt := observedAt }
  let released ← requireLease command.worktreeId
  appendWorktreeWriterLeaseEvent kernel released .WorktreeWriterLeaseReleased principal.id
    correlationId none none
  pure (stateResult .ReleaseWorktreeWriterLease released none)

/-- An Active lease is quarantined under its exact live authority only. -/
def requireQuarantineAuthority (command : QuarantineWorktreeWriterLeaseCommand)
    (lease : Option WorktreeWriterLease) (principal : Principal) (observedAt : Timestamp) :
    K Unit :=
  lease.elim (pure ()) fun lease =>
    if lease.status ≠ .Active then pure () else do
      throwIf (command.expectedGeneration.isNone ∨ command.expectedFencingToken.isNone ∨
          command.leaseToken.isNone)
        (kernelError .ConditionalCheckFailed
          "Quarantining an active Worktree writer lease requires its exact live authority.")
      requireNonEmpty (command.leaseToken.getD "") "leaseToken"
      throwIf (some lease.generation ≠ command.expectedGeneration ∨
          some lease.fencingToken ≠ command.expectedFencingToken ∨
          lease.leaseToken ≠ command.leaseToken)
        (staleAuthority command.expectedGeneration command.expectedFencingToken (some lease)
          false)
      throwIf (lease.holderPrincipalId ≠ some principal.id ∨
          lease.expiresAt.all (· ≤ observedAt))
        (kernelError .Conflict
          "The Worktree writer lease is not live authority held by this Runtime.")

/-- The lease a quarantine leaves; the columns it does not assign are those of `lease`. -/
def WorktreeWriterLease.quarantine (existing : Option WorktreeWriterLease)
    (command : QuarantineWorktreeWriterLeaseCommand) (quarantineToken : String)
    (observedAt : Timestamp) (lease : WorktreeWriterLease) : WorktreeWriterLease :=
  { lease with
    revision := existing.elim 1 (·.revision + 1)
    generation := existing.elim 0 (·.generation)
    fencingToken := existing.elim 1 (·.fencingToken + 1)
    status := .Quarantined
    holderPrincipalId := none
    leaseToken := none
    expiresAt := none
    releasedAt := none
    quarantineReason := some command.reason
    quarantineToken := some quarantineToken
    quarantineEvidence := command.evidence
    quarantinedAt := some observedAt
    quarantineResolvedAt := none
    quarantineResolution := none
    updatedAt := observedAt }

/-- A row all of whose optional columns are `NULL`. -/
def blankLease (worktreeId : String) (observedAt : Timestamp) : WorktreeWriterLease :=
  { worktreeId
    revision := 1
    generation := 0
    fencingToken := 1
    status := .Released
    holderPrincipalId := none
    leaseToken := none
    acquiredAt := none
    renewedAt := none
    expiresAt := none
    releasedAt := none
    quarantineReason := none
    quarantineToken := none
    quarantineEvidence := none
    quarantinedAt := none
    quarantineResolvedAt := none
    quarantineResolution := none
    updatedAt := observedAt }

def quarantineWorktreeWriterLease (kernel : KernelContext)
    (command : QuarantineWorktreeWriterLeaseCommand) (principal : Principal)
    (correlationId : String) : K CommandResult := do
  requireRuntime principal
  requireNonEmpty command.worktreeId "worktreeId"
  requireNonEmpty command.reason "reason"
  let observedAt ← kernel.now
  let current ← getLease command.worktreeId
  let materializedExpiry := current.any (·.expired observedAt)
  let existing ← expireIfNeeded kernel current principal.id correlationId observedAt
  throwIf (existing.any (·.status = .Quarantined))
    (kernelError .Conflict "The Worktree writer state is already quarantined.")
  requireQuarantineAuthority command existing principal observedAt
  let stale := staleAuthority command.expectedGeneration command.expectedFencingToken existing
    materializedExpiry
  throwIf (command.expectedGeneration.any fun expected =>
    existing.all (·.generation ≠ expected)) stale
  throwIf (command.expectedFencingToken.any fun expected =>
    existing.all (·.fencingToken ≠ expected)) stale
  let quarantineToken ← secretToken kernel "wqt"
  let quarantine := WorktreeWriterLease.quarantine existing command quarantineToken observedAt
  upsertLease (quarantine (blankLease command.worktreeId observedAt)) quarantine
  let quarantined ← requireLease command.worktreeId
  appendWorktreeWriterLeaseEvent kernel quarantined .WorktreeWriterLeaseQuarantined principal.id
    correlationId (some command.reason) command.evidence
  pure (stateResult .QuarantineWorktreeWriterLease quarantined (some quarantineToken))

def resolveWorktreeWriterLeaseQuarantine (kernel : KernelContext)
    (command : ResolveWorktreeWriterLeaseQuarantineCommand) (principal : Principal)
    (correlationId : String) : K CommandResult := do
  requireRuntime principal
  assertPhysicalWorktreeIdle command.worktreeId false
  requireNonEmpty command.worktreeId "worktreeId"
  requireNonEmpty command.quarantineToken "quarantineToken"
  requireNonEmpty command.resolution "resolution"
  let lease ← requireLease command.worktreeId
  throwIf ((lease.revision : Int) ≠ command.expectedRevision ∨
      (lease.fencingToken : Int) ≠ command.expectedFencingToken ∨
      lease.quarantineToken ≠ some command.quarantineToken)
    (kernelError .ConditionalCheckFailed
      "The Worktree writer quarantine expectation is stale."
      (some (.obj [("expectedRevision", .num command.expectedRevision),
        ("actualRevision", .nat lease.revision),
        ("expectedFencingToken", .num command.expectedFencingToken),
        ("actualFencingToken", .nat lease.fencingToken)])))
  throwIf (lease.status ≠ .Quarantined)
    (kernelError .Conflict "The Worktree writer state is not quarantined.")
  let observedAt ← kernel.now
  updateRows (fun r : WorktreeWriterLease => r.worktreeId = command.worktreeId) fun r =>
    { r with
      revision := lease.revision + 1
      status := .Released
      quarantineReason := none
      quarantineToken := none
      quarantineEvidence := none
      quarantinedAt := none
      quarantineResolvedAt := some observedAt
      quarantineResolution := some command.resolution
      updatedAt := observedAt }
  let resolved ← requireLease command.worktreeId
  appendWorktreeWriterLeaseEvent kernel resolved .WorktreeWriterLeaseQuarantineResolved
    principal.id correlationId (some command.resolution) none
  pure (stateResult .ResolveWorktreeWriterLeaseQuarantine resolved none)

def getWorktreeWriterLease (kernel : KernelContext) (worktreeId : String)
    (principal : Principal) : K WorktreeWriterLeaseView := do
  requireRuntime principal
  requireNonEmpty worktreeId "worktreeId"
  let observedAt ← kernel.now
  let current ← requireLease worktreeId
  let correlationId ← kernel.newId "corr"
  let lease ← expireIfNeeded kernel (some current) principal.id correlationId observedAt
  pure (mapWorktreeWriterLease (lease.getD current))

/-! ## Replays -/

/-- A replay that sees the lease expire records that, and fails durably. -/
def expireCachedLease (kernel : KernelContext) (lease : WorktreeWriterLease)
    (principal : Principal) (observedAt : Timestamp) (message : String) : K Unit :=
  if lease.expired observedAt then do
    let correlationId ← kernel.newId "corr"
    let _ ← expireLease kernel lease principal.id correlationId observedAt
    raise (leaseError true .Conflict message)
  else pure ()

def resolveCachedWorktreeWriterLeaseAuthority (kernel : KernelContext) (worktreeId : String)
    (commandType : CommandType) (result : CommandResult) (principal : Principal) :
    K CommandResult := do
  throwIf (result.worktreeWriterLease.isNone ∨ ¬ truthy result.leaseToken)
    (kernelError .Conflict "The cached Worktree writer lease result is invalid.")
  let lease ← requireLease worktreeId
  let observedAt ← kernel.now
  expireCachedLease kernel lease principal observedAt
    "The cached Worktree writer lease has expired."
  throwIf (lease.status ≠ .Active ∨ lease.holderPrincipalId ≠ some principal.id ∨
      lease.leaseToken ≠ result.leaseToken ∨
      some lease.generation ≠ result.leaseGeneration ∨
      some lease.fencingToken ≠ result.fencingToken ∨
      lease.expiresAt.all (· ≤ observedAt))
    (kernelError .Conflict
      "The cached Worktree writer lease no longer grants live authority.")
  pure (authorityResult commandType lease observedAt)

def resolveCachedWorktreeWriterLeaseQuarantine (kernel : KernelContext)
    (command : QuarantineWorktreeWriterLeaseCommand) (result : CommandResult)
    (principal : Principal) : K CommandResult := do
  throwIf (¬ truthy result.quarantineToken ∨ result.revision.isNone ∨
      result.fencingToken.isNone)
    (kernelError .Conflict "The cached Worktree writer quarantine result is invalid.")
  let lease ← requireLease command.worktreeId
  let observedAt ← kernel.now
  expireCachedLease kernel lease principal observedAt
    "The cached Worktree writer quarantine is no longer current."
  throwIf (lease.status ≠ .Quarantined ∨ some lease.revision ≠ result.revision ∨
      some lease.fencingToken ≠ result.fencingToken ∨
      lease.quarantineToken ≠ result.quarantineToken)
    (kernelError .Conflict
      "The cached Worktree writer quarantine is no longer current.")
  pure (stateResult .QuarantineWorktreeWriterLease lease result.quarantineToken)

/-! ## Tables the commands write -/

section Within

set_option synthInstance.maxSize 100000

variable {R : World → World → Prop} {ts : List TableName} [Concerns R ts]
  [IsPreorder World R] (kernel : KernelContext)

instance (principal : Principal) : Within R (requireRuntime principal) := by
  unfold requireRuntime
  infer_instance

instance (worktreeId : String) : Within R (getLease worktreeId) := by
  unfold getLease
  infer_instance

instance (worktreeId : String) : Within R (requireLease worktreeId) := by
  unfold requireLease
  infer_instance

instance (worktreeId : String) (durable : Bool) :
    Within R (assertPhysicalWorktreeIdle worktreeId durable) := by
  unfold assertPhysicalWorktreeIdle
  infer_instance

instance (kind : String) : Within R (secretToken kernel kind) := by
  unfold secretToken
  infer_instance

instance (command : QuarantineWorktreeWriterLeaseCommand)
    (lease : Option WorktreeWriterLease) (principal : Principal) (observedAt : Timestamp) :
    Within R (requireQuarantineAuthority command lease principal observedAt) := by
  unfold requireQuarantineAuthority
  infer_instance

instance [NotAmong .worktreeWriterLeaseEvents ts] (lease : WorktreeWriterLease)
    (type : WorktreeWriterLeaseEventType) (actorPrincipalId correlationId : String)
    (reason : Option String) (evidence : Option Json) :
    Within R (appendWorktreeWriterLeaseEvent kernel lease type actorPrincipalId correlationId
      reason evidence) := by
  unfold appendWorktreeWriterLeaseEvent
  infer_instance

variable [NotAmong .worktreeWriterLeases ts]

instance (fresh : WorktreeWriterLease) (replace : WorktreeWriterLease → WorktreeWriterLease)
    (h : KeepsKeys replace) : Within R (upsertLease fresh replace h) := by
  unfold upsertLease
  infer_instance

variable [NotAmong .worktreeWriterLeaseEvents ts]

instance (lease : WorktreeWriterLease) (actorPrincipalId correlationId : String)
    (observedAt : Timestamp) :
    Within R (expireLease kernel lease actorPrincipalId correlationId observedAt) := by
  unfold expireLease
  infer_instance

instance (lease : Option WorktreeWriterLease) (actorPrincipalId correlationId : String)
    (observedAt : Timestamp) :
    Within R (expireIfNeeded kernel lease actorPrincipalId correlationId observedAt) := by
  unfold expireIfNeeded
  infer_instance

instance (command : WorktreeLeaseAuthority) (principal : Principal) (observedAt : Timestamp)
    (correlationId : String) :
    Within R (requireLiveAuthority kernel command principal observedAt correlationId) := by
  unfold requireLiveAuthority
  infer_instance

instance (command : AcquireWorktreeWriterLeaseCommand) (principal : Principal)
    (correlationId : String) :
    Within R (acquireWorktreeWriterLease kernel command principal correlationId) := by
  unfold acquireWorktreeWriterLease
  infer_instance

instance (command : RenewWorktreeWriterLeaseCommand) (principal : Principal)
    (correlationId : String) :
    Within R (renewWorktreeWriterLease kernel command principal correlationId) := by
  unfold renewWorktreeWriterLease
  infer_instance

instance (command : ReleaseWorktreeWriterLeaseCommand) (principal : Principal)
    (correlationId : String) :
    Within R (releaseWorktreeWriterLease kernel command principal correlationId) := by
  unfold releaseWorktreeWriterLease
  infer_instance

instance (command : QuarantineWorktreeWriterLeaseCommand) (principal : Principal)
    (correlationId : String) :
    Within R (quarantineWorktreeWriterLease kernel command principal correlationId) := by
  unfold quarantineWorktreeWriterLease
  infer_instance

instance (command : ResolveWorktreeWriterLeaseQuarantineCommand) (principal : Principal)
    (correlationId : String) :
    Within R (resolveWorktreeWriterLeaseQuarantine kernel command principal
      correlationId) := by
  unfold resolveWorktreeWriterLeaseQuarantine
  infer_instance

instance (worktreeId : String) (principal : Principal) :
    Within R (getWorktreeWriterLease kernel worktreeId principal) := by
  unfold getWorktreeWriterLease
  infer_instance

instance (lease : WorktreeWriterLease) (principal : Principal) (observedAt : Timestamp)
    (message : String) :
    Within R (expireCachedLease kernel lease principal observedAt message) := by
  unfold expireCachedLease
  infer_instance

instance (worktreeId : String) (commandType : CommandType) (result : CommandResult)
    (principal : Principal) :
    Within R (resolveCachedWorktreeWriterLeaseAuthority kernel worktreeId commandType result
      principal) := by
  unfold resolveCachedWorktreeWriterLeaseAuthority
  infer_instance

instance (command : QuarantineWorktreeWriterLeaseCommand) (result : CommandResult)
    (principal : Principal) :
    Within R (resolveCachedWorktreeWriterLeaseQuarantine kernel command result principal) := by
  unfold resolveCachedWorktreeWriterLeaseQuarantine
  infer_instance

end Within

end Torsor.Kernel
