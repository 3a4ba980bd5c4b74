import Torsor.Kernel.WorktreeBook

/-! # What a replay touches

A command that is recorded is answered from its record. Besides the record, a replay may
lease a batch of the Outbox again, and record what it finds out: that a lease has expired,
or that an execution has lost its authority to publish. Every other row stays as it is.
-/

namespace Torsor.Kernel

open Torsor.Library Tx

/-! ## Effects of a replay -/

/-- The tables a replay has no part in. -/
abbrev TableName.besidesReplays : List TableName :=
  [.principals, .projects, .channels, .agents, .agentConfigRevisions, .causalLimits, .threads,
    .messages, .messageRevisions, .mentions, .attentions, .runs, .runInputs, .activationAttempts,
    .activationRunInputs, .providerAttempts, .kernelRuntimeState, .attentionRecoveryExecutions,
    .attentionDomainFences, .runActivityEvents, .artifacts, .physicalWorktrees,
    .worktreeExecutionEvents, .publicEvents, .runHistory, .runInputHistory, .activationHistory,
    .providerAttemptHistory, .attentionHistory, .projectionActivationChanges]

/-- Those whose rows a replay changes in a way that is a matter of the row alone. -/
abbrev TableName.butLeaseRows : List TableName :=
  [.principals, .projects, .channels, .agents, .agentConfigRevisions, .causalLimits, .threads,
    .messages, .messageRevisions, .mentions, .attentions, .runs, .runInputs, .activationAttempts,
    .activationRunInputs, .providerAttempts, .kernelRuntimeState, .attentionRecoveryExecutions,
    .attentionDomainFences, .runActivityEvents, .artifacts, .physicalWorktrees,
    .worktreeExecutionEvents, .publicEvents, .runHistory, .runInputHistory, .activationHistory,
    .providerAttemptHistory, .attentionHistory, .projectionActivationChanges, .outboxEvents,
    .idempotencyRecords, .worktreeWriterLeaseEvents, .worktreeExecutions]

/-- An event of the Outbox without its lease. -/
def OutboxEvent.unleased (r : OutboxEvent) : OutboxEvent :=
  { r with
    leaseHolderPrincipalId := none
    leaseToken := none
    leaseExpiresAt := none
    deliveryAttempts := 0 }

/-- A record without its result. -/
def IdempotencyRecord.request (r : IdempotencyRecord) : IdempotencyRecord :=
  { r with result := { commandType := r.commandName, entityId := "" } }

/-- The execution, or the execution with a first revocation of its authority. -/
inductive WorktreeExecution.Revoked (r : WorktreeExecution) : WorktreeExecution → Prop where
  | kept : Revoked r r
  | revoked (revokedAt : Timestamp) (reason : String) (hfirst : r.authorityRevokedAt = none) :
      Revoked r { r with
        authorityRevokedAt := some revokedAt
        authorityRevocationReason := some reason }

theorem WorktreeExecution.Revoked.trans {r r' r'' : WorktreeExecution} (h : r.Revoked r')
    (h' : r'.Revoked r'') : r.Revoked r'' := by
  cases h with
  | kept => exact h'
  | revoked revokedAt reason hfirst =>
      cases h' with
      | kept => exact .revoked revokedAt reason hfirst
      | revoked _ _ hagain => cases hagain

/-- The lease, or the lease with its expiry recorded after its time is over. -/
inductive WorktreeWriterLease.Expires (r : WorktreeWriterLease) : WorktreeWriterLease → Prop where
  | kept : Expires r r
  | expired (observedAt : Timestamp) (hexpired : r.expired observedAt = true) :
      Expires r (r.expire observedAt)

theorem WorktreeWriterLease.Expires.trans {r r' r'' : WorktreeWriterLease} (h : r.Expires r')
    (h' : r'.Expires r'') : r.Expires r'' := by
  cases h with
  | kept => exact h'
  | expired observedAt hexpired =>
      cases h' with
      | kept => exact .expired observedAt hexpired
      | expired _ hagain => simp [WorktreeWriterLease.expired, WorktreeWriterLease.expire] at hagain

/-- What a replay writes, except the rows of the leases themselves. -/
structure ReplayWrites (w w' : World) : Prop where
  tables : ∀ t ∈ TableName.besidesReplays, w'.db t = w.db t
  outbox : (w'.db.table OutboxEvent).rows.map OutboxEvent.unleased =
    (w.db.table OutboxEvent).rows.map OutboxEvent.unleased
  records : (w'.db.table IdempotencyRecord).rows.map IdempotencyRecord.request =
    (w.db.table IdempotencyRecord).rows.map IdempotencyRecord.request
  ledger : ∃ expiries, (w'.db.table WorktreeWriterLeaseEvent).rows =
      (w.db.table WorktreeWriterLeaseEvent).rows ++ expiries ∧
    ∀ e ∈ expiries, e.type = .WorktreeWriterLeaseExpired
  executions : ∃ f, (w'.db.table WorktreeExecution).rows =
      (w.db.table WorktreeExecution).rows.map f ∧ ∀ r : WorktreeExecution, r.Revoked (f r)

/-- All that a replay does to the database. -/
structure ReplayTouches (w w' : World) : Prop extends ReplayWrites w w' where
  leases : ∀ worktreeId, Option.Rel WorktreeWriterLease.Expires
    ((worktreeBook w.db).lease worktreeId) ((worktreeBook w'.db).lease worktreeId)

section Order

theorem ReplayWrites.refl (w : World) : ReplayWrites w w where
  tables _ _ := rfl
  outbox := rfl
  records := rfl
  ledger := ⟨[], (List.append_nil _).symm, fun _ h => nomatch h⟩
  executions := ⟨id, (List.map_id _).symm, fun _ => .kept⟩

instance : IsPreorder World ReplayWrites where
  refl := ReplayWrites.refl
  trans w w' w'' h h' := by
    obtain ⟨expiries, hledger, hexpiries⟩ := h.ledger
    obtain ⟨expiries', hledger', hexpiries'⟩ := h'.ledger
    obtain ⟨f, hf, hrevoked⟩ := h.executions
    obtain ⟨g, hg, hrevoked'⟩ := h'.executions
    refine ⟨fun t ht => (h'.tables t ht).trans (h.tables t ht), h'.outbox.trans h.outbox,
      h'.records.trans h.records, ⟨expiries ++ expiries', ?_, ?_⟩, ⟨g ∘ f, ?_, ?_⟩⟩
    · rw [hledger', hledger, List.append_assoc]
    · intro e he
      exact (List.mem_append.mp he).elim (hexpiries e) (hexpiries' e)
    · rw [hg, hf, List.map_map]
    · intro r
      exact (hrevoked r).trans (hrevoked' (f r))

instance : ConcernsTables ReplayWrites TableName.butLeaseRows where
  of_tables w w' htables _ _ _ := by
    have hsame : ∀ (ρ : Type) [Keyed ρ UniqueKey] {t : TableName} [Stored ρ t],
        t ∈ TableName.butLeaseRows → w'.db.table ρ = w.db.table ρ := by
      intro ρ _ t _ ht
      rw [Database.table, htables t ht, Database.table]
    refine ⟨?_, ?_, ?_, ?_, ?_⟩
    · intro t ht
      exact htables t (List.mem_append_left _ ht : t ∈ TableName.besidesReplays ++
        [.outboxEvents, .idempotencyRecords, .worktreeWriterLeaseEvents, .worktreeExecutions])
    · rw [hsame OutboxEvent (by decide)]
    · rw [hsame IdempotencyRecord (by decide)]
    · rw [hsame WorktreeWriterLeaseEvent (by decide)]
      exact (ReplayWrites.refl w).ledger
    · rw [hsame WorktreeExecution (by decide)]
      exact (ReplayWrites.refl w).executions

end Order

/-! ## Statements -/

section Statements

set_option synthInstance.maxSize 400000

variable (kernel : KernelContext)

/-- Tables other than the one that is stored stay as they are. -/
theorem besidesReplays_store {ρ : Type} [Keyed ρ UniqueKey] {t : TableName} [Stored ρ t]
    (ht : t ∉ TableName.besidesReplays) (w : World) (u : Table ρ) :
    ∀ s ∈ TableName.besidesReplays, (w.store u).db s = w.db s :=
  fun _ hs => Database.set_apply_of_ne _ _ fun heq => ht (heq ▸ hs)

instance (lease : WorktreeWriterLease) (actorPrincipalId correlationId : String)
    (reason : Option String) (evidence : Option Json) :
    Within ReplayWrites (appendWorktreeWriterLeaseEvent kernel lease
      .WorktreeWriterLeaseExpired actorPrincipalId correlationId reason evidence) := by
  have hinsert : ∀ (id : String) (occurredAt : Timestamp), Within ReplayWrites (do
      let table ← selectTable WorktreeWriterLeaseEvent
      insertRow
        ({ sequence := nextSequence WorktreeWriterLeaseEvent.sequence table.rows
           id, actorPrincipalId, reason, evidence, correlationId, occurredAt
           type := .WorktreeWriterLeaseExpired
           worktreeId := lease.worktreeId
           revision := lease.revision
           generation := lease.generation
           fencingToken := lease.fencingToken
           holderPrincipalId := lease.holderPrincipalId
           expiresAt := lease.expiresAt } : WorktreeWriterLeaseEvent)) := by
    intro id occurredAt
    apply Within.insertRow
    intro w u hu
    refine { ReplayWrites.refl w with
      tables := besidesReplays_store (by decide) w u, ledger := ?_ }
    have hrows := Table.insert?_eq_some hu
    refine ⟨_, (congrArg Table.rows (Database.table_set_same _ _)).trans hrows, ?_⟩
    intro e he
    rw [List.mem_singleton.mp he]
  unfold appendWorktreeWriterLeaseEvent
  infer_instance

instance (executionId reason : String) :
    Within ReplayWrites (revokePublication kernel executionId reason) := by
  have hrevoke : ∀ revokedAt : Timestamp, Within ReplayWrites (updateRows
      (fun r : WorktreeExecution => r.id = executionId && r.authorityRevokedAt.isNone)
      (fun r => { r with
        authorityRevokedAt := some revokedAt
        authorityRevocationReason := some reason }) ⟨fun _ => rfl⟩) := by
    intro revokedAt
    apply Within.updateRows
    intro w
    refine { ReplayWrites.refl w with
      tables := besidesReplays_store (by decide) w _, executions := ?_ }
    refine ⟨_, rfl, fun r => ?_⟩
    split
    · rename_i hfirst
      exact .revoked revokedAt reason (by simp_all)
    · exact .kept
  unfold revokePublication
  infer_instance

instance (ids : List String) (principalId leaseToken : String) (leaseExpiresAt : Timestamp) :
    Within ReplayWrites (leaseOutboxEvents ids principalId leaseToken leaseExpiresAt) := by
  have hlease : ∀ id : String, Within ReplayWrites (updateRows (fun r : OutboxEvent => r.id = id)
      (OutboxEvent.leaseTo principalId leaseToken leaseExpiresAt) ⟨fun _ => rfl⟩) := by
    intro id
    apply Within.updateRows
    intro w
    refine { ReplayWrites.refl w with
      tables := besidesReplays_store (by decide) w _, outbox := ?_ }
    have hsame : ∀ r : OutboxEvent,
        (r.leaseTo principalId leaseToken leaseExpiresAt).unleased = r.unleased := fun _ => rfl
    simp [Table.map_view_eq hsame]
  unfold leaseOutboxEvents
  infer_instance

theorem replayWrites_storeResult (principalId : String) (command : KernelCommand)
    (result : CommandResult) :
    Within ReplayWrites (updateRows (IdempotencyRecord.isOf principalId command)
      (fun r => { r with result }) ⟨fun _ => rfl⟩) := by
  apply Within.updateRows
  intro w
  refine { ReplayWrites.refl w with
    tables := besidesReplays_store (by decide) w _, records := ?_ }
  have hsame : ∀ r : IdempotencyRecord, { r with result }.request = r.request := fun _ => rfl
  simp [Table.map_view_eq hsame]

end Statements

/-! ## Functions -/

section Functions

set_option synthInstance.maxSize 400000

variable (kernel : KernelContext)

instance (lease : WorktreeWriterLease) (actorPrincipalId correlationId : String)
    (observedAt : Timestamp) :
    Within ReplayWrites (expireLease kernel lease actorPrincipalId correlationId observedAt) := by
  unfold expireLease
  infer_instance

instance (command : WorktreeLeaseAuthority) (principal : Principal) (observedAt : Timestamp)
    (correlationId : String) :
    Within ReplayWrites
      (requireLiveAuthority kernel command principal observedAt correlationId) := by
  unfold requireLiveAuthority
  infer_instance

instance (activationId : String) (requireStopped allowCommittedDecision : Bool)
    (execution : WorktreeExecution) (worktree : PhysicalWorktree)
    (lease : Option WorktreeWriterLease) :
    Within ReplayWrites (assertExecutionAuthority kernel activationId requireStopped
      allowCommittedDecision execution worktree lease) := by
  unfold assertExecutionAuthority
  infer_instance

instance (execution : WorktreeExecution) (failure : Failure) :
    Within ReplayWrites (revokeLostAuthority kernel execution failure) := by
  unfold revokeLostAuthority
  infer_instance

instance (activationId : String) (requireStopped allowCommittedDecision : Bool) :
    Within ReplayWrites (assertActivationWriterAuthority kernel activationId requireStopped
      allowCommittedDecision) := by
  unfold assertActivationWriterAuthority
  infer_instance

instance (activationId providerAttemptId : Option String) :
    Within ReplayWrites (assertActivityAuthority kernel activationId providerAttemptId) := by
  unfold assertActivityAuthority
  infer_instance

instance (command : KernelCommand) (principal : Principal) (context : PrincipalContext) :
    Within ReplayWrites (assertWriterCommandAuthority kernel command principal context) := by
  unfold assertWriterCommandAuthority assertWriterContextAuthority assertRuntimeCommandAuthority
  cases command <;> infer_instance

instance (authority : WorktreeMutationAuthority) (principal : Principal) :
    Within ReplayWrites (assertWorktreeMutation kernel authority principal) := by
  unfold assertWorktreeMutation
  infer_instance

instance (lease : WorktreeWriterLease) (principal : Principal) (observedAt : Timestamp)
    (message : String) :
    Within ReplayWrites (expireCachedLease kernel lease principal observedAt message) := by
  unfold expireCachedLease
  infer_instance

instance (command : ClaimOutboxEventsCommand) (result : CommandResult) (principal : Principal) :
    Within ReplayWrites (resolveCachedOutboxClaim kernel command result principal) := by
  unfold resolveCachedOutboxClaim renewOutboxClaim
  infer_instance

instance (command : KernelCommand) (result : CommandResult) (principal : Principal)
    (context : PrincipalContext) :
    Within ReplayWrites (resolveCachedResult kernel command result principal context) := by
  unfold resolveCachedResult
  cases command with
  | StartWorktreeExecution => unfold resolveCachedWorktreeExecution; infer_instance
  | AcquireWorktreeWriterLease =>
      unfold resolveCachedWorktreeWriterLeaseAuthority
      infer_instance
  | RenewWorktreeWriterLease =>
      unfold resolveCachedWorktreeWriterLeaseAuthority
      infer_instance
  | QuarantineWorktreeWriterLease =>
      unfold resolveCachedWorktreeWriterLeaseQuarantine
      infer_instance
  | _ => infer_instance

instance (command : KernelCommand) (principal : Principal) (context : PrincipalContext)
    (cached : IdempotencyRecord) :
    Within ReplayWrites (replayCommand kernel command principal context cached) := by
  have hstore := replayWrites_storeResult principal.id command
  unfold replayCommand
  cases command <;> infer_instance

end Functions

/-! ## Calls -/

/-- The Kernel has a record of a command of the principal with the type and the key of this
one. -/
def Recorded (principalId : String) (command : KernelCommand) (w : World) : Prop :=
  ∃ record, (w.db.table IdempotencyRecord).find? (IdempotencyRecord.isOf principalId command) =
    some record

section Calls

set_option synthInstance.maxSize 400000

variable {kernel : KernelContext} {w : World} {command : KernelCommand}
  {context : PrincipalContext} {operationContext : Option KernelOperationContext}

theorem commandBody_recorded {principal : Principal} (h : Recorded principal.id command w) :
    ReplayWrites w (commandBody kernel command principal context operationContext w).2 := by
  obtain ⟨record, hrecord⟩ := h
  unfold commandBody
  cases hfence : assertWriterCommandAuthority kernel command principal context w with
  | mk r w₁ =>
      have hwrites : ReplayWrites w w₁ := Within.of_eq hfence
      cases r with
      | error e =>
          rw [bind_of_error hfence]
          exact hwrites
      | ok u =>
          have htables : SameTables TableName.butLeases w w₁ := Within.of_eq hfence
          rw [← htables.table_eq IdempotencyRecord (by decide)] at hrecord
          rw [bind_of_ok hfence, bind_of_ok (selectRow_eq_ok.mpr ⟨hrecord, rfl⟩)]
          have hreplay := (inferInstance : Within ReplayWrites
            (replayCommand kernel command principal context record)).step w₁
          exact trans_of ReplayWrites hwrites hreplay

theorem executeTransaction_recorded (h : Recorded context.principalId command w) :
    ReplayWrites w (executeTransaction kernel command context operationContext w).2 := by
  obtain ⟨e, hrun⟩ | ⟨principal, hprincipal, hrun⟩ :=
    executeTransaction_cases kernel command context operationContext w
  · rw [hrun]
    exact ReplayWrites.refl w
  · have hid : principal.id = context.principalId := by
      simpa using (Table.find?_eq_some hprincipal).2
    rw [← hid] at h
    rw [hrun]
    obtain ⟨-, hsame⟩ | hrollback := transaction_snd (commandBody kernel command principal
      (effectiveContext principal context) operationContext) w
    · rw [hsame]
      exact commandBody_recorded h
    · rw [hrollback]
      have hframe : Within (Frame []) (commandBody kernel command principal
        (effectiveContext principal context) operationContext) := inferInstance
      exact Concerns.of_frame _ _ ((hframe.step w).rollback _)

theorem step_recorded {call : KernelCall} {issued : IssuedCommand}
    (hissued : call.issued = some issued)
    (h : Recorded issued.context.principalId issued.command w) :
    ReplayWrites w (step kernel call w) := by
  cases call with
  | execute command context operationContext =>
      cases hissued
      obtain hrefused | hafter := execute_after kernel (R := ReplayWrites) command context
        operationContext w
      · show ReplayWrites w (execute kernel command context operationContext w).2
        rw [hrefused]
        exact ReplayWrites.refl w
      · exact trans_of ReplayWrites (executeTransaction_recorded h) hafter
  | publishReport input content context operationContext =>
      cases hissued
      exact executeTransaction_recorded h
  | _ => cases hissued

end Calls

/-! ## Leases -/

section Leases

variable {o o' o'' : Option WorktreeWriterLease}

theorem expires_refl (o : Option WorktreeWriterLease) :
    Option.Rel WorktreeWriterLease.Expires o o := by
  cases o with
  | none => exact .none
  | some r => exact .some .kept

theorem expires_trans (h : Option.Rel WorktreeWriterLease.Expires o o')
    (h' : Option.Rel WorktreeWriterLease.Expires o' o'') :
    Option.Rel WorktreeWriterLease.Expires o o'' := by
  cases h with
  | none => exact h'
  | some hfirst =>
      cases h' with
      | some hsecond => exact .some (hfirst.trans hsecond)

end Leases

namespace WorktreeBook

variable {b b' : WorktreeBook}

/-- A step of which the ledger says nothing else leaves every lease, or records its expiry. -/
theorem Step.expires (h : Step b b') :
    ∃ events, b'.ledger = b.ledger ++ events ∧
      ((∀ e ∈ events, e.type = .WorktreeWriterLeaseExpired) → ∀ worktreeId,
        Option.Rel WorktreeWriterLease.Expires (b.lease worktreeId) (b'.lease worktreeId)) := by
  cases h with
  | @lease type lease event hmove hevent hlast =>
      refine ⟨[event], rfl, fun hexpired worktreeId => ?_⟩
      have htype : type = .WorktreeWriterLeaseExpired :=
        hevent.type_eq.symm.trans (hexpired event (List.mem_singleton_self event))
      cases hmove with
      | @expire r observedAt hr hover =>
          by_cases hid : worktreeId = r.worktreeId
          · subst hid
            rw [hr]
            have hlease : (b.setLease (r.expire observedAt)).lease r.worktreeId =
              some (r.expire observedAt) := setLease_lease_self b (r.expire observedAt)
            show Option.Rel _ _ ((b.setLease (r.expire observedAt)).lease r.worktreeId)
            rw [hlease]
            exact .some (.expired observedAt hover)
          · have hlease : (b.setLease (r.expire observedAt)).lease worktreeId =
              b.lease worktreeId := Function.update_of_ne hid _ _
            show Option.Rel _ _ ((b.setLease (r.expire observedAt)).lease worktreeId)
            rw [hlease]
            exact expires_refl _
      | _ => cases htype
  | _ => exact ⟨[], (List.append_nil _).symm, fun _ worktreeId => expires_refl _⟩

theorem expires_of_ledger (h : Relation.ReflTransGen Step b b') :
    ∃ events, b'.ledger = b.ledger ++ events ∧
      ((∀ e ∈ events, e.type = .WorktreeWriterLeaseExpired) → ∀ worktreeId,
        Option.Rel WorktreeWriterLease.Expires (b.lease worktreeId) (b'.lease worktreeId)) := by
  induction h with
  | refl => exact ⟨[], (List.append_nil _).symm, fun _ worktreeId => expires_refl _⟩
  | tail hrun hstep ih =>
      obtain ⟨before, hbefore, hrunLeases⟩ := ih
      obtain ⟨after, hafter, hstepLeases⟩ := hstep.expires
      refine ⟨before ++ after, ?_, fun hexpired worktreeId => ?_⟩
      · rw [hafter, hbefore, List.append_assoc]
      · have hfirst := hrunLeases fun e he => hexpired e (List.mem_append_left _ he)
        have hsecond := hstepLeases fun e he => hexpired e (List.mem_append_right _ he)
        exact expires_trans (hfirst worktreeId) (hsecond worktreeId)

end WorktreeBook

/-- A call whose command is recorded touches nothing a replay has no part in. -/
theorem step_touches {kernel : KernelContext} {w : World} {call : KernelCall}
    {issued : IssuedCommand} (hissued : call.issued = some issued)
    (h : Recorded issued.context.principalId issued.command w) :
    ReplayTouches w (step kernel call w) := by
  have hwrites : ReplayWrites w (step kernel call w) := step_recorded hissued h
  obtain ⟨events, hevents, hleases⟩ :=
    WorktreeBook.expires_of_ledger (step_worktrees kernel call w)
  obtain ⟨expiries, hexpiries, hexpired⟩ := hwrites.ledger
  have hsame : events = expiries := List.append_cancel_left (hevents.symm.trans hexpiries)
  exact { hwrites with leases := hleases (hsame ▸ hexpired) }

end Torsor.Kernel
