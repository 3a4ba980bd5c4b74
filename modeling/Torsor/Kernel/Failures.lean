import Torsor.Kernel.Idempotency
import Torsor.Kernel.PlainErrors

/-! # What a failed command leaves behind

An ordinary error leaves the database as it was. A durable error is raised on a path that
has so far only found something out: that a lease has expired, or that an execution has lost
its authority to publish. `Fails R` says so of a transaction, and follows the shape of the
program as `Within R` does: what runs before the error is within `R`, and what runs after
the last write raises no durable error.
-/

namespace Torsor.Kernel

open Torsor.Library Tx

/-! ## Durable errors -/

/-- When `m` raises a durable error, `R` relates the states before and after. -/
class Fails {α : Type} (R : World → World → Prop) (m : K α) : Prop where
  failed : ∀ w e w', m w = (.error e, w') → e.isDurable = true → R w w'

section Fails

variable {R : World → World → Prop} {α β : Type}

instance (priority := low) Fails.of_within (m : K α) [h : Within R m] : Fails R m :=
  ⟨fun _ _ _ hrun _ => Within.of_eq hrun⟩

instance (priority := low) Fails.of_plain (m : K α) [h : Plain m] : Fails R m where
  failed w e w' hrun hdurable := by
    rw [not_durable hrun] at hdurable
    cases hdurable

/-- What runs before the error is within `R`. -/
instance (priority := low) Fails.bind (m : K α) (f : α → K β) [IsPreorder World R]
    [hm : Within R m] [hf : ∀ a, Fails R (f a)] : Fails R (m >>= f) where
  failed w e w' hrun hdurable := by
    obtain hfirst | ⟨a, w₁, hfirst, hrest⟩ := bind_eq_error.mp hrun
    · exact Within.of_eq hfirst
    · exact trans_of R (Within.of_eq hfirst) ((hf a).failed w₁ e w' hrest hdurable)

/-- What runs after the last write raises no durable error. -/
instance (priority := low) Fails.bind_plain (m : K α) (f : α → K β) [hm : Fails R m]
    [hf : ∀ a, Plain (f a)] : Fails R (m >>= f) where
  failed w e w' hrun hdurable := by
    obtain hfirst | ⟨a, w₁, -, hrest⟩ := bind_eq_error.mp hrun
    · exact hm.failed w e w' hfirst hdurable
    · rw [(hf a).raised w₁ e (by rw [hrest])] at hdurable
      cases hdurable

instance (p : Prop) [Decidable p] (m n : K α) [hm : Fails R m] [hn : Fails R n] :
    Fails R (if p then m else n) := by
  split
  · exact hm
  · exact hn

instance (o : Option α) (m : K β) (f : α → K β) [hm : Fails R m]
    [hf : ∀ a, Fails R (f a)] : Fails R (o.elim m f) := by
  cases o with
  | none => exact hm
  | some a => exact hf a

end Fails

/-! ## Findings -/

/-- What a command that fails durably writes, except the rows of the leases themselves. -/
structure FailureWrites (w w' : World) : Prop extends ReplayWrites w w' where
  outboxEvents : w'.db .outboxEvents = w.db .outboxEvents
  idempotencyRecords : w'.db .idempotencyRecords = w.db .idempotencyRecords

instance : IsPreorder World FailureWrites where
  refl w := ⟨ReplayWrites.refl w, rfl, rfl⟩
  trans _ _ _ h h' :=
    ⟨trans_of ReplayWrites h.toReplayWrites h'.toReplayWrites,
      h'.outboxEvents.trans h.outboxEvents, h'.idempotencyRecords.trans h.idempotencyRecords⟩

instance : ConcernsTables FailureWrites TableName.butLeaseRows where
  of_tables w w' htables hclock hids hdraws :=
    ⟨ConcernsTables.of_tables w w' htables hclock hids hdraws,
      htables _ (by decide), htables _ (by decide)⟩

/-- A replay that leaves the Outbox and the records alone. -/
theorem FailureWrites.of_replay {α : Type} {m : K α} [hm : Within ReplayWrites m]
    [hsame : Within (SameTables [.outboxEvents, .idempotencyRecords]) m] :
    Within FailureWrites m where
  step w :=
    ⟨hm.step w, (hsame.step w).tables _ (by decide), (hsame.step w).tables _ (by decide)⟩

section Findings

set_option synthInstance.maxSize 400000

variable (kernel : KernelContext)

instance (lease : WorktreeWriterLease) (actorPrincipalId correlationId : String)
    (observedAt : Timestamp) :
    Within FailureWrites (expireLease kernel lease actorPrincipalId correlationId observedAt) :=
  FailureWrites.of_replay

instance (lease : Option WorktreeWriterLease) (actorPrincipalId correlationId : String)
    (observedAt : Timestamp) :
    Within FailureWrites
      (expireIfNeeded kernel lease actorPrincipalId correlationId observedAt) := by
  unfold expireIfNeeded
  infer_instance

instance (command : WorktreeLeaseAuthority) (principal : Principal) (observedAt : Timestamp)
    (correlationId : String) :
    Within FailureWrites
      (requireLiveAuthority kernel command principal observedAt correlationId) :=
  FailureWrites.of_replay

instance (activationId : String) (requireStopped allowCommittedDecision : Bool) :
    Within FailureWrites (assertActivationWriterAuthority kernel activationId requireStopped
      allowCommittedDecision) :=
  FailureWrites.of_replay

instance (command : KernelCommand) (principal : Principal) (context : PrincipalContext) :
    Within FailureWrites (assertWriterCommandAuthority kernel command principal context) :=
  FailureWrites.of_replay

instance (authority : WorktreeMutationAuthority) (principal : Principal) :
    Within FailureWrites (assertWorktreeMutation kernel authority principal) :=
  FailureWrites.of_replay

instance (lease : WorktreeWriterLease) (principal : Principal) (observedAt : Timestamp)
    (message : String) :
    Within FailureWrites (expireCachedLease kernel lease principal observedAt message) :=
  FailureWrites.of_replay

end Findings

/-! ## Commands -/

section Commands

set_option synthInstance.maxSize 400000

variable (kernel : KernelContext)

instance (command : RegisterPhysicalWorktreeCommand) (principal : Principal) :
    Fails FailureWrites (registerPhysicalWorktree kernel command principal) := by
  unfold registerPhysicalWorktree
  infer_instance

instance (command : StartWorktreeExecutionCommand) (principal : Principal)
    (correlationId : String) :
    Fails FailureWrites (startWorktreeExecution kernel command principal correlationId) := by
  unfold startWorktreeExecution
  infer_instance

instance (command : RecordWorktreeExecutionCommand) (principal : Principal) :
    Fails FailureWrites (recordWorktreeExecution kernel command principal) := by
  unfold recordWorktreeExecution
  infer_instance

instance (command : RevokeWorktreeExecutionAuthorityCommand) (principal : Principal) :
    Fails FailureWrites (revokeWorktreeExecutionAuthority kernel command principal) := by
  unfold revokeWorktreeExecutionAuthority
  infer_instance

instance (command : RecoverWorktreeExecutionCommand) (principal : Principal) :
    Fails FailureWrites (recoverWorktreeExecution kernel command principal) := by
  unfold recoverWorktreeExecution
  infer_instance

instance (command : AcquireWorktreeWriterLeaseCommand) (principal : Principal)
    (correlationId : String) :
    Fails FailureWrites (acquireWorktreeWriterLease kernel command principal correlationId) := by
  unfold acquireWorktreeWriterLease
  infer_instance

instance (command : RenewWorktreeWriterLeaseCommand) (principal : Principal)
    (correlationId : String) :
    Fails FailureWrites (renewWorktreeWriterLease kernel command principal correlationId) := by
  unfold renewWorktreeWriterLease
  infer_instance

instance (command : ReleaseWorktreeWriterLeaseCommand) (principal : Principal)
    (correlationId : String) :
    Fails FailureWrites (releaseWorktreeWriterLease kernel command principal correlationId) := by
  unfold releaseWorktreeWriterLease
  infer_instance

instance (command : QuarantineWorktreeWriterLeaseCommand) (principal : Principal)
    (correlationId : String) :
    Fails FailureWrites
      (quarantineWorktreeWriterLease kernel command principal correlationId) := by
  unfold quarantineWorktreeWriterLease
  infer_instance

instance (command : ResolveWorktreeWriterLeaseQuarantineCommand) (principal : Principal)
    (correlationId : String) :
    Fails FailureWrites
      (resolveWorktreeWriterLeaseQuarantine kernel command principal correlationId) := by
  unfold resolveWorktreeWriterLeaseQuarantine
  infer_instance

instance (command : KernelCommand) (context : PrincipalContext) (principal : Principal)
    (correlationId : String) :
    Fails FailureWrites (dispatchCommand kernel command context principal correlationId) := by
  unfold dispatchCommand
  cases command <;> infer_instance

instance (command : KernelCommand) (result : CommandResult) (principal : Principal)
    (context : PrincipalContext) :
    Fails FailureWrites (resolveCachedResult kernel command result principal context) := by
  unfold resolveCachedResult
  cases command with
  | StartWorktreeExecution => unfold resolveCachedWorktreeExecution; infer_instance
  | AcquireWorktreeWriterLease =>
      unfold resolveCachedWorktreeWriterLeaseAuthority
      infer_instance
  | RenewWorktreeWriterLease =>
      unfold resolveCachedWorktreeWriterLeaseAuthority
      infer_instance
  | QuarantineWorktreeWriterLease =>
      unfold resolveCachedWorktreeWriterLeaseQuarantine
      infer_instance
  | _ => infer_instance

instance (command : KernelCommand) (principal : Principal) (context : PrincipalContext)
    (cached : IdempotencyRecord) :
    Fails FailureWrites (replayCommand kernel command principal context cached) := by
  unfold replayCommand
  cases command <;> infer_instance

instance (command : KernelCommand) (principal : Principal) (context : PrincipalContext)
    (operationContext : Option KernelOperationContext) :
    Fails FailureWrites
      (performCommand kernel command principal context operationContext) := by
  unfold performCommand
  infer_instance

instance (command : KernelCommand) (principal : Principal) (context : PrincipalContext)
    (operationContext : Option KernelOperationContext) :
    Fails FailureWrites (commandBody kernel command principal context operationContext) := by
  unfold commandBody
  infer_instance

end Commands

/-! ## Leases -/

/-- What the expiries in `events` make of the lease of a Worktree. -/
inductive Expiry (events : List WorktreeWriterLeaseEvent) (worktreeId : String) :
    Option WorktreeWriterLease → Option WorktreeWriterLease → Prop where
  | kept (o : Option WorktreeWriterLease) (hnone : ∀ e ∈ events, e.worktreeId ≠ worktreeId) :
      Expiry events worktreeId o o
  | expired {r : WorktreeWriterLease} {event : WorktreeWriterLeaseEvent}
      (observedAt : Timestamp) (hactive : r.expired observedAt = true)
      (hone : events.filter (fun e => e.worktreeId = worktreeId) = [event])
      (hevent : event.Records .WorktreeWriterLeaseExpired (r.expire observedAt)) :
      Expiry events worktreeId (some r) (some (r.expire observedAt))

section Expiries

variable {events before after : List WorktreeWriterLeaseEvent} {worktreeId : String}
  {o o' o'' : Option WorktreeWriterLease}

theorem filter_of_none (h : ∀ e ∈ events, e.worktreeId ≠ worktreeId) :
    events.filter (fun e => e.worktreeId = worktreeId) = [] := by
  apply List.filter_eq_nil_iff.mpr
  intro e he
  simp [h e he]

theorem Expiry.trans (h : Expiry before worktreeId o o') (h' : Expiry after worktreeId o' o'') :
    Expiry (before ++ after) worktreeId o o'' := by
  cases h with
  | kept o hnone =>
      cases h' with
      | kept o hnone' =>
          apply Expiry.kept
          intro e he
          exact (List.mem_append.mp he).elim (hnone e) (hnone' e)
      | expired observedAt hactive hone hevent =>
          apply Expiry.expired observedAt hactive ?_ hevent
          rw [List.filter_append, filter_of_none hnone, hone, List.nil_append]
  | expired observedAt hactive hone hevent =>
      cases h' with
      | kept o hnone' =>
          apply Expiry.expired observedAt hactive ?_ hevent
          rw [List.filter_append, filter_of_none hnone', hone, List.append_nil]
      | expired _ hagain =>
          simp [WorktreeWriterLease.expired, WorktreeWriterLease.expire] at hagain

end Expiries

namespace WorktreeBook

variable {b b' : WorktreeBook}

/-- A step that records nothing but expiries leaves every lease, or expires it once. -/
theorem Step.expiry (h : Step b b') :
    ∃ events, b'.ledger = b.ledger ++ events ∧
      ((∀ e ∈ events, e.type = .WorktreeWriterLeaseExpired) →
        ∀ worktreeId, Expiry events worktreeId (b.lease worktreeId) (b'.lease worktreeId)) := by
  cases h with
  | @lease type lease event hmove hevent hlast =>
      refine ⟨[event], rfl, fun hexpired worktreeId => ?_⟩
      have htype : type = .WorktreeWriterLeaseExpired :=
        hevent.type_eq.symm.trans (hexpired event (List.mem_singleton_self event))
      cases hmove with
      | @expire r observedAt hr hover =>
          by_cases hid : worktreeId = r.worktreeId
          · subst hid
            show Expiry _ _ _ ((b.setLease (r.expire observedAt)).lease r.worktreeId)
            rw [hr, show (b.setLease (r.expire observedAt)).lease r.worktreeId =
              some (r.expire observedAt) from setLease_lease_self b (r.expire observedAt)]
            have hone : event.worktreeId = r.worktreeId := hevent.worktreeId_eq
            exact .expired observedAt hover (by simp [hone]) hevent
          · show Expiry _ _ _ ((b.setLease (r.expire observedAt)).lease worktreeId)
            rw [show (b.setLease (r.expire observedAt)).lease worktreeId = b.lease worktreeId from
              Function.update_of_ne hid _ _]
            apply Expiry.kept
            intro e he
            rw [List.mem_singleton.mp he, hevent.worktreeId_eq]
            exact fun heq => hid heq.symm
      | _ => cases htype
  | _ => exact ⟨[], (List.append_nil _).symm, fun _ _ => .kept _ fun _ he => nomatch he⟩

theorem expiry_of_ledger (h : Relation.ReflTransGen Step b b') :
    ∃ events, b'.ledger = b.ledger ++ events ∧
      ((∀ e ∈ events, e.type = .WorktreeWriterLeaseExpired) →
        ∀ worktreeId, Expiry events worktreeId (b.lease worktreeId) (b'.lease worktreeId)) := by
  induction h with
  | refl => exact ⟨[], (List.append_nil _).symm, fun _ _ => .kept _ fun _ he => nomatch he⟩
  | tail hrun hstep ih =>
      obtain ⟨before, hbefore, hrunLeases⟩ := ih
      obtain ⟨after, hafter, hstepLeases⟩ := hstep.expiry
      refine ⟨before ++ after, ?_, fun hexpired worktreeId => ?_⟩
      · rw [hafter, hbefore, List.append_assoc]
      · have hfirst := hrunLeases fun e he => hexpired e (List.mem_append_left _ he)
        have hsecond := hstepLeases fun e he => hexpired e (List.mem_append_right _ he)
        exact (hfirst worktreeId).trans (hsecond worktreeId)

end WorktreeBook

/-! ## Calls -/

/-- The tables a failed command may change. -/
abbrev TableName.ofFindings : List TableName :=
  [.worktreeWriterLeases, .worktreeWriterLeaseEvents, .worktreeExecutions]

/-- All that a command which fails durably does to the database: leases that were Active
have expired, each with one event, and executions have lost their authority. -/
structure Finds (w w' : World) : Prop where
  tables : ∀ t ∉ TableName.ofFindings, w'.db t = w.db t
  leases : ∃ events, (w'.db.table WorktreeWriterLeaseEvent).rows =
      (w.db.table WorktreeWriterLeaseEvent).rows ++ events ∧
    ∀ worktreeId, Expiry events worktreeId
      ((worktreeBook w.db).lease worktreeId) ((worktreeBook w'.db).lease worktreeId)
  executions : ∃ f, (w'.db.table WorktreeExecution).rows =
      (w.db.table WorktreeExecution).rows.map f ∧ ∀ r : WorktreeExecution, r.Revoked (f r)

theorem TableName.mem_of_not_found (t : TableName) (h : t ∉ TableName.ofFindings) :
    t ∈ TableName.besidesReplays ∨ t = .outboxEvents ∨ t = .idempotencyRecords := by
  cases t <;> first | exact absurd (by decide) h | decide

theorem FailureWrites.tables_eq {w w' : World} (h : FailureWrites w w') (t : TableName)
    (ht : t ∉ TableName.ofFindings) : w'.db t = w.db t := by
  obtain hmem | rfl | rfl := TableName.mem_of_not_found t ht
  · exact h.tables t hmem
  · exact h.outboxEvents
  · exact h.idempotencyRecords

theorem translateError_isDurable {e : Failure} (h : e.isDurable = false) :
    (translateError e).isDurable = false := by
  cases e <;> first | rfl | exact h

section Calls

variable (kernel : KernelContext)

/-- Of a transaction that fails, an ordinary error is rolled back. -/
theorem executeTransaction_failed (command : KernelCommand) (context : PrincipalContext)
    (operationContext : Option KernelOperationContext) {w w' : World} {e : Failure}
    (h : executeTransaction kernel command context operationContext w = (.error e, w')) :
    if e.isDurable then FailureWrites w w' else w'.db = w.db := by
  obtain ⟨e', hrun⟩ | ⟨principal, -, hrun⟩ :=
    executeTransaction_cases kernel command context operationContext w
  · rw [hrun] at h
    cases h
    split
    · exact refl_of FailureWrites w
    · rfl
  · rw [hrun] at h
    obtain ⟨a, w₁, -, ht⟩ | ⟨e', w₁, hbody, hdurable, ht⟩ | ⟨e', w₁, hbody, hplain, ht⟩ :=
      transaction_cases (commandBody kernel command principal
        (effectiveContext principal context) operationContext) w
    · rw [ht] at h
      cases h
    · rw [ht] at h
      cases h
      rw [if_pos hdurable]
      exact Fails.failed w e w' hbody hdurable
    · rw [ht] at h
      cases h
      rw [translateError_isDurable hplain]
      rfl

theorem execute_failed (command : KernelCommand) (context : PrincipalContext)
    (operationContext : Option KernelOperationContext) {w w' : World} {e : Failure}
    (h : execute kernel command context operationContext w = (.error e, w')) :
    if e.isDurable then FailureWrites w w' else w'.db = w.db := by
  unfold execute at h
  obtain hguard | ⟨u, w₁, hguard, hrest⟩ := bind_eq_error.mp h
  · unfold throwIf at hguard
    split at hguard
    · cases hguard
      rfl
    · cases hguard
  · obtain ⟨-, rfl⟩ := throwIf_eq_ok.mp hguard
    obtain hrun | ⟨result, w₂, -, hafter⟩ := bind_eq_error.mp hrest
    · exact executeTransaction_failed kernel command context operationContext hrun
    · obtain hremember | ⟨u, w₃, -, hreturn⟩ := bind_eq_error.mp hafter
      · unfold rememberExecution at hremember
        split at hremember
        · split at hremember <;> cases hremember
        · cases hremember
      · cases hreturn

theorem step_failed {call : KernelCall} {w : World} {e : Failure}
    (h : answer kernel call w = some (.error e)) :
    if e.isDurable then FailureWrites w (step kernel call w)
    else (step kernel call w).db = w.db := by
  cases call with
  | execute command context operationContext =>
      have hrun : execute kernel command context operationContext w =
          (.error e, (execute kernel command context operationContext w).2) :=
        Prod.ext (Option.some.inj h) rfl
      exact execute_failed kernel command context operationContext hrun
  | publishReport input content context operationContext =>
      have hrun : executeTransaction kernel (input.command content) context operationContext w =
          (.error e, (executeTransaction kernel (input.command content) context
            operationContext w).2) :=
        Prod.ext (Option.some.inj h) rfl
      exact executeTransaction_failed kernel (input.command content) context operationContext hrun
  | _ => cases h

theorem FailureWrites.finds {call : KernelCall} {w : World}
    (h : FailureWrites w (step kernel call w)) : Finds w (step kernel call w) := by
  obtain ⟨events, hevents, hleases⟩ :=
    WorktreeBook.expiry_of_ledger (step_worktrees kernel call w)
  obtain ⟨expiries, hexpiries, hexpired⟩ := h.ledger
  have hsame : events = expiries := List.append_cancel_left (hevents.symm.trans hexpiries)
  exact ⟨h.tables_eq, ⟨events, hevents, hleases (hsame ▸ hexpired)⟩, h.executions⟩

/-- What a call that executes a command and fails does to the database. -/
structure FailsAtomically (call : KernelCall) (w : World) : Prop where
  ordinary : ∀ e, answer kernel call w = some (.error e) → e.isDurable = false →
    (step kernel call w).db = w.db
  durable : ∀ e, answer kernel call w = some (.error e) → e.isDurable = true →
    Finds w (step kernel call w)

/-- In every state, a command that fails changes nothing, or only records what it found
out. -/
theorem failure_atomic (call : KernelCall) (w : World) : FailsAtomically kernel call w := by
  constructor
  · intro e hanswer hplain
    have hfailed := step_failed kernel hanswer
    rwa [hplain] at hfailed
  · intro e hanswer hdurable
    have hfailed := step_failed kernel hanswer
    rw [hdurable] at hfailed
    exact FailureWrites.finds kernel hfailed

end Calls

end Torsor.Kernel
