import Torsor.Kernel.AttentionOrder
import Torsor.Kernel.ReplayResults
import Torsor.Kernel.RunLaws

/-! # The status of Agents

The status of an Agent is counted by SQL predicates over joined rows, while every capability is
checked against one Activation and the scope it loads. In a reachable state both say the same.
-/

namespace Torsor.Kernel

open Torsor.Library Tx

/-! ## The query -/

def liveRunActivationPredicate (activation : ActivationAttempt) (run : Run)
    (at' : Timestamp) : Bool :=
  activation.cause = .Run && activation.finishedAt.isNone && activation.revokedAt.isNone &&
    at' < activation.expiresAt && run.state = .Active &&
    sqlEq activation.runActivationGeneration (some run.activationGeneration) &&
    activation.agentId = run.ownerAgentId

def liveAttentionActivationPredicate (activation : ActivationAttempt) (attention : Attention)
    (domain : AttentionDomainFence) (at' : Timestamp) : Bool :=
  activation.cause = .Attention && activation.finishedAt.isNone && activation.revokedAt.isNone &&
    at' < activation.expiresAt && attention.status = .Open &&
    sqlEq attention.handlerLeaseToken activation.attentionLeaseToken &&
    attention.handlerLeaseExpiresAt.any (at' < ·) &&
    activation.agentId = attention.targetAgentId &&
    attentionDomainOwnership attention domain &&
    sqlEq domain.leaseToken attention.handlerLeaseToken &&
    sqlEq domain.leaseExpiresAt attention.handlerLeaseExpiresAt

inductive ProjectAgentDerivedStatus where
  | active | waiting | idle
  deriving DecidableEq

structure ProjectAgentStatusView where
  agentId : String
  liveRunActivationCount : Nat
  liveAttentionActivationCount : Nat
  liveActivationCount : Nat
  nonterminalRunCount : Nat
  status : ProjectAgentDerivedStatus
  deriving DecidableEq

structure ProjectAgentStatusProjection where
  projectId : String
  agents : List ProjectAgentStatusView
  deriving DecidableEq

/-- The clause that is left out where no Agent is asked for. -/
def ofAgent (agentId : Option String) (id : String) : Bool := !truthy agentId || agentId = some id

/-- The Agents of the live Activations, joined with their Runs. -/
def liveRunAgents (db : Database) (projectId : String) (agentId : Option String)
    (at' : Timestamp) : List String :=
  (db.table ActivationAttempt).rows.flatMap fun activation =>
    ((db.table Run).filter fun run =>
      activation.runId = some run.id && liveRunActivationPredicate activation run at' &&
        run.projectId = projectId && ofAgent agentId activation.agentId).map
      fun _ => activation.agentId

/-- The Agents of the live Activations, joined with their Attentions and the fences of these. -/
def liveAttentionAgents (db : Database) (projectId : String) (agentId : Option String)
    (at' : Timestamp) : List String :=
  (db.table ActivationAttempt).rows.flatMap fun activation =>
    ((db.table Attention).filter fun attention =>
      activation.attentionId = some attention.id).flatMap fun attention =>
        ((db.table AttentionDomainFence).filter fun domain =>
          domain.attentionId = attention.id &&
            liveAttentionActivationPredicate activation attention domain at' &&
            attention.projectId = projectId && ofAgent agentId activation.agentId).map
          fun _ => activation.agentId

def projectAgentStatusView (liveRuns liveAttentions nonterminalRuns : List String)
    (agent : Agent) : ProjectAgentStatusView :=
  let liveRunActivationCount := liveRuns.count agent.id
  let liveAttentionActivationCount := liveAttentions.count agent.id
  let liveActivationCount := liveRunActivationCount + liveAttentionActivationCount
  let nonterminalRunCount := nonterminalRuns.count agent.id
  { agentId := agent.id
    liveRunActivationCount
    liveAttentionActivationCount
    liveActivationCount
    nonterminalRunCount
    status :=
      if 0 < liveActivationCount then .active
      else if 0 < nonterminalRunCount then .waiting
      else .idle }

def missingProjectAgent (agentId : String) (existing : Option Agent) : Failure :=
  match existing with
  | none => kernelError .NotFound s!"Agent {agentId} does not exist."
  | some _ => kernelError .Forbidden "The Agent does not belong to the Project."

def getProjectAgentStatus (kernel : KernelContext) (projectId : String)
    (agentId : Option String) : K ProjectAgentStatusProjection := do
  let agents ← selectRows fun r : Agent => r.projectId = projectId && ofAgent agentId r.id
  let existing ← selectRow fun r : Agent => agentId = some r.id
  throwIf (truthy agentId ∧ agents = []) (missingProjectAgent (agentId.getD "") existing)
  let nonterminal ← selectRows fun r : Run =>
    r.projectId = projectId && (r.state = .Active || r.state = .Waiting) &&
      ofAgent agentId r.ownerAgentId
  let at' ← kernel.readClock
  let liveRuns ← gets fun w => liveRunAgents w.db projectId agentId at'
  let liveAttentions ← gets fun w => liveAttentionAgents w.db projectId agentId at'
  pure
    { projectId
      agents := (orderByPair (fun r => (r.name, r.id)) agents).map
        (projectAgentStatusView liveRuns liveAttentions (nonterminal.map (·.ownerAgentId))) }

def queryProjectAgentStatus (kernel : KernelContext) (projectId : String)
    (agentId : Option String) (context : PrincipalContext) : K ProjectAgentStatusProjection :=
  queryTransaction do
    let principal ← requirePrincipal context.principalId
    let _ ← requireProject projectId
    assertProjectAccess principal projectId
    getProjectAgentStatus kernel projectId agentId

/-! ## What the rows of a reachable state have in common -/

/-- The cause shows what the Activation is of. -/
def ActivationAttempt.Scoped (r : ActivationAttempt) : Prop :=
  r.cause = .Run ↔ truthy r.runId = true

/-- The two halves of a handler lease come together. -/
def Attention.Leased (r : Attention) : Prop :=
  r.handlerLeaseToken.isSome = r.handlerLeaseExpiresAt.isSome

/-- Rows are sound, or have what they had before. -/
structure KeepsScopes (w w' : World) : Prop where
  activations : ∀ r' ∈ w'.db.table ActivationAttempt, r'.Scoped ∨
    ∃ r ∈ w.db.table ActivationAttempt, r'.cause = r.cause ∧ r'.runId = r.runId
  attentions : ∀ r' ∈ w'.db.table Attention, r'.Leased ∨
    ∃ r ∈ w.db.table Attention, r'.handlerLeaseToken = r.handlerLeaseToken ∧
      r'.handlerLeaseExpiresAt = r.handlerLeaseExpiresAt

theorem KeepsScopes.of_same {w w' : World}
    (hactivations : w'.db.table ActivationAttempt = w.db.table ActivationAttempt)
    (hattentions : w'.db.table Attention = w.db.table Attention) : KeepsScopes w w' where
  activations r hr := .inr ⟨r, hactivations ▸ hr, rfl, rfl⟩
  attentions r hr := .inr ⟨r, hattentions ▸ hr, rfl, rfl⟩

theorem KeepsScopes.trans {w w' w'' : World} (h : KeepsScopes w w') (h' : KeepsScopes w' w'') :
    KeepsScopes w w'' where
  activations r'' hr'' := by
    obtain hsound | ⟨r', hr', hcause', hrun'⟩ := h'.activations r'' hr''
    · exact .inl hsound
    · obtain hsound | ⟨r, hr, hcause, hrun⟩ := h.activations r' hr'
      · left
        unfold ActivationAttempt.Scoped
        rw [hcause', hrun']
        exact hsound
      · exact .inr ⟨r, hr, hcause'.trans hcause, hrun'.trans hrun⟩
  attentions r'' hr'' := by
    obtain hsound | ⟨r', hr', htoken', hexpires'⟩ := h'.attentions r'' hr''
    · exact .inl hsound
    · obtain hsound | ⟨r, hr, htoken, hexpires⟩ := h.attentions r' hr'
      · left
        unfold Attention.Leased
        rw [htoken', hexpires']
        exact hsound
      · exact .inr ⟨r, hr, htoken'.trans htoken, hexpires'.trans hexpires⟩

instance : IsPreorder World KeepsScopes where
  refl _ := .of_same rfl rfl
  trans _ _ _ := KeepsScopes.trans

instance : ConcernsTables KeepsScopes [.activationAttempts, .attentions] where
  of_tables w w' htables _ _ _ :=
    .of_same (by simp only [Database.table, htables .activationAttempts (by decide)])
      (by simp only [Database.table, htables .attentions (by decide)])

/-! ## Statements -/

section Statements

set_option synthInstance.maxSize 400000

theorem keepsScopes_updateActivations {p : ActivationAttempt → Bool}
    {f : ActivationAttempt → ActivationAttempt} {h : KeepsKeys f}
    (hf : ∀ r, (f r).cause = r.cause ∧ (f r).runId = r.runId) :
    Within KeepsScopes (updateRows p f h) := by
  apply Within.updateRows
  intro w
  have hattentions : (w.store ((w.db.table ActivationAttempt).update p f h)).db.table Attention =
      w.db.table Attention := by
    simp [World.store, Database.table_set_apart]
  refine ⟨?_, fun r hr => .inr ⟨r, hattentions ▸ hr, rfl, rfl⟩⟩
  intro r' hr'
  rw [World.store_db, Database.table_set_same] at hr'
  obtain ⟨r, hr, rfl⟩ := Table.mem_update.mp hr'
  refine .inr ⟨r, hr, ?_⟩
  split
  · exact hf r
  · exact ⟨rfl, rfl⟩

theorem keepsScopes_updateAttentions {p : Attention → Bool} {f : Attention → Attention}
    {h : KeepsKeys f} (hf : ∀ r, (f r).Leased ∨
      (f r).handlerLeaseToken = r.handlerLeaseToken ∧
        (f r).handlerLeaseExpiresAt = r.handlerLeaseExpiresAt) :
    Within KeepsScopes (updateRows p f h) := by
  apply Within.updateRows
  intro w
  have hactivations : (w.store ((w.db.table Attention).update p f h)).db.table ActivationAttempt =
      w.db.table ActivationAttempt := by
    simp [World.store, Database.table_set_apart]
  refine ⟨fun r hr => .inr ⟨r, hactivations ▸ hr, rfl, rfl⟩, ?_⟩
  intro r' hr'
  rw [World.store_db, Database.table_set_same] at hr'
  obtain ⟨r, hr, rfl⟩ := Table.mem_update.mp hr'
  split
  · exact (hf r).imp_right fun hsame => ⟨r, hr, hsame⟩
  · exact .inr ⟨r, hr, rfl, rfl⟩

/-- The two rows have one cause and one Run. -/
class SameScope (r r' : ActivationAttempt) : Prop where
  same : r'.cause = r.cause ∧ r'.runId = r.runId

instance (r : ActivationAttempt) (id agentId : String)
    (attentionId attentionLeaseToken : Option String) (runActivationGeneration : Option Nat)
    (configRevision : Nat) (createdEventSequence : Option Nat) (startedAt expiresAt : Timestamp)
    (revokedAt : Option Timestamp) (revocationReason : Option String)
    (finishedAt : Option Timestamp) (outcome : Option ActivationOutcome)
    (detail : Option String) :
    SameScope r
      ⟨id, agentId, r.runId, attentionId, attentionLeaseToken, runActivationGeneration, r.cause,
        configRevision, createdEventSequence, startedAt, expiresAt, revokedAt,
        revocationReason, finishedAt, outcome, detail⟩ := ⟨rfl, rfl⟩

instance (revokedAt : Timestamp) (reason : String) (r : ActivationAttempt) :
    SameScope r (ActivationAttempt.revoke revokedAt reason r) := ⟨rfl, rfl⟩

instance (now : Timestamp) (reason : String) (r : ActivationAttempt) :
    SameScope r (ActivationAttempt.finishDecision now reason r) := ⟨rfl, rfl⟩

instance (p : ActivationAttempt → Bool) (f : ActivationAttempt → ActivationAttempt)
    (h : KeepsKeys f) [hf : ∀ r, SameScope r (f r)] : Within KeepsScopes (updateRows p f h) :=
  keepsScopes_updateActivations fun r => (hf r).same

instance (p : ActivationAttempt → Bool) (f : ActivationAttempt → ActivationAttempt)
    (h : KeepsKeys f) [hf : ∀ r, SameScope r (f r)] :
    Within KeepsScopes (updateActivations p f h) := by
  unfold updateActivations
  infer_instance

theorem keepsScopes_updateAttention {id : String} {f : Attention → Attention} {h : KeepsKeys f}
    (hf : ∀ r, (f r).Leased ∨ (f r).handlerLeaseToken = r.handlerLeaseToken ∧
      (f r).handlerLeaseExpiresAt = r.handlerLeaseExpiresAt) :
    Within KeepsScopes (updateAttention id f h) := by
  have hupdate : Within KeepsScopes (updateRows (fun r : Attention => r.id = id) f h) :=
    keepsScopes_updateAttentions hf
  unfold updateAttention
  infer_instance

/-- A new Attention has no handler lease. -/
instance (sequence : Nat) (id projectId channelId threadRootId messageRevisionId targetAgentId
    triggerKind : String) (status : AttentionStatus) (revision : Nat)
    (handlerLeaseHolderPrincipalId : Option String)
    (resolutionOutcome : Option AttentionResolutionOutcome)
    (resolvedByPrincipalId resolvedActivationId resolvedRunId : Option String)
    (createdEventSequence : Option Nat) (createdAt : Timestamp) (resolvedAt : Option Timestamp) :
    Within KeepsScopes (insertRow (⟨sequence, id, projectId, channelId, threadRootId,
      messageRevisionId, targetAgentId, triggerKind, status, revision,
      handlerLeaseHolderPrincipalId, none, none, resolutionOutcome, resolvedByPrincipalId,
      resolvedActivationId, resolvedRunId, createdEventSequence, createdAt, resolvedAt⟩ :
      Attention)) where
  step w := by
    obtain ⟨u, hu, hrun⟩ | hrun := insertRow_cases (_ : Attention) w
    · rw [hrun]
      have hactivations : (w.store u).db.table ActivationAttempt =
          w.db.table ActivationAttempt := by
        simp [World.store, Database.table_set_apart]
      refine ⟨fun r hr => .inr ⟨r, hactivations ▸ hr, rfl, rfl⟩, ?_⟩
      intro r hr
      rw [World.store_db, Database.table_set_same] at hr
      cases (Table.mem_insert? hu).mp hr with
      | inl hold => exact .inr ⟨r, hold, rfl, rfl⟩
      | inr hnew =>
          subst hnew
          exact .inl rfl
    · rw [hrun]
      exact refl_of KeepsScopes w

/-- The cause of a new Activation is that of what it is started for. -/
instance (id agentId : String) (runId attentionId attentionLeaseToken : Option String)
    (runActivationGeneration : Option Nat) (configRevision : Nat)
    (createdEventSequence : Option Nat) (startedAt expiresAt : Timestamp)
    (revokedAt : Option Timestamp) (revocationReason : Option String)
    (finishedAt : Option Timestamp) (outcome : Option ActivationOutcome)
    (detail : Option String) :
    Within KeepsScopes (insertRow (⟨id, agentId, runId, attentionId, attentionLeaseToken,
      runActivationGeneration, if truthy runId = true then .Run else .Attention, configRevision,
      createdEventSequence, startedAt, expiresAt, revokedAt, revocationReason, finishedAt,
      outcome, detail⟩ : ActivationAttempt)) where
  step w := by
    obtain ⟨u, hu, hrun⟩ | hrun := insertRow_cases (_ : ActivationAttempt) w
    · rw [hrun]
      have hattentions : (w.store u).db.table Attention = w.db.table Attention := by
        simp [World.store, Database.table_set_apart]
      refine ⟨?_, fun r hr => .inr ⟨r, hattentions ▸ hr, rfl, rfl⟩⟩
      intro r hr
      rw [World.store_db, Database.table_set_same] at hr
      cases (Table.mem_insert? hu).mp hr with
      | inl hold => exact .inr ⟨r, hold, rfl, rfl⟩
      | inr hnew =>
          subst hnew
          left
          unfold ActivationAttempt.Scoped
          cases truthy runId <;> simp
    · rw [hrun]
      exact refl_of KeepsScopes w

end Statements

/-! ## Commands -/

section Commands

set_option synthInstance.maxSize 400000

variable (kernel : KernelContext)

instance (runId reason : String) (revokedAt : Timestamp) :
    Within KeepsScopes (revokeRunActivations runId reason revokedAt) := by
  unfold revokeRunActivations
  infer_instance

instance (site : MentionSite) (targetAgentId : String) :
    Within KeepsScopes (openAttention kernel site targetAgentId) := by
  have hcreated : ∀ (id : String) (eventSequence : Nat), Within KeepsScopes (updateRows
      (fun r : Attention => r.id = id)
      (fun r => { r with createdEventSequence := some eventSequence }) ⟨fun _ => rfl⟩) :=
    fun _ _ => keepsScopes_updateAttentions fun _ => .inr ⟨rfl, rfl⟩
  unfold openAttention
  infer_instance

instance (input : NewRevision) : Within KeepsScopes (appendMessageRevision kernel input) := by
  unfold appendMessageRevision mentionAgent
  infer_instance

instance (input : NewMessage) : Within KeepsScopes (createMessage kernel input) := by
  unfold createMessage mentionAgent
  infer_instance

instance (existing : AttentionDomainFence) (at' : Timestamp) :
    Within KeepsScopes (supersedeAttention existing at') := by
  have hsupersede : ∀ (id : String) (revision : Nat), Within KeepsScopes (updateAttention id
      (fun r => { r with
        revision
        handlerLeaseHolderPrincipalId := none
        handlerLeaseToken := none
        handlerLeaseExpiresAt := none }) ⟨fun _ => rfl⟩) :=
    fun _ _ => keepsScopes_updateAttention fun _ => .inl rfl
  unfold supersedeAttention
  infer_instance

instance (command : ClaimAttentionCommand) (principal : Principal) (correlationId : String) :
    Within KeepsScopes (claimAttention kernel command principal correlationId) := by
  have hclaim : ∀ (id : String) (revision : Nat) (leaseToken : String) (expiresAt : Timestamp),
      Within KeepsScopes (updateAttention id
        (Attention.claim revision principal.id leaseToken expiresAt) ⟨fun _ => rfl⟩) :=
    fun _ _ _ _ => keepsScopes_updateAttention fun _ => .inl rfl
  unfold claimAttention claimAttentionDomain takeOverAttentionDomain
  infer_instance

instance (attentionId : String) (outcome : AttentionOutcome) :
    Within KeepsScopes (decideAttention attentionId outcome) := by
  have hdecide : Within KeepsScopes
      (updateAttention attentionId (Attention.decide outcome) ⟨fun _ => rfl⟩) :=
    keepsScopes_updateAttention fun _ => .inl rfl
  unfold decideAttention
  infer_instance

instance (activationId : String) (now : Timestamp) (reason : String) :
    Within KeepsScopes (finishAttentionActivation activationId now reason) := by
  unfold finishAttentionActivation
  infer_instance

instance (run : Run) (termination : Termination) (reason : String) (principal : Principal)
    (activationId : Option String) (correlationId : String) (commandType : CommandType) :
    Within KeepsScopes (terminateRun kernel run termination reason principal activationId
      correlationId commandType) := by
  unfold terminateRun
  infer_instance

instance (run : Run) (runId : String) (generation : Nat) (now : Timestamp) (principal : Principal)
    (correlationId : String) :
    Within KeepsScopes (activateRun kernel run runId generation now principal correlationId) := by
  unfold activateRun
  infer_instance

instance (new : NewActivation) (principal : Principal) (correlationId : String) :
    Within KeepsScopes (createActivation kernel new principal correlationId) := by
  unfold createActivation insertActivation
  infer_instance

instance (correlationId : String) (eventSequence : Nat) :
    Within KeepsScopes (markImmutableComponents correlationId eventSequence) := by
  unfold markImmutableComponents
  infer_instance

instance (correlationId : String) :
    Within KeepsScopes (recordProjectionVersions correlationId) := by
  unfold recordProjectionVersions recordVersionsAt
  infer_instance

instance (command : KernelCommand) (context : PrincipalContext) (principal : Principal)
    (correlationId : String) :
    Within KeepsScopes (dispatchCommand kernel command context principal correlationId) := by
  unfold dispatchCommand
  cases command with
  | StartThread => unfold startThread; infer_instance
  | ReplyToThread => unfold replyToThread; infer_instance
  | EditMessage => unfold editMessage; infer_instance
  | DeleteMessage => unfold deleteMessage; infer_instance
  | SendToRun => unfold sendToRun; infer_instance
  | PublishRunReply => unfold publishRunReply; infer_instance
  | CompleteRun => unfold completeRun publishFinalReply; infer_instance
  | WaitRun => unfold waitRun; infer_instance
  | CancelRun => unfold cancelRun; infer_instance
  | FailRun => unfold failRun; infer_instance
  | StartActivation =>
      unfold startActivation startRunActivation startAttentionActivation
      infer_instance
  | FinishActivation => unfold finishActivation; infer_instance
  | ResolveAttentionWithRun => unfold resolveAttentionWithRun; infer_instance
  | IgnoreAttention => unfold ignoreAttention; infer_instance
  | ResolveAttentionWithExistingRun => unfold resolveAttentionWithExistingRun; infer_instance
  | ParkRunAfterProviderAttemptFailure =>
      unfold parkRunAfterProviderAttemptFailure
      infer_instance
  | _ => infer_instance

instance (command : KernelCommand) (result : CommandResult) (principal : Principal)
    (context : PrincipalContext) :
    Within KeepsScopes (resolveCachedResult kernel command result principal context) := by
  unfold resolveCachedResult
  split <;> infer_instance

theorem step_keepsScopes (call : KernelCall) (w : World) : KeepsScopes w (step kernel call w) :=
  step_within kernel call w fun _ _ _ _ => inferInstance

end Commands

/-- Every Activation shows its cause, and every handler lease has both halves. -/
structure ScopesSound (w : World) : Prop where
  activations : ∀ r ∈ w.db.table ActivationAttempt, r.Scoped
  attentions : ∀ r ∈ w.db.table Attention, r.Leased

theorem ScopesSound.after {w w' : World} (h : ScopesSound w) (hmove : KeepsScopes w w') :
    ScopesSound w' where
  activations r' hr' := by
    obtain hsound | ⟨r, hr, hcause, hrun⟩ := hmove.activations r' hr'
    · exact hsound
    · unfold ActivationAttempt.Scoped
      rw [hcause, hrun]
      exact h.activations r hr
  attentions r' hr' := by
    obtain hsound | ⟨r, hr, htoken, hexpires⟩ := hmove.attentions r' hr'
    · exact hsound
    · unfold Attention.Leased
      rw [htoken, hexpires]
      exact h.attentions r hr

theorem scopesSound_opened {kernel : KernelContext} {w : World} (h : Opened kernel w) :
    ScopesSound w := by
  have hframe : Frame [.activationAttempts, .attentions] World.blank w := h.frame
  constructor
  · intro r hr
    rw [hframe.table_eq ActivationAttempt (by decide)] at hr
    exact absurd hr (Table.not_mem_empty r)
  · intro r hr
    rw [hframe.table_eq Attention (by decide)] at hr
    exact absurd hr (Table.not_mem_empty r)

theorem Reachable.scopesSound {kernel : KernelContext} {w : World} (h : Reachable kernel w) :
    ScopesSound w :=
  h.invariant (fun _ => scopesSound_opened) fun w call hsound =>
    hsound.after (step_keepsScopes kernel call w)

/-! ## The two checks -/

def ActivationScopeState.projectId : ActivationScopeState → String
  | .Run run => run.projectId
  | .Attention attention _ => attention.projectId

def ActivationScopeState.isRun : ActivationScopeState → Bool
  | .Run _ => true
  | .Attention _ _ => false

/-- The scope an Activation loads is one of the Project, and the Activation may act on it. -/
def actsIn (w : World) (projectId : String) (at' : Timestamp) (ofRun : Bool)
    (activation : ActivationAttempt) : Bool :=
  match (loadActivationScopeState activation w).1 with
  | .ok scope =>
      scope.isRun = ofRun && scope.projectId = projectId &&
        (activationValidityAt activation scope at').isNone
  | .error _ => false

/-- The Activations of an Agent that may act in a Project. -/
def actingActivations (w : World) (projectId agentId : String) (at' : Timestamp) (ofRun : Bool) :
    List ActivationAttempt :=
  (w.db.table ActivationAttempt).filter fun r =>
    r.agentId = agentId && actsIn w projectId at' ofRun r

section Checks

variable {activation : ActivationAttempt} {at' : Timestamp}

theorem ite_some_eq_none {α : Type} {c : Prop} [Decidable c] {x : α} {o : Option α} :
    (if c then some x else o) = none ↔ ¬ c ∧ o = none := by
  split <;> simp_all

/-- An Activation that nothing ended is live as its scope is current. -/
theorem activationValidityAt_eq_none {scope : ActivationScopeState} :
    activationValidityAt activation scope at' = none ↔
      activation.finishedAt = none ∧ activation.revokedAt = none ∧
        at' < activation.expiresAt ∧
        match scope with
        | .Run run => runScopeInvalidity activation run = none
        | .Attention attention domainFence =>
            attentionScopeInvalidity activation attention domainFence at' = none := by
  unfold activationValidityAt
  cases scope <;> simp [ite_some_eq_none]

theorem runScopeInvalidity_eq_none {run : Run} :
    runScopeInvalidity activation run = none ↔
      activation.agentId = run.ownerAgentId ∧ run.state = .Active ∧
        activation.runActivationGeneration = some run.activationGeneration := by
  simp only [runScopeInvalidity, ite_some_eq_none, ne_eq, not_not, and_true]

/-- What SQL says of a Run and its Activation is what the check says. -/
theorem liveRunActivationPredicate_iff {run : Run} (hcause : activation.cause = .Run) :
    liveRunActivationPredicate activation run at' = true ↔
      activationValidityAt activation (.Run run) at' = none := by
  rw [activationValidityAt_eq_none]
  simp only [runScopeInvalidity_eq_none, liveRunActivationPredicate, sqlEq, hcause]
  simp
  grind

/-- What SQL says of an Attention, its fence and its Activation is what the check says. -/
theorem liveAttentionActivationPredicate_iff {attention : Attention}
    {domain : AttentionDomainFence} (hcause : activation.cause = .Attention)
    (hleased : attention.Leased) :
    liveAttentionActivationPredicate activation attention domain at' = true ↔
      activationValidityAt activation (.Attention attention (some domain)) at' = none := by
  rw [activationValidityAt_eq_none]
  simp only [attentionScopeInvalidity, ite_some_eq_none, liveAttentionActivationPredicate, sqlEq,
    hcause, attentionDomainOwnership, attentionDomainFenceMatches]
  unfold Attention.Leased at hleased
  cases hexpires : attention.handlerLeaseExpiresAt with
  | none => simp
  | some expiresAt =>
      obtain ⟨token, htoken⟩ : ∃ token, attention.handlerLeaseToken = some token :=
        Option.isSome_iff_exists.mp (by rw [hleased, hexpires]; rfl)
      simp [htoken]
      grind

end Checks

/-! ## Counting -/

section Counting

variable {w : World} {projectId : String} {agentId : Option String} {at' : Timestamp}
  {activation : ActivationAttempt}

/-- Rows that each yield one value, or none, yield it as often as they satisfy `p`. -/
theorem count_flatMap {α β : Type} [BEq β] [LawfulBEq β] {xs : List α} {f : α → List β}
    {p : α → Bool} {b : β} (h : ∀ x ∈ xs, (f x).count b = if p x then 1 else 0) :
    (xs.flatMap f).count b = (xs.filter p).length := by
  induction xs with
  | nil => rfl
  | cons x rest ih =>
      have hrest := ih fun y hy => h y (List.mem_cons_of_mem x hy)
      rw [List.flatMap_cons, List.count_append, hrest, h x List.mem_cons_self, List.filter_cons]
      split
      · rw [List.length_cons, Nat.add_comm]
      · rw [Nat.zero_add]

theorem loadActivationScopeState_run {run : Run} {w' : World} :
    loadActivationScopeState activation w = (.ok (.Run run), w') ↔
      truthy activation.runId = true ∧ run ∈ w.db.table Run ∧ activation.runId = some run.id ∧
        w = w' := by
  unfold loadActivationScopeState
  by_cases htruthy : truthy activation.runId = true
  · rw [if_pos htruthy]
    simp only [bind_eq_ok, requireRun_eq_ok, pure_eq_ok, ActivationScopeState.Run.injEq]
    constructor
    · rintro ⟨_, _, ⟨hfound, rfl⟩, rfl, rfl⟩
      obtain ⟨hmem, hid⟩ := Table.find?_eq_some hfound
      refine ⟨htruthy, hmem, ?_, rfl⟩
      rw [truthy_getD htruthy, of_decide_eq_true hid]
    · rintro ⟨-, hmem, hid, rfl⟩
      refine ⟨run, w, ⟨?_, rfl⟩, rfl, rfl⟩
      rw [hid]
      exact Table.find?_of_mem hmem (by simp) fun x hx =>
        ⟨primaryKey [.text x.id], by simp [Keyed.keys], by simp_all [Keyed.keys]⟩
  · rw [if_neg htruthy]
    simp [bind_eq_ok, htruthy]

theorem loadActivationScopeState_attention {attention : Attention}
    {domain : Option AttentionDomainFence} {w' : World} :
    loadActivationScopeState activation w = (.ok (.Attention attention domain), w') ↔
      truthy activation.runId = false ∧ attention ∈ w.db.table Attention ∧
        activation.attentionId = some attention.id ∧
        (w.db.table AttentionDomainFence).find? (fun r => r.attentionId = attention.id) = domain ∧
        w = w' := by
  unfold loadActivationScopeState
  by_cases htruthy : truthy activation.runId = true
  · rw [if_pos htruthy]
    simp [bind_eq_ok, htruthy]
  · rw [if_neg htruthy]
    simp only [bind_eq_ok, require_eq_ok, requireAttention, requireRow_eq_ok, selectRow_eq_ok,
      pure_eq_ok, ActivationScopeState.Attention.injEq]
    constructor
    · rintro ⟨id, _, ⟨hof, rfl⟩, _, _, ⟨hfound, rfl⟩, _, _, ⟨hdomain, rfl⟩, ⟨rfl, rfl⟩, rfl⟩
      obtain ⟨hmem, hid⟩ := Table.find?_eq_some hfound
      refine ⟨by simpa using htruthy, hmem, ?_, hdomain, rfl⟩
      rw [hof, of_decide_eq_true hid]
    · rintro ⟨-, hmem, hof, hdomain, rfl⟩
      refine ⟨attention.id, w, ⟨hof, rfl⟩, attention, w, ⟨?_, rfl⟩, domain, w, ⟨hdomain, rfl⟩,
        ⟨rfl, rfl⟩, rfl⟩
      exact Table.find?_of_mem hmem (by simp) fun x hx =>
        ⟨⟨1, [.text x.id]⟩, by simp [Keyed.keys], by simp_all [Keyed.keys]⟩

theorem actsIn_run :
    actsIn w projectId at' true activation = true ↔
      ∃ run ∈ w.db.table Run, truthy activation.runId = true ∧ activation.runId = some run.id ∧
        run.projectId = projectId ∧ activationValidityAt activation (.Run run) at' = none := by
  unfold actsIn
  constructor
  · intro h
    cases hload : (loadActivationScopeState activation w).1 with
    | error e => simp [hload] at h
    | ok scope =>
        rw [hload] at h
        cases scope with
        | Attention attention domain => simp [ActivationScopeState.isRun] at h
        | Run run =>
            obtain ⟨htruthy, hmem, hid, -⟩ := loadActivationScopeState_run.mp
              (Prod.ext hload rfl : loadActivationScopeState activation w = (.ok (.Run run), _))
            simp only [Bool.and_eq_true, decide_eq_true_eq, Option.isNone_iff_eq_none] at h
            exact ⟨run, hmem, htruthy, hid, h.1.2, h.2⟩
  · rintro ⟨run, hmem, htruthy, hid, hproject, hvalid⟩
    rw [loadActivationScopeState_run.mpr ⟨htruthy, hmem, hid, rfl⟩]
    simp [ActivationScopeState.isRun, ActivationScopeState.projectId, hproject, hvalid]

theorem actsIn_attention :
    actsIn w projectId at' false activation = true ↔
      ∃ attention ∈ w.db.table Attention, truthy activation.runId = false ∧
        activation.attentionId = some attention.id ∧ attention.projectId = projectId ∧
        activationValidityAt activation (.Attention attention
          ((w.db.table AttentionDomainFence).find? (fun r => r.attentionId = attention.id)))
          at' = none := by
  unfold actsIn
  constructor
  · intro h
    cases hload : (loadActivationScopeState activation w).1 with
    | error e => simp [hload] at h
    | ok scope =>
        rw [hload] at h
        cases scope with
        | Run run => simp [ActivationScopeState.isRun] at h
        | Attention attention domain =>
            obtain ⟨htruthy, hmem, hid, hdomain, -⟩ := loadActivationScopeState_attention.mp
              (Prod.ext hload rfl :
                loadActivationScopeState activation w = (.ok (.Attention attention domain), _))
            simp only [Bool.and_eq_true, decide_eq_true_eq, Option.isNone_iff_eq_none] at h
            exact ⟨attention, hmem, htruthy, hid, h.1.2, hdomain ▸ h.2⟩
  · rintro ⟨attention, hmem, htruthy, hid, hproject, hvalid⟩
    rw [loadActivationScopeState_attention.mpr ⟨htruthy, hmem, hid, rfl, rfl⟩]
    simp [ActivationScopeState.isRun, ActivationScopeState.projectId, hproject, hvalid]

theorem count_map_const {α : Type} {xs : List α} {b c : String} :
    (xs.map fun _ => b).count c = if b = c then xs.length else 0 := by
  rw [List.map_const', List.count_replicate]
  simp

theorem count_liveRunAgents (hsound : ScopesSound w) {id : String}
    (hid : ofAgent agentId id = true) :
    (liveRunAgents w.db projectId agentId at').count id =
      (actingActivations w projectId id at' true).length := by
  apply count_flatMap
  intro activation hactivation
  rw [count_map_const]
  by_cases hagent : activation.agentId = id
  · rw [if_pos hagent]
    by_cases hacts : actsIn w projectId at' true activation = true
    · rw [if_pos (by simp [hagent, hacts])]
      obtain ⟨run, hrun, htruthy, hof, hproject, hvalid⟩ := actsIn_run.mp hacts
      have hcause := (hsound.activations activation hactivation).mpr htruthy
      rw [Table.filter_of_mem hrun]
      · rfl
      · simp [hof, (liveRunActivationPredicate_iff hcause).mpr hvalid, hproject, hagent, hid]
      · intro x hx
        refine ⟨primaryKey [.text x.id], by simp [Keyed.keys], ?_⟩
        simp_all [Keyed.keys]
    · rw [if_neg (by simp [hagent, hacts]), List.length_eq_zero_iff]
      refine List.filter_eq_nil_iff.mpr fun run hrun hjoined => hacts (actsIn_run.mpr ?_)
      simp only [Bool.and_eq_true, decide_eq_true_eq] at hjoined
      obtain ⟨⟨⟨hof, hlive⟩, hproject⟩, -⟩ := hjoined
      have hcause : activation.cause = .Run := by
        simp only [liveRunActivationPredicate, Bool.and_eq_true, decide_eq_true_eq] at hlive
        exact hlive.1.1.1.1.1.1
      exact ⟨run, hrun, (hsound.activations activation hactivation).mp hcause, hof, hproject,
        (liveRunActivationPredicate_iff hcause).mp hlive⟩
  · rw [if_neg hagent, if_neg (by simp [hagent])]

theorem domain_of_mem {db : Database} {domain : AttentionDomainFence}
    (h : domain ∈ db.table AttentionDomainFence) :
    (db.table AttentionDomainFence).find? (fun r => r.attentionId = domain.attentionId) =
      some domain :=
  Table.find?_of_mem h (by simp) fun x hx =>
    ⟨⟨1, [.text x.attentionId]⟩, by simp [Keyed.keys], by simp_all [Keyed.keys]⟩

theorem attention_of_id {db : Database} {attention attention' : Attention}
    (h : attention ∈ db.table Attention) (h' : attention' ∈ db.table Attention)
    (hid : attention.id = attention'.id) : attention = attention' :=
  Table.eq_of_key h h' (k := ⟨1, [.text attention.id]⟩) (by simp [Keyed.keys])
    (by simp [Keyed.keys, hid])

/-- A live Activation of an Attention has the fence of its domain. -/
theorem domain_of_valid {attention : Attention} {domain : Option AttentionDomainFence}
    (h : activationValidityAt activation (.Attention attention domain) at' = none) :
    domain.isSome = true := by
  rw [activationValidityAt_eq_none] at h
  simp only [attentionScopeInvalidity, ite_some_eq_none, attentionDomainFenceMatches] at h
  cases domain with
  | none => simp at h
  | some domain => rfl

/-- What is joined with an Activation and its Attention is the fence, where it may act. -/
theorem length_joinedDomains (hsound : ScopesSound w) {attention : Attention}
    (hactivation : activation ∈ w.db.table ActivationAttempt)
    (hattention : attention ∈ w.db.table Attention)
    (hof : activation.attentionId = some attention.id)
    (hid : ofAgent agentId activation.agentId = true) :
    ((w.db.table AttentionDomainFence).filter fun domain =>
      domain.attentionId = attention.id &&
        liveAttentionActivationPredicate activation attention domain at' &&
        attention.projectId = projectId && ofAgent agentId activation.agentId).length =
      if actsIn w projectId at' false activation then 1 else 0 := by
  have hcause : activation.cause = .Attention ↔ truthy activation.runId = false := by
    have hscoped := hsound.activations activation hactivation
    cases hcase : activation.cause with
    | Run => simp [hscoped.mp hcase]
    | Attention => simpa [hcase] using (not_congr hscoped).mp (by simp [hcase])
  have hleased := hsound.attentions attention hattention
  by_cases hacts : actsIn w projectId at' false activation = true
  · rw [if_pos hacts]
    obtain ⟨found, hfound, htruthy, hofFound, hproject, hvalid⟩ := actsIn_attention.mp hacts
    obtain rfl : attention = found :=
      attention_of_id hattention hfound (Option.some.inj (hof.symm.trans hofFound))
    obtain ⟨domain, hdomain⟩ := Option.isSome_iff_exists.mp (domain_of_valid hvalid)
    obtain ⟨hmem, hfences⟩ := Table.find?_eq_some hdomain
    have hfences : domain.attentionId = attention.id := of_decide_eq_true hfences
    have hlive := (liveAttentionActivationPredicate_iff (hcause.mpr htruthy) hleased).mpr
      (hdomain ▸ hvalid)
    rw [Table.filter_of_mem hmem]
    · rfl
    · simp [hfences, hlive, hproject, hid]
    · intro x hx
      refine ⟨⟨1, [.text x.attentionId]⟩, by simp [Keyed.keys], ?_⟩
      simp_all [Keyed.keys]
  · rw [if_neg hacts, List.length_eq_zero_iff]
    refine List.filter_eq_nil_iff.mpr fun domain hmem hjoined =>
      hacts (actsIn_attention.mpr ?_)
    simp only [Bool.and_eq_true, decide_eq_true_eq] at hjoined
    obtain ⟨⟨⟨hfences, hlive⟩, hproject⟩, -⟩ := hjoined
    have hattentionCause : activation.cause = .Attention := by
      simp only [liveAttentionActivationPredicate, Bool.and_eq_true, decide_eq_true_eq] at hlive
      exact hlive.1.1.1.1.1.1.1.1.1.1
    refine ⟨attention, hattention, hcause.mp hattentionCause, hof, hproject, ?_⟩
    rw [← hfences, domain_of_mem hmem]
    exact (liveAttentionActivationPredicate_iff hattentionCause hleased).mp hlive

theorem count_liveAttentionAgents (hsound : ScopesSound w) {id : String}
    (hid : ofAgent agentId id = true) :
    (liveAttentionAgents w.db projectId agentId at').count id =
      (actingActivations w projectId id at' false).length := by
  apply count_flatMap
  intro activation hactivation
  by_cases hany : ∃ attention ∈ w.db.table Attention, activation.attentionId = some attention.id
  · obtain ⟨attention, hattention, hof⟩ := hany
    rw [Table.filter_of_mem hattention (by simp [hof])
        fun x hx => ⟨⟨1, [.text x.id]⟩, by simp [Keyed.keys], by simp_all [Keyed.keys]⟩,
      List.flatMap_singleton, count_map_const]
    by_cases hagent : activation.agentId = id
    · rw [if_pos hagent, length_joinedDomains hsound hactivation hattention hof (hagent ▸ hid)]
      simp [hagent]
    · rw [if_neg hagent, if_neg (by simp [hagent])]
  · have hnone : (w.db.table Attention).filter
        (fun attention => activation.attentionId = some attention.id) = [] :=
      List.filter_eq_nil_iff.mpr fun attention hattention hof =>
        hany ⟨attention, hattention, of_decide_eq_true hof⟩
    rw [hnone, List.flatMap_nil, List.count_nil, if_neg]
    intro hacts
    obtain ⟨attention, hattention, -, hof, -⟩ :=
      actsIn_attention.mp (Bool.and_eq_true _ _ ▸ hacts).2
    exact hany ⟨attention, hattention, hof⟩

end Counting

/-! ## The projection -/

/-- The Runs of an Agent in a Project that have not ended. -/
def nonterminalRuns (db : Database) (projectId agentId : String) : List Run :=
  (db.table Run).filter fun r =>
    r.projectId = projectId && r.ownerAgentId = agentId && !isTerminalRunState r.state

/-- What a view says of its Agent is what the check of its Activations says at `at'`. -/
structure ShowsStatus (w : World) (projectId : String) (at' : Timestamp)
    (view : ProjectAgentStatusView) : Prop where
  runs : view.liveRunActivationCount =
    (actingActivations w projectId view.agentId at' true).length
  attentions : view.liveAttentionActivationCount =
    (actingActivations w projectId view.agentId at' false).length
  both : view.liveActivationCount =
    view.liveRunActivationCount + view.liveAttentionActivationCount
  nonterminal : view.nonterminalRunCount = (nonterminalRuns w.db projectId view.agentId).length
  active : view.status = .active ↔ ∃ activation ∈ w.db.table ActivationAttempt,
    activation.agentId = view.agentId ∧ ∃ ofRun, actsIn w projectId at' ofRun activation = true
  waiting : view.status = .waiting ↔ view.liveActivationCount = 0 ∧
    nonterminalRuns w.db projectId view.agentId ≠ []

/-- The projection has the Agents of the Project, or the one that was asked for, once each,
and says of each what the check of its Activations says at `at'`. -/
structure ReportsStatus (w : World) (projectId : String) (agentId : Option String)
    (at' : Timestamp) (projection : ProjectAgentStatusProjection) : Prop where
  project : projection.projectId = projectId
  lists : ∀ id, id ∈ projection.agents.map (·.agentId) ↔ ofAgent agentId id = true ∧
    ∃ agent ∈ w.db.table Agent, agent.id = id ∧ agent.projectId = projectId
  once : (projection.agents.map (·.agentId)).Nodup
  asked : truthy agentId = true → projection.agents ≠ []
  counts : ∀ view ∈ projection.agents, ShowsStatus w projectId at' view

section Projection

variable {kernel : KernelContext} {context : PrincipalContext} {w w' : World}
  {projectId : String} {agentId : Option String} {at' : Timestamp}

/-- Whether an Activation may act is a question to the database. -/
theorem actsIn_congr (hdb : w'.db = w.db) (ofRun : Bool) (activation : ActivationAttempt) :
    actsIn w' projectId at' ofRun activation = actsIn w projectId at' ofRun activation := by
  rw [Bool.eq_iff_iff]
  cases ofRun with
  | true => rw [actsIn_run, actsIn_run, hdb]
  | false => rw [actsIn_attention, actsIn_attention, hdb]

theorem actingActivations_congr (hdb : w'.db = w.db) (id : String) (ofRun : Bool) :
    actingActivations w' projectId id at' ofRun = actingActivations w projectId id at' ofRun := by
  simp only [actingActivations, hdb, actsIn_congr hdb]

theorem ShowsStatus.congr {view : ProjectAgentStatusView} (hdb : w'.db = w.db)
    (h : ShowsStatus w' projectId at' view) : ShowsStatus w projectId at' view where
  runs := by rw [h.runs, actingActivations_congr hdb]
  attentions := by rw [h.attentions, actingActivations_congr hdb]
  both := h.both
  nonterminal := by rw [h.nonterminal, hdb]
  active := by simpa only [hdb, actsIn_congr hdb] using h.active
  waiting := by simpa only [hdb] using h.waiting

theorem actingActivations_ne_nil {id : String} {ofRun : Bool} :
    actingActivations w projectId id at' ofRun ≠ [] ↔
      ∃ activation ∈ w.db.table ActivationAttempt, activation.agentId = id ∧
        actsIn w projectId at' ofRun activation = true := by
  rw [actingActivations, ne_eq, Table.filter, List.filter_eq_nil_iff]
  simp [Table.mem_rows]

theorem count_nonterminalRuns {id : String} (hid : ofAgent agentId id = true) :
    (((w.db.table Run).filter fun r =>
      r.projectId = projectId && (r.state = .Active || r.state = .Waiting) &&
        ofAgent agentId r.ownerAgentId).map (·.ownerAgentId)).count id =
      (nonterminalRuns w.db projectId id).length := by
  rw [List.count_eq_length_filter, List.filter_map, List.length_map, nonterminalRuns,
    Table.filter, Table.filter, List.filter_filter]
  congr 1
  apply List.filter_congr
  intro r _
  by_cases howner : r.ownerAgentId = id
  · cases r.state <;> simp [howner, hid, isTerminalRunState]
  · simp [howner]

theorem projectAgentStatusView_active {liveRuns liveAttentions nonterminal : List String}
    {agent : Agent} :
    (projectAgentStatusView liveRuns liveAttentions nonterminal agent).status = .active ↔
      0 < liveRuns.count agent.id + liveAttentions.count agent.id := by
  unfold projectAgentStatusView
  grind

theorem projectAgentStatusView_waiting {liveRuns liveAttentions nonterminal : List String}
    {agent : Agent} :
    (projectAgentStatusView liveRuns liveAttentions nonterminal agent).status = .waiting ↔
      liveRuns.count agent.id + liveAttentions.count agent.id = 0 ∧
        nonterminal.count agent.id ≠ 0 := by
  unfold projectAgentStatusView
  grind

theorem projectAgentStatusView_shows (hsound : ScopesSound w) {agent : Agent}
    (hid : ofAgent agentId agent.id = true) :
    ShowsStatus w projectId at' (projectAgentStatusView (liveRunAgents w.db projectId agentId at')
      (liveAttentionAgents w.db projectId agentId at')
      (((w.db.table Run).filter fun r =>
        r.projectId = projectId && (r.state = .Active || r.state = .Waiting) &&
          ofAgent agentId r.ownerAgentId).map (·.ownerAgentId)) agent) := by
  have hruns : (liveRunAgents w.db projectId agentId at').count agent.id =
      (actingActivations w projectId agent.id at' true).length := count_liveRunAgents hsound hid
  have hattentions : (liveAttentionAgents w.db projectId agentId at').count agent.id =
      (actingActivations w projectId agent.id at' false).length :=
    count_liveAttentionAgents hsound hid
  have hnonterminal : (((w.db.table Run).filter fun r =>
      r.projectId = projectId && (r.state = .Active || r.state = .Waiting) &&
        ofAgent agentId r.ownerAgentId).map (·.ownerAgentId)).count agent.id =
      (nonterminalRuns w.db projectId agent.id).length := count_nonterminalRuns hid
  refine ⟨hruns, hattentions, rfl, hnonterminal, ?_, ?_⟩
  · have hacting : (∃ activation ∈ w.db.table ActivationAttempt, activation.agentId = agent.id ∧
        ∃ ofRun, actsIn w projectId at' ofRun activation = true) ↔
        0 < (liveRunAgents w.db projectId agentId at').count agent.id +
          (liveAttentionAgents w.db projectId agentId at').count agent.id := by
      rw [hruns, hattentions]
      constructor
      · rintro ⟨activation, hmem, hagent, ofRun, hacts⟩
        have hsome := List.length_pos_iff.mpr
          (actingActivations_ne_nil.mpr ⟨activation, hmem, hagent, hacts⟩)
        cases ofRun with
        | true => exact Nat.add_pos_left hsome _
        | false => exact Nat.add_pos_right _ hsome
      · intro hpos
        have hsome : ∃ ofRun, actingActivations w projectId agent.id at' ofRun ≠ [] := by
          by_contra hnone
          simp only [not_exists, not_not] at hnone
          simp [hnone] at hpos
        obtain ⟨ofRun, hne⟩ := hsome
        obtain ⟨activation, hmem, hagent, hacts⟩ := actingActivations_ne_nil.mp hne
        exact ⟨activation, hmem, hagent, ofRun, hacts⟩
    exact projectAgentStatusView_active.trans hacting.symm
  · have hnone : nonterminalRuns w.db projectId agent.id ≠ [] ↔
        (nonterminalRuns w.db projectId agent.id).length ≠ 0 :=
      not_congr List.length_eq_zero_iff.symm
    rw [projectAgentStatusView_waiting, hnonterminal]
    exact and_congr_right fun _ => hnone.symm

theorem getProjectAgentStatus_reports {projection : ProjectAgentStatusProjection}
    (hsound : ScopesSound w)
    (h : getProjectAgentStatus kernel projectId agentId w = (.ok projection, w')) :
    ReportsStatus w projectId agentId (kernel.clock w.clockReadings) projection ∧ w' = w.tick := by
  simp only [getProjectAgentStatus, bind_eq_ok, selectRows_eq_ok, selectRow_eq_ok, throwIf_eq_ok,
    readClock_eq_ok, gets_eq_ok, pure_eq_ok] at h
  obtain ⟨agents, _, ⟨hagents, rfl⟩, existing, _, ⟨-, rfl⟩, _, _, ⟨hasked, rfl⟩, nonterminal, _,
    ⟨rfl, rfl⟩, _, _, ⟨rfl, rfl⟩, _, _, ⟨rfl, rfl⟩, _, _, ⟨rfl, rfl⟩, rfl, rfl⟩ := h
  have hmem : ∀ agent, agent ∈ agents ↔ agent ∈ w.db.table Agent ∧
      agent.projectId = projectId ∧ ofAgent agentId agent.id = true := by
    intro agent
    rw [← hagents]
    simp
  refine ⟨⟨rfl, ?_, ?_, ?_, ?_⟩, rfl⟩
  · intro id
    simp only [List.map_map, List.mem_map, mem_orderByPair, hmem, Function.comp_apply,
      projectAgentStatusView]
    constructor
    · rintro ⟨agent, ⟨hagent, hproject, hof⟩, rfl⟩
      exact ⟨hof, agent, hagent, rfl, hproject⟩
    · rintro ⟨hof, agent, hagent, rfl, hproject⟩
      exact ⟨agent, ⟨hagent, hproject, hof⟩, rfl⟩
  · have hids : ((w.db.table Agent).rows.map (·.id)).Nodup :=
      (w.db.table Agent).nodup_map (k := fun id => primaryKey [.text id])
        fun r => by simp [Keyed.keys]
    have hperm := (orderByPair_perm (fun r : Agent => (r.name, r.id)) agents).map (·.id)
    rw [List.map_map]
    refine hperm.nodup_iff.mpr ?_
    rw [← hagents]
    exact hids.sublist (List.filter_sublist.map _)
  · intro hsome hnone
    have hsorted := List.map_eq_nil_iff.mp hnone
    have hnil := (orderByPair_perm (fun r : Agent => (r.name, r.id)) agents).symm
    rw [hsorted] at hnil
    exact hasked ⟨hsome, hnil.eq_nil⟩
  · intro view hview
    obtain ⟨agent, hagent, rfl⟩ := List.mem_map.mp hview
    exact projectAgentStatusView_shows hsound ((hmem agent).mp (mem_orderByPair.mp hagent)).2.2

end Projection

/-- The status of Agents is that of the Activations that may act when the clock is read. -/
theorem queryProjectAgentStatus_reports {kernel : KernelContext} {w : World} {projectId : String}
    {agentId : Option String} {context : PrincipalContext}
    {projection : ProjectAgentStatusProjection} (hreach : Reachable kernel w)
    (h : (queryProjectAgentStatus kernel projectId agentId context w).1 = .ok projection) :
    (queryProjectAgentStatus kernel projectId agentId context w).2.db = w.db ∧
      ∃ at', ReadBetween kernel w
        (queryProjectAgentStatus kernel projectId agentId context w).2 at' ∧
        ReportsStatus w projectId agentId at' projection := by
  generalize hquery : queryProjectAgentStatus kernel projectId agentId context w = outcome at h ⊢
  obtain ⟨answer, w'⟩ := outcome
  obtain rfl : answer = .ok projection := h
  have hrun := queryTransaction_eq_ok hquery
  simp only [bind_eq_ok] at hrun
  obtain ⟨principal, w₁, hprincipal, project, w₂, hproject, _, w₃, haccess, hstatus⟩ := hrun
  have hdb : SameDatabase w w₃ := trans_of SameDatabase (Within.of_eq hprincipal)
    (trans_of SameDatabase (Within.of_eq hproject) (Within.of_eq haccess))
  have hreadings : w.clockReadings ≤ w₃.clockReadings :=
    (trans_of (Frame []) (Within.of_eq hprincipal)
      (trans_of (Frame []) (Within.of_eq hproject) (Within.of_eq haccess))).clockReadings
  have hsound : ScopesSound w₃ := by
    have hreached := hreach.scopesSound
    exact ⟨hdb ▸ hreached.activations, hdb ▸ hreached.attentions⟩
  obtain ⟨hreports, rfl⟩ := getProjectAgentStatus_reports hsound hstatus
  refine ⟨hdb, _, (readBetween_now kernel w₃).mono hreadings (Nat.le_refl _), ?_⟩
  exact ⟨hreports.project, hdb ▸ hreports.lists, hreports.once, hreports.asked,
    fun view hview => (hreports.counts view hview).congr hdb⟩

/-- While the Agent handles its Attention, it is active. -/
theorem queryProjectAgentStatus_handled :
    ∃ projection, (queryProjectAgentStatus countingKernel "project" none
        { principalId := "runtime" } handledWorld).1 = .ok projection ∧
      projection.agents = [⟨"alice", 0, 1, 1, 0, .active⟩] ∧
      ∃ at', ReportsStatus handledWorld "project" none at' projection := by
  have hagents : (queryProjectAgentStatus countingKernel "project" none
      { principalId := "runtime" } handledWorld).1.toOption.map (·.agents) =
      some [⟨"alice", 0, 1, 1, 0, .active⟩] := by
    decide +kernel
  cases hanswer : (queryProjectAgentStatus countingKernel "project" none
      { principalId := "runtime" } handledWorld).1 with
  | error e =>
      rw [hanswer] at hagents
      cases hagents
  | ok projection =>
      rw [hanswer] at hagents
      obtain ⟨-, at', -, hreports⟩ := queryProjectAgentStatus_reports handledWorld_reachable hanswer
      exact ⟨projection, rfl, Option.some.inj hagents, at', hreports⟩

end Torsor.Kernel
