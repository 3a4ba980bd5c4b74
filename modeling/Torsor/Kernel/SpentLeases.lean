import Torsor.Kernel.AgentStatus
import Torsor.Kernel.AttentionDomains
import Torsor.Kernel.Idempotency
import Torsor.Kernel.ReplayResults

/-! # Spent handler leases

A handler lease token is given to one Attention at a claim. Once no Attention has it, no
decision, no start of an Activation, no replay of the claim and no Activation started under it
is accepted any more, whatever the clock says.
-/

namespace Torsor.Kernel

open Torsor.Library Tx

/-! ## Tokens -/

/-- The token has been issued, and no Attention has it. -/
structure Spent (kernel : KernelContext) (w : World) (token : String) : Prop where
  issued : ∃ n < w.issuedIds, kernel.idFactory "lease" n = token
  unheld : ∀ a ∈ w.db.table Attention, a.handlerLeaseToken ≠ some token

/-- Every handler lease token has been issued. -/
def TokensIssued (kernel : KernelContext) (w : World) : Prop :=
  ∀ a ∈ w.db.table Attention, ∀ token, a.handlerLeaseToken = some token →
    ∃ n < w.issuedIds, kernel.idFactory "lease" n = token

section Tokens

variable {kernel : KernelContext} {w w' : World} {token : String}

theorem Spent.after (h : Spent kernel w token) (hagree : DomainsAgree w.db)
    (hmove : DomainsMove kernel w w') : Spent kernel w' token where
  issued := by
    obtain ⟨n, hn, heq⟩ := h.issued
    exact ⟨n, Nat.lt_of_lt_of_le hn hmove.issued, heq⟩
  unheld a ha htoken := by
    obtain ⟨before, hbefore, -, hheld⟩ | ⟨m, hle, -, hnew⟩ := hmove.tokens hagree a ha token htoken
    · exact h.unheld before hbefore hheld
    · obtain ⟨n, hn, heq⟩ := h.issued
      have hsame := kernel.idFactory_inj _ _ _ _ (heq.trans hnew.symm)
      omega

theorem TokensIssued.after (h : TokensIssued kernel w) (hagree : DomainsAgree w.db)
    (hmove : DomainsMove kernel w w') : TokensIssued kernel w' := by
  intro a ha token htoken
  obtain ⟨before, hbefore, -, hheld⟩ | ⟨n, -, hlt, hnew⟩ := hmove.tokens hagree a ha token htoken
  · obtain ⟨n, hn, heq⟩ := h before hbefore token hheld
    exact ⟨n, Nat.lt_of_lt_of_le hn hmove.issued, heq⟩
  · exact ⟨n, hlt, hnew⟩

theorem tokensIssued_opened (h : Opened kernel w) : TokensIssued kernel w := by
  have hframe : Frame [.attentions] World.blank w := h.frame
  intro a ha
  rw [hframe.table_eq Attention (by decide)] at ha
  exact absurd ha (Table.not_mem_empty a)

theorem Reachable.tokensIssued (h : Reachable kernel w) : TokensIssued kernel w := by
  have hboth : DomainsAgree w.db ∧ TokensIssued kernel w := by
    refine @Reachable.invariant kernel w (fun w => DomainsAgree w.db ∧ TokensIssued kernel w) h
      (fun w hopen => ⟨domainsAgree_opened hopen, tokensIssued_opened hopen⟩) ?_
    intro w call hinv
    have hmove := step_domainsMove kernel call w
    exact ⟨hmove.agree hinv.1, hinv.2.after hinv.1 hmove⟩
  exact hboth.2

end Tokens

/-! ## Acceptance -/

/-- The handler lease token a command acts under. -/
def KernelCommand.handlerLease? : KernelCommand → Option String
  | .ResolveAttentionWithRun command => some command.handlerLeaseToken
  | .IgnoreAttention command => some command.handlerLeaseToken
  | .ResolveAttentionWithExistingRun command => some command.handlerLeaseToken
  | .StartActivation command =>
      if truthy command.runId then none else command.handlerLeaseToken
  | _ => none

/-- The call succeeds on the strength of a handler lease. -/
inductive AcceptsLease (kernel : KernelContext) (w : World) (token : String) : KernelCall → Prop
  | executed {call issued result} (hexecutes : Executes kernel call issued w result)
      (hof : issued.command.handlerLease? = some token) : AcceptsLease kernel w token call
  | replayed {call issued command result} (hissued : call.issued = some issued)
      (hcommand : issued.command = .ClaimAttention command)
      (hrecorded : Recorded issued.context.principalId issued.command w)
      (hanswer : answer kernel call w = some (.ok result))
      (hcarries : result.relatedId? "handlerLeaseToken" = some token) :
      AcceptsLease kernel w token call

section Acceptance

set_option synthInstance.maxSize 400000

variable {kernel : KernelContext} {w w' : World} {call : KernelCall} {issued : IssuedCommand}
  {result : CommandResult} {token : String} {principal : Principal} {context : PrincipalContext}

/-- A command that is executed is dispatched on the Attentions of the state. -/
theorem Executes.dispatches (h : Executes kernel call issued w result) :
    ∃ principal context correlationId dispatched w₁ w₂,
      SameTables TableName.butLeases w w₁ ∧
      dispatchCommand kernel issued.command context principal correlationId w₁ =
        (.ok dispatched, w₂) := by
  obtain ⟨w₃, hrun, -⟩ := answer_eq_ok h.issues h.succeeds
  obtain ⟨principal, w₀, hprincipal, hfence, ⟨cached, hcached, -⟩ | ⟨-, hperform⟩⟩ :=
    executeTransaction_eq_ok hrun
  all_goals have hsame : SameTables TableName.butLeases w w₀ := Within.of_eq hfence
  · have hid : principal.id = issued.context.principalId := by
      simpa using (Table.find?_eq_some hprincipal).2
    rw [hid, hsame.table_eq IdempotencyRecord (by decide)] at hcached
    exact absurd ⟨cached, hcached⟩ h.fresh
  · simp only [performCommand, bind_eq_ok] at hperform
    obtain ⟨correlationId, w₁, hcorrelation, dispatched, w₂, hdispatch, -⟩ := hperform
    exact ⟨principal, _, correlationId, dispatched, w₁, w₂,
      trans_of _ hsame (Within.of_eq hcorrelation), hdispatch⟩

theorem assertAttentionLease_held {a : Attention} {presented : Option String} {u : Unit}
    (h : assertAttentionLease kernel a presented w = (.ok u, w')) :
    a.handlerLeaseToken = presented := by
  simp only [assertAttentionLease, bind_eq_ok, throwIf_eq_ok] at h
  obtain ⟨_, _, ⟨hheld, -⟩, -⟩ := h
  simp only [not_or, not_not] at hheld
  exact hheld.2

theorem requireAttentionDecisionContext_held {command : AttentionDecision}
    {decision : AttentionDecisionContext}
    (h : requireAttentionDecisionContext kernel command principal context w =
      (.ok decision, w')) :
    ∃ a ∈ w.db.table Attention, a.handlerLeaseToken = some command.handlerLeaseToken := by
  simp only [requireAttentionDecisionContext, requireAttention, bind_eq_ok, requireKind_eq_ok,
    throwIf_eq_ok, requireRow_eq_ok] at h
  obtain ⟨_, _, ⟨-, rfl⟩, agent, w₁, hagent, attention, _, ⟨hattention, rfl⟩, _, _, ⟨-, rfl⟩, _,
    _, ⟨-, rfl⟩, _, w₂, hrevision, _, w₃, hlease, -⟩ := h
  have hread : SameDatabase w w₁ := Within.of_eq hagent
  obtain ⟨hmem, -⟩ := Table.find?_eq_some hattention
  exact ⟨attention, hread ▸ hmem, assertAttentionLease_held hlease⟩

/-- A command is dispatched only under a handler lease that an Attention has. -/
theorem dispatchCommand_held {command : KernelCommand} {correlationId : String}
    {dispatched : CommandResult} (hof : command.handlerLease? = some token)
    (h : dispatchCommand kernel command context principal correlationId w =
      (.ok dispatched, w')) :
    ∃ a ∈ w.db.table Attention, a.handlerLeaseToken = some token := by
  cases command with
  | ResolveAttentionWithRun command =>
      cases hof
      simp only [dispatchCommand, resolveAttentionWithRun, bind_eq_ok] at h
      obtain ⟨decision, w₁, hdecision, -⟩ := h
      exact requireAttentionDecisionContext_held hdecision
  | IgnoreAttention command =>
      cases hof
      simp only [dispatchCommand, ignoreAttention, bind_eq_ok] at h
      obtain ⟨decision, w₁, hdecision, -⟩ := h
      exact requireAttentionDecisionContext_held hdecision
  | ResolveAttentionWithExistingRun command =>
      cases hof
      simp only [dispatchCommand, resolveAttentionWithExistingRun, bind_eq_ok] at h
      obtain ⟨decision, w₁, hdecision, -⟩ := h
      exact requireAttentionDecisionContext_held hdecision
  | StartActivation command =>
      simp only [KernelCommand.handlerLease?] at hof
      split at hof
      · cases hof
      · rename_i hrun
        simp only [dispatchCommand, startActivation, bind_eq_ok] at h
        obtain ⟨_, w₁, hkind, _, w₂, hcause, duration, w₃, hduration, now, w₄, hnow, hstart⟩ := h
        rw [if_neg hrun] at hstart
        simp only [startAttentionActivation, requireAttention, bind_eq_ok, throwIf_eq_ok,
          requireRow_eq_ok] at hstart
        obtain ⟨attention, _, ⟨hattention, rfl⟩, _, _, ⟨-, rfl⟩, _, w₅, hlease, -⟩ := hstart
        have hread : SameTables [.attentions] w w₄ := trans_of _ (trans_of _ (trans_of _
          (Within.of_eq hkind) (Within.of_eq hcause)) (Within.of_eq hduration))
          (Within.of_eq hnow)
        obtain ⟨hmem, -⟩ := Table.find?_eq_some hattention
        rw [hread.table_eq Attention (by decide)] at hmem
        exact ⟨attention, hmem, (assertAttentionLease_held hlease).trans hof⟩
  | _ => cases hof

/-- A handler lease that is accepted is one that an Attention has. -/
theorem AcceptsLease.held (h : AcceptsLease kernel w token call) :
    ∃ a ∈ w.db.table Attention, a.handlerLeaseToken = some token := by
  cases h with
  | executed hexecutes hof =>
      obtain ⟨principal, context, correlationId, dispatched, w₁, w₂, hsame, hdispatch⟩ :=
        hexecutes.dispatches
      obtain ⟨a, ha, hheld⟩ := dispatchCommand_held hof hdispatch
      rw [hsame.table_eq Attention (by decide)] at ha
      exact ⟨a, ha, hheld⟩
  | @replayed issued command result hissued hcommand hrecorded hanswer hcarries =>
      obtain ⟨w₃, hrun, -⟩ := answer_eq_ok hissued hanswer
      obtain ⟨principal, w₀, hprincipal, hfence, ⟨cached, hcached, hreplay⟩ | ⟨hnone, -⟩⟩ :=
        executeTransaction_eq_ok hrun
      all_goals have hsame : SameTables TableName.butLeases w w₀ := Within.of_eq hfence
      · obtain ⟨w₁, w₂, hread, -, hresolve, -⟩ := replayCommand_eq_ok hreplay
        rw [hcommand] at hresolve
        have hclaim : resolveCachedAttentionClaim kernel cached.result principal w₁ =
            (.ok result, w₂) := hresolve
        obtain ⟨a, ha, -, -, -, hheld, -⟩ := resolveCachedAttentionClaim_shows hclaim
        have hafter : SameTables [.attentions] w₁ w₂ := Within.of_eq hclaim
        rw [hafter.table_eq Attention (by decide), hread.table_eq Attention (by decide),
          hsame.table_eq Attention (by decide)] at ha
        exact ⟨a, ha, hheld.trans hcarries⟩
      · have hid : principal.id = issued.context.principalId := by
          simpa using (Table.find?_eq_some hprincipal).2
        obtain ⟨record, hrecord⟩ := hrecorded
        rw [hid, hsame.table_eq IdempotencyRecord (by decide), hrecord] at hnone
        cases hnone

/-- An Activation of an Attention is current only under the lease the Attention has. -/
theorem assertActivationScopeCurrent_held {activation : ActivationAttempt} {u : Unit}
    (hof : truthy activation.runId = false) (htoken : activation.attentionLeaseToken = some token)
    (h : assertActivationScopeCurrent kernel activation w = (.ok u, w')) :
    ∃ a ∈ w.db.table Attention, a.handlerLeaseToken = some token := by
  simp only [assertActivationScopeCurrent, bind_eq_ok, readClock_eq_ok, reject_eq_ok] at h
  obtain ⟨scope, w₁, hload, now, _, ⟨-, rfl⟩, hvalid, -⟩ := h
  cases scope with
  | Run run =>
      obtain ⟨hrun, -⟩ := loadActivationScopeState_run.mp hload
      rw [hof] at hrun
      cases hrun
  | Attention attention domain =>
      obtain ⟨-, hmem, -⟩ := loadActivationScopeState_attention.mp hload
      simp only [Option.map_eq_none_iff, activationValidityAt, attentionScopeInvalidity,
        ite_some_eq_none] at hvalid
      obtain ⟨-, -, -, -, -, hlease, -⟩ := hvalid
      simp only [not_or, not_not] at hlease
      exact ⟨attention, hmem, hlease.1.trans htoken⟩

end Acceptance

/-! ## Spent tokens -/

/-- What a handler lease token that no Attention has any more is good for. -/
structure Powerless (kernel : KernelContext) (w : World) (token : String) : Prop where
  /-- No decision, start of an Activation or replay of its claim is accepted. -/
  refused : ∀ call, ¬ AcceptsLease kernel w token call
  /-- The Activations started under it are not current. -/
  ended : ∀ activation, truthy activation.runId = false →
    activation.attentionLeaseToken = some token →
      (assertActivationScopeCurrent kernel activation w).1 ≠ .ok ()

theorem Spent.powerless {kernel : KernelContext} {w : World} {token : String}
    (h : Spent kernel w token) : Powerless kernel w token where
  refused call haccepts := by
    obtain ⟨a, ha, hheld⟩ := haccepts.held
    exact h.unheld a ha hheld
  ended activation hof htoken hok := by
    have hrun : assertActivationScopeCurrent kernel activation w =
        (.ok (), (assertActivationScopeCurrent kernel activation w).2) := Prod.ext hok rfl
    obtain ⟨a, ha, hheld⟩ := assertActivationScopeCurrent_held hof htoken hrun
    exact h.unheld a ha hheld

/-- A handler lease token that an Attention had and none has any more is powerless for good. -/
theorem handlerLease_spent {kernel : KernelContext} {w w' w'' : World} {token : String}
    (hreach : Reachable kernel w) (hs : Steps kernel w w') (hs' : Steps kernel w' w'')
    (hheld : ∃ a ∈ w.db.table Attention, a.handlerLeaseToken = some token)
    (hlost : ∀ a ∈ w'.db.table Attention, a.handlerLeaseToken ≠ some token) :
    Powerless kernel w'' token := by
  obtain ⟨a, ha, htoken⟩ := hheld
  obtain ⟨n, hn, heq⟩ := hreach.tokensIssued a ha token htoken
  have hreach' : Reachable kernel w' := hreach.steps hs
  have hspent : Spent kernel w' token :=
    ⟨⟨n, Nat.lt_of_lt_of_le hn hs.domainsMove.issued, heq⟩, hlost⟩
  exact (hspent.after hreach'.domainsAgree hs'.domainsMove).powerless

/-- The Agent's decision has spent the lease the Attention was handled under. -/
theorem runWorld_spent :
    (∃ a ∈ handledWorld.db.table Attention, a.handlerLeaseToken = some (issuedId 9)) ∧
      Powerless countingKernel runWorld (issuedId 9) := by
  have hheld : ∃ a ∈ (handledWorld.db.table Attention).rows,
      a.handlerLeaseToken = some (issuedId 9) := by decide +kernel
  have hlost : ∀ a ∈ (runWorld.db.table Attention).rows,
      a.handlerLeaseToken ≠ some (issuedId 9) := by decide +kernel
  have hstep : Steps countingKernel handledWorld runWorld := .single ⟨createRunCall, rfl⟩
  have hreach := handledWorld_reachable
  -- Nothing else of the worlds is to be computed.
  generalize handledWorld = w at hheld hstep hreach ⊢
  generalize runWorld = w' at hlost hstep ⊢
  exact ⟨hheld, handlerLease_spent hreach hstep .refl hheld hlost⟩

end Torsor.Kernel
