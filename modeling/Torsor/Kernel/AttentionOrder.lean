import Torsor.Kernel.Provenance

/-! # The order of Attentions

An Attention keeps its place in the order of its Agent and Thread, a later one comes behind
all that exist, and a decided one is never open again. Only a claim gives a handler lease to
an Attention, and only an Attention with a lease is decided.
-/

namespace Torsor.Kernel

open Torsor.Library Tx

/-- The Attention has a handler lease, or has been decided. -/
def Attention.handled (r : Attention) : Bool := r.handlerLeaseToken.isSome || r.status ≠ .Open

/-- The Attention a command claims. -/
def KernelCommand.claims : KernelCommand → Option String
  | .ClaimAttention command => some command.attentionId
  | _ => none

/-- The Attention a call claims. -/
def KernelCall.claims (call : KernelCall) : Option String :=
  call.issued.bind (·.command.claims)

/-- Attentions are only added behind the others, none is opened again, and only the claimed
one comes to be handled. -/
structure AttentionsMove (claimed : Option String) (w w' : World) : Prop where
  kept : ∀ r ∈ w.db.table Attention, ∃ r' ∈ w'.db.table Attention, r'.origin = r.origin
  back : ∀ r' ∈ w'.db.table Attention,
    (∃ r ∈ w.db.table Attention, r'.origin = r.origin ∧
      (r'.status = .Open → r.status = .Open) ∧
      (r'.handled = true → r.handled = true ∨ some r'.id = claimed)) ∨
    (r'.handled = true → some r'.id = claimed) ∧
      ∀ r ∈ w.db.table Attention, r.sequence < r'.sequence

section Preorder

variable {claimed : Option String} {w w' w'' : World}

theorem AttentionsMove.of_same (h : w'.db.table Attention = w.db.table Attention) :
    AttentionsMove claimed w w' where
  kept r hr := ⟨r, by rw [h]; exact hr, rfl⟩
  back r' hr' := .inl ⟨r', by rw [← h]; exact hr', rfl, id, .inl⟩

theorem Attention.origin_id {r r' : Attention} (h : r'.origin = r.origin) : r'.id = r.id :=
  (congrArg (fun a : Attention => a.id) h :)

theorem Attention.origin_sequence {r r' : Attention} (h : r'.origin = r.origin) :
    r'.sequence = r.sequence :=
  (congrArg (fun a : Attention => a.sequence) h :)

theorem AttentionsMove.trans (h : AttentionsMove claimed w w')
    (h' : AttentionsMove claimed w' w'') : AttentionsMove claimed w w'' where
  kept r hr := by
    obtain ⟨r', hr', horigin⟩ := h.kept r hr
    obtain ⟨r'', hr'', horigin'⟩ := h'.kept r' hr'
    exact ⟨r'', hr'', horigin'.trans horigin⟩
  back r'' hr'' := by
    cases h'.back r'' hr'' with
    | inl hold =>
        obtain ⟨r', hr', horigin', hopen', hhandled'⟩ := hold
        have hid : r''.id = r'.id := Attention.origin_id horigin'
        cases h.back r' hr' with
        | inl holder =>
            obtain ⟨r, hr, horigin, hopen, hhandled⟩ := holder
            left
            refine ⟨r, hr, horigin'.trans horigin, hopen ∘ hopen', ?_⟩
            intro hhandling
            cases hhandled' hhandling with
            | inl hbefore => exact hid ▸ hhandled hbefore
            | inr hclaimed => exact .inr hclaimed
        | inr hnew =>
            right
            constructor
            · intro hhandling
              cases hhandled' hhandling with
              | inl hbefore => exact hid ▸ hnew.1 hbefore
              | inr hclaimed => exact hclaimed
            · intro r hr
              rw [Attention.origin_sequence horigin']
              exact hnew.2 r hr
    | inr hnew =>
        right
        refine ⟨hnew.1, ?_⟩
        intro r hr
        obtain ⟨r', hr', horigin⟩ := h.kept r hr
        rw [← Attention.origin_sequence horigin]
        exact hnew.2 r' hr'

instance : IsPreorder World (AttentionsMove claimed) where
  refl _ := .of_same rfl
  trans _ _ _ := AttentionsMove.trans

instance : ConcernsTables (AttentionsMove claimed) [.attentions] where
  of_tables w w' htables _ _ _ :=
    .of_same (by simp only [Database.table, htables .attentions (by decide)])

end Preorder

/-! ## Statements -/

section Statements

set_option synthInstance.maxSize 400000

variable {claimed : Option String}

theorem attentionsMove_updateRows {p : Attention → Bool} {f : Attention → Attention}
    {h : KeepsKeys f} (horigin : ∀ r, (f r).origin = r.origin)
    (hopen : ∀ r, (f r).status = .Open → r.status = .Open)
    (hhandled : ∀ r, p r = true → (f r).handled = true →
      r.handled = true ∨ some r.id = claimed) :
    Within (AttentionsMove claimed) (updateRows p f h) := by
  apply Within.updateRows
  intro w
  constructor
  · intro r hr
    refine ⟨if p r then f r else r, ?_, ?_⟩
    · rw [World.store_db, Database.table_set_same]
      exact Table.mem_update.mpr ⟨r, hr, rfl⟩
    · split
      · exact horigin r
      · rfl
  · intro r' hr'
    rw [World.store_db, Database.table_set_same] at hr'
    obtain ⟨r, hr, rfl⟩ := Table.mem_update.mp hr'
    left
    refine ⟨r, hr, ?_⟩
    split
    · rename_i hp
      refine ⟨horigin r, hopen r, ?_⟩
      intro hhandling
      rw [Attention.origin_id (horigin r)]
      exact hhandled r hp hhandling
    · exact ⟨rfl, id, .inl⟩

theorem attentionsMove_updateAttention {id : String} {f : Attention → Attention}
    {h : KeepsKeys f} (horigin : ∀ r, (f r).origin = r.origin)
    (hopen : ∀ r, (f r).status = .Open → r.status = .Open)
    (hhandled : ∀ r, r.id = id → (f r).handled = true →
      r.handled = true ∨ some r.id = claimed) :
    Within (AttentionsMove claimed) (updateAttention id f h) := by
  have hupdate : Within (AttentionsMove claimed)
      (updateRows (fun r : Attention => r.id = id) f h) :=
    attentionsMove_updateRows horigin hopen fun r hr => hhandled r (by simpa using hr)
  unfold updateAttention
  infer_instance

/-- A row with the next sequence comes behind the others. -/
theorem attentionsMove_insertRow {r : Attention} {w : World}
    (hsequence : r.sequence = nextSequence Attention.sequence (w.db.table Attention).rows)
    (hfresh : r.handled = false) : AttentionsMove claimed w (insertRow r w).2 := by
  obtain ⟨u, hu, hrun⟩ | hrefused := insertRow_cases r w
  · rw [hrun]
    constructor
    · intro x hx
      refine ⟨x, ?_, rfl⟩
      rw [World.store_db, Database.table_set_same]
      exact (Table.mem_insert? hu).mpr (.inl hx)
    · intro x hx
      rw [World.store_db, Database.table_set_same] at hx
      cases (Table.mem_insert? hu).mp hx with
      | inl hold => exact .inl ⟨x, hold, rfl, id, .inl⟩
      | inr hnew =>
          right
          subst hnew
          refine ⟨by simp [hfresh], ?_⟩
          intro y hy
          rw [hsequence]
          exact lt_nextSequence hy
  · rw [hrefused]
    exact .of_same rfl

end Statements

/-! ## Commands -/

section Commands

set_option synthInstance.maxSize 400000

variable (kernel : KernelContext) {claimed : Option String}

instance (site : MentionSite) (targetAgentId : String) :
    Within (AttentionsMove claimed) (openAttention kernel site targetAgentId) where
  step w := by
    have hcreated : ∀ (id : String) (eventSequence : Nat), Within (AttentionsMove claimed)
        (updateRows (fun r : Attention => r.id = id)
          (fun r => { r with createdEventSequence := some eventSequence }) ⟨fun _ => rfl⟩) :=
      fun _ _ => attentionsMove_updateRows (fun _ => rfl) (fun _ => id) fun _ _ => .inl
    unfold openAttention
    rw [bind_of_ok (newId_eq_ok.mpr ⟨rfl, rfl⟩), bind_of_ok (selectTable_eq_ok.mpr ⟨rfl, rfl⟩),
      bind_apply]
    generalize hrun : insertRow (_ : Attention) w.issue = outcome
    have hinsert : AttentionsMove claimed w outcome.2 := by
      have hissue : AttentionsMove claimed w w.issue := .of_same rfl
      rw [← hrun]
      exact hissue.trans (attentionsMove_insertRow rfl rfl)
    obtain ⟨r, w₁⟩ := outcome
    cases r with
    | error e => exact hinsert
    | ok _ => exact trans_of _ hinsert (Within.step w₁)

instance (existing : AttentionDomainFence) (at' : Timestamp) :
    Within (AttentionsMove claimed) (supersedeAttention existing at') := by
  have hsupersede : ∀ (id : String) (revision : Nat), Within (AttentionsMove claimed)
      (updateAttention id
        (fun r => { r with
          revision
          handlerLeaseHolderPrincipalId := none
          handlerLeaseToken := none
          handlerLeaseExpiresAt := none }) ⟨fun _ => rfl⟩) :=
    fun _ _ => attentionsMove_updateAttention (fun _ => rfl) (fun _ => id) fun r _ hhandled => by
      left
      simp only [Attention.handled, Option.isSome_none, Bool.false_or] at hhandled
      simp [Attention.handled, hhandled]
  unfold supersedeAttention
  infer_instance

/-- The outcome is one of a decision. -/
class Decides (outcome : AttentionOutcome) : Prop where
  status : outcome.status ≠ .Open

instance (revision : Nat) (outcome : AttentionResolutionOutcome)
    (principalId activationId : String) (runId : Option String) (at' : Timestamp) :
    Decides ⟨.Resolved, revision, outcome, principalId, activationId, runId, at'⟩ := ⟨by simp⟩

instance (revision : Nat) (outcome : AttentionResolutionOutcome)
    (principalId activationId : String) (runId : Option String) (at' : Timestamp) :
    Decides ⟨.Ignored, revision, outcome, principalId, activationId, runId, at'⟩ := ⟨by simp⟩

instance (attentionId : String) (outcome : AttentionOutcome) [ho : Decides outcome] :
    Within (AttentionsMove (some attentionId)) (decideAttention attentionId outcome) := by
  have hdecide : Within (AttentionsMove (some attentionId))
      (updateAttention attentionId (Attention.decide outcome) ⟨fun _ => rfl⟩) :=
    attentionsMove_updateAttention (fun _ => rfl) (fun _ hopen => absurd hopen ho.status)
      fun r hr _ => .inr (congrArg some hr)
  unfold decideAttention
  infer_instance

instance (command : ClaimAttentionCommand) (principal : Principal) (correlationId : String) :
    Within (AttentionsMove (some command.attentionId))
      (claimAttention kernel command principal correlationId) := by
  have hclaim : ∀ (revision : Nat) (leaseToken : String) (expiresAt : Timestamp),
      Within (AttentionsMove (some command.attentionId)) (updateAttention command.attentionId
        (Attention.claim revision principal.id leaseToken expiresAt) ⟨fun _ => rfl⟩) :=
    fun _ _ _ => attentionsMove_updateAttention (fun _ => rfl) (fun _ => id)
      fun r hr _ => .inr (congrArg some hr)
  unfold claimAttention claimAttentionDomain takeOverAttentionDomain
  infer_instance

instance (input : NewRevision) :
    Within (AttentionsMove claimed) (appendMessageRevision kernel input) := by
  unfold appendMessageRevision mentionAgent
  infer_instance

instance (input : NewMessage) : Within (AttentionsMove claimed) (createMessage kernel input) := by
  unfold createMessage mentionAgent
  infer_instance

/-- Only an Attention with a lease is decided. -/
theorem requireAttentionDecisionContext_handled {command : AttentionDecision}
    {principal : Principal} {context : PrincipalContext} {decision : AttentionDecisionContext}
    {w w' : World}
    (h : requireAttentionDecisionContext kernel command principal context w =
      (.ok decision, w')) :
    ∃ r ∈ w.db.table Attention, r.id = command.attentionId ∧ r.handled = true := by
  simp only [requireAttentionDecisionContext, requireAttention, assertAttentionLease, bind_eq_ok,
    requireKind_eq_ok, throwIf_eq_ok, requireRow_eq_ok, pure_eq_ok] at h
  obtain ⟨_, _, ⟨-, rfl⟩, agent, w₁, hagent, attention, _, ⟨hattention, rfl⟩, _, _, ⟨-, rfl⟩, _,
    _, ⟨-, rfl⟩, _, w₂, -, _, w₃, ⟨_, _, ⟨hlease, -⟩, -⟩, -⟩ := h
  have hread : SameDatabase w w₁ := Within.of_eq hagent
  obtain ⟨hmem, hid⟩ := Table.find?_eq_some hattention
  simp only [not_or, not_not] at hlease
  refine ⟨attention, hread ▸ hmem, by simpa using hid, ?_⟩
  simp [Attention.handled, hlease.2]

/-- What is exempt as claimed was handled before. -/
theorem AttentionsMove.of_handled {id : String} {w w' : World}
    (h : AttentionsMove (some id) w w')
    (hhandled : ∃ r ∈ w.db.table Attention, r.id = id ∧ r.handled = true) :
    AttentionsMove none w w' where
  kept := h.kept
  back r' hr' := by
    obtain ⟨x, hx, hid, hxhandled⟩ := hhandled
    by_cases hsame : r'.id = id
    · obtain ⟨x', hx', horigin⟩ := h.kept x hx
      have hrow : x' = r' := by
        apply Table.eq_of_key hx' hr' (k := ⟨1, [.text id]⟩)
        · simp [Keyed.keys, Attention.origin_id horigin, hid]
        · simp [Keyed.keys, hsame]
      left
      refine ⟨x, hx, hrow ▸ horigin, ?_, fun _ => .inl hxhandled⟩
      intro hopen
      cases h.back r' hr' with
      | inl hold =>
          obtain ⟨r, hr, horigin', hopen', -⟩ := hold
          have hxr : x = r := by
            apply Table.eq_of_key hx hr (k := ⟨1, [.text id]⟩)
            · simp [Keyed.keys, hid]
            · simp [Keyed.keys, ← Attention.origin_id horigin', hsame]
          exact hxr ▸ hopen' hopen
      | inr hnew =>
          have hbehind := hnew.2 x hx
          rw [← hrow, Attention.origin_sequence horigin] at hbehind
          omega
    · cases h.back r' hr' with
      | inl hold =>
          obtain ⟨r, hr, horigin, hopen, hhandling⟩ := hold
          left
          refine ⟨r, hr, horigin, hopen, ?_⟩
          intro hnow
          cases hhandling hnow with
          | inl hbefore => exact .inl hbefore
          | inr hclaimed => exact absurd (Option.some.inj hclaimed) hsame
      | inr hnew =>
          right
          refine ⟨fun hnow => absurd (Option.some.inj (hnew.1 hnow)) hsame, hnew.2⟩

/-- A decision whose Attention is exempt is one of an Attention with a lease. -/
theorem commits_decision {command : AttentionDecision} {principal : Principal}
    {context : PrincipalContext} {f : AttentionDecisionContext → K CommandResult}
    [Plain (requireAttentionDecisionContext kernel command principal context >>= f)]
    [hf : ∀ decision, Within (AttentionsMove (some command.attentionId)) (f decision)] :
    Commits (AttentionsMove none)
      (requireAttentionDecisionContext kernel command principal context >>= f) := by
  apply Commits.of_ok
  intro w result w' hrun
  have hmove : AttentionsMove (some command.attentionId) w w' := Within.of_eq hrun
  obtain ⟨decision, w₁, hdecision, -⟩ := bind_eq_ok.mp hrun
  exact hmove.of_handled (requireAttentionDecisionContext_handled kernel hdecision)

instance (command : KernelCommand) (context : PrincipalContext) (principal : Principal)
    (correlationId : String) :
    Commits (AttentionsMove command.claims)
      (dispatchCommand kernel command context principal correlationId) := by
  unfold dispatchCommand
  cases command with
  | StartThread => unfold startThread; infer_instance
  | ReplyToThread => unfold replyToThread; infer_instance
  | EditMessage => unfold editMessage; infer_instance
  | DeleteMessage => unfold deleteMessage; infer_instance
  | SendToRun => unfold sendToRun; infer_instance
  | PublishRunReply => unfold publishRunReply; infer_instance
  | CompleteRun => unfold completeRun publishFinalReply; infer_instance
  | ClaimAttention command =>
      show Commits (AttentionsMove (some command.attentionId))
        (claimAttention kernel command principal correlationId)
      infer_instance
  | ResolveAttentionWithRun command =>
      have : Plain (resolveAttentionWithRun kernel command principal context correlationId) :=
        inferInstance
      unfold resolveAttentionWithRun at this ⊢
      exact commits_decision kernel
  | IgnoreAttention command =>
      have : Plain (ignoreAttention kernel command principal context correlationId) :=
        inferInstance
      unfold ignoreAttention at this ⊢
      exact commits_decision kernel
  | ResolveAttentionWithExistingRun command =>
      have : Plain (resolveAttentionWithExistingRun kernel command principal context
          correlationId) := inferInstance
      unfold resolveAttentionWithExistingRun at this ⊢
      exact commits_decision kernel
  | _ => infer_instance

instance (correlationId : String) :
    Within (AttentionsMove claimed) (recordProjectionVersions correlationId) := by
  unfold recordProjectionVersions recordVersionsAt
  infer_instance

instance (command : KernelCommand) (result : CommandResult) (principal : Principal)
    (context : PrincipalContext) :
    Within (AttentionsMove claimed)
      (resolveCachedResult kernel command result principal context) := by
  unfold resolveCachedResult
  split <;> infer_instance

theorem step_attentionsMove (call : KernelCall) (w : World) :
    AttentionsMove call.claims w (step kernel call w) := by
  apply step_within kernel call w
  intro issued principal hissued _
  have hclaims : call.claims = issued.command.claims := by simp [KernelCall.claims, hissued]
  rw [hclaims]
  infer_instance

end Commands

/-! ## Order -/

theorem queryTransaction_eq_ok {α : Type} {m : K α} {a : α} {w w' : World}
    (h : queryTransaction m w = (.ok a, w')) : m w = (.ok a, w') := by
  unfold queryTransaction at h
  split at h
  · rename_i hrun
    rw [hrun]
    exact h
  · cases h

/-- In every Thread, an Agent's Attentions before a handled one are decided. -/
def AttentionsInOrder (db : Database) : Prop :=
  ∀ a ∈ db.table Attention, ∀ b ∈ db.table Attention, a.targetAgentId = b.targetAgentId →
    a.threadRootId = b.threadRootId → a.sequence < b.sequence → b.handled = true →
    a.status ≠ .Open

/-- No Open Attention of the Agent in the Thread comes before the place. -/
def NoneEarlier (db : Database) (targetAgentId threadRootId : String) (sequence : Nat) : Prop :=
  ∀ a ∈ db.table Attention, a.targetAgentId = targetAgentId → a.threadRootId = threadRootId →
    a.status = .Open → sequence ≤ a.sequence

section Order

variable {claimed : Option String} {w w' : World}

/-- Two rows with one origin have one domain. -/
theorem Attention.origin_domain {r r' : Attention} (h : r'.origin = r.origin) :
    r'.targetAgentId = r.targetAgentId ∧ r'.threadRootId = r.threadRootId :=
  ⟨(congrArg (fun a : Attention => a.targetAgentId) h :),
    (congrArg (fun a : Attention => a.threadRootId) h :)⟩

/-- Once nothing earlier is open, nothing earlier ever is. -/
theorem AttentionsMove.noneEarlier (h : AttentionsMove claimed w w') {r : Attention}
    (hr : r ∈ w.db.table Attention)
    (hnone : NoneEarlier w.db r.targetAgentId r.threadRootId r.sequence) :
    NoneEarlier w'.db r.targetAgentId r.threadRootId r.sequence := by
  intro a' ha' hagent hthread hopen
  cases h.back a' ha' with
  | inl hold =>
      obtain ⟨a, ha, horigin, hopen', -⟩ := hold
      obtain ⟨hagent', hthread'⟩ := Attention.origin_domain horigin
      rw [Attention.origin_sequence horigin]
      exact hnone a ha (hagent'.symm.trans hagent) (hthread'.symm.trans hthread) (hopen' hopen)
  | inr hnew => exact Nat.le_of_lt (hnew.2 r hr)

/-- A call keeps the order when nothing earlier than what it claims is open. -/
theorem AttentionsMove.inOrder (h : AttentionsMove claimed w w') (horder : AttentionsInOrder w.db)
    (hclaimed : ∀ id, claimed = some id → ∃ r ∈ w.db.table Attention, r.id = id ∧
      NoneEarlier w.db r.targetAgentId r.threadRootId r.sequence) :
    AttentionsInOrder w'.db := by
  intro a' ha' b' hb' hagent hthread hlt hhandled hopen
  have hexempt (hid : some b'.id = claimed) : False := by
    obtain ⟨r, hr, hrid, hnone⟩ := hclaimed b'.id hid.symm
    obtain ⟨r', hr', horigin⟩ := h.kept r hr
    have hrow : r' = b' := by
      apply Table.eq_of_key hr' hb' (k := ⟨1, [.text b'.id]⟩)
      · simp [Keyed.keys, Attention.origin_id horigin, hrid]
      · simp [Keyed.keys]
    rw [hrow] at horigin
    obtain ⟨hagent', hthread'⟩ := Attention.origin_domain horigin
    have hle := h.noneEarlier hr hnone a' ha' (hagent.trans hagent') (hthread.trans hthread') hopen
    rw [Attention.origin_sequence horigin] at hlt
    omega
  cases h.back b' hb' with
  | inr hnew => exact hexempt (hnew.1 hhandled)
  | inl hold =>
      obtain ⟨b, hb, horigin, -, hhandling⟩ := hold
      obtain ⟨hagentB, hthreadB⟩ := Attention.origin_domain horigin
      have hsequence := Attention.origin_sequence horigin
      cases hhandling hhandled with
      | inr hid => exact hexempt hid
      | inl hbefore =>
          cases h.back a' ha' with
          | inr hnew =>
              have hbehind := hnew.2 b hb
              omega
          | inl holdA =>
              obtain ⟨a, ha, horiginA, hopenA, -⟩ := holdA
              obtain ⟨hagentA, hthreadA⟩ := Attention.origin_domain horiginA
              have hsequenceA := Attention.origin_sequence horiginA
              refine horder a ha b hb ?_ ?_ ?_ hbefore (hopenA hopen)
              · rw [← hagentA, hagent, hagentB]
              · rw [← hthreadA, hthread, hthreadB]
              · omega

end Order

end Torsor.Kernel
