import Torsor.Kernel.PlainErrors

/-! # What a row was created with

Attentions, Messages and their revisions are never deleted, and the columns that say where
they come from are never assigned again. Principals and the causal limits stay as they were
when the database was opened.
-/

namespace Torsor.Kernel

open Torsor.Library Tx

/-- An Attention without what its claims and its decision assign. -/
def Attention.origin (r : Attention) : Attention :=
  { r with
    status := .Open
    revision := 0
    handlerLeaseHolderPrincipalId := none
    handlerLeaseToken := none
    handlerLeaseExpiresAt := none
    resolutionOutcome := none
    resolvedByPrincipalId := none
    resolvedActivationId := none
    resolvedRunId := none
    createdEventSequence := none
    resolvedAt := none }

/-- A Message without what its later revisions assign. -/
def Message.origin (r : Message) : Message :=
  { r with latestRevision := 0, createdEventSequence := none }

def MessageRevision.origin (r : MessageRevision) : MessageRevision :=
  { r with createdEventSequence := none }

/-- Rows are only added, and keep what they were created with. -/
structure Grows (w w' : World) : Prop where
  attentions : (w.db.table Attention).rows.map Attention.origin <+:
    (w'.db.table Attention).rows.map Attention.origin
  messages : (w.db.table Message).rows.map Message.origin <+:
    (w'.db.table Message).rows.map Message.origin
  revisions : (w.db.table MessageRevision).rows.map MessageRevision.origin <+:
    (w'.db.table MessageRevision).rows.map MessageRevision.origin
  principals : w'.db.table Principal = w.db.table Principal
  limits : w'.db.table CausalLimits = w.db.table CausalLimits

theorem Grows.refl (w : World) : Grows w w :=
  ⟨List.prefix_refl _, List.prefix_refl _, List.prefix_refl _, rfl, rfl⟩

instance : IsPreorder World Grows where
  refl := Grows.refl
  trans _ _ _ h h' :=
    ⟨h.attentions.trans h'.attentions, h.messages.trans h'.messages,
      h.revisions.trans h'.revisions, h'.principals.trans h.principals, h'.limits.trans h.limits⟩

instance : ConcernsTables Grows
    [.attentions, .messages, .messageRevisions, .principals, .causalLimits] where
  of_tables w w' htables _ _ _ := by
    have hattentions : w'.db.table Attention = w.db.table Attention := by
      simp only [Database.table, htables .attentions (by decide)]
    have hmessages : w'.db.table Message = w.db.table Message := by
      simp only [Database.table, htables .messages (by decide)]
    have hrevisions : w'.db.table MessageRevision = w.db.table MessageRevision := by
      simp only [Database.table, htables .messageRevisions (by decide)]
    refine ⟨?_, ?_, ?_, ?_, ?_⟩
    · exact hattentions ▸ List.prefix_refl _
    · exact hmessages ▸ List.prefix_refl _
    · exact hrevisions ▸ List.prefix_refl _
    · simp only [Database.table, htables .principals (by decide)]
    · simp only [Database.table, htables .causalLimits (by decide)]

/-! ## Rows of a later state -/

section Rows

variable {w w' : World}

theorem mem_of_views {ρ σ : Type} {v : ρ → σ} {rows rows' : List ρ}
    (h : rows.map v <+: rows'.map v) {r : ρ} (hr : r ∈ rows) : ∃ r' ∈ rows', v r' = v r := by
  have hmem : v r ∈ rows'.map v := h.subset (List.mem_map_of_mem hr)
  exact List.mem_map.mp hmem

theorem Grows.attention (h : Grows w w') {attention : Attention}
    (hmem : attention ∈ w.db.table Attention) :
    ∃ attention' ∈ w'.db.table Attention, attention'.origin = attention.origin :=
  mem_of_views h.attentions hmem

theorem Grows.message (h : Grows w w') {message : Message}
    (hmem : message ∈ w.db.table Message) :
    ∃ message' ∈ w'.db.table Message, message'.origin = message.origin :=
  mem_of_views h.messages hmem

theorem Grows.messageRevision (h : Grows w w') {revision : MessageRevision}
    (hmem : revision ∈ w.db.table MessageRevision) :
    ∃ revision' ∈ w'.db.table MessageRevision, revision'.origin = revision.origin :=
  mem_of_views h.revisions hmem

end Rows

/-! ## Statements -/

section Statements

set_option synthInstance.maxSize 400000

theorem grows_insertRow {ρ : Type} [Keyed ρ UniqueKey] {t : TableName} [Stored ρ t] {r : ρ}
    (h : ∀ w u, (w.db.table ρ).insert? r = some u → Grows w (w.store u)) :
    Within Grows (insertRow r) where
  step w := by
    obtain ⟨u, hu, hrun⟩ | hrun := insertRow_cases r w
    · rw [hrun]
      exact h w u hu
    · rw [hrun]
      exact Grows.refl w

instance (attention : Attention) : Within Grows (insertRow attention) := by
  apply grows_insertRow
  intro w t ht
  refine { Grows.refl w with attentions := ?_ }
  simp [Table.insert?_eq_some ht]

instance (message : Message) : Within Grows (insertRow message) := by
  apply grows_insertRow
  intro w t ht
  refine { Grows.refl w with messages := ?_ }
  simp [Table.insert?_eq_some ht]

instance (revision : MessageRevision) : Within Grows (insertRow revision) := by
  apply grows_insertRow
  intro w t ht
  refine { Grows.refl w with revisions := ?_ }
  simp [Table.insert?_eq_some ht]

theorem grows_updateAttentions {p : Attention → Bool} {f : Attention → Attention}
    {h : KeepsKeys f} (hf : ∀ r, (f r).origin = r.origin) : Within Grows (updateRows p f h) := by
  apply Within.updateRows
  intro w
  refine { Grows.refl w with attentions := ?_ }
  simp [Table.map_view_eq hf]

theorem grows_updateMessages {p : Message → Bool} {f : Message → Message} {h : KeepsKeys f}
    (hf : ∀ r, (f r).origin = r.origin) : Within Grows (updateRows p f h) := by
  apply Within.updateRows
  intro w
  refine { Grows.refl w with messages := ?_ }
  simp [Table.map_view_eq hf]

theorem grows_updateRevisions {p : MessageRevision → Bool}
    {f : MessageRevision → MessageRevision} {h : KeepsKeys f}
    (hf : ∀ r, (f r).origin = r.origin) : Within Grows (updateRows p f h) := by
  apply Within.updateRows
  intro w
  refine { Grows.refl w with revisions := ?_ }
  simp [Table.map_view_eq hf]

theorem grows_updateAttention {id : String} {f : Attention → Attention} {h : KeepsKeys f}
    (hf : ∀ r, (f r).origin = r.origin) : Within Grows (updateAttention id f h) := by
  have hupdate : Within Grows (updateRows (fun r : Attention => r.id = id) f h) :=
    grows_updateAttentions hf
  unfold updateAttention
  infer_instance

end Statements

/-! ## Commands -/

section Commands

set_option synthInstance.maxSize 400000

variable (kernel : KernelContext)

instance (site : MentionSite) (targetAgentId : String) :
    Within Grows (openAttention kernel site targetAgentId) := by
  have hcreated : ∀ (id : String) (eventSequence : Nat), Within Grows (updateRows
      (fun r : Attention => r.id = id)
      (fun r => { r with createdEventSequence := some eventSequence }) ⟨fun _ => rfl⟩) :=
    fun _ _ => grows_updateAttentions fun _ => rfl
  unfold openAttention
  infer_instance

instance (existing : AttentionDomainFence) (at' : Timestamp) :
    Within Grows (supersedeAttention existing at') := by
  have hsupersede : ∀ (id : String) (revision : Nat), Within Grows (updateAttention id
      (fun r => { r with
        revision
        handlerLeaseHolderPrincipalId := none
        handlerLeaseToken := none
        handlerLeaseExpiresAt := none }) ⟨fun _ => rfl⟩) :=
    fun _ _ => grows_updateAttention fun _ => rfl
  unfold supersedeAttention
  infer_instance

instance (command : ClaimAttentionCommand) (principal : Principal) (correlationId : String) :
    Within Grows (claimAttention kernel command principal correlationId) := by
  have hclaim : ∀ (id : String) (revision : Nat) (leaseToken : String) (expiresAt : Timestamp),
      Within Grows (updateAttention id
        (Attention.claim revision principal.id leaseToken expiresAt) ⟨fun _ => rfl⟩) :=
    fun _ _ _ _ => grows_updateAttention fun _ => rfl
  unfold claimAttention claimAttentionDomain takeOverAttentionDomain
  infer_instance

instance (attentionId : String) (outcome : AttentionOutcome) :
    Within Grows (decideAttention attentionId outcome) := by
  have hdecide : Within Grows
      (updateAttention attentionId (Attention.decide outcome) ⟨fun _ => rfl⟩) :=
    grows_updateAttention fun _ => rfl
  unfold decideAttention
  infer_instance

instance (input : NewRevision) : Within Grows (appendMessageRevision kernel input) := by
  have hlatest : Within Grows (updateRows (fun r : Message => r.id = input.message.id)
      (fun r => { r with latestRevision := input.revision }) ⟨fun _ => rfl⟩) :=
    grows_updateMessages fun _ => rfl
  unfold appendMessageRevision mentionAgent
  infer_instance

instance (correlationId : String) (eventSequence : Nat) :
    Within Grows (markImmutableComponents correlationId eventSequence) := by
  have hmessages : ∀ p : Message → Bool, Within Grows (updateRows p
      (fun r => { r with
        createdEventSequence := stamp eventSequence r.createdEventSequence }) ⟨fun _ => rfl⟩) :=
    fun p => grows_updateMessages fun _ => rfl
  have hrevisions : ∀ p : MessageRevision → Bool, Within Grows (updateRows p
      (fun r => { r with
        createdEventSequence := stamp eventSequence r.createdEventSequence }) ⟨fun _ => rfl⟩) :=
    fun p => grows_updateRevisions fun _ => rfl
  unfold markImmutableComponents
  infer_instance

instance (correlationId : String) : Within Grows (recordProjectionVersions correlationId) := by
  unfold recordProjectionVersions recordVersionsAt
  infer_instance

instance (input : NewMessage) : Within Grows (createMessage kernel input) := by
  unfold createMessage mentionAgent
  infer_instance

instance (command : KernelCommand) (context : PrincipalContext) (principal : Principal)
    (correlationId : String) :
    Within Grows (dispatchCommand kernel command context principal correlationId) := by
  unfold dispatchCommand
  cases command with
  | StartThread => unfold startThread; infer_instance
  | ReplyToThread => unfold replyToThread; infer_instance
  | EditMessage => unfold editMessage; infer_instance
  | DeleteMessage => unfold deleteMessage; infer_instance
  | SendToRun => unfold sendToRun; infer_instance
  | PublishRunReply => unfold publishRunReply; infer_instance
  | CompleteRun => unfold completeRun publishFinalReply; infer_instance
  | ResolveAttentionWithRun => unfold resolveAttentionWithRun; infer_instance
  | IgnoreAttention => unfold ignoreAttention; infer_instance
  | ResolveAttentionWithExistingRun => unfold resolveAttentionWithExistingRun; infer_instance
  | _ => infer_instance

instance (command : KernelCommand) (result : CommandResult) (principal : Principal)
    (context : PrincipalContext) :
    Within Grows (resolveCachedResult kernel command result principal context) := by
  unfold resolveCachedResult
  split <;> infer_instance

theorem step_grows (call : KernelCall) (w : World) : Grows w (step kernel call w) :=
  step_within kernel call w fun _ _ _ _ => inferInstance

end Commands

theorem Steps.grows {kernel : KernelContext} {w w' : World} (hs : Steps kernel w w') :
    Grows w w' :=
  hs.within fun w call => step_grows kernel call w

end Torsor.Kernel
