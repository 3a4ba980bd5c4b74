import Torsor.Kernel.RunMoves

/-! # Revisions of Messages, their mentions and the Attentions these open

A Message is revised by two paths, its creation and the appending of a revision. Seen through
the columns that never change, every command adds at most one revision, with the mentions and
the Attentions that go with it.
-/

namespace Torsor.Kernel
open Torsor.Library Tx

/-! ## What is looked at -/

structure MessageFace where
  id : String
  authorAgentId : Option String
  latestRevision : Nat

def Message.face (r : Message) : MessageFace := ⟨r.id, r.authorAgentId, r.latestRevision⟩

structure RevisionFace where
  id : String
  messageId : String
  revision : Nat
  tombstone : Bool

def MessageRevision.face (r : MessageRevision) : RevisionFace :=
  ⟨r.id, r.messageId, r.revision, r.tombstone⟩

structure MentionFace where
  messageRevisionId : String
  targetAgentId : String

def Mention.face (r : Mention) : MentionFace := ⟨r.messageRevisionId, r.targetAgentId⟩

/-- What an Attention was opened for. -/
structure Opening where
  messageRevisionId : String
  targetAgentId : String
  triggerKind : String

def Attention.opening (r : Attention) : Opening :=
  ⟨r.messageRevisionId, r.targetAgentId, r.triggerKind⟩

namespace Database

def messageFaces (db : Database) : List MessageFace := (db.table Message).rows.map Message.face

def revisionFaces (db : Database) : List RevisionFace :=
  (db.table MessageRevision).rows.map MessageRevision.face

def mentionFaces (db : Database) : List MentionFace := (db.table Mention).rows.map Mention.face

def openings (db : Database) : List Opening := (db.table Attention).rows.map Attention.opening

end Database

/-- No revision, no mention and no Attention has been added. -/
structure SameMessages (w w' : World) : Prop where
  messages : w'.db.messageFaces = w.db.messageFaces
  revisions : w'.db.revisionFaces = w.db.revisionFaces
  mentions : w'.db.mentionFaces = w.db.mentionFaces
  openings : w'.db.openings = w.db.openings

theorem SameMessages.refl (w : World) : SameMessages w w := ⟨rfl, rfl, rfl, rfl⟩

theorem SameMessages.tick (w : World) : SameMessages w w.tick := ⟨rfl, rfl, rfl, rfl⟩

instance : IsPreorder World SameMessages where
  refl := SameMessages.refl
  trans _ _ _ h h' := ⟨h'.messages.trans h.messages, h'.revisions.trans h.revisions,
    h'.mentions.trans h.mentions, h'.openings.trans h.openings⟩

section Tables

variable {db db' : Database}

theorem messageFaces_of_table (h : db'.table Message = db.table Message) :
    db'.messageFaces = db.messageFaces := by
  rw [Database.messageFaces, h, Database.messageFaces]

theorem revisionFaces_of_table (h : db'.table MessageRevision = db.table MessageRevision) :
    db'.revisionFaces = db.revisionFaces := by
  rw [Database.revisionFaces, h, Database.revisionFaces]

theorem mentionFaces_of_table (h : db'.table Mention = db.table Mention) :
    db'.mentionFaces = db.mentionFaces := by
  rw [Database.mentionFaces, h, Database.mentionFaces]

theorem openings_of_table (h : db'.table Attention = db.table Attention) :
    db'.openings = db.openings := by
  rw [Database.openings, h, Database.openings]

end Tables

instance : ConcernsTables SameMessages
    [.messages, .messageRevisions, .mentions, .attentions] where
  of_tables w w' htables _ _ _ := by
    refine ⟨messageFaces_of_table ?_, revisionFaces_of_table ?_, mentionFaces_of_table ?_,
      openings_of_table ?_⟩
    · simp only [Database.table, htables .messages (by decide)]
    · simp only [Database.table, htables .messageRevisions (by decide)]
    · simp only [Database.table, htables .mentions (by decide)]
    · simp only [Database.table, htables .attentions (by decide)]

/-! ## Statements -/

section Statements

set_option synthInstance.maxSize 400000

theorem sameMessages_updateMessages {p : Message → Bool} {f : Message → Message}
    {h : KeepsKeys f} (hf : ∀ r, (f r).face = r.face) :
    Within SameMessages (updateRows p f h) := by
  apply Within.updateRows
  intro w
  refine { SameMessages.refl w with messages := ?_ }
  simp [Database.messageFaces, Table.map_view_eq hf]

theorem sameMessages_updateRevisions {p : MessageRevision → Bool}
    {f : MessageRevision → MessageRevision} {h : KeepsKeys f} (hf : ∀ r, (f r).face = r.face) :
    Within SameMessages (updateRows p f h) := by
  apply Within.updateRows
  intro w
  refine { SameMessages.refl w with revisions := ?_ }
  simp [Database.revisionFaces, Table.map_view_eq hf]

theorem sameMessages_updateMentions {p : Mention → Bool} {f : Mention → Mention}
    {h : KeepsKeys f} (hf : ∀ r, (f r).face = r.face) :
    Within SameMessages (updateRows p f h) := by
  apply Within.updateRows
  intro w
  refine { SameMessages.refl w with mentions := ?_ }
  simp [Database.mentionFaces, Table.map_view_eq hf]

theorem sameMessages_updateAttentions {p : Attention → Bool} {f : Attention → Attention}
    {h : KeepsKeys f} (hf : ∀ r, (f r).opening = r.opening) :
    Within SameMessages (updateRows p f h) := by
  apply Within.updateRows
  intro w
  refine { SameMessages.refl w with openings := ?_ }
  simp [Database.openings, Table.map_view_eq hf]

theorem sameMessages_updateAttention {id : String} {f : Attention → Attention} {h : KeepsKeys f}
    (hf : ∀ r, (f r).opening = r.opening) : Within SameMessages (updateAttention id f h) := by
  have hupdate : Within SameMessages (updateRows (fun r : Attention => r.id = id) f h) :=
    sameMessages_updateAttentions hf
  unfold updateAttention
  infer_instance

end Statements

/-! ## Commands that add no revision -/

section Commands

set_option synthInstance.maxSize 400000

variable (kernel : KernelContext)

instance (existing : AttentionDomainFence) (at' : Timestamp) :
    Within SameMessages (supersedeAttention existing at') := by
  have hsupersede : ∀ (id : String) (revision : Nat), Within SameMessages (updateAttention id
      (fun r => { r with
        revision
        handlerLeaseHolderPrincipalId := none
        handlerLeaseToken := none
        handlerLeaseExpiresAt := none }) ⟨fun _ => rfl⟩) :=
    fun _ _ => sameMessages_updateAttention fun _ => rfl
  unfold supersedeAttention
  infer_instance

instance (command : ClaimAttentionCommand) (principal : Principal) (correlationId : String) :
    Within SameMessages (claimAttention kernel command principal correlationId) := by
  have hclaim : ∀ (id : String) (revision : Nat) (leaseToken : String) (expiresAt : Timestamp),
      Within SameMessages (updateAttention id
        (Attention.claim revision principal.id leaseToken expiresAt) ⟨fun _ => rfl⟩) :=
    fun _ _ _ _ => sameMessages_updateAttention fun _ => rfl
  unfold claimAttention claimAttentionDomain takeOverAttentionDomain
  infer_instance

instance (attentionId : String) (outcome : AttentionOutcome) :
    Within SameMessages (decideAttention attentionId outcome) := by
  have hdecide : Within SameMessages
      (updateAttention attentionId (Attention.decide outcome) ⟨fun _ => rfl⟩) :=
    sameMessages_updateAttention fun _ => rfl
  unfold decideAttention
  infer_instance

instance (correlationId : String) (eventSequence : Nat) :
    Within SameMessages (markImmutableComponents correlationId eventSequence) := by
  have hmessages : ∀ p : Message → Bool, Within SameMessages (updateRows p
      (fun r => { r with
        createdEventSequence := stamp eventSequence r.createdEventSequence }) ⟨fun _ => rfl⟩) :=
    fun p => sameMessages_updateMessages fun _ => rfl
  have hrevisions : ∀ p : MessageRevision → Bool, Within SameMessages (updateRows p
      (fun r => { r with
        createdEventSequence := stamp eventSequence r.createdEventSequence }) ⟨fun _ => rfl⟩) :=
    fun p => sameMessages_updateRevisions fun _ => rfl
  have hmentions : ∀ p : Mention → Bool, Within SameMessages (updateRows p
      (fun r => { r with
        createdEventSequence := stamp eventSequence r.createdEventSequence }) ⟨fun _ => rfl⟩) :=
    fun p => sameMessages_updateMentions fun _ => rfl
  unfold markImmutableComponents
  infer_instance

instance (correlationId : String) :
    Within SameMessages (recordProjectionVersions correlationId) := by
  unfold recordProjectionVersions recordVersionsAt
  infer_instance

/-- The commands that may add a revision of a Message. -/
def KernelCommand.revises : KernelCommand → Bool
  | .StartThread _ | .ReplyToThread _ | .SendToRun _ | .PublishRunReply _ | .CompleteRun _
  | .EditMessage _ | .DeleteMessage _ => true
  | _ => false

theorem dispatchCommand_sameMessages {command : KernelCommand} (h : command.revises = false)
    (context : PrincipalContext) (principal : Principal) (correlationId : String) :
    Within SameMessages (dispatchCommand kernel command context principal correlationId) := by
  unfold dispatchCommand
  cases command with
  | StartThread => cases h
  | ReplyToThread => cases h
  | SendToRun => cases h
  | PublishRunReply => cases h
  | CompleteRun => cases h
  | EditMessage => cases h
  | DeleteMessage => cases h
  | ResolveAttentionWithRun => unfold resolveAttentionWithRun; infer_instance
  | IgnoreAttention => unfold ignoreAttention; infer_instance
  | ResolveAttentionWithExistingRun => unfold resolveAttentionWithExistingRun; infer_instance
  | _ => infer_instance

instance (command : KernelCommand) (result : CommandResult) (principal : Principal)
    (context : PrincipalContext) :
    Within SameMessages (resolveCachedResult kernel command result principal context) := by
  unfold resolveCachedResult
  split <;> infer_instance

end Commands

/-! ## Adding a revision -/

/-- What is added with a revision: a mention of every target, and an Attention for those
whose Attention is opened. -/
structure RevisionAdded (db db' : Database) (revision : RevisionFace) (targets : List String)
    (opens : String → Bool) : Prop where
  fresh : ∀ r ∈ db.revisionFaces, r.id ≠ revision.id
  revisions : db'.revisionFaces = db.revisionFaces ++ [revision]
  mentions : db'.mentionFaces =
    db.mentionFaces ++ targets.map fun target => ⟨revision.id, target⟩
  openings : db'.openings =
    db.openings ++ (targets.filter opens).map fun target => ⟨revision.id, target, "Mention"⟩

section Mentions

set_option synthInstance.maxSize 400000

variable {kernel : KernelContext} {w w' : World} {u : Unit}

theorem openAttention_eq_ok {site : MentionSite} {target : String}
    (h : openAttention kernel site target w = (.ok u, w')) :
    w'.db.messageFaces = w.db.messageFaces ∧ w'.db.revisionFaces = w.db.revisionFaces ∧
      w'.db.mentionFaces = w.db.mentionFaces ∧
      w'.db.openings = w.db.openings ++ [⟨site.messageRevisionId, target, "Mention"⟩] := by
  simp only [openAttention, bind_eq_ok, newId_eq_ok, selectTable_eq_ok, insertRow_eq_ok] at h
  obtain ⟨id, _, ⟨-, rfl⟩, _, _, ⟨rfl, rfl⟩, _, _, ⟨t, ht, rfl⟩, createdEventSequence, w₁, hemit,
    _, w₂, hstamp, hrecord⟩ := h
  have hcreated : Within SameMessages (updateRows (fun r : Attention => r.id = id)
      (fun r => { r with createdEventSequence := some createdEventSequence }) ⟨fun _ => rfl⟩) :=
    sameMessages_updateAttentions fun _ => rfl
  obtain ⟨hmessages, hrevisions, hmentions, hopenings⟩ : SameMessages _ w' :=
    trans_of SameMessages (Within.of_eq hemit)
      (trans_of SameMessages (Within.of_eq hstamp) (Within.of_eq hrecord))
  refine ⟨?_, ?_, ?_, ?_⟩
  · rw [hmessages]
    exact messageFaces_of_table (by simp [World.store, Database.table_set_apart])
  · rw [hrevisions]
    exact revisionFaces_of_table (by simp [World.store, Database.table_set_apart])
  · rw [hmentions]
    exact mentionFaces_of_table (by simp [World.store, Database.table_set_apart])
  · rw [hopenings]
    simp [World.store, Database.openings, Database.table_set_same, Table.insert?_eq_some ht,
      Attention.opening]

theorem mentionAgent_eq_ok {site : MentionSite} {suppressed : String → Bool} {target : String}
    (h : mentionAgent kernel site suppressed target w = (.ok u, w')) :
    w'.db.messageFaces = w.db.messageFaces ∧ w'.db.revisionFaces = w.db.revisionFaces ∧
      w'.db.mentionFaces = w.db.mentionFaces ++ [⟨site.messageRevisionId, target⟩] ∧
      w'.db.openings = w.db.openings ++
        if suppressed target then [] else [⟨site.messageRevisionId, target, "Mention"⟩] := by
  simp only [mentionAgent, requireAgent, bind_eq_ok, requireRow_eq_ok, throwIf_eq_ok,
    newId_eq_ok, insertRow_eq_ok] at h
  obtain ⟨agent, _, ⟨-, rfl⟩, _, _, ⟨-, rfl⟩, id, _, ⟨-, rfl⟩, _, _, ⟨t, ht, rfl⟩, hend⟩ := h
  have hmentions : ((w.issue.store t).db).mentionFaces =
      w.db.mentionFaces ++ [⟨site.messageRevisionId, target⟩] := by
    simp [World.store, Database.mentionFaces, Database.table_set_same, Table.insert?_eq_some ht,
      Mention.face]
  have hmessages : ((w.issue.store t).db).messageFaces = w.db.messageFaces :=
    messageFaces_of_table (by simp [World.store, Database.table_set_apart])
  have hrevisions : ((w.issue.store t).db).revisionFaces = w.db.revisionFaces :=
    revisionFaces_of_table (by simp [World.store, Database.table_set_apart])
  have hopenings : ((w.issue.store t).db).openings = w.db.openings :=
    openings_of_table (by simp [World.store, Database.table_set_apart])
  split at hend
  · rename_i hsuppressed
    obtain ⟨-, rfl⟩ := pure_eq_ok.mp hend
    exact ⟨hmessages, hrevisions, hmentions, by rw [hopenings, if_pos hsuppressed, List.append_nil]⟩
  · rename_i hopens
    obtain ⟨hm, hr, hn, ho⟩ := openAttention_eq_ok hend
    exact ⟨hm.trans hmessages, hr.trans hrevisions, hn.trans hmentions,
      by rw [ho, hopenings, if_neg hopens]⟩

theorem mentionAgents_eq_ok {site : MentionSite} {suppressed : String → Bool}
    {targets : List String}
    (h : forEach targets (mentionAgent kernel site suppressed) w = (.ok u, w')) :
    w'.db.messageFaces = w.db.messageFaces ∧ w'.db.revisionFaces = w.db.revisionFaces ∧
      w'.db.mentionFaces =
        w.db.mentionFaces ++ targets.map (fun target => ⟨site.messageRevisionId, target⟩) ∧
      w'.db.openings = w.db.openings ++ (targets.filter fun target => !suppressed target).map
        (fun target => ⟨site.messageRevisionId, target, "Mention"⟩) := by
  induction targets generalizing w with
  | nil =>
      obtain ⟨-, rfl⟩ := pure_eq_ok.mp h
      simp
  | cons target rest ih =>
      obtain ⟨_, w₁, hfirst, hrest⟩ := bind_eq_ok.mp h
      obtain ⟨hm, hr, hn, ho⟩ := mentionAgent_eq_ok hfirst
      obtain ⟨hm', hr', hn', ho'⟩ := ih hrest
      refine ⟨hm'.trans hm, hr'.trans hr, ?_, ?_⟩
      · rw [hn', hn, List.append_assoc]
        rfl
      · rw [ho', ho, List.append_assoc]
        cases hsuppressed : suppressed target with
        | true => simp [hsuppressed]
        | false => simp [hsuppressed]

end Mentions

/-! ## Moves -/

/-- The Agents a command asks to mention. -/
def KernelCommand.mentionTargets : KernelCommand → List String
  | .StartThread command => command.targetAgentIds.getD []
  | .ReplyToThread command => command.targetAgentIds.getD []
  | .SendToRun command => command.targetAgentIds.getD []
  | .PublishRunReply command => command.targetAgentIds.getD []
  | .CompleteRun command => command.finalReply.elim [] fun reply => reply.targetAgentIds.getD []
  | .EditMessage command => command.targetAgentIds.getD []
  | _ => []

/-- The owner of the Run a command sends a Message to. -/
def KernelCommand.ownerSentTo (db : Database) : KernelCommand → Option String
  | .SendToRun command =>
      ((db.table Run).find? fun r => r.id = command.runId).map (·.ownerAgentId)
  | _ => none

/-- A Message is published with its first revision. -/
structure Publishes (db db' : Database) (message : MessageFace) (revisionId : String)
    (targets : List String) (opens : String → Bool) : Prop where
  fresh : ∀ m ∈ db.messageFaces, m.id ≠ message.id
  latest : message.latestRevision = 1
  messages : db'.messageFaces = db.messageFaces ++ [message]
  added : RevisionAdded db db' ⟨revisionId, message.id, 1, false⟩ targets opens

/-- A Message gets the revision after its latest one, which is not a tombstone. -/
structure Revises (db db' : Database) (message : MessageFace) (latest revision : RevisionFace)
    (targets : List String) : Prop where
  message_mem : message ∈ db.messageFaces
  latest_mem : latest ∈ db.revisionFaces
  latest_of : latest.messageId = message.id
  latest_eq : latest.revision = message.latestRevision
  live : latest.tombstone = false
  of : revision.messageId = message.id
  next : revision.revision = message.latestRevision + 1
  messages : db'.messageFaces = db.messageFaces.map fun m =>
    if m.id = message.id then { m with latestRevision := message.latestRevision + 1 } else m
  added : RevisionAdded db db' revision targets fun _ => true

/-- What a command does to the revisions of Messages. -/
inductive MessageMove (command : KernelCommand) (db db' : Database) : Prop where
  | published {message : MessageFace} {revisionId : String}
      (h : Publishes db db' message revisionId (unique command.mentionTargets) fun target =>
        !(some target = message.authorAgentId || some target = command.ownerSentTo db))
  | revised {message : MessageFace} {latest revision : RevisionFace} {targets : List String}
      (htargets : targets.Perm (unique command.mentionTargets))
      (hsent : command.ownerSentTo db = none)
      (h : Revises db db' message latest revision targets)
  | quiet (hmessages : db'.messageFaces = db.messageFaces)
      (hrevisions : db'.revisionFaces = db.revisionFaces)
      (hmentions : db'.mentionFaces = db.mentionFaces) (hopenings : db'.openings = db.openings)

section Moves

set_option synthInstance.maxSize 400000

variable {kernel : KernelContext} {principal : Principal} {context : PrincipalContext}
  {correlationId : String} {w w' w₁ w₂ : World} {result : CommandResult}

theorem RevisionAdded.of_same {revision : RevisionFace} {targets : List String}
    {opens : String → Bool} (hbefore : SameMessages w w₁)
    (h : RevisionAdded w₁.db w₂.db revision targets opens) (hafter : SameMessages w₂ w') :
    RevisionAdded w.db w'.db revision targets opens where
  fresh := by
    rw [← hbefore.revisions]
    exact h.fresh
  revisions := by rw [hafter.revisions, h.revisions, hbefore.revisions]
  mentions := by rw [hafter.mentions, h.mentions, hbefore.mentions]
  openings := by rw [hafter.openings, h.openings, hbefore.openings]

theorem Publishes.of_same {message : MessageFace} {revisionId : String} {targets : List String}
    {opens : String → Bool} (hbefore : SameMessages w w₁)
    (h : Publishes w₁.db w₂.db message revisionId targets opens) (hafter : SameMessages w₂ w') :
    Publishes w.db w'.db message revisionId targets opens where
  fresh := by
    rw [← hbefore.messages]
    exact h.fresh
  latest := h.latest
  messages := by rw [hafter.messages, h.messages, hbefore.messages]
  added := h.added.of_same hbefore hafter

theorem Revises.of_same {message : MessageFace} {latest revision : RevisionFace}
    {targets : List String} (hbefore : SameMessages w w₁)
    (h : Revises w₁.db w₂.db message latest revision targets) (hafter : SameMessages w₂ w') :
    Revises w.db w'.db message latest revision targets :=
  { h with
    message_mem := hbefore.messages ▸ h.message_mem
    latest_mem := hbefore.revisions ▸ h.latest_mem
    messages := by rw [hafter.messages, h.messages, hbefore.messages]
    added := h.added.of_same hbefore hafter }

theorem createMessage_publishes {input : NewMessage} {created : CreatedMessage}
    (h : createMessage kernel input w = (.ok created, w')) :
    ∃ message revisionId, message.authorAgentId = input.authorAgentId ∧
      Publishes w.db w'.db message revisionId (unique (input.targetAgentIds.getD []))
        fun target => !(some target = input.authorAgentId ||
          input.suppressedAttentionAgentIds.contains target) := by
  simp only [createMessage, bind_eq_ok, newId_eq_ok, now_eq_ok, insertRow_eq_ok,
    pure_eq_ok] at h
  obtain ⟨_, w₁, hbody, _, w₂, hchannel, messageId, _, ⟨-, rfl⟩, revisionId, _, ⟨-, rfl⟩, now, _,
    ⟨-, rfl⟩, _, w₃, hthread, previous, w₄, hcursor, _, _, ⟨t, ht, rfl⟩, _, _, ⟨v, hv, rfl⟩, _, w₅,
    hmentions, cursor, w₆, hemit, _, w₇, henqueue, -, rfl⟩ := h
  have hstart : SameMessages w w₂ := trans_of SameMessages (Within.of_eq hbody)
    (Within.of_eq hchannel)
  have hprepared : SameMessages w₂.issue.issue.tick w₄ :=
    trans_of SameMessages (Within.of_eq hthread) (Within.of_eq hcursor)
  have hissued : SameMessages w₂ w₂.issue.issue.tick := ⟨rfl, rfl, rfl, rfl⟩
  have hbefore : SameMessages w w₄ := trans_of _ (trans_of _ hstart hissued) hprepared
  have hafter : SameMessages w₅ w₇ := trans_of SameMessages (Within.of_eq hemit)
    (Within.of_eq henqueue)
  obtain ⟨hm, hr, hn, ho⟩ := mentionAgents_eq_ok hmentions
  simp only [World.store_db, Database.table_set_apart] at hv
  refine ⟨⟨messageId, input.authorAgentId, 1⟩, revisionId, rfl, .of_same hbefore ?_ hafter⟩
  refine ⟨fun m hm' => ?_, rfl, ?_, fun r hr' => ?_, ?_, ?_, ?_⟩
  · obtain ⟨x, hx, rfl⟩ := List.mem_map.mp hm'
    intro hid
    have hid : x.id = messageId := hid
    exact Table.not_mem_keys_of_insert? ht hx (k := primaryKey [.text x.id])
      (by simp [Keyed.keys]) (by simp [Keyed.keys, hid])
  · rw [hm]
    simp [World.store, Database.messageFaces, Database.table_set_apart, Database.table_set_same,
      Table.insert?_eq_some ht, Message.face]
  · obtain ⟨x, hx, rfl⟩ := List.mem_map.mp hr'
    intro hid
    have hid : x.id = revisionId := hid
    exact Table.not_mem_keys_of_insert? hv hx (k := primaryKey [.text x.id])
      (by simp [Keyed.keys]) (by simp [Keyed.keys, hid])
  · rw [hr]
    simp [World.store, Database.revisionFaces, Database.table_set_same,
      Table.insert?_eq_some hv, MessageRevision.face]
  · rw [hn, @mentionFaces_of_table w₄.db _
      (by simp [World.store, Database.table_set_apart])]
  · rw [ho, @openings_of_table w₄.db _ (by simp [World.store, Database.table_set_apart])]

theorem appendMessageRevision_revises {input : NewRevision} {revisionId : String}
    {latest : MessageRevision} (hmessage : input.message ∈ w.db.table Message)
    (hlatest : latest ∈ w.db.table MessageRevision) (hof : latest.messageId = input.message.id)
    (heq : latest.revision = input.message.latestRevision) (hlive : latest.tombstone = false)
    (hnext : input.revision = input.message.latestRevision + 1)
    (h : appendMessageRevision kernel input w = (.ok revisionId, w')) :
    Revises w.db w'.db input.message.face latest.face
      ⟨revisionId, input.message.id, input.revision, input.tombstone⟩ input.targetAgentIds := by
  simp only [appendMessageRevision, bind_eq_ok, newId_eq_ok, now_eq_ok, insertRow_eq_ok,
    updateRows_eq_ok, pure_eq_ok] at h
  obtain ⟨id, _, ⟨-, rfl⟩, now, _, ⟨-, rfl⟩, _, _, ⟨t, ht, rfl⟩, _, _, rfl, _, w₁, hmentions, rfl,
    rfl⟩ := h
  obtain ⟨hm, hr, hn, ho⟩ := mentionAgents_eq_ok hmentions
  refine ⟨List.mem_map_of_mem hmessage, List.mem_map_of_mem hlatest, hof, heq, hlive, rfl, hnext,
    ?_, fun r hr' => ?_, ?_, ?_, ?_⟩
  · have hnext : input.message.face.latestRevision + 1 = input.revision := hnext.symm
    rw [hm, hnext]
    simp only [Database.messageFaces, World.store_db, World.tick_db, World.issue_db,
      Database.table_set_same, Database.table_set_apart]
    refine Table.map_view_update (g := fun m : MessageFace => if m.id = input.message.face.id then
      { m with latestRevision := input.revision } else m) fun r => ?_
    by_cases hid : r.id = input.message.id
    · simp [hid, Message.face]
    · simp [hid, Message.face]
  · obtain ⟨x, hx, rfl⟩ := List.mem_map.mp hr'
    intro hid
    have hid : x.id = id := hid
    exact Table.not_mem_keys_of_insert? ht hx (k := primaryKey [.text x.id])
      (by simp [Keyed.keys]) (by simp [Keyed.keys, hid])
  · rw [hr]
    simp [World.store, Database.revisionFaces, Database.table_set_apart, Database.table_set_same,
      Table.insert?_eq_some ht, MessageRevision.face]
  · rw [hn, @mentionFaces_of_table w.db _ (by simp [World.store, Database.table_set_apart])]
  · rw [ho, @openings_of_table w.db _ (by simp [World.store, Database.table_set_apart])]
    simp

theorem MessageMove.publish {command : KernelCommand} {input : NewMessage}
    {created : CreatedMessage} (hbefore : SameMessages w w₁)
    (h : createMessage kernel input w₁ = (.ok created, w₂)) (hafter : SameMessages w₂ w')
    (htargets : input.targetAgentIds.getD [] = command.mentionTargets)
    (hsuppressed : ∀ target, input.suppressedAttentionAgentIds.contains target =
      decide (some target = command.ownerSentTo w.db)) : MessageMove command w.db w'.db := by
  obtain ⟨message, revisionId, hauthor, hpublishes⟩ := createMessage_publishes h
  have hmove := hpublishes.of_same hbefore hafter
  simp only [htargets, hsuppressed, ← hauthor] at hmove
  exact .published hmove

theorem MessageMove.revise {command : KernelCommand} {input : NewRevision}
    {latest : MessageRevision} {revisionId : String}
    (hmessage : input.message ∈ w.db.table Message)
    (hlatest : latest ∈ w.db.table MessageRevision) (hof : latest.messageId = input.message.id)
    (heq : latest.revision = input.message.latestRevision) (hlive : latest.tombstone = false)
    (hnext : input.revision = input.message.latestRevision + 1)
    (htargets : input.targetAgentIds.Perm (unique command.mentionTargets))
    (hsent : command.ownerSentTo w.db = none)
    (h : appendMessageRevision kernel input w = (.ok revisionId, w₁))
    (hafter : SameMessages w₁ w') : MessageMove command w.db w'.db := by
  have hrevises := appendMessageRevision_revises hmessage hlatest hof heq hlive hnext h
  exact .revised htargets hsent (hrevises.of_same (SameMessages.refl w) hafter)

theorem startThread_moves {command : StartThreadCommand}
    (h : startThread kernel command principal correlationId w = (.ok result, w')) :
    MessageMove (.StartThread command) w.db w'.db := by
  simp only [startThread, bind_eq_ok, requireKind_eq_ok, pure_eq_ok] at h
  obtain ⟨_, _, ⟨-, rfl⟩, _, w₁, hchannel, created, w₂, hcreate, -, rfl⟩ := h
  refine .publish (Within.of_eq hchannel) hcreate (SameMessages.refl w₂) rfl fun target => ?_
  simp [KernelCommand.ownerSentTo]

theorem replyToThread_moves {command : ReplyToThreadCommand}
    (h : replyToThread kernel command principal context correlationId w = (.ok result, w')) :
    MessageMove (.ReplyToThread command) w.db w'.db := by
  simp only [replyToThread, bind_eq_ok, requireKind_eq_ok, pure_eq_ok] at h
  obtain ⟨_, _, ⟨-, rfl⟩, thread, w₁, hthread, _, w₂, hcursor, created, w₃, hcreate, -, rfl⟩ := h
  have hbefore : SameMessages w w₂ := trans_of SameMessages (Within.of_eq hthread)
    (Within.of_eq hcursor)
  refine .publish hbefore hcreate (SameMessages.refl w₃) rfl fun target => ?_
  simp [KernelCommand.ownerSentTo]

/-- The Attention of the owner of the Run is suppressed. -/
theorem sendToRun_moves {command : SendToRunCommand}
    (h : sendToRun kernel command principal correlationId w = (.ok result, w')) :
    MessageMove (.SendToRun command) w.db w'.db := by
  simp only [sendToRun, bind_eq_ok, requireKind_eq_ok, throwIf_eq_ok, now_eq_ok, pure_eq_ok] at h
  obtain ⟨_, _, ⟨-, rfl⟩, _, _, ⟨-, rfl⟩, run, _, hrun, created, w₁, hcreate, position, w₂, hinput,
    updatedAt, _, ⟨-, rfl⟩, _, w₃, hupdate, _, w₄, hemit, _, w₅, hwake, cursor, w₆, hcursor, -,
    rfl⟩ := h
  obtain ⟨hfound, -, -, rfl⟩ := requireMutableRun_eq_ok hrun
  have hafter : SameMessages w₁ w₆ := trans_of SameMessages (Within.of_eq hinput)
    (trans_of SameMessages (SameMessages.tick w₂) (trans_of SameMessages (Within.of_eq hupdate)
      (trans_of SameMessages (Within.of_eq hemit) (trans_of SameMessages (Within.of_eq hwake)
        (Within.of_eq hcursor)))))
  refine .publish (SameMessages.refl w) hcreate hafter rfl fun target => ?_
  simp [KernelCommand.ownerSentTo, hfound]

theorem publishRunReply_moves {command : PublishRunReplyCommand}
    (h : publishRunReply kernel command principal context correlationId w = (.ok result, w')) :
    MessageMove (.PublishRunReply command) w.db w'.db := by
  simp only [publishRunReply, bind_eq_ok, pure_eq_ok] at h
  obtain ⟨run, w₁, hrun, activation, w₂, hactivation, thread, w₃, hthread, _, w₄, hcursor, created,
    w₅, hcreate, -, rfl⟩ := h
  have hbefore : SameMessages w w₄ := trans_of SameMessages (Within.of_eq hrun)
    (trans_of SameMessages (Within.of_eq hactivation) (trans_of SameMessages
      (Within.of_eq hthread) (Within.of_eq hcursor)))
  refine .publish hbefore hcreate (SameMessages.refl w₅) rfl fun target => ?_
  simp [KernelCommand.ownerSentTo, runMessage]

/-- A Run that completes may publish a final reply. -/
theorem completeRun_moves {command : CompleteRunCommand}
    (h : completeRun kernel command principal context correlationId w = (.ok result, w')) :
    MessageMove (.CompleteRun command) w.db w'.db := by
  simp only [completeRun, bind_eq_ok, now_eq_ok, pure_eq_ok] at h
  obtain ⟨run, w₁, hrun, activation, w₂, hactivation, _, w₃, hdispose, finalMessageId, w₄, hreply,
    now, _, ⟨-, rfl⟩, _, w₅, hupdate, revokedAt, _, ⟨-, rfl⟩, _, w₆, hrevoke, capacity, w₇,
    hcapacity, cursor, w₈, hemit, _, w₉, henqueue, -, rfl⟩ := h
  have hbefore : SameMessages w w₃ := trans_of SameMessages (Within.of_eq hrun)
    (trans_of SameMessages (Within.of_eq hactivation) (Within.of_eq hdispose))
  have hupdated : SameMessages w₄ w₅ := trans_of SameMessages (SameMessages.tick w₄)
    (Within.of_eq hupdate)
  have hrevoked : SameMessages w₅ w₆ := trans_of SameMessages (SameMessages.tick w₅)
    (Within.of_eq hrevoke)
  have hafter : SameMessages w₄ w₉ := trans_of SameMessages hupdated (trans_of SameMessages
    hrevoked (trans_of SameMessages (Within.of_eq hcapacity) (trans_of SameMessages
      (Within.of_eq hemit) (Within.of_eq henqueue))))
  unfold publishFinalReply at hreply
  cases hfinal : command.finalReply with
  | none =>
      rw [hfinal] at hreply
      obtain ⟨-, rfl⟩ := pure_eq_ok.mp hreply
      obtain ⟨hmessages, hrevisions, hmentions, hopenings⟩ := trans_of SameMessages hbefore hafter
      exact .quiet hmessages hrevisions hmentions hopenings
  | some finalReply =>
      rw [hfinal] at hreply
      simp only [Option.elim_some, bind_eq_ok, pure_eq_ok] at hreply
      obtain ⟨thread, w₁₀, hthread, _, w₁₁, hcursor, created, _, hcreate, -, rfl⟩ := hreply
      have hstart : SameMessages w w₁₁ := trans_of _ hbefore (trans_of SameMessages
        (Within.of_eq hthread) (Within.of_eq hcursor))
      refine .publish hstart hcreate hafter ?_ fun target => ?_
      · simp [KernelCommand.mentionTargets, hfinal, runMessage]
      · simp [KernelCommand.ownerSentTo, runMessage]

theorem validateTargetAgentIds_eq_ok {targetAgentIds : Option (List String)}
    {targets : List String}
    (h : validateTargetAgentIds targetAgentIds w = (.ok targets, w')) :
    targets.Perm (unique (targetAgentIds.getD [])) ∧ w = w' := by
  simp only [validateTargetAgentIds, bind_eq_ok, throwIf_eq_ok, pure_eq_ok] at h
  obtain ⟨_, _, ⟨-, rfl⟩, rfl, rfl⟩ := h
  exact ⟨orderBy_perm _ _, rfl⟩

theorem latestMessageRevision_eq_ok {message : Message} {latest : MessageRevision}
    (h : latestMessageRevision message w = (.ok latest, w')) :
    latest ∈ w.db.table MessageRevision ∧ latest.messageId = message.id ∧
      latest.revision = message.latestRevision ∧ w = w' := by
  obtain ⟨hfound, rfl⟩ := requireRow_eq_ok.mp h
  obtain ⟨hmem, hkey⟩ := Table.find?_eq_some hfound
  simp only [Bool.and_eq_true, decide_eq_true_eq] at hkey
  exact ⟨hmem, hkey.1, hkey.2, rfl⟩

theorem editMessage_moves {command : EditMessageCommand}
    (h : editMessage kernel command principal correlationId w = (.ok result, w')) :
    MessageMove (.EditMessage command) w.db w'.db := by
  simp only [editMessage, requireMessage, bind_eq_ok, requireKind_eq_ok, requireRow_eq_ok,
    checkRevision_eq_ok, throwIf_eq_ok] at h
  obtain ⟨_, _, ⟨-, rfl⟩, _, w₁, hexpected, message, _, ⟨hfound, rfl⟩, _, w₂, hauthor, latest, w₃,
    hlatest, _, _, ⟨-, rfl⟩, _, _, ⟨hlive, rfl⟩, _, w₄, hbody, targets, _, htargets, revisionId, w₅,
    happend, hpublish⟩ := h
  have hread : SameDatabase w w₁ := Within.of_eq hexpected
  have hread' : SameDatabase w₁ w₂ := Within.of_eq hauthor
  have hread'' : SameDatabase w₃ w₄ := Within.of_eq hbody
  obtain ⟨hlatestMem, hof, heq, rfl⟩ := latestMessageRevision_eq_ok hlatest
  obtain ⟨hperm, rfl⟩ := validateTargetAgentIds_eq_ok htargets
  have hdb : w₂.db = w.db := hread'.trans hread
  have hdb' : w₄.db = w.db := hread''.trans hdb
  have hmessage : message ∈ w₄.db.table Message := by
    rw [hdb', ← hread]
    exact (Table.find?_eq_some hfound).1
  rw [← hdb']
  refine .revise hmessage ?_ hof heq (Bool.eq_false_iff.mpr hlive) rfl hperm rfl happend
    (Within.of_eq hpublish)
  rw [hread'']
  exact hlatestMem

theorem deleteMessage_moves {command : DeleteMessageCommand}
    (h : deleteMessage kernel command principal correlationId w = (.ok result, w')) :
    MessageMove (.DeleteMessage command) w.db w'.db := by
  simp only [deleteMessage, requireMessage, bind_eq_ok, requireKind_eq_ok, requireRow_eq_ok,
    checkRevision_eq_ok, throwIf_eq_ok] at h
  obtain ⟨_, _, ⟨-, rfl⟩, _, w₁, hexpected, message, _, ⟨hfound, rfl⟩, _, w₂, hauthor, latest, w₃,
    hlatest, _, _, ⟨-, rfl⟩, _, _, ⟨hlive, rfl⟩, revisionId, w₄, happend, hpublish⟩ := h
  have hread : SameDatabase w w₁ := Within.of_eq hexpected
  have hread' : SameDatabase w₁ w₂ := Within.of_eq hauthor
  obtain ⟨hlatestMem, hof, heq, rfl⟩ := latestMessageRevision_eq_ok hlatest
  have hdb : w₂.db = w.db := hread'.trans hread
  have hmessage : message ∈ w₂.db.table Message := by
    rw [hdb, ← hread]
    exact (Table.find?_eq_some hfound).1
  rw [← hdb]
  exact .revise hmessage hlatestMem hof heq (Bool.eq_false_iff.mpr hlive) rfl (List.Perm.refl _)
    rfl happend (Within.of_eq hpublish)

theorem dispatchCommand_revises {command : KernelCommand} (hrevises : command.revises = true)
    (h : dispatchCommand kernel command context principal correlationId w = (.ok result, w')) :
    MessageMove command w.db w'.db := by
  cases command with
  | StartThread => exact startThread_moves h
  | ReplyToThread => exact replyToThread_moves h
  | SendToRun => exact sendToRun_moves h
  | PublishRunReply => exact publishRunReply_moves h
  | CompleteRun => exact completeRun_moves h
  | EditMessage => exact editMessage_moves h
  | DeleteMessage => exact deleteMessage_moves h
  | _ => cases hrevises

theorem KernelCommand.revises_apart {command : KernelCommand} (h : command.revises = true) :
    command.aboutWorktrees = false := by
  cases command <;> first | rfl | cases h

theorem KernelCommand.ownerSentTo_of_runs {command : KernelCommand} {db db' : Database}
    (h : db'.table Run = db.table Run) : command.ownerSentTo db' = command.ownerSentTo db := by
  cases command <;> simp [ownerSentTo, h]

theorem MessageMove.of_same {command : KernelCommand} (hbefore : SameMessages w w₁)
    (hmove : MessageMove command w₁.db w₂.db) (hrun : w₁.db.table Run = w.db.table Run)
    (hafter : SameMessages w₂ w') : MessageMove command w.db w'.db := by
  have hsent := @KernelCommand.ownerSentTo_of_runs command _ _ hrun
  cases hmove with
  | published h =>
      rw [hsent] at h
      exact .published (h.of_same hbefore hafter)
  | revised htargets hnone h =>
      rw [hsent] at hnone
      exact .revised htargets hnone (h.of_same hbefore hafter)
  | quiet hmessages hrevisions hmentions hopenings =>
      have hsame : SameMessages w₁ w₂ := ⟨hmessages, hrevisions, hmentions, hopenings⟩
      have hall := trans_of SameMessages hbefore (trans_of SameMessages hsame hafter)
      exact .quiet hall.messages hall.revisions hall.mentions hall.openings

/-- A call adds no revision, or executes a command that adds one at most. -/
theorem step_messages (kernel : KernelContext) (call : KernelCall) (w : World) :
    SameMessages w (step kernel call w) ∨
      ∃ issued, call.issued = some issued ∧
        MessageMove issued.command w.db (step kernel call w).db := by
  by_cases hrevises : ∃ issued, call.issued = some issued ∧ issued.command.revises = true
  · obtain ⟨⟨command, context, operationContext⟩, hissued, hrevises⟩ := hrevises
    have hplain := dispatchCommand_plain kernel (KernelCommand.revises_apart hrevises)
    obtain hsame | ⟨principal, correlationId, dispatched, w₁, w₂, -, hbefore, htables, hdispatch,
      hafter⟩ := step_outcome kernel SameMessages hissued w
    · exact .inl hsame
    · exact .inr ⟨_, hissued, .of_same hbefore (dispatchCommand_revises hrevises hdispatch)
        (htables.table_eq Run (by decide)) hafter⟩
  · refine .inl (step_within kernel call w fun issued principal hissued _ => ?_)
    have hquiet : issued.command.revises = false :=
      Bool.eq_false_iff.mpr fun h => hrevises ⟨issued, hissued, h⟩
    have hdispatch := dispatchCommand_sameMessages kernel hquiet
    infer_instance

end Moves

end Torsor.Kernel
