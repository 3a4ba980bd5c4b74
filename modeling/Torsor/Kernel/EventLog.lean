import Torsor.Kernel.PlainErrors
import Torsor.Kernel.RunMoves
import Torsor.Library.LogReader

/-! # The log of public events

Events are only appended, each after all that are there, and who may see one never changes:
an event of an artifact is emitted with the artifact, whose columns are never assigned
again, and neither are the columns that place its Run.
-/

namespace Torsor.Kernel

open Torsor.Library Tx

/-! ## Reading -/

structure AuthorizedPublicEventPage where
  events : List PublicEventEnvelope
  scannedThroughEventId : Option String
  hasMore : Bool

/-- The first `limit + 1` events of the Project after a sequence. -/
def publicEventRows (db : Database) (projectId : String) (afterEventSequence limit : Nat) :
    List PublicEvent :=
  (orderBy PublicEvent.sequence ((db.table PublicEvent).filter fun r =>
    r.projectId = projectId && afterEventSequence < r.sequence)).take (limit + 1)

def readAuthorizedPublicEvents (db : Database) (projectId : String)
    (afterEventId : Option String) (afterEventSequence limit : Nat)
    (scope : PrincipalReadScope) : AuthorizedPublicEventPage :=
  let rows := publicEventRows db projectId afterEventSequence limit
  let scannedRows := rows.take limit
  { events := (filterVisiblePublicEvents db scannedRows scope).map mapPublicEvent
    scannedThroughEventId := (scannedRows.getLast?.map (·.eventId)).or afterEventId
    hasMore := limit < rows.length }

structure PublicEventsQuery where
  projectId : String
  afterEventId : Option String := none
  limit : Option Int := none

/-- The sequence a page of events starts after. -/
def afterEventSequence (projectId : String) (afterEventId : Option String) : K Nat :=
  if truthy afterEventId then projectEventSequence projectId (afterEventId.getD "") else pure 0

def queryPublicEvents (kernel : KernelContext) (query : PublicEventsQuery)
    (context : PrincipalContext) : K AuthorizedPublicEventPage :=
  queryTransaction do
    let principal ← requirePrincipal context.principalId
    let scope ← resolvePrincipalReadScope kernel principal context query.projectId
    let sequence ← afterEventSequence query.projectId query.afterEventId
    let limit ← boundedLimit query.limit
    gets fun w =>
      readAuthorizedPublicEvents w.db query.projectId query.afterEventId sequence limit scope

/-! ## Growth -/

/-- An Artifact without the sequence it is stamped with. -/
def Artifact.origin (r : Artifact) : Artifact := { r with createdEventSequence := none }

/-- The columns that say where a Run takes place. -/
def Run.place (r : Run) : String × String × String × String :=
  (r.id, r.projectId, r.homeChannelId, r.threadRootId)

/-- Who sees the event is told by an artifact. -/
def PublicEvent.ofArtifact (event : PublicEvent) : Bool :=
  event.entityType = .Artifact || event.type = .ArtifactPublished

/-- The artifact is there, and so is the Run that produced it. -/
def Described (db : Database) (artifactId : String) : Prop :=
  ∃ artifact ∈ db.table Artifact, artifact.id = artifactId ∧
    ∃ run ∈ db.table Run, run.id = artifact.producerRunId

/-- What is appended to the log comes after what was there, and in order. -/
structure Appends (db db' : Database) (new : List PublicEvent) : Prop where
  rows : (db'.table PublicEvent).rows = (db.table PublicEvent).rows ++ new
  later : ∀ e ∈ (db.table PublicEvent).rows, ∀ n ∈ new, e.sequence < n.sequence
  ordered : new.Pairwise fun a b => a.sequence < b.sequence
  issued : ∀ n ∈ new, 0 < n.sequence ∧ n.eventId ≠ ""
  described : ∀ n ∈ new, n.ofArtifact = true → Described db' n.entityId

/-- The log grows at its end, and what decides who sees its events stays. -/
structure LogGrows (w w' : World) : Prop where
  events : ∃ new, Appends w.db w'.db new
  artifacts : (w.db.table Artifact).rows.map Artifact.origin <+:
    (w'.db.table Artifact).rows.map Artifact.origin
  runs : (w.db.table Run).rows.map Run.place <+: (w'.db.table Run).rows.map Run.place
  channels : w'.db.table Channel = w.db.table Channel

section Rows

variable {w w' : World}

theorem mem_of_prefix {ρ σ : Type} {v : ρ → σ} {rows rows' : List ρ}
    (h : rows.map v <+: rows'.map v) {r : ρ} (hr : r ∈ rows) : ∃ r' ∈ rows', v r' = v r :=
  List.mem_map.mp (h.subset (List.mem_map_of_mem hr))

theorem LogGrows.artifact (h : LogGrows w w') {artifact : Artifact}
    (hmem : artifact ∈ w.db.table Artifact) :
    ∃ artifact' ∈ w'.db.table Artifact, artifact'.origin = artifact.origin :=
  mem_of_prefix h.artifacts hmem

theorem LogGrows.run (h : LogGrows w w') {run : Run} (hmem : run ∈ w.db.table Run) :
    ∃ run' ∈ w'.db.table Run, run'.place = run.place :=
  mem_of_prefix h.runs hmem

theorem LogGrows.described (h : LogGrows w w') {artifactId : String}
    (hd : Described w.db artifactId) : Described w'.db artifactId := by
  obtain ⟨artifact, hartifact, hid, run, hrun, hrunId⟩ := hd
  obtain ⟨artifact', hartifact', horigin⟩ := h.artifact hartifact
  obtain ⟨run', hrun', hplace⟩ := h.run hrun
  have hsame : artifact'.origin.id = artifact.origin.id := congrArg Artifact.id horigin
  have hproducer : artifact'.origin.producerRunId = artifact.origin.producerRunId :=
    congrArg Artifact.producerRunId horigin
  have hrunSame : run'.place.1 = run.place.1 := congrArg Prod.fst hplace
  exact ⟨artifact', hartifact', hsame.trans hid, run', hrun',
    hrunSame.trans (hrunId.trans hproducer.symm)⟩

end Rows

theorem Appends.nothing {db db' : Database}
    (h : db'.table PublicEvent = db.table PublicEvent) : Appends db db' [] where
  rows := by rw [h, List.append_nil]
  later _ _ _ hn := nomatch hn
  ordered := List.Pairwise.nil
  issued _ hn := nomatch hn
  described _ hn := nomatch hn

theorem LogGrows.refl (w : World) : LogGrows w w where
  events := ⟨[], .nothing rfl⟩
  artifacts := List.prefix_refl _
  runs := List.prefix_refl _
  channels := rfl

instance : IsPreorder World LogGrows where
  refl := LogGrows.refl
  trans w w' w'' h h' := by
    refine ⟨?_, h.artifacts.trans h'.artifacts, h.runs.trans h'.runs,
      h'.channels.trans h.channels⟩
    obtain ⟨new, hnew, hlater, hordered, hissued, hdescribed⟩ := h.events
    obtain ⟨new', hnew', hlater', hordered', hissued', hdescribed'⟩ := h'.events
    rw [hnew] at hlater'
    refine ⟨new ++ new', ⟨?_, ?_, ?_, ?_, ?_⟩⟩
    · rw [hnew', hnew, List.append_assoc]
    · intro e he n hn
      cases List.mem_append.mp hn with
      | inl hfirst => exact hlater e he n hfirst
      | inr hsecond => exact hlater' e (List.mem_append_left _ he) n hsecond
    · apply List.pairwise_append.mpr
      exact ⟨hordered, hordered', fun a ha b hb => hlater' a (List.mem_append_right _ ha) b hb⟩
    · intro n hn
      exact (List.mem_append.mp hn).elim (hissued n) (hissued' n)
    · intro n hn hartifact
      cases List.mem_append.mp hn with
      | inl hfirst => exact h'.described (hdescribed n hfirst hartifact)
      | inr hsecond => exact hdescribed' n hsecond hartifact

instance : ConcernsTables LogGrows [.publicEvents, .artifacts, .runs, .channels] where
  of_tables w w' htables _ _ _ := by
    have hevents : w'.db.table PublicEvent = w.db.table PublicEvent := by
      simp only [Database.table, htables .publicEvents (by decide)]
    have hartifacts : w'.db.table Artifact = w.db.table Artifact := by
      simp only [Database.table, htables .artifacts (by decide)]
    have hruns : w'.db.table Run = w.db.table Run := by
      simp only [Database.table, htables .runs (by decide)]
    refine ⟨⟨[], .nothing hevents⟩, ?_, ?_, ?_⟩
    · rw [hartifacts]
    · rw [hruns]
    · simp only [Database.table, htables .channels (by decide)]

/-! ## Statements -/

section Statements

set_option synthInstance.maxSize 400000

theorem logGrows_insertRow {ρ : Type} [Keyed ρ UniqueKey] {t : TableName} [Stored ρ t] {r : ρ}
    (h : ∀ w u, (w.db.table ρ).insert? r = some u → LogGrows w (w.store u)) :
    Within LogGrows (insertRow r) where
  step w := by
    obtain ⟨u, hu, hrun⟩ | hrun := insertRow_cases r w
    · rw [hrun]
      exact h w u hu
    · rw [hrun]
      exact LogGrows.refl w

instance (artifact : Artifact) : Within LogGrows (insertRow artifact) := by
  apply logGrows_insertRow
  intro w t ht
  refine ⟨⟨[], .nothing rfl⟩, ?_, List.prefix_refl _, rfl⟩
  simp [Table.insert?_eq_some ht]

instance (run : Run) : Within LogGrows (insertRow run) := by
  apply logGrows_insertRow
  intro w t ht
  refine ⟨⟨[], .nothing rfl⟩, List.prefix_refl _, ?_, rfl⟩
  simp [Table.insert?_eq_some ht]

/-- The two rows are of one Run in one place. -/
class SamePlace (r r' : Run) : Prop where
  place : r'.place = r.place

instance (r : Run) (ownerAgentId : String) (agentConfigRevision : Nat) (causalRootId : String)
    (parentAttentionId : String) (parentRunId : Option String) (delegationDepth : Nat)
    (state : RunState) (revision activationGeneration nextInputSequence : Nat)
    (nextActivitySequence : Nat) (createdEventSequence : Option Nat)
    (createdAt updatedAt : Timestamp) (terminalReason : Option String) :
    SamePlace r
      ⟨r.id, r.projectId, r.homeChannelId, r.threadRootId, ownerAgentId, agentConfigRevision,
        causalRootId, parentAttentionId, parentRunId, delegationDepth, state, revision,
        activationGeneration, nextInputSequence, nextActivitySequence, createdEventSequence,
        createdAt, updatedAt, terminalReason⟩ := ⟨rfl⟩

instance (p : Run → Bool) (f : Run → Run) (h : KeepsKeys f) [hf : ∀ r, SamePlace r (f r)] :
    Within LogGrows (updateRows p f h) := by
  apply Within.updateRows
  intro w
  have hsame : ∀ r, (f r).place = r.place := fun r => (hf r).place
  refine ⟨⟨[], .nothing rfl⟩, List.prefix_refl _, ?_, rfl⟩
  simp [Table.map_view_eq hsame]

theorem logGrows_updateArtifacts {p : Artifact → Bool} {f : Artifact → Artifact}
    {h : KeepsKeys f} (hf : ∀ r, (f r).origin = r.origin) :
    Within LogGrows (updateRows p f h) := by
  apply Within.updateRows
  intro w
  refine ⟨⟨[], .nothing rfl⟩, ?_, List.prefix_refl _, rfl⟩
  simp [Table.map_view_eq hf]

end Statements

/-! ## Events -/

section Events

set_option synthInstance.maxSize 400000

/-- The event, if it is one of an artifact, comes after its artifact. -/
def EventInput.InPlace (event : EventInput) (db : Database) : Prop :=
  event.entityType = .Artifact ∨ event.type = .ArtifactPublished → Described db event.entityId

theorem logGrows_emitEvent {kernel : KernelContext} {event : EventInput} {w : World}
    (hplace : event.InPlace w.db) : LogGrows w (emitEvent kernel event w).2 := by
  unfold emitEvent
  rw [bind_of_ok (newId_eq_ok.mpr ⟨rfl, rfl⟩), bind_of_ok (now_eq_ok.mpr ⟨rfl, rfl⟩),
    bind_of_ok (selectTable_eq_ok.mpr ⟨rfl, rfl⟩)]
  obtain ⟨row, hrow⟩ : ∃ row : PublicEvent, row =
      { sequence := nextSequence PublicEvent.sequence (w.issue.tick.db.table PublicEvent).rows
        eventId := kernel.idFactory "event" w.issuedIds
        occurredAt := kernel.clock w.issue.clockReadings
        type := event.type
        projectId := event.projectId
        channelId := event.channelId
        threadRootId := event.threadRootId
        threadCursor := event.threadCursor
        entityType := event.entityType
        entityId := event.entityId
        actorPrincipalId := event.actorPrincipalId
        activationId := event.activationId
        causationId := event.causationId
        correlationId := event.correlationId
        payload := event.payload } := ⟨_, rfl⟩
  have hsequence : row.sequence =
      nextSequence PublicEvent.sequence (w.db.table PublicEvent).rows := by
    rw [hrow]
    rfl
  have hkind : row.ofArtifact = true → Described w.db row.entityId := by
    intro hartifact
    rw [hrow] at hartifact ⊢
    exact hplace (by simpa [PublicEvent.ofArtifact] using hartifact)
  rw [← hrow]
  obtain ⟨u, hu, hrun⟩ | hrefused := insertRow_cases row w.issue.tick
  · rw [bind_of_ok hrun]
    refine ⟨⟨[row], ⟨?_, ?_, ?_, ?_, ?_⟩⟩, List.prefix_refl _, List.prefix_refl _, rfl⟩
    · show ((w.issue.tick.store u).db.table PublicEvent).rows = _
      rw [World.store_db, Database.table_set_same]
      exact Table.insert?_eq_some hu
    · intro e he n hn
      rw [List.mem_singleton.mp hn, hsequence]
      exact lt_nextSequence he
    · exact List.pairwise_singleton _ _
    · intro n hn
      rw [List.mem_singleton.mp hn, hsequence]
      exact ⟨Nat.succ_pos _, by rw [hrow]; exact kernel.idFactory_ne_empty _ _⟩
    · intro n hn hartifact
      rw [List.mem_singleton.mp hn] at hartifact ⊢
      exact hkind hartifact
  · rw [bind_of_error hrefused]
    exact ⟨⟨[], .nothing rfl⟩, List.prefix_refl _, List.prefix_refl _, rfl⟩

/-- No artifact tells who sees an event of this type. -/
class OtherType (type : EventType) : Prop where
  ne : type ≠ .ArtifactPublished

instance : OtherType .MessagePublished := ⟨by decide⟩
instance : OtherType .MessageEdited := ⟨by decide⟩
instance : OtherType .MessageDeleted := ⟨by decide⟩
instance : OtherType .AttentionOpened := ⟨by decide⟩
instance : OtherType .AttentionClaimed := ⟨by decide⟩
instance : OtherType .AttentionHandlerLeaseSuperseded := ⟨by decide⟩
instance : OtherType .AttentionResolved := ⟨by decide⟩
instance : OtherType .AttentionIgnored := ⟨by decide⟩
instance : OtherType .RunCreated := ⟨by decide⟩
instance : OtherType .RunInputAdded := ⟨by decide⟩
instance : OtherType .RunInputWithdrawn := ⟨by decide⟩
instance : OtherType .RunActivated := ⟨by decide⟩
instance : OtherType .RunWaiting := ⟨by decide⟩
instance : OtherType .RunCompleted := ⟨by decide⟩
instance : OtherType .RunConfigAdopted := ⟨by decide⟩
instance : OtherType .AgentConfigUpdated := ⟨by decide⟩
instance : OtherType .ActivationStarted := ⟨by decide⟩
instance : OtherType .ActivationFinished := ⟨by decide⟩
instance : OtherType .ProviderAttemptStarted := ⟨by decide⟩
instance : OtherType .ProviderAttemptAcknowledged := ⟨by decide⟩
instance : OtherType .ProviderAttemptFinished := ⟨by decide⟩
instance : OtherType .RunActivityAppended := ⟨by decide⟩
instance : OtherType .LateOutputRecorded := ⟨by decide⟩
instance (termination : Termination) : OtherType termination.event :=
  ⟨by cases termination <;> decide⟩
instance (p : Prop) [Decidable p] (type type' : EventType) [h : OtherType type]
    [h' : OtherType type'] : OtherType (if p then type else type') :=
  ⟨by split <;> [exact h.ne; exact h'.ne]⟩

/-- Entities that are no artifacts. -/
class OtherEntity (entityType : EntityType) : Prop where
  ne : entityType ≠ .Artifact

instance : OtherEntity .Message := ⟨by decide⟩
instance : OtherEntity .Attention := ⟨by decide⟩
instance : OtherEntity .Run := ⟨by decide⟩
instance : OtherEntity .RunInput := ⟨by decide⟩
instance : OtherEntity .ActivationAttempt := ⟨by decide⟩
instance : OtherEntity .ProviderAttempt := ⟨by decide⟩
instance : OtherEntity .RunActivityEvent := ⟨by decide⟩
instance : OtherEntity .Agent := ⟨by decide⟩

/-- The event is not one of an artifact. -/
class EventInput.Other (event : EventInput) : Prop where
  entity : event.entityType ≠ .Artifact
  type : event.type ≠ .ArtifactPublished

instance (type : EventType) (projectId : String) (channelId threadRootId : Option String)
    (threadCursor : Option Nat) (entityType : EntityType) (entityId actorPrincipalId : String)
    (activationId causationId : Option String) (correlationId : String) (payload : Json)
    [htype : OtherType type] [hentity : OtherEntity entityType] :
    EventInput.Other
      { type, projectId, channelId, threadRootId, threadCursor, entityType, entityId,
        actorPrincipalId, activationId, causationId, correlationId, payload } :=
  ⟨hentity.ne, htype.ne⟩

theorem EventInput.Other.inPlace {event : EventInput} (h : event.Other) (db : Database) :
    event.InPlace db :=
  fun hartifact => hartifact.elim (absurd · h.entity) (absurd · h.type)

variable (kernel : KernelContext)

instance (event : EventInput) [h : event.Other] : Within LogGrows (emitEvent kernel event) :=
  ⟨fun w => logGrows_emitEvent (h.inPlace w.db)⟩

instance (threadRootId : String) (event : EventInput) [h : event.Other] :
    Within LogGrows (emitThreadEvent kernel threadRootId event) := by
  have hevent : ∀ cursor : Nat, EventInput.Other
      { event with threadRootId := some threadRootId, threadCursor := some cursor } :=
    fun _ => ⟨h.entity, h.type⟩
  unfold emitThreadEvent
  infer_instance

theorem logGrows_emitThreadEvent {threadRootId : String} {event : EventInput} {cursor : Nat}
    {w w' : World} (hplace : event.InPlace w.db)
    (h : emitThreadEvent kernel threadRootId event w = (.ok cursor, w')) : LogGrows w w' := by
  simp only [emitThreadEvent, bind_eq_ok, pure_eq_ok] at h
  obtain ⟨previous, w₁, hprevious, u, w₂, hupdate, sequence, w₃, hemit, -, rfl⟩ := h
  have hbefore : LogGrows w w₁ := Within.of_eq hprevious
  have hmoved : LogGrows w₁ w₂ := Within.of_eq hupdate
  have hsame := trans_of LogGrows hbefore hmoved
  have hafter : LogGrows w₂ (emitEvent kernel { event with
      threadRootId := some threadRootId
      threadCursor := some (previous + 1) } w₂).2 :=
    logGrows_emitEvent fun hartifact => hsame.described (hplace hartifact)
  rw [hemit] at hafter
  exact trans_of LogGrows hsame hafter

end Events

/-! ## Commands -/

section Commands

set_option synthInstance.maxSize 400000

variable (kernel : KernelContext)

instance (correlationId : String) (eventSequence : Nat) :
    Within LogGrows (markImmutableComponents correlationId eventSequence) := by
  have hartifacts : ∀ p : Artifact → Bool, Within LogGrows (updateRows p
      (fun r => { r with
        createdEventSequence := stamp eventSequence r.createdEventSequence }) ⟨fun _ => rfl⟩) :=
    fun p => logGrows_updateArtifacts fun _ => rfl
  unfold markImmutableComponents
  infer_instance

instance (correlationId : String) :
    Within LogGrows (recordProjectionVersions correlationId) := by
  unfold recordProjectionVersions recordVersionsAt recordAffectedRun
  infer_instance

instance (site : MentionSite) (targetAgentId : String) :
    Within LogGrows (openAttention kernel site targetAgentId) := by
  unfold openAttention
  infer_instance

instance (input : NewRevision) : Within LogGrows (appendMessageRevision kernel input) := by
  unfold appendMessageRevision mentionAgent
  infer_instance

instance (input : NewMessage) : Within LogGrows (createMessage kernel input) := by
  unfold createMessage mentionAgent
  infer_instance

instance (run : Run) (messageRevisionId principalId : String)
    (activationId sourceAttentionId : Option String) :
    Within LogGrows
      (createRunInput kernel run messageRevisionId principalId activationId sourceAttentionId) := by
  unfold createRunInput
  infer_instance

instance (run : Run) (termination : Termination) (reason : String) (principal : Principal)
    (activationId : Option String) (correlationId : String) (commandType : CommandType) :
    Within LogGrows (terminateRun kernel run termination reason principal activationId
      correlationId commandType) := by
  unfold terminateRun
  infer_instance

instance (runId activationId : String) (providerAttemptId : Option String) (kind : String)
    (payload : Json) (retentionClass : RetentionClass) :
    Within LogGrows
      (insertActivity kernel runId activationId providerAttemptId kind payload retentionClass) := by
  unfold insertActivity
  infer_instance

/-- An artifact is published with its Run there, and its event follows it. -/
instance (command : PublishArtifactCommand) (principal : Principal) (context : PrincipalContext)
    (correlationId : String) :
    Commits LogGrows (publishArtifact kernel command principal context correlationId) :=
  Commits.of_ok fun w result w' h => by
    unfold publishArtifact at h
    simp only [bind_eq_ok, newId_eq_ok, now_eq_ok, insertRow_eq_ok, pure_eq_ok] at h
    obtain ⟨run, w₁, hrun, activation, w₂, hauthorize, artifactId, w₃, ⟨-, rfl⟩, createdAt, w₄,
      ⟨-, rfl⟩, u, w₅, ⟨t, ht, rfl⟩, cursor, w₆, hemit, u', w₇, henqueue, -, rfl⟩ := h
    obtain ⟨hfound, -, -, rfl⟩ := requireMutableRun_eq_ok hrun
    have hbefore : LogGrows w w₂ := Within.of_eq hauthorize
    have hruns : SameTables [.runs] w w₂ := Within.of_eq hauthorize
    have hinserted : LogGrows w₂ (w₂.issue.tick.store t) := by
      refine ⟨⟨[], .nothing rfl⟩, ?_, List.prefix_refl _, rfl⟩
      have hrows := Table.insert?_eq_some ht
      simp only [World.store_db, Database.table_set_same, hrows]
      exact ⟨_, (List.map_append).symm⟩
    have hafter : LogGrows w₆ w₇ := Within.of_eq henqueue
    have hemitted : LogGrows (w₂.issue.tick.store t) w₆ := by
      apply logGrows_emitThreadEvent kernel ?_ hemit
      intro _
      have hmem := (Table.mem_insert? ht).mpr (.inr rfl)
      obtain ⟨hrunMem, hrunId⟩ := Table.find?_eq_some hfound
      rw [← hruns.table_eq Run (by decide)] at hrunMem
      exact ⟨_, by simpa using hmem, rfl, run, by simpa using hrunMem, by simpa using hrunId⟩
    exact trans_of LogGrows hbefore
      (trans_of LogGrows hinserted (trans_of LogGrows hemitted hafter))

instance (command : KernelCommand) (context : PrincipalContext) (principal : Principal)
    (correlationId : String) :
    Commits LogGrows (dispatchCommand kernel command context principal correlationId) := by
  unfold dispatchCommand
  cases command with
  | StartThread => unfold startThread; infer_instance
  | ReplyToThread => unfold replyToThread; infer_instance
  | EditMessage => unfold editMessage publishRevision; infer_instance
  | DeleteMessage => unfold deleteMessage publishRevision; infer_instance
  | UpdateAgentConfig => unfold updateAgentConfig; infer_instance
  | AdoptRunConfig => unfold adoptRunConfig; infer_instance
  | SendToRun => unfold sendToRun; infer_instance
  | CancelRun => unfold cancelRun; infer_instance
  | WithdrawRunInput => unfold withdrawRunInput; infer_instance
  | ClaimAttention => unfold claimAttention recordSupersededAttention; infer_instance
  | ResolveAttentionWithRun =>
      unfold resolveAttentionWithRun recordAttentionDecision
      infer_instance
  | IgnoreAttention => unfold ignoreAttention recordAttentionDecision; infer_instance
  | ResolveAttentionWithExistingRun =>
      unfold resolveAttentionWithExistingRun recordAttentionDecision
      infer_instance
  | StartActivation =>
      unfold startActivation startRunActivation startAttentionActivation activateRun
        createActivation
      infer_instance
  | FinishActivation => unfold finishActivation; infer_instance
  | StartProviderAttempt => unfold startProviderAttempt; infer_instance
  | FinishProviderAttempt =>
      unfold finishProviderAttempt setProviderAttemptStatus
      infer_instance
  | FailProviderAttempt => unfold failProviderAttempt setProviderAttemptStatus; infer_instance
  | ParkRunAfterProviderAttemptFailure =>
      unfold parkRunAfterProviderAttemptFailure
      infer_instance
  | AppendRunActivity => unfold appendRunActivity; infer_instance
  | PublishRunReply => unfold publishRunReply; infer_instance
  | CompleteRun => unfold completeRun publishFinalReply; infer_instance
  | WaitRun => unfold waitRun; infer_instance
  | FailRun => unfold failRun; infer_instance
  | RecordLateOutput => unfold recordLateOutput; infer_instance
  | _ => infer_instance

instance (command : KernelCommand) (result : CommandResult) (principal : Principal)
    (context : PrincipalContext) :
    Within LogGrows (resolveCachedResult kernel command result principal context) := by
  unfold resolveCachedResult
  split <;> infer_instance

theorem step_logGrows (call : KernelCall) (w : World) : LogGrows w (step kernel call w) :=
  step_within kernel call w fun _ _ _ _ => inferInstance

end Commands

/-! ## Who sees an event -/

/-- The condition `filterVisiblePublicEvents` keeps an event under. -/
def PublicEvent.visibleIn (db : Database) (scope : PrincipalReadScope) (row : PublicEvent) :
    Bool :=
  row.projectId = scope.projectId &&
    scope.channelId.all (fun channelId => row.channelId = some channelId) &&
    scope.threadRootId.all (fun threadRootId => row.threadRootId = some threadRootId) &&
    if row.ofArtifact then
      (visibleArtifactRows db (some scope) { id := some row.entityId }).length = 1
    else true

theorem filterVisiblePublicEvents_eq (db : Database) (rows : List PublicEvent)
    (scope : PrincipalReadScope) :
    filterVisiblePublicEvents db rows scope = rows.filter (PublicEvent.visibleIn db scope) := by
  unfold filterVisiblePublicEvents
  congr 1

section Visibility

variable {w w' : World} {scope : PrincipalReadScope} {artifactId : String}

/-- An artifact with this identifier, and its Run, satisfy the clauses of the scope. -/
def ShowsArtifact (db : Database) (scope : PrincipalReadScope) (artifactId : String) : Prop :=
  ∃ artifact ∈ db.table Artifact, artifact.id = artifactId ∧ ∃ run ∈ db.table Run,
    run.id = artifact.producerRunId ∧
      artifactVisible db (some scope) { id := some artifactId } artifact run = true

/-- Of an identifier there is at most one artifact. -/
theorem visibleArtifactRows_length (db : Database) :
    (visibleArtifactRows db (some scope) { id := some artifactId }).length = 1 ↔
      ShowsArtifact db scope artifactId := by
  have hlength : ∀ p : Artifact → Bool,
      (orderByPair (fun artifact : Artifact => (artifact.createdAt, artifact.id))
        ((db.table Artifact).filter p)).length = ((db.table Artifact).filter p).length :=
    fun p => (orderByPair_perm _ _).length_eq
  unfold visibleArtifactRows ShowsArtifact
  rw [hlength]
  constructor
  · intro hone
    obtain ⟨artifact, hartifact⟩ := List.length_eq_one_iff.mp hone
    have hmem : artifact ∈ (db.table Artifact).filter fun artifact =>
        (db.table Run).rows.any fun run => run.id = artifact.producerRunId &&
          artifactVisible db (some scope) { id := some artifactId } artifact run := by
      rw [hartifact]
      exact List.mem_singleton_self artifact
    obtain ⟨hin, hshown⟩ := Table.mem_filter.mp hmem
    obtain ⟨run, hrun, hvisible⟩ := List.any_eq_true.mp hshown
    simp only [Bool.and_eq_true, decide_eq_true_eq] at hvisible
    have hid : artifact.id = artifactId := by
      have hclauses := hvisible.2
      simp only [artifactVisible, Bool.and_eq_true, Option.all_some, decide_eq_true_eq]
        at hclauses
      exact hclauses.1.1.1.2
    exact ⟨artifact, hin, hid, run, hrun, hvisible⟩
  · rintro ⟨artifact, hartifact, hid, run, hrun, hrunId, hvisible⟩
    rw [Table.filter_of_mem hartifact ?_ ?_]
    · rfl
    · apply List.any_eq_true.mpr
      exact ⟨run, hrun, by simp [hrunId, hvisible]⟩
    · intro other hother
      obtain ⟨otherRun, -, hshown⟩ := List.any_eq_true.mp hother
      simp only [artifactVisible, Bool.and_eq_true, Option.all_some, decide_eq_true_eq] at hshown
      have hsame : other.id = artifact.id := by rw [hid]; exact hshown.2.1.1.1.2
      exact ⟨primaryKey [.text artifact.id], by simp [Keyed.keys, hsame], by simp [Keyed.keys]⟩

theorem artifactVisible_congr {db db' : Database} {artifact artifact' : Artifact} {run run' : Run}
    (hchannels : db'.table Channel = db.table Channel) (hartifact : artifact'.origin = artifact.origin)
    (hrun : run'.place = run.place) :
    artifactVisible db' (some scope) { id := some artifactId } artifact' run' =
      artifactVisible db (some scope) { id := some artifactId } artifact run := by
  have hid : artifact'.origin.id = artifact.origin.id := congrArg Artifact.id hartifact
  have hproducer : artifact'.origin.producerRunId = artifact.origin.producerRunId :=
    congrArg Artifact.producerRunId hartifact
  have hthread : artifact'.origin.producerThreadRootId = artifact.origin.producerThreadRootId :=
    congrArg Artifact.producerThreadRootId hartifact
  have hchannel : artifact'.origin.visibilityChannelId = artifact.origin.visibilityChannelId :=
    congrArg Artifact.visibilityChannelId hartifact
  simp only [Artifact.origin] at hid hproducer hthread hchannel
  simp only [Run.place, Prod.mk.injEq] at hrun
  obtain ⟨-, hproject, hhome, hroot⟩ := hrun
  simp only [artifactVisible, hid, hproducer, hthread, hchannel, hproject, hhome, hroot, hchannels,
    Option.all_none]

/-- What a scope shows of an artifact stays as it is once its event can be emitted. -/
theorem LogGrows.showsArtifact_iff (h : LogGrows w w') (hd : Described w.db artifactId) :
    ShowsArtifact w'.db scope artifactId ↔ ShowsArtifact w.db scope artifactId := by
  constructor
  · rintro ⟨artifact', hartifact', hid', run', hrun', hrunId', hvisible⟩
    obtain ⟨artifact, hartifact, hid, run, hrun, hrunId⟩ := hd
    obtain ⟨later, hlater, horigin⟩ := h.artifact hartifact
    obtain ⟨laterRun, hlaterRun, hplace⟩ := h.run hrun
    have hsame : later = artifact' := by
      have hkey : later.origin.id = artifact.origin.id := congrArg Artifact.id horigin
      have hids : later.id = artifact'.id := hkey.trans (hid.trans hid'.symm)
      exact Table.eq_of_key hlater hartifact'
        (k := primaryKey [.text later.id]) (by simp [Keyed.keys]) (by simp [Keyed.keys, hids])
    subst hsame
    have hproducer : later.origin.producerRunId = artifact.origin.producerRunId :=
      congrArg Artifact.producerRunId horigin
    have hruns : laterRun = run' := by
      have hkey : laterRun.place.1 = run.place.1 := congrArg Prod.fst hplace
      have hids : laterRun.id = run'.id :=
        hkey.trans (hrunId.trans (hproducer.symm.trans hrunId'.symm))
      exact Table.eq_of_key hlaterRun hrun'
        (k := primaryKey [.text laterRun.id]) (by simp [Keyed.keys]) (by simp [Keyed.keys, hids])
    subst hruns
    rw [artifactVisible_congr h.channels horigin hplace] at hvisible
    exact ⟨artifact, hartifact, hid, run, hrun, hrunId, hvisible⟩
  · rintro ⟨artifact, hartifact, hid, run, hrun, hrunId, hvisible⟩
    obtain ⟨artifact', hartifact', horigin⟩ := h.artifact hartifact
    obtain ⟨run', hrun', hplace⟩ := h.run hrun
    have hsame : artifact'.origin.id = artifact.origin.id := congrArg Artifact.id horigin
    have hproducer : artifact'.origin.producerRunId = artifact.origin.producerRunId :=
      congrArg Artifact.producerRunId horigin
    have hrunSame : run'.place.1 = run.place.1 := congrArg Prod.fst hplace
    refine ⟨artifact', hartifact', hsame.trans hid, run', hrun',
      hrunSame.trans (hrunId.trans hproducer.symm), ?_⟩
    rw [artifactVisible_congr h.channels horigin hplace]
    exact hvisible

end Visibility

/-! ## The log of a reachable state -/

/-- The log is in order, and every event of it can be found and judged. -/
structure LogSound (db : Database) : Prop where
  ordered : LogReader.Ordered PublicEvent.sequence (db.table PublicEvent).rows
  issued : ∀ e ∈ db.table PublicEvent, 0 < e.sequence ∧ e.eventId ≠ ""
  described : ∀ e ∈ db.table PublicEvent, e.ofArtifact = true → Described db e.entityId

section Sound

variable {kernel : KernelContext} {w w' : World}

theorem LogGrows.sound (h : LogGrows w w') (hs : LogSound w.db) : LogSound w'.db := by
  obtain ⟨new, hrows, hlater, hordered, hissued, hdescribed⟩ := h.events
  have hmem : ∀ e ∈ w'.db.table PublicEvent, e ∈ w.db.table PublicEvent ∨ e ∈ new := by
    intro e he
    exact List.mem_append.mp (hrows ▸ Table.mem_rows.mpr he)
  constructor
  · rw [LogReader.Ordered, hrows]
    exact List.pairwise_append.mpr ⟨hs.ordered, hordered, hlater⟩
  · intro e he
    exact (hmem e he).elim (hs.issued e) (hissued e)
  · intro e he hartifact
    cases hmem e he with
    | inl hold => exact h.described (hs.described e hold hartifact)
    | inr hnew => exact hdescribed e hnew hartifact

/-- Whether an event of the log is visible in a scope never changes. -/
theorem LogGrows.visibleIn (h : LogGrows w w') (hs : LogSound w.db) {e : PublicEvent}
    (he : e ∈ w.db.table PublicEvent) (scope : PrincipalReadScope) :
    e.visibleIn w'.db scope = e.visibleIn w.db scope := by
  unfold PublicEvent.visibleIn
  congr 1
  cases hartifact : e.ofArtifact with
  | false => rfl
  | true =>
      have hshows : ShowsArtifact w'.db scope e.entityId ↔ ShowsArtifact w.db scope e.entityId :=
        h.showsArtifact_iff (hs.described e he hartifact)
      rw [← visibleArtifactRows_length, ← visibleArtifactRows_length] at hshows
      simp only [if_true, decide_eq_decide.mpr hshows]

theorem Steps.logGrows (hs : Steps kernel w w') : LogGrows w w' :=
  hs.within fun w call => step_logGrows kernel call w

theorem Opened.logSound (h : Opened kernel w) : LogSound w.db := by
  have hframe : Frame [.publicEvents] World.blank w := h.frame
  have hempty : w.db.table PublicEvent = Table.empty := by
    simp only [Database.table, hframe.tables .publicEvents (by decide)]
    rfl
  constructor
  · rw [hempty]
    exact List.Pairwise.nil
  · rw [hempty]
    exact fun _ he => nomatch he
  · rw [hempty]
    exact fun _ he => nomatch he

theorem Reachable.logSound (h : Reachable kernel w) : LogSound w.db :=
  h.invariant (fun _ => Opened.logSound) fun w call hs => (step_logGrows kernel call w).sound hs

end Sound

end Torsor.Kernel
