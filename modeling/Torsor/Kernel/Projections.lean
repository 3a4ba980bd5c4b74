import Torsor.Kernel.History

/-! # Projections of Runs and Threads

A projection shows the rows of a Run or a Thread, now or as of an event sequence. Pages of
projections follow the sequence a row was stamped with when it was created.
-/

namespace Torsor.Kernel

open Torsor.Library Tx

/-! ## Views -/

structure ActivityWindow where
  items : List RunActivityEventView
  hasEarlier : Bool
  earliestSequence : Option Nat
  latestSequence : Option Nat

structure ThreadProjection where
  projectId : String
  channelId : String
  threadRootId : String
  cursor : Nat
  messages : List MessageView
  attentions : List AttentionView
  runs : List RunView
  artifacts : List ArtifactView

structure RunProjection where
  run : RunView
  inputs : List RunInputView
  activations : List ActivationAttemptView
  providerAttempts : List ProviderAttemptView
  activity : ActivityWindow
  artifacts : List ArtifactView

/-! ## Parts of a projection -/

/-- `ORDER BY sequence DESC LIMIT limit + 1`, shown from the earliest to the latest. -/
def activityWindow (rows : List RunActivityEvent) (limit : Nat) : ActivityWindow :=
  let latest := (orderBy RunActivityEvent.sequence rows).reverse.take (limit + 1)
  let items := (latest.take limit).reverse.map mapActivity
  { items
    hasEarlier := limit < latest.length
    earliestSequence := items.head?.map (·.sequence)
    latestSequence := items.getLast?.map (·.sequence) }

def latestActivityWindow (db : Database) (runId : String) (limit : Nat) : ActivityWindow :=
  activityWindow ((db.table RunActivityEvent).filter fun r => r.runId = runId) limit

def latestActivityWindowAt (db : Database) (runId : String) (snapshotEventSequence limit : Nat) :
    ActivityWindow :=
  activityWindow
    ((db.table RunActivityEvent).filter fun r =>
      r.runId = runId && r.createdEventSequence.any (· ≤ snapshotEventSequence))
    limit

def revisionMentionTargets (db : Database) (messageRevisionId : String)
    (snapshotEventSequence : Option Nat) : List String :=
  (orderBy Mention.targetAgentId
    ((db.table Mention).filter fun r =>
      r.messageRevisionId = messageRevisionId &&
        snapshotEventSequence.all fun snapshot =>
          r.createdEventSequence.any (· ≤ snapshot))).map (·.targetAgentId)

/-- A Message with the revisions given, the latest of which tells whom it mentions. -/
def messageView (message : Message) (revisions : List MessageRevisionView) : MessageView :=
  let latest := revisions.find? fun revision => revision.revision = message.latestRevision
  mapMessage message revisions (latest.elim [] (·.targetAgentIds))

def messageViews (db : Database) (threadRootId : String) : List MessageView :=
  (orderBy Message.threadSequence
    ((db.table Message).filter fun r => r.threadRootId = threadRootId)).map fun message =>
      messageView message
        ((orderBy MessageRevision.revision
          ((db.table MessageRevision).filter fun r => r.messageId = message.id)).map
            fun revision => mapMessageRevision revision
              (revisionMentionTargets db revision.id none))

/-- The revisions of a Message created by the sequence. -/
def revisionsAt (db : Database) (messageId : String) (snapshotEventSequence : Nat) :
    List MessageRevision :=
  orderBy MessageRevision.revision
    ((db.table MessageRevision).filter fun r =>
      r.messageId = messageId && r.createdEventSequence.any (· ≤ snapshotEventSequence))

/-- The Message as of the sequence, unless it has no revision by then. -/
def messageViewAt (db : Database) (snapshotEventSequence : Nat) (message : Message) :
    Option MessageView :=
  let revisions := revisionsAt db message.id snapshotEventSequence
  (latestBy MessageRevision.revision revisions).map fun latest =>
    messageView { message with latestRevision := latest.revision }
      (revisions.map fun revision => mapMessageRevision revision
        (revisionMentionTargets db revision.id (some snapshotEventSequence)))

def messageViewsAt (db : Database) (threadRootId : String) (snapshotEventSequence : Nat) :
    Option (List MessageView) :=
  (orderBy Message.threadSequence
    ((db.table Message).filter fun r =>
      r.threadRootId = threadRootId && r.createdEventSequence.any (· ≤ snapshotEventSequence))).mapM
    (messageViewAt db snapshotEventSequence)

/-- The thread cursor of the last event of the Thread that has one. -/
def threadCursorAt (db : Database) (threadRootId : String) (snapshotEventSequence : Nat) : Nat :=
  ((latestBy PublicEvent.sequence
    ((db.table PublicEvent).filter fun r =>
      r.threadRootId = some threadRootId && r.sequence ≤ snapshotEventSequence &&
        r.threadCursor.isSome)).bind (·.threadCursor)).getD 0

/-- The inputs an Activation was given, in their order. -/
def suppliedInputIds (db : Database) (activationId : String) : List String :=
  (orderBy ActivationRunInput.runInputSequence
    ((db.table ActivationRunInput).filter fun r => r.activationId = activationId)).map
      (·.runInputId)

/-- The rows that `p` selects and that were created by the sequence, each as of then. -/
def rowsAt {ρ η : Type} [Keyed ρ UniqueKey] [Keyed η UniqueKey] {t u : TableName}
    [Stored ρ t] [Stored η u] (db : Database) (v : Versioning String ρ η)
    (created : ρ → Option Nat) (snapshotEventSequence : Nat) (p : ρ → Bool) : List ρ :=
  ((db.table ρ).filter fun r => p r && (created r).any (· ≤ snapshotEventSequence)).filterMap
    (v.asOf (db.table η).rows snapshotEventSequence)

/-! ## Projections -/

def threadProjection (db : Database) (thread : Thread) (scope : PrincipalReadScope) :
    ThreadProjection where
  projectId := thread.projectId
  channelId := thread.channelId
  threadRootId := thread.rootMessageId
  cursor := thread.cursor
  messages := messageViews db thread.rootMessageId
  attentions :=
    (orderByPair (fun r : Attention => (r.createdAt, r.id))
      ((db.table Attention).filter fun r => r.threadRootId = thread.rootMessageId)).map
        mapAttention
  runs :=
    (orderByPair (fun r : Run => (r.createdAt, r.id))
      ((db.table Run).filter fun r => r.threadRootId = thread.rootMessageId)).map mapRun
  artifacts :=
    (visibleArtifactRows db (some scope) { threadRootId := some thread.rootMessageId }).map
      mapArtifact

def getThreadProjection (threadRootId : String) (scope : PrincipalReadScope) :
    K ThreadProjection := do
  let thread ← requireThread threadRootId
  gets fun w => threadProjection w.db thread scope

def runProjection (db : Database) (run : Run) : RunProjection where
  run := mapRun run
  inputs :=
    (orderBy RunInput.runInputSequence
      ((db.table RunInput).filter fun r => r.runId = run.id)).map mapRunInput
  activations :=
    (orderByPair (fun r : ActivationAttempt => (r.startedAt, r.id))
      ((db.table ActivationAttempt).filter fun r => r.runId = some run.id)).map
        fun activation => mapActivation activation (suppliedInputIds db activation.id)
  providerAttempts :=
    (orderByPair (fun r : ProviderAttempt => (r.startedAt, r.id))
      ((db.table ProviderAttempt).filter fun r => r.runId = some run.id)).map
        mapProviderAttempt
  activity := latestActivityWindow db run.id 100
  artifacts := (visibleArtifactRows db none { runId := some run.id }).map mapArtifact

def getRunProjection (runId : String) : K RunProjection := do
  let run ← requireRun runId
  gets fun w => runProjection w.db run

def threadProjectionAt (db : Database) (thread : Thread) (snapshotEventSequence : Nat)
    (scope : PrincipalReadScope) (messages : List MessageView) : ThreadProjection where
  projectId := thread.projectId
  channelId := thread.channelId
  threadRootId := thread.rootMessageId
  cursor := threadCursorAt db thread.rootMessageId snapshotEventSequence
  messages := messages
  attentions :=
    (orderByPair (fun r : Attention => (r.createdAt, r.id))
      (rowsAt db attentionVersioning (·.createdEventSequence) snapshotEventSequence fun r =>
        r.threadRootId = thread.rootMessageId)).map mapAttention
  runs :=
    (orderByPair (fun r : Run => (r.createdAt, r.id))
      (rowsAt db runVersioning (·.createdEventSequence) snapshotEventSequence fun r =>
        r.threadRootId = thread.rootMessageId)).map mapRun
  artifacts :=
    (visibleArtifactRows db (some scope)
      { threadRootId := some thread.rootMessageId
        snapshotEventSequence := some snapshotEventSequence }).map mapArtifact

def getThreadProjectionAt (threadRootId : String) (snapshotEventSequence : Nat)
    (scope : PrincipalReadScope) : K ThreadProjection := do
  let thread ← requireThread threadRootId
  let views ← gets fun w => messageViewsAt w.db threadRootId snapshotEventSequence
  let messages ← require views (.fault .invalidStoredInteger)
  gets fun w => threadProjectionAt w.db thread snapshotEventSequence scope messages

def runProjectionAt (db : Database) (run : Run) (snapshotEventSequence : Nat) :
    RunProjection where
  run := mapRun run
  inputs :=
    (orderBy RunInput.runInputSequence
      (rowsAt db runInputVersioning (·.createdEventSequence) snapshotEventSequence fun r =>
        r.runId = run.id)).map mapRunInput
  activations :=
    (orderByPair (fun r : ActivationAttempt => (r.startedAt, r.id))
      (rowsAt db activationVersioning (·.createdEventSequence) snapshotEventSequence fun r =>
        r.runId = some run.id)).map
        fun activation => mapActivation activation (suppliedInputIds db activation.id)
  providerAttempts :=
    (orderByPair (fun r : ProviderAttempt => (r.startedAt, r.id))
      (rowsAt db providerAttemptVersioning (·.createdEventSequence) snapshotEventSequence
        fun r => r.runId = some run.id)).map mapProviderAttempt
  activity := latestActivityWindowAt db run.id snapshotEventSequence 100
  artifacts :=
    (visibleArtifactRows db none
      { runId := some run.id, snapshotEventSequence := some snapshotEventSequence }).map
      mapArtifact

def getRunProjectionAt (runId : String) (snapshotEventSequence : Nat) : K RunProjection := do
  let runs ← gets fun w =>
    rowsAt w.db runVersioning (·.createdEventSequence) snapshotEventSequence fun r : Run =>
      r.id = runId
  let run ← require runs.head?
    (kernelError .NotFound s!"Run {runId} does not exist at the requested snapshot.")
  gets fun w => runProjectionAt w.db run snapshotEventSequence

/-! ## Pages -/

structure ThreadProjectionPage where
  items : List ThreadProjection
  nextAfterEventId : Option String
  hasMore : Bool
  snapshotEventId : Option String

structure RunProjectionPage where
  items : List RunProjection
  nextAfterEventId : Option String
  hasMore : Bool
  snapshotEventId : Option String

structure AttentionPage where
  items : List AttentionView
  nextCursor : Option Nat
  hasMore : Bool
  snapshotEventId : Option String

/-- A row of a page: what is listed, the sequence it was created at and the event there. -/
structure PageRow where
  id : String
  createdEventSequence : Nat
  createdEventId : String

/-- `JOIN public_events ON sequence = created_event_sequence`, in the order of a page. -/
def pageRows {ρ : Type} (db : Database) (id : ρ → String) (created : ρ → Option Nat)
    (afterEventSequence snapshotEventSequence : Nat) (rows : List ρ) : List PageRow :=
  orderByPair (fun row : PageRow => (row.createdEventSequence, row.id)) <|
    rows.filterMap fun r =>
      (created r).bind fun createdEventSequence =>
        if afterEventSequence < createdEventSequence ∧
            createdEventSequence ≤ snapshotEventSequence then
          ((db.table PublicEvent).find? (·.sequence = createdEventSequence)).map fun event =>
            ⟨id r, createdEventSequence, event.eventId⟩
        else none

/-- The event a client passes back for the page after this one. -/
def nextAfterEventId (rows : List PageRow) (limit : Nat) : Option String :=
  if limit < rows.length then (rows.take limit).getLast?.map (·.createdEventId) else none

def threadPageRows (db : Database) (projectId : String) (channelId : Option String)
    (afterEventSequence snapshotEventSequence : Nat) (scope : PrincipalReadScope) :
    List PageRow :=
  pageRows db Thread.rootMessageId Thread.createdEventSequence afterEventSequence
    snapshotEventSequence
    ((db.table Thread).filter fun r =>
      r.projectId = projectId && (!truthy channelId || some r.channelId = channelId) &&
        (!truthy scope.threadRootId || some r.rootMessageId = scope.threadRootId))

def listThreadProjections (projectId : String) (channelId : Option String)
    (afterEventSequence snapshotEventSequence : Nat) (snapshotEventId : Option String)
    (limit : Nat) (scope : PrincipalReadScope) : K ThreadProjectionPage := do
  let matching ← gets fun w =>
    threadPageRows w.db projectId channelId afterEventSequence snapshotEventSequence scope
  let rows := matching.take (limit + 1)
  let items ← mapEach (rows.take limit) fun row =>
    getThreadProjectionAt row.id snapshotEventSequence scope
  pure
    { items
      nextAfterEventId := nextAfterEventId rows limit
      hasMore := limit < rows.length
      snapshotEventId }

def runPageRows (db : Database) (projectId : String) (channelId : Option String)
    (afterEventSequence snapshotEventSequence : Nat) (scope : PrincipalReadScope) :
    List PageRow :=
  pageRows db Run.id Run.createdEventSequence afterEventSequence snapshotEventSequence
    ((db.table Run).filter fun r =>
      r.projectId = projectId && (!truthy channelId || some r.homeChannelId = channelId) &&
        if truthy scope.runId then some r.id = scope.runId else !truthy scope.threadRootId)

def listRunProjections (projectId : String) (channelId : Option String)
    (afterEventSequence snapshotEventSequence : Nat) (snapshotEventId : Option String)
    (limit : Nat) (scope : PrincipalReadScope) : K RunProjectionPage := do
  let matching ← gets fun w =>
    runPageRows w.db projectId channelId afterEventSequence snapshotEventSequence scope
  let rows := matching.take (limit + 1)
  let items ← mapEach (rows.take limit) fun row =>
    getRunProjectionAt row.id snapshotEventSequence
  pure
    { items
      nextAfterEventId := nextAfterEventId rows limit
      hasMore := limit < rows.length
      snapshotEventId }

/-- The Attentions that were Open as of the snapshot, in cursor order. -/
def openAttentionRows (db : Database) (projectId targetAgentId : Option String)
    (afterCursor : Int) (snapshotEventSequence : Nat) : List Attention :=
  orderBy Attention.sequence
    ((rowsAt db attentionVersioning (·.createdEventSequence) snapshotEventSequence fun r =>
      afterCursor < (r.sequence : Int) &&
        (!truthy projectId || some r.projectId = projectId) &&
        (!truthy targetAgentId || some r.targetAgentId = targetAgentId)).filter fun r =>
      r.status = .Open)

def listOpenAttentions (db : Database) (projectId targetAgentId : Option String)
    (afterCursor : Int) (snapshotEventSequence : Nat) (snapshotEventId : Option String)
    (limit : Nat) : AttentionPage :=
  let rows :=
    (openAttentionRows db projectId targetAgentId afterCursor snapshotEventSequence).take
      (limit + 1)
  let items := (rows.take limit).map fun r => mapAttention { r with resolutionOutcome := none }
  { items
    nextCursor := if limit < rows.length then items.getLast?.map (·.cursor) else none
    hasMore := limit < rows.length
    snapshotEventId }

/-! ## Recovery of Attention executions -/

structure AttentionRecoverySnapshot where
  revision : Nat
  observedAt : Timestamp
  nextExpiryAt : Option Timestamp

structure RecoverableAttentionExecutionCursor where
  startedAt : Timestamp
  activationId : String

structure RecoverableAttentionExecution where
  cursor : RecoverableAttentionExecutionCursor
  attention : AttentionView
  activation : ActivationAttemptView
  providerAttempts : List ProviderAttemptView

structure RecoverableAttentionExecutionPage where
  items : List RecoverableAttentionExecution
  nextCursor : Option RecoverableAttentionExecutionCursor
  hasMore : Bool
  recoverySnapshot : AttentionRecoverySnapshot

def attentionDomainOwnership (attention : Attention) (fence : AttentionDomainFence) : Bool :=
  fence.attentionId = attention.id && fence.agentId = attention.targetAgentId &&
    fence.projectId = attention.projectId && fence.channelId = attention.channelId &&
    fence.threadRootId = attention.threadRootId

/-- `=` of two columns, which does not hold of `NULL`. -/
def sqlEq {α : Type} [DecidableEq α] (a b : Option α) : Bool := a.isSome && a = b

def recoverableUnfinishedAttention (activation : ActivationAttempt) (attention : Attention)
    (fence : AttentionDomainFence) : Bool :=
  activation.cause = .Attention && activation.finishedAt.isNone &&
    activation.revokedAt.isNone && activation.agentId = attention.targetAgentId &&
    attention.status = .Open &&
    sqlEq attention.handlerLeaseToken activation.attentionLeaseToken &&
    sqlEq fence.leaseToken attention.handlerLeaseToken &&
    sqlEq fence.leaseExpiresAt attention.handlerLeaseExpiresAt &&
    attentionDomainOwnership attention fence

def recoverableFinishedAttention (activation : ActivationAttempt) (attention : Attention)
    (fence : AttentionDomainFence) : Bool :=
  activation.cause = .Attention && activation.finishedAt.isSome &&
    activation.agentId = attention.targetAgentId && attentionDomainOwnership attention fence

/-- The Activation of a recovery row joins an Attention and its fence with `p`. -/
def joinsRecoverable (db : Database)
    (p : ActivationAttempt → Attention → AttentionDomainFence → Bool)
    (recovery : AttentionRecoveryExecution) : Bool :=
  (db.table ActivationAttempt).rows.any fun activation =>
    activation.id = recovery.activationId &&
    (db.table Attention).rows.any fun attention =>
      some attention.id = activation.attentionId &&
      (db.table AttentionDomainFence).rows.any fun fence =>
        fence.attentionId = attention.id && p activation attention fence

def unfinishedRecoverable (db : Database) (recovery : AttentionRecoveryExecution) : Bool :=
  joinsRecoverable db recoverableUnfinishedAttention recovery

def finishedRecoverable (db : Database) (recovery : AttentionRecoveryExecution) : Bool :=
  recovery.finishedWithUnsettledProvider &&
    joinsRecoverable db recoverableFinishedAttention recovery

/-- The Activation of the recovery row is to be recovered once it has expired. -/
def isRecoverable (db : Database) (recovery : AttentionRecoveryExecution) : Bool :=
  (recovery.unfinished && unfinishedRecoverable db recovery) || finishedRecoverable db recovery

/-- `MIN(expires_at)` over the rows still to be promoted. -/
def nextExpiryAt (db : Database) (observedAt : Timestamp) : Option Timestamp :=
  (((db.table AttentionRecoveryExecution).filter fun r =>
    !r.expiredRecoverable && observedAt < r.expiresAt && isRecoverable db r).map
      (·.expiresAt)).min?

def readAttentionRecoverySnapshot (observedAt : Timestamp) : K AttentionRecoverySnapshot := do
  let state ← requireRow (fun _ : KernelRuntimeState => true) (.fault .missingRuntimeState)
  let nextExpiryAt ← gets fun w => nextExpiryAt w.db observedAt
  pure { revision := state.attentionRecoveryRevision, observedAt, nextExpiryAt }

/-- The expired row is not yet known to be recoverable. -/
def isDue (db : Database) (observedAt : Timestamp) (recovery : AttentionRecoveryExecution) :
    Bool :=
  !recovery.expiredRecoverable && recovery.expiresAt ≤ observedAt && isRecoverable db recovery

def getAttentionRecoverySnapshot (kernel : KernelContext) : K AttentionRecoverySnapshot := do
  let observedAt ← kernel.now
  let db ← gets World.db
  let promoted ← selectRows (isDue db observedAt)
  updateRows (isDue db observedAt) fun r => { r with expiredRecoverable := true }
  (if promoted = [] then pure () else bumpAttentionRecoveryRevision : K Unit)
  readAttentionRecoverySnapshot observedAt

def resolveAttentionRecoverySnapshot (kernel : KernelContext) (requestedRevision : Option Int) :
    K AttentionRecoverySnapshot :=
  requestedRevision.elim (getAttentionRecoverySnapshot kernel) fun requestedRevision => do
    throwIf (requestedRevision < 0)
      (kernelError .InvalidCommand "The Attention recovery revision is invalid.")
    let observedAt ← kernel.now
    let current ← readAttentionRecoverySnapshot observedAt
    let db ← gets World.db
    let due ← selectRows (isDue db observedAt)
    throwIf ((current.revision : Int) ≠ requestedRevision ∨ due ≠ [])
      (kernelError .StaleRevision
        "The Attention recovery revision changed or has unmaterialized expired work."
        (some (.obj [("expectedRevision", .num requestedRevision),
          ("actualRevision", .nat current.revision),
          ("observedAt", .instant current.observedAt),
          ("nextExpiryAt", current.nextExpiryAt.elim .null .instant)])))
    pure current

/-- The recovery row comes after the cursor. -/
def afterRecoveryCursor (cursor : Option RecoverableAttentionExecutionCursor)
    (recovery : AttentionRecoveryExecution) : Bool :=
  cursor.all fun cursor =>
    toLex (cursor.startedAt, cursor.activationId) <
      toLex (recovery.startedAt, recovery.activationId)

/-- The merge of the two ordered selections; a row of both is merged twice. -/
def recoverableRows (db : Database) (cursor : Option RecoverableAttentionExecutionCursor)
    (limit : Nat) : List AttentionRecoveryExecution :=
  let key := fun r : AttentionRecoveryExecution => (r.startedAt, r.activationId)
  let ordered := fun p => (orderByPair key
    ((db.table AttentionRecoveryExecution).filter fun r =>
      r.expiredRecoverable && p r && afterRecoveryCursor cursor r)).take limit
  (List.merge (ordered (unfinishedRecoverable db)) (ordered (finishedRecoverable db))
    fun a b => toLex (key a) < toLex (key b)).take limit

def recoverableExecution (recovery : AttentionRecoveryExecution) :
    K RecoverableAttentionExecution := do
  let activation ← requireRow (fun r : ActivationAttempt => r.id = recovery.activationId)
    (.fault .missingVersionedRow)
  let attentionId ← require activation.attentionId (.fault .invalidStoredText)
  let attention ← requireRow (fun r : Attention => r.id = attentionId)
    (.fault .missingVersionedRow)
  let attempts ← selectRows fun r : ProviderAttempt => r.activationId = recovery.activationId
  pure
    { cursor := { startedAt := activation.startedAt, activationId := activation.id }
      attention := mapAttention attention
      activation := mapActivation activation []
      providerAttempts :=
        (orderByPair (fun r : ProviderAttempt => (r.startedAt, r.id)) attempts).map
          mapProviderAttempt }

def listRecoverableAttentionExecutions (kernel : KernelContext)
    (afterCursor : Option RecoverableAttentionExecutionCursor) (requestedRevision : Option Int)
    (limit : Nat) : K RecoverableAttentionExecutionPage := do
  let recoverySnapshot ← resolveAttentionRecoverySnapshot kernel requestedRevision
  afterCursor.elim (pure ()) fun cursor =>
    requireNonEmpty cursor.activationId "afterCursor.activationId"
  let rows ← gets fun w => recoverableRows w.db afterCursor (limit + 1)
  let items ← mapEach (rows.take limit) recoverableExecution
  pure
    { items
      nextCursor := if limit < rows.length then items.getLast?.map (·.cursor) else none
      hasMore := limit < rows.length
      recoverySnapshot }

/-! ## Tables the functions write -/

section Within

set_option synthInstance.maxSize 100000

variable {R : World → World → Prop} {ts : List TableName} [Concerns R ts]
  [IsPreorder World R] (kernel : KernelContext)

instance (threadRootId : String) (scope : PrincipalReadScope) :
    Within R (getThreadProjection threadRootId scope) := by
  unfold getThreadProjection
  infer_instance

instance (runId : String) : Within R (getRunProjection runId) := by
  unfold getRunProjection
  infer_instance

instance (threadRootId : String) (snapshotEventSequence : Nat) (scope : PrincipalReadScope) :
    Within R (getThreadProjectionAt threadRootId snapshotEventSequence scope) := by
  unfold getThreadProjectionAt
  infer_instance

instance (runId : String) (snapshotEventSequence : Nat) :
    Within R (getRunProjectionAt runId snapshotEventSequence) := by
  unfold getRunProjectionAt
  infer_instance

instance (projectId : String) (channelId : Option String)
    (afterEventSequence snapshotEventSequence : Nat) (snapshotEventId : Option String)
    (limit : Nat) (scope : PrincipalReadScope) :
    Within R (listThreadProjections projectId channelId afterEventSequence
      snapshotEventSequence snapshotEventId limit scope) := by
  unfold listThreadProjections
  infer_instance

instance (projectId : String) (channelId : Option String)
    (afterEventSequence snapshotEventSequence : Nat) (snapshotEventId : Option String)
    (limit : Nat) (scope : PrincipalReadScope) :
    Within R (listRunProjections projectId channelId afterEventSequence snapshotEventSequence
      snapshotEventId limit scope) := by
  unfold listRunProjections
  infer_instance

instance (observedAt : Timestamp) : Within R (readAttentionRecoverySnapshot observedAt) := by
  unfold readAttentionRecoverySnapshot
  infer_instance

instance (recovery : AttentionRecoveryExecution) :
    Within R (recoverableExecution recovery) := by
  unfold recoverableExecution
  infer_instance

variable [NotAmong .attentionRecoveryExecutions ts] [NotAmong .kernelRuntimeState ts]

instance : Within R (getAttentionRecoverySnapshot kernel) := by
  unfold getAttentionRecoverySnapshot
  infer_instance

instance (requestedRevision : Option Int) :
    Within R (resolveAttentionRecoverySnapshot kernel requestedRevision) := by
  unfold resolveAttentionRecoverySnapshot
  infer_instance

instance (afterCursor : Option RecoverableAttentionExecutionCursor)
    (requestedRevision : Option Int) (limit : Nat) :
    Within R (listRecoverableAttentionExecutions kernel afterCursor requestedRevision
      limit) := by
  unfold listRecoverableAttentionExecutions
  infer_instance

end Within

end Torsor.Kernel
