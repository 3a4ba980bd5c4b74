import Torsor.Kernel.ArtifactVisibility
import Torsor.Kernel.Mappings
import Torsor.Kernel.Triggers

/-! # Authority, leases and events

What the commands share: looking rows up, checking that a principal, an Activation or a
handler lease has authority, claiming and releasing the execution domain of an Attention,
and appending to the event log and the Outbox.
-/

namespace Torsor.Kernel

open Torsor.Library Tx

/-! ## Required rows -/

def requirePrincipal (id : String) : K Principal :=
  requireRow (fun r : Principal => r.id = id)
    (kernelError .Unauthorized "The principal is not authenticated.")

def requireKind (principal : Principal) (kind : PrincipalKind) : K Unit :=
  throwIf (principal.kind ≠ kind)
    (kernelError .Forbidden s!"This command requires a {kind.text} principal.")

def requireAgent (id : String) : K Agent :=
  requireRow (fun r : Agent => r.id = id)
    (kernelError .NotFound s!"Agent {id} does not exist.")

def requireMessage (id : String) : K Message :=
  requireRow (fun r : Message => r.id = id)
    (kernelError .NotFound s!"Message {id} does not exist.")

def requireProject (id : String) : K Project :=
  requireRow (fun r : Project => r.id = id)
    (kernelError .NotFound s!"Project {id} does not exist.")

def requireAgentForPrincipal (principalId : String) : K Agent :=
  requireRow (fun r : Agent => r.principalId = principalId)
    (kernelError .Forbidden "The principal is not an Agent.")

def requireThread (id : String) : K Thread :=
  requireRow (fun r : Thread => r.rootMessageId = id)
    (kernelError .NotFound s!"Thread {id} does not exist.")

def requireAttention (id : String) : K Attention :=
  requireRow (fun r : Attention => r.id = id)
    (kernelError .NotFound s!"Attention {id} does not exist.")

def requireRun (id : String) : K Run :=
  requireRow (fun r : Run => r.id = id)
    (kernelError .NotFound s!"Run {id} does not exist.")

def requireRunInput (id : String) : K RunInput :=
  requireRow (fun r : RunInput => r.id = id)
    (kernelError .NotFound s!"RunInput {id} does not exist.")

def requireActivation (id : String) : K ActivationAttempt :=
  requireRow (fun r : ActivationAttempt => r.id = id)
    (kernelError .NotFound s!"Activation {id} does not exist.")

def requireLiveActivation (id : String) : K ActivationAttempt := do
  let activation ← requireActivation id
  throwIf (activation.finishedAt.isSome)
    (kernelError .Conflict "The Activation is already finished.")
  pure activation

def requireProviderAttempt (id : String) : K ProviderAttempt :=
  requireRow (fun r : ProviderAttempt => r.id = id)
    (kernelError .NotFound s!"ProviderAttempt {id} does not exist.")

def requireOutboxEvent (id : String) : K OutboxEvent :=
  requireRow (fun r : OutboxEvent => r.id = id)
    (kernelError .NotFound s!"OutboxEvent {id} does not exist.")

def requireNonEmpty (value field : String) : K Unit :=
  throwIf (trim value = "") (kernelError .InvalidCommand s!"{field} must not be empty.")

def boundedLimit (limit : Option Int) : K Nat := do
  let limit := limit.getD 100
  throwIf (limit < 1 ∨ 500 < limit)
    (kernelError .InvalidCommand "Limit must be between 1 and 500.")
  pure limit.toNat

def boundedDuration (durationMs : Int) (field : String) : K Nat := do
  throwIf (durationMs < 1000 ∨ 300000 < durationMs)
    (kernelError .InvalidCommand s!"{field} must be between 1 and 300 seconds.")
  pure durationMs.toNat

def checkRevision (actual : Nat) (expected : Int) (entity : String) : K Unit :=
  throwIf ((actual : Int) ≠ expected)
    (kernelError .StaleRevision
      s!"{entity} revision {expected} is stale; current revision is {actual}."
      (some (.obj [("expectedRevision", .num expected), ("actualRevision", .nat actual)])))

def requireMutableRun (runId : String) (expectedRevision : Option Int) : K Run := do
  let run ← requireRun runId
  throwIf (isTerminalRunState run.state)
    (kernelError .TerminalRun s!"Run {runId} is terminal and cannot accept this command."
      (some (.obj [("state", .str run.state.text)])))
  (if expectedRevision.isSome then
    checkRevision run.revision (expectedRevision.getD 0) "Run"
  else pure () : K Unit)
  pure run

def assertProjectChannel (projectId channelId : String) : K Unit := do
  let channel ← requireRow (fun r : Channel => r.id = channelId)
    (kernelError .NotFound s!"Channel {channelId} does not exist.")
  throwIf (channel.projectId ≠ projectId)
    (kernelError .Forbidden "The Channel does not belong to the Project.")

def assertProjectAccess (principal : Principal) (projectId : String) : K Unit :=
  if principal.kind ≠ .agent then pure () else do
    let agent ← requireAgentForPrincipal principal.id
    throwIf (agent.projectId ≠ projectId)
      (kernelError .Forbidden "The Agent cannot access this Project.")

def validateDisposition (disposition : RunInputDisposition) (reason : String) : K Unit := do
  throwIf (disposition ∈ [.Pending, .Incorporated, .Withdrawn])
    (kernelError .InvalidCommand "The completion exception disposition is invalid.")
  requireNonEmpty reason "exception reason"

/-! ## The execution domain of an Attention -/

def attentionDomainFenceMatches (attention : Attention) (fence : Option AttentionDomainFence)
    (leaseToken : Option String) : Bool :=
  fence.any fun fence =>
    attention.handlerLeaseToken = leaseToken &&
    fence.agentId = attention.targetAgentId &&
    fence.projectId = attention.projectId &&
    fence.channelId = attention.channelId &&
    fence.threadRootId = attention.threadRootId &&
    fence.leaseToken = leaseToken &&
    fence.leaseExpiresAt = attention.handlerLeaseExpiresAt &&
    fence.attentionId = attention.id

def isAttentionDomainLeaseCurrent (attention : Attention) (leaseToken : String) : K Bool := do
  let fence ← selectRow fun r : AttentionDomainFence => r.attentionId = attention.id
  pure (attention.handlerLeaseExpiresAt.isSome &&
    attentionDomainFenceMatches attention fence (some leaseToken))

def assertAttentionLease (kernel : KernelContext) (attention : Attention)
    (leaseToken : Option String) : K Unit := do
  throwIf (¬ truthy leaseToken ∨ attention.handlerLeaseToken ≠ leaseToken)
    (kernelError .Forbidden "A valid Attention handler lease is required.")
  let expiresAt ← require attention.handlerLeaseExpiresAt
    (kernelError .Conflict "The Attention handler lease has expired.")
  let at' ← kernel.readClock
  throwIf (expiresAt ≤ at')
    (kernelError .Conflict "The Attention handler lease has expired.")
  let current ← isAttentionDomainLeaseCurrent attention (leaseToken.getD "")
  throwIf (¬ current)
    (kernelError .Conflict
      "The Attention handler lease no longer owns its execution domain.")

def markActivationChanges (activationIds : List String) : K Unit :=
  forEach activationIds fun activationId =>
    insertRowOrIgnore ({ activationId } : ProjectionActivationChange)

/-- `COALESCE(revoked_at, ?)`, `COALESCE(revocation_reason, ?)`. -/
def ActivationAttempt.revoke (revokedAt : Timestamp) (reason : String)
    (activation : ActivationAttempt) : ActivationAttempt :=
  { activation with
    revokedAt := activation.revokedAt.or (some revokedAt)
    revocationReason := activation.revocationReason.or (some reason) }

def revokeRunActivations (runId reason : String) (revokedAt : Timestamp) : K Unit := do
  let changed ← updateActivations
    (fun activation => activation.runId = some runId && activation.finishedAt.isNone &&
      activation.revokedAt.isNone)
    (ActivationAttempt.revoke revokedAt reason)
  markActivationChanges changed

/-- The Attention whose claim on a domain has ended, with its new revision. -/
structure SupersededAttention where
  attention : Attention
  revision : Nat
  activationIds : List String

/-- The fence of the domain an Attention belongs to. -/
def AttentionDomainFence.fencesDomainOf (attention : Attention) (fence : AttentionDomainFence) :
    Bool :=
  fence.agentId = attention.targetAgentId && fence.projectId = attention.projectId &&
    fence.channelId = attention.channelId && fence.threadRootId = attention.threadRootId

/-- The Attention a fence points to loses the domain to another one. -/
def supersedeAttention (existing : AttentionDomainFence) (at' : Timestamp) :
    K SupersededAttention := do
  let previous ← requireAttention existing.attentionId
  throwIf (¬ attentionDomainFenceMatches previous (some existing) existing.leaseToken)
    (.fault (.attentionLeaseMismatch previous.id))
  let previousRevision := previous.revision + 1
  updateAttention previous.id fun r =>
    { r with
      revision := previousRevision
      handlerLeaseHolderPrincipalId := none
      handlerLeaseToken := none
      handlerLeaseExpiresAt := none }
  let activationIds ← updateActivations
    (fun activation => activation.attentionId = some previous.id &&
      activation.finishedAt.isNone && activation.revokedAt.isNone)
    (ActivationAttempt.revoke at' "attention_domain_superseded")
  markActivationChanges activationIds
  pure { attention := previous, revision := previousRevision, activationIds }

/-- The fence of a domain that is claimed before passes to `attention`. -/
def takeOverAttentionDomain (attention : Attention) (leaseToken : String)
    (leaseExpiresAt at' : Timestamp) (existing : AttentionDomainFence) :
    K (Option SupersededAttention) := do
  let hasLiveLease := existing.leaseExpiresAt.any (at' < ·)
  let hasUnsettledProvider : Bool := 0 < existing.unsettledProviderAttemptCount
  throwIf (hasLiveLease || hasUnsettledProvider)
    (kernelError .DomainBusy
      "The Agent, Project, Channel, and Thread execution domain is busy."
      (some (.obj [("attentionId", .str existing.attentionId),
        ("hasLiveHandlerLease", .bool hasLiveLease),
        ("hasUnsettledProviderAttempt", .bool hasUnsettledProvider)])))
  let superseded ← (if existing.attentionId ≠ attention.id then do
      let superseded ← supersedeAttention existing at'
      pure (some superseded)
    else pure none : K (Option SupersededAttention))
  updateKeys (AttentionDomainFence.fencesDomainOf attention) fun r =>
    { r with
      attentionId := attention.id
      leaseToken := some leaseToken
      leaseExpiresAt := some leaseExpiresAt
      unsettledProviderAttemptCount := 0 }
  pure superseded

def claimAttentionDomain (attention : Attention) (leaseToken : String)
    (leaseExpiresAt at' : Timestamp) : K (Option SupersededAttention) := do
  let fence ← selectRow (AttentionDomainFence.fencesDomainOf attention)
  fence.elim
    (do
      insertRow
        ({ agentId := attention.targetAgentId
           projectId := attention.projectId
           channelId := attention.channelId
           threadRootId := attention.threadRootId
           attentionId := attention.id
           leaseToken := some leaseToken
           leaseExpiresAt := some leaseExpiresAt
           unsettledProviderAttemptCount := 0 } : AttentionDomainFence)
      pure none)
    (takeOverAttentionDomain attention leaseToken leaseExpiresAt at')

def releaseAttentionDomainLease (attentionId : String) : K Unit := do
  updateRows (fun r : AttentionDomainFence => r.attentionId = attentionId) fun r =>
    { r with leaseToken := none, leaseExpiresAt := none }
  deleteRows fun r : AttentionDomainFence =>
    r.attentionId = attentionId && r.unsettledProviderAttemptCount = 0

/-! ## Live Activations -/

/-- What an Activation may act on: its Run, or its Attention with the fence it owns. -/
inductive ActivationScopeState where
  | Run (run : Run)
  | Attention (attention : Attention) (domainFence : Option AttentionDomainFence)

/-- Why an Activation is not live. -/
inductive ActivationInvalidity where
  | finished | revoked | expired | wrong_agent
  | run_not_active (state : RunState)
  | stale_run_generation | attention_not_open | attention_lease_stale
  deriving DecidableEq

def loadActivationScopeState (activation : ActivationAttempt) : K ActivationScopeState :=
  if truthy activation.runId then do
    let run ← requireRun (activation.runId.getD "")
    pure (.Run run)
  else do
    let attentionId ← require activation.attentionId (.fault .invalidStoredText)
    let attention ← requireAttention attentionId
    let domainFence ← selectRow fun r : AttentionDomainFence => r.attentionId = attention.id
    pure (.Attention attention domainFence)

/-- Why an Activation that nothing ended cannot act on its Run. -/
def runScopeInvalidity (activation : ActivationAttempt) (run : Run) :
    Option ActivationInvalidity :=
  if activation.agentId ≠ run.ownerAgentId then some .wrong_agent
  else if run.state ≠ .Active then some (.run_not_active run.state)
  else if activation.runActivationGeneration ≠ some run.activationGeneration then
    some .stale_run_generation
  else none

/-- Why an Activation that nothing ended cannot act on its Attention. -/
def attentionScopeInvalidity (activation : ActivationAttempt) (attention : Attention)
    (domainFence : Option AttentionDomainFence) (at' : Timestamp) :
    Option ActivationInvalidity :=
  if activation.agentId ≠ attention.targetAgentId then some .wrong_agent
  else if attention.status ≠ .Open then some .attention_not_open
  else if attention.handlerLeaseToken ≠ activation.attentionLeaseToken ∨
      attention.handlerLeaseExpiresAt.all (· ≤ at') ∨
      ¬ attentionDomainFenceMatches attention domainFence attention.handlerLeaseToken then
    some .attention_lease_stale
  else none

/-- `none` when the Activation is live at `at'`. -/
def activationValidityAt (activation : ActivationAttempt) (scope : ActivationScopeState)
    (at' : Timestamp) : Option ActivationInvalidity :=
  if activation.finishedAt.isSome then some .finished
  else if activation.revokedAt.isSome then some .revoked
  else if activation.expiresAt ≤ at' then some .expired
  else match scope with
    | .Run run => runScopeInvalidity activation run
    | .Attention attention domainFence =>
        attentionScopeInvalidity activation attention domainFence at'

def activationInvalidityError (activation : ActivationAttempt) :
    ActivationInvalidity → Failure
  | .finished => kernelError .Conflict "The Activation is already finished."
  | .revoked =>
      kernelError .Conflict
        ("The Activation was revoked: " ++ activation.revocationReason.getD "unspecified" ++ ".")
  | .expired => kernelError .Conflict "The Activation has expired."
  | .wrong_agent =>
      kernelError .Conflict
        "The Activation Agent no longer matches its Run or Attention scope."
  | .run_not_active state =>
      kernelError (if isTerminalRunState state then .TerminalRun else .Conflict)
        "Execution side effects require an Active Run."
        (some (.obj [("state", .str state.text)]))
  | .stale_run_generation =>
      kernelError .Conflict
        "The Activation was superseded by a newer Run activation generation."
  | .attention_not_open =>
      kernelError .Conflict "The Activation scope ended when its Attention was resolved."
  | .attention_lease_stale =>
      kernelError .Conflict
        "The Activation scope ended when its Attention handler lease expired or changed."

def assertActivationScopeCurrent (kernel : KernelContext) (activation : ActivationAttempt) :
    K Unit := do
  let scope ← loadActivationScopeState activation
  let at' ← kernel.readClock
  reject ((activationValidityAt activation scope at').map
    (activationInvalidityError activation))

def isCurrentRunActivation (kernel : KernelContext) (activation : ActivationAttempt)
    (run : Run) : K Bool :=
  if activation.runId ≠ some run.id then pure false else do
    let at' ← kernel.readClock
    pure (activationValidityAt activation (.Run run) at').isNone

def requireRunActivation (kernel : KernelContext) (context : PrincipalContext)
    (principal : Principal) (run : Run) : K ActivationAttempt := do
  requireKind principal .agent
  throwIf (¬ truthy context.activationId)
    (kernelError .Unauthorized "An authenticated Activation is required.")
  let activation ← requireLiveActivation (context.activationId.getD "")
  throwIf (activation.runId ≠ some run.id ∨ activation.agentId ≠ run.ownerAgentId)
    (kernelError .Forbidden "The Activation does not own this Run.")
  let agent ← requireAgentForPrincipal principal.id
  throwIf (agent.id ≠ run.ownerAgentId)
    (kernelError .Forbidden "The Agent does not own this Run.")
  assertActivationScopeCurrent kernel activation
  pure activation

def authorizeActivationActor (principal : Principal) (context : PrincipalContext)
    (activation : ActivationAttempt) (allowFinished : Bool) : K Unit := do
  throwIf (¬ allowFinished ∧ activation.finishedAt.isSome)
    (kernelError .Conflict "The Activation is already finished.")
  (if principal.kind = .runtime then pure () else do
    throwIf (principal.kind ≠ .agent)
      (kernelError .Forbidden "This command requires runtime or Agent authority.")
    let agent ← requireAgentForPrincipal principal.id
    throwIf (agent.id ≠ activation.agentId)
      (kernelError .Forbidden "The Activation belongs to another Agent.")
    throwIf (¬ truthy context.activationId)
      (kernelError .Unauthorized
        "An Agent command requires an authenticated Activation context.")
    throwIf (context.activationId ≠ some activation.id)
      (kernelError .Forbidden "The capability context belongs to another Activation.") : K Unit)

/-! ## What a principal may read -/

/-- The project, channel and Thread an Activation works in. -/
def activationScope (activation : ActivationAttempt) : K (String × String × String) :=
  if truthy activation.runId then do
    let run ← requireRun (activation.runId.getD "")
    pure (run.projectId, run.homeChannelId, run.threadRootId)
  else do
    let attentionId ← require activation.attentionId (.fault .invalidStoredText)
    let attention ← requireAttention attentionId
    pure (attention.projectId, attention.channelId, attention.threadRootId)

def resolvePrincipalReadScope (kernel : KernelContext) (principal : Principal)
    (context : PrincipalContext) (projectId : String) : K PrincipalReadScope := do
  let _ ← requireProject projectId
  assertProjectAccess principal projectId
  (if principal.kind ≠ .agent then
    pure { projectId, channelId := none, threadRootId := none, runId := none }
  else do
    throwIf (¬ truthy context.activationId)
      (kernelError .Unauthorized
        "An Agent query requires an authenticated Activation context.")
    let agent ← requireAgentForPrincipal principal.id
    let activation ← requireLiveActivation (context.activationId.getD "")
    throwIf (activation.agentId ≠ agent.id)
      (kernelError .Forbidden "The Activation belongs to another Agent.")
    assertActivationScopeCurrent kernel activation
    let scope ← activationScope activation
    throwIf (scope.1 ≠ projectId)
      (kernelError .Forbidden "The Activation cannot read this Project.")
    pure
      { projectId := scope.1
        channelId := some scope.2.1
        threadRootId := some scope.2.2
        runId := activation.runId } : K PrincipalReadScope)

def assertAgentQueryScope (kernel : KernelContext) (principal : Principal)
    (context : PrincipalContext) (projectId threadRootId : String) (runId : Option String) :
    K PrincipalReadScope := do
  let scope ← resolvePrincipalReadScope kernel principal context projectId
  (if scope.threadRootId.isNone then pure () else do
    throwIf (truthy runId ∧ scope.runId ≠ runId)
      (kernelError .Forbidden "The Activation cannot read this Run.")
    throwIf (scope.threadRootId ≠ some threadRootId)
      (kernelError .Forbidden "The Activation cannot read this Thread.") : K Unit)
  pure scope

/-- The events of a Thread after a cursor, the first `limit` of them. -/
def threadEventsAfter (db : Database) (threadRootId : String) (cursor : Int) (limit : Nat) :
    List PublicEvent :=
  (((db.table PublicEvent).filter fun r =>
    r.threadRootId = some threadRootId && r.threadCursor.any fun c => cursor < (c : Int))
      |> orderByPair fun r => (r.threadCursor.getD 0, r.sequence)).take limit

def checkThreadCursor (kernel : KernelContext) (thread : Thread) (principal : Principal)
    (context : PrincipalContext) (expected : Option Int) : K Unit :=
  if expected.all ((thread.cursor : Int) = ·) then pure () else do
    let scope ← resolvePrincipalReadScope kernel principal context thread.projectId
    let rows ← gets fun w =>
      threadEventsAfter w.db thread.rootMessageId (expected.getD 0) 101
    let scanned := rows.take 100
    let events ← gets fun w => filterVisiblePublicEvents w.db scanned scope
    throwKernel .ConditionalCheckFailed "The Thread changed after the observed cursor."
      (some (.obj [("currentCursor", .nat thread.cursor),
        ("events", .arr (events.map fun event => (mapPublicEvent event).toJson)),
        ("scannedThroughEventId", .ofText (scanned.getLast?.map (·.eventId))),
        ("hasMore", .bool (100 < rows.length))]))

/-! ## Events -/

structure EventInput where
  type : EventType
  projectId : String
  channelId : Option String
  threadRootId : Option String
  threadCursor : Option Nat := none
  entityType : EntityType
  entityId : String
  actorPrincipalId : String
  activationId : Option String
  causationId : Option String
  correlationId : String
  payload : Json

def threadCursor (threadRootId : String) : K Nat := do
  let thread ← requireThread threadRootId
  pure thread.cursor

def emitEvent (kernel : KernelContext) (event : EventInput) : K Nat := do
  let eventId ← kernel.newId "event"
  let occurredAt ← kernel.now
  let table ← selectTable PublicEvent
  let sequence := nextSequence PublicEvent.sequence table.rows
  insertRow
    ({ sequence, eventId, occurredAt
       type := event.type
       projectId := event.projectId
       channelId := event.channelId
       threadRootId := event.threadRootId
       threadCursor := event.threadCursor
       entityType := event.entityType
       entityId := event.entityId
       actorPrincipalId := event.actorPrincipalId
       activationId := event.activationId
       causationId := event.causationId
       correlationId := event.correlationId
       payload := event.payload } : PublicEvent)
  pure sequence

/-- `emitThreadEvent(kernel, { ...event, threadRootId })`. -/
def emitThreadEvent (kernel : KernelContext) (threadRootId : String) (event : EventInput) :
    K Nat := do
  let previous ← threadCursor threadRootId
  let cursor := previous + 1
  updateRows (fun r : Thread => r.rootMessageId = threadRootId) fun r => { r with cursor }
  let _ ← emitEvent kernel
    { event with threadRootId := some threadRootId, threadCursor := some cursor }
  pure cursor

def recordAttentionHistory (attentionId : String) (eventSequence : Nat) : K Unit := do
  let attentions ← selectRows fun r : Attention => r.id = attentionId
  forEach attentions fun r =>
    insertRow
      ({ attentionId := r.id
         eventSequence
         status := r.status
         revision := r.revision
         handlerLeaseHolderPrincipalId := r.handlerLeaseHolderPrincipalId
         handlerLeaseExpiresAt := r.handlerLeaseExpiresAt
         resolutionOutcome := r.resolutionOutcome
         resolvedRunId := r.resolvedRunId
         resolvedAt := r.resolvedAt } : AttentionHistory)

def enqueueOutbox (kernel : KernelContext) (topic : OutboxTopic)
    (aggregateType : AggregateType) (aggregateId : String) (payload : Json) : K Unit := do
  let id ← kernel.newId "outbox"
  let createdAt ← kernel.now
  let table ← selectTable OutboxEvent
  insertRow
    ({ sequence := nextSequence OutboxEvent.sequence table.rows
       id, topic, aggregateType, aggregateId, payload, createdAt
       deliveryAttempts := 0
       leaseHolderPrincipalId := none
       leaseToken := none
       leaseExpiresAt := none
       acknowledgedAt := none
       acknowledgedByPrincipalId := none } : OutboxEvent)

/-! ## Snapshots -/

/-- A position in the event log: a sequence and the event there. -/
structure Snapshot where
  sequence : Nat
  eventId : Option String
  deriving DecidableEq

def Snapshot.ofEvent (event : Option PublicEvent) : Snapshot :=
  event.elim ⟨0, none⟩ fun event => ⟨event.sequence, some event.eventId⟩

def invalidProjectEventCursor : Failure :=
  kernelError .NotFound "Event cursor does not exist in the requested Project."

/-- A `snapshotEventId` is absent (`none`), `null` (`some none`) or an event of the log,
which stands for the last event with its correlation id. -/
def resolveSnapshot (inScope : PublicEvent → Bool) (missing : String → Failure)
    (snapshotEventId : Option (Option String)) : K Snapshot := do
  let log ← selectRows inScope
  (if snapshotEventId = some none then pure ⟨0, none⟩
  else if snapshotEventId = none then
    pure (.ofEvent (latestBy PublicEvent.sequence log))
  else do
    let eventId := (snapshotEventId.getD none).getD ""
    let event ← require (log.find? fun r => r.eventId = eventId) (missing eventId)
    let boundary ← require
      (latestBy PublicEvent.sequence
        (log.filter fun r => r.correlationId = event.correlationId))
      (.fault .missingCommandBoundary)
    pure (.ofEvent (some boundary)) : K Snapshot)

def resolvePublicSnapshot (projectId : String) (snapshotEventId : Option (Option String)) :
    K Snapshot :=
  resolveSnapshot (fun r => r.projectId = projectId) (fun _ => invalidProjectEventCursor)
    snapshotEventId

def resolveAttentionSnapshot (snapshotEventId : Option (Option String)) : K Snapshot :=
  resolveSnapshot (fun _ => true)
    (fun eventId => kernelError .NotFound s!"Event {eventId} does not exist.") snapshotEventId

def eventSequence (eventId : String) : K Nat := do
  let event ← requireRow (fun r : PublicEvent => r.eventId = eventId)
    (kernelError .NotFound s!"Event {eventId} does not exist.")
  pure event.sequence

def projectEventSequence (projectId eventId : String) : K Nat := do
  let event ← requireRow
    (fun r : PublicEvent => r.projectId = projectId && r.eventId = eventId)
    invalidProjectEventCursor
  pure event.sequence

/-! ## Successful checks -/

section Equations

variable {w w' : World} {u : Unit}

@[simp] theorem requirePrincipal_eq_ok {id : String} {principal : Principal} :
    requirePrincipal id w = (.ok principal, w') ↔
      (w.db.table Principal).find? (fun r => r.id = id) = some principal ∧ w = w' := by
  simp [requirePrincipal]

@[simp] theorem requireKind_eq_ok {principal : Principal} {kind : PrincipalKind} :
    requireKind principal kind w = (.ok u, w') ↔ principal.kind = kind ∧ w = w' := by
  simp [requireKind]

@[simp] theorem requireNonEmpty_eq_ok {value field : String} :
    requireNonEmpty value field w = (.ok u, w') ↔ trim value ≠ "" ∧ w = w' := by
  simp [requireNonEmpty]

@[simp] theorem boundedLimit_eq_ok {limit : Option Int} {n : Nat} :
    boundedLimit limit w = (.ok n, w') ↔
      (1 ≤ limit.getD 100 ∧ limit.getD 100 ≤ 500) ∧ (limit.getD 100).toNat = n ∧ w = w' := by
  simp [boundedLimit, and_assoc]

@[simp] theorem boundedDuration_eq_ok {durationMs : Int} {field : String} {n : Nat} :
    boundedDuration durationMs field w = (.ok n, w') ↔
      (1000 ≤ durationMs ∧ durationMs ≤ 300000) ∧ durationMs.toNat = n ∧ w = w' := by
  simp [boundedDuration, and_assoc]

@[simp] theorem checkRevision_eq_ok {actual : Nat} {expected : Int} {entity : String} :
    checkRevision actual expected entity w = (.ok u, w') ↔
      (actual : Int) = expected ∧ w = w' := by
  simp [checkRevision]

@[simp] theorem requireOutboxEvent_eq_ok {id : String} {event : OutboxEvent} :
    requireOutboxEvent id w = (.ok event, w') ↔
      (w.db.table OutboxEvent).find? (fun r => r.id = id) = some event ∧ w = w' := by
  simp [requireOutboxEvent]

end Equations

/-! ## Tables the functions write -/

section Within

set_option synthInstance.maxSize 100000

variable {R : World → World → Prop} {ts : List TableName} [Concerns R ts]
  [IsPreorder World R] (kernel : KernelContext)

instance (id : String) : Within R (requirePrincipal id) := by
  unfold requirePrincipal
  infer_instance

instance (principal : Principal) (kind : PrincipalKind) :
    Within R (requireKind principal kind) := by
  unfold requireKind
  infer_instance

instance (id : String) : Within R (requireAgent id) := by
  unfold requireAgent
  infer_instance

instance (id : String) : Within R (requireMessage id) := by
  unfold requireMessage
  infer_instance

instance (id : String) : Within R (requireProject id) := by
  unfold requireProject
  infer_instance

instance (id : String) : Within R (requireAgentForPrincipal id) := by
  unfold requireAgentForPrincipal
  infer_instance

instance (id : String) : Within R (requireThread id) := by
  unfold requireThread
  infer_instance

instance (id : String) : Within R (requireAttention id) := by
  unfold requireAttention
  infer_instance

instance (id : String) : Within R (requireRun id) := by
  unfold requireRun
  infer_instance

instance (id : String) : Within R (requireRunInput id) := by
  unfold requireRunInput
  infer_instance

instance (id : String) : Within R (requireActivation id) := by
  unfold requireActivation
  infer_instance

instance (id : String) : Within R (requireLiveActivation id) := by
  unfold requireLiveActivation
  infer_instance

instance (id : String) : Within R (requireProviderAttempt id) := by
  unfold requireProviderAttempt
  infer_instance

instance (id : String) : Within R (requireOutboxEvent id) := by
  unfold requireOutboxEvent
  infer_instance

instance (value field : String) : Within R (requireNonEmpty value field) := by
  unfold requireNonEmpty
  infer_instance

instance (limit : Option Int) : Within R (boundedLimit limit) := by
  unfold boundedLimit
  infer_instance

instance (durationMs : Int) (field : String) : Within R (boundedDuration durationMs field) := by
  unfold boundedDuration
  infer_instance

instance (actual : Nat) (expected : Int) (entity : String) :
    Within R (checkRevision actual expected entity) := by
  unfold checkRevision
  infer_instance

instance (runId : String) (expectedRevision : Option Int) :
    Within R (requireMutableRun runId expectedRevision) := by
  unfold requireMutableRun
  infer_instance

instance (projectId channelId : String) :
    Within R (assertProjectChannel projectId channelId) := by
  unfold assertProjectChannel
  infer_instance

instance (principal : Principal) (projectId : String) :
    Within R (assertProjectAccess principal projectId) := by
  unfold assertProjectAccess
  infer_instance

instance (disposition : RunInputDisposition) (reason : String) :
    Within R (validateDisposition disposition reason) := by
  unfold validateDisposition
  infer_instance

instance (attention : Attention) (leaseToken : String) :
    Within R (isAttentionDomainLeaseCurrent attention leaseToken) := by
  unfold isAttentionDomainLeaseCurrent
  infer_instance

instance (attention : Attention) (leaseToken : Option String) :
    Within R (assertAttentionLease kernel attention leaseToken) := by
  unfold assertAttentionLease
  infer_instance

instance [NotAmong .projectionActivationChanges ts] (activationIds : List String) :
    Within R (markActivationChanges activationIds) := by
  unfold markActivationChanges
  infer_instance

instance [NotAmong .projectionActivationChanges ts] [NotAmong .kernelRuntimeState ts]
    [NotAmong .attentionRecoveryExecutions ts] [NotAmong .activationAttempts ts]
    (runId reason : String) (revokedAt : Timestamp) :
    Within R (revokeRunActivations runId reason revokedAt) := by
  unfold revokeRunActivations
  infer_instance

instance [NotAmong .projectionActivationChanges ts] [NotAmong .kernelRuntimeState ts]
    [NotAmong .attentionRecoveryExecutions ts] [NotAmong .activationAttempts ts]
    [NotAmong .attentions ts] (existing : AttentionDomainFence) (at' : Timestamp) :
    Within R (supersedeAttention existing at') := by
  unfold supersedeAttention
  infer_instance

instance [NotAmong .projectionActivationChanges ts] [NotAmong .kernelRuntimeState ts]
    [NotAmong .attentionRecoveryExecutions ts] [NotAmong .activationAttempts ts]
    [NotAmong .attentions ts] [NotAmong .attentionDomainFences ts] (attention : Attention)
    (leaseToken : String) (leaseExpiresAt at' : Timestamp) (existing : AttentionDomainFence) :
    Within R (takeOverAttentionDomain attention leaseToken leaseExpiresAt at' existing) := by
  unfold takeOverAttentionDomain
  infer_instance

instance [NotAmong .projectionActivationChanges ts] [NotAmong .kernelRuntimeState ts]
    [NotAmong .attentionRecoveryExecutions ts] [NotAmong .activationAttempts ts]
    [NotAmong .attentions ts] [NotAmong .attentionDomainFences ts] (attention : Attention)
    (leaseToken : String) (leaseExpiresAt at' : Timestamp) :
    Within R (claimAttentionDomain attention leaseToken leaseExpiresAt at') := by
  unfold claimAttentionDomain
  infer_instance

instance [NotAmong .attentionDomainFences ts] (attentionId : String) :
    Within R (releaseAttentionDomainLease attentionId) := by
  unfold releaseAttentionDomainLease
  infer_instance

instance (activation : ActivationAttempt) :
    Within R (loadActivationScopeState activation) := by
  unfold loadActivationScopeState
  infer_instance

instance (activation : ActivationAttempt) :
    Within R (assertActivationScopeCurrent kernel activation) := by
  unfold assertActivationScopeCurrent
  infer_instance

instance (activation : ActivationAttempt) (run : Run) :
    Within R (isCurrentRunActivation kernel activation run) := by
  unfold isCurrentRunActivation
  infer_instance

instance (context : PrincipalContext) (principal : Principal) (run : Run) :
    Within R (requireRunActivation kernel context principal run) := by
  unfold requireRunActivation
  infer_instance

instance (principal : Principal) (context : PrincipalContext) (activation : ActivationAttempt)
    (allowFinished : Bool) :
    Within R (authorizeActivationActor principal context activation allowFinished) := by
  unfold authorizeActivationActor
  infer_instance

instance (activation : ActivationAttempt) : Within R (activationScope activation) := by
  unfold activationScope
  infer_instance

instance (principal : Principal) (context : PrincipalContext) (projectId : String) :
    Within R (resolvePrincipalReadScope kernel principal context projectId) := by
  unfold resolvePrincipalReadScope
  infer_instance

instance (principal : Principal) (context : PrincipalContext)
    (projectId threadRootId : String) (runId : Option String) :
    Within R (assertAgentQueryScope kernel principal context projectId threadRootId runId) := by
  unfold assertAgentQueryScope
  infer_instance

instance (thread : Thread) (principal : Principal) (context : PrincipalContext)
    (expected : Option Int) :
    Within R (checkThreadCursor kernel thread principal context expected) := by
  unfold checkThreadCursor
  infer_instance

instance (threadRootId : String) : Within R (threadCursor threadRootId) := by
  unfold threadCursor
  infer_instance

instance [NotAmong .publicEvents ts] (event : EventInput) : Within R (emitEvent kernel event) := by
  unfold emitEvent
  infer_instance

instance [NotAmong .publicEvents ts] [NotAmong .threads ts] (threadRootId : String)
    (event : EventInput) : Within R (emitThreadEvent kernel threadRootId event) := by
  unfold emitThreadEvent
  infer_instance

instance [NotAmong .attentionHistory ts] (attentionId : String) (eventSequence : Nat) :
    Within R (recordAttentionHistory attentionId eventSequence) := by
  unfold recordAttentionHistory
  infer_instance

/-- Appending to the Outbox stays within `R`. -/
class Enqueues (R : World → World → Prop) (kernel : KernelContext) : Prop where
  within : ∀ topic aggregateType aggregateId payload,
    Within R (enqueueOutbox kernel topic aggregateType aggregateId payload)

instance [NotAmong .outboxEvents ts] : Enqueues R kernel where
  within topic aggregateType aggregateId payload := by
    unfold enqueueOutbox
    infer_instance

instance {R : World → World → Prop} [h : Enqueues R kernel] (topic : OutboxTopic)
    (aggregateType : AggregateType) (aggregateId : String) (payload : Json) :
    Within R (enqueueOutbox kernel topic aggregateType aggregateId payload) :=
  h.within topic aggregateType aggregateId payload

instance (inScope : PublicEvent → Bool) (missing : String → Failure)
    (snapshotEventId : Option (Option String)) :
    Within R (resolveSnapshot inScope missing snapshotEventId) := by
  unfold resolveSnapshot
  infer_instance

instance (projectId : String) (snapshotEventId : Option (Option String)) :
    Within R (resolvePublicSnapshot projectId snapshotEventId) := by
  unfold resolvePublicSnapshot
  infer_instance

instance (snapshotEventId : Option (Option String)) :
    Within R (resolveAttentionSnapshot snapshotEventId) := by
  unfold resolveAttentionSnapshot
  infer_instance

instance (eventId : String) : Within R (eventSequence eventId) := by
  unfold eventSequence
  infer_instance

instance (projectId eventId : String) : Within R (projectEventSequence projectId eventId) := by
  unfold projectEventSequence
  infer_instance

end Within

end Torsor.Kernel
