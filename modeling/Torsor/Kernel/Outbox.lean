import Torsor.Kernel.Invariants

/-! # The Outbox

Runtimes lease a batch of the oldest pending events and acknowledge the whole batch. A
delivery of a Run input is admitted under a lease on exactly the oldest pending event.
-/

namespace Torsor.Kernel

open Torsor.Library Tx

/-- `WHERE acknowledged_at IS NULL ORDER BY sequence`. -/
def pendingOutboxEvents (db : Database) : List OutboxEvent :=
  orderBy OutboxEvent.sequence
    ((db.table OutboxEvent).filter fun r => r.acknowledgedAt.isNone)

/-- The lease on an event has not expired at `at'`. -/
def OutboxEvent.leaseLive (at' : Timestamp) (event : OutboxEvent) : Bool :=
  event.leaseExpiresAt.any (at' < ·)

/-- A principal holds the lease with this token, expired or not. -/
def OutboxEvent.leasedTo (principalId : String) (leaseToken : Option String)
    (event : OutboxEvent) : Bool :=
  event.leaseHolderPrincipalId = some principalId && event.leaseToken = leaseToken

/-- The pending events a principal leased with a token, in sequence order. -/
def leasedOutboxEvents (db : Database) (principalId : String) (leaseToken : Option String) :
    List OutboxEvent :=
  (pendingOutboxEvents db).filter (OutboxEvent.leasedTo principalId leaseToken)

/-- The event, leased to a principal for one more delivery. -/
def OutboxEvent.leaseTo (principalId leaseToken : String) (leaseExpiresAt : Timestamp)
    (event : OutboxEvent) : OutboxEvent :=
  { event with
    leaseHolderPrincipalId := some principalId
    leaseToken := some leaseToken
    leaseExpiresAt := some leaseExpiresAt
    deliveryAttempts := event.deliveryAttempts + 1 }

/-- The event, acknowledged by a principal. -/
def OutboxEvent.acknowledge (principalId : String) (at' : Timestamp) (event : OutboxEvent) :
    OutboxEvent :=
  { event with
    acknowledgedAt := some at'
    acknowledgedByPrincipalId := some principalId
    leaseHolderPrincipalId := none
    leaseToken := none
    leaseExpiresAt := none }

/-- Lease the events `ids` to a principal. -/
def leaseOutboxEvents (ids : List String) (principalId leaseToken : String)
    (leaseExpiresAt : Timestamp) : K Unit :=
  forEach ids fun id =>
    updateRows (fun r : OutboxEvent => r.id = id)
      (OutboxEvent.leaseTo principalId leaseToken leaseExpiresAt)

def claimOutboxEvents (kernel : KernelContext) (command : ClaimOutboxEventsCommand)
    (principal : Principal) : K CommandResult := do
  requireKind principal .runtime
  let limit ← boundedLimit command.limit
  let leaseDurationMs ← boundedDuration command.leaseDurationMs "leaseDurationMs"
  let now ← kernel.readClock
  let leaseToken ← kernel.newId "outbox_lease"
  let leaseExpiresAt := now + leaseDurationMs
  let pending ← gets fun w => pendingOutboxEvents w.db
  let claimable := (pending.take limit).takeWhile fun candidate => !candidate.leaseLive now
  leaseOutboxEvents (claimable.map (·.id)) principal.id leaseToken leaseExpiresAt
  let events ← mapEach claimable fun candidate => requireOutboxEvent candidate.id
  pure
    { commandType := .ClaimOutboxEvents
      entityId := leaseToken
      leaseToken := some leaseToken
      leaseExpiresAt := if events.isEmpty then none else some leaseExpiresAt
      outboxEvents := some (events.map mapOutboxEvent) }

/-- The lease on an event of the batch is live and is the one the command names. -/
def checkAcknowledgedEvent (kernel : KernelContext) (principal : Principal)
    (leaseToken : String) (event : OutboxEvent) : K Unit := do
  let notHeld := kernelError .Conflict
    s!"OutboxEvent {event.id} is not held by the current live lease."
  throwIf event.acknowledgedAt.isSome
    (kernelError .Conflict s!"OutboxEvent {event.id} is already acknowledged.")
  throwIf (¬ event.leasedTo principal.id (some leaseToken)) notHeld
  let leaseExpiresAt ← require event.leaseExpiresAt notHeld
  let now ← kernel.readClock
  throwIf (leaseExpiresAt ≤ now) notHeld

def acknowledgeOutboxEvents (kernel : KernelContext) (command : AcknowledgeOutboxEventsCommand)
    (principal : Principal) (correlationId : String) : K CommandResult := do
  requireKind principal .runtime
  throwIf (command.outboxEventIds = [])
    (kernelError .InvalidCommand "At least one OutboxEvent is required.")
  let ids := unique command.outboxEventIds
  throwIf (ids.length ≠ command.outboxEventIds.length)
    (kernelError .InvalidCommand
      "Outbox acknowledgement must not contain duplicate event IDs.")
  requireNonEmpty command.leaseToken "leaseToken"
  let now ← kernel.now
  let leasedRows ← gets fun w =>
    leasedOutboxEvents w.db principal.id (some command.leaseToken)
  throwIf (leasedRows.map (·.id) ≠ ids)
    (kernelError .InvalidCommand
      "Outbox acknowledgement must include the entire leased batch in cursor order.")
  let pending ← gets fun w => pendingOutboxEvents w.db
  let pendingPrefix := pending.take leasedRows.length
  throwIf (pendingPrefix.map (fun r => (r.id, r.sequence)) ≠
      leasedRows.map (fun r => (r.id, r.sequence)))
    (kernelError .Conflict
      "Outbox acknowledgement must exactly advance the oldest pending prefix.")
  let events ← mapEach ids requireOutboxEvent
  forEach events (checkAcknowledgedEvent kernel principal command.leaseToken)
  forEach events fun event =>
    updateRows (fun r : OutboxEvent => r.id = event.id)
      (OutboxEvent.acknowledge principal.id now)
  pure
    { commandType := .AcknowledgeOutboxEvents
      entityId := command.leaseToken
      relatedIds := [("acknowledgedCount", toString ids.length),
        ("correlationId", correlationId)] }

/-! ## Admission of a delivery -/

/-- The lease a delivery was admitted under and the moment that was observed. -/
structure DeliveryAuthority where
  leaseExpiresAt : Timestamp
  observedAt : Timestamp

structure OutboxDeliveryAuthority extends DeliveryAuthority where
  runInputId : String

def requireOutboxDeliveryAuthority (kernel : KernelContext) (command : OutboxAuthority)
    (principal : Principal) (runId : String) : K OutboxDeliveryAuthority := do
  requireKind principal .runtime
  requireNonEmpty (command.outboxEventId.getD "") "outboxEventId"
  requireNonEmpty (command.outboxLeaseToken.getD "") "outboxLeaseToken"
  let eventId := command.outboxEventId.getD ""
  let event ← requireOutboxEvent eventId
  let observed ← kernel.readClock
  let notHeld := kernelError .Conflict
    "The Outbox event is not held by the current live lease."
  throwIf (event.acknowledgedAt.isSome ∨
    ¬ event.leasedTo principal.id command.outboxLeaseToken) notHeld
  let leaseExpiresAt ← require event.leaseExpiresAt notHeld
  throwIf (leaseExpiresAt ≤ observed) notHeld
  throwIf (event.aggregateType ≠ .Run ∨ event.aggregateId ≠ runId ∨
      event.topic ∉ [OutboxTopic.runActivationRequested, .runInputAvailable])
    (kernelError .Conflict "The Outbox event does not authorize this Run delivery.")
  let leasedRows ← gets fun w =>
    leasedOutboxEvents w.db principal.id command.outboxLeaseToken
  throwIf (leasedRows.map (·.id) ≠ [eventId])
    (kernelError .Conflict
      "Delivery admission requires exclusive authority over one Outbox event.")
  let pending ← gets fun w => pendingOutboxEvents w.db
  throwIf (pending.head?.map (·.id) ≠ some eventId)
    (kernelError .Conflict "The Outbox event is no longer the oldest pending frontier.")
  let runInputId ← require
    ((event.payload.get? "runInputId").bind fun value =>
      match value with
      | .str runInputId => some runInputId
      | _ => none)
    (kernelError .Conflict "The Outbox event does not identify a Run input.")
  pure { leaseExpiresAt, observedAt := observed, runInputId }

def requireOutboxActivationAuthority (kernel : KernelContext) (command : OutboxAuthority)
    (principal : Principal) (runId : String) : K DeliveryAuthority := do
  let authority ← requireOutboxDeliveryAuthority kernel command principal runId
  let runInput ← selectRow fun r : RunInput => r.id = authority.runInputId
  throwIf (¬ runInput.any fun r => r.runId = runId && r.disposition = .Pending)
    (kernelError .Conflict "The Outbox event input is not a Pending input for this Run.")
  pure authority.toDeliveryAuthority

def requireOutboxProviderAuthority (kernel : KernelContext) (command : OutboxAuthority)
    (principal : Principal) (runId : String) (runInputIds : List String) :
    K DeliveryAuthority := do
  let authority ← requireOutboxDeliveryAuthority kernel command principal runId
  throwIf (authority.runInputId ∉ runInputIds)
    (kernelError .Conflict
      "The Outbox event input is not included in this provider delivery.")
  pure authority.toDeliveryAuthority

/-! ## Replay of a claim -/

def staleCachedOutboxClaim : Failure :=
  kernelError .Conflict
    "The cached Outbox claim is no longer the current authoritative pending batch."

/-- A claim whose batch is still leased is answered as it stands. -/
def replayLiveOutboxClaim (result : CommandResult) (rows : List OutboxEvent) :
    K CommandResult := do
  let persistedExpiry := rows.head?.bind (·.leaseExpiresAt)
  throwIf (¬ rows.all (·.leaseExpiresAt = persistedExpiry)) (.fault .inconsistentOutboxLease)
  pure
    { result with
      leaseExpiresAt := persistedExpiry
      outboxEvents := some (rows.map mapOutboxEvent) }

/-- A claim whose lease ran out leases the same batch again, if it is still the oldest. -/
def renewOutboxClaim (kernel : KernelContext) (command : ClaimOutboxEventsCommand)
    (result : CommandResult) (principal : Principal) (now : Timestamp)
    (rows : List OutboxEvent) (originalIds : List String) : K CommandResult := do
  throwIf (¬ rows.all (OutboxEvent.leasedTo principal.id result.leaseToken))
    staleCachedOutboxClaim
  throwIf (rows.any (OutboxEvent.leaseLive now)) staleCachedOutboxClaim
  let pending ← gets fun w => pendingOutboxEvents w.db
  throwIf ((pending.take originalIds.length).map (·.id) ≠ originalIds)
    staleCachedOutboxClaim
  let leaseDurationMs ← boundedDuration command.leaseDurationMs "leaseDurationMs"
  let leaseToken ← kernel.newId "outbox_lease"
  let leaseExpiresAt := now + leaseDurationMs
  leaseOutboxEvents originalIds principal.id leaseToken leaseExpiresAt
  let events ← mapEach originalIds requireOutboxEvent
  pure
    { result with
      entityId := leaseToken
      leaseToken := some leaseToken
      leaseExpiresAt := some leaseExpiresAt
      outboxEvents := some (events.map mapOutboxEvent) }

def resolveCachedOutboxClaim (kernel : KernelContext) (command : ClaimOutboxEventsCommand)
    (result : CommandResult) (principal : Principal) : K CommandResult :=
  if ¬ truthy result.leaseToken ∨ result.outboxEvents.all (·.isEmpty) then pure result
  else do
    let now ← kernel.readClock
    let originalIds := (result.outboxEvents.getD []).map (·.id)
    let found ← mapEach originalIds fun id => selectRow fun r : OutboxEvent => r.id = id
    throwIf (found.any fun row => row.all (·.acknowledgedAt.isSome)) staleCachedOutboxClaim
    let rows := found.reduceOption
    (if rows.all fun row =>
        row.leasedTo principal.id result.leaseToken && row.leaseLive now then
      replayLiveOutboxClaim result rows
    else
      renewOutboxClaim kernel command result principal now rows originalIds : K CommandResult)

section Within

set_option synthInstance.maxSize 100000

variable {R : World → World → Prop} {ts : List TableName} [Concerns R ts]
  [IsPreorder World R] (kernel : KernelContext)

instance [NotAmong .outboxEvents ts] (ids : List String) (principalId leaseToken : String)
    (leaseExpiresAt : Timestamp) :
    Within R (leaseOutboxEvents ids principalId leaseToken leaseExpiresAt) := by
  unfold leaseOutboxEvents
  infer_instance

instance [NotAmong .outboxEvents ts] (command : ClaimOutboxEventsCommand)
    (principal : Principal) : Within R (claimOutboxEvents kernel command principal) := by
  unfold claimOutboxEvents
  infer_instance

instance (principal : Principal) (leaseToken : String) (event : OutboxEvent) :
    Within R (checkAcknowledgedEvent kernel principal leaseToken event) := by
  unfold checkAcknowledgedEvent
  infer_instance

instance [NotAmong .outboxEvents ts] (command : AcknowledgeOutboxEventsCommand)
    (principal : Principal) (correlationId : String) :
    Within R (acknowledgeOutboxEvents kernel command principal correlationId) := by
  unfold acknowledgeOutboxEvents
  infer_instance

instance (command : OutboxAuthority) (principal : Principal) (runId : String) :
    Within R (requireOutboxDeliveryAuthority kernel command principal runId) := by
  unfold requireOutboxDeliveryAuthority
  infer_instance

instance (command : OutboxAuthority) (principal : Principal) (runId : String) :
    Within R (requireOutboxActivationAuthority kernel command principal runId) := by
  unfold requireOutboxActivationAuthority
  infer_instance

instance (command : OutboxAuthority) (principal : Principal) (runId : String)
    (runInputIds : List String) :
    Within R (requireOutboxProviderAuthority kernel command principal runId runInputIds) := by
  unfold requireOutboxProviderAuthority
  infer_instance

instance (result : CommandResult) (rows : List OutboxEvent) :
    Within R (replayLiveOutboxClaim result rows) := by
  unfold replayLiveOutboxClaim
  infer_instance

instance [NotAmong .outboxEvents ts] (command : ClaimOutboxEventsCommand)
    (result : CommandResult) (principal : Principal) (now : Timestamp)
    (rows : List OutboxEvent) (originalIds : List String) :
    Within R (renewOutboxClaim kernel command result principal now rows originalIds) := by
  unfold renewOutboxClaim
  infer_instance

instance [NotAmong .outboxEvents ts] (command : ClaimOutboxEventsCommand)
    (result : CommandResult) (principal : Principal) :
    Within R (resolveCachedOutboxClaim kernel command result principal) := by
  unfold resolveCachedOutboxClaim
  infer_instance

end Within

end Torsor.Kernel
