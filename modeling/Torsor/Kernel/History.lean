import Torsor.Library.Versions
import Torsor.Kernel.Invariants

/-! # Versions of the projected rows

After a command, the rows its events are about get a version stamped with the last event
sequence of the command's correlation id, and new rows are stamped as created there. What
a command has changed is inferred from its events, and for Activations also from the
temporary table `projection_activation_changes`.
-/

namespace Torsor.Kernel

open Torsor.Library Tx

/-! ## What a version records -/

def runVersioning : Versioning String Run RunHistory where
  id := Run.id
  versionId := RunHistory.runId
  sequence := RunHistory.eventSequence
  version eventSequence r :=
    { runId := r.id
      eventSequence
      state := r.state
      revision := r.revision
      agentConfigRevision := r.agentConfigRevision
      activationGeneration := r.activationGeneration
      updatedAt := r.updatedAt
      terminalReason := r.terminalReason }
  restore h r :=
    { r with
      state := h.state
      revision := h.revision
      agentConfigRevision := h.agentConfigRevision
      activationGeneration := h.activationGeneration
      updatedAt := h.updatedAt
      terminalReason := h.terminalReason }
  unchanged h r :=
    h.state = r.state && h.revision = r.revision &&
      h.agentConfigRevision = r.agentConfigRevision &&
      h.activationGeneration = r.activationGeneration && h.updatedAt = r.updatedAt &&
      h.terminalReason = r.terminalReason
  versionId_version _ _ := rfl
  sequence_version _ _ := rfl
  unchanged_version _ _ := by simp
  restore_of_unchanged h r hsame := by
    simp only [Bool.and_eq_true, decide_eq_true_eq] at hsame
    obtain ⟨⟨⟨⟨⟨hstate, hrevision⟩, hconfig⟩, hgeneration⟩, hupdated⟩, hreason⟩ := hsame
    rw [hstate, hrevision, hconfig, hgeneration, hupdated, hreason]

def runInputVersioning : Versioning String RunInput RunInputHistory where
  id := RunInput.id
  versionId := RunInputHistory.runInputId
  sequence := RunInputHistory.eventSequence
  version eventSequence r :=
    { runInputId := r.id
      eventSequence
      disposition := r.disposition
      dispositionRevision := r.dispositionRevision
      dispositionReason := r.dispositionReason
      supersededByRunInputId := r.supersededByRunInputId }
  restore h r :=
    { r with
      disposition := h.disposition
      dispositionRevision := h.dispositionRevision
      dispositionReason := h.dispositionReason
      supersededByRunInputId := h.supersededByRunInputId }
  unchanged h r :=
    h.disposition = r.disposition && h.dispositionRevision = r.dispositionRevision &&
      h.dispositionReason = r.dispositionReason &&
      h.supersededByRunInputId = r.supersededByRunInputId
  versionId_version _ _ := rfl
  sequence_version _ _ := rfl
  unchanged_version _ _ := by simp
  restore_of_unchanged h r hsame := by
    simp only [Bool.and_eq_true, decide_eq_true_eq] at hsame
    obtain ⟨⟨⟨hdisposition, hrevision⟩, hreason⟩, hsuperseded⟩ := hsame
    rw [hdisposition, hrevision, hreason, hsuperseded]

def activationVersioning : Versioning String ActivationAttempt ActivationHistory where
  id := ActivationAttempt.id
  versionId := ActivationHistory.activationId
  sequence := ActivationHistory.eventSequence
  version eventSequence r :=
    { activationId := r.id
      eventSequence
      revokedAt := r.revokedAt
      revocationReason := r.revocationReason
      finishedAt := r.finishedAt
      outcome := r.outcome
      detail := r.detail }
  restore h r :=
    { r with
      revokedAt := h.revokedAt
      revocationReason := h.revocationReason
      finishedAt := h.finishedAt
      outcome := h.outcome
      detail := h.detail }
  unchanged h r :=
    h.revokedAt = r.revokedAt && h.revocationReason = r.revocationReason &&
      h.finishedAt = r.finishedAt && h.outcome = r.outcome && h.detail = r.detail
  versionId_version _ _ := rfl
  sequence_version _ _ := rfl
  unchanged_version _ _ := by simp
  restore_of_unchanged h r hsame := by
    simp only [Bool.and_eq_true, decide_eq_true_eq] at hsame
    obtain ⟨⟨⟨⟨hrevoked, hreason⟩, hfinished⟩, houtcome⟩, hdetail⟩ := hsame
    rw [hrevoked, hreason, hfinished, houtcome, hdetail]

def providerAttemptVersioning :
    Versioning String ProviderAttempt ProviderAttemptHistory where
  id := ProviderAttempt.id
  versionId := ProviderAttemptHistory.providerAttemptId
  sequence := ProviderAttemptHistory.eventSequence
  version eventSequence r :=
    { providerAttemptId := r.id
      eventSequence
      status := r.status
      detail := r.detail
      finishedAt := r.finishedAt }
  restore h r := { r with status := h.status, detail := h.detail, finishedAt := h.finishedAt }
  unchanged h r := h.status = r.status && h.detail = r.detail && h.finishedAt = r.finishedAt
  versionId_version _ _ := rfl
  sequence_version _ _ := rfl
  unchanged_version _ _ := by simp
  restore_of_unchanged h r hsame := by
    simp only [Bool.and_eq_true, decide_eq_true_eq] at hsame
    obtain ⟨⟨hstatus, hdetail⟩, hfinished⟩ := hsame
    rw [hstatus, hdetail, hfinished]

/-- The versions `recordAttentionHistory` inserts, whether or not a column changed. -/
def attentionVersioning : Versioning String Attention AttentionHistory where
  id := Attention.id
  versionId := AttentionHistory.attentionId
  sequence := AttentionHistory.eventSequence
  version eventSequence r :=
    { attentionId := r.id
      eventSequence
      status := r.status
      revision := r.revision
      handlerLeaseHolderPrincipalId := r.handlerLeaseHolderPrincipalId
      handlerLeaseExpiresAt := r.handlerLeaseExpiresAt
      resolutionOutcome := r.resolutionOutcome
      resolvedRunId := r.resolvedRunId
      resolvedAt := r.resolvedAt }
  restore h r :=
    { r with
      status := h.status
      revision := h.revision
      handlerLeaseHolderPrincipalId := h.handlerLeaseHolderPrincipalId
      handlerLeaseExpiresAt := h.handlerLeaseExpiresAt
      resolutionOutcome := h.resolutionOutcome
      resolvedRunId := h.resolvedRunId
      resolvedAt := h.resolvedAt }
  unchanged h r :=
    h.status = r.status && h.revision = r.revision &&
      h.handlerLeaseHolderPrincipalId = r.handlerLeaseHolderPrincipalId &&
      h.handlerLeaseExpiresAt = r.handlerLeaseExpiresAt &&
      h.resolutionOutcome = r.resolutionOutcome && h.resolvedRunId = r.resolvedRunId &&
      h.resolvedAt = r.resolvedAt
  versionId_version _ _ := rfl
  sequence_version _ _ := rfl
  unchanged_version _ _ := by simp
  restore_of_unchanged h r hsame := by
    simp only [Bool.and_eq_true, decide_eq_true_eq] at hsame
    obtain ⟨⟨⟨⟨⟨⟨hstatus, hrevision⟩, hholder⟩, hexpires⟩, houtcome⟩, hrun⟩, hresolved⟩ := hsame
    rw [hstatus, hrevision, hholder, hexpires, houtcome, hrun, hresolved]

/-! ## What the events of a correlation id are about -/

def correlatedEvents (db : Database) (correlationId : String) : List PublicEvent :=
  (db.table PublicEvent).filter fun event => event.correlationId = correlationId

def eventEntityIds (db : Database) (correlationId : String) (entityType : EntityType) :
    List String :=
  unique (((correlatedEvents db correlationId).filter fun event =>
    event.entityType = entityType).map (·.entityId))

def correlationHasEvent (db : Database) (correlationId : String) (types : List EventType) :
    Bool :=
  (correlatedEvents db correlationId).any fun event => event.type ∈ types

/-- `SELECT MAX(sequence)` over the events of the correlation id. -/
def boundarySequence (db : Database) (correlationId : String) : Option Nat :=
  (latestBy PublicEvent.sequence (correlatedEvents db correlationId)).map (·.sequence)

/-- The six branches of a `UNION`, which returns every Run once. -/
def affectedRuns (db : Database) (correlationId : String) : List String :=
  let entityIds := eventEntityIds db correlationId
  unique
    (entityIds .Run ++
      (((db.table RunInput).filter fun r => r.id ∈ entityIds .RunInput).map (·.runId) ++
      (((db.table Artifact).filter fun r => r.id ∈ entityIds .Artifact).map (·.producerRunId) ++
      (((db.table ActivationAttempt).filter fun r =>
        r.id ∈ entityIds .ActivationAttempt).filterMap (·.runId) ++
      (((db.table ProviderAttempt).filter fun r =>
        r.id ∈ entityIds .ProviderAttempt).filterMap (·.runId) ++
      ((db.table RunActivityEvent).filter fun r =>
        r.id ∈ entityIds .RunActivityEvent).map (·.runId))))))

def affectedRunInputs (db : Database) (correlationId : String) (eventSequence : Nat)
    (affectedRunIds : List String) : List String :=
  let terminated := correlationHasEvent db correlationId [.RunCompleted, .RunFailed, .RunCancelled]
  unique (eventEntityIds db correlationId .RunInput ++
    ((db.table RunInput).filter fun r =>
      r.runId ∈ affectedRunIds &&
        (terminated || r.createdEventSequence = some eventSequence)).map (·.id))

def affectedActivations (db : Database) (correlationId : String) : List String :=
  unique (eventEntityIds db correlationId .ActivationAttempt ++
    (db.table ProjectionActivationChange).rows.map (·.activationId))

/-! ## Recording -/

/-- `COALESCE(created_event_sequence, ?)`. -/
def stamp (eventSequence : Nat) (created : Option Nat) : Option Nat :=
  created.or (some eventSequence)

/-- The version of a row at `eventSequence`, unless its latest version says the same. -/
def recordVersion {ρ η : Type} [Keyed ρ UniqueKey] [Keyed η UniqueKey] {t u : TableName}
    [Stored ρ t] [Stored η u] (v : Versioning String ρ η) (eventSequence : Nat)
    (id : String) : K Unit := do
  let current ← requireRow (fun r : ρ => v.id r = id) (.fault .missingVersionedRow)
  let previous ← gets fun w => v.latest (w.db.table η).rows id
  (if previous.any (v.unchanged · current) then pure ()
  else insertRow (v.version eventSequence current) : K Unit)

def recordRunVersion (eventSequence : Nat) (runId : String) : K Unit :=
  recordVersion runVersioning eventSequence runId

def recordRunInputVersion (eventSequence : Nat) (runInputId : String) : K Unit :=
  recordVersion runInputVersioning eventSequence runInputId

def recordActivationVersion (eventSequence : Nat) (activationId : String) : K Unit :=
  recordVersion activationVersioning eventSequence activationId

def recordProviderAttemptVersion (eventSequence : Nat) (providerAttemptId : String) : K Unit :=
  recordVersion providerAttemptVersioning eventSequence providerAttemptId

def markImmutableComponents (correlationId : String) (eventSequence : Nat) : K Unit := do
  let events ← gets fun w => correlatedEvents w.db correlationId
  updateRows (fun r : Thread => events.any (·.threadRootId = some r.rootMessageId)) fun r =>
    { r with createdEventSequence := stamp eventSequence r.createdEventSequence }
  let entityIds ← gets fun w => eventEntityIds w.db correlationId
  updateRows (fun r : Message => r.id ∈ entityIds .Message) fun r =>
    { r with createdEventSequence := stamp eventSequence r.createdEventSequence }
  updateRows (fun r : MessageRevision => r.messageId ∈ entityIds .Message) fun r =>
    { r with createdEventSequence := stamp eventSequence r.createdEventSequence }
  let revisions ← selectRows fun r : MessageRevision => r.messageId ∈ entityIds .Message
  updateRows (fun r : Mention => revisions.any (·.id = r.messageRevisionId)) fun r =>
    { r with createdEventSequence := stamp eventSequence r.createdEventSequence }
  updateRows (fun r : RunInput => r.id ∈ entityIds .RunInput) fun r =>
    { r with createdEventSequence := stamp eventSequence r.createdEventSequence }
  updateRows (fun r : ActivationAttempt => r.id ∈ entityIds .ActivationAttempt) fun r =>
    { r with createdEventSequence := stamp eventSequence r.createdEventSequence }
  updateRows (fun r : ProviderAttempt => r.id ∈ entityIds .ProviderAttempt) fun r =>
    { r with createdEventSequence := stamp eventSequence r.createdEventSequence }
  updateRows (fun r : RunActivityEvent => r.id ∈ entityIds .RunActivityEvent) fun r =>
    { r with createdEventSequence := stamp eventSequence r.createdEventSequence }
  updateRows (fun r : Artifact => r.id ∈ entityIds .Artifact) fun r =>
    { r with createdEventSequence := stamp eventSequence r.createdEventSequence }

/-- What is recorded of one affected Run. -/
def recordAffectedRun (eventSequence : Nat) (runId : String) : K Unit := do
  updateRows (fun r : Run => r.id = runId) fun r =>
    { r with createdEventSequence := stamp eventSequence r.createdEventSequence }
  updateRows (fun r : RunInput => r.runId = runId && r.createdEventSequence.isNone) fun r =>
    { r with createdEventSequence := stamp eventSequence r.createdEventSequence }
  updateRows (fun r : RunActivityEvent => r.runId = runId && r.createdEventSequence.isNone)
    fun r => { r with createdEventSequence := stamp eventSequence r.createdEventSequence }
  recordRunVersion eventSequence runId

def recordVersionsAt (correlationId : String) (eventSequence : Nat) : K Unit := do
  markImmutableComponents correlationId eventSequence
  let runIds ← gets fun w => affectedRuns w.db correlationId
  forEach runIds (recordAffectedRun eventSequence)
  let runInputIds ← gets fun w => affectedRunInputs w.db correlationId eventSequence runIds
  forEach runInputIds (recordRunInputVersion eventSequence)
  let activationIds ← gets fun w => affectedActivations w.db correlationId
  forEach activationIds (recordActivationVersion eventSequence)
  let providerAttemptIds ← gets fun w => eventEntityIds w.db correlationId .ProviderAttempt
  forEach providerAttemptIds (recordProviderAttemptVersion eventSequence)
  deleteRows fun _ : ProjectionActivationChange => true

def recordProjectionVersions (correlationId : String) : K Unit := do
  let boundary ← gets fun w => boundarySequence w.db correlationId
  boundary.elim (pure ()) (recordVersionsAt correlationId)

/-! ## Tables the functions write -/

section Within

set_option synthInstance.maxSize 100000

variable {R : World → World → Prop} {ts : List TableName} [Concerns R ts]
  [IsPreorder World R]

instance {ρ η : Type} [Keyed ρ UniqueKey] [Keyed η UniqueKey] {t u : TableName} [Stored ρ t]
    [Stored η u] [NotAmong u ts] (v : Versioning String ρ η) (eventSequence : Nat)
    (id : String) : Within R (recordVersion v eventSequence id) := by
  unfold recordVersion
  infer_instance

instance [NotAmong .runHistory ts] (eventSequence : Nat) (runId : String) :
    Within R (recordRunVersion eventSequence runId) := by
  unfold recordRunVersion
  infer_instance

instance [NotAmong .runInputHistory ts] (eventSequence : Nat) (runInputId : String) :
    Within R (recordRunInputVersion eventSequence runInputId) := by
  unfold recordRunInputVersion
  infer_instance

instance [NotAmong .activationHistory ts] (eventSequence : Nat) (activationId : String) :
    Within R (recordActivationVersion eventSequence activationId) := by
  unfold recordActivationVersion
  infer_instance

instance [NotAmong .providerAttemptHistory ts] (eventSequence : Nat)
    (providerAttemptId : String) :
    Within R (recordProviderAttemptVersion eventSequence providerAttemptId) := by
  unfold recordProviderAttemptVersion
  infer_instance

variable [NotAmong .runInputs ts] [NotAmong .runActivityEvents ts]

instance [NotAmong .threads ts] [NotAmong .messages ts] [NotAmong .messageRevisions ts]
    [NotAmong .mentions ts] [NotAmong .activationAttempts ts] [NotAmong .providerAttempts ts]
    [NotAmong .artifacts ts] (correlationId : String) (eventSequence : Nat) :
    Within R (markImmutableComponents correlationId eventSequence) := by
  unfold markImmutableComponents
  infer_instance

variable [NotAmong .runs ts] [NotAmong .runHistory ts]

instance (eventSequence : Nat) (runId : String) :
    Within R (recordAffectedRun eventSequence runId) := by
  unfold recordAffectedRun
  infer_instance

variable [NotAmong .threads ts] [NotAmong .messages ts] [NotAmong .messageRevisions ts]
  [NotAmong .mentions ts] [NotAmong .activationAttempts ts] [NotAmong .providerAttempts ts]
  [NotAmong .artifacts ts] [NotAmong .runInputHistory ts] [NotAmong .activationHistory ts]
  [NotAmong .providerAttemptHistory ts] [NotAmong .projectionActivationChanges ts]

instance (correlationId : String) (eventSequence : Nat) :
    Within R (recordVersionsAt correlationId eventSequence) := by
  unfold recordVersionsAt
  infer_instance

instance (correlationId : String) : Within R (recordProjectionVersions correlationId) := by
  unfold recordProjectionVersions
  infer_instance

end Within

end Torsor.Kernel
