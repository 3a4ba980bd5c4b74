import Mathlib.Logic.Function.Basic
import Torsor.Kernel.Commits

/-! # The book of the Worktrees

What the tables say about Worktrees is a state machine of its own: the lease of every
Worktree with the ledger of its changes, the registered directories and their executions.
A lease changes by a move that the ledger records; an execution starts under the Active
lease of an idle Worktree and is recorded until it has stopped. Every call of the Kernel is
a run of such steps.
-/

namespace Torsor.Kernel

open Torsor.Library Tx

/-! ## States -/

@[ext]
structure WorktreeBook where
  lease : String → Option WorktreeWriterLease
  ledger : List WorktreeWriterLeaseEvent
  worktree : String → Option PhysicalWorktree
  executions : List WorktreeExecution

/-- The process an execution runs in is not part of the book. -/
def WorktreeExecution.withoutProcess (r : WorktreeExecution) : WorktreeExecution :=
  { r with pid := none }

def worktreeBook (db : Database) : WorktreeBook where
  lease worktreeId := (db.table WorktreeWriterLease).find? fun r => r.worktreeId = worktreeId
  ledger := (db.table WorktreeWriterLeaseEvent).rows
  worktree worktreeId := (db.table PhysicalWorktree).find? fun r => r.worktreeId = worktreeId
  executions := (db.table WorktreeExecution).rows.map WorktreeExecution.withoutProcess

/-- The event says which lease a change has left. -/
structure WorktreeWriterLeaseEvent.Records (event : WorktreeWriterLeaseEvent)
    (type : WorktreeWriterLeaseEventType) (lease : WorktreeWriterLease) : Prop where
  type_eq : event.type = type
  worktreeId_eq : event.worktreeId = lease.worktreeId
  revision_eq : event.revision = lease.revision
  generation_eq : event.generation = lease.generation
  fencingToken_eq : event.fencingToken = lease.fencingToken
  holderPrincipalId_eq : event.holderPrincipalId = lease.holderPrincipalId
  expiresAt_eq : event.expiresAt = lease.expiresAt

namespace WorktreeBook

/-- Nothing runs in the Worktree that is not known to have stopped. -/
structure Idle (b : WorktreeBook) (worktreeId : String) : Prop where
  worktree : ∀ r, b.worktree worktreeId = some r → r.state ≠ .Quarantined
  executions : ∀ e ∈ b.executions, e.worktreeId = worktreeId → isStopped e.state = true

def setLease (b : WorktreeBook) (r : WorktreeWriterLease) : WorktreeBook :=
  { b with lease := Function.update b.lease r.worktreeId (some r) }

def revoke (b : WorktreeBook) (id : String) (revokedAt : Timestamp) (reason : String) :
    WorktreeBook :=
  { b with
    executions := b.executions.map fun r =>
      if r.id = id ∧ r.authorityRevokedAt = none then
        { r with authorityRevokedAt := some revokedAt, authorityRevocationReason := some reason }
      else r }

/-- What the state of an execution makes of the state of its Worktree. -/
def worktreeState (state : WorktreeExecutionState) (previous : PhysicalWorktreeState) :
    PhysicalWorktreeState :=
  if state = .Uncertain then .Quarantined else if isStopped state then .Ready else previous

def record (b : WorktreeBook) (e : WorktreeExecution) (state : WorktreeExecutionState) :
    WorktreeBook :=
  { b with
    executions := b.executions.map fun r => if r.id = e.id then { r with state } else r
    worktree := fun worktreeId =>
      if worktreeId = e.worktreeId then
        (b.worktree worktreeId).map fun r => { r with state := worktreeState state r.state }
      else b.worktree worktreeId }

@[simp] theorem setLease_lease_self (b : WorktreeBook) (r : WorktreeWriterLease) :
    (b.setLease r).lease r.worktreeId = some r :=
  Function.update_self _ _ _

/-! ## Steps -/

/-- How a lease may change, with the event that records it. -/
inductive LeaseMove (b : WorktreeBook) :
    WorktreeWriterLeaseEventType → WorktreeWriterLease → Prop where
  | expire {r : WorktreeWriterLease} {observedAt : Timestamp}
      (hr : b.lease r.worktreeId = some r) (hexpired : r.expired observedAt = true) :
      LeaseMove b .WorktreeWriterLeaseExpired (r.expire observedAt)
  | acquire {worktreeId principalId leaseToken : String} {observedAt expiresAt : Timestamp}
      (hidle : b.Idle worktreeId)
      (hfree : ∀ r, b.lease worktreeId = some r → r.status ≠ .Active ∧ r.status ≠ .Quarantined) :
      LeaseMove b .WorktreeWriterLeaseAcquired
        (acquiredLease worktreeId (b.lease worktreeId) principalId leaseToken observedAt expiresAt)
  | renew {r : WorktreeWriterLease} {observedAt expiresAt : Timestamp}
      (hr : b.lease r.worktreeId = some r) (hactive : r.status = .Active) :
      LeaseMove b .WorktreeWriterLeaseRenewed
        { r with
          revision := r.revision + 1
          renewedAt := some observedAt
          expiresAt := some expiresAt
          updatedAt := observedAt }
  | release {r : WorktreeWriterLease} {observedAt : Timestamp}
      (hidle : b.Idle r.worktreeId) (hr : b.lease r.worktreeId = some r)
      (hactive : r.status = .Active) :
      LeaseMove b .WorktreeWriterLeaseReleased
        { r with
          revision := r.revision + 1
          status := .Released
          holderPrincipalId := none
          leaseToken := none
          expiresAt := none
          releasedAt := some observedAt
          updatedAt := observedAt }
  | quarantine {command : QuarantineWorktreeWriterLeaseCommand} {quarantineToken : String}
      {observedAt : Timestamp}
      (hfree : ∀ r, b.lease command.worktreeId = some r → r.status ≠ .Quarantined) :
      LeaseMove b .WorktreeWriterLeaseQuarantined
        (WorktreeWriterLease.quarantine (b.lease command.worktreeId) command quarantineToken
          observedAt
          ((b.lease command.worktreeId).getD (blankLease command.worktreeId observedAt)))
  | resolve {r : WorktreeWriterLease} {observedAt : Timestamp} {resolution : String}
      (hidle : b.Idle r.worktreeId) (hr : b.lease r.worktreeId = some r)
      (hquarantined : r.status = .Quarantined) :
      LeaseMove b .WorktreeWriterLeaseQuarantineResolved
        { r with
          revision := r.revision + 1
          status := .Released
          quarantineReason := none
          quarantineToken := none
          quarantineEvidence := none
          quarantinedAt := none
          quarantineResolvedAt := some observedAt
          quarantineResolution := some resolution
          updatedAt := observedAt }

/-- The Active lease of the Worktree has the generation and the token of the execution. -/
def Grants (b : WorktreeBook) (e : WorktreeExecution) : Prop :=
  ∃ r, b.lease e.worktreeId = some r ∧ r.status = .Active ∧ r.generation = e.generation ∧
    r.fencingToken = e.fencingToken

inductive Step (b : WorktreeBook) : WorktreeBook → Prop where
  | lease {type : WorktreeWriterLeaseEventType} {r : WorktreeWriterLease}
      {event : WorktreeWriterLeaseEvent} (hmove : LeaseMove b type r)
      (hevent : event.Records type r) (hlast : ∀ e ∈ b.ledger, e.sequence < event.sequence) :
      Step b { b.setLease r with ledger := b.ledger ++ [event] }
  | register {worktree : PhysicalWorktree} (hnew : b.worktree worktree.worktreeId = none)
      (hready : worktree.state = .Ready) :
      Step b { b with
        worktree := Function.update b.worktree worktree.worktreeId (some worktree) }
  | start {e : WorktreeExecution} (hworktree : b.worktree e.worktreeId ≠ none)
      (hidle : b.Idle e.worktreeId) (hgrants : b.Grants e) (hstate : e.state = .Starting)
      (hrevoked : e.authorityRevokedAt = none) (hnew : ∀ x ∈ b.executions, x.id ≠ e.id) :
      Step b { b with executions := b.executions ++ [e] }
  | record {e : WorktreeExecution} {state : WorktreeExecutionState} (he : e ∈ b.executions)
      (hallowed : state ∈ allowedExecutionStates e.state) : Step b (b.record e state)
  | revoke (id : String) (revokedAt : Timestamp) (reason : String) :
      Step b (b.revoke id revokedAt reason)

end WorktreeBook

/-- The book makes a run of steps. -/
def WorktreeSteps (w w' : World) : Prop :=
  Relation.ReflTransGen WorktreeBook.Step (worktreeBook w.db) (worktreeBook w'.db)

instance : IsPreorder World WorktreeSteps where
  refl _ := Relation.ReflTransGen.refl
  trans _ _ _ h h' := h.trans h'

instance : ConcernsTables WorktreeSteps [.worktreeWriterLeases, .worktreeWriterLeaseEvents,
    .physicalWorktrees, .worktreeExecutions] where
  of_tables w w' htables _ _ _ := by
    have hbook : worktreeBook w'.db = worktreeBook w.db := by
      simp only [worktreeBook, Database.table, htables .worktreeWriterLeases (by decide),
        htables .worktreeWriterLeaseEvents (by decide), htables .physicalWorktrees (by decide),
        htables .worktreeExecutions (by decide)]
    rw [WorktreeSteps, hbook]

/-! ## The book after a statement -/

section Statements

variable {w : World}

@[simp] theorem worktreeBook_store_lease (u : Table WorktreeWriterLease) :
    worktreeBook (w.store u).db =
      { worktreeBook w.db with lease := fun id => u.find? fun r => r.worktreeId = id } := by
  simp [worktreeBook]

@[simp] theorem worktreeBook_store_ledger (u : Table WorktreeWriterLeaseEvent) :
    worktreeBook (w.store u).db = { worktreeBook w.db with ledger := u.rows } := by
  simp [worktreeBook]

@[simp] theorem worktreeBook_store_worktree (u : Table PhysicalWorktree) :
    worktreeBook (w.store u).db =
      { worktreeBook w.db with worktree := fun id => u.find? fun r => r.worktreeId = id } := by
  simp [worktreeBook]

@[simp] theorem worktreeBook_store_executions (u : Table WorktreeExecution) :
    worktreeBook (w.store u).db =
      { worktreeBook w.db with
        executions := u.rows.map WorktreeExecution.withoutProcess } := by
  simp [worktreeBook]

theorem worktreeBook_lease_worktreeId {db : Database} {worktreeId : String}
    {r : WorktreeWriterLease} (h : (worktreeBook db).lease worktreeId = some r) :
    r.worktreeId = worktreeId :=
  of_decide_eq_true (Table.find?_eq_some h).2

/-- An update of the lease of one Worktree. -/
theorem worktreeBook_update_lease {worktreeId : String} {r : WorktreeWriterLease}
    {f : WorktreeWriterLease → WorktreeWriterLease} {h : KeepsKeys f}
    (hr : (worktreeBook w.db).lease worktreeId = some r)
    (hf : ∀ r, (f r).worktreeId = r.worktreeId) :
    worktreeBook (w.store ((w.db.table WorktreeWriterLease).update
      (fun r => r.worktreeId = worktreeId) f h)).db = (worktreeBook w.db).setLease (f r) := by
  have hlease : (fun id => ((w.db.table WorktreeWriterLease).update
        (fun r => r.worktreeId = worktreeId) f h).find? fun r => r.worktreeId = id) =
      Function.update (worktreeBook w.db).lease worktreeId (some (f r)) := by
    funext id
    rw [Table.find?_update hf, Function.update_apply,
      show (w.db.table WorktreeWriterLease).find? (fun r => r.worktreeId = worktreeId) = some r
        from hr]
    rfl
  rw [worktreeBook_store_lease, WorktreeBook.setLease, hf, worktreeBook_lease_worktreeId hr,
    hlease]

/-- The first lease of a Worktree. -/
theorem worktreeBook_insert_lease {r : WorktreeWriterLease} {u : Table WorktreeWriterLease}
    (hnew : (worktreeBook w.db).lease r.worktreeId = none)
    (hu : (w.db.table WorktreeWriterLease).insert? r = some u) :
    worktreeBook (w.store u).db = (worktreeBook w.db).setLease r := by
  have hlease : (fun id => u.find? fun x => x.worktreeId = id) =
      Function.update (worktreeBook w.db).lease r.worktreeId (some r) := by
    funext id
    rw [Table.find?_insert? hu hnew, Function.update_apply]
    rfl
  rw [worktreeBook_store_lease, WorktreeBook.setLease, hlease]

/-- An update of one Worktree. -/
theorem worktreeBook_update_worktree {worktreeId : String}
    {f : PhysicalWorktree → PhysicalWorktree} {h : KeepsKeys f}
    (hf : ∀ r, (f r).worktreeId = r.worktreeId) :
    worktreeBook (w.store ((w.db.table PhysicalWorktree).update
      (fun r => r.worktreeId = worktreeId) f h)).db =
    { worktreeBook w.db with
      worktree := fun id =>
        if id = worktreeId then ((worktreeBook w.db).worktree id).map f
        else (worktreeBook w.db).worktree id } := by
  rw [worktreeBook_store_worktree]
  refine WorktreeBook.ext rfl rfl (funext fun id => ?_) rfl
  refine (Table.find?_update hf).trans ?_
  by_cases hid : id = worktreeId
  · simp only [hid, if_true]
    rfl
  · simp only [hid, if_false]
    rfl

end Statements

/-! ## Leases -/

section Leases

set_option synthInstance.maxSize 100000

variable {kernel : KernelContext} {w w' : World} {worktreeId actorPrincipalId correlationId : String}
  {observedAt : Timestamp}

@[simp] theorem getLease_eq_ok {lease : Option WorktreeWriterLease} :
    getLease worktreeId w = (.ok lease, w') ↔
      (worktreeBook w.db).lease worktreeId = lease ∧ w = w' := by
  simp [getLease, worktreeBook]

@[simp] theorem requireLease_eq_ok {lease : WorktreeWriterLease} :
    requireLease worktreeId w = (.ok lease, w') ↔
      (worktreeBook w.db).lease worktreeId = some lease ∧ w = w' := by
  simp [requireLease, worktreeBook]

theorem assertPhysicalWorktreeIdle_eq_ok {durable : Bool} {u : Unit}
    (h : assertPhysicalWorktreeIdle worktreeId durable w = (.ok u, w')) :
    (worktreeBook w.db).Idle worktreeId ∧ w = w' := by
  simp only [assertPhysicalWorktreeIdle, bind_eq_ok, selectRow_eq_ok, throwIf_eq_ok] at h
  obtain ⟨worktree, _, ⟨hworktree, rfl⟩, unsettled, _, ⟨hunsettled, rfl⟩, hidle, rfl⟩ := h
  rw [not_or] at hidle
  refine ⟨⟨fun r hr hquarantined => hidle.1 ?_, fun e he hid => ?_⟩, rfl⟩
  · obtain rfl : worktree = some r := hworktree.symm.trans hr
    simpa using hquarantined
  · obtain ⟨r, hr, rfl⟩ := List.mem_map.mp he
    have hnone : unsettled = none := Option.not_isSome_iff_eq_none.mp hidle.2
    rw [hnone, Table.find?_eq_none] at hunsettled
    have := hunsettled r hr
    simp only [Bool.and_eq_false_iff, decide_eq_false_iff_not] at this
    have hstate : (WorktreeExecution.withoutProcess r).state = r.state := rfl
    rw [hstate]
    cases hs : r.state <;> simp_all [isStopped, WorktreeExecution.withoutProcess]

/-- An event is appended, or refused. -/
theorem appendWorktreeWriterLeaseEvent_cases (kernel : KernelContext) (lease : WorktreeWriterLease)
    (type : WorktreeWriterLeaseEventType) (actorPrincipalId correlationId : String)
    (reason : Option String) (evidence : Option Json) (w : World) :
    (∃ event w', appendWorktreeWriterLeaseEvent kernel lease type actorPrincipalId correlationId
        reason evidence w = (.ok (), w') ∧ event.Records type lease ∧
      (∀ e ∈ (worktreeBook w.db).ledger, e.sequence < event.sequence) ∧
      worktreeBook w'.db =
        { worktreeBook w.db with ledger := (worktreeBook w.db).ledger ++ [event] }) ∨
    ∃ w', appendWorktreeWriterLeaseEvent kernel lease type actorPrincipalId correlationId
      reason evidence w = (.error .constraint, w') := by
  unfold appendWorktreeWriterLeaseEvent
  rw [bind_of_ok (newId_eq_ok.mpr ⟨rfl, rfl⟩), bind_of_ok (now_eq_ok.mpr ⟨rfl, rfl⟩),
    bind_of_ok (selectTable_eq_ok.mpr ⟨rfl, rfl⟩)]
  obtain ⟨event, hevent⟩ : ∃ event, event =
      ({ sequence := nextSequence WorktreeWriterLeaseEvent.sequence (worktreeBook w.db).ledger
         id := kernel.idFactory "worktree_writer_lease_event" w.issuedIds
         type, actorPrincipalId, reason, evidence, correlationId
         occurredAt := kernel.clock w.clockReadings
         worktreeId := lease.worktreeId
         revision := lease.revision
         generation := lease.generation
         fencingToken := lease.fencingToken
         holderPrincipalId := lease.holderPrincipalId
         expiresAt := lease.expiresAt } : WorktreeWriterLeaseEvent) := ⟨_, rfl⟩
  have hrecords : event.Records type lease := by
    subst hevent
    exact ⟨rfl, rfl, rfl, rfl, rfl, rfl, rfl⟩
  have hsequence : event.sequence =
      nextSequence WorktreeWriterLeaseEvent.sequence (worktreeBook w.db).ledger := by
    subst hevent
    rfl
  obtain ⟨u, hu, hrun⟩ | hrefused := insertRow_cases event w.issue.tick
  · refine .inl ⟨event, w.issue.tick.store u, ?_, hrecords, fun e he => ?_, ?_⟩
    · subst hevent
      exact hrun
    · rw [hsequence]
      exact lt_nextSequence he
    · rw [worktreeBook_store_ledger, Table.insert?_eq_some hu]
      rfl
  · subst hevent
    exact .inr ⟨_, hrefused⟩

/-- A lease that has made a move and has it recorded. -/
theorem WorktreeSteps.of_move {w₁ : World} {type : WorktreeWriterLeaseEventType}
    {r : WorktreeWriterLease} {reason : Option String} {evidence : Option Json} {u : Unit}
    (hmove : (worktreeBook w.db).LeaseMove type r)
    (hlease : worktreeBook w₁.db = (worktreeBook w.db).setLease r)
    (happend : appendWorktreeWriterLeaseEvent kernel r type actorPrincipalId correlationId reason
      evidence w₁ = (.ok u, w')) :
    WorktreeSteps w w' ∧
      ∃ ledger, worktreeBook w'.db = { (worktreeBook w.db).setLease r with ledger } := by
  obtain ⟨event, w₂, hrun, hrecords, hlast, hbook⟩ | ⟨w₂, hrun⟩ :=
    appendWorktreeWriterLeaseEvent_cases kernel r type actorPrincipalId correlationId reason
      evidence w₁
  · rw [happend] at hrun
    cases hrun
    rw [hlease] at hlast hbook
    refine ⟨?_, _, hbook⟩
    rw [WorktreeSteps, hbook]
    exact Relation.ReflTransGen.single (.lease hmove hrecords hlast)
  · rw [happend] at hrun
    cases hrun

/-- An expiry is recorded, or refused. -/
theorem expireLease_cases (kernel : KernelContext) (actorPrincipalId correlationId : String)
    {r : WorktreeWriterLease} (hr : (worktreeBook w.db).lease r.worktreeId = some r)
    (hexpired : r.expired observedAt = true) :
    (∃ w' ledger, expireLease kernel r actorPrincipalId correlationId observedAt w =
        (.ok (r.expire observedAt), w') ∧ WorktreeSteps w w' ∧
      worktreeBook w'.db = { (worktreeBook w.db).setLease (r.expire observedAt) with ledger }) ∨
    ∃ w', expireLease kernel r actorPrincipalId correlationId observedAt w =
      (.error .constraint, w') := by
  unfold expireLease
  obtain ⟨w₁, hupdate, hbook⟩ : ∃ w₁,
      updateRows (fun x : WorktreeWriterLease => x.worktreeId = r.worktreeId)
        (WorktreeWriterLease.expire observedAt) ⟨fun _ => rfl⟩ w = (.ok (), w₁) ∧
      worktreeBook w₁.db = (worktreeBook w.db).setLease (r.expire observedAt) :=
    ⟨_, updateRows_eq_ok.mpr rfl, worktreeBook_update_lease hr fun _ => rfl⟩
  rw [bind_of_ok hupdate]
  have hfound : (worktreeBook w₁.db).lease r.worktreeId = some (r.expire observedAt) := by
    rw [hbook]
    exact Function.update_self _ _ _
  rw [bind_of_ok (requireLease_eq_ok.mpr ⟨hfound, rfl⟩)]
  obtain ⟨event, w₂, hrun, -⟩ | ⟨w₂, hrun⟩ := appendWorktreeWriterLeaseEvent_cases kernel
    (r.expire observedAt) .WorktreeWriterLeaseExpired actorPrincipalId correlationId
    (some "lease_expired") none w₁
  · obtain ⟨hsteps, ledger, hafter⟩ := WorktreeSteps.of_move (.expire hr hexpired) hbook hrun
    exact .inl ⟨w₂, ledger, by rw [bind_of_ok hrun]; rfl, hsteps, hafter⟩
  · exact .inr ⟨w₂, bind_of_error hrun⟩

/-- The lease as it is once its expiry has been recorded. -/
def WorktreeWriterLease.observed (observedAt : Timestamp) (r : WorktreeWriterLease) :
    WorktreeWriterLease :=
  if r.expired observedAt then r.expire observedAt else r

theorem expireIfNeeded_cases (kernel : KernelContext) (actorPrincipalId correlationId : String)
    (observedAt : Timestamp) {lease : Option WorktreeWriterLease}
    (hlease : (worktreeBook w.db).lease worktreeId = lease) :
    (∃ w', expireIfNeeded kernel lease actorPrincipalId correlationId observedAt w =
        (.ok (lease.map (·.observed observedAt)), w') ∧ WorktreeSteps w w' ∧
      (worktreeBook w'.db).lease worktreeId = lease.map (·.observed observedAt)) ∨
    ∃ w', expireIfNeeded kernel lease actorPrincipalId correlationId observedAt w =
      (.error .constraint, w') := by
  cases lease with
  | none => exact .inl ⟨w, rfl, refl_of _ w, hlease⟩
  | some r =>
      have hid := worktreeBook_lease_worktreeId hlease
      by_cases hexpired : r.expired observedAt = true
      · have hobserved : r.observed observedAt = r.expire observedAt := if_pos hexpired
        simp only [expireIfNeeded, Option.elim_some, hexpired, if_true, Option.map_some, hobserved]
        rw [← hid] at hlease
        obtain ⟨w₁, ledger, hrun, hsteps, hbook⟩ | ⟨w₁, hrun⟩ := expireLease_cases
          kernel actorPrincipalId correlationId hlease hexpired
        · refine .inl ⟨w₁, by rw [bind_of_ok hrun]; rfl, hsteps, ?_⟩
          rw [hbook, ← hid]
          exact Function.update_self _ _ _
        · exact .inr ⟨w₁, bind_of_error hrun⟩
      · have hobserved : r.observed observedAt = r := if_neg hexpired
        simp only [expireIfNeeded, Option.elim_some, hexpired, Option.map_some, hobserved]
        exact .inl ⟨w, rfl, refl_of _ w, hlease⟩

theorem expireIfNeeded_commitsAt {keep : Failure → Prop} (hkeep : ¬ keep .constraint)
    {lease : Option WorktreeWriterLease}
    (hlease : (worktreeBook w.db).lease worktreeId = lease) :
    CommitsAt keep WorktreeSteps
      (expireIfNeeded kernel lease actorPrincipalId correlationId observedAt) w := by
  obtain ⟨w₁, hrun, hsteps, -⟩ | ⟨w₁, hrun⟩ := expireIfNeeded_cases kernel
    actorPrincipalId correlationId observedAt hlease
  · intro _
    rwa [hrun]
  · intro h
    exact absurd (h .constraint (by rw [hrun])) hkeep

theorem expireIfNeeded_eq_ok {lease existing : Option WorktreeWriterLease}
    (hlease : (worktreeBook w.db).lease worktreeId = lease)
    (h : expireIfNeeded kernel lease actorPrincipalId correlationId observedAt w =
      (.ok existing, w')) :
    existing = lease.map (·.observed observedAt) ∧
      (worktreeBook w'.db).lease worktreeId = existing := by
  obtain ⟨w₁, hrun, -, hafter⟩ | ⟨w₁, hrun⟩ := expireIfNeeded_cases kernel
    actorPrincipalId correlationId observedAt hlease
  all_goals
    rw [h] at hrun
    cases hrun
  exact ⟨rfl, hafter⟩

/-- What the command checks of the lease, once it is known not to have expired. -/
structure WorktreeLeaseAuthority.Live (command : WorktreeLeaseAuthority) (principal : Principal)
    (observedAt : Timestamp) (lease : WorktreeWriterLease) : Prop where
  active : lease.status = .Active
  holder : lease.holderPrincipalId = some principal.id
  generation : lease.generation = command.generation
  fencingToken : lease.fencingToken = command.fencingToken
  leaseToken : lease.leaseToken = some command.leaseToken
  expiresAt : ∃ expiresAt, lease.expiresAt = some expiresAt ∧ observedAt < expiresAt

theorem requireLiveAuthority_eq_ok {command : WorktreeLeaseAuthority} {principal : Principal}
    {lease : WorktreeWriterLease}
    (h : requireLiveAuthority kernel command principal observedAt correlationId w =
      (.ok lease, w')) :
    (worktreeBook w.db).lease command.worktreeId = some lease ∧
      command.Live principal observedAt lease ∧ w = w' := by
  simp only [requireLiveAuthority, bind_eq_ok, requireNonEmpty_eq_ok, requireLease_eq_ok,
    throwIf_eq_ok, pure_eq_ok] at h
  obtain ⟨_, _, ⟨-, rfl⟩, _, _, ⟨-, rfl⟩, found, _, ⟨hlease, rfl⟩, _, w₁, hexpiry, _, _, ⟨-, rfl⟩, _, _,
    ⟨hauthority, rfl⟩, _, _, ⟨hholder, rfl⟩, _, _, ⟨hexpires, rfl⟩, rfl, rfl⟩ := h
  have hsame : w = w₁ := by
    split at hexpiry
    · simp at hexpiry
    · exact (pure_eq_ok.mp hexpiry).2
  subst hsame
  push Not at hauthority hholder
  refine ⟨hlease, ⟨hholder.1, hholder.2, hauthority.1, hauthority.2.1, hauthority.2.2, ?_⟩, rfl⟩
  cases hexpiresAt : found.expiresAt with
  | none => simp [hexpiresAt] at hexpires
  | some expiresAt => exact ⟨expiresAt, rfl, by simpa [hexpiresAt] using hexpires⟩

theorem requireLiveAuthority_commitsAt {keep : Failure → Prop} (hkeep : ¬ keep .constraint)
    {command : WorktreeLeaseAuthority} {principal : Principal} :
    CommitsAt keep WorktreeSteps
      (requireLiveAuthority kernel command principal observedAt correlationId) w := by
  unfold requireLiveAuthority
  refine .bind_read fun _ _ => .bind_read fun _ _ => .bind_read fun lease hlease => ?_
  have hlease := (requireLease_eq_ok.mp hlease).1
  refine .bind ?_ fun _ _ _ => Within.commitsAt
  split
  · rename_i hexpired
    rw [← worktreeBook_lease_worktreeId hlease] at hlease
    obtain ⟨w₁, ledger, hrun, hsteps, -⟩ | ⟨w₁, hrun⟩ := expireLease_cases kernel
      principal.id correlationId hlease hexpired
    · intro _
      rwa [bind_of_ok hrun]
    · intro h
      exact absurd (h .constraint (by rw [bind_of_error hrun])) hkeep
  · exact Within.commitsAt

/-! ## Lease commands -/

instance (kind : String) : Plain (secretToken kernel kind) := by
  unfold secretToken
  infer_instance

instance (id : String) : Plain (getLease id) := by
  unfold getLease
  infer_instance

instance (id : String) : Plain (requireLease id) := by
  unfold requireLease
  infer_instance

instance (fresh : WorktreeWriterLease) (replace : WorktreeWriterLease → WorktreeWriterLease)
    (h : KeepsKeys replace) : Plain (upsertLease fresh replace h) := by
  unfold upsertLease
  infer_instance

instance (lease : WorktreeWriterLease) (type : WorktreeWriterLeaseEventType)
    (actor correlation : String) (reason : Option String) (evidence : Option Json) :
    Plain (appendWorktreeWriterLeaseEvent kernel lease type actor correlation reason
      evidence) := by
  unfold appendWorktreeWriterLeaseEvent
  infer_instance

theorem upsertLease_eq_ok {fresh : WorktreeWriterLease}
    {replace : WorktreeWriterLease → WorktreeWriterLease} {hkeys : KeepsKeys replace} {u : Unit}
    (h : upsertLease fresh replace hkeys w = (.ok u, w'))
    (hreplace : ∀ r, (replace r).worktreeId = r.worktreeId) :
    worktreeBook w'.db = (worktreeBook w.db).setLease
      (((worktreeBook w.db).lease fresh.worktreeId).elim fresh replace) := by
  simp only [upsertLease, bind_eq_ok, getLease_eq_ok] at h
  obtain ⟨existing, _, ⟨hexisting, rfl⟩, h⟩ := h
  cases existing with
  | none =>
      obtain ⟨t, ht, rfl⟩ := insertRow_eq_ok.mp h
      rw [hexisting]
      exact worktreeBook_insert_lease hexisting ht
  | some r =>
      obtain rfl := updateRows_eq_ok.mp h
      rw [hexisting]
      exact worktreeBook_update_lease hexisting hreplace

/-- A recorded move after the clock has been read. -/
theorem WorktreeSteps.of_setLease {w₁ : World} {type : WorktreeWriterLeaseEventType}
    {r found : WorktreeWriterLease} {reason : Option String} {evidence : Option Json} {u : Unit}
    (hmove : (worktreeBook w.db).LeaseMove type r)
    (hlease : worktreeBook w₁.db = (worktreeBook w.db).setLease r)
    (hfound : (worktreeBook w₁.db).lease r.worktreeId = some found)
    (happend : appendWorktreeWriterLeaseEvent kernel found type actorPrincipalId correlationId
      reason evidence w₁ = (.ok u, w')) : WorktreeSteps w w' := by
  rw [hlease, WorktreeBook.setLease_lease_self] at hfound
  cases hfound
  exact (WorktreeSteps.of_move hmove hlease happend).1

instance (command : AcquireWorktreeWriterLeaseCommand) (principal : Principal)
    (correlationId : String) :
    Commits WorktreeSteps (acquireWorktreeWriterLease kernel command principal correlationId) := by
  refine Commits.of_at fun w => ?_
  unfold acquireWorktreeWriterLease
  refine .bind_read fun _ _ => .bind_read fun _ _ => .bind_read fun durationMs _ =>
    .bind Within.commitsAt fun observedAt w₁ _ => .bind_read fun previous hprevious => ?_
  have hprevious := (getLease_eq_ok.mp hprevious).1
  refine .bind (expireIfNeeded_commitsAt (by decide) hprevious) fun existing w₂ hexpire => ?_
  obtain ⟨-, hexisting⟩ := expireIfNeeded_eq_ok hprevious hexpire
  refine .bind_read fun _ hcheck => ?_
  obtain ⟨hidle, -⟩ := assertPhysicalWorktreeIdle_eq_ok hcheck
  refine .of_plain fun result w' h => ?_
  simp only [secretToken, bind_eq_ok, throwIf_eq_ok, drawToken_eq_ok, pure_eq_ok,
    requireLease_eq_ok] at h
  obtain ⟨_, _, ⟨hactive, rfl⟩, _, _, ⟨hquarantined, rfl⟩, leaseToken, _, ⟨_, _, ⟨-, rfl⟩, -, rfl⟩,
    _, w₃, hupsert, lease, _, ⟨hfound, rfl⟩, _, _, happend, -, rfl⟩ := h
  have hlease : worktreeBook w₃.db = (worktreeBook w₂.db).setLease
      (acquiredLease command.worktreeId existing principal.id leaseToken observedAt
        (observedAt + durationMs)) := by
    have hupdated := upsertLease_eq_ok hupsert fun _ => rfl
    rw [World.draw_db] at hupdated
    rw [hupdated]
    congr 1
    cases hcurrent : (worktreeBook w₂.db).lease command.worktreeId with
    | none =>
        have : (acquiredLease command.worktreeId existing principal.id leaseToken observedAt
          (observedAt + durationMs)).worktreeId = command.worktreeId := rfl
        rw [this, hcurrent]
        rfl
    | some r =>
        have : (acquiredLease command.worktreeId existing principal.id leaseToken observedAt
          (observedAt + durationMs)).worktreeId = command.worktreeId := rfl
        rw [this, hcurrent, Option.elim_some, worktreeBook_lease_worktreeId hcurrent]
        rfl
  subst hexisting
  refine WorktreeSteps.of_setLease (w := w₂) (.acquire hidle fun r hr => ?_) hlease hfound happend
  rw [hr] at hactive hquarantined
  exact ⟨by simpa using hactive, by simpa using hquarantined⟩

instance (command : RenewWorktreeWriterLeaseCommand) (principal : Principal)
    (correlationId : String) :
    Commits WorktreeSteps (renewWorktreeWriterLease kernel command principal correlationId) := by
  refine Commits.of_at fun w => ?_
  unfold renewWorktreeWriterLease
  refine .bind_read fun _ _ => .bind_read fun durationMs _ =>
    .bind Within.commitsAt fun observedAt w₁ _ =>
      .bind (requireLiveAuthority_commitsAt (by decide)) fun lease w₂ hcheck => ?_
  obtain ⟨hlease, hlive, rfl⟩ := requireLiveAuthority_eq_ok hcheck
  refine .of_plain fun result w' h => ?_
  simp only [bind_eq_ok, updateRows_eq_ok, requireLease_eq_ok, pure_eq_ok] at h
  obtain ⟨_, w₂, hupdate, renewed, _, ⟨hfound, rfl⟩, _, _, happend, -, rfl⟩ := h
  have hid := worktreeBook_lease_worktreeId hlease
  have hbook := worktreeBook_update_lease hlease (f := fun r =>
    { r with
      revision := lease.revision + 1
      renewedAt := some observedAt
      expiresAt := some (observedAt + durationMs)
      updatedAt := observedAt }) (h := ⟨fun _ => rfl⟩) fun _ => rfl
  rw [hupdate] at hbook
  rw [← hid] at hlease hfound
  exact WorktreeSteps.of_setLease (.renew hlease hlive.active) hbook hfound happend

instance (command : ReleaseWorktreeWriterLeaseCommand) (principal : Principal)
    (correlationId : String) :
    Commits WorktreeSteps (releaseWorktreeWriterLease kernel command principal correlationId) := by
  refine Commits.of_at fun w => ?_
  unfold releaseWorktreeWriterLease
  refine .bind_read fun _ _ => .bind Within.commitsAt fun observedAt w₁ _ =>
    .bind (requireLiveAuthority_commitsAt (by decide)) fun lease w₂ hcheck => ?_
  obtain ⟨hlease, hlive, rfl⟩ := requireLiveAuthority_eq_ok hcheck
  refine .bind_read fun _ hcheck => ?_
  obtain ⟨hidle, -⟩ := assertPhysicalWorktreeIdle_eq_ok hcheck
  refine .of_plain fun result w' h => ?_
  simp only [bind_eq_ok, updateRows_eq_ok, requireLease_eq_ok, pure_eq_ok] at h
  obtain ⟨_, w₂, hupdate, released, _, ⟨hfound, rfl⟩, _, _, happend, -, rfl⟩ := h
  have hid := worktreeBook_lease_worktreeId hlease
  have hbook := worktreeBook_update_lease hlease (f := fun r =>
    { r with
      revision := lease.revision + 1
      status := .Released
      holderPrincipalId := none
      leaseToken := none
      expiresAt := none
      releasedAt := some observedAt
      updatedAt := observedAt }) (h := ⟨fun _ => rfl⟩) fun _ => rfl
  rw [hupdate] at hbook
  rw [← hid] at hlease hfound hidle
  exact WorktreeSteps.of_setLease (.release hidle hlease hlive.active) hbook hfound happend

instance (command : QuarantineWorktreeWriterLeaseCommand) (lease : Option WorktreeWriterLease)
    (principal : Principal) (observedAt : Timestamp) :
    Plain (requireQuarantineAuthority command lease principal observedAt) := by
  have hstale : ∀ lease, Plain (raise (staleAuthority command.expectedGeneration
      command.expectedFencingToken lease false) : K Unit) := fun _ => Raises.raise rfl
  unfold requireQuarantineAuthority
  infer_instance

instance (command : QuarantineWorktreeWriterLeaseCommand) (principal : Principal)
    (correlationId : String) :
    Commits WorktreeSteps
      (quarantineWorktreeWriterLease kernel command principal correlationId) := by
  refine Commits.of_at fun w => ?_
  unfold quarantineWorktreeWriterLease
  refine .bind_read fun _ _ => .bind_read fun _ _ => .bind_read fun _ _ =>
    .bind Within.commitsAt fun observedAt w₁ _ => .bind_read fun current hcurrent => ?_
  have hcurrent := (getLease_eq_ok.mp hcurrent).1
  refine .bind (expireIfNeeded_commitsAt (by decide) hcurrent) fun existing w₂ hexpire => ?_
  obtain ⟨-, hexisting⟩ := expireIfNeeded_eq_ok hcurrent hexpire
  refine .bind_read fun _ hfree => .bind_read fun _ _ => .bind_read fun _ _ => .bind_read fun _ _ => ?_
  obtain ⟨hfree, -⟩ := throwIf_eq_ok.mp hfree
  refine .of_plain fun result w' h => ?_
  simp only [secretToken, bind_eq_ok, drawToken_eq_ok, pure_eq_ok, requireLease_eq_ok] at h
  obtain ⟨quarantineToken, _, ⟨_, _, ⟨-, rfl⟩, -, rfl⟩, _, w₃, hupsert, quarantined, _,
    ⟨hfound, rfl⟩, _, _, happend, -, rfl⟩ := h
  have hbook := upsertLease_eq_ok hupsert fun _ => rfl
  rw [World.draw_db] at hbook
  have hupdated : ((worktreeBook w₂.db).lease command.worktreeId).elim
      (WorktreeWriterLease.quarantine existing command quarantineToken observedAt
        (blankLease command.worktreeId observedAt))
      (WorktreeWriterLease.quarantine existing command quarantineToken observedAt) =
      WorktreeWriterLease.quarantine existing command quarantineToken observedAt
        (existing.getD (blankLease command.worktreeId observedAt)) := by
    rw [hexisting]
    cases existing <;> rfl
  have hid : (existing.getD (blankLease command.worktreeId observedAt)).worktreeId =
      command.worktreeId := by
    cases existing with
    | none => rfl
    | some r => exact worktreeBook_lease_worktreeId hexisting
  rw [← hid] at hfound
  have hbook := hbook.trans (congrArg _ hupdated)
  subst hexisting
  refine WorktreeSteps.of_setLease (w := w₂) (.quarantine fun r hr => ?_) hbook hfound happend
  rw [hr] at hfree
  simpa using hfree

instance (command : ResolveWorktreeWriterLeaseQuarantineCommand) (principal : Principal)
    (correlationId : String) :
    Commits WorktreeSteps
      (resolveWorktreeWriterLeaseQuarantine kernel command principal correlationId) := by
  refine Commits.of_at fun w => ?_
  unfold resolveWorktreeWriterLeaseQuarantine
  refine .bind_read fun _ _ => .bind_read fun _ hcheck => ?_
  obtain ⟨hidle, -⟩ := assertPhysicalWorktreeIdle_eq_ok hcheck
  refine .of_plain fun result w' h => ?_
  simp only [bind_eq_ok, requireNonEmpty_eq_ok, throwIf_eq_ok, now_eq_ok, updateRows_eq_ok,
    requireLease_eq_ok, pure_eq_ok] at h
  obtain ⟨_, _, ⟨-, rfl⟩, _, _, ⟨-, rfl⟩, _, _, ⟨-, rfl⟩, lease, _, ⟨hlease, rfl⟩, _, _, ⟨-, rfl⟩,
    _, _, ⟨hstatus, rfl⟩, observedAt, _, ⟨-, rfl⟩, _, w₂, hupdate, resolved, _, ⟨hfound, rfl⟩, _, _,
    happend, -, rfl⟩ := h
  have hid := worktreeBook_lease_worktreeId hlease
  have hbook := worktreeBook_update_lease (w := w.tick) hlease (f := fun r =>
    { r with
      revision := lease.revision + 1
      status := .Released
      quarantineReason := none
      quarantineToken := none
      quarantineEvidence := none
      quarantinedAt := none
      quarantineResolvedAt := some observedAt
      quarantineResolution := some command.resolution
      updatedAt := observedAt }) (h := ⟨fun _ => rfl⟩) fun _ => rfl
  rw [hupdate] at hbook
  rw [← hid] at hlease hfound hidle
  exact WorktreeSteps.of_setLease (w := w) (.resolve hidle hlease (by simpa using hstatus)) hbook
    hfound happend

instance (worktreeId : String) (principal : Principal) :
    Commits WorktreeSteps (getWorktreeWriterLease kernel worktreeId principal) := by
  refine Commits.of_at fun w => ?_
  unfold getWorktreeWriterLease
  refine .bind_read fun _ _ => .bind_read fun _ _ => .bind Within.commitsAt fun observedAt w₁ _ =>
    .bind_read fun current hcurrent => .bind Within.commitsAt fun correlationId w₂ hid => ?_
  have hcurrent := (requireLease_eq_ok.mp hcurrent).1
  obtain ⟨-, rfl⟩ := newId_eq_ok.mp hid
  exact .bind (expireIfNeeded_commitsAt (by decide) (w := w₁.issue) hcurrent) fun _ _ _ =>
    Within.commitsAt

theorem expireCachedLease_commitsAt {lease : WorktreeWriterLease} {principal : Principal}
    {message : String} (hlease : (worktreeBook w.db).lease lease.worktreeId = some lease) :
    CommitsAt Durable WorktreeSteps
      (expireCachedLease kernel lease principal observedAt message) w := by
  unfold expireCachedLease
  split
  · rename_i hexpired
    refine .bind Within.commitsAt fun correlationId w₁ hid => ?_
    obtain ⟨-, rfl⟩ := newId_eq_ok.mp hid
    obtain ⟨w₂, ledger, hrun, hsteps, -⟩ | ⟨w₂, hrun⟩ := expireLease_cases kernel principal.id
      correlationId (w := w.issue) hlease hexpired
    · intro _
      rwa [bind_of_ok hrun]
    · intro h
      exact absurd (h .constraint (by rw [bind_of_error hrun])) (by decide)
  · exact Within.commitsAt

instance (worktreeId : String) (commandType : CommandType) (result : CommandResult)
    (principal : Principal) :
    Commits WorktreeSteps (resolveCachedWorktreeWriterLeaseAuthority kernel worktreeId commandType
      result principal) := by
  refine Commits.of_at fun w => ?_
  unfold resolveCachedWorktreeWriterLeaseAuthority
  refine .bind_read fun _ _ => .bind_read fun lease hlease =>
    .bind Within.commitsAt fun observedAt w₁ hnow => ?_
  have hlease := (requireLease_eq_ok.mp hlease).1
  rw [← worktreeBook_lease_worktreeId hlease] at hlease
  obtain ⟨-, rfl⟩ := now_eq_ok.mp hnow
  exact .bind (expireCachedLease_commitsAt hlease) fun _ _ _ => Within.commitsAt

instance (command : QuarantineWorktreeWriterLeaseCommand) (result : CommandResult)
    (principal : Principal) :
    Commits WorktreeSteps
      (resolveCachedWorktreeWriterLeaseQuarantine kernel command result principal) := by
  refine Commits.of_at fun w => ?_
  unfold resolveCachedWorktreeWriterLeaseQuarantine
  refine .bind_read fun _ _ => .bind_read fun lease hlease =>
    .bind Within.commitsAt fun observedAt w₁ hnow => ?_
  have hlease := (requireLease_eq_ok.mp hlease).1
  rw [← worktreeBook_lease_worktreeId hlease] at hlease
  obtain ⟨-, rfl⟩ := now_eq_ok.mp hnow
  exact .bind (expireCachedLease_commitsAt hlease) fun _ _ _ => Within.commitsAt

end Leases

/-! ## Executions -/

section Executions

set_option synthInstance.maxSize 100000

variable {kernel : KernelContext} {w w' : World}

instance (executionId reason : String) :
    Within WorktreeSteps (revokePublication kernel executionId reason) := by
  have hrevoke : ∀ revokedAt, Within WorktreeSteps (updateRows
      (fun r : WorktreeExecution => r.id = executionId && r.authorityRevokedAt.isNone)
      (fun r => { r with
        authorityRevokedAt := some revokedAt
        authorityRevocationReason := some reason }) ⟨fun _ => rfl⟩) := by
    refine fun revokedAt => ⟨fun w => ?_⟩
    have hbook : worktreeBook (w.store ((w.db.table WorktreeExecution).update
        (fun r => r.id = executionId && r.authorityRevokedAt.isNone)
        (fun r => { r with
          authorityRevokedAt := some revokedAt
          authorityRevocationReason := some reason }) ⟨fun _ => rfl⟩)).db =
        (worktreeBook w.db).revoke executionId revokedAt reason := by
      have hrows := Table.map_view_update (t := w.db.table WorktreeExecution)
        (p := fun r => r.id = executionId && r.authorityRevokedAt.isNone)
        (h := ⟨fun _ => rfl⟩) (v := WorktreeExecution.withoutProcess)
        (f := fun r => { r with
          authorityRevokedAt := some revokedAt
          authorityRevocationReason := some reason })
        (g := fun r => if r.id = executionId ∧ r.authorityRevokedAt = none then
            { r with
              authorityRevokedAt := some revokedAt
              authorityRevocationReason := some reason }
          else r) fun r => by
        cases hrevoked : r.authorityRevokedAt <;> by_cases hid : r.id = executionId <;>
          simp [WorktreeExecution.withoutProcess, hrevoked, hid]
      rw [worktreeBook_store_executions, WorktreeBook.revoke, hrows]
      rfl
    show WorktreeSteps w (w.store _)
    rw [WorktreeSteps, hbook]
    exact Relation.ReflTransGen.single (.revoke executionId revokedAt reason)
  unfold revokePublication
  infer_instance

instance (execution : WorktreeExecution) (pid : Option Int) :
    Within WorktreeSteps (recordProcess execution pid) := by
  have hrecord : ∀ pid : Option Nat, Within WorktreeSteps (updateRows
      (fun r : WorktreeExecution => r.id = execution.id) (fun r => { r with pid })
      ⟨fun _ => rfl⟩) := by
    refine fun pid => ⟨fun w => ?_⟩
    have hbook : worktreeBook (w.store ((w.db.table WorktreeExecution).update
        (fun r => r.id = execution.id) (fun r => { r with pid }) ⟨fun _ => rfl⟩)).db =
        worktreeBook w.db := by
      have hrows := Table.map_view_update (t := w.db.table WorktreeExecution)
        (p := fun r => r.id = execution.id) (f := fun r => { r with pid })
        (h := ⟨fun _ => rfl⟩) (v := WorktreeExecution.withoutProcess) (g := id)
        fun r => by by_cases hid : r.id = execution.id <;> simp [WorktreeExecution.withoutProcess, hid]
      rw [worktreeBook_store_executions, hrows, List.map_id]
      rfl
    show WorktreeSteps w (w.store _)
    rw [WorktreeSteps, hbook]
  unfold recordProcess
  infer_instance

instance (command : RegisterPhysicalWorktreeCommand) (principal : Principal) :
    Commits WorktreeSteps (registerPhysicalWorktree kernel command principal) := by
  have hplain : Plain (requireTrustedRuntime principal) := by
    unfold requireTrustedRuntime
    infer_instance
  have hrun : Plain (requireRun command.runId) := by
    unfold requireRun
    infer_instance
  have : Plain (registerPhysicalWorktree kernel command principal) := by
    unfold registerPhysicalWorktree
    infer_instance
  refine Commits.of_ok fun w result w' h => ?_
  simp only [registerPhysicalWorktree, bind_eq_ok, requireNonEmpty_eq_ok, throwIf_eq_ok,
    selectTable_eq_ok, now_eq_ok, insertRow_eq_ok, pure_eq_ok] at h
  obtain ⟨_, w₁, hkind, _, _, ⟨-, rfl⟩, _, _, ⟨-, rfl⟩, _, _, ⟨-, rfl⟩, _, _, ⟨-, rfl⟩, _, _,
    ⟨-, rfl⟩, _, _, ⟨-, rfl⟩, _, w₂, hrequire, _, _, ⟨-, rfl⟩, _, _, ⟨-, rfl⟩, _, _, ⟨-, rfl⟩, _, _,
    ⟨u, hu, rfl⟩, -, rfl⟩ := h
  obtain rfl : w = w₁ := Within.of_eq hkind
  obtain rfl : w = w₂ := Within.of_eq hrequire
  obtain ⟨row, hu, hready⟩ : ∃ row, (w.db.table PhysicalWorktree).insert? row = some u ∧
      row.state = .Ready := ⟨_, hu, rfl⟩
  have hnew : (worktreeBook w.db).worktree row.worktreeId = none := by
    refine Table.find?_eq_none.mpr fun r hr => decide_eq_false fun hid => ?_
    exact Table.not_mem_keys_of_insert? hu hr List.mem_cons_self (by simp [Keyed.keys, hid])
  have hworktree : (fun id => u.find? fun r => r.worktreeId = id) =
      Function.update (worktreeBook w.db).worktree row.worktreeId (some row) := by
    funext id
    rw [Table.find?_insert? hu hnew, Function.update_apply]
    rfl
  have hbook := worktreeBook_store_worktree (w := w.tick) u
  rw [hworktree] at hbook
  rw [WorktreeSteps, hbook]
  exact Relation.ReflTransGen.single (.register hnew hready)

/-- The execution is still in the state it was read in. -/
def Stands (execution : WorktreeExecution) (w : World) : Prop :=
  ∃ r ∈ w.db.table WorktreeExecution, r.id = execution.id ∧ r.state = execution.state ∧
    r.worktreeId = execution.worktreeId

/-- An update that assigns neither the identifier, the state nor the Worktree. -/
theorem Stands.update {execution : WorktreeExecution} {p : WorktreeExecution → Bool}
    {f : WorktreeExecution → WorktreeExecution} {h : KeepsKeys f}
    (hf : ∀ r, (f r).id = r.id ∧ (f r).state = r.state ∧ (f r).worktreeId = r.worktreeId) :
    Within (Keeps (Stands execution)) (updateRows p f h) := by
  refine ⟨fun w => ?_⟩
  rintro ⟨r, hr, hid, hstate, hworktree⟩
  show Stands execution (w.store _)
  refine ⟨if p r then f r else r, ?_, ?_⟩
  · rw [World.store_db, Database.table_set_same]
    exact Table.mem_update.mpr ⟨r, hr, rfl⟩
  · split
    · exact ⟨(hf r).1.trans hid, (hf r).2.1.trans hstate, (hf r).2.2.trans hworktree⟩
    · exact ⟨hid, hstate, hworktree⟩

instance (execution : WorktreeExecution) :
    ConcernsTables (Keeps (Stands execution)) [.worktreeExecutions] where
  of_tables w w' htables _ _ _ := by
    intro h
    rwa [Stands, Database.table, htables _ (List.mem_singleton.mpr rfl), ← Database.table]

instance (execution : WorktreeExecution) (executionId reason : String) :
    Within (Keeps (Stands execution)) (revokePublication kernel executionId reason) := by
  have hrevoke : ∀ revokedAt, Within (Keeps (Stands execution)) (updateRows
      (fun r : WorktreeExecution => r.id = executionId && r.authorityRevokedAt.isNone)
      (fun r => { r with
        authorityRevokedAt := some revokedAt
        authorityRevocationReason := some reason }) ⟨fun _ => rfl⟩) :=
    fun _ => Stands.update fun _ => ⟨rfl, rfl, rfl⟩
  unfold revokePublication
  infer_instance

instance (execution recorded : WorktreeExecution) (pid : Option Int) :
    Within (Keeps (Stands execution)) (recordProcess recorded pid) := by
  have hrecord : ∀ pid : Option Nat, Within (Keeps (Stands execution)) (updateRows
      (fun r : WorktreeExecution => r.id = recorded.id) (fun r => { r with pid })
      ⟨fun _ => rfl⟩) := fun _ => Stands.update fun _ => ⟨rfl, rfl, rfl⟩
  unfold recordProcess
  infer_instance

/-- An execution goes from the state it stands in to an allowed one. -/
theorem recordState_steps {execution : WorktreeExecution} {state : WorktreeExecutionState}
    {evidence : String} {u : Unit} (hstands : Stands execution w)
    (hallowed : state ∈ allowedExecutionStates execution.state)
    (h : recordState kernel execution state evidence w = (.ok u, w')) : WorktreeSteps w w' := by
  simp only [recordState, bind_eq_ok, updateKeys_eq_ok] at h
  obtain ⟨_, w₁, hrevoke, _, w₂, ⟨t, ht, hw₂⟩, _, w₃, hworktree, happend⟩ := h
  have hbefore : WorktreeSteps w w₁ := by
    split at hrevoke
    · exact Within.of_eq hrevoke
    · exact Within.of_eq hrevoke
  have hstands : Stands execution w₁ := by
    split at hrevoke
    · exact (Within.of_eq (R := Keeps (Stands execution)) hrevoke) hstands
    · exact (Within.of_eq (R := Keeps (Stands execution)) hrevoke) hstands
  have hafter : worktreeBook w'.db = worktreeBook w₃.db := by
    have hframe : Frame [.worktreeWriterLeases, .worktreeWriterLeaseEvents, .physicalWorktrees,
      .worktreeExecutions] w₃ w' := Within.of_eq happend
    simp only [worktreeBook, hframe.table_eq WorktreeWriterLease (by decide),
      hframe.table_eq WorktreeWriterLeaseEvent (by decide),
      hframe.table_eq PhysicalWorktree (by decide), hframe.table_eq WorktreeExecution (by decide)]
  obtain ⟨r, hr, hid, hstate, hworktreeId⟩ := hstands
  have hrows : t.rows.map WorktreeExecution.withoutProcess =
      (worktreeBook w₁.db).executions.map fun x => if x.id = execution.id then { x with state } else x := by
    rw [Table.map?_eq_some ht, worktreeBook, List.map_map, List.map_map]
    apply List.map_congr_left
    intro x _
    by_cases hx : x.id = execution.id <;> simp [WorktreeExecution.withoutProcess, hx]
  have hexecutions : worktreeBook w₂.db = { worktreeBook w₁.db with
      executions := (worktreeBook w₁.db).executions.map fun x =>
        if x.id = execution.id then { x with state } else x } := by
    rw [← hw₂, worktreeBook_store_executions, hrows]
  have hstates : (worktreeBook w₃.db) = { worktreeBook w₂.db with
      worktree := fun id =>
        if id = execution.worktreeId then
          ((worktreeBook w₂.db).worktree id).map fun r =>
            { r with state := WorktreeBook.worktreeState state r.state }
        else (worktreeBook w₂.db).worktree id } := by
    split at hworktree
    · rename_i hchanged
      obtain rfl := updateRows_eq_ok.mp hworktree
      rw [worktreeBook_update_worktree]
      swap
      · exact fun _ => rfl
      refine WorktreeBook.ext rfl rfl (funext fun id => ?_) rfl
      simp only
      split
      · rename_i hid
        apply congrArg (Option.map · _)
        funext r
        obtain rfl | hstopped := hchanged
        · rfl
        · have hne : state ≠ .Uncertain := by
            rintro rfl
            cases hstopped
          simp [WorktreeBook.worktreeState, hne, hstopped]
      · rfl
    · rename_i hsame
      obtain rfl := (pure_eq_ok.mp hworktree).2
      rw [not_or] at hsame
      refine WorktreeBook.ext rfl rfl (funext fun id => ?_) rfl
      simp only
      split
      · cases (worktreeBook w₂.db).worktree id with
        | none => rfl
        | some r => simp [WorktreeBook.worktreeState, hsame.1, hsame.2]
      · rfl
  have hrecorded : worktreeBook w₃.db =
      (worktreeBook w₁.db).record r.withoutProcess state := by
    rw [hstates, hexecutions, WorktreeBook.record, show r.withoutProcess.id = execution.id from hid,
      show r.withoutProcess.worktreeId = execution.worktreeId from hworktreeId]
  refine trans_of _ hbefore ?_
  rw [WorktreeSteps, hafter, hrecorded]
  refine Relation.ReflTransGen.single (.record (List.mem_map_of_mem hr) ?_)
  rw [show r.withoutProcess.state = execution.state from hstate]
  exact hallowed

instance (principal : Principal) : Plain (requireTrustedRuntime principal) := by
  unfold requireTrustedRuntime
  infer_instance

instance (id : String) : Plain (requireExecution id) := by
  unfold requireExecution
  infer_instance

instance (execution : WorktreeExecution) (receipt : WorktreeExecutionReceipt)
    (principal : Principal) : Plain (requireReceipt execution receipt principal) := by
  unfold requireReceipt
  infer_instance

instance (executionId reason : String) : Plain (revokePublication kernel executionId reason) := by
  unfold revokePublication
  infer_instance

instance (execution : WorktreeExecution) (pid : Option Int) :
    Plain (recordProcess execution pid) := by
  unfold recordProcess
  infer_instance

instance (p : WorktreeExecution → Bool) (f : WorktreeExecution → WorktreeExecution) :
    Plain (updateKeys p f) := by
  unfold updateKeys
  infer_instance

instance (executionId : String) (state : WorktreeExecutionState) (evidence : String) :
    Plain (appendWorktreeExecutionEvent kernel executionId state evidence) := by
  unfold appendWorktreeExecutionEvent
  infer_instance

instance (execution : WorktreeExecution) (state : WorktreeExecutionState) (evidence : String) :
    Plain (recordState kernel execution state evidence) := by
  unfold recordState
  infer_instance

theorem requireExecution_stands {id : String} {execution : WorktreeExecution}
    (h : requireExecution id w = (.ok execution, w')) : Stands execution w ∧ w = w' := by
  simp only [requireExecution, requireRow_eq_ok] at h
  exact ⟨⟨execution, (Table.find?_eq_some h.1).1, rfl, rfl, rfl⟩, h.2⟩

instance (command : RecoverWorktreeExecutionCommand) (principal : Principal) :
    Commits WorktreeSteps (recoverWorktreeExecution kernel command principal) := by
  have : Plain (recoverWorktreeExecution kernel command principal) := by
    unfold recoverWorktreeExecution
    infer_instance
  refine Commits.of_ok fun w result w' h => ?_
  simp only [recoverWorktreeExecution, bind_eq_ok, requireNonEmpty_eq_ok, pure_eq_ok] at h
  obtain ⟨_, w₁, hkind, execution, w₂, hexecution, _, _, ⟨-, rfl⟩, _, w₃, hrevoke, _, w₄, hrecord,
    -, rfl⟩ := h
  obtain rfl : w = w₁ := Within.of_eq hkind
  obtain ⟨hstands, rfl⟩ := requireExecution_stands hexecution
  have hrevoked : WorktreeSteps w w₃ := Within.of_eq hrevoke
  have hstands := (Within.of_eq (R := Keeps (Stands execution)) hrevoke) hstands
  split at hrecord
  · obtain rfl := (pure_eq_ok.mp hrecord).2
    exact hrevoked
  · rename_i hunsettled
    refine trans_of _ hrevoked (recordState_steps hstands ?_ hrecord)
    rw [not_or] at hunsettled
    cases hstate : execution.state <;> simp_all [isStopped, allowedExecutionStates]

instance (command : RecordWorktreeExecutionCommand) (principal : Principal) :
    Commits WorktreeSteps (recordWorktreeExecution kernel command principal) := by
  have : Plain (recordWorktreeExecution kernel command principal) := by
    unfold recordWorktreeExecution
    infer_instance
  refine Commits.of_ok fun w result w' h => ?_
  simp only [recordWorktreeExecution, bind_eq_ok, requireNonEmpty_eq_ok, throwIf_eq_ok,
    pure_eq_ok] at h
  obtain ⟨_, w₁, hkind, execution, w₂, hexecution, _, w₃, hreceipt, _, _, ⟨-, rfl⟩, _, _,
    ⟨hallowed, rfl⟩, _, w₄, hprocess, _, w₅, hrevoke, _, w₆, hrecord, -, rfl⟩ := h
  obtain rfl : w = w₁ := Within.of_eq hkind
  obtain ⟨hstands, rfl⟩ := requireExecution_stands hexecution
  obtain rfl : w = w₃ := Within.of_eq hreceipt
  have hprocessed : WorktreeSteps w w₄ := Within.of_eq hprocess
  have hstands := (Within.of_eq (R := Keeps (Stands execution)) hprocess) hstands
  have hrevoked : WorktreeSteps w₄ w₅ := by
    split at hrevoke <;> exact Within.of_eq hrevoke
  have hstands : Stands execution w₅ := by
    split at hrevoke
    · exact (Within.of_eq (R := Keeps (Stands execution)) hrevoke) hstands
    · exact (Within.of_eq (R := Keeps (Stands execution)) hrevoke) hstands
  rw [not_not] at hallowed
  exact trans_of _ (trans_of _ hprocessed hrevoked) (recordState_steps hstands hallowed hrecord)

instance (command : RevokeWorktreeExecutionAuthorityCommand) (principal : Principal) :
    Within WorktreeSteps (revokeWorktreeExecutionAuthority kernel command principal) := by
  unfold revokeWorktreeExecutionAuthority
  infer_instance

instance (execution : WorktreeExecution) (failure : Failure) :
    Within WorktreeSteps (revokeLostAuthority kernel execution failure) := by
  unfold revokeLostAuthority
  infer_instance

/-! ## Checks of authority -/

/-- The error is a `KernelError`, which loses an execution its authority. -/
abbrev OfKernel (e : Failure) : Prop := e.isKernelError = true

theorem assertExecutionAuthority_commitsAt {keep : Failure → Prop} (hkeep : ¬ keep .constraint)
    {activationId : String} {requireStopped allowCommittedDecision : Bool}
    {execution : WorktreeExecution} {worktree : PhysicalWorktree}
    {lease : Option WorktreeWriterLease} :
    CommitsAt keep WorktreeSteps (assertExecutionAuthority kernel activationId requireStopped
      allowCommittedDecision execution worktree lease) w := by
  unfold assertExecutionAuthority
  refine .bind Within.commitsAt fun _ _ _ => .bind Within.commitsAt fun _ _ _ =>
    .bind Within.commitsAt fun _ _ _ => .bind Within.commitsAt fun _ _ _ =>
    .bind Within.commitsAt fun _ _ _ => .bind Within.commitsAt fun _ _ _ =>
    .bind (requireLiveAuthority_commitsAt hkeep) fun _ _ _ => Within.commitsAt

instance (activationId : String) (requireStopped allowCommittedDecision : Bool) :
    Commits WorktreeSteps (assertActivationWriterAuthority kernel activationId requireStopped
      allowCommittedDecision) := by
  have hexecution : ∀ (execution : WorktreeExecution) (worktree : PhysicalWorktree)
      (lease : Option WorktreeWriterLease), Commits WorktreeSteps (Tx.orElse
        (assertExecutionAuthority kernel activationId requireStopped allowCommittedDecision
          execution worktree lease)
        (revokeLostAuthority kernel execution)) := by
    refine fun execution worktree lease => Commits.of_at fun w => ?_
    have hkernel : ¬ OfKernel .constraint := by decide
    refine CommitsAt.orElse (assertExecutionAuthority_commitsAt hkernel) ?_ ?_
    · intro e he
      cases e with
      | durable => rfl
      | _ => cases he
    · intro e w₁ he
      rw [revokeLostAuthority, throwIf, if_pos he]
      rfl
  unfold assertActivationWriterAuthority
  infer_instance

instance (principal : Principal) (context : PrincipalContext) (requireStopped : Bool) :
    Commits WorktreeSteps
      (assertWriterContextAuthority kernel principal context requireStopped) := by
  unfold assertWriterContextAuthority
  infer_instance

instance (activationId providerAttemptId : Option String) :
    Commits WorktreeSteps (assertActivityAuthority kernel activationId providerAttemptId) := by
  unfold assertActivityAuthority
  infer_instance

instance (command : KernelCommand) :
    Commits WorktreeSteps (assertRuntimeCommandAuthority kernel command) := by
  unfold assertRuntimeCommandAuthority
  split <;> infer_instance

instance (command : KernelCommand) (principal : Principal) (context : PrincipalContext) :
    Commits WorktreeSteps (assertWriterCommandAuthority kernel command principal context) := by
  unfold assertWriterCommandAuthority
  infer_instance

instance (command : WorktreeLeaseAuthority) (principal : Principal) (observedAt : Timestamp)
    (correlationId : String) :
    Commits WorktreeSteps
      (requireLiveAuthority kernel command principal observedAt correlationId) :=
  Commits.of_at fun _ => requireLiveAuthority_commitsAt (by decide)

instance (authority : WorktreeMutationAuthority) (principal : Principal) :
    Commits WorktreeSteps (assertWorktreeMutation kernel authority principal) := by
  unfold assertWorktreeMutation
  infer_instance

instance (authority : WorktreeMutationAuthority) (principal : Principal) :
    Commits WorktreeSteps (assertWorktreePublication kernel authority principal) := by
  unfold assertWorktreePublication
  infer_instance

instance (command : StartWorktreeExecutionCommand) (result : CommandResult)
    (principal : Principal) :
    Commits WorktreeSteps (resolveCachedWorktreeExecution kernel command result principal) := by
  unfold resolveCachedWorktreeExecution
  infer_instance

/-- The execution still has the authority it was started with. -/
structure HoldsAuthority (execution : WorktreeExecution) (w : World) : Prop where
  notRevoked : execution.authorityRevokedAt = none
  grants : (worktreeBook w.db).Grants execution

/-- A check of authority that succeeds has only read. -/
theorem assertExecutionAuthority_eq_ok {activationId : String}
    {requireStopped allowCommittedDecision : Bool} {execution : WorktreeExecution}
    {worktree : PhysicalWorktree} {lease : Option WorktreeWriterLease} {u : Unit}
    (h : assertExecutionAuthority kernel activationId requireStopped allowCommittedDecision
      execution worktree lease w = (.ok u, w')) :
    SameDatabase w w' ∧ HoldsAuthority execution w := by
  simp only [assertExecutionAuthority, bind_eq_ok, throwIf_eq_ok] at h
  obtain ⟨_, w₁, hprovider, _, w₂, hrevocations, _, _, ⟨hstate, rfl⟩, _, w₃, hruntime, _, w₄, hnow,
    _, w₅, hid, found, w₆, hcheck, _, w₇, hactivation, _, w₈, hrun, _, w₉, hdecided, hsource⟩ := h
  obtain ⟨hfound, hlive, rfl⟩ := requireLiveAuthority_eq_ok hcheck
  have h₁ : SameDatabase w w₁ := Within.of_eq hprovider
  have h₂ : SameDatabase w₁ w₂ := Within.of_eq hrevocations
  have h₃ : SameDatabase w₂ w₃ := Within.of_eq hruntime
  have h₄ : SameDatabase w₃ w₄ := Within.of_eq hnow
  have h₅ : SameDatabase w₄ w₅ := Within.of_eq hid
  have h₇ : SameDatabase w₅ w₇ := Within.of_eq hactivation
  have h₈ : SameDatabase w₇ w₈ := Within.of_eq hrun
  have h₉ : SameDatabase w₈ w₉ := Within.of_eq hdecided
  have h₁₀ : SameDatabase w₉ w' := Within.of_eq hsource
  have hbefore : SameDatabase w w₅ :=
    trans_of _ (trans_of _ h₁ h₂) (trans_of _ h₃ (trans_of _ h₄ h₅))
  refine ⟨trans_of _ hbefore (trans_of _ (trans_of _ h₇ h₈) (trans_of _ h₉ h₁₀)), ?_, found, ?_,
    hlive.active, hlive.generation, hlive.fencingToken⟩
  · cases hrevoked : execution.authorityRevokedAt with
    | none => rfl
    | some at' => simp [hrevoked] at hstate
  · rw [hbefore] at hfound
    exact hfound

/-- What holds of every element a loop of successful checks has seen. -/
theorem forEach_reads {α : Type} {P : α → World → Prop} {f : α → K Unit} {xs : List α} {u : Unit}
    (hf : ∀ x w w', f x w = (.ok (), w') → SameDatabase w w' ∧ P x w)
    (hP : ∀ x w w', SameDatabase w w' → P x w' → P x w)
    (h : forEach xs f w = (.ok u, w')) : SameDatabase w w' ∧ ∀ x ∈ xs, P x w := by
  induction xs generalizing w with
  | nil =>
      obtain ⟨-, rfl⟩ := pure_eq_ok.mp h
      exact ⟨rfl, by simp⟩
  | cons x rest ih =>
      simp only [forEach, bind_eq_ok] at h
      obtain ⟨_, w₁, hx, hrest⟩ := h
      obtain ⟨hsame, hhead⟩ := hf x w w₁ hx
      obtain ⟨hsame', htail⟩ := ih hrest
      refine ⟨trans_of _ hsame hsame', fun y hy => ?_⟩
      obtain rfl | hy := List.mem_cons.mp hy
      · exact hhead
      · exact hP y w w₁ hsame (htail y hy)

/-- After a successful check every execution of the Activation has its authority. -/
theorem assertActivationWriterAuthority_eq_ok {activationId : String}
    {requireStopped allowCommittedDecision : Bool} {u : Unit}
    (h : assertActivationWriterAuthority kernel activationId requireStopped
      allowCommittedDecision w = (.ok u, w')) :
    SameDatabase w w' ∧
      ∀ e ∈ w.db.table WorktreeExecution, e.activationId = activationId → HoldsAuthority e w := by
  simp only [assertActivationWriterAuthority, bind_eq_ok, selectRows_eq_ok] at h
  obtain ⟨executions, _, ⟨rfl, rfl⟩, h⟩ := h
  have hkept : ∀ (e : WorktreeExecution) (w₁ w₂ : World), SameDatabase w₁ w₂ →
      HoldsAuthority e w₂ → HoldsAuthority e w₁ := by
    intro e w₁ w₂ hsame hholds
    have hgrants := hholds.grants
    rw [show w₂.db = w₁.db from hsame] at hgrants
    exact ⟨hholds.notRevoked, hgrants⟩
  refine (forEach_reads (fun execution w₁ w₂ h => ?_) hkept h).imp_right fun hall e he hid =>
    hall e ?_
  · simp only [bind_eq_ok] at h
    obtain ⟨worktree, w₃, hworktree, lease, w₄, hlease, hcheck⟩ := h
    obtain rfl : w₁ = w₃ := Within.of_eq hworktree
    obtain rfl : w₁ = w₄ := Within.of_eq hlease
    unfold Tx.orElse at hcheck
    split at hcheck
    · rename_i hrun
      cases hcheck
      exact assertExecutionAuthority_eq_ok hrun
    · simp only [revokeLostAuthority, bind_eq_ok, raise_eq_ok] at hcheck
      obtain ⟨_, _, _, _, _, _, hfalse⟩ := hcheck
      exact hfalse.elim
  · simp [he, hid]

instance (command : StartWorktreeExecutionCommand) (principal : Principal)
    (correlationId : String) :
    Commits WorktreeSteps (startWorktreeExecution kernel command principal correlationId) := by
  refine Commits.of_at fun w => ?_
  unfold startWorktreeExecution
  refine .bind_read fun _ _ => .bind_read fun _ _ => .bind_read fun _ hassert => ?_
  obtain ⟨hidle, -⟩ := assertPhysicalWorktreeIdle_eq_ok hassert
  refine .bind_read fun worktree hworktree => .bind Within.commitsAt fun _ w₁ hsource =>
    .bind Within.commitsAt fun _ w₂ hprovider =>
      .bind Commits.commitsAt fun _ w₃ hauthority => .bind Within.commitsAt fun observedAt w₄ hnow =>
        .bind (requireLiveAuthority_commitsAt (by decide)) fun _ w₅ hcheck => ?_
  obtain ⟨hlease, hlive, rfl⟩ := requireLiveAuthority_eq_ok hcheck
  have hsame : SameDatabase w w₄ :=
    trans_of _ (trans_of _ (Within.of_eq hsource) (Within.of_eq hprovider))
      (trans_of _ (assertActivationWriterAuthority_eq_ok hauthority).1 (Within.of_eq hnow))
  rw [← hsame] at hidle
  refine .of_plain fun result w' h => ?_
  simp only [bind_eq_ok, newId_eq_ok, drawToken_eq_ok, now_eq_ok, selectTable_eq_ok,
    insertRow_eq_ok, pure_eq_ok] at h
  obtain ⟨id, _, ⟨-, rfl⟩, executionToken, _, ⟨-, rfl⟩, createdAt, _, ⟨-, rfl⟩, _, _, ⟨rfl, rfl⟩, _, _,
    ⟨t, ht, rfl⟩, _, w₅, happend, -, rfl⟩ := h
  have hafter : WorktreeSteps (w₄.issue.draw.tick.store t) w₅ := Within.of_eq happend
  refine trans_of _ ?_ hafter
  have hregistered : (worktreeBook w₄.db).worktree command.worktreeId ≠ none := by
    rw [hsame]
    exact ne_of_eq_of_ne (requireRow_eq_ok.mp hworktree).1 (Option.some_ne_none worktree)
  rw [WorktreeSteps, worktreeBook_store_executions, Table.insert?_eq_some ht, List.map_append]
  refine Relation.ReflTransGen.single
    (.start (b := worktreeBook w₄.db) hregistered hidle
      ⟨_, hlease, hlive.active, hlive.generation, hlive.fencingToken⟩ rfl rfl fun x hx => ?_)
  obtain ⟨r, hr, rfl⟩ := List.mem_map.mp hx
  intro hid
  have hid : r.id = id := hid
  exact Table.not_mem_keys_of_insert? ht hr (k := ⟨1, [.text r.id]⟩) (by simp [Keyed.keys])
    (by simp [Keyed.keys, hid])

end Executions

/-! ## Calls -/

section Calls

set_option synthInstance.maxSize 100000

variable (kernel : KernelContext)

instance (command : KernelCommand) (context : PrincipalContext) (principal : Principal)
    (correlationId : String) :
    Commits WorktreeSteps (dispatchCommand kernel command context principal correlationId) := by
  cases command <;> unfold dispatchCommand <;> infer_instance

instance (command : KernelCommand) (result : CommandResult) (principal : Principal)
    (context : PrincipalContext) :
    Commits WorktreeSteps (resolveCachedResult kernel command result principal context) := by
  unfold resolveCachedResult
  split <;> infer_instance

instance (command : KernelCommand) (principal : Principal) (context : PrincipalContext)
    (operationContext : Option KernelOperationContext) :
    Commits WorktreeSteps (commandBody kernel command principal context operationContext) :=
  inferInstance

/-- A call makes steps of the book. -/
theorem step_worktrees (call : KernelCall) (w : World) :
    WorktreeSteps w (step kernel call w) :=
  step_within kernel call w fun _ _ _ _ => inferInstance

variable {kernel}

/-- When the database is opened no Worktree is known. -/
theorem Opened.worktreeBook {w : World} (h : Opened kernel w) :
    worktreeBook w.db = ⟨fun _ => none, [], fun _ => none, []⟩ := by
  have hframe : Frame [.worktreeWriterLeases, .worktreeWriterLeaseEvents, .physicalWorktrees,
    .worktreeExecutions] World.blank w := h.frame
  rw [Kernel.worktreeBook, hframe.table_eq WorktreeWriterLease (by decide),
    hframe.table_eq WorktreeWriterLeaseEvent (by decide),
    hframe.table_eq PhysicalWorktree (by decide), hframe.table_eq WorktreeExecution (by decide)]
  rfl

/-- What holds of the empty book and is preserved by every step of the book holds in every
reachable state. -/
theorem Reachable.worktreeInvariant {Inv : WorktreeBook → Prop} {w : World}
    (h : Reachable kernel w) (hinit : Inv ⟨fun _ => none, [], fun _ => none, []⟩)
    (hstep : ∀ b b', b.Step b' → Inv b → Inv b') : Inv (Kernel.worktreeBook w.db) := by
  refine @Reachable.invariant kernel w (fun w => Inv (Kernel.worktreeBook w.db)) h
    (fun w hopen => ?_) fun w call hw => ?_
  · simpa only [hopen.worktreeBook] using hinit
  · have hrun := step_worktrees kernel call w
    unfold WorktreeSteps at hrun
    show Inv (Kernel.worktreeBook (Kernel.step kernel call w).db)
    generalize Kernel.worktreeBook (Kernel.step kernel call w).db = b at hrun ⊢
    induction hrun with
    | refl => exact hw
    | tail _ hb ih => exact hstep _ _ hb ih

end Calls

end Torsor.Kernel
