import Torsor.Kernel.WorktreeBook

/-! # The lease ledger determines the lease

Every change of a lease is recorded by one event. The events of a Worktree, folded by their
type from a Worktree nobody has leased yet, give back the lease as it is.
-/

namespace Torsor.Kernel

open Torsor.Library

/-! ## Folding the events -/

/-- What the events of a Worktree say about its lease. -/
structure FoldedLease where
  status : Option WorktreeWriterLeaseStatus
  generation : Nat
  fencingToken : Nat
  holderPrincipalId : Option String
  expiresAt : Option Timestamp
  deriving DecidableEq

namespace FoldedLease

/-- Nobody has leased the Worktree yet. -/
def empty : FoldedLease := ⟨none, 0, 0, none, none⟩

def vacate (lease : FoldedLease) (status : WorktreeWriterLeaseStatus) : FoldedLease :=
  { lease with
    status := some status
    holderPrincipalId := none
    expiresAt := none }

/-- An acquisition starts a generation and a fence, a quarantine raises the fence only; the
holder and the expiry are those of the last acquisition or renewal. -/
def apply (lease : FoldedLease) (event : WorktreeWriterLeaseEvent) : FoldedLease :=
  match event.type with
  | .WorktreeWriterLeaseAcquired =>
      { status := some .Active
        generation := lease.generation + 1
        fencingToken := lease.fencingToken + 1
        holderPrincipalId := event.holderPrincipalId
        expiresAt := event.expiresAt }
  | .WorktreeWriterLeaseRenewed => { lease with expiresAt := event.expiresAt }
  | .WorktreeWriterLeaseReleased => lease.vacate .Released
  | .WorktreeWriterLeaseExpired => lease.vacate .Expired
  | .WorktreeWriterLeaseQuarantined =>
      { lease.vacate .Quarantined with fencingToken := lease.fencingToken + 1 }
  | .WorktreeWriterLeaseQuarantineResolved => { lease with status := some .Released }

end FoldedLease

/-- The part of a lease the events determine. -/
def WorktreeWriterLease.folded (lease : WorktreeWriterLease) : FoldedLease where
  status := some lease.status
  generation := lease.generation
  fencingToken := lease.fencingToken
  holderPrincipalId := lease.holderPrincipalId
  expiresAt := lease.expiresAt

namespace WorktreeBook

def events (b : WorktreeBook) (worktreeId : String) : List WorktreeWriterLeaseEvent :=
  b.ledger.filter fun e => e.worktreeId = worktreeId

def revision (b : WorktreeBook) (worktreeId : String) : Nat :=
  (b.lease worktreeId).elim 0 (·.revision)

def foldedLease (b : WorktreeBook) (worktreeId : String) : FoldedLease :=
  (b.lease worktreeId).elim FoldedLease.empty WorktreeWriterLease.folded

/-! ## One move -/

section Moves

variable {b : WorktreeBook} {type : WorktreeWriterLeaseEventType} {r : WorktreeWriterLease}
  {event : WorktreeWriterLeaseEvent}

theorem revision_of_lease {worktreeId : String} (hr : b.lease worktreeId = some r) :
    b.revision worktreeId = r.revision := by
  rw [revision, hr]
  rfl

theorem foldedLease_of_lease {worktreeId : String} (hr : b.lease worktreeId = some r) :
    b.foldedLease worktreeId = r.folded := by
  rw [foldedLease, hr]
  rfl

/-- Every lease is found under its own Worktree. -/
def Filed (b : WorktreeBook) : Prop :=
  ∀ worktreeId r, b.lease worktreeId = some r → r.worktreeId = worktreeId

theorem Filed.quarantine (hfiled : b.Filed) (command : QuarantineWorktreeWriterLeaseCommand)
    (quarantineToken : String) (observedAt : Timestamp) :
    (WorktreeWriterLease.quarantine (b.lease command.worktreeId) command quarantineToken observedAt
      ((b.lease command.worktreeId).getD (blankLease command.worktreeId observedAt))).worktreeId =
      command.worktreeId := by
  cases hlease : b.lease command.worktreeId with
  | none => rfl
  | some r => exact hfiled _ r hlease

/-- A move advances the revision by one. -/
theorem LeaseMove.revision_eq (hfiled : b.Filed) (h : b.LeaseMove type r) :
    r.revision = b.revision r.worktreeId + 1 := by
  cases h with
  | expire hr _ => rw [WorktreeWriterLease.expire, revision_of_lease hr]
  | @acquire worktreeId _ _ _ _ _ _ =>
      show (b.lease worktreeId).elim 1 (·.revision + 1) = b.revision worktreeId + 1
      unfold revision
      cases b.lease worktreeId <;> rfl
  | renew hr _ => rw [revision_of_lease hr]
  | release _ hr _ => rw [revision_of_lease hr]
  | @quarantine command quarantineToken observedAt _ =>
      rw [hfiled.quarantine]
      show (b.lease command.worktreeId).elim 1 (·.revision + 1) =
        b.revision command.worktreeId + 1
      unfold revision
      cases b.lease command.worktreeId <;> rfl
  | resolve _ hr _ => rw [revision_of_lease hr]

/-- The event that records a move makes of the folded lease what the move makes of the lease. -/
theorem LeaseMove.folded_eq (hfiled : b.Filed) (h : b.LeaseMove type r)
    (hevent : event.Records type r) :
    r.folded = (b.foldedLease r.worktreeId).apply event := by
  have hholder := hevent.holderPrincipalId_eq
  have hexpires := hevent.expiresAt_eq
  unfold FoldedLease.apply
  rw [hevent.type_eq]
  cases h with
  | expire hr _ =>
      rw [WorktreeWriterLease.expire, foldedLease_of_lease hr]
      rfl
  | @acquire worktreeId _ _ _ _ _ _ =>
      simp only [hholder, hexpires]
      show WorktreeWriterLease.folded _ = _
      unfold acquiredLease WorktreeWriterLease.folded foldedLease
      cases b.lease worktreeId <;> rfl
  | renew hr _ =>
      simp only [hexpires]
      rw [foldedLease_of_lease hr]
      rfl
  | release _ hr _ =>
      rw [foldedLease_of_lease hr]
      rfl
  | @quarantine command quarantineToken observedAt _ =>
      rw [hfiled.quarantine]
      unfold foldedLease
      cases b.lease command.worktreeId <;> rfl
  | resolve _ hr _ =>
      rw [foldedLease_of_lease hr]
      rfl

theorem Filed.setLease (hfiled : b.Filed) (r : WorktreeWriterLease) : (b.setLease r).Filed := by
  intro worktreeId x hx
  simp only [WorktreeBook.setLease, Function.update_apply] at hx
  split at hx
  · rename_i heq
    cases hx
    exact heq.symm
  · exact hfiled worktreeId x hx

end Moves

/-! ## A run -/

/-- The ledger is in order, has one event for every revision and determines every lease. -/
structure LedgerDetermines (b : WorktreeBook) : Prop where
  filed : b.Filed
  ordered : b.ledger.Pairwise fun e e' => e.sequence < e'.sequence
  revisions : ∀ worktreeId,
    (b.events worktreeId).map (·.revision) = List.range' 1 (b.revision worktreeId)
  folded : ∀ worktreeId,
    (b.events worktreeId).foldl FoldedLease.apply FoldedLease.empty = b.foldedLease worktreeId

section Runs

variable {b b' : WorktreeBook} {type : WorktreeWriterLeaseEventType} {r : WorktreeWriterLease}
  {event : WorktreeWriterLeaseEvent}

/-- The events of the Worktree whose lease has made a move. -/
theorem events_self (hof : event.worktreeId = r.worktreeId) :
    events { b.setLease r with ledger := b.ledger ++ [event] } r.worktreeId =
      b.events r.worktreeId ++ [event] := by
  simp [events, List.filter_append, hof]

/-- The events of the other Worktrees. -/
theorem events_other {worktreeId : String} (hof : event.worktreeId = r.worktreeId)
    (hne : worktreeId ≠ r.worktreeId) :
    events { b.setLease r with ledger := b.ledger ++ [event] } worktreeId =
      b.events worktreeId := by
  simp [events, List.filter_append, hof, Ne.symm hne]

theorem setLease_lease_other {worktreeId : String} (hne : worktreeId ≠ r.worktreeId) :
    (b.setLease r).lease worktreeId = b.lease worktreeId :=
  Function.update_of_ne hne _ _

theorem LedgerDetermines.lease (h : b.LedgerDetermines) (hmove : b.LeaseMove type r)
    (hevent : event.Records type r) (hlast : ∀ e ∈ b.ledger, e.sequence < event.sequence) :
    LedgerDetermines { b.setLease r with ledger := b.ledger ++ [event] } := by
  have hof := hevent.worktreeId_eq
  have hrevision := hmove.revision_eq h.filed
  refine ⟨h.filed.setLease r, ?_, fun worktreeId => ?_, fun worktreeId => ?_⟩
  · rw [List.pairwise_append]
    exact ⟨h.ordered, List.pairwise_singleton _ _, fun e he e' he' => by
      rw [List.mem_singleton.mp he']
      exact hlast e he⟩
  · by_cases hid : worktreeId = r.worktreeId
    · subst hid
      have hafter : revision { b.setLease r with ledger := b.ledger ++ [event] } r.worktreeId =
          b.revision r.worktreeId + 1 :=
        (revision_of_lease (setLease_lease_self b r)).trans hrevision
      rw [events_self hof, List.map_append, h.revisions, hafter, List.range'_concat,
        List.map_singleton, hevent.revision_eq, hrevision, Nat.one_mul, Nat.add_comm 1]
    · rw [events_other hof hid, h.revisions]
      exact congrArg (List.range' 1) (congrArg (Option.elim · 0 _) (setLease_lease_other hid).symm)
  · by_cases hid : worktreeId = r.worktreeId
    · subst hid
      rw [events_self hof, List.foldl_append, h.folded]
      exact (hmove.folded_eq h.filed hevent).symm.trans
        (foldedLease_of_lease (setLease_lease_self b r)).symm
    · rw [events_other hof hid, h.folded]
      exact congrArg (Option.elim · _ _) (setLease_lease_other hid).symm

/-- Only the moves of a lease touch the leases and the ledger. -/
theorem LedgerDetermines.step (h : b.LedgerDetermines) (hstep : b.Step b') :
    b'.LedgerDetermines := by
  cases hstep with
  | lease hmove hevent hlast => exact h.lease hmove hevent hlast
  | register => exact ⟨h.filed, h.ordered, h.revisions, h.folded⟩
  | start => exact ⟨h.filed, h.ordered, h.revisions, h.folded⟩
  | record => exact ⟨h.filed, h.ordered, h.revisions, h.folded⟩
  | revoke => exact ⟨h.filed, h.ordered, h.revisions, h.folded⟩

theorem ledgerDetermines_empty :
    LedgerDetermines ⟨fun _ => none, [], fun _ => none, []⟩ :=
  ⟨fun _ _ h => (nomatch h), List.Pairwise.nil, fun _ => rfl, fun _ => rfl⟩

end Runs

end WorktreeBook

/-! ## The Kernel -/

/-- The events of the Worktree in the order of their sequence numbers. -/
def worktreeWriterLeaseEvents (db : Database) (worktreeId : String) :
    List WorktreeWriterLeaseEvent :=
  orderBy (·.sequence)
    ((db.table WorktreeWriterLeaseEvent).filter fun e => e.worktreeId = worktreeId)

/-- The events of the Worktree number its revisions from 1 to that of its lease, and folded by
their type they give that lease. -/
structure LedgerDeterminesLease (db : Database) (worktreeId : String) : Prop where
  revisions : (worktreeWriterLeaseEvents db worktreeId).map (·.revision) =
    List.range' 1 (((worktreeBook db).lease worktreeId).elim 0 (·.revision))
  folded : (worktreeWriterLeaseEvents db worktreeId).foldl FoldedLease.apply FoldedLease.empty =
    ((worktreeBook db).lease worktreeId).elim FoldedLease.empty WorktreeWriterLease.folded

/-- In every reachable state the ledger determines the lease of every Worktree. -/
theorem ledger_determines_lease {kernel : KernelContext} {w : World} (h : Reachable kernel w)
    (worktreeId : String) : LedgerDeterminesLease w.db worktreeId := by
  have hbook : (worktreeBook w.db).LedgerDetermines :=
    h.worktreeInvariant WorktreeBook.ledgerDetermines_empty fun _ _ hstep h => h.step hstep
  have hordered : worktreeWriterLeaseEvents w.db worktreeId =
      (worktreeBook w.db).events worktreeId :=
    orderBy_of_pairwise ((hbook.ordered.imp fun h => h.le).filter _)
  refine ⟨?_, ?_⟩
  · rw [hordered]
    exact hbook.revisions worktreeId
  · rw [hordered]
    exact hbook.folded worktreeId

/-! ## A leased Worktree -/

def acquireCall : KernelCall :=
  .execute
    (.AcquireWorktreeWriterLease
      { idempotencyKey := "acquire"
        worktreeId := "worktree"
        leaseDurationMs := 60000 })
    { principalId := "runtime" } none

def leasedWorld : World := step countingKernel acquireCall smallWorld

theorem leasedWorld_reachable : Reachable countingKernel leasedWorld :=
  smallWorld_reachable.step acquireCall

theorem leasedWorld_ledger_determines_lease : LedgerDeterminesLease leasedWorld.db "worktree" :=
  ledger_determines_lease leasedWorld_reachable "worktree"

example : (worktreeWriterLeaseEvents leasedWorld.db "worktree").map (·.revision) = [1] := by
  decide +kernel

end Torsor.Kernel
