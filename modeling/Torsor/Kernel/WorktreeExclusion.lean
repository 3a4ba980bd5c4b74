import Torsor.Kernel.Idempotency
import Torsor.Kernel.WorktreeLedger

/-! # One writer in a Worktree

Whatever becomes of its lease, an execution that is not known to have stopped keeps its
Worktree to itself: the lease stays at its generation, and nothing is granted, released or
started anew until the execution has stopped. A command that is recorded is answered from its
record still, which grants nothing.
-/

namespace Torsor.Kernel

open Torsor.Library Tx

namespace WorktreeBook

variable {b b' : WorktreeBook} {e e' : WorktreeExecution} {worktreeId : String}

/-! ## The book -/

/-- How leases, executions and directories go together. -/
structure Exclusive (b : WorktreeBook) : Prop where
  filed : b.Filed
  ids : (b.executions.map (·.id)).Nodup
  registered : ∀ e ∈ b.executions, b.worktree e.worktreeId ≠ none
  single : ∀ e ∈ b.executions, ∀ e' ∈ b.executions, e.worktreeId = e'.worktreeId →
    isStopped e.state = false → isStopped e'.state = false → e = e'
  quarantined : ∀ worktreeId, (∃ r, b.worktree worktreeId = some r ∧ r.state = .Quarantined) ↔
    ∃ e ∈ b.executions, e.worktreeId = worktreeId ∧ e.state = .Uncertain
  generation : ∀ e ∈ b.executions, isStopped e.state = false →
    ∃ r, b.lease e.worktreeId = some r ∧ r.generation = e.generation

theorem exclusive_empty : Exclusive ⟨fun _ => none, [], fun _ => none, []⟩ where
  filed := by simp [Filed]
  ids := List.nodup_nil
  registered := by simp
  single := by simp
  quarantined := by simp
  generation := by simp

theorem Idle.not_unsettled (h : b.Idle worktreeId) (he : e ∈ b.executions)
    (hof : e.worktreeId = worktreeId) : isStopped e.state ≠ false := by
  simp [h.executions e he hof]

/-- A lease that moves keeps its generation while something runs in its Worktree. -/
theorem LeaseMove.generation {type : WorktreeWriterLeaseEventType}
    {r previous : WorktreeWriterLease} (hfiled : b.Filed) (h : b.LeaseMove type r)
    (hprevious : b.lease r.worktreeId = some previous) (hbusy : ¬ b.Idle r.worktreeId) :
    r.generation = previous.generation := by
  cases h with
  | expire hr _ =>
      cases hr.symm.trans hprevious
      rfl
  | acquire hidle _ => exact absurd hidle hbusy
  | renew hr _ =>
      cases hr.symm.trans hprevious
      rfl
  | release hidle _ _ => exact absurd hidle hbusy
  | @quarantine command quarantineToken observedAt _ =>
      rw [hfiled.quarantine] at hprevious
      rw [hprevious]
      rfl
  | resolve hidle _ _ => exact absurd hidle hbusy

theorem Exclusive.lease (h : b.Exclusive) {type : WorktreeWriterLeaseEventType}
    {r : WorktreeWriterLease} (hmove : b.LeaseMove type r) (ledger : List WorktreeWriterLeaseEvent) :
    Exclusive { b.setLease r with ledger } where
  filed := h.filed.setLease r
  ids := h.ids
  registered := h.registered
  single := h.single
  quarantined := h.quarantined
  generation e he hunsettled := by
    obtain ⟨previous, hprevious, hgeneration⟩ := h.generation e he hunsettled
    simp only [setLease]
    by_cases hof : e.worktreeId = r.worktreeId
    · have hbusy : ¬ b.Idle r.worktreeId :=
        fun hidle => hidle.not_unsettled he hof hunsettled
      rw [hof] at hprevious ⊢
      rw [Function.update_self]
      exact ⟨r, rfl, (hmove.generation h.filed hprevious hbusy).trans hgeneration⟩
    · rw [Function.update_of_ne hof]
      exact ⟨previous, hprevious, hgeneration⟩

theorem Exclusive.register (h : b.Exclusive) {worktree : PhysicalWorktree}
    (hnew : b.worktree worktree.worktreeId = none) (hready : worktree.state = .Ready) :
    Exclusive { b with
      worktree := Function.update b.worktree worktree.worktreeId (some worktree) } where
  filed := h.filed
  ids := h.ids
  registered e he := by
    by_cases hof : e.worktreeId = worktree.worktreeId
    · simp [hof]
    · simp only [Function.update_of_ne hof]
      exact h.registered e he
  single := h.single
  quarantined worktreeId := by
    by_cases hof : worktreeId = worktree.worktreeId
    · subst hof
      simp only [Function.update_self, Option.some.injEq, exists_eq_left', hready, reduceCtorEq,
        false_iff]
      rintro ⟨e, he, hof, -⟩
      apply h.registered e he
      rw [hof]
      exact hnew
    · simp only [Function.update_of_ne hof]
      exact h.quarantined worktreeId
  generation := h.generation

theorem Exclusive.start (h : b.Exclusive) (hworktree : b.worktree e.worktreeId ≠ none)
    (hidle : b.Idle e.worktreeId) (hgrants : b.Grants e) (hstate : e.state = .Starting)
    (hnew : ∀ x ∈ b.executions, x.id ≠ e.id) :
    Exclusive { b with executions := b.executions ++ [e] } where
  filed := h.filed
  ids := by
    rw [List.map_append, List.map_singleton]
    rw [List.nodup_append]
    refine ⟨h.ids, List.nodup_singleton _, ?_⟩
    intro id hid id' hid'
    obtain ⟨x, hx, rfl⟩ := List.mem_map.mp hid
    rw [List.mem_singleton.mp hid']
    exact hnew x hx
  registered x hx := by
    cases List.mem_append.mp hx with
    | inl hold => exact h.registered x hold
    | inr hlast =>
        rw [List.mem_singleton.mp hlast]
        exact hworktree
  single x hx x' hx' hof hunsettled hunsettled' := by
    cases List.mem_append.mp hx with
    | inl hold =>
        cases List.mem_append.mp hx' with
        | inl hold' => exact h.single x hold x' hold' hof hunsettled hunsettled'
        | inr hlast' =>
            rw [List.mem_singleton.mp hlast'] at hof
            exact absurd hunsettled (hidle.not_unsettled hold hof)
    | inr hlast =>
        rw [List.mem_singleton.mp hlast] at hof ⊢
        cases List.mem_append.mp hx' with
        | inl hold' => exact absurd hunsettled' (hidle.not_unsettled hold' hof.symm)
        | inr hlast' => exact (List.mem_singleton.mp hlast').symm
  quarantined worktreeId := by
    rw [h.quarantined worktreeId]
    constructor
    · rintro ⟨x, hx, hof, huncertain⟩
      exact ⟨x, List.mem_append_left _ hx, hof, huncertain⟩
    · rintro ⟨x, hx, hof, huncertain⟩
      cases List.mem_append.mp hx with
      | inl hold => exact ⟨x, hold, hof, huncertain⟩
      | inr hlast =>
          rw [List.mem_singleton.mp hlast, hstate] at huncertain
          cases huncertain
  generation x hx hunsettled := by
    cases List.mem_append.mp hx with
    | inl hold => exact h.generation x hold hunsettled
    | inr hlast =>
        rw [List.mem_singleton.mp hlast]
        obtain ⟨r, hr, -, hgeneration, -⟩ := hgrants
        exact ⟨r, hr, hgeneration⟩

/-- Changes of executions that keep what they are, and only let them stop. -/
theorem Exclusive.map_executions (h : b.Exclusive) (f : WorktreeExecution → WorktreeExecution)
    (hid : ∀ e, (f e).id = e.id) (hof : ∀ e, (f e).worktreeId = e.worktreeId)
    (hgeneration : ∀ e, (f e).generation = e.generation)
    (hstops : ∀ e ∈ b.executions, isStopped (f e).state = false → isStopped e.state = false)
    (worktree : String → Option PhysicalWorktree)
    (hregistered : ∀ worktreeId, b.worktree worktreeId ≠ none → worktree worktreeId ≠ none)
    (hquarantined : ∀ worktreeId, (∃ r, worktree worktreeId = some r ∧ r.state = .Quarantined) ↔
      ∃ e ∈ b.executions, e.worktreeId = worktreeId ∧ (f e).state = .Uncertain) :
    Exclusive { b with executions := b.executions.map f, worktree } where
  filed := h.filed
  ids := by
    have hids : (b.executions.map f).map (·.id) = b.executions.map (·.id) := by
      rw [List.map_map]
      exact List.map_congr_left fun e _ => hid e
    exact hids ▸ h.ids
  registered x hx := by
    obtain ⟨e, he, rfl⟩ := List.mem_map.mp hx
    rw [hof]
    exact hregistered _ (h.registered e he)
  single x hx x' hx' hsame hunsettled hunsettled' := by
    obtain ⟨e, he, rfl⟩ := List.mem_map.mp hx
    obtain ⟨e', he', rfl⟩ := List.mem_map.mp hx'
    rw [hof, hof] at hsame
    rw [h.single e he e' he' hsame (hstops e he hunsettled) (hstops e' he' hunsettled')]
  quarantined worktreeId := by
    rw [hquarantined worktreeId]
    constructor
    · rintro ⟨e, he, hof', huncertain⟩
      exact ⟨f e, List.mem_map_of_mem he, (hof e).trans hof', huncertain⟩
    · rintro ⟨x, hx, hof', huncertain⟩
      obtain ⟨e, he, rfl⟩ := List.mem_map.mp hx
      exact ⟨e, he, (hof e).symm.trans hof', huncertain⟩
  generation x hx hunsettled := by
    obtain ⟨e, he, rfl⟩ := List.mem_map.mp hx
    rw [hof, hgeneration]
    exact h.generation e he (hstops e he hunsettled)

/-- An execution that is not Uncertain leaves a Worktree Quarantined when it becomes so. -/
theorem worktreeState_eq_quarantined {state previous : WorktreeExecutionState}
    {worktree : PhysicalWorktreeState} (hallowed : state ∈ allowedExecutionStates previous)
    (hworktree : worktree = .Quarantined → previous = .Uncertain) :
    worktreeState state worktree = .Quarantined ↔ state = .Uncertain := by
  unfold worktreeState
  by_cases huncertain : state = .Uncertain
  · simp [huncertain]
  · simp only [huncertain, if_false, iff_false]
    split
    · simp
    · rename_i hrunning
      intro hquarantined
      rw [hworktree hquarantined] at hallowed
      revert hrunning
      cases state <;> simp_all [allowedExecutionStates, isStopped]

theorem allowed_unsettled {state previous : WorktreeExecutionState}
    (h : state ∈ allowedExecutionStates previous) : isStopped previous = false := by
  cases previous <;> first | rfl | cases h

theorem Exclusive.record (h : b.Exclusive) {state : WorktreeExecutionState}
    (he : e ∈ b.executions) (hallowed : state ∈ allowedExecutionStates e.state) :
    (b.record e state).Exclusive := by
  have hunsettled := allowed_unsettled hallowed
  have hsame : ∀ x ∈ b.executions, x.id = e.id → x = e := by
    intro x hx hid
    exact List.inj_on_of_nodup_map h.ids hx he hid
  have hother : ∀ x ∈ b.executions, x.worktreeId = e.worktreeId → x.id ≠ e.id →
      isStopped x.state = true := by
    intro x hx hof hid
    by_contra hnot
    have hx' := h.single x hx e he hof (by simpa using hnot) hunsettled
    exact hid (by rw [hx'])
  apply h.map_executions (fun r => if r.id = e.id then { r with state } else r)
  case hid =>
    intro x
    split <;> rfl
  case hof =>
    intro x
    split <;> rfl
  case hgeneration =>
    intro x
    split <;> rfl
  case hstops =>
    intro x hx hstays
    split at hstays
    · rename_i hid
      rw [hsame x hx hid]
      exact hunsettled
    · exact hstays
  case hregistered =>
    intro worktreeId hregistered
    split
    · simpa using hregistered
    · exact hregistered
  case hquarantined =>
    intro worktreeId
    by_cases hof : worktreeId = e.worktreeId
    · subst hof
      obtain ⟨worktree, hworktree⟩ := Option.ne_none_iff_exists'.mp (h.registered e he)
      have hbefore : worktree.state = .Quarantined → e.state = .Uncertain := by
        intro hquarantined
        obtain ⟨x, hx, hof, huncertain⟩ :=
          (h.quarantined e.worktreeId).mp ⟨worktree, hworktree, hquarantined⟩
        have hx' := h.single x hx e he hof (by rw [huncertain]; rfl) hunsettled
        rw [← hx']
        exact huncertain
      have hafter := worktreeState_eq_quarantined hallowed hbefore
      simp only [if_true, hworktree, Option.map_some, Option.some.injEq, exists_eq_left', hafter]
      constructor
      · intro huncertain
        exact ⟨e, he, rfl, by simpa using huncertain⟩
      · rintro ⟨x, hx, hof, huncertain⟩
        by_cases hid : x.id = e.id
        · simpa [hid] using huncertain
        · have hstopped := hother x hx hof hid
          simp only [hid, if_false] at huncertain
          rw [huncertain] at hstopped
          cases hstopped
    · simp only [hof, if_false]
      rw [h.quarantined worktreeId]
      constructor
      · rintro ⟨x, hx, hof', huncertain⟩
        have hne : x.id ≠ e.id := by
          intro hid
          rw [hsame x hx hid] at hof'
          exact hof hof'.symm
        exact ⟨x, hx, hof', by simpa [hne] using huncertain⟩
      · rintro ⟨x, hx, hof', huncertain⟩
        have hne : x.id ≠ e.id := by
          intro hid
          rw [hsame x hx hid] at hof'
          exact hof hof'.symm
        exact ⟨x, hx, hof', by simpa [hne] using huncertain⟩

theorem Exclusive.revoke (h : b.Exclusive) (id : String) (revokedAt : Timestamp)
    (reason : String) : (b.revoke id revokedAt reason).Exclusive := by
  apply h.map_executions (fun r =>
    if r.id = id ∧ r.authorityRevokedAt = none then
      { r with authorityRevokedAt := some revokedAt, authorityRevocationReason := some reason }
    else r)
  case hid =>
    intro x
    split <;> rfl
  case hof =>
    intro x
    split <;> rfl
  case hgeneration =>
    intro x
    split <;> rfl
  case hstops =>
    intro x _ hstays
    split at hstays <;> exact hstays
  case hregistered => exact fun _ hregistered => hregistered
  case hquarantined =>
    intro worktreeId
    rw [h.quarantined worktreeId]
    have hstate : ∀ x : WorktreeExecution, (if x.id = id ∧ x.authorityRevokedAt = none then
        { x with authorityRevokedAt := some revokedAt, authorityRevocationReason := some reason }
        else x).state = x.state := by
      intro x
      split <;> rfl
    simp only [hstate]

theorem Exclusive.step (h : b.Exclusive) (hstep : b.Step b') : b'.Exclusive := by
  cases hstep with
  | lease hmove _ _ => exact h.lease hmove _
  | register hnew hready => exact h.register hnew hready
  | start hworktree hidle hgrants hstate _ hnew =>
      exact h.start hworktree hidle hgrants hstate hnew
  | record he hallowed => exact h.record he hallowed
  | revoke id revokedAt reason => exact h.revoke id revokedAt reason

end WorktreeBook

/-! ## Idle Worktrees -/

/-- The Worktree a command would give to a writer, or take from one. -/
def KernelCommand.writerWorktreeId? : KernelCommand → Option String
  | .AcquireWorktreeWriterLease command => some command.worktreeId
  | .ReleaseWorktreeWriterLease command => some command.worktreeId
  | .ResolveWorktreeWriterLeaseQuarantine command => some command.worktreeId
  | .StartWorktreeExecution command => some command.worktreeId
  | _ => none

theorem WorktreeExecution.Revoked.unmoved {e e' : WorktreeExecution} (h : e.Revoked e') :
    e'.worktreeId = e.worktreeId ∧ e'.state = e.state := by
  cases h <;> exact ⟨rfl, rfl⟩

section Idle

set_option synthInstance.maxSize 400000

variable {kernel : KernelContext} {w w' : World} {worktreeId : String} {e : WorktreeExecution}
  {command : KernelCommand} {principal : Principal} {context : PrincipalContext}
  {correlationId : String} {result : CommandResult}

theorem worktreeBook_mem_executions (he : e ∈ (w.db.table WorktreeExecution).rows) :
    e.withoutProcess ∈ (worktreeBook w.db).executions :=
  List.mem_map_of_mem he

theorem idle_of_sameTables (h : SameTables [.physicalWorktrees, .worktreeExecutions] w w')
    (hidle : (worktreeBook w'.db).Idle worktreeId) : (worktreeBook w.db).Idle worktreeId where
  worktree r hr := by
    apply hidle.worktree r
    simp only [worktreeBook] at hr ⊢
    rw [h.table_eq PhysicalWorktree (by decide)]
    exact hr
  executions e he hof := by
    apply hidle.executions e _ hof
    simp only [worktreeBook] at he ⊢
    rw [h.table_eq WorktreeExecution (by decide)]
    exact he

/-- A Worktree that is idle after a replay was idle before it. -/
theorem idle_of_replayWrites (h : ReplayWrites w w')
    (hidle : (worktreeBook w'.db).Idle worktreeId) : (worktreeBook w.db).Idle worktreeId where
  worktree r hr := by
    apply hidle.worktree r
    simp only [worktreeBook, Database.table] at hr ⊢
    rw [h.tables .physicalWorktrees (by decide)]
    exact hr
  executions x hx hof := by
    obtain ⟨e, he, rfl⟩ := List.mem_map.mp hx
    obtain ⟨f, hf, hrevoked⟩ := h.executions
    obtain ⟨hworktree, hstate⟩ := (hrevoked e).unmoved
    have hmem : f e ∈ (w'.db.table WorktreeExecution).rows := by
      rw [hf]
      exact List.mem_map_of_mem he
    have hstopped := hidle.executions _ (worktreeBook_mem_executions hmem) (hworktree.trans hof)
    exact (congrArg isStopped hstate).symm.trans hstopped

/-- Only an idle Worktree changes hands. -/
theorem dispatchCommand_idle (hof : command.writerWorktreeId? = some worktreeId)
    (h : dispatchCommand kernel command context principal correlationId w = (.ok result, w')) :
    (worktreeBook w.db).Idle worktreeId := by
  cases command with
  | AcquireWorktreeWriterLease command =>
      cases hof
      simp only [dispatchCommand, acquireWorktreeWriterLease, bind_eq_ok] at h
      obtain ⟨_, w₁, hruntime, _, w₂, hid, _, w₃, hduration, observedAt, w₄, hnow, previous, w₅,
        hprevious, existing, w₆, hexpire, _, _, hidle, -⟩ := h
      obtain ⟨hidle, -⟩ := assertPhysicalWorktreeIdle_eq_ok hidle
      have hread : SameTables [.physicalWorktrees, .worktreeExecutions] w w₃ := trans_of _
        (trans_of _ (Within.of_eq hruntime) (Within.of_eq hid)) (Within.of_eq hduration)
      have hseen : SameTables [.physicalWorktrees, .worktreeExecutions] w₃ w₆ := trans_of _
        (trans_of _ (Within.of_eq hnow) (Within.of_eq hprevious)) (Within.of_eq hexpire)
      exact idle_of_sameTables (trans_of _ hread hseen) hidle
  | ReleaseWorktreeWriterLease command =>
      cases hof
      simp only [dispatchCommand, releaseWorktreeWriterLease, bind_eq_ok] at h
      obtain ⟨_, w₁, hruntime, observedAt, w₂, hnow, _, w₃, hlive, _, _, hidle, -⟩ := h
      obtain ⟨hidle, -⟩ := assertPhysicalWorktreeIdle_eq_ok hidle
      have hseen : SameTables [.physicalWorktrees, .worktreeExecutions] w w₃ := trans_of _
        (trans_of _ (Within.of_eq hruntime) (Within.of_eq hnow)) (Within.of_eq hlive)
      exact idle_of_sameTables hseen hidle
  | ResolveWorktreeWriterLeaseQuarantine command =>
      cases hof
      simp only [dispatchCommand, resolveWorktreeWriterLeaseQuarantine, bind_eq_ok] at h
      obtain ⟨_, w₁, hruntime, _, _, hidle, -⟩ := h
      obtain ⟨hidle, -⟩ := assertPhysicalWorktreeIdle_eq_ok hidle
      exact idle_of_sameTables (Within.of_eq hruntime) hidle
  | StartWorktreeExecution command =>
      cases hof
      simp only [dispatchCommand, startWorktreeExecution, bind_eq_ok] at h
      obtain ⟨_, w₁, hruntime, _, w₂, hid, _, _, hidle, -⟩ := h
      obtain ⟨hidle, -⟩ := assertPhysicalWorktreeIdle_eq_ok hidle
      have hread : SameTables [.physicalWorktrees, .worktreeExecutions] w w₂ :=
        trans_of _ (Within.of_eq hruntime) (Within.of_eq hid)
      exact idle_of_sameTables hread hidle
  | _ => cases hof

/-- A command that succeeds is about an idle Worktree, unless it is recorded. -/
theorem answer_idle {call : KernelCall} {issued : IssuedCommand}
    (hissued : call.issued = some issued)
    (hof : issued.command.writerWorktreeId? = some worktreeId)
    (h : answer kernel call w = some (.ok result)) :
    Recorded issued.context.principalId issued.command w ∨ (worktreeBook w.db).Idle worktreeId := by
  obtain ⟨w₁, hrun, -⟩ := answer_eq_ok hissued h
  obtain ⟨principal, w₂, hprincipal, hfence, ⟨cached, hcached, -⟩ | ⟨-, hperform⟩⟩ :=
    executeTransaction_eq_ok hrun
  · have hid : principal.id = issued.context.principalId := by
      simpa using (Table.find?_eq_some hprincipal).2
    have hsame : SameTables TableName.butLeases w w₂ := Within.of_eq hfence
    rw [hid, hsame.table_eq IdempotencyRecord (by decide)] at hcached
    exact .inl ⟨cached, hcached⟩
  · simp only [performCommand, bind_eq_ok] at hperform
    obtain ⟨correlationId, w₃, hcorrelation, dispatched, w₄, hdispatch, -⟩ := hperform
    have hfenced : ReplayWrites w w₂ := Within.of_eq hfence
    have hnamed : SameTables [.physicalWorktrees, .worktreeExecutions] w₂ w₃ :=
      Within.of_eq hcorrelation
    have hidle := dispatchCommand_idle hof hdispatch
    exact .inr (idle_of_replayWrites hfenced (idle_of_sameTables hnamed hidle))

end Idle

/-! ## The Kernel -/

/-- The Worktree has one unsettled execution at most, which its lease stays with and which nobody
else is given, and is Quarantined while that execution is Uncertain. -/
structure WriterExclusive (kernel : KernelContext) (w : World) (worktreeId : String) : Prop where
  single : ∀ e ∈ (w.db.table WorktreeExecution).rows,
    ∀ e' ∈ (w.db.table WorktreeExecution).rows, e.worktreeId = worktreeId →
      e'.worktreeId = worktreeId → isStopped e.state = false → isStopped e'.state = false → e = e'
  quarantined : (∃ r ∈ (w.db.table PhysicalWorktree).rows,
      r.worktreeId = worktreeId ∧ r.state = .Quarantined) ↔
    ∃ e ∈ (w.db.table WorktreeExecution).rows,
      e.worktreeId = worktreeId ∧ e.state = .Uncertain
  generation : ∀ e ∈ (w.db.table WorktreeExecution).rows, e.worktreeId = worktreeId →
    isStopped e.state = false →
      ∃ r ∈ (w.db.table WorktreeWriterLease).rows,
        r.worktreeId = worktreeId ∧ r.generation = e.generation
  rejected : ∀ e ∈ (w.db.table WorktreeExecution).rows, e.worktreeId = worktreeId →
    isStopped e.state = false → ∀ call issued result, call.issued = some issued →
      issued.command.writerWorktreeId? = some worktreeId →
      answer kernel call w = some (.ok result) →
        Recorded issued.context.principalId issued.command w ∧
          ReplayTouches w (step kernel call w)

/-- In every reachable state a Worktree has one writer at most. -/
theorem writer_exclusive {kernel : KernelContext} {w : World} (h : Reachable kernel w)
    (worktreeId : String) : WriterExclusive kernel w worktreeId := by
  have hbook : (worktreeBook w.db).Exclusive :=
    h.worktreeInvariant WorktreeBook.exclusive_empty fun _ _ hstep h => h.step hstep
  refine ⟨?_, ?_, ?_, ?_⟩
  · intro e he e' he' hof hof' hunsettled hunsettled'
    have hsame := hbook.single _ (worktreeBook_mem_executions he) _
      (worktreeBook_mem_executions he') (hof.trans hof'.symm) hunsettled hunsettled'
    have hid : e.id = e'.id :=
      (congrArg _ hsame : e.withoutProcess.id = e'.withoutProcess.id)
    refine Table.eq_of_key (k := ⟨1, [.text e.id]⟩) he he' ?_ ?_
    · simp [Keyed.keys]
    · simp [Keyed.keys, hid]
  · have hworktree : (∃ r ∈ (w.db.table PhysicalWorktree).rows,
        r.worktreeId = worktreeId ∧ r.state = .Quarantined) ↔
        ∃ r, (worktreeBook w.db).worktree worktreeId = some r ∧ r.state = .Quarantined := by
      constructor
      · rintro ⟨r, hr, hof, hstate⟩
        refine ⟨r, Table.find?_of_mem hr (by simpa using hof) ?_, hstate⟩
        intro x hx
        refine ⟨primaryKey [.text worktreeId], ?_, ?_⟩
        · simp [Keyed.keys, of_decide_eq_true hx]
        · simp [Keyed.keys, hof]
      · rintro ⟨r, hr, hstate⟩
        obtain ⟨hmem, hof⟩ := Table.find?_eq_some hr
        exact ⟨r, hmem, of_decide_eq_true hof, hstate⟩
    rw [hworktree, hbook.quarantined worktreeId]
    constructor
    · rintro ⟨x, hx, hof, huncertain⟩
      obtain ⟨e, he, rfl⟩ := List.mem_map.mp hx
      exact ⟨e, he, hof, huncertain⟩
    · rintro ⟨e, he, hof, huncertain⟩
      exact ⟨_, worktreeBook_mem_executions he, hof, huncertain⟩
  · intro e he hof hunsettled
    obtain ⟨r, hr, hgeneration⟩ :=
      hbook.generation _ (worktreeBook_mem_executions he) hunsettled
    obtain ⟨hmem, hlease⟩ := Table.find?_eq_some hr
    exact ⟨r, hmem, (of_decide_eq_true hlease).trans hof, hgeneration⟩
  · intro e he hof hunsettled call issued result hissued hwriter hanswer
    have hrecorded : Recorded issued.context.principalId issued.command w := by
      cases answer_idle hissued hwriter hanswer with
      | inl hrecorded => exact hrecorded
      | inr hidle =>
          have hnot := hidle.not_unsettled (worktreeBook_mem_executions he) hof
          exact absurd hunsettled hnot
    exact ⟨hrecorded, step_touches hissued hrecorded⟩

/-! ## A writer at work -/

def asRuntime (command : KernelCommand) : KernelCall :=
  .execute command { principalId := "runtime" } none

/-- The Runtime settles the event that opened the Attention and claims that of the Run. -/
def deliveredWorld : World :=
  step countingKernel
    (asRuntime (.ClaimOutboxEvents
      { idempotencyKey := "claim-2", limit := some 1, leaseDurationMs := 30000 }))
    (step countingKernel
      (asRuntime (.AcknowledgeOutboxEvents
        { idempotencyKey := "acknowledge"
          outboxEventIds := [issuedId 7]
          leaseToken := issuedId 21 }))
      (step countingKernel
        (asRuntime (.ClaimOutboxEvents
          { idempotencyKey := "claim-1", limit := some 1, leaseDurationMs := 30000 }))
        runWorld))

/-- It starts the Agent on the Run. -/
def activatedWorld : World :=
  step countingKernel
    (asRuntime (.StartActivation
      { idempotencyKey := "activate"
        runId := some (issuedId 15)
        expectedRunRevision := some 1
        outboxEventId := some (issuedId 19)
        outboxLeaseToken := some (issuedId 24) }))
    deliveredWorld

def acquireAgain : KernelCall :=
  asRuntime (.AcquireWorktreeWriterLease
    { idempotencyKey := "acquire", worktreeId := "worktree", leaseDurationMs := 60000 })

/-- It registers a Worktree and starts an execution in it under its lease. -/
def writingWorld : World :=
  step countingKernel
    (asRuntime (.StartWorktreeExecution
      { idempotencyKey := "start"
        worktreeId := "worktree"
        generation := 1
        fencingToken := 1
        leaseToken := "wlt_r"
        activationId := issuedId 26
        executorId := "executor" }))
    (step countingKernel acquireAgain
      (step countingKernel
        (asRuntime (.RegisterPhysicalWorktree
          { idempotencyKey := "register"
            worktreeId := "worktree"
            runId := issuedId 15
            repositoryId := "repository"
            repositoryPath := "/repository"
            baseRevision := "0123456789012345678901234567890123456789"
            directoryPath := "/worktree"
            directoryIdentity := "directory" }))
        activatedWorld))

theorem writingWorld_reachable : Reachable countingKernel writingWorld :=
  ((((((runWorld_reachable.step _).step _).step _).step _).step _).step _).step _

theorem writingWorld_exclusive : WriterExclusive countingKernel writingWorld "worktree" :=
  writer_exclusive writingWorld_reachable "worktree"

/-- The Acquire that is repeated while the execution runs is answered. -/
theorem acquire_answered_while_writing :
    Reachable countingKernel writingWorld ∧
      (writingWorld.db.table WorktreeExecution).rows.map (fun e => (e.worktreeId, e.state)) =
        [("worktree", .Starting)] ∧
      (answer countingKernel acquireAgain writingWorld).map (·.isOk) = some true := by
  refine ⟨writingWorld_reachable, ?_, ?_⟩ <;> decide +kernel

end Torsor.Kernel
