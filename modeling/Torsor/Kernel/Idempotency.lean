import Torsor.Kernel.ReplayResults
import Torsor.Kernel.WorktreeLedger

/-! # Idempotency

A record of a command is never lost, and the result in it is the first one, refreshed. What
a replay answers and what it changes follows; the commands whose cached result is built from
a lease are the ones whose answer is not the recorded result.
-/

namespace Torsor.Kernel

open Torsor.Library Tx

/-! ## Records -/

/-- Every record is kept, and its result is at most refreshed. -/
def KeepsRecords (w w' : World) : Prop :=
  ∀ record ∈ w.db.table IdempotencyRecord, ∃ record' ∈ w'.db.table IdempotencyRecord,
    record'.request = record.request ∧
      Refreshes record.commandName record.result record'.result

theorem IdempotencyRecord.commandName_eq {r r' : IdempotencyRecord} (h : r'.request = r.request) :
    r'.commandName = r.commandName := by
  have hname := congrArg IdempotencyRecord.commandName h
  exact hname

instance : IsPreorder World KeepsRecords where
  refl _ record hrecord := ⟨record, hrecord, rfl, Refreshes.refl _ _⟩
  trans _ _ _ h h' record hrecord := by
    obtain ⟨record', hrecord', hrequest, hrefreshes⟩ := h record hrecord
    obtain ⟨record'', hrecord'', hrequest', hrefreshes'⟩ := h' record' hrecord'
    rw [IdempotencyRecord.commandName_eq hrequest] at hrefreshes'
    exact ⟨record'', hrecord'', hrequest'.trans hrequest, hrefreshes.trans hrefreshes'⟩

theorem KeepsRecords.of_table {w w' : World}
    (h : w'.db.table IdempotencyRecord = w.db.table IdempotencyRecord) : KeepsRecords w w' := by
  intro record hrecord
  rw [← h] at hrecord
  exact ⟨record, hrecord, rfl, Refreshes.refl _ _⟩

instance : ConcernsTables KeepsRecords [.idempotencyRecords] where
  of_tables w w' htables _ _ _ := by
    apply KeepsRecords.of_table
    rw [Database.table, htables _ (List.mem_singleton.mpr rfl), Database.table]

section Records

set_option synthInstance.maxSize 400000

variable {kernel : KernelContext} {w w' : World} {command : KernelCommand}
  {principal : Principal} {context : PrincipalContext} {result : CommandResult}

instance (record : IdempotencyRecord) : Within KeepsRecords (insertRow record) where
  step w := by
    obtain ⟨u, hu, hrun⟩ | hrun := insertRow_cases record w
    · rw [hrun]
      intro r hr
      have hkept : r ∈ u := by
        rw [← Table.mem_rows, Table.insert?_eq_some hu]
        exact List.mem_append_left _ hr
      refine ⟨r, ?_, rfl, Refreshes.refl _ _⟩
      rwa [World.store_db, Database.table_set_same]
    · rw [hrun]
      exact refl_of KeepsRecords w

/-- Two records of a principal under one type and key are one. -/
theorem record_unique {r r' : IdempotencyRecord} {principalId : String}
    (hr : r ∈ w.db.table IdempotencyRecord) (hr' : r' ∈ w.db.table IdempotencyRecord)
    (hof : r.isOf principalId command = true) (hof' : r'.isOf principalId command = true) :
    r = r' := by
  simp only [IdempotencyRecord.isOf, Bool.and_eq_true, decide_eq_true_eq] at hof hof'
  refine Table.eq_of_key hr hr'
    (k := ⟨r.commandName.ctorIdx, [.text r.principalId, .text r.idempotencyKey]⟩) ?_ ?_
  · simp [Keyed.keys]
  · simp [Keyed.keys, hof, hof']

theorem Recorded.of_mem {r : IdempotencyRecord} {principalId : String}
    (hr : r ∈ w.db.table IdempotencyRecord) (hof : r.isOf principalId command = true) :
    (w.db.table IdempotencyRecord).find? (IdempotencyRecord.isOf principalId command) =
      some r := by
  cases hfind : (w.db.table IdempotencyRecord).find? (IdempotencyRecord.isOf principalId command)
    with
  | none =>
      rw [Table.find?_eq_none.mp hfind r hr] at hof
      cases hof
  | some found =>
      obtain ⟨hmem, hfound⟩ := Table.find?_eq_some hfind
      rw [record_unique hmem hr hfound hof]

/-- Storing a refreshed result keeps the record. -/
theorem keepsRecords_storeResult {cached : IdempotencyRecord} {u : Unit}
    (hcached : (w.db.table IdempotencyRecord).find? (IdempotencyRecord.isOf principal.id command) =
      some cached) (hrefreshes : Refreshes command.type cached.result result)
    (h : updateRows (IdempotencyRecord.isOf principal.id command)
      (fun r => { r with result }) ⟨fun _ => rfl⟩ w = (.ok u, w')) : KeepsRecords w w' := by
  obtain rfl := updateRows_eq_ok.mp h
  obtain ⟨hmem, hof⟩ := Table.find?_eq_some hcached
  intro record hrecord
  have hstored : (if record.isOf principal.id command then { record with result } else record) ∈
      (w.db.table IdempotencyRecord).update (IdempotencyRecord.isOf principal.id command)
        (fun r => { r with result }) ⟨fun _ => rfl⟩ := by
    rw [← Table.mem_rows]
    exact List.mem_map_of_mem hrecord
  refine ⟨_, by rwa [World.store_db, Database.table_set_same], ?_⟩
  split
  · rename_i hrecordOf
    obtain rfl := record_unique hrecord hmem hrecordOf hof
    have hname : record.commandName = command.type := by
      simp only [IdempotencyRecord.isOf, Bool.and_eq_true, decide_eq_true_eq] at hof
      exact hof.1.2
    refine ⟨rfl, ?_⟩
    rw [hname]
    exact hrefreshes
  · exact ⟨rfl, Refreshes.refl _ _⟩

/-- What comes before the record in a replay leaves the records alone. -/
theorem replayCommand_eq_ok {cached : IdempotencyRecord}
    (h : replayCommand kernel command principal context cached w = (.ok result, w')) :
    ∃ w₁ w₂, SameTables TableName.butLeases w w₁ ∧
      cached.payloadHash = kernel.hashPayload command ∧
      resolveCachedResult kernel command cached.result principal context w₁ =
        (.ok result, w₂) ∧
      updateRows (IdempotencyRecord.isOf principal.id command)
        (fun r => { r with result }) ⟨fun _ => rfl⟩ w₂ = (.ok (), w') := by
  simp only [replayCommand, bind_eq_ok, throwIf_eq_ok, pure_eq_ok] at h
  obtain ⟨_, w₁, hcheck, _, _, ⟨hhash, rfl⟩, refreshed, w₂, hresolve, _, w₃, hstore, rfl, rfl⟩ := h
  refine ⟨w₁, w₂, ?_, Classical.not_not.mp hhash, hresolve, hstore⟩
  cases command <;> exact Within.of_eq hcheck

instance (command : KernelCommand) (result : CommandResult) (principal : Principal)
    (context : PrincipalContext) : Within (SameTables [.idempotencyRecords])
      (resolveCachedResult kernel command result principal context) := by
  unfold resolveCachedResult
  cases command <;> infer_instance

/-- A replay that fails has not come to the record. -/
theorem replayCommand_eq_error {cached : IdempotencyRecord} {e : Failure}
    (h : replayCommand kernel command principal context cached w = (.error e, w')) :
    w'.db.table IdempotencyRecord = w.db.table IdempotencyRecord := by
  have hsame : ∀ {w₁ w₂}, SameTables [.idempotencyRecords] w₁ w₂ →
      w₂.db.table IdempotencyRecord = w₁.db.table IdempotencyRecord :=
    fun hsame => hsame.table_eq IdempotencyRecord (by decide)
  unfold replayCommand at h
  obtain hcheck | ⟨_, w₁, hcheck, h⟩ := bind_eq_error.mp h
  · cases command <;> exact hsame (Within.of_eq hcheck)
  have hbefore : w₁.db.table IdempotencyRecord = w.db.table IdempotencyRecord := by
    cases command <;> exact hsame (Within.of_eq hcheck)
  obtain hhash | ⟨_, w₂, hhash, h⟩ := bind_eq_error.mp h
  · exact (hsame (Within.of_eq hhash)).trans hbefore
  obtain ⟨-, rfl⟩ := throwIf_eq_ok.mp hhash
  obtain hresolve | ⟨refreshed, w₃, -, h⟩ := bind_eq_error.mp h
  · exact (hsame (Within.of_eq hresolve)).trans hbefore
  · obtain hstore | ⟨_, _, -, h⟩ := bind_eq_error.mp h
    · cases hstore
    · cases h

theorem replayCommand_commitsAt {cached : IdempotencyRecord}
    (hcached : (w.db.table IdempotencyRecord).find? (IdempotencyRecord.isOf principal.id command) =
      some cached) :
    CommitsAt Durable KeepsRecords (replayCommand kernel command principal context cached) w := by
  refine .of_cases (fun result w' h => ?_) fun e w' h _ => ?_
  · obtain ⟨w₁, w₂, hbefore, -, hresolve, hstore⟩ := replayCommand_eq_ok h
    have hsame : SameTables [.idempotencyRecords] w₁ w₂ := Within.of_eq hresolve
    have htable := (hsame.table_eq IdempotencyRecord (by decide)).trans
      (hbefore.table_eq IdempotencyRecord (by decide))
    have hfirst : KeepsRecords w w₂ := KeepsRecords.of_table htable
    rw [← htable] at hcached
    exact trans_of KeepsRecords hfirst
      (keepsRecords_storeResult hcached (resolveCachedResult_refreshes hresolve) hstore)
  · exact KeepsRecords.of_table (replayCommand_eq_error h)

instance (command : KernelCommand) (principal : Principal) (context : PrincipalContext)
    (operationContext : Option KernelOperationContext) :
    Within KeepsRecords (performCommand kernel command principal context operationContext) := by
  have hdispatch : ∀ correlationId,
      Within KeepsRecords (dispatchCommand kernel command context principal correlationId) := by
    intro correlationId
    unfold dispatchCommand
    cases command <;> infer_instance
  unfold performCommand
  infer_instance

instance (command : KernelCommand) (principal : Principal) (context : PrincipalContext)
    (operationContext : Option KernelOperationContext) :
    Commits KeepsRecords (commandBody kernel command principal context operationContext) := by
  refine Commits.of_at fun w => ?_
  unfold commandBody
  refine .bind Within.commitsAt fun _ w₁ _ => .bind_read fun cached hcached => ?_
  obtain ⟨hcached, -⟩ := selectRow_eq_ok.mp hcached
  cases cached with
  | none =>
      show CommitsAt Durable KeepsRecords
        (performCommand kernel command principal context operationContext) w₁
      exact Within.commitsAt
  | some record => exact replayCommand_commitsAt hcached

theorem step_keepsRecords (call : KernelCall) (w : World) :
    KeepsRecords w (step kernel call w) :=
  step_within kernel call w fun _ _ _ _ => inferInstance

theorem Steps.keepsRecords (hs : Steps kernel w w') : KeepsRecords w w' :=
  hs.within fun w call => step_keepsRecords call w

end Records

/-! ## First executions -/

/-- What a call that executes a command answers. -/
def answer (kernel : KernelContext) (call : KernelCall) (w : World) :
    Option (Except Failure CommandResult) :=
  match call with
  | .execute command context operationContext =>
      some (execute kernel command context operationContext w).1
  | .publishReport input content context operationContext =>
      some (publishReport kernel input content context operationContext w).1
  | _ => none

/-- The call executes a command that is not recorded, and succeeds. -/
structure Executes (kernel : KernelContext) (call : KernelCall) (issued : IssuedCommand)
    (w : World) (result : CommandResult) : Prop where
  issues : call.issued = some issued
  fresh : ¬ Recorded issued.context.principalId issued.command w
  succeeds : answer kernel call w = some (.ok result)

section Executes

set_option synthInstance.maxSize 400000

variable {kernel : KernelContext} {w w' : World} {call : KernelCall} {issued : IssuedCommand}
  {command : KernelCommand} {principal : Principal} {context : PrincipalContext}
  {operationContext : Option KernelOperationContext} {result : CommandResult}

theorem answer_eq_ok (hissued : call.issued = some issued)
    (h : answer kernel call w = some (.ok result)) :
    ∃ w₁, executeTransaction kernel issued.command issued.context issued.operationContext w =
        (.ok result, w₁) ∧ SameTables TableName.all w₁ (step kernel call w) := by
  cases call with
  | execute command context operationContext =>
      cases hissued
      have hrun : execute kernel command context operationContext w =
          (.ok result, (execute kernel command context operationContext w).2) :=
        Prod.ext (Option.some.inj h) rfl
      obtain ⟨w₁, htransaction, hremember⟩ := execute_eq_ok hrun
      exact ⟨w₁, htransaction, Within.of_eq hremember⟩
  | publishReport input content context operationContext =>
      cases hissued
      have hrun : executeTransaction kernel (input.command content) context operationContext w =
          (.ok result, (publishReport kernel input content context operationContext w).2) :=
        Prod.ext (Option.some.inj h) rfl
      exact ⟨_, hrun, refl_of _ _⟩
  | _ => cases hissued

theorem performCommand_eq_ok
    (h : performCommand kernel command principal context operationContext w =
      (.ok result, w')) :
    ∃ correlationId dispatched w₁ w₂ record,
      dispatchCommand kernel command context principal correlationId w₁ =
        (.ok dispatched, w₂) ∧ result = { dispatched with correlationId := some correlationId } ∧
      record ∈ w'.db.table IdempotencyRecord ∧ record.isOf principal.id command = true ∧
      record.payloadHash = kernel.hashPayload command ∧ record.result = result := by
  simp only [performCommand, bind_eq_ok, insertRow_eq_ok, pure_eq_ok] at h
  obtain ⟨correlationId, w₁, -, dispatched, w₂, hdispatch, _, w₃, -, createdAt, w₄, -, _, _,
    ⟨u, hu, rfl⟩, rfl, rfl⟩ := h
  have hstored := (Table.mem_insert? hu).mpr (.inr rfl)
  rw [← Database.table_set_same w₄.db u] at hstored
  exact ⟨correlationId, dispatched, w₁, w₂, _, hdispatch, rfl, hstored,
    by simp [IdempotencyRecord.isOf], rfl, rfl⟩

/-- A first execution dispatches the command and leaves a record with the result. -/
theorem Executes.spec (h : Executes kernel call issued w result) :
    ∃ principal correlationId dispatched w₁ w₂ record,
      (w.db.table Principal).find? (fun r => r.id = issued.context.principalId) =
        some principal ∧
      dispatchCommand kernel issued.command (effectiveContext principal issued.context) principal
        correlationId w₁ = (.ok dispatched, w₂) ∧
      result = { dispatched with correlationId := some correlationId } ∧
      record ∈ (step kernel call w).db.table IdempotencyRecord ∧
      record.isOf issued.context.principalId issued.command = true ∧
      record.payloadHash = kernel.hashPayload issued.command ∧ record.result = result := by
  obtain ⟨w₁, hrun, hafter⟩ := answer_eq_ok h.issues h.succeeds
  obtain ⟨principal, w₂, hprincipal, hfence, ⟨cached, hcached, -⟩ | ⟨-, hperform⟩⟩ :=
    executeTransaction_eq_ok hrun
  all_goals
    have hid : principal.id = issued.context.principalId := by
      simpa using (Table.find?_eq_some hprincipal).2
  · have hsame : SameTables TableName.butLeases w w₂ := Within.of_eq hfence
    rw [hid, hsame.table_eq IdempotencyRecord (by decide)] at hcached
    exact absurd ⟨cached, hcached⟩ h.fresh
  · obtain ⟨correlationId, dispatched, w₃, w₄, record, hdispatch, hresult, hrecord, hof, hhash,
      hstored⟩ := performCommand_eq_ok hperform
    rw [← hafter.table_eq IdempotencyRecord (TableName.mem_all _)] at hrecord
    exact ⟨principal, correlationId, dispatched, w₃, w₄, record, hprincipal, hdispatch, hresult,
      hrecord, hid ▸ hof, hhash, hstored⟩

end Executes

/-! ## Commands about a lease -/

/-- The Worktree whose lease the cached result of the command is built from. -/
def KernelCommand.leaseWorktreeId? : KernelCommand → Option String
  | .AcquireWorktreeWriterLease command => some command.worktreeId
  | .RenewWorktreeWriterLease command => some command.worktreeId
  | .QuarantineWorktreeWriterLease command => some command.worktreeId
  | _ => none

theorem KernelCommand.ofLease_iff (command : KernelCommand) :
    command.type.ofLease = true ↔ ∃ worktreeId, command.leaseWorktreeId? = some worktreeId := by
  cases command <;> simp [KernelCommand.type, CommandType.ofLease, KernelCommand.leaseWorktreeId?]

/-- The secret in the result that is built from a lease. -/
def WorktreeWriterLease.secret (type : CommandType) (lease : WorktreeWriterLease) :
    Option String :=
  if type = .QuarantineWorktreeWriterLease then lease.quarantineToken else lease.leaseToken

/-- A command that succeeded has built its result from the lease of the Worktree. -/
structure BuiltFromLease (type : CommandType) (worktreeId : String) (principal : Principal)
    (result : CommandResult) : Prop where
  runtime : principal.kind = .runtime
  built : ∃ lease observedAt, result = leaseResult type lease observedAt ∧
    lease.worktreeId = worktreeId ∧ truthy (lease.secret type) = true

section Leases

variable {kernel : KernelContext} {w w' : World} {principal : Principal}
  {context : PrincipalContext} {correlationId : String} {result : CommandResult}

@[simp] theorem requireRuntime_eq_ok {u : Unit} :
    requireRuntime principal w = (.ok u, w') ↔ principal.kind = .runtime ∧ w = w' := by
  simp [requireRuntime]

/-- A drawn secret is not empty. -/
theorem secretToken_eq_ok {kind token : String}
    (h : secretToken kernel kind w = (.ok token, w')) : token ≠ "" := by
  simp only [secretToken, bind_eq_ok, drawToken_eq_ok, pure_eq_ok] at h
  obtain ⟨_, _, -, rfl, -⟩ := h
  intro hempty
  have hlist := congrArg String.toList hempty
  simp at hlist

/-- The lease of a Worktree after an upsert. -/
theorem upsertLease_found {worktreeId : String} {fresh lease : WorktreeWriterLease}
    {replace : WorktreeWriterLease → WorktreeWriterLease} {hkeys : KeepsKeys replace} {u : Unit}
    (h : upsertLease fresh replace hkeys w = (.ok u, w'))
    (hid : fresh.worktreeId = worktreeId) (hreplace : ∀ r, (replace r).worktreeId = r.worktreeId)
    (hlease : (worktreeBook w'.db).lease worktreeId = some lease) :
    lease = fresh ∨ ∃ r, lease = replace r := by
  have hbook := upsertLease_eq_ok h hreplace
  rw [hid] at hbook
  cases hfound : (worktreeBook w.db).lease worktreeId with
  | none =>
      rw [hfound, Option.elim_none] at hbook
      have hself := WorktreeBook.setLease_lease_self (worktreeBook w.db) fresh
      rw [hid, ← hbook, hlease] at hself
      exact .inl (Option.some.inj hself)
  | some r =>
      rw [hfound, Option.elim_some] at hbook
      have hself := WorktreeBook.setLease_lease_self (worktreeBook w.db) (replace r)
      rw [hreplace, worktreeBook_lease_worktreeId hfound, ← hbook, hlease] at hself
      exact .inr ⟨r, Option.some.inj hself⟩

theorem acquireWorktreeWriterLease_built {command : AcquireWorktreeWriterLeaseCommand}
    (h : acquireWorktreeWriterLease kernel command principal correlationId w =
      (.ok result, w')) :
    BuiltFromLease .AcquireWorktreeWriterLease command.worktreeId principal result := by
  simp only [acquireWorktreeWriterLease, bind_eq_ok, requireRuntime_eq_ok, throwIf_eq_ok,
    requireLease_eq_ok, pure_eq_ok] at h
  obtain ⟨_, _, ⟨hruntime, rfl⟩, _, _, -, durationMs, _, -, observedAt, _, -, previous, _, -,
    existing, _, -, _, _, -, _, _, -, _, w₁, -, leaseToken, w₂, htoken, _, w₃, hupsert, lease, _,
    ⟨hlease, rfl⟩, _, _, -, rfl, rfl⟩ := h
  have htoken := secretToken_eq_ok htoken
  refine ⟨hruntime, lease, observedAt, rfl, worktreeBook_lease_worktreeId hlease, ?_⟩
  have hsecret : lease.leaseToken = some leaseToken := by
    obtain rfl | ⟨r, rfl⟩ := upsertLease_found hupsert rfl (fun _ => rfl) hlease
    · rfl
    · rfl
  simp [WorktreeWriterLease.secret, truthy, hsecret, htoken]

theorem renewWorktreeWriterLease_built {command : RenewWorktreeWriterLeaseCommand}
    (h : renewWorktreeWriterLease kernel command principal correlationId w =
      (.ok result, w')) :
    BuiltFromLease .RenewWorktreeWriterLease command.worktreeId principal result := by
  simp only [renewWorktreeWriterLease, bind_eq_ok, requireRuntime_eq_ok, requireLease_eq_ok,
    pure_eq_ok] at h
  obtain ⟨_, _, ⟨hruntime, rfl⟩, durationMs, _, -, observedAt, w₁, -, lease, w₂, hauthority, _, w₃,
    hupdate, renewed, _, ⟨hrenewed, rfl⟩, _, _, -, rfl, rfl⟩ := h
  obtain ⟨hlease, hlive, rfl⟩ := requireLiveAuthority_eq_ok hauthority
  refine ⟨hruntime, renewed, observedAt, rfl, worktreeBook_lease_worktreeId hrenewed, ?_⟩
  obtain rfl := updateRows_eq_ok.mp hupdate
  have hbook := worktreeBook_update_lease hlease (f := fun r =>
    { r with
      revision := lease.revision + 1
      renewedAt := some observedAt
      expiresAt := some (observedAt + durationMs)
      updatedAt := observedAt }) (h := ⟨fun _ => rfl⟩) fun _ => rfl
  rw [hbook, ← worktreeBook_lease_worktreeId hlease] at hrenewed
  have hsecret : renewed.leaseToken = some command.leaseToken := by
    rw [← Option.some.inj ((WorktreeBook.setLease_lease_self _ _).symm.trans hrenewed)]
    exact hlive.leaseToken
  simp only [requireLiveAuthority, bind_eq_ok, requireNonEmpty_eq_ok] at hauthority
  obtain ⟨_, _, ⟨-, rfl⟩, _, _, ⟨htoken, rfl⟩, -⟩ := hauthority
  have hne : command.leaseToken ≠ "" := by
    intro hempty
    rw [hempty] at htoken
    exact htoken (by decide)
  simp [WorktreeWriterLease.secret, truthy, hsecret, hne]

theorem quarantineWorktreeWriterLease_built {command : QuarantineWorktreeWriterLeaseCommand}
    (h : quarantineWorktreeWriterLease kernel command principal correlationId w =
      (.ok result, w')) :
    BuiltFromLease .QuarantineWorktreeWriterLease command.worktreeId principal result := by
  simp only [quarantineWorktreeWriterLease, bind_eq_ok, requireRuntime_eq_ok, requireLease_eq_ok,
    pure_eq_ok] at h
  obtain ⟨_, _, ⟨hruntime, rfl⟩, _, _, -, _, _, -, observedAt, _, -, current, _, -, existing, _, -,
    _, _, -, _, _, -, _, _, -, _, w₁, -, quarantineToken, w₂, htoken, _, w₃, hupsert, quarantined, _,
    ⟨hlease, rfl⟩, _, _, -, rfl, rfl⟩ := h
  have htoken := secretToken_eq_ok htoken
  have hsecret : quarantined.quarantineToken = some quarantineToken := by
    obtain rfl | ⟨r, rfl⟩ := upsertLease_found hupsert rfl (fun _ => rfl) hlease
    · rfl
    · rfl
  refine ⟨hruntime, quarantined, observedAt, ?_, worktreeBook_lease_worktreeId hlease, ?_⟩
  · rw [leaseResult, if_pos rfl, hsecret]
  · simp [WorktreeWriterLease.secret, truthy, hsecret, htoken]

/-- A Runtime may issue a command about a lease whatever its Worktrees do. -/
theorem assertWriterCommandAuthority_lease {command : KernelCommand} {worktreeId : String}
    (hruntime : principal.kind = .runtime)
    (hlease : command.leaseWorktreeId? = some worktreeId) :
    assertWriterCommandAuthority kernel command principal context w = (.ok (), w) := by
  have hcontext : assertWriterContextAuthority kernel principal context
      (command.type = .CompleteRun) w = (.ok (), w) := by
    rw [assertWriterContextAuthority, bind_of_ok (selectRow_eq_ok.mpr ⟨rfl, rfl⟩), if_neg]
    · rfl
    · simp [hruntime]
  rw [assertWriterCommandAuthority, bind_of_ok hcontext, if_pos hruntime]
  cases command with
  | AcquireWorktreeWriterLease => rfl
  | RenewWorktreeWriterLease => rfl
  | QuarantineWorktreeWriterLease => rfl
  | _ => cases hlease

theorem dispatch_built {command : KernelCommand} {worktreeId : String}
    (hlease : command.leaseWorktreeId? = some worktreeId)
    (h : dispatchCommand kernel command context principal correlationId w = (.ok result, w')) :
    BuiltFromLease command.type worktreeId principal result := by
  cases command with
  | AcquireWorktreeWriterLease command =>
      cases hlease
      exact acquireWorktreeWriterLease_built h
  | RenewWorktreeWriterLease command =>
      cases hlease
      exact renewWorktreeWriterLease_built h
  | QuarantineWorktreeWriterLease command =>
      cases hlease
      exact quarantineWorktreeWriterLease_built h
  | _ => cases hlease

/-- The lease is what a cached result of the command needs it to be. -/
def WorktreeWriterLease.Stands (type : CommandType) (principalId : String)
    (observedAt : Timestamp) (lease : WorktreeWriterLease) : Prop :=
  if type = .QuarantineWorktreeWriterLease then lease.status = .Quarantined
  else lease.LiveFor principalId observedAt

/-- A recorded result that is, or once was, built from a lease. -/
def CachedFromLease (type : CommandType) (result : CommandResult) : Prop :=
  ∃ lease observedAt correlationId,
    result = { leaseResult type lease observedAt with correlationId } ∧
    truthy (lease.secret type) = true

/-- A replay of a command about a lease succeeds exactly when the lease still stands. -/
theorem resolveCachedResult_lease {command : KernelCommand} {worktreeId : String}
    {refreshed : CommandResult} (hlease : command.leaseWorktreeId? = some worktreeId)
    (hcached : CachedFromLease command.type result) :
    (∃ w', resolveCachedResult kernel command result principal context w =
      (.ok refreshed, w')) ↔
    ∃ lease, (worktreeBook w.db).lease worktreeId = some lease ∧
      lease.Stands command.type principal.id (kernel.clock w.clockReadings) ∧
      lease.GrantedBy command.type result ∧
      refreshed = leaseResult command.type lease (kernel.clock w.clockReadings) := by
  obtain ⟨cached, cachedAt, correlationId, rfl, hsecret⟩ := hcached
  cases command with
  | AcquireWorktreeWriterLease command =>
      cases hlease
      constructor
      · rintro ⟨w', h⟩
        obtain ⟨lease, hlease, hlive, hgranted, hrefreshed, -⟩ :=
          resolveCachedWorktreeWriterLeaseAuthority_eq_ok h nofun
        exact ⟨lease, hlease, hlive, hgranted, hrefreshed⟩
      · rintro ⟨lease, hlease, hstands, hgranted, rfl⟩
        exact ⟨_, resolveCachedWorktreeWriterLeaseAuthority_of_live nofun rfl hsecret hlease
          hstands hgranted⟩
  | RenewWorktreeWriterLease command =>
      cases hlease
      constructor
      · rintro ⟨w', h⟩
        obtain ⟨lease, hlease, hlive, hgranted, hrefreshed, -⟩ :=
          resolveCachedWorktreeWriterLeaseAuthority_eq_ok h nofun
        exact ⟨lease, hlease, hlive, hgranted, hrefreshed⟩
      · rintro ⟨lease, hlease, hstands, hgranted, rfl⟩
        exact ⟨_, resolveCachedWorktreeWriterLeaseAuthority_of_live nofun rfl hsecret hlease
          hstands hgranted⟩
  | QuarantineWorktreeWriterLease command =>
      cases hlease
      constructor
      · rintro ⟨w', h⟩
        obtain ⟨lease, hlease, hstatus, hgranted, hrefreshed, -⟩ :=
          resolveCachedWorktreeWriterLeaseQuarantine_eq_ok h
        exact ⟨lease, hlease, hstatus, hgranted, hrefreshed⟩
      · rintro ⟨lease, hlease, hstands, hgranted, rfl⟩
        exact ⟨_, resolveCachedWorktreeWriterLeaseQuarantine_of_quarantined hsecret hlease
          hstands hgranted⟩
  | _ => cases hlease

end Leases

/-! ## Replays -/

/-- A call repeats, in `w`, the key of a command that was executed before. -/
structure Replay (kernel : KernelContext) (w₀ : World) (call₀ : KernelCall)
    (original : IssuedCommand) (first : CommandResult) (w : World) (call : KernelCall)
    (issued : IssuedCommand) : Prop where
  reachable : Reachable kernel w₀
  executed : Executes kernel call₀ original w₀ first
  later : Steps kernel (step kernel call₀ w₀) w
  issues : call.issued = some issued
  principal : issued.context.principalId = original.context.principalId
  type : issued.command.type = original.command.type
  key : issued.command.idempotencyKey = original.command.idempotencyKey
  /-- The digests of two different payloads differ. -/
  digest : kernel.hashPayload issued.command = kernel.hashPayload original.command →
    issued.command = original.command

/-- A replay answers with the recorded result, its authority refreshed to what is persisted and
live, or fails; it fails when the payload is another one. It touches nothing but what a replay
has a part in. -/
structure ReplayLaw (kernel : KernelContext) (original : IssuedCommand) (first : CommandResult)
    (w : World) (call : KernelCall) (issued : IssuedCommand) : Prop where
  touches : ReplayTouches w (step kernel call w)
  same : issued.command = original.command → ∀ result,
    answer kernel call w = some (.ok result) →
      result.lasting issued.command.type = first.lasting issued.command.type ∧
      result.batch = first.batch ∧
      ShowsAuthority kernel issued.context.principalId result w (step kernel call w)
        issued.command
  different : issued.command ≠ original.command → ∀ result,
    answer kernel call w ≠ some (.ok result)

/-- The replay is answered from the lease of the Worktree, which is what the first result has
granted or quarantined still: the answer is built anew and carries no correlation id. -/
structure AnsweredFromLease (kernel : KernelContext) (original : IssuedCommand)
    (first : CommandResult) (w : World) (issued : IssuedCommand) : Prop where
  payload : issued.command = original.command
  admissible : issued.operationContext.any
    (fun operation => !isOperationalCorrelationId operation.correlationId) = false
  lease : ∃ worktreeId lease, issued.command.leaseWorktreeId? = some worktreeId ∧
    (worktreeBook w.db).lease worktreeId = some lease ∧
    lease.Stands issued.command.type issued.context.principalId
      (kernel.clock w.clockReadings) ∧
    lease.GrantedBy issued.command.type first

section Replays

set_option synthInstance.maxSize 400000

variable {kernel : KernelContext} {w₀ w w' : World} {call₀ call : KernelCall}
  {original issued : IssuedCommand} {first result : CommandResult}

theorem lasting_correlationId (type : CommandType) (r : CommandResult) :
    (r.lasting type).correlationId = r.correlationId := by
  cases type <;> rfl

theorem IdempotencyRecord.isOf_congr {command command' : KernelCommand} {principalId : String}
    (htype : command.type = command'.type)
    (hkey : command.idempotencyKey = command'.idempotencyKey) :
    IdempotencyRecord.isOf principalId command = IdempotencyRecord.isOf principalId command' := by
  funext record
  simp only [IdempotencyRecord.isOf, htype, hkey]

/-- The record of the first execution, as the replay finds it. -/
theorem Replay.record (h : Replay kernel w₀ call₀ original first w call issued) :
    ∃ record, (w.db.table IdempotencyRecord).find?
        (IdempotencyRecord.isOf issued.context.principalId issued.command) = some record ∧
      record.payloadHash = kernel.hashPayload original.command ∧
      Refreshes issued.command.type first record.result := by
  obtain ⟨principal, correlationId, dispatched, w₁, w₂, record, -, -, -, hrecord, hof, hhash,
    hresult⟩ := h.executed.spec
  obtain ⟨record', hrecord', hrequest, hrefreshes⟩ := h.later.keepsRecords record hrecord
  have hof' : record'.isOf issued.context.principalId issued.command = true := by
    rw [IdempotencyRecord.isOf_congr h.type h.key, h.principal, ← hof]
    have hprincipal := congrArg IdempotencyRecord.principalId hrequest
    have hname := IdempotencyRecord.commandName_eq hrequest
    have hkey := congrArg IdempotencyRecord.idempotencyKey hrequest
    simp only [IdempotencyRecord.request] at hprincipal hkey
    simp only [IdempotencyRecord.isOf, hprincipal, hname, hkey]
  refine ⟨record', Recorded.of_mem hrecord' hof', ?_, ?_⟩
  · have hpayload := congrArg IdempotencyRecord.payloadHash hrequest
    exact Eq.trans hpayload hhash
  · have hname : record.commandName = issued.command.type := by
      simp only [IdempotencyRecord.isOf, Bool.and_eq_true, decide_eq_true_eq] at hof
      exact hof.1.2.trans h.type.symm
    rwa [hname, hresult] at hrefreshes

/-- A replay that succeeds has resolved the recorded result. -/
theorem Replay.resolved (h : Replay kernel w₀ call₀ original first w call issued)
    {record : IdempotencyRecord} (hrecord : (w.db.table IdempotencyRecord).find?
      (IdempotencyRecord.isOf issued.context.principalId issued.command) = some record)
    (hok : answer kernel call w = some (.ok result)) :
    ∃ principal w₁ w₂, principal.id = issued.context.principalId ∧
      SameTables TableName.butLeases w w₁ ∧
      record.payloadHash = kernel.hashPayload issued.command ∧
      resolveCachedResult kernel issued.command record.result principal
        (effectiveContext principal issued.context) w₁ = (.ok result, w₂) ∧
      SameTables [.attentions, .outboxEvents, .activationAttempts, .worktreeWriterLeases] w₂
        (step kernel call w) := by
  obtain ⟨w₁, hrun, hafter⟩ := answer_eq_ok h.issues hok
  obtain ⟨principal, w₂, hprincipal, hfence, hbody⟩ := executeTransaction_eq_ok hrun
  have hid : principal.id = issued.context.principalId := by
    simpa using (Table.find?_eq_some hprincipal).2
  have hbefore : SameTables TableName.butLeases w w₂ := Within.of_eq hfence
  have hfound := hrecord
  rw [← hbefore.table_eq IdempotencyRecord (by decide), ← hid] at hfound
  obtain ⟨cached, hcached, hreplay⟩ | ⟨hnone, -⟩ := hbody
  · obtain rfl := Option.some.inj (hfound.symm.trans hcached)
    obtain ⟨w₃, w₄, hcheck, hhash, hresolve, hstore⟩ := replayCommand_eq_ok hreplay
    have hstored : SameTables [.attentions, .outboxEvents, .activationAttempts,
      .worktreeWriterLeases] w₄ w₁ := Within.of_eq hstore
    refine ⟨principal, w₃, w₄, hid, trans_of _ hbefore hcheck, hhash, hresolve,
      trans_of _ hstored ?_⟩
    exact { hafter with tables := fun t _ => hafter.tables t t.mem_all }
  · rw [hfound] at hnone
    cases hnone

/-- A command about a lease that is recorded is answered when its result resolves. -/
theorem answer_of_lease {principal : Principal} {record : IdempotencyRecord} {worktreeId : String}
    (hissued : call.issued = some issued)
    (hprincipal : (w.db.table Principal).find? (fun r => r.id = issued.context.principalId) =
      some principal) (hruntime : principal.kind = .runtime)
    (hadmissible : issued.operationContext.any
      (fun operation => !isOperationalCorrelationId operation.correlationId) = false)
    (hlease : issued.command.leaseWorktreeId? = some worktreeId)
    (hrecord : (w.db.table IdempotencyRecord).find?
      (IdempotencyRecord.isOf principal.id issued.command) = some record)
    (hhash : record.payloadHash = kernel.hashPayload issued.command)
    (hresolve : resolveCachedResult kernel issued.command record.result principal
      (effectiveContext principal issued.context) w = (.ok result, w')) :
    answer kernel call w = some (.ok result) := by
  have hreplay : ∃ w₁, replayCommand kernel issued.command principal
      (effectiveContext principal issued.context) record w = (.ok result, w₁) := by
    have hcheck : (throwIf (record.payloadHash ≠ kernel.hashPayload issued.command)
        (kernelError .Conflict
          "The idempotency key was already used with a different payload.") : K Unit) w =
        (.ok (), w) := throwIf_eq_ok.mpr ⟨not_not_intro hhash, rfl⟩
    refine ⟨w'.store ((w'.db.table IdempotencyRecord).update
      (IdempotencyRecord.isOf principal.id issued.command) (fun r => { r with result })
      ⟨fun _ => rfl⟩), ?_⟩
    unfold replayCommand
    cases hcommand : issued.command with
    | AcquireWorktreeWriterLease command =>
        rw [hcommand] at hcheck hresolve
        rw [bind_of_ok (pure_apply () w), bind_of_ok hcheck, bind_of_ok hresolve]
        rfl
    | RenewWorktreeWriterLease command =>
        rw [hcommand] at hcheck hresolve
        rw [bind_of_ok (pure_apply () w), bind_of_ok hcheck, bind_of_ok hresolve]
        rfl
    | QuarantineWorktreeWriterLease command =>
        rw [hcommand] at hcheck hresolve
        rw [bind_of_ok (pure_apply () w), bind_of_ok hcheck, bind_of_ok hresolve]
        rfl
    | _ =>
        rw [hcommand] at hlease
        cases hlease
  obtain ⟨w₁, hreplay⟩ := hreplay
  have hbody : commandBody kernel issued.command principal
      (effectiveContext principal issued.context) issued.operationContext w =
      (.ok result, w₁) := by
    rw [commandBody, bind_of_ok (assertWriterCommandAuthority_lease hruntime hlease),
      bind_of_ok (selectRow_eq_ok.mpr ⟨hrecord, rfl⟩)]
    exact hreplay
  have hcheck : checkCommand principal issued.command w = (.ok (), w) := by
    cases hcommand : issued.command with
    | AcquireWorktreeWriterLease => rfl
    | RenewWorktreeWriterLease => rfl
    | QuarantineWorktreeWriterLease => rfl
    | _ =>
        rw [hcommand] at hlease
        cases hlease
  have hrun : executeTransaction kernel issued.command issued.context issued.operationContext w =
      (.ok result, w₁) := by
    rw [executeTransaction,
      bind_of_ok ((throwIf_eq_ok (u := ())).mpr ⟨by simp [hadmissible], rfl⟩),
      bind_of_ok (requirePrincipal_eq_ok.mpr ⟨hprincipal, rfl⟩), bind_of_ok hcheck]
    exact transaction_eq_ok.mpr hbody
  cases call with
  | execute command context operationContext =>
      cases hissued
      have hremember : rememberExecution command context result w₁ = (.ok (), w₁) := by
        cases command with
        | StartWorktreeExecution => cases hlease
        | _ => rfl
      have hexecute : execute kernel command context operationContext w = (.ok result, w₁) := by
        rw [execute, bind_of_ok ((throwIf_eq_ok (u := ())).mpr ⟨?_, rfl⟩), bind_of_ok hrun,
          bind_of_ok hremember]
        · rfl
        · cases command with
          | PublishArtifact => cases hlease
          | _ => rintro ⟨⟩
      rw [answer, hexecute]
  | publishReport input content context operationContext =>
      cases hissued
      cases hlease
  | _ => cases hissued

theorem Executes.cachedFromLease (h : Executes kernel call issued w first) {worktreeId : String}
    (hlease : issued.command.leaseWorktreeId? = some worktreeId) :
    (∃ principal, (w.db.table Principal).find?
        (fun r => r.id = issued.context.principalId) = some principal ∧
      principal.kind = .runtime) ∧
    first.correlationId ≠ none ∧ CachedFromLease issued.command.type first := by
  obtain ⟨principal, correlationId, dispatched, w₁, w₂, record, hprincipal, hdispatch, rfl, -⟩ :=
    h.spec
  obtain ⟨hruntime, lease, observedAt, rfl, -, hsecret⟩ := dispatch_built hlease hdispatch
  exact ⟨⟨principal, hprincipal, hruntime⟩, nofun, lease, observedAt, _, rfl, hsecret⟩

/-- A refreshed result grants what the first one has granted. -/
theorem Refreshes.grantedBy {type : CommandType} {r r' : CommandResult}
    {lease : WorktreeWriterLease} (h : Refreshes type r r') (htype : type.ofLease = true) :
    lease.GrantedBy type r' ↔ lease.GrantedBy type r := by
  obtain rfl | ⟨_, _, rfl, hgranted⟩ := h.lease htype
  · exact Iff.rfl
  · exact grantedBy_leaseResult hgranted

theorem Refreshes.cachedFromLease {type : CommandType} {r r' : CommandResult}
    (h : Refreshes type r r') (htype : type.ofLease = true) (hr : CachedFromLease type r) :
    CachedFromLease type r' := by
  obtain rfl | ⟨lease, observedAt, rfl, hgranted⟩ := h.lease htype
  · exact hr
  · obtain ⟨cached, cachedAt, correlationId, rfl, hsecret⟩ := hr
    refine ⟨lease, observedAt, none, ?_, ?_⟩
    · by_cases hq : type = .QuarantineWorktreeWriterLease
      · simp [leaseResult, stateResult, hq]
      · simp [leaseResult, authorityResult, hq]
    · by_cases hq : type = .QuarantineWorktreeWriterLease
      · simp_all [WorktreeWriterLease.GrantedBy, WorktreeWriterLease.secret, leaseResult,
          stateResult]
      · simp_all [WorktreeWriterLease.GrantedBy, WorktreeWriterLease.secret, leaseResult,
          authorityResult]

theorem Replay.grows (h : Replay kernel w₀ call₀ original first w call issued) : Grows w₀ w :=
  trans_of Grows (step_grows kernel call₀ w₀) h.later.grows

/-- The Runtime that issued a command about a lease is one still. -/
theorem Replay.runtime (h : Replay kernel w₀ call₀ original first w call issued)
    {worktreeId : String} (hpayload : issued.command = original.command)
    (hlease : issued.command.leaseWorktreeId? = some worktreeId) :
    (∃ principal, (w.db.table Principal).find?
        (fun r => r.id = issued.context.principalId) = some principal ∧
      principal.kind = .runtime) ∧
    first.correlationId ≠ none ∧ CachedFromLease issued.command.type first := by
  rw [hpayload] at hlease
  obtain ⟨⟨principal, hprincipal, hruntime⟩, hcorrelation, hcached⟩ :=
    h.executed.cachedFromLease hlease
  rw [← h.grows.principals, ← h.principal] at hprincipal
  rw [← h.type] at hcached
  exact ⟨⟨principal, hprincipal, hruntime⟩, hcorrelation, hcached⟩

theorem replayCommand_lease {command : KernelCommand} {principal : Principal}
    {context : PrincipalContext} {cached : IdempotencyRecord} {worktreeId : String}
    (hlease : command.leaseWorktreeId? = some worktreeId)
    (h : replayCommand kernel command principal context cached w = (.ok result, w')) :
    ∃ w₁, resolveCachedResult kernel command cached.result principal context w =
      (.ok result, w₁) := by
  unfold replayCommand at h
  cases command with
  | AcquireWorktreeWriterLease command =>
      simp only [bind_eq_ok, pure_eq_ok, throwIf_eq_ok] at h
      obtain ⟨_, _, ⟨-, rfl⟩, _, _, ⟨-, rfl⟩, _, w₁, hresolve, _, _, -, rfl, -⟩ := h
      exact ⟨w₁, hresolve⟩
  | RenewWorktreeWriterLease command =>
      simp only [bind_eq_ok, pure_eq_ok, throwIf_eq_ok] at h
      obtain ⟨_, _, ⟨-, rfl⟩, _, _, ⟨-, rfl⟩, _, w₁, hresolve, _, _, -, rfl, -⟩ := h
      exact ⟨w₁, hresolve⟩
  | QuarantineWorktreeWriterLease command =>
      simp only [bind_eq_ok, pure_eq_ok, throwIf_eq_ok] at h
      obtain ⟨_, _, ⟨-, rfl⟩, _, _, ⟨-, rfl⟩, _, w₁, hresolve, _, _, -, rfl, -⟩ := h
      exact ⟨w₁, hresolve⟩
  | _ => cases hlease

/-- The lease a replay was answered from is what the first result has granted. -/
theorem Replay.answeredFromLease (h : Replay kernel w₀ call₀ original first w call issued)
    {worktreeId : String} (hpayload : issued.command = original.command)
    (hlease : issued.command.leaseWorktreeId? = some worktreeId)
    (hok : answer kernel call w = some (.ok result)) :
    AnsweredFromLease kernel original first w issued := by
  obtain ⟨record, hrecord, -, hrefreshes⟩ := h.record
  obtain ⟨⟨principal, hprincipal, hruntime⟩, -, hfirst⟩ := h.runtime hpayload hlease
  have htype : issued.command.type.ofLease = true := issued.command.ofLease_iff.mpr ⟨_, hlease⟩
  obtain ⟨w₁, hrun, -⟩ := answer_eq_ok h.issues hok
  have hadmissible := hrun
  simp only [executeTransaction, bind_eq_ok, throwIf_eq_ok] at hadmissible
  obtain ⟨_, _, ⟨hadmissible, -⟩, -⟩ := hadmissible
  obtain ⟨found, w₂, hfound, hfence, hbody⟩ := executeTransaction_eq_ok hrun
  obtain rfl := Option.some.inj (hprincipal.symm.trans hfound)
  rw [assertWriterCommandAuthority_lease hruntime hlease] at hfence
  obtain rfl : w = w₂ := congrArg Prod.snd hfence
  have hid : principal.id = issued.context.principalId := by
    simpa using (Table.find?_eq_some hprincipal).2
  rw [hid, hrecord] at hbody
  obtain ⟨cached, hcached, hreplay⟩ | ⟨hnone, -⟩ := hbody
  · obtain rfl := Option.some.inj hcached
    obtain ⟨lease, hfoundLease, hstands, hgranted, -⟩ :=
      (resolveCachedResult_lease hlease (hrefreshes.cachedFromLease htype hfirst)).mp
        (replayCommand_lease hlease hreplay)
    refine ⟨hpayload, by simpa using hadmissible, worktreeId, lease, hlease, hfoundLease, ?_,
      (hrefreshes.grantedBy htype).mp hgranted⟩
    rw [← hid]
    exact hstands
  · cases hnone

/-- When it is, the answer is built from the lease. -/
theorem AnsweredFromLease.answered (hfrom : AnsweredFromLease kernel original first w issued)
    (h : Replay kernel w₀ call₀ original first w call issued) :
    first.correlationId ≠ none ∧
      ∃ result, answer kernel call w = some (.ok result) ∧ result.correlationId = none := by
  obtain ⟨record, hrecord, hhash, hrefreshes⟩ := h.record
  obtain ⟨worktreeId, lease, hlease, hfound, hstands, hgranted⟩ := hfrom.lease
  obtain ⟨⟨principal, hprincipal, hruntime⟩, hcorrelation, hfirst⟩ :=
    h.runtime hfrom.payload hlease
  have htype : issued.command.type.ofLease = true := issued.command.ofLease_iff.mpr ⟨_, hlease⟩
  have hid : principal.id = issued.context.principalId := by
    simpa using (Table.find?_eq_some hprincipal).2
  rw [← hid] at hstands hrecord
  obtain ⟨w₁, hresolve⟩ := (resolveCachedResult_lease (w := w)
    hlease
    (hrefreshes.cachedFromLease htype hfirst)).mpr
      ⟨lease, hfound, hstands, (hrefreshes.grantedBy htype).mpr hgranted, rfl⟩
  rw [← hfrom.payload] at hhash
  refine ⟨hcorrelation, _, answer_of_lease h.issues hprincipal hruntime hfrom.admissible hlease
    hrecord hhash hresolve, ?_⟩
  by_cases hq : issued.command.type = .QuarantineWorktreeWriterLease
  · rw [leaseResult, if_pos hq]
    rfl
  · rw [leaseResult, if_neg hq]
    rfl

/-- The token of a claim of the Outbox is never empty. -/
theorem Executes.claimToken (h : Executes kernel call issued w first)
    (htype : issued.command.type = .ClaimOutboxEvents) : truthy first.leaseToken = true := by
  obtain ⟨principal, correlationId, dispatched, w₁, w₂, record, -, hdispatch, rfl, -⟩ := h.spec
  cases hcommand : issued.command with
  | ClaimOutboxEvents command =>
      rw [hcommand] at hdispatch
      simp only [dispatchCommand, claimOutboxEvents, bind_eq_ok, newId_eq_ok, pure_eq_ok] at hdispatch
      obtain ⟨_, _, -, _, _, -, _, _, -, _, _, -, leaseToken, _, ⟨htoken, -⟩, _, _, -, _, _, -, _, _,
        -, rfl, -⟩ := hdispatch
      rw [← htoken]
      exact decide_eq_true (kernel.idFactory_ne_empty _ _)
  | _ =>
      rw [hcommand] at htype
      cases htype

/-- The authority the answer to a replay shows is persisted and live. -/
theorem Replay.shows (h : Replay kernel w₀ call₀ original first w call issued)
    (hok : answer kernel call w = some (.ok result)) :
    ShowsAuthority kernel issued.context.principalId result w (step kernel call w)
      issued.command := by
  obtain ⟨record, hrecord, -, hrefreshes⟩ := h.record
  obtain ⟨principal, w₁, w₂, hid, hbefore, -, hresolve, hafter⟩ := h.resolved hrecord hok
  have hordered : OutboxOrdered w.db :=
    ((h.reachable.step call₀).steps h.later).outboxOrdered
  have hshows := resolveCachedResult_shows
    (hordered.of_table (hbefore.table_eq OutboxEvent (by decide)))
    (fun htype => hrefreshes.token htype (h.executed.claimToken (h.type.symm.trans htype))) hresolve
  rw [hid] at hshows
  exact hshows.mono hbefore.clockReadings hafter

/-- A replay obeys the law exactly when it is not answered from a lease. -/
theorem replay_law_iff (h : Replay kernel w₀ call₀ original first w call issued) :
    ReplayLaw kernel original first w call issued ↔
      ¬ AnsweredFromLease kernel original first w issued := by
  obtain ⟨record, hrecord, hhash, hrefreshes⟩ := h.record
  constructor
  · intro hlaw hfrom
    obtain ⟨hfirst, result, hok, hnone⟩ := hfrom.answered h
    have hlasting := (hlaw.same hfrom.payload result hok).1
    have hcorrelation := congrArg CommandResult.correlationId hlasting
    rw [lasting_correlationId, lasting_correlationId, hnone] at hcorrelation
    exact hfirst hcorrelation.symm
  · intro hnot
    refine ⟨step_touches h.issues ⟨record, hrecord⟩, fun hpayload result hok => ?_, ?_⟩
    · have hlease : issued.command.type.ofLease = false := by
        refine Bool.eq_false_iff.mpr fun hlease => ?_
        obtain ⟨worktreeId, hlease⟩ := issued.command.ofLease_iff.mp hlease
        exact hnot (h.answeredFromLease hpayload hlease hok)
      obtain ⟨principal, w₁, w₂, -, -, -, hresolve, -⟩ := h.resolved hrecord hok
      have hall := hrefreshes.trans (resolveCachedResult_refreshes hresolve)
      exact ⟨hall.lasting hlease, hall.batch hlease, h.shows hok⟩
    · intro hother result hok
      obtain ⟨_, _, _, -, -, hpayload, -⟩ := h.resolved hrecord hok
      exact hother (h.digest (hpayload.symm.trans hhash))

end Replays

/-! ## A replay of an acquisition -/

def acquireIssued : IssuedCommand where
  command := .AcquireWorktreeWriterLease
    { idempotencyKey := "acquire"
      worktreeId := "worktree"
      leaseDurationMs := 60000 }
  context := { principalId := "runtime" }
  operationContext := none

/-- The result of the acquisition in `leasedWorld`. -/
def acquiredResult : CommandResult :=
  match answer countingKernel acquireCall smallWorld with
  | some (.ok result) => result
  | _ => { commandType := .AcquireWorktreeWriterLease, entityId := "" }

theorem acquireCall_executes :
    Executes countingKernel acquireCall acquireIssued smallWorld acquiredResult where
  issues := rfl
  fresh := by
    rintro ⟨record, hrecord⟩
    have hempty : (smallWorld.db.table IdempotencyRecord).rows = [] := rfl
    rw [Table.find?, hempty] at hrecord
    cases hrecord
  succeeds := rfl

theorem acquireCall_replay :
    Replay countingKernel smallWorld acquireCall acquireIssued acquiredResult leasedWorld
      acquireCall acquireIssued where
  reachable := smallWorld_reachable
  executed := acquireCall_executes
  later := Relation.ReflTransGen.refl
  issues := rfl
  principal := rfl
  type := rfl
  key := rfl
  digest _ := rfl

/-- The acquisition is answered again, without the correlation id of the recorded result. -/
theorem acquireCall_forgets_correlation :
    ∃ result, answer countingKernel acquireCall leasedWorld = some (.ok result) ∧
      result.correlationId = none ∧ acquiredResult.correlationId ≠ none := by
  refine ⟨_, rfl, ?_, ?_⟩
  · rfl
  · nofun

theorem acquireCall_breaks_law :
    ¬ ReplayLaw countingKernel acquireIssued acquiredResult leasedWorld acquireCall
      acquireIssued := by
  intro hlaw
  obtain ⟨result, hok, hnone, hfirst⟩ := acquireCall_forgets_correlation
  have hcorrelation := congrArg CommandResult.correlationId (hlaw.same rfl result hok).1
  rw [lasting_correlationId, lasting_correlationId, hnone] at hcorrelation
  exact hfirst hcorrelation.symm

theorem acquireCall_law_iff :
    ReplayLaw countingKernel acquireIssued acquiredResult leasedWorld acquireCall
        acquireIssued ↔
      ¬ AnsweredFromLease countingKernel acquireIssued acquiredResult leasedWorld
        acquireIssued :=
  replay_law_iff acquireCall_replay

end Torsor.Kernel
