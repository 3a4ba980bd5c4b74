import Torsor.Kernel.OutboxQueue
import Torsor.Kernel.PlainErrors
import Torsor.Kernel.Provenance
import Torsor.Kernel.Replays

/-! # What a replay answers

The result of a command is recorded under the principal, the type and the key of the
command. A replay answers with the recorded result; for the commands that grant authority
the result is refreshed first, and recorded again. What a result is not allowed to change
over all its refreshes is what it says besides the authority it shows.
-/

namespace Torsor.Kernel

open Torsor.Library Tx

/-! ## Results -/

/-- The commands whose cached result is built from the lease of the Worktree. -/
def CommandType.ofLease : CommandType → Bool
  | .AcquireWorktreeWriterLease | .RenewWorktreeWriterLease
  | .QuarantineWorktreeWriterLease => true
  | _ => false

/-- A result without the authority that a replay of its command refreshes. -/
def CommandResult.lasting (type : CommandType) (r : CommandResult) : CommandResult :=
  match type with
  | .ClaimAttention => { r with leaseExpiresAt := none }
  | .StartActivation | .StartProviderAttempt =>
      { r with leaseExpiresAt := none, authorityObservedAt := none }
  | .ClaimOutboxEvents =>
      { r with entityId := "", leaseToken := none, leaseExpiresAt := none, outboxEvents := none }
  | .AcquireWorktreeWriterLease | .RenewWorktreeWriterLease
  | .QuarantineWorktreeWriterLease =>
      { r with
        revision := none
        leaseExpiresAt := none
        authorityObservedAt := none
        leaseGeneration := none
        worktreeWriterLease := none }
  | _ => r

/-- The events of the Outbox a result lists. -/
def CommandResult.batch (r : CommandResult) : Option (List String) :=
  r.outboxEvents.map fun events => events.map (·.id)

/-- The result that is built from a lease. -/
def leaseResult (type : CommandType) (lease : WorktreeWriterLease) (observedAt : Timestamp) :
    CommandResult :=
  if type = .QuarantineWorktreeWriterLease then stateResult type lease lease.quarantineToken
  else authorityResult type lease observedAt

/-- The lease is the one a result has granted, or the quarantine it has begun. -/
def WorktreeWriterLease.GrantedBy (type : CommandType) (r : CommandResult)
    (lease : WorktreeWriterLease) : Prop :=
  if type = .QuarantineWorktreeWriterLease then
    r.quarantineToken = lease.quarantineToken ∧ r.revision = some lease.revision ∧
      r.fencingToken = some lease.fencingToken
  else
    r.leaseToken = lease.leaseToken ∧ r.leaseGeneration = some lease.generation ∧
      r.fencingToken = some lease.fencingToken

/-- What has become of a recorded result: its authority may have been refreshed. -/
structure Refreshes (type : CommandType) (r r' : CommandResult) : Prop where
  lasting : type.ofLease = false → r'.lasting type = r.lasting type
  batch : type.ofLease = false → r'.batch = r.batch
  token : type = .ClaimOutboxEvents → truthy r.leaseToken = true → truthy r'.leaseToken = true
  lease : type.ofLease = true → r' = r ∨
    ∃ lease observedAt, r' = leaseResult type lease observedAt ∧ lease.GrantedBy type r

section Refreshes

variable {type : CommandType} {r r' r'' : CommandResult}

theorem Refreshes.refl (type : CommandType) (r : CommandResult) : Refreshes type r r :=
  ⟨fun _ => rfl, fun _ => rfl, fun _ => id, fun _ => .inl rfl⟩

/-- The result that is built from a lease stands for the same grant. -/
theorem grantedBy_leaseResult {lease lease' : WorktreeWriterLease} {observedAt : Timestamp}
    (h : lease.GrantedBy type r) :
    lease'.GrantedBy type (leaseResult type lease observedAt) ↔ lease'.GrantedBy type r := by
  by_cases htype : type = .QuarantineWorktreeWriterLease
  · simp_all [WorktreeWriterLease.GrantedBy, leaseResult, stateResult]
  · simp_all [WorktreeWriterLease.GrantedBy, leaseResult, authorityResult]

theorem Refreshes.trans (h : Refreshes type r r') (h' : Refreshes type r' r'') :
    Refreshes type r r'' where
  lasting htype := (h'.lasting htype).trans (h.lasting htype)
  batch htype := (h'.batch htype).trans (h.batch htype)
  token htype htoken := h'.token htype (h.token htype htoken)
  lease htype := by
    obtain rfl | ⟨lease, observedAt, rfl, hgranted⟩ := h.lease htype
    · exact h'.lease htype
    · obtain rfl | ⟨lease', observedAt', rfl, hgranted'⟩ := h'.lease htype
      · exact .inr ⟨lease, observedAt, rfl, hgranted⟩
      · exact .inr ⟨lease', observedAt', rfl, (grantedBy_leaseResult hgranted).mp hgranted'⟩

/-- Refreshing only what `lasting` leaves out, of a command that is not about a lease. -/
theorem Refreshes.of_lasting (hlease : type.ofLease = false)
    (houtbox : type ≠ .ClaimOutboxEvents) (hlasting : r'.lasting type = r.lasting type)
    (hbatch : r'.batch = r.batch) : Refreshes type r r' where
  lasting _ := hlasting
  batch _ := hbatch
  token htype := absurd htype houtbox
  lease htype := by rw [hlease] at htype; cases htype

/-- A result of a command about a lease is built anew. -/
theorem Refreshes.of_lease (htype : type.ofLease = true) (houtbox : type ≠ .ClaimOutboxEvents)
    (h : ∃ lease observedAt, r' = leaseResult type lease observedAt ∧ lease.GrantedBy type r) :
    Refreshes type r r' where
  lasting hother := by rw [htype] at hother; cases hother
  batch hother := by rw [htype] at hother; cases hother
  token hclaims := absurd hclaims houtbox
  lease _ := .inr h

end Refreshes

/-! ## Refreshed results -/

section Resolve

variable {kernel : KernelContext} {w w' : World} {result refreshed : CommandResult}
  {principal : Principal} {context : PrincipalContext}

theorem resolveCachedWorktreeExecution_refreshes {command : StartWorktreeExecutionCommand}
    (h : resolveCachedWorktreeExecution kernel command result principal w =
      (.ok refreshed, w')) : refreshed = result := by
  simp only [resolveCachedWorktreeExecution, bind_eq_ok, pure_eq_ok] at h
  obtain ⟨_, _, -, _, _, -, rfl, -⟩ := h
  rfl

theorem resolveCachedAttentionClaim_refreshes
    (h : resolveCachedAttentionClaim kernel result principal w = (.ok refreshed, w')) :
    ∃ leaseExpiresAt, refreshed = { result with leaseExpiresAt } := by
  simp only [resolveCachedAttentionClaim, bind_eq_ok, pure_eq_ok] at h
  obtain ⟨_, _, -, _, _, -, _, _, -, expiresAt, _, -, _, _, -, _, _, -, _, _, -, _, _, -, rfl, -⟩ :=
    h
  exact ⟨_, rfl⟩

theorem resolveCachedActivation_refreshes {command : StartActivationCommand}
    (h : resolveCachedActivation kernel command result principal w = (.ok refreshed, w')) :
    ∃ leaseExpiresAt authorityObservedAt,
      refreshed = { result with leaseExpiresAt, authorityObservedAt } := by
  unfold resolveCachedActivation at h
  split at h
  · obtain ⟨rfl, -⟩ := pure_eq_ok.mp h
    exact ⟨_, _, rfl⟩
  · simp only [bind_eq_ok, pure_eq_ok] at h
    obtain ⟨_, _, -, _, _, -, _, _, -, authority, _, -, rfl, -⟩ := h
    exact ⟨_, _, rfl⟩

theorem resolveCachedProviderAttempt_refreshes {command : StartProviderAttemptCommand}
    (h : resolveCachedProviderAttempt kernel command result principal context w =
      (.ok refreshed, w')) :
    ∃ leaseExpiresAt authorityObservedAt,
      refreshed = { result with leaseExpiresAt, authorityObservedAt } := by
  simp only [resolveCachedProviderAttempt, bind_eq_ok, pure_eq_ok] at h
  obtain ⟨_, _, -, _, _, -, _, _, -, authority, _, -, _, _, -, _, _, -, rfl, -⟩ := h
  exact ⟨_, _, rfl⟩

/-- The rows that are found for the events of a batch. -/
theorem found_rows {ids : List String} {found : List (Option OutboxEvent)}
    (hfound : ids.map (fun id => (w.db.table OutboxEvent).find? fun r => r.id = id) = found)
    (hpending : found.any (fun row => row.all (·.acknowledgedAt.isSome)) = false) :
    found.reduceOption.map (·.id) = ids ∧ ∀ r ∈ found.reduceOption,
      r ∈ w.db.table OutboxEvent ∧ r.acknowledgedAt = none := by
  subst hfound
  induction ids with
  | nil => exact ⟨rfl, fun r hr => nomatch hr⟩
  | cons id rest ih =>
      rw [List.map_cons, List.any_cons, Bool.or_eq_false_iff] at hpending
      obtain ⟨hids, hrows⟩ := ih hpending.2
      cases hfind : (w.db.table OutboxEvent).find? fun r => r.id = id with
      | none => simp [hfind] at hpending
      | some r =>
          obtain ⟨hmem, hid⟩ := Table.find?_eq_some hfind
          have hwaiting : r.acknowledgedAt = none := by simpa [hfind] using hpending.1
          rw [List.map_cons, hfind, List.reduceOption_cons_of_some]
          refine ⟨?_, ?_⟩
          · rw [List.map_cons, hids, of_decide_eq_true hid]
          · intro x hx
            cases List.mem_cons.mp hx with
            | inl heq => exact heq ▸ ⟨hmem, hwaiting⟩
            | inr hrest => exact hrows x hrest

/-- A replay of a claim that lists no event, or of a batch that is leased still or again. -/
theorem resolveCachedOutboxClaim_cases {command : ClaimOutboxEventsCommand}
    (h : resolveCachedOutboxClaim kernel command result principal w = (.ok refreshed, w')) :
    ((truthy result.leaseToken = false ∨ result.outboxEvents.all (·.isEmpty) = true) ∧
      refreshed = result) ∨
    ∃ rows : List OutboxEvent, some (rows.map (·.id)) = result.batch ∧
      (∀ r ∈ rows, r ∈ w.db.table OutboxEvent ∧ r.acknowledgedAt = none) ∧
      ((rows.all (fun row => row.leasedTo principal.id result.leaseToken &&
          row.leaseLive (kernel.clock w.clockReadings)) = true ∧
        replayLiveOutboxClaim result rows w.tick = (.ok refreshed, w')) ∨
      renewOutboxClaim kernel command result principal (kernel.clock w.clockReadings) rows
        (rows.map (·.id)) w.tick = (.ok refreshed, w')) := by
  unfold resolveCachedOutboxClaim at h
  split at h
  · rename_i hempty
    obtain ⟨rfl, -⟩ := pure_eq_ok.mp h
    exact .inl ⟨by simpa using hempty, rfl⟩
  · rename_i hbatch
    simp only [bind_eq_ok, readClock_eq_ok, throwIf_eq_ok] at h
    obtain ⟨_, _, ⟨rfl, rfl⟩, found, _, hfound, _, _, ⟨hpending, rfl⟩, h⟩ := h
    rw [mapEach_of_reads _ fun id => selectRow_eq_ok.mpr ⟨rfl, rfl⟩] at hfound
    obtain ⟨hmap, rfl⟩ := pure_eq_ok.mp hfound
    obtain ⟨hids, hrows⟩ := found_rows hmap (by simpa using hpending)
    obtain ⟨events, hevents⟩ : ∃ events, result.outboxEvents = some events := by
      cases hevents : result.outboxEvents with
      | none => simp [hevents] at hbatch
      | some events => exact ⟨events, rfl⟩
    refine .inr ⟨found.reduceOption, ?_, hrows, ?_⟩
    · rw [hids, CommandResult.batch, hevents]
      rfl
    · rw [hids]
      split at h
      · exact .inl ⟨by assumption, h⟩
      · exact .inr h

theorem replayLiveOutboxClaim_eq_ok {rows : List OutboxEvent}
    (h : replayLiveOutboxClaim result rows w = (.ok refreshed, w')) :
    w = w' ∧ ∃ leaseExpiresAt, (∀ r ∈ rows, r.leaseExpiresAt = leaseExpiresAt) ∧
      refreshed = { result with
        leaseExpiresAt, outboxEvents := some (rows.map mapOutboxEvent) } := by
  simp only [replayLiveOutboxClaim, bind_eq_ok, throwIf_eq_ok, pure_eq_ok] at h
  obtain ⟨_, _, ⟨hexpiry, rfl⟩, rfl, rfl⟩ := h
  exact ⟨rfl, _, by simpa using hexpiry, rfl⟩

/-- A renewed claim lists the batch again, leased under a token of its own. -/
theorem renewOutboxClaim_result {command : ClaimOutboxEventsCommand} {now : Timestamp}
    {rows : List OutboxEvent} {ids : List String}
    (h : renewOutboxClaim kernel command result principal now rows ids w =
      (.ok refreshed, w')) :
    ∃ (leaseToken : String) (leaseExpiresAt : Timestamp) (events : List OutboxEvent) (w₁ : World),
      leaseToken ≠ "" ∧ now < leaseExpiresAt ∧
      ((pendingOutboxEvents w.db).take ids.length).map (·.id) = ids ∧
      leaseOutboxEvents ids principal.id leaseToken leaseExpiresAt w.issue = (.ok (), w₁) ∧
      mapEach ids requireOutboxEvent w₁ = (.ok events, w') ∧
      refreshed = { result with
        entityId := leaseToken
        leaseToken := some leaseToken
        leaseExpiresAt := some leaseExpiresAt
        outboxEvents := some (events.map mapOutboxEvent) } := by
  simp only [renewOutboxClaim, bind_eq_ok, throwIf_eq_ok, gets_eq_ok, boundedDuration_eq_ok,
    newId_eq_ok, pure_eq_ok] at h
  obtain ⟨_, _, ⟨-, rfl⟩, _, _, ⟨-, rfl⟩, _, _, ⟨rfl, rfl⟩, _, _, ⟨hids, rfl⟩, duration, _,
    ⟨hduration, rfl, rfl⟩, token, _, ⟨htoken, rfl⟩, _, w₁, hlease, events, w₂, hevents, rfl, rfl⟩ :=
      h
  refine ⟨token, now + command.leaseDurationMs.toNat, events, w₁, ?_, ?_,
    Classical.not_not.mp hids, hlease, hevents, rfl⟩
  · rw [← htoken]
    exact kernel.idFactory_ne_empty _ _
  · exact Nat.lt_add_of_pos_right (by omega)

theorem renewOutboxClaim_refreshes {command : ClaimOutboxEventsCommand} {now : Timestamp}
    {rows : List OutboxEvent} {ids : List String} (hids : some ids = result.batch)
    (h : renewOutboxClaim kernel command result principal now rows ids w =
      (.ok refreshed, w')) : Refreshes .ClaimOutboxEvents result refreshed := by
  obtain ⟨leaseToken, leaseExpiresAt, events, w₁, htoken, -, -, -, hevents, rfl⟩ :=
    renewOutboxClaim_result h
  obtain ⟨rfl, hsame, -⟩ := mapEach_requireOutboxEvent hevents
  refine ⟨fun _ => rfl, fun _ => ?_, fun _ _ => decide_eq_true htoken, nofun⟩
  rw [← hids, ← hsame]
  simp [CommandResult.batch, mapOutboxEvent, Function.comp_def]

theorem resolveCachedOutboxClaim_refreshes {command : ClaimOutboxEventsCommand}
    (h : resolveCachedOutboxClaim kernel command result principal w = (.ok refreshed, w')) :
    Refreshes .ClaimOutboxEvents result refreshed := by
  obtain ⟨-, rfl⟩ | ⟨rows, hids, -, ⟨-, h⟩ | h⟩ := resolveCachedOutboxClaim_cases h
  · exact Refreshes.refl _ _
  · obtain ⟨-, leaseExpiresAt, -, rfl⟩ := replayLiveOutboxClaim_eq_ok h
    refine ⟨fun _ => rfl, fun _ => ?_, fun _ => id, nofun⟩
    rw [← hids]
    simp [CommandResult.batch, mapOutboxEvent, Function.comp_def]
  · exact renewOutboxClaim_refreshes hids h

theorem expireCachedLease_eq_ok {lease : WorktreeWriterLease} {observedAt : Timestamp}
    {message : String} {u : Unit}
    (h : expireCachedLease kernel lease principal observedAt message w = (.ok u, w')) :
    w = w' := by
  unfold expireCachedLease at h
  split at h
  · simp only [bind_eq_ok, raise_eq_ok] at h
    obtain ⟨_, _, -, _, _, -, hraise⟩ := h
    cases hraise
  · exact (pure_eq_ok.mp h).2

/-- The lease a cached result has granted is live at the principal still. -/
structure WorktreeWriterLease.LiveFor (principalId : String) (observedAt : Timestamp)
    (lease : WorktreeWriterLease) : Prop where
  active : lease.status = .Active
  holder : lease.holderPrincipalId = some principalId
  expiresAt : ∃ expiresAt, lease.expiresAt = some expiresAt ∧ observedAt < expiresAt

theorem WorktreeWriterLease.LiveFor.not_expired {principalId : String} {observedAt : Timestamp}
    {lease : WorktreeWriterLease} (h : lease.LiveFor principalId observedAt) :
    lease.expired observedAt = false := by
  obtain ⟨expiresAt, hat, hlater⟩ := h.expiresAt
  simp [WorktreeWriterLease.expired, hat, hlater]

theorem resolveCachedWorktreeWriterLeaseAuthority_eq_ok {worktreeId : String}
    {type : CommandType}
    (h : resolveCachedWorktreeWriterLeaseAuthority kernel worktreeId type result principal w =
      (.ok refreshed, w')) (htype : type ≠ .QuarantineWorktreeWriterLease) :
    ∃ lease, (worktreeBook w.db).lease worktreeId = some lease ∧
      lease.LiveFor principal.id (kernel.clock w.clockReadings) ∧ lease.GrantedBy type result ∧
      refreshed = leaseResult type lease (kernel.clock w.clockReadings) ∧ w' = w.tick := by
  simp only [resolveCachedWorktreeWriterLeaseAuthority, bind_eq_ok, throwIf_eq_ok,
    requireLease_eq_ok, now_eq_ok, pure_eq_ok] at h
  obtain ⟨_, _, ⟨-, rfl⟩, lease, _, ⟨hlease, rfl⟩, _, _, ⟨rfl, rfl⟩, _, _, hexpiry, _, _,
    ⟨hlive, rfl⟩, rfl, rfl⟩ := h
  obtain rfl := expireCachedLease_eq_ok hexpiry
  simp only [not_or, ne_eq, Classical.not_not] at hlive
  obtain ⟨hactive, hholder, htoken, hgeneration, hfencing, hexpires⟩ := hlive
  refine ⟨lease, hlease, ⟨hactive, hholder, ?_⟩, ?_, ?_, rfl⟩
  · cases hat : lease.expiresAt with
    | none => simp [hat] at hexpires
    | some expiresAt => exact ⟨expiresAt, rfl, by simpa [hat] using hexpires⟩
  · simp [WorktreeWriterLease.GrantedBy, htype, htoken, hgeneration, hfencing]
  · rw [leaseResult, if_neg htype]

theorem resolveCachedWorktreeWriterLeaseAuthority_of_live {worktreeId : String}
    {type : CommandType} {lease : WorktreeWriterLease}
    (htype : type ≠ .QuarantineWorktreeWriterLease)
    (hview : result.worktreeWriterLease.isSome = true) (htoken : truthy result.leaseToken = true)
    (hlease : (worktreeBook w.db).lease worktreeId = some lease)
    (hlive : lease.LiveFor principal.id (kernel.clock w.clockReadings))
    (hgranted : lease.GrantedBy type result) :
    resolveCachedWorktreeWriterLeaseAuthority kernel worktreeId type result principal w =
      (.ok (leaseResult type lease (kernel.clock w.clockReadings)), w.tick) := by
  obtain ⟨expiresAt, hat, hlater⟩ := hlive.expiresAt
  rw [WorktreeWriterLease.GrantedBy, if_neg htype] at hgranted
  have hvalid : ¬ (result.worktreeWriterLease.isNone = true ∨ ¬ truthy result.leaseToken = true) := by
    rw [htoken, Option.isNone_eq_false_iff.mpr hview]
    simp
  have hcurrent : ¬ (lease.status ≠ .Active ∨ lease.holderPrincipalId ≠ some principal.id ∨
      lease.leaseToken ≠ result.leaseToken ∨ some lease.generation ≠ result.leaseGeneration ∨
      some lease.fencingToken ≠ result.fencingToken ∨
      lease.expiresAt.all (· ≤ kernel.clock w.clockReadings) = true) := by
    simp [hlive.active, hlive.holder, hgranted, hat, hlater]
  rw [leaseResult, if_neg htype, resolveCachedWorktreeWriterLeaseAuthority,
    bind_of_ok ((throwIf_eq_ok (u := ())).mpr ⟨hvalid, rfl⟩),
    bind_of_ok (requireLease_eq_ok.mpr ⟨hlease, rfl⟩),
    bind_of_ok (now_eq_ok.mpr ⟨rfl, rfl⟩), expireCachedLease, hlive.not_expired,
    if_neg Bool.false_ne_true, bind_of_ok (pure_apply () w.tick),
    bind_of_ok ((throwIf_eq_ok (u := ())).mpr ⟨hcurrent, rfl⟩)]
  rfl

theorem resolveCachedWorktreeWriterLeaseQuarantine_eq_ok
    {command : QuarantineWorktreeWriterLeaseCommand}
    (h : resolveCachedWorktreeWriterLeaseQuarantine kernel command result principal w =
      (.ok refreshed, w')) :
    ∃ lease, (worktreeBook w.db).lease command.worktreeId = some lease ∧
      lease.status = .Quarantined ∧ lease.GrantedBy .QuarantineWorktreeWriterLease result ∧
      refreshed = leaseResult .QuarantineWorktreeWriterLease lease
        (kernel.clock w.clockReadings) ∧ w' = w.tick := by
  simp only [resolveCachedWorktreeWriterLeaseQuarantine, bind_eq_ok, throwIf_eq_ok,
    requireLease_eq_ok, now_eq_ok, pure_eq_ok] at h
  obtain ⟨_, _, ⟨-, rfl⟩, lease, _, ⟨hlease, rfl⟩, _, _, ⟨rfl, rfl⟩, _, _, hexpiry, _, _,
    ⟨hlive, rfl⟩, rfl, rfl⟩ := h
  obtain rfl := expireCachedLease_eq_ok hexpiry
  simp only [not_or, ne_eq, Classical.not_not] at hlive
  obtain ⟨hstatus, hrevision, hfencing, htoken⟩ := hlive
  refine ⟨lease, hlease, hstatus, ?_, ?_, rfl⟩
  · simp [WorktreeWriterLease.GrantedBy, htoken, hrevision, hfencing]
  · rw [leaseResult, if_pos rfl, htoken]

theorem resolveCachedWorktreeWriterLeaseQuarantine_of_quarantined
    {command : QuarantineWorktreeWriterLeaseCommand} {lease : WorktreeWriterLease}
    (htoken : truthy result.quarantineToken = true)
    (hlease : (worktreeBook w.db).lease command.worktreeId = some lease)
    (hstatus : lease.status = .Quarantined)
    (hgranted : lease.GrantedBy .QuarantineWorktreeWriterLease result) :
    resolveCachedWorktreeWriterLeaseQuarantine kernel command result principal w =
      (.ok (leaseResult .QuarantineWorktreeWriterLease lease (kernel.clock w.clockReadings)),
        w.tick) := by
  have hexpired : lease.expired (kernel.clock w.clockReadings) = false := by
    simp [WorktreeWriterLease.expired, hstatus]
  rw [WorktreeWriterLease.GrantedBy, if_pos rfl] at hgranted
  have hvalid : ¬ (¬ truthy result.quarantineToken = true ∨ result.revision.isNone = true ∨
      result.fencingToken.isNone = true) := by
    rw [hgranted.1] at htoken
    simp [htoken, hgranted]
  have hcurrent : ¬ (lease.status ≠ .Quarantined ∨ some lease.revision ≠ result.revision ∨
      some lease.fencingToken ≠ result.fencingToken ∨
      lease.quarantineToken ≠ result.quarantineToken) := by
    simp [hstatus, hgranted]
  rw [leaseResult, if_pos rfl, resolveCachedWorktreeWriterLeaseQuarantine,
    bind_of_ok ((throwIf_eq_ok (u := ())).mpr ⟨hvalid, rfl⟩),
    bind_of_ok (requireLease_eq_ok.mpr ⟨hlease, rfl⟩),
    bind_of_ok (now_eq_ok.mpr ⟨rfl, rfl⟩), expireCachedLease, hexpired,
    if_neg Bool.false_ne_true, bind_of_ok (pure_apply () w.tick),
    bind_of_ok ((throwIf_eq_ok (u := ())).mpr ⟨hcurrent, rfl⟩), hgranted.1]
  rfl

/-- A replay answers with the recorded result, its authority refreshed. -/
theorem resolveCachedResult_refreshes {command : KernelCommand}
    (h : resolveCachedResult kernel command result principal context w = (.ok refreshed, w')) :
    Refreshes command.type result refreshed := by
  cases command with
  | StartWorktreeExecution command =>
      rw [resolveCachedWorktreeExecution_refreshes h]
      exact Refreshes.refl _ _
  | PublishArtifact command =>
      simp only [resolveCachedResult, bind_eq_ok, pure_eq_ok] at h
      obtain ⟨_, _, -, rfl, -⟩ := h
      exact Refreshes.refl _ _
  | ClaimAttention command =>
      obtain ⟨leaseExpiresAt, rfl⟩ := resolveCachedAttentionClaim_refreshes h
      exact .of_lasting rfl (by rintro ⟨⟩) rfl rfl
  | ClaimOutboxEvents command => exact resolveCachedOutboxClaim_refreshes h
  | StartActivation command =>
      obtain ⟨leaseExpiresAt, authorityObservedAt, rfl⟩ := resolveCachedActivation_refreshes h
      exact .of_lasting rfl (by rintro ⟨⟩) rfl rfl
  | StartProviderAttempt command =>
      obtain ⟨leaseExpiresAt, authorityObservedAt, rfl⟩ :=
        resolveCachedProviderAttempt_refreshes h
      exact .of_lasting rfl (by rintro ⟨⟩) rfl rfl
  | AcquireWorktreeWriterLease command =>
      obtain ⟨lease, -, -, hgranted, rfl, -⟩ :=
        resolveCachedWorktreeWriterLeaseAuthority_eq_ok h (by rintro ⟨⟩)
      exact .of_lease rfl (by rintro ⟨⟩) ⟨lease, _, rfl, hgranted⟩
  | RenewWorktreeWriterLease command =>
      obtain ⟨lease, -, -, hgranted, rfl, -⟩ :=
        resolveCachedWorktreeWriterLeaseAuthority_eq_ok h (by rintro ⟨⟩)
      exact .of_lease rfl (by rintro ⟨⟩) ⟨lease, _, rfl, hgranted⟩
  | QuarantineWorktreeWriterLease command =>
      obtain ⟨lease, -, -, hgranted, rfl, -⟩ := resolveCachedWorktreeWriterLeaseQuarantine_eq_ok h
      exact .of_lease rfl (by rintro ⟨⟩) ⟨lease, _, rfl, hgranted⟩
  | _ =>
      obtain ⟨rfl, -⟩ := pure_eq_ok.mp h
      exact Refreshes.refl _ _

end Resolve

/-! ## The authority a result shows -/

/-- The Kernel has read this time between `w` and `w'`. -/
def ReadBetween (kernel : KernelContext) (w w' : World) (at' : Timestamp) : Prop :=
  ∃ k, w.clockReadings ≤ k ∧ k < w'.clockReadings ∧ kernel.clock k = at'

/-- The handler lease the result of a claim shows. -/
def ShowsClaim (kernel : KernelContext) (principalId : String) (result : CommandResult)
    (w w' : World) : Prop :=
  ∃ attention ∈ w'.db.table Attention, attention.id = result.entityId ∧
    attention.status = .Open ∧ attention.handlerLeaseHolderPrincipalId = some principalId ∧
    attention.handlerLeaseToken = result.relatedId? "handlerLeaseToken" ∧
    attention.handlerLeaseExpiresAt = result.leaseExpiresAt ∧
    ∃ at', ReadBetween kernel w w' at' ∧ result.leaseExpiresAt.any (at' < ·) = true

/-- The batch the result of a claim of the Outbox shows. -/
def ShowsBatch (kernel : KernelContext) (principalId : String) (result : CommandResult)
    (w w' : World) : Prop :=
  ∀ view ∈ result.outboxEvents.getD [], ∃ event ∈ w'.db.table OutboxEvent,
    mapOutboxEvent event = view ∧ event.acknowledgedAt = none ∧
    event.leasedTo principalId result.leaseToken = true ∧
    event.leaseExpiresAt = result.leaseExpiresAt ∧
    ∃ at', ReadBetween kernel w w' at' ∧ event.leaseLive at' = true

/-- The lease of the Outbox a delivery to a Run is admitted under. -/
def ShowsDelivery (kernel : KernelContext) (principalId : String) (authority : OutboxAuthority)
    (result : CommandResult) (w w' : World) : Prop :=
  ∃ event ∈ w'.db.table OutboxEvent, event.id = authority.outboxEventId.getD "" ∧
    event.acknowledgedAt = none ∧
    event.leasedTo principalId authority.outboxLeaseToken = true ∧
    event.leaseExpiresAt = result.leaseExpiresAt ∧
    ∃ at', ReadBetween kernel w w' at' ∧ result.authorityObservedAt = some at' ∧
      event.leaseLive at' = true

/-- The Activation an Attention's delivery is admitted under. -/
def ShowsActivation (kernel : KernelContext) (activationId : String) (result : CommandResult)
    (w w' : World) : Prop :=
  ∃ activation ∈ w'.db.table ActivationAttempt, activation.id = activationId ∧
    activation.runId = none ∧ some activation.expiresAt = result.leaseExpiresAt ∧
    (∃ at', ReadBetween kernel w w' at' ∧ result.authorityObservedAt = some at') ∧
    ∃ at', ReadBetween kernel w w' at' ∧ at' < activation.expiresAt

/-- The writer lease a result is built from. -/
def ShowsLease (kernel : KernelContext) (principalId : String) (type : CommandType)
    (worktreeId : String) (result : CommandResult) (w w' : World) : Prop :=
  ∃ lease at', (worktreeBook w'.db).lease worktreeId = some lease ∧ ReadBetween kernel w w' at' ∧
    lease.LiveFor principalId at' ∧ result = leaseResult type lease at'

def ShowsQuarantine (worktreeId : String) (result : CommandResult) (w' : World) : Prop :=
  ∃ lease at', (worktreeBook w'.db).lease worktreeId = some lease ∧ lease.status = .Quarantined ∧
    result = leaseResult .QuarantineWorktreeWriterLease lease at'

/-- The authority a result of the command shows is what the database holds in `w'`, and it was
live at a time read since `w`. -/
def ShowsAuthority (kernel : KernelContext) (principalId : String) (result : CommandResult)
    (w w' : World) : KernelCommand → Prop
  | .ClaimAttention _ => ShowsClaim kernel principalId result w w'
  | .ClaimOutboxEvents _ => ShowsBatch kernel principalId result w w'
  | .StartActivation command => truthy command.runId = true →
      ShowsDelivery kernel principalId command.toOutboxAuthority result w w'
  | .StartProviderAttempt command =>
      ShowsDelivery kernel principalId command.toOutboxAuthority result w w' ∨
        ShowsActivation kernel command.activationId result w w'
  | .AcquireWorktreeWriterLease command =>
      ShowsLease kernel principalId .AcquireWorktreeWriterLease command.worktreeId result w w'
  | .RenewWorktreeWriterLease command =>
      ShowsLease kernel principalId .RenewWorktreeWriterLease command.worktreeId result w w'
  | .QuarantineWorktreeWriterLease command => ShowsQuarantine command.worktreeId result w'
  | _ => True

section Shows

variable {kernel : KernelContext} {w w' w₀ w₁ : World} {result refreshed : CommandResult}
  {principal : Principal} {context : PrincipalContext} {principalId : String}

theorem ReadBetween.mono {at' : Timestamp} (h : ReadBetween kernel w w' at')
    (hbefore : w₀.clockReadings ≤ w.clockReadings)
    (hafter : w'.clockReadings ≤ w₁.clockReadings) : ReadBetween kernel w₀ w₁ at' := by
  obtain ⟨k, hk, hk', rfl⟩ := h
  exact ⟨k, Nat.le_trans hbefore hk, Nat.lt_of_lt_of_le hk' hafter, rfl⟩

theorem readBetween_now (kernel : KernelContext) (w : World) :
    ReadBetween kernel w w.tick (kernel.clock w.clockReadings) :=
  ⟨w.clockReadings, Nat.le_refl _, Nat.lt_succ_self _, rfl⟩

theorem ShowsDelivery.mono {authority : OutboxAuthority}
    (h : ShowsDelivery kernel principalId authority result w w')
    (hbefore : w₀.clockReadings ≤ w.clockReadings) (hsame : SameTables [.outboxEvents] w' w₁) :
    ShowsDelivery kernel principalId authority result w₀ w₁ := by
  obtain ⟨event, hevent, hid, hack, hleased, hexpiry, at', hat, hobserved, hlive⟩ := h
  rw [← hsame.table_eq OutboxEvent (by decide)] at hevent
  exact ⟨event, hevent, hid, hack, hleased, hexpiry, at', hat.mono hbefore hsame.clockReadings,
    hobserved, hlive⟩

/-- What a result shows is a matter of a few tables. -/
theorem ShowsAuthority.mono {command : KernelCommand}
    (h : ShowsAuthority kernel principalId result w w' command)
    (hbefore : w₀.clockReadings ≤ w.clockReadings)
    (hsame : SameTables [.attentions, .outboxEvents, .activationAttempts, .worktreeWriterLeases]
      w' w₁) : ShowsAuthority kernel principalId result w₀ w₁ command := by
  have hread : ∀ {at'}, ReadBetween kernel w w' at' → ReadBetween kernel w₀ w₁ at' :=
    fun hread => hread.mono hbefore hsame.clockReadings
  have hlease : ∀ worktreeId, (worktreeBook w₁.db).lease worktreeId =
      (worktreeBook w'.db).lease worktreeId := by
    intro worktreeId
    simp only [worktreeBook, hsame.table_eq WorktreeWriterLease (by decide)]
  have houtbox : SameTables [.outboxEvents] w' w₁ :=
    { hsame with tables := fun t ht => hsame.tables t (by simp_all) }
  have hshowsLease : ∀ {type worktreeId},
      ShowsLease kernel principalId type worktreeId result w w' →
      ShowsLease kernel principalId type worktreeId result w₀ w₁ := by
    rintro type worktreeId ⟨lease, at', hfound, hat, hlive, rfl⟩
    exact ⟨lease, at', (hlease _).trans hfound, hread hat, hlive, rfl⟩
  cases command with
  | ClaimAttention command =>
      obtain ⟨attention, hmem, hid, hopen, hholder, htoken, hexpiry, at', hat, hlive⟩ := h
      rw [← hsame.table_eq Attention (by decide)] at hmem
      exact ⟨attention, hmem, hid, hopen, hholder, htoken, hexpiry, at', hread hat, hlive⟩
  | ClaimOutboxEvents command =>
      intro view hview
      obtain ⟨event, hmem, hmap, hack, hleased, hexpiry, at', hat, hlive⟩ := h view hview
      rw [← hsame.table_eq OutboxEvent (by decide)] at hmem
      exact ⟨event, hmem, hmap, hack, hleased, hexpiry, at', hread hat, hlive⟩
  | StartActivation command => exact fun hrun => (h hrun).mono hbefore houtbox
  | StartProviderAttempt command =>
      cases h with
      | inl h => exact .inl (h.mono hbefore houtbox)
      | inr h =>
          obtain ⟨activation, hmem, hid, hrun, hexpiry, ⟨at', hat, hobserved⟩, at₁, hat₁, hlive⟩ :=
            h
          rw [← hsame.table_eq ActivationAttempt (by decide)] at hmem
          exact .inr ⟨activation, hmem, hid, hrun, hexpiry, ⟨at', hread hat, hobserved⟩, at₁,
            hread hat₁, hlive⟩
  | AcquireWorktreeWriterLease command => exact hshowsLease h
  | RenewWorktreeWriterLease command => exact hshowsLease h
  | QuarantineWorktreeWriterLease command =>
      obtain ⟨lease, at', hfound, hstatus, rfl⟩ := h
      exact ⟨lease, at', (hlease _).trans hfound, hstatus, rfl⟩
  | _ => trivial

theorem resolveCachedAttentionClaim_shows
    (h : resolveCachedAttentionClaim kernel result principal w = (.ok refreshed, w')) :
    ShowsClaim kernel principal.id refreshed w w' := by
  simp only [resolveCachedAttentionClaim, requireAttention, isAttentionDomainLeaseCurrent,
    bind_eq_ok, throwIf_eq_ok, requireRow_eq_ok, require_eq_ok, readClock_eq_ok,
    selectRow_eq_ok, pure_eq_ok] at h
  obtain ⟨_, _, ⟨htoken, rfl⟩, attention, _, ⟨hattention, rfl⟩, _, _, ⟨hheld, rfl⟩, expiresAt, _,
    ⟨hexpiry, rfl⟩, _, _, ⟨rfl, rfl⟩, _, _, ⟨hlive, rfl⟩, _, _, ⟨_, _, ⟨-, rfl⟩, -, rfl⟩, _, _,
    ⟨-, rfl⟩, rfl, rfl⟩ := h
  obtain ⟨hmem, hid⟩ := Table.find?_eq_some hattention
  simp only [not_or, ne_eq, Classical.not_not] at hheld htoken
  refine ⟨attention, hmem, of_decide_eq_true hid, hheld.1, hheld.2.1, ?_, hexpiry, _,
    readBetween_now kernel w, ?_⟩
  · exact hheld.2.2.trans (truthy_getD htoken).symm
  · simpa using hlive

theorem requireOutboxDeliveryAuthority_shows {command : OutboxAuthority} {runId : String}
    {authority : OutboxDeliveryAuthority}
    (h : requireOutboxDeliveryAuthority kernel command principal runId w =
      (.ok authority, w')) :
    w' = w.tick ∧ ∀ result : CommandResult,
      result.leaseExpiresAt = some authority.leaseExpiresAt →
      result.authorityObservedAt = some authority.observedAt →
      ShowsDelivery kernel principal.id command result w w.tick := by
  simp only [requireOutboxDeliveryAuthority, bind_eq_ok, requireKind_eq_ok,
    requireNonEmpty_eq_ok, requireOutboxEvent_eq_ok, readClock_eq_ok, throwIf_eq_ok,
    require_eq_ok, gets_eq_ok, pure_eq_ok] at h
  obtain ⟨_, _, ⟨-, rfl⟩, _, _, ⟨-, rfl⟩, _, _, ⟨-, rfl⟩, event, _, ⟨hevent, rfl⟩, _, _,
    ⟨rfl, rfl⟩, _, _, ⟨hheld, rfl⟩, expiry, _, ⟨hlease, rfl⟩, _, _, ⟨hlive, rfl⟩, _, _, ⟨-, rfl⟩,
    _, _, ⟨-, rfl⟩, _, _, ⟨-, rfl⟩, _, _, ⟨-, rfl⟩, _, _, ⟨-, rfl⟩, _, _, ⟨-, rfl⟩, rfl, rfl⟩ := h
  obtain ⟨hmem, hid⟩ := Table.find?_eq_some hevent
  simp only [not_or, Bool.not_eq_true, Bool.not_eq_false, Option.isSome_eq_false_iff,
    Option.isNone_iff_eq_none] at hheld
  refine ⟨rfl, fun result hexpiry hobserved => ?_⟩
  refine ⟨event, hmem, of_decide_eq_true hid, hheld.1, hheld.2, hlease.trans hexpiry.symm, _,
    readBetween_now kernel w, hobserved, ?_⟩
  simp [OutboxEvent.leaseLive, hlease, Nat.lt_of_not_le hlive]

theorem resolveCachedActivation_shows {command : StartActivationCommand}
    (hrun : truthy command.runId = true)
    (h : resolveCachedActivation kernel command result principal w = (.ok refreshed, w')) :
    ShowsDelivery kernel principal.id command.toOutboxAuthority refreshed w w' := by
  simp only [resolveCachedActivation, hrun, not_true_eq_false, if_false, bind_eq_ok,
    throwIf_eq_ok, requireOutboxActivationAuthority, selectRow_eq_ok, pure_eq_ok] at h
  obtain ⟨activation, w₁, hactivation, _, w₂, hscope, _, _, ⟨-, rfl⟩, _, w₃,
    ⟨authority, w₄, hauthority, _, _, ⟨-, rfl⟩, _, _, ⟨-, rfl⟩, rfl, rfl⟩, rfl, rfl⟩ := h
  have hbefore : w.clockReadings ≤ w₂.clockReadings :=
    Nat.le_trans (Within.of_eq (R := Frame []) hactivation).clockReadings
      (Within.of_eq (R := Frame []) hscope).clockReadings
  obtain ⟨rfl, hshows⟩ := requireOutboxDeliveryAuthority_shows hauthority
  exact (hshows _ rfl rfl).mono hbefore (refl_of _ _)

/-- An Activation whose scope is current has not expired. -/
theorem assertActivationScopeCurrent_eq_ok {activation : ActivationAttempt} {u : Unit}
    (h : assertActivationScopeCurrent kernel activation w = (.ok u, w')) :
    ∃ at', ReadBetween kernel w w' at' ∧ at' < activation.expiresAt := by
  simp only [assertActivationScopeCurrent, bind_eq_ok, readClock_eq_ok, reject_eq_ok,
    Option.map_eq_none_iff] at h
  obtain ⟨scope, w₁, hscope, _, _, ⟨rfl, rfl⟩, hvalid, rfl⟩ := h
  refine ⟨_, (readBetween_now kernel w₁).mono
    (Within.of_eq (R := Frame []) hscope).clockReadings (Nat.le_refl _), ?_⟩
  unfold activationValidityAt at hvalid
  by_contra hexpired
  rw [if_pos (Nat.le_of_not_lt hexpired)] at hvalid
  split at hvalid
  · cases hvalid
  · split at hvalid <;> cases hvalid

theorem resolveCachedProviderAttempt_shows {command : StartProviderAttemptCommand}
    (h : resolveCachedProviderAttempt kernel command result principal context w =
      (.ok refreshed, w')) :
    ShowsDelivery kernel principal.id command.toOutboxAuthority refreshed w w' ∨
      ShowsActivation kernel command.activationId refreshed w w' := by
  simp only [resolveCachedProviderAttempt, bind_eq_ok, throwIf_eq_ok, pure_eq_ok] at h
  obtain ⟨activation, w₁, hactivation, _, w₂, hactor, _, w₃, hscope, authority, w₄, hauthority,
    attempt, w₅, hattempt, _, _, ⟨-, rfl⟩, rfl, rfl⟩ := h
  have hbefore : w.clockReadings ≤ w₂.clockReadings :=
    Nat.le_trans (Within.of_eq (R := Frame []) hactivation).clockReadings
      (Within.of_eq (R := Frame []) hactor).clockReadings
  have hbetween : w₂.clockReadings ≤ w₃.clockReadings :=
    (Within.of_eq (R := Frame []) hscope).clockReadings
  obtain rfl : w₄ = w₅ := (requireRow_eq_ok.mp hattempt).2
  cases hrun : activation.runId with
  | some runId =>
      rw [hrun] at hauthority
      simp only [providerAttemptAuthority, Option.elim_some, requireOutboxProviderAuthority,
        bind_eq_ok, throwIf_eq_ok, pure_eq_ok] at hauthority
      obtain ⟨delivery, w₆, hdelivery, _, _, ⟨-, rfl⟩, rfl, rfl⟩ := hauthority
      obtain ⟨rfl, hshows⟩ := requireOutboxDeliveryAuthority_shows hdelivery
      exact .inl ((hshows _ rfl rfl).mono (Nat.le_trans hbefore hbetween) (refl_of _ _))
  | none =>
      rw [hrun] at hauthority
      simp only [providerAttemptAuthority, Option.elim_none, bind_eq_ok, throwIf_eq_ok,
        readClock_eq_ok, requireActivation, requireRow_eq_ok, pure_eq_ok] at hauthority
      obtain ⟨_, _, ⟨-, rfl⟩, _, _, ⟨rfl, rfl⟩, again, _, ⟨hagain, rfl⟩, rfl, rfl⟩ := hauthority
      obtain ⟨hmem, hid⟩ := Table.find?_eq_some hagain
      simp only [requireLiveActivation, requireActivation, bind_eq_ok, requireRow_eq_ok,
        throwIf_eq_ok, pure_eq_ok] at hactivation
      obtain ⟨_, _, ⟨hfound, rfl⟩, _, _, ⟨-, rfl⟩, rfl, rfl⟩ := hactivation
      have hsame : w₃.db.table ActivationAttempt = w.db.table ActivationAttempt :=
        ((Within.of_eq (R := Frame [.activationAttempts]) hscope).table_eq ActivationAttempt
          (by decide)).trans
          ((Within.of_eq (R := Frame [.activationAttempts]) hactor).table_eq ActivationAttempt
            (by decide))
      rw [World.tick_db, hsame, hfound] at hagain
      cases hagain
      obtain ⟨at', hat, hlive⟩ := assertActivationScopeCurrent_eq_ok hscope
      refine .inr ⟨again, hmem, of_decide_eq_true hid, hrun, rfl, ⟨_, ?_, rfl⟩, at', ?_, hlive⟩
      · exact (readBetween_now kernel w₃).mono (Nat.le_trans hbefore hbetween) (Nat.le_refl _)
      · exact hat.mono hbefore (Nat.le_succ _)

theorem renewOutboxClaim_shows {command : ClaimOutboxEventsCommand} {now : Timestamp}
    {rows : List OutboxEvent} {ids : List String} (hordered : OutboxOrdered w.db)
    (hnow : ReadBetween kernel w₀ w now)
    (h : renewOutboxClaim kernel command result principal now rows ids w =
      (.ok refreshed, w')) : ShowsBatch kernel principal.id refreshed w₀ w' := by
  obtain ⟨leaseToken, leaseExpiresAt, events, w₁, htoken, hlater, hids, hlease, hevents, rfl⟩ :=
    renewOutboxClaim_result h
  have hbatch := List.take_prefix ids.length (pendingOutboxEvents w.db)
  obtain ⟨table, rfl, htable⟩ :=
    leaseOutboxEvents_eq_ok (hids ▸ nodup_batch_ids hordered hbatch) hlease
  obtain ⟨rfl, hsame, hmem⟩ := mapEach_requireOutboxEvent hevents
  intro view hview
  obtain ⟨event, hevent, rfl⟩ := List.mem_map.mp hview
  have hstored := hmem event hevent
  rw [World.store_db, Database.table_set_same, ← Table.mem_rows, htable] at hstored
  obtain ⟨r, hr, hleased⟩ := List.mem_map.mp hstored
  have hid : event.id ∈ ids := hsame ▸ List.mem_map_of_mem hevent
  have hrid : r.id ∈ ids := by
    subst hleased
    split at hid
    · exact hid
    · exact hid
  rw [if_pos hrid] at hleased
  -- the row with an identifier of the batch is the pending one
  rw [← hids] at hrid
  obtain ⟨pending, hpending, heq⟩ := List.mem_map.mp hrid
  obtain ⟨hrow, hwaiting⟩ := mem_pendingOutboxEvents.mp (hbatch.subset hpending)
  obtain rfl := outbox_eq_of_id hrow hr heq
  refine ⟨event, hmem event hevent, rfl, ?_, ?_, ?_, now, ?_, ?_⟩
  · rw [← hleased]
    exact hwaiting
  · rw [← hleased]
    simp [OutboxEvent.leasedTo, OutboxEvent.leaseTo]
  · rw [← hleased]
    rfl
  · exact hnow.mono (Nat.le_refl _) (Nat.le_refl _)
  · rw [← hleased]
    simpa [OutboxEvent.leaseLive, OutboxEvent.leaseTo] using hlater

theorem resolveCachedOutboxClaim_shows {command : ClaimOutboxEventsCommand}
    (hordered : OutboxOrdered w.db) (htoken : truthy result.leaseToken = true)
    (h : resolveCachedOutboxClaim kernel command result principal w = (.ok refreshed, w')) :
    ShowsBatch kernel principal.id refreshed w w' := by
  obtain ⟨hempty, rfl⟩ | ⟨rows, hids, hrows, ⟨hheld, h⟩ | h⟩ := resolveCachedOutboxClaim_cases h
  · intro view hview
    cases hevents : refreshed.outboxEvents with
    | none => simp [hevents] at hview
    | some events => simp_all
  · obtain ⟨rfl, leaseExpiresAt, hexpiry, rfl⟩ := replayLiveOutboxClaim_eq_ok h
    intro view hview
    obtain ⟨event, hevent, rfl⟩ := List.mem_map.mp hview
    obtain ⟨hmem, hwaiting⟩ := hrows event hevent
    have hheld := List.all_eq_true.mp hheld event hevent
    rw [Bool.and_eq_true] at hheld
    exact ⟨event, hmem, rfl, hwaiting, hheld.1, hexpiry event hevent, _,
      readBetween_now kernel w, hheld.2⟩
  · exact renewOutboxClaim_shows (w := w.tick) hordered (readBetween_now kernel w) h

/-- The authority of a replayed result is what the database holds. -/
theorem resolveCachedResult_shows {command : KernelCommand} (hordered : OutboxOrdered w.db)
    (htoken : command.type = .ClaimOutboxEvents → truthy result.leaseToken = true)
    (h : resolveCachedResult kernel command result principal context w = (.ok refreshed, w')) :
    ShowsAuthority kernel principal.id refreshed w w' command := by
  cases command with
  | ClaimAttention command => exact resolveCachedAttentionClaim_shows h
  | ClaimOutboxEvents command => exact resolveCachedOutboxClaim_shows hordered (htoken rfl) h
  | StartActivation command => exact fun hrun => resolveCachedActivation_shows hrun h
  | StartProviderAttempt command => exact resolveCachedProviderAttempt_shows h
  | AcquireWorktreeWriterLease command =>
      obtain ⟨lease, hlease, hlive, -, rfl, rfl⟩ :=
        resolveCachedWorktreeWriterLeaseAuthority_eq_ok h nofun
      exact ⟨lease, _, hlease, readBetween_now kernel w, hlive, rfl⟩
  | RenewWorktreeWriterLease command =>
      obtain ⟨lease, hlease, hlive, -, rfl, rfl⟩ :=
        resolveCachedWorktreeWriterLeaseAuthority_eq_ok h nofun
      exact ⟨lease, _, hlease, readBetween_now kernel w, hlive, rfl⟩
  | QuarantineWorktreeWriterLease command =>
      obtain ⟨lease, hlease, hstatus, -, rfl, rfl⟩ :=
        resolveCachedWorktreeWriterLeaseQuarantine_eq_ok h
      exact ⟨lease, _, hlease, hstatus, rfl⟩
  | _ => trivial

end Shows

end Torsor.Kernel
