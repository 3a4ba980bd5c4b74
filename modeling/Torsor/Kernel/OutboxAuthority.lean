import Torsor.Kernel.OutboxQueue

/-! # Who may acknowledge and deliver Outbox events

An event is acknowledged once, after all older ones, by the Runtime principal that holds
the live lease on its whole batch. While the clock does not go back, all live leases are one
lease, on the oldest pending events, so one token at a time passes the checks of the Outbox.
-/

namespace Torsor.Kernel

open Torsor.Library Tx

/-! ## Acknowledged events -/

/-- The lease of `principal` under the token of `command` is on every event the command names,
none of which is acknowledged, and is live at a reading of the clock between `w` and `w'`. -/
structure HoldsLiveLease (kernel : KernelContext) (command : AcknowledgeOutboxEventsCommand)
    (principal : Principal) (w w' : World) : Prop where
  runtime : principal.kind = .runtime
  events : ∀ id ∈ command.outboxEventIds, ∃ r ∈ w.db.table OutboxEvent, r.id = id ∧
    r.acknowledgedAt = none ∧ r.leaseHolderPrincipalId = some principal.id ∧
    r.leaseToken = some command.leaseToken ∧
    ∃ k, w.clockReadings ≤ k ∧ k < w'.clockReadings ∧ r.leaseLive (kernel.clock k) = true

/-- The event `r'`, acknowledged in `w'`, is acknowledged by `call` with its whole batch. -/
def AcknowledgedBy (kernel : KernelContext) (call : KernelCall) (w w' : World)
    (r' : OutboxEvent) : Prop :=
  ∃ command context operationContext principal,
    call = .execute (.AcknowledgeOutboxEvents command) context operationContext ∧
    principal ∈ w.db.table Principal ∧ principal.id = context.principalId ∧
    HoldsLiveLease kernel command principal w w' ∧ r'.id ∈ command.outboxEventIds ∧
    r'.acknowledgedByPrincipalId = some principal.id

section Acknowledged

set_option synthInstance.maxSize 100000

variable {kernel : KernelContext} {w w' : World}

theorem Steps.outbox_extends (h : Reachable kernel w) (hs : Steps kernel w w') :
    Extends (outboxQueue w.db) (outboxQueue w'.db) := by
  induction hs with
  | refl => exact Extends.refl _
  | tail hrun hcall ih =>
      obtain ⟨call, rfl⟩ := hcall
      have hsteps := ((step_outbox kernel call _).2 (h.steps hrun).outboxOrdered).2
      exact ih.trans hsteps.extends_start

/-- An acknowledgement touches the Outbox when it succeeds for the first time only. -/
theorem acknowledge_outcome (command : AcknowledgeOutboxEventsCommand)
    (context : PrincipalContext) (operationContext : Option KernelOperationContext)
    (w : World) :
    let w' := step kernel (.execute (.AcknowledgeOutboxEvents command) context
      operationContext) w
    SameTables [.outboxEvents] w w' ∨
    ∃ principal correlationId dispatched w₁ w₂,
      (w.db.table Principal).find? (fun r => r.id = context.principalId) = some principal ∧
      SameTables [.outboxEvents] w w₁ ∧
      acknowledgeOutboxEvents kernel command principal correlationId w₁ =
        (.ok dispatched, w₂) ∧
      SameTables [.outboxEvents] w₂ w' := by
  have hreplay : ∀ result principal context, Commits (SameTables [.outboxEvents])
      (resolveCachedResult kernel (.AcknowledgeOutboxEvents command) result principal
        context) := by
    intro result principal context
    unfold resolveCachedResult
    infer_instance
  have hplain : ∀ principal context correlationId, Plain (dispatchCommand kernel
      (.AcknowledgeOutboxEvents command) context principal correlationId) := by
    intro principal context correlationId
    unfold dispatchCommand
    infer_instance
  have hissued : KernelCall.issued (.execute (.AcknowledgeOutboxEvents command) context
      operationContext) = some ⟨.AcknowledgeOutboxEvents command, context, operationContext⟩ := rfl
  obtain hsame | ⟨principal, correlationId, dispatched, w₁, w₂, hprincipal, hbefore, -, h⟩ :=
    step_outcome kernel (SameTables [.outboxEvents]) hissued w
  · exact .inl hsame
  · exact .inr ⟨principal, correlationId, dispatched, w₁, w₂, hprincipal, hbefore, h⟩

theorem not_acknowledges {call : KernelCall}
    (hcall : ∀ command context operationContext,
      call ≠ .execute (.AcknowledgeOutboxEvents command) context operationContext)
    (holder token : String) (items : List OutboxItem) (receipt : OutboxReceipt) :
    ¬ call.acknowledges w holder token items receipt := by
  rintro ⟨issued, principal, hissued, -, hadmits⟩
  cases call with
  | execute command context operationContext =>
      cases hissued
      cases command with
      | AcknowledgeOutboxEvents command => exact hcall command context operationContext rfl
      | _ => exact hadmits
  | publishReport =>
      cases hissued
      exact hadmits
  | _ => cases hissued

/-- An acknowledged event was acknowledged before the call, or by it. -/
theorem step_acknowledged (h : Reachable kernel w) (call : KernelCall) {r' : OutboxEvent}
    (hr' : r' ∈ (step kernel call w).db.table OutboxEvent) (hack : r'.acknowledgedAt ≠ none) :
    (∃ r ∈ w.db.table OutboxEvent, r.item = r'.item ∧ r.acknowledgedAt = r'.acknowledgedAt ∧
      r.acknowledgedByPrincipalId = r'.acknowledgedByPrincipalId) ∨
    AcknowledgedBy kernel call w (step kernel call w) r' := by
  by_cases hcall : ∀ command context operationContext,
      call ≠ .execute (.AcknowledgeOutboxEvents command) context operationContext
  · left
    have hsteps := ((step_outbox kernel call w).2 h.outboxOrdered).2
    obtain ⟨at', hat'⟩ := Option.ne_none_iff_exists'.mp hack
    obtain ⟨e, he, hitem, hreceipt⟩ := hsteps.receipt_of_not_admits
      (not_acknowledges hcall) (List.mem_map_of_mem hr')
      (r := (at', r'.acknowledgedByPrincipalId)) (by simp [OutboxEvent.entry, hat'])
    obtain ⟨r, hr, rfl⟩ := List.mem_map.mp he
    refine ⟨r, hr, hitem, ?_⟩
    simp only [OutboxEvent.entry, Option.map_eq_some_iff, Prod.mk.injEq] at hreceipt
    obtain ⟨at₀, hat₀, rfl, hby⟩ := hreceipt
    exact ⟨hat₀.trans hat'.symm, hby⟩
  · simp only [not_forall, not_not] at hcall
    obtain ⟨command, context, operationContext, rfl⟩ := hcall
    obtain hsame | ⟨principal, correlationId, dispatched, w₁, w₂, hprincipal, hbefore,
      hdispatch, hafter⟩ := acknowledge_outcome command context operationContext w
    · rw [hsame.table_eq OutboxEvent (List.mem_singleton.mpr rfl)] at hr'
      exact .inl ⟨r', hr', rfl, rfl, rfl⟩
    · obtain ⟨hkind, -, batch, rest, at', hids, hpending, hheld, -, hrows⟩ :=
        acknowledgeOutboxEvents_eq_ok hdispatch
      have htable := hbefore.table_eq OutboxEvent (List.mem_singleton.mpr rfl)
      rw [hafter.table_eq OutboxEvent (List.mem_singleton.mpr rfl), ← Table.mem_rows, hrows,
        htable] at hr'
      obtain ⟨r, hr, hrr'⟩ := List.mem_map.mp hr'
      obtain ⟨hmem, hid⟩ := Table.find?_eq_some hprincipal
      by_cases hbatch : r.id ∈ batch.map (·.id)
      · right
        rw [if_pos hbatch] at hrr'
        subst hrr'
        refine ⟨command, context, operationContext, principal, rfl, hmem,
          of_decide_eq_true hid, ⟨hkind, ?_⟩, hids ▸ hbatch, rfl⟩
        intro id hid
        rw [← hids] at hid
        obtain ⟨b, hb, rfl⟩ := List.mem_map.mp hid
        obtain ⟨hleased, k, hstart, hend, hlive⟩ := hheld b hb
        obtain ⟨hholder, htoken⟩ := b.leasedTo_iff.mp hleased
        obtain ⟨hrow, hwaiting⟩ := mem_pendingOutboxEvents.mp
          (hpending ▸ List.mem_append_left rest hb : b ∈ pendingOutboxEvents w₁.db)
        exact ⟨b, htable ▸ hrow, rfl, hwaiting, hholder, htoken, k,
          Nat.le_trans hbefore.clockReadings hstart,
          Nat.lt_of_lt_of_le hend hafter.clockReadings, hlive⟩
      · left
        rw [if_neg hbatch] at hrr'
        subst hrr'
        exact ⟨r, hr, rfl, rfl, rfl⟩

/-- What holds of the Outbox in a state and in all runs from it. -/
structure OutboxInOrder (kernel : KernelContext) (w : World) : Prop where
  sorted : (w.db.table OutboxEvent).rows.Pairwise fun a b => a.sequence < b.sequence
  acknowledged_first : ∃ done pending, (w.db.table OutboxEvent).rows = done ++ pending ∧
    (∀ r ∈ done, r.acknowledgedAt ≠ none) ∧ ∀ r ∈ pending, r.acknowledgedAt = none
  /-- No event is lost or moved, and an acknowledgement is final. -/
  kept : ∀ w', Steps kernel w w' → Extends (outboxQueue w.db) (outboxQueue w'.db)
  acknowledged_by : ∀ call r', r' ∈ (step kernel call w).db.table OutboxEvent →
    r'.acknowledgedAt ≠ none →
    (∃ r ∈ w.db.table OutboxEvent, r.item = r'.item ∧
      r.acknowledgedAt = r'.acknowledgedAt ∧
      r.acknowledgedByPrincipalId = r'.acknowledgedByPrincipalId) ∨
    AcknowledgedBy kernel call w (step kernel call w) r'

/-- The acknowledged events are a prefix of the Outbox in sequence order. Over any run no
event is lost, moved or acknowledged again, and whatever a call acknowledges it does for a
Runtime principal that holds a live lease on the whole batch. -/
theorem outbox_in_order (h : Reachable kernel w) : OutboxInOrder kernel w := by
  obtain ⟨done, hrows, hdone⟩ := outbox_split h.outboxOrdered
  exact
    { sorted := h.outboxOrdered.sorted
      acknowledged_first :=
        ⟨done, _, hrows, hdone, fun r hr => (mem_pendingOutboxEvents.mp hr).2⟩
      kept := fun w' hs => hs.outbox_extends h
      acknowledged_by := fun call r' => step_acknowledged h call }

end Acknowledged

/-- The Runtime has leased the event of the Thread. -/
def claimedWorld : World :=
  step countingKernel
    (.execute (.ClaimOutboxEvents { idempotencyKey := "claim", leaseDurationMs := 30000 })
      { principalId := "runtime" } none)
    threadWorld

theorem claimedWorld_reachable : Reachable countingKernel claimedWorld :=
  threadWorld_reachable.step _

example : (claimedWorld.db.table OutboxEvent).rows.map (·.leaseHolderPrincipalId) =
    [some "runtime"] := by
  decide +kernel

theorem claimedWorld_outbox_in_order : OutboxInOrder countingKernel claimedWorld :=
  outbox_in_order claimedWorld_reachable

/-! ## Checks of a lease -/

/-- A pending event is leased to the principal under the token, and live at some reading that
is not taken yet. -/
def HeldLive (kernel : KernelContext) (w : World) (principalId : String)
    (leaseToken : Option String) : Prop :=
  ∃ r ∈ pendingOutboxEvents w.db, r.leasedTo principalId leaseToken = true ∧
    ∃ k, w.clockReadings ≤ k ∧ r.leaseLive (kernel.clock k) = true

section Held

set_option synthInstance.maxSize 100000

variable {kernel : KernelContext} {w w' : World} {principal : Principal}

theorem HeldLive.of_same {principalId : String} {leaseToken : Option String}
    (hsame : SameTables [.outboxEvents] w w') (h : HeldLive kernel w' principalId leaseToken) :
    HeldLive kernel w principalId leaseToken := by
  obtain ⟨r, hr, hleased, k, hk, hlive⟩ := h
  refine ⟨r, ?_, hleased, k, Nat.le_trans hsame.clockReadings hk, hlive⟩
  rw [pendingOutboxEvents, hsame.table_eq OutboxEvent (List.mem_singleton.mpr rfl)] at hr
  exact hr

theorem requireOutboxDeliveryAuthority_live {command : OutboxAuthority} {runId : String}
    {authority : OutboxDeliveryAuthority}
    (h : requireOutboxDeliveryAuthority kernel command principal runId w =
      (.ok authority, w')) :
    HeldLive kernel w principal.id command.outboxLeaseToken := by
  simp only [requireOutboxDeliveryAuthority, bind_eq_ok, requireKind_eq_ok,
    requireNonEmpty_eq_ok, requireOutboxEvent_eq_ok, readClock_eq_ok, throwIf_eq_ok,
    require_eq_ok] at h
  obtain ⟨_, _, ⟨-, rfl⟩, _, _, ⟨-, rfl⟩, _, _, ⟨-, rfl⟩, event, _, ⟨hevent, rfl⟩, _, _,
    ⟨rfl, rfl⟩, _, _, ⟨hheld, rfl⟩, expiry, _, ⟨hexpiry, rfl⟩, _, _, ⟨hlive, rfl⟩, -⟩ := h
  simp only [not_or, Bool.not_eq_true, Bool.not_eq_false, Option.isSome_eq_false_iff,
    Option.isNone_iff_eq_none] at hheld
  refine ⟨event, mem_pendingOutboxEvents.mpr ⟨(Table.find?_eq_some hevent).1, hheld.1⟩,
    hheld.2, w.clockReadings, Nat.le_refl _, ?_⟩
  simp [OutboxEvent.leaseLive, hexpiry, Nat.lt_of_not_le hlive]

theorem requireOutboxActivationAuthority_live {command : OutboxAuthority} {runId : String}
    {authority : DeliveryAuthority}
    (h : requireOutboxActivationAuthority kernel command principal runId w =
      (.ok authority, w')) :
    HeldLive kernel w principal.id command.outboxLeaseToken := by
  simp only [requireOutboxActivationAuthority, bind_eq_ok] at h
  obtain ⟨_, _, h, -⟩ := h
  exact requireOutboxDeliveryAuthority_live h

theorem requireOutboxProviderAuthority_live {command : OutboxAuthority} {runId : String}
    {runInputIds : List String} {authority : DeliveryAuthority}
    (h : requireOutboxProviderAuthority kernel command principal runId runInputIds w =
      (.ok authority, w')) :
    HeldLive kernel w principal.id command.outboxLeaseToken := by
  simp only [requireOutboxProviderAuthority, bind_eq_ok] at h
  obtain ⟨_, _, h, -⟩ := h
  exact requireOutboxDeliveryAuthority_live h

theorem startActivation_live {command : StartActivationCommand} {correlationId : String}
    {result : CommandResult} (hrun : truthy command.runId = true)
    (h : startActivation kernel command principal correlationId w = (.ok result, w')) :
    HeldLive kernel w principal.id command.outboxLeaseToken := by
  simp only [startActivation, hrun, if_true, bind_eq_ok, requireKind_eq_ok, throwIf_eq_ok,
    boundedDuration_eq_ok, readClock_eq_ok, startRunActivation] at h
  obtain ⟨_, _, ⟨-, rfl⟩, _, _, ⟨-, rfl⟩, _, _, ⟨-, -, rfl⟩, _, _, ⟨-, rfl⟩, _, _, ⟨-, rfl⟩,
    run, w₁, hrequire, authority, w₂, hauthority, -⟩ := h
  have hsame : SameTables [.outboxEvents] w w₁ :=
    trans_of _ (Within.of_eq (m := kernel.readClock) (readClock_eq_ok.mpr ⟨rfl, rfl⟩))
      (Within.of_eq hrequire)
  exact (requireOutboxActivationAuthority_live hauthority).of_same hsame

theorem resolveCachedActivation_live {command : StartActivationCommand}
    {cached result : CommandResult} (hrun : truthy command.runId = true)
    (h : resolveCachedActivation kernel command cached principal w = (.ok result, w')) :
    HeldLive kernel w principal.id command.outboxLeaseToken := by
  simp only [resolveCachedActivation, hrun, not_true_eq_false, if_false, bind_eq_ok,
    throwIf_eq_ok] at h
  obtain ⟨activation, w₁, hrequire, _, w₂, hscope, _, _, ⟨-, rfl⟩, authority, w₃, hauthority,
    -⟩ := h
  have hsame : SameTables [.outboxEvents] w w₂ :=
    trans_of _ (Within.of_eq hrequire) (Within.of_eq hscope)
  exact (requireOutboxActivationAuthority_live hauthority).of_same hsame

/-- An Attention's attempt is refused when it carries a lease token of the Outbox. -/
theorem providerAttemptAuthority_live {command : StartProviderAttemptCommand} {token : String}
    {runId : Option String} {runInputIds : List String} {authority : DeliveryAuthority}
    (htoken : command.outboxLeaseToken = some token)
    (h : providerAttemptAuthority kernel command principal runId runInputIds w =
      (.ok authority, w')) :
    HeldLive kernel w principal.id command.outboxLeaseToken := by
  cases runId with
  | none =>
      simp [providerAttemptAuthority, htoken] at h
  | some runId => exact requireOutboxProviderAuthority_live h

theorem startProviderAttempt_live {command : StartProviderAttemptCommand} {token : String}
    {context : PrincipalContext} {correlationId : String} {result : CommandResult}
    (htoken : command.outboxLeaseToken = some token)
    (h : startProviderAttempt kernel command principal context correlationId w =
      (.ok result, w')) :
    HeldLive kernel w principal.id command.outboxLeaseToken := by
  simp only [startProviderAttempt, bind_eq_ok] at h
  obtain ⟨activation, w₁, hrequire, _, w₂, hactor, _, w₃, hscope, authority, w₄, hauthority,
    -⟩ := h
  have hsame : SameTables [.outboxEvents] w w₃ := trans_of _
    (trans_of _ (Within.of_eq hrequire) (Within.of_eq hactor)) (Within.of_eq hscope)
  exact (providerAttemptAuthority_live htoken hauthority).of_same hsame

theorem resolveCachedProviderAttempt_live {command : StartProviderAttemptCommand}
    {token : String} {context : PrincipalContext} {cached result : CommandResult}
    (htoken : command.outboxLeaseToken = some token)
    (h : resolveCachedProviderAttempt kernel command cached principal context w =
      (.ok result, w')) :
    HeldLive kernel w principal.id command.outboxLeaseToken := by
  simp only [resolveCachedProviderAttempt, bind_eq_ok] at h
  obtain ⟨activation, w₁, hrequire, _, w₂, hactor, _, w₃, hscope, authority, w₄, hauthority,
    -⟩ := h
  have hsame : SameTables [.outboxEvents] w w₃ := trans_of _
    (trans_of _ (Within.of_eq hrequire) (Within.of_eq hactor)) (Within.of_eq hscope)
  exact (providerAttemptAuthority_live htoken hauthority).of_same hsame

theorem acknowledgeOutboxEvents_live {command : AcknowledgeOutboxEventsCommand}
    {correlationId : String} {result : CommandResult}
    (h : acknowledgeOutboxEvents kernel command principal correlationId w = (.ok result, w')) :
    HeldLive kernel w principal.id (some command.leaseToken) := by
  obtain ⟨-, hne, batch, rest, at', hids, hpending, hheld, -⟩ :=
    acknowledgeOutboxEvents_eq_ok h
  have hbatch : batch ≠ [] := by
    rintro rfl
    exact hne hids.symm
  obtain ⟨r, hr⟩ := List.exists_mem_of_ne_nil batch hbatch
  obtain ⟨hleased, k, hk, -, hlive⟩ := hheld r hr
  exact ⟨r, hpending ▸ List.mem_append_left rest hr, hleased, k, hk, hlive⟩

/-- A replay of a claim that leaves the Outbox as it is answers with a live lease. -/
theorem resolveCachedOutboxClaim_live {command : ClaimOutboxEventsCommand}
    {cached result : CommandResult} (htoken : truthy cached.leaseToken = true)
    (hevents : cached.outboxEvents.all (·.isEmpty) = false)
    (hordered : OutboxOrdered w.db)
    (hsame : w'.db.table OutboxEvent = w.db.table OutboxEvent)
    (h : resolveCachedOutboxClaim kernel command cached principal w = (.ok result, w')) :
    HeldLive kernel w principal.id cached.leaseToken := by
  obtain ⟨first, others, hcached⟩ : ∃ first others,
      cached.outboxEvents.getD [] = first :: others := by
    cases hlist : cached.outboxEvents with
    | none => simp [hlist] at hevents
    | some events =>
        cases events with
        | nil => simp [hlist] at hevents
        | cons first others => exact ⟨first, others, rfl⟩
  have hguard : ¬ (¬ truthy cached.leaseToken = true ∨
      cached.outboxEvents.all (·.isEmpty) = true) := by
    simp [htoken, hevents]
  rw [resolveCachedOutboxClaim, if_neg hguard] at h
  simp only [bind_eq_ok, readClock_eq_ok, throwIf_eq_ok] at h
  obtain ⟨_, _, ⟨rfl, rfl⟩, found, _, hfound, _, _, ⟨hpending, rfl⟩, h⟩ := h
  rw [mapEach_of_reads _ fun id => selectRow_eq_ok.mpr ⟨rfl, rfl⟩] at hfound
  obtain ⟨rfl, rfl⟩ := pure_eq_ok.mp hfound
  have hfirst := List.mem_map_of_mem
    (f := fun id => (w.tick.db.table OutboxEvent).find? fun r => r.id = id)
    (show first.id ∈ (cached.outboxEvents.getD []).map (·.id) by rw [hcached]; simp)
  have hrow : ¬ ((w.tick.db.table OutboxEvent).find? fun r => r.id = first.id).all
      (·.acknowledgedAt.isSome) = true :=
    fun hrow => hpending (List.any_eq_true.mpr ⟨_, hfirst, hrow⟩)
  obtain ⟨r, hfind, hwaiting⟩ : ∃ r,
      ((w.tick.db.table OutboxEvent).find? fun r => r.id = first.id) = some r ∧
        r.acknowledgedAt = none := by
    cases hfind : (w.tick.db.table OutboxEvent).find? fun r => r.id = first.id with
    | none =>
        rw [hfind] at hrow
        exact absurd rfl hrow
    | some r =>
        rw [hfind] at hrow
        exact ⟨r, rfl, by simpa using hrow⟩
  obtain ⟨hmem, hid⟩ := Table.find?_eq_some hfind
  split at h
  · rename_i hall
    have hheld := List.all_eq_true.mp hall r (List.reduceOption_mem_iff.mpr (hfind ▸ hfirst))
    rw [Bool.and_eq_true] at hheld
    exact ⟨r, mem_pendingOutboxEvents.mpr ⟨hmem, hwaiting⟩, hheld.1, w.clockReadings,
      Nat.le_refl _, hheld.2⟩
  · -- a renewal counts one more delivery of every event of the batch
    have hrows : ∀ r ∈ w.tick.db.table OutboxEvent,
        r.id ∈ (cached.outboxEvents.getD []).map (·.id) →
        r ∈ (((cached.outboxEvents.getD []).map (·.id)).map fun id =>
          (w.tick.db.table OutboxEvent).find? fun r => r.id = id).reduceOption :=
      fun r hr hid => List.reduceOption_mem_iff.mpr
        (List.mem_map.mpr ⟨r.id, hid, outbox_find?_id hr⟩)
    obtain ⟨batch, leaseToken, leaseExpiresAt, table, hbatch, hids, -, rfl, htable⟩ :=
      renewOutboxClaim_eq_ok kernel (w := w.tick) hordered hrows h
    have hleased : r.leaseTo principal.id leaseToken leaseExpiresAt ∈ table := by
      rw [← Table.mem_rows, htable]
      refine List.mem_map.mpr ⟨r, hmem, if_pos ?_⟩
      rw [hids, hcached, of_decide_eq_true hid]
      exact List.mem_map_of_mem List.mem_cons_self
    rw [World.store_db, Database.table_set_same] at hsame
    rw [hsame] at hleased
    have hcount := congrArg OutboxEvent.deliveryAttempts (outbox_eq_of_id hleased hmem rfl)
    exact absurd hcount (Nat.succ_ne_self _)

end Held

/-! ## One lease at a time -/

/-- A command of `context` in `w` that only succeeds under a lease of the Outbox: a first
acknowledgement, a replay of a claim that leaves the lease of its batch as it is, or the
admission of a delivery to a Run. -/
inductive PassesUnder (kernel : KernelContext) (w : World) (context : PrincipalContext) :
    String → Prop
  | acknowledge {command : AcknowledgeOutboxEventsCommand}
      {operationContext : Option KernelOperationContext} {result : CommandResult} {w' : World}
      (hnew : (w.db.table IdempotencyRecord).find? (IdempotencyRecord.isOf context.principalId
        (.AcknowledgeOutboxEvents command)) = none)
      (h : execute kernel (.AcknowledgeOutboxEvents command) context operationContext w =
        (.ok result, w')) : PassesUnder kernel w context command.leaseToken
  | claimReplay {command : ClaimOutboxEventsCommand}
      {operationContext : Option KernelOperationContext} {result : CommandResult} {w' : World}
      {cached : IdempotencyRecord} {token : String}
      (hcached : (w.db.table IdempotencyRecord).find? (IdempotencyRecord.isOf
        context.principalId (.ClaimOutboxEvents command)) = some cached)
      (htoken : cached.result.leaseToken = some token) (hne : token ≠ "")
      (hevents : cached.result.outboxEvents.all (·.isEmpty) = false)
      (hsame : w'.db.table OutboxEvent = w.db.table OutboxEvent)
      (h : execute kernel (.ClaimOutboxEvents command) context operationContext w =
        (.ok result, w')) : PassesUnder kernel w context token
  | startActivation {command : StartActivationCommand}
      {operationContext : Option KernelOperationContext} {result : CommandResult} {w' : World}
      {token : String} (hrun : truthy command.runId = true)
      (htoken : command.outboxLeaseToken = some token)
      (h : execute kernel (.StartActivation command) context operationContext w =
        (.ok result, w')) : PassesUnder kernel w context token
  | startProviderAttempt {command : StartProviderAttemptCommand}
      {operationContext : Option KernelOperationContext} {result : CommandResult} {w' : World}
      {token : String} (htoken : command.outboxLeaseToken = some token)
      (h : execute kernel (.StartProviderAttempt command) context operationContext w =
        (.ok result, w')) : PassesUnder kernel w context token

section Exclusive

set_option synthInstance.maxSize 100000

variable {kernel : KernelContext} {w : World}

/-- A successful command ran its own part, or the resolution of its recorded result, on the
Outbox as it was. -/
theorem execute_part {command : KernelCommand} {context : PrincipalContext}
    {operationContext : Option KernelOperationContext} {result : CommandResult} {w' : World}
    (h : execute kernel command context operationContext w = (.ok result, w')) :
    ∃ principal w₁ w₂, principal.id = context.principalId ∧ SameTables [.outboxEvents] w w₁ ∧
      SameTables [.outboxEvents] w₂ w' ∧
      ((∃ cached, (w.db.table IdempotencyRecord).find?
          (IdempotencyRecord.isOf context.principalId command) = some cached ∧
        resolveCachedResult kernel command cached.result principal
          (effectiveContext principal context) w₁ = (.ok result, w₂)) ∨
      ((w.db.table IdempotencyRecord).find?
          (IdempotencyRecord.isOf context.principalId command) = none ∧
        ∃ correlationId dispatched, dispatchCommand kernel command
          (effectiveContext principal context) principal correlationId w₁ =
            (.ok dispatched, w₂))) := by
  obtain ⟨w₃, hrun, hremember⟩ := execute_eq_ok h
  obtain ⟨principal, w₄, hprincipal, hfence, hbody⟩ := executeTransaction_eq_ok hrun
  have hid := of_decide_eq_true (Table.find?_eq_some hprincipal).2
  have hend : SameTables [.outboxEvents] w₃ w' := Within.of_eq hremember
  have hstart : SameTables [.outboxEvents, .idempotencyRecords] w w₄ := Within.of_eq hfence
  have hrecords := hstart.table_eq IdempotencyRecord (by simp)
  have hstart : SameTables [.outboxEvents] w w₄ := Within.of_eq hfence
  refine ⟨principal, ?_⟩
  rw [hrecords, hid] at hbody
  obtain ⟨cached, hcached, hreplay⟩ | ⟨hnew, hperform⟩ := hbody
  · simp only [replayCommand, bind_eq_ok, throwIf_eq_ok, pure_eq_ok] at hreplay
    obtain ⟨_, w₅, hreport, _, _, ⟨-, rfl⟩, refreshed, w₆, hresolve, _, w₇, hrecord, rfl, rfl⟩ :=
      hreplay
    have hadmit : SameTables [.outboxEvents] w₄ w₅ := by
      cases command <;> exact Within.of_eq hreport
    have hafter : SameTables [.outboxEvents] w₆ w₇ := Within.of_eq hrecord
    exact ⟨w₅, w₆, hid, trans_of _ hstart hadmit, trans_of _ hafter hend,
      .inl ⟨cached, hcached, hresolve⟩⟩
  · simp only [performCommand, bind_eq_ok, pure_eq_ok] at hperform
    obtain ⟨correlationId, w₅, hcorrelation, dispatched, w₆, hdispatch, _, w₇, hversions, _, w₈,
      hnow, _, w₉, hrecord, rfl, rfl⟩ := hperform
    have hbefore : SameTables [.outboxEvents] w₄ w₅ := Within.of_eq hcorrelation
    have hafter : SameTables [.outboxEvents] w₆ w₉ := trans_of _
      (trans_of _ (Within.of_eq hversions) (Within.of_eq hnow)) (Within.of_eq hrecord)
    exact ⟨w₅, w₆, hid, trans_of _ hstart hbefore, trans_of _ hafter hend,
      .inr ⟨hnew, correlationId, dispatched, hdispatch⟩⟩

/-- Whoever passes holds a live lease on a pending event. -/
theorem PassesUnder.heldLive {context : PrincipalContext} {token : String}
    (hordered : OutboxOrdered w.db) (h : PassesUnder kernel w context token) :
    HeldLive kernel w context.principalId (some token) := by
  cases h with
  | acknowledge hnew h =>
      obtain ⟨principal, w₁, w₂, hid, hbefore, -, ⟨cached, hcached, -⟩ |
        ⟨-, correlationId, dispatched, hdispatch⟩⟩ := execute_part h
      · rw [hnew] at hcached
        cases hcached
      · rw [← hid]
        exact (acknowledgeOutboxEvents_live hdispatch).of_same hbefore
  | claimReplay hcached htoken hne hevents hsame h =>
      obtain ⟨principal, w₁, w₂, hid, hbefore, hafter, ⟨cached, hfound, hresolve⟩ |
        ⟨hnew, -⟩⟩ := execute_part h
      · rw [hcached] at hfound
        cases hfound
        have htable := hbefore.table_eq OutboxEvent (List.mem_singleton.mpr rfl)
        have hlive := resolveCachedOutboxClaim_live (by simp [truthy, htoken, hne]) hevents
          (hordered.of_table htable)
          (by rw [← hafter.table_eq OutboxEvent (List.mem_singleton.mpr rfl), hsame, htable])
          hresolve
        rw [← hid, ← htoken]
        exact hlive.of_same hbefore
      · rw [hnew] at hcached
        cases hcached
  | startActivation hrun htoken h =>
      obtain ⟨principal, w₁, w₂, hid, hbefore, -, ⟨cached, -, hresolve⟩ |
        ⟨-, correlationId, dispatched, hdispatch⟩⟩ := execute_part h
      · rw [← hid, ← htoken]
        exact (resolveCachedActivation_live hrun hresolve).of_same hbefore
      · rw [← hid, ← htoken]
        exact (startActivation_live hrun hdispatch).of_same hbefore
  | startProviderAttempt htoken h =>
      obtain ⟨principal, w₁, w₂, hid, hbefore, -, ⟨cached, -, hresolve⟩ |
        ⟨-, correlationId, dispatched, hdispatch⟩⟩ := execute_part h
      · rw [← hid, ← htoken]
        exact (resolveCachedProviderAttempt_live htoken hresolve).of_same hbefore
      · rw [← hid, ← htoken]
        exact (startProviderAttempt_live htoken hdispatch).of_same hbefore

/-- Every lease has a holder and a token, and at any moment not before the readings taken so
far the live ones are one lease on the oldest pending events. -/
structure OutboxLeases (kernel : KernelContext) (w : World) : Prop where
  ordered : OutboxOrdered w.db
  complete : ∀ e ∈ outboxQueue w.db, e.lease.Complete
  exclusive : ∀ t, (∀ k < w.clockReadings, kernel.clock k ≤ t) → Exclusive t (outboxQueue w.db)

theorem Reachable.outboxLeases (h : Reachable kernel w) (hclock : Monotone kernel.clock) :
    OutboxLeases kernel w := by
  refine h.invariant (fun w hopen => ?_) fun w call hw => ?_
  · have hframe : Frame [.outboxEvents] World.blank w := hopen.frame
    have hqueue : outboxQueue w.db = [] := by
      rw [outboxQueue, hframe.table_eq OutboxEvent (List.mem_singleton.mpr rfl)]
      rfl
    refine ⟨hopen.reachable.outboxOrdered, ?_, ?_⟩
    · rw [hqueue]
      exact fun e he => nomatch he
    · rw [hqueue]
      exact fun t _ => List.Pairwise.nil
  · obtain ⟨hordered, hsteps⟩ := (step_outbox kernel call w).2 hw.ordered
    exact ⟨hordered, hsteps.complete hw.complete, hsteps.exclusive hclock hw.exclusive⟩

/-- What the exclusiveness of leases means for the Outbox of a state. -/
structure OneLiveLease (kernel : KernelContext) (w : World) : Prop where
  /-- The pending events with a live lease come first and carry one lease. -/
  live_first : ∀ t, (∀ k < w.clockReadings, kernel.clock k ≤ t) →
    ∃ live rest, pendingOutboxEvents w.db = live ++ rest ∧
      (∀ r ∈ rest, r.leaseLive t = false) ∧
      (live ≠ [] → ∃ principalId leaseToken, ∀ r ∈ live, r.leaseLive t = true ∧
        r.leaseHolderPrincipalId = some principalId ∧ r.leaseToken = some leaseToken)
  /-- Commands that pass on the same Outbox, whatever readings they take, agree. -/
  one_token : ∀ w₁ w₂ context₁ context₂ token₁ token₂, w₁.db = w.db → w₂.db = w.db →
    w.clockReadings ≤ w₁.clockReadings → w.clockReadings ≤ w₂.clockReadings →
    PassesUnder kernel w₁ context₁ token₁ → PassesUnder kernel w₂ context₂ token₂ →
    token₁ = token₂ ∧ context₁.principalId = context₂.principalId

theorem OutboxLeases.live_first (h : OutboxLeases kernel w) {t : Timestamp}
    (ht : ∀ k < w.clockReadings, kernel.clock k ≤ t) :
    ∃ live rest, pendingOutboxEvents w.db = live ++ rest ∧
      (∀ r ∈ rest, r.leaseLive t = false) ∧
      (live ≠ [] → ∃ principalId leaseToken, ∀ r ∈ live, r.leaseLive t = true ∧
        r.leaseHolderPrincipalId = some principalId ∧ r.leaseToken = some leaseToken) := by
  obtain ⟨done, hrows, -⟩ := outbox_split h.ordered
  have hqueue : outboxQueue w.db =
      done.map OutboxEvent.entry ++ (pendingOutboxEvents w.db).map OutboxEvent.entry := by
    rw [outboxQueue, hrows, List.map_append]
  have hexclusive := h.exclusive t ht
  rw [hqueue] at hexclusive
  have hwaiting : ∀ e ∈ (pendingOutboxEvents w.db).map OutboxEvent.entry, e.Waiting := by
    intro e he
    obtain ⟨r, hr, rfl⟩ := List.mem_map.mp he
    exact r.entry_waiting.mpr (mem_pendingOutboxEvents.mp hr).2
  have hpending : Exclusive t ((pendingOutboxEvents w.db).map OutboxEvent.entry) :=
    (List.pairwise_append.mp hexclusive).2.1
  obtain ⟨live', rest', heq, hlive, hrest⟩ := hpending.live_prefix hwaiting
  obtain ⟨live, rest, hsplit, rfl, rfl⟩ := List.map_eq_append_iff.mp heq
  refine ⟨live, rest, hsplit, fun r hr => ?_, fun hne => ?_⟩
  · exact Bool.eq_false_iff.mpr fun hl =>
      hrest _ (List.mem_map_of_mem hr) ((r.entry_live t).mpr hl)
  · obtain ⟨first, hfirst⟩ := List.exists_mem_of_ne_nil live hne
    have hmem : ∀ r ∈ live, r.entry ∈ (pendingOutboxEvents w.db).map OutboxEvent.entry :=
      fun r hr => List.mem_map_of_mem (hsplit ▸ List.mem_append_left rest hr)
    have hfirstLive := hlive _ (List.mem_map_of_mem hfirst)
    obtain ⟨e, he, -⟩ := hfirstLive
    obtain ⟨principalId, leaseToken, hgrant⟩ := h.complete first.entry
      (hqueue ▸ List.mem_append_right _ (hmem first hfirst)) e he
    refine ⟨principalId, leaseToken, fun r hr => ?_⟩
    have hsame := hpending.same (hmem r hr) (hmem first hfirst) (hwaiting _ (hmem r hr))
      (hwaiting _ (hmem first hfirst)) (hlive _ (List.mem_map_of_mem hr))
      (hlive _ (List.mem_map_of_mem hfirst))
    rw [Lease.Same, hgrant] at hsame
    exact ⟨(r.entry_live t).mp (hlive _ (List.mem_map_of_mem hr)), hsame.1, hsame.2⟩

/-- Two principals that hold live leases on the same Outbox hold the same one. -/
theorem OutboxLeases.same_of_heldLive (h : OutboxLeases kernel w) (hclock : Monotone kernel.clock)
    {principalId₁ principalId₂ token₁ token₂ : String}
    (h₁ : HeldLive kernel w principalId₁ (some token₁))
    (h₂ : HeldLive kernel w principalId₂ (some token₂)) :
    token₁ = token₂ ∧ principalId₁ = principalId₂ := by
  obtain ⟨r₁, hr₁, hleased₁, k₁, hk₁, hlive₁⟩ := h₁
  obtain ⟨r₂, hr₂, hleased₂, k₂, hk₂, hlive₂⟩ := h₂
  obtain ⟨hmem₁, hwaiting₁⟩ := mem_pendingOutboxEvents.mp hr₁
  obtain ⟨hmem₂, hwaiting₂⟩ := mem_pendingOutboxEvents.mp hr₂
  have hpast : ∀ k < w.clockReadings, kernel.clock k ≤ kernel.clock (min k₁ k₂) := fun k hk =>
    hclock (Nat.le_of_lt (Nat.lt_of_lt_of_le hk (Nat.le_min.mpr ⟨hk₁, hk₂⟩)))
  have hsame := (h.exclusive _ hpast).same (List.mem_map_of_mem hmem₁)
    (List.mem_map_of_mem hmem₂) (r₁.entry_waiting.mpr hwaiting₁)
    (r₂.entry_waiting.mpr hwaiting₂)
    (((r₁.entry_live _).mpr hlive₁).anti (hclock (Nat.min_le_left k₁ k₂)))
    (((r₂.entry_live _).mpr hlive₂).anti (hclock (Nat.min_le_right k₁ k₂)))
  obtain ⟨hholder₁, htoken₁⟩ := r₁.leasedTo_iff.mp hleased₁
  obtain ⟨hholder₂, htoken₂⟩ := r₂.leasedTo_iff.mp hleased₂
  have htokens : r₁.leaseToken = r₂.leaseToken := hsame.2
  have hholders : r₁.leaseHolderPrincipalId = r₂.leaseHolderPrincipalId := hsame.1
  rw [htoken₁, htoken₂] at htokens
  rw [hholder₁, hholder₂] at hholders
  exact ⟨Option.some.inj htokens, Option.some.inj hholders⟩

/-- While the clock does not go back, all live leases of the Outbox are one lease on the
oldest pending events, so one token at a time passes its checks. -/
theorem one_live_lease (h : Reachable kernel w) (hclock : Monotone kernel.clock) :
    OneLiveLease kernel w := by
  have hleases := h.outboxLeases hclock
  refine ⟨fun t ht => hleases.live_first ht, ?_⟩
  intro w₁ w₂ context₁ context₂ token₁ token₂ hdb₁ hdb₂ hclock₁ hclock₂ hpass₁ hpass₂
  have hheld : ∀ {w' context token}, w'.db = w.db → w.clockReadings ≤ w'.clockReadings →
      PassesUnder kernel w' context token →
      HeldLive kernel w context.principalId (some token) := by
    intro w' context token hdb hle hpass
    obtain ⟨r, hr, hleased, k, hk, hlive⟩ := hpass.heldLive (hdb ▸ hleases.ordered)
    exact ⟨r, hdb ▸ hr, hleased, k, Nat.le_trans hle hk, hlive⟩
  exact hleases.same_of_heldLive hclock (hheld hdb₁ hclock₁ hpass₁) (hheld hdb₂ hclock₂ hpass₂)

end Exclusive

theorem claimedWorld_one_live_lease : OneLiveLease countingKernel claimedWorld :=
  one_live_lease claimedWorld_reachable fun _ _ => id

end Torsor.Kernel
