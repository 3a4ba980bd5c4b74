import Mathlib.Data.List.ReduceOption
import Mathlib.Data.List.TakeWhile
import Torsor.Library.LeaseQueue
import Torsor.Kernel.PlainErrors

/-! # The Outbox is a leased queue

The rows of `outbox_events`, in the order of their sequences, are the entries of a queue
whose oldest entries are leased and acknowledged. Every call of the Kernel is a run of
queue steps, each with the clock readings it took.
-/

namespace Torsor.Kernel

open Torsor.Library Tx

/-! ## Rows as entries -/

/-- The columns of an event that never change. -/
structure OutboxItem where
  sequence : Nat
  id : String
  topic : OutboxTopic
  aggregateType : AggregateType
  aggregateId : String
  payload : Json
  createdAt : Timestamp

def OutboxEvent.item (r : OutboxEvent) : OutboxItem where
  sequence := r.sequence
  id := r.id
  topic := r.topic
  aggregateType := r.aggregateType
  aggregateId := r.aggregateId
  payload := r.payload
  createdAt := r.createdAt

def OutboxEvent.lease (r : OutboxEvent) : Lease String String where
  holder := r.leaseHolderPrincipalId
  token := r.leaseToken
  expiresAt := r.leaseExpiresAt

/-- When an event was acknowledged, and by whom. -/
abbrev OutboxReceipt : Type := Timestamp × Option String

abbrev OutboxEntry : Type := Entry OutboxItem String String OutboxReceipt

def OutboxEvent.entry (r : OutboxEvent) : OutboxEntry where
  item := r.item
  lease := r.lease
  receipt := r.acknowledgedAt.map fun at' => (at', r.acknowledgedByPrincipalId)

def outboxQueue (db : Database) : List OutboxEntry :=
  (db.table OutboxEvent).rows.map OutboxEvent.entry

@[simp] theorem OutboxEvent.entry_waiting (r : OutboxEvent) :
    r.entry.Waiting ↔ r.acknowledgedAt = none := by
  simp [Entry.Waiting, OutboxEvent.entry]

theorem OutboxEvent.entry_live (r : OutboxEvent) (t : Timestamp) :
    r.entry.lease.Live t ↔ r.leaseLive t = true := by
  cases h : r.leaseExpiresAt <;>
    simp [Lease.Live, OutboxEvent.entry, OutboxEvent.lease, OutboxEvent.leaseLive, h]

theorem OutboxEvent.leasedTo_iff (r : OutboxEvent) {principalId : String}
    {leaseToken : Option String} :
    r.leasedTo principalId leaseToken = true ↔
      r.leaseHolderPrincipalId = some principalId ∧ r.leaseToken = leaseToken := by
  simp [OutboxEvent.leasedTo]

/-- The rows stand in the order of their sequences, acknowledged ones first. -/
structure OutboxOrdered (db : Database) : Prop where
  sorted : (db.table OutboxEvent).rows.Pairwise fun a b => a.sequence < b.sequence
  ackPrefix : AckPrefix (outboxQueue db)

theorem OutboxOrdered.of_table {db db' : Database} (h : OutboxOrdered db)
    (htable : db'.table OutboxEvent = db.table OutboxEvent) : OutboxOrdered db' := by
  refine ⟨?_, ?_⟩
  · rw [htable]
    exact h.sorted
  · rw [outboxQueue, htable]
    exact h.ackPrefix

/-! ## Pending rows -/

section Pending

variable {db : Database}

theorem pendingOutboxEvents_eq (h : OutboxOrdered db) :
    pendingOutboxEvents db = (db.table OutboxEvent).filter fun r => r.acknowledgedAt.isNone :=
  orderBy_of_pairwise ((h.sorted.imp Nat.le_of_lt).filter _)

/-- The rows are the acknowledged ones and then the pending ones. -/
theorem outbox_split (h : OutboxOrdered db) :
    ∃ done, (db.table OutboxEvent).rows = done ++ pendingOutboxEvents db ∧
      ∀ r ∈ done, r.acknowledgedAt ≠ none := by
  obtain ⟨front, back, heq, hfront, hback⟩ := ackPrefix_iff_split.mp h.ackPrefix
  obtain ⟨done, pending, hrows, rfl, rfl⟩ := List.map_eq_append_iff.mp heq
  have hdone : ∀ r ∈ done, r.acknowledgedAt ≠ none := fun r hr =>
    fun hnone => hfront _ (List.mem_map_of_mem hr) (r.entry_waiting.mpr hnone)
  have hpending : ∀ r ∈ pending, r.acknowledgedAt = none := fun r hr =>
    r.entry_waiting.mp (hback _ (List.mem_map_of_mem hr))
  refine ⟨done, ?_, hdone⟩
  rw [pendingOutboxEvents_eq h, Table.filter, hrows, List.filter_append,
    List.filter_eq_nil_iff.mpr, List.nil_append, List.filter_eq_self.mpr]
  · intro r hr
    rw [hpending r hr]
    rfl
  · intro r hr hnone
    exact hdone r hr (Option.isNone_iff_eq_none.mp hnone)

theorem mem_pendingOutboxEvents {r : OutboxEvent} :
    r ∈ pendingOutboxEvents db ↔ r ∈ db.table OutboxEvent ∧ r.acknowledgedAt = none := by
  simp [pendingOutboxEvents]

/-- An identifier belongs to one event. -/
theorem outbox_eq_of_id {a b : OutboxEvent} (ha : a ∈ db.table OutboxEvent)
    (hb : b ∈ db.table OutboxEvent) (hid : a.id = b.id) : a = b :=
  Table.eq_of_key ha hb (k := ⟨1, [.text a.id]⟩) (by simp [Keyed.keys])
    (by simp [Keyed.keys, hid])

theorem outbox_find?_id {r : OutboxEvent} (hr : r ∈ db.table OutboxEvent) :
    (db.table OutboxEvent).find? (fun x => x.id = r.id) = some r :=
  Table.find?_of_mem hr (decide_eq_true rfl) fun x hx =>
    ⟨⟨1, [.text r.id]⟩, by simp [Keyed.keys, of_decide_eq_true hx], by simp [Keyed.keys]⟩

theorem outbox_eq_of_ids {xs ys : List OutboxEvent} (hxs : ∀ r ∈ xs, r ∈ db.table OutboxEvent)
    (hys : ∀ r ∈ ys, r ∈ db.table OutboxEvent) (hids : xs.map (·.id) = ys.map (·.id)) :
    xs = ys := by
  induction xs generalizing ys with
  | nil => exact (List.map_eq_nil_iff.mp hids.symm).symm
  | cons x xs ih =>
      obtain ⟨y, ys, rfl, hid, htail⟩ := List.map_eq_cons_iff.mp hids.symm
      rw [outbox_eq_of_id (hxs x List.mem_cons_self) (hys y List.mem_cons_self) hid.symm,
        ih (fun r hr => hxs r (List.mem_cons_of_mem x hr))
          (fun r hr => hys r (List.mem_cons_of_mem y hr)) htail.symm]

/-- An update of the rows of a batch of pending rows changes that batch in place. -/
theorem map_batch {done batch rest : List OutboxEvent}
    (hrows : (db.table OutboxEvent).rows = done ++ batch ++ rest) (h : OutboxOrdered db)
    (f : OutboxEvent → OutboxEvent) :
    ((db.table OutboxEvent).rows.map fun r => if r.id ∈ batch.map (·.id) then f r else r) =
      done ++ batch.map f ++ rest := by
  have hsorted := h.sorted
  rw [hrows, List.pairwise_append, List.pairwise_append] at hsorted
  obtain ⟨⟨-, -, hdb⟩, -, hbr⟩ := hsorted
  have hmem : ∀ r ∈ done ++ batch ++ rest, r.id ∈ batch.map (·.id) → r ∈ batch := by
    intro r hr hid
    obtain ⟨b, hb, heq⟩ := List.mem_map.mp hid
    have hbrow : b ∈ done ++ batch ++ rest := by simp [hb]
    rw [← hrows] at hr hbrow
    rw [← outbox_eq_of_id hbrow hr heq]
    exact hb
  have hnodone : ∀ r ∈ done, r.id ∉ batch.map (·.id) := fun r hr hid =>
    Nat.lt_irrefl _ (hdb r hr r (hmem r (by simp [hr]) hid))
  have hnorest : ∀ r ∈ rest, r.id ∉ batch.map (·.id) := fun r hr hid =>
    Nat.lt_irrefl _ (hbr r (List.mem_append_right done (hmem r (by simp [hr]) hid)) r hr)
  rw [hrows, List.map_append, List.map_append, Table.map_ite_eq_self hnodone,
    Table.map_ite_eq_map fun r hr => List.mem_map_of_mem hr, Table.map_ite_eq_self hnorest]

/-- An update that assigns no sequence keeps the rows in order. -/
theorem sorted_map_ite {rows : List OutboxEvent} {p : OutboxEvent → Prop} [DecidablePred p]
    {f : OutboxEvent → OutboxEvent} (hf : ∀ r, (f r).sequence = r.sequence)
    (h : rows.Pairwise fun a b => a.sequence < b.sequence) :
    (rows.map fun r => if p r then f r else r).Pairwise fun a b => a.sequence < b.sequence := by
  have hsequence : ∀ r, (if p r then f r else r).sequence = r.sequence := by
    intro r
    split
    · exact hf r
    · rfl
  refine List.pairwise_map.mpr (h.imp fun hlt => ?_)
  rwa [hsequence, hsequence]

end Pending

/-! ## Runs of queue steps -/

/-- What a step may acknowledge: holder, token, items and receipt. -/
abbrev Admits : Type := String → String → List OutboxItem → OutboxReceipt → Prop

/-- The Outbox makes queue steps, each with readings of the clock taken meanwhile. -/
def OutboxSteps (kernel : KernelContext) (admits : Admits) (w w' : World) : Prop :=
  w.clockReadings ≤ w'.clockReadings ∧
    (OutboxOrdered w.db → OutboxOrdered w'.db ∧
      ReadingSteps kernel.clock admits (outboxQueue w.db, w.clockReadings)
        (outboxQueue w'.db, w'.clockReadings))

section Steps

variable {kernel : KernelContext} {admits : Admits} {w w' : World}

instance : IsPreorder World (OutboxSteps kernel admits) where
  refl w := ⟨Nat.le_refl _, fun h => ⟨h, Relation.ReflTransGen.refl⟩⟩
  trans _ _ _ h h' := by
    refine ⟨Nat.le_trans h.1 h'.1, fun hordered => ?_⟩
    obtain ⟨hmiddle, hsteps⟩ := h.2 hordered
    obtain ⟨hend, hsteps'⟩ := h'.2 hmiddle
    exact ⟨hend, hsteps.trans hsteps'⟩

instance : ConcernsTables (OutboxSteps kernel admits) [.outboxEvents] where
  of_tables w w' htables hclock _ _ := by
    have htable : w'.db.table OutboxEvent = w.db.table OutboxEvent := by
      rw [Database.table, htables _ (List.mem_singleton.mpr rfl), Database.table]
    have hqueue : outboxQueue w'.db = outboxQueue w.db := by rw [outboxQueue, htable, outboxQueue]
    refine ⟨hclock, fun hordered => ⟨hordered.of_table htable, ?_⟩⟩
    rw [hqueue]
    exact Relation.ReflTransGen.single ⟨hclock, .inl rfl⟩

/-- One queue step that keeps the rows in order. -/
theorem OutboxSteps.of_step (hclock : w.clockReadings ≤ w'.clockReadings)
    (h : OutboxOrdered w.db →
      ((w'.db.table OutboxEvent).rows.Pairwise fun a b => a.sequence < b.sequence) ∧
      QueueStep (fun t => ∃ k, w.clockReadings ≤ k ∧ k < w'.clockReadings ∧ kernel.clock k = t)
        admits (outboxQueue w.db) (outboxQueue w'.db)) :
    OutboxSteps kernel admits w w' := by
  refine ⟨hclock, fun hordered => ?_⟩
  obtain ⟨hsorted, hstep⟩ := h hordered
  exact ⟨⟨hsorted, hstep.ackPrefix hordered.ackPrefix⟩,
    Relation.ReflTransGen.single ⟨hclock, .inr hstep⟩⟩

/-- In between, the rows may be assumed to be in order. -/
theorem OutboxSteps.of_ordered (hclock : w.clockReadings ≤ w'.clockReadings)
    (h : OutboxOrdered w.db → OutboxSteps kernel admits w w') : OutboxSteps kernel admits w w' :=
  ⟨hclock, fun hordered => (h hordered).2 hordered⟩

end Steps

/-! ## Appending events -/

theorem nextSequence_sorted {rows : List OutboxEvent} {r : OutboxEvent}
    (h : rows.Pairwise fun a b => a.sequence < b.sequence)
    (hr : r.sequence = nextSequence OutboxEvent.sequence rows) :
    (rows ++ [r]).Pairwise fun a b => a.sequence < b.sequence := by
  refine List.pairwise_append.mpr ⟨h, List.pairwise_singleton _ _, ?_⟩
  intro a ha b hb
  rw [List.mem_singleton.mp hb, hr]
  exact lt_nextSequence ha

/-- A new event is the last row and waits without a lease. -/
theorem insert_outbox_steps {kernel : KernelContext} {admits : Admits} {w : World}
    {r : OutboxEvent} {u : Table OutboxEvent} (hu : (w.db.table OutboxEvent).insert? r = some u)
    (hsequence : r.sequence = nextSequence OutboxEvent.sequence (w.db.table OutboxEvent).rows)
    (hlease : r.lease = .free) (hwaiting : r.acknowledgedAt = none) :
    OutboxSteps kernel admits w (w.store u) := by
  refine OutboxSteps.of_step (Nat.le_refl _) fun hordered => ?_
  have hrows := Table.insert?_eq_some hu
  constructor
  · rw [World.store_db, Database.table_set_same, hrows]
    exact nextSequence_sorted hordered.sorted hsequence
  · have hentry : r.entry = ⟨r.item, .free, none⟩ := by
      simp [OutboxEvent.entry, hlease, hwaiting]
    rw [outboxQueue, outboxQueue, World.store_db, Database.table_set_same, hrows,
      List.map_append, List.map_singleton, hentry]
    exact .enqueue _ r.item

instance (kernel : KernelContext) (admits : Admits) :
    Enqueues (OutboxSteps kernel admits) kernel where
  within topic aggregateType aggregateId payload := by
    have hinsert : ∀ id createdAt, Within (OutboxSteps kernel admits) (do
        let table ← selectTable OutboxEvent
        insertRow
          ({ sequence := nextSequence OutboxEvent.sequence table.rows
             id, topic, aggregateType, aggregateId, payload, createdAt
             deliveryAttempts := 0
             leaseHolderPrincipalId := none
             leaseToken := none
             leaseExpiresAt := none
             acknowledgedAt := none
             acknowledgedByPrincipalId := none } : OutboxEvent)) :=
      fun id createdAt => Within.insertRow fun w u hu => insert_outbox_steps hu rfl rfl rfl
    unfold enqueueOutbox
    infer_instance

/-! ## Leasing a batch -/

section Lease

variable {kernel : KernelContext} {admits : Admits} {w w' : World}

/-- The identifiers of some pending events, oldest first, are different. -/
theorem nodup_batch_ids {batch : List OutboxEvent} (h : OutboxOrdered w.db)
    (hbatch : batch <+: pendingOutboxEvents w.db) : (batch.map (·.id)).Nodup := by
  obtain ⟨rest, hrest⟩ := hbatch
  obtain ⟨done, hrows, -⟩ := outbox_split h
  have hsorted := h.sorted
  rw [hrows, ← hrest, List.pairwise_append, List.pairwise_append] at hsorted
  obtain ⟨-, ⟨hbatch, -, -⟩, -⟩ := hsorted
  refine List.pairwise_map.mpr (hbatch.imp_of_mem ?_)
  intro a b ha hb hlt hid
  have hmem : ∀ r ∈ batch, r ∈ (w.db.table OutboxEvent) := by
    intro r hr
    rw [← Table.mem_rows, hrows, ← hrest]
    simp [hr]
  rw [outbox_eq_of_id (hmem a ha) (hmem b hb) hid] at hlt
  exact Nat.lt_irrefl _ hlt

theorem leaseOutboxEvents_eq_ok {ids : List String} {principalId leaseToken : String}
    {leaseExpiresAt : Timestamp} {u : Unit} (hnodup : ids.Nodup)
    (h : leaseOutboxEvents ids principalId leaseToken leaseExpiresAt w = (.ok u, w')) :
    ∃ table : Table OutboxEvent, w' = w.store table ∧
      table.rows = (w.db.table OutboxEvent).rows.map fun r =>
        if r.id ∈ ids then r.leaseTo principalId leaseToken leaseExpiresAt else r :=
  forEach_updateRows OutboxEvent.id (fun _ => rfl) hnodup h

/-- The oldest pending events are leased while none of them has a live lease. -/
theorem lease_outbox_steps {batch : List OutboxEvent} {principalId leaseToken : String}
    {leaseExpiresAt : Timestamp} {k : Nat} (hbatch : batch <+: pendingOutboxEvents w.db)
    (hstart : w.clockReadings ≤ k) (hend : k < w'.clockReadings)
    (hfree : ∀ r ∈ batch, r.leaseLive (kernel.clock k) = false)
    (hrows : (w'.db.table OutboxEvent).rows = (w.db.table OutboxEvent).rows.map fun r =>
      if r.id ∈ batch.map (·.id) then r.leaseTo principalId leaseToken leaseExpiresAt else r) :
    OutboxSteps kernel admits w w' := by
  refine OutboxSteps.of_step (Nat.le_of_lt (Nat.lt_of_le_of_lt hstart hend)) fun hordered => ?_
  obtain ⟨rest, hrest⟩ := hbatch
  obtain ⟨done, hsplit, hdone⟩ := outbox_split hordered
  rw [← hrest, ← List.append_assoc] at hsplit
  constructor
  · rw [hrows]
    exact sorted_map_ite (fun _ => rfl) hordered.sorted
  · rw [outboxQueue, outboxQueue, hrows, map_batch hsplit hordered, hsplit]
    simp only [List.map_append, List.map_map]
    have hentry : OutboxEvent.entry ∘ OutboxEvent.leaseTo principalId leaseToken
        leaseExpiresAt = Entry.withLease (.grant principalId leaseToken leaseExpiresAt) ∘
          OutboxEvent.entry := rfl
    rw [hentry, ← List.map_map]
    refine .lease _ _ _ _ _ _ (kernel.clock k) ⟨k, hstart, hend, rfl⟩ ?_ ?_
    · intro e he hwaiting
      obtain ⟨r, hr, rfl⟩ := List.mem_map.mp he
      exact hdone r hr (r.entry_waiting.mp hwaiting)
    · intro e he
      obtain ⟨r, hr, rfl⟩ := List.mem_map.mp he
      have hpending : r ∈ pendingOutboxEvents w.db := by
        rw [← hrest]
        exact List.mem_append_left rest hr
      refine ⟨r.entry_waiting.mpr (mem_pendingOutboxEvents.mp hpending).2, ?_⟩
      rw [r.entry_live, hfree r hr]
      exact Bool.false_ne_true

/-- Events looked up by their identifiers. -/
theorem mapEach_requireOutboxEvent {ids : List String} {events : List OutboxEvent}
    (h : mapEach ids requireOutboxEvent w = (.ok events, w')) :
    w = w' ∧ events.map (·.id) = ids ∧ ∀ r ∈ events, r ∈ w.db.table OutboxEvent := by
  obtain ⟨heq, hall⟩ := mapEach_eq_ok
    (P := fun id event => event ∈ w.db.table OutboxEvent ∧ event.id = id)
    (fun id event s hevent => by
      obtain ⟨hfind, heq⟩ := requireOutboxEvent_eq_ok.mp hevent
      obtain ⟨hmem, hid⟩ := Table.find?_eq_some hfind
      exact ⟨heq, hmem, of_decide_eq_true hid⟩) h
  refine ⟨heq, ?_⟩
  clear h
  induction hall with
  | nil => exact ⟨rfl, fun r hr => nomatch hr⟩
  | cons hhead _ ih =>
      obtain ⟨hids, hmem⟩ := ih
      refine ⟨by rw [List.map_cons, hhead.2, hids], fun r hr => ?_⟩
      cases List.mem_cons.mp hr with
      | inl hr => rw [hr]; exact hhead.1
      | inr hr => exact hmem r hr

end Lease

/-! ## Claims -/

section Claims

set_option synthInstance.maxSize 100000

variable (kernel : KernelContext) {admits : Admits}

instance (command : ClaimOutboxEventsCommand) (result : CommandResult) (principal : Principal)
    (now : Timestamp) (rows : List OutboxEvent) (originalIds : List String) :
    Plain (renewOutboxClaim kernel command result principal now rows originalIds) := by
  unfold renewOutboxClaim staleCachedOutboxClaim
  infer_instance

instance (result : CommandResult) (rows : List OutboxEvent) :
    Plain (replayLiveOutboxClaim result rows) := by
  unfold replayLiveOutboxClaim
  infer_instance

instance (command : ClaimOutboxEventsCommand) (result : CommandResult)
    (principal : Principal) :
    Plain (resolveCachedOutboxClaim kernel command result principal) := by
  unfold resolveCachedOutboxClaim staleCachedOutboxClaim
  infer_instance

instance (command : ClaimOutboxEventsCommand) (principal : Principal) :
    Commits (OutboxSteps kernel admits) (claimOutboxEvents kernel command principal) := by
  refine Commits.of_ok fun w result w' h => ?_
  refine OutboxSteps.of_ordered (Within.of_eq (R := Frame []) h).clockReadings
    fun hordered => ?_
  simp only [claimOutboxEvents, bind_eq_ok, requireKind_eq_ok, boundedLimit_eq_ok,
    boundedDuration_eq_ok, readClock_eq_ok, newId_eq_ok, gets_eq_ok, pure_eq_ok] at h
  obtain ⟨_, _, ⟨-, rfl⟩, limit, _, ⟨-, -, rfl⟩, duration, _, ⟨-, -, rfl⟩, _, _, ⟨rfl, rfl⟩,
    token, _, ⟨-, rfl⟩, _, _, ⟨rfl, rfl⟩, _, w₁, hlease, events, w₂, hevents, -, rfl⟩ := h
  have hbatch := (List.takeWhile_prefix (fun candidate : OutboxEvent =>
    !candidate.leaseLive (kernel.clock w.clockReadings))).trans
    (List.take_prefix limit (pendingOutboxEvents w.db))
  obtain ⟨table, rfl, hrows⟩ :=
    leaseOutboxEvents_eq_ok (nodup_batch_ids hordered hbatch) hlease
  obtain ⟨rfl, -⟩ := mapEach_eq_ok (P := fun _ _ => True)
    (fun _ _ _ hevent => ⟨(requireOutboxEvent_eq_ok.mp hevent).2, trivial⟩) hevents
  refine lease_outbox_steps hbatch (Nat.le_refl _) (Nat.lt_succ_self _) ?_
    ((congrArg Table.rows (Database.table_set_same _ _)).trans hrows)
  intro r hr
  simpa using List.mem_takeWhile_imp hr

/-- A renewed claim leases the whole batch of the first one, which is still the oldest and
whose lease is no longer live. -/
theorem renewOutboxClaim_eq_ok {w w' : World} {command : ClaimOutboxEventsCommand}
    {result refreshed : CommandResult} {principal : Principal} {now : Timestamp}
    {rows : List OutboxEvent} {originalIds : List String} (hordered : OutboxOrdered w.db)
    (hrows : ∀ r ∈ w.db.table OutboxEvent, r.id ∈ originalIds → r ∈ rows)
    (h : renewOutboxClaim kernel command result principal now rows originalIds w =
      (.ok refreshed, w')) :
    ∃ (batch : List OutboxEvent) (leaseToken : String) (leaseExpiresAt : Timestamp)
      (table : Table OutboxEvent),
      batch <+: pendingOutboxEvents w.db ∧ batch.map (·.id) = originalIds ∧
      (∀ r ∈ batch, r.leaseLive now = false) ∧ w' = w.issue.store table ∧
      table.rows = (w.db.table OutboxEvent).rows.map fun r =>
        if r.id ∈ batch.map (·.id) then r.leaseTo principal.id leaseToken leaseExpiresAt
        else r := by
  simp only [renewOutboxClaim, bind_eq_ok, throwIf_eq_ok, gets_eq_ok, boundedDuration_eq_ok,
    newId_eq_ok, pure_eq_ok] at h
  obtain ⟨_, _, ⟨-, rfl⟩, _, _, ⟨hdead, rfl⟩, _, _, ⟨rfl, rfl⟩, _, _, ⟨hids, rfl⟩, duration, _,
    ⟨-, -, rfl⟩, token, _, ⟨-, rfl⟩, _, w₁, hlease, events, w₂, hevents, -, rfl⟩ := h
  have hids := Classical.not_not.mp hids
  have hbatch := List.take_prefix originalIds.length (pendingOutboxEvents w.db)
  rw [← hids] at hlease
  obtain ⟨table, rfl, htable⟩ :=
    leaseOutboxEvents_eq_ok (nodup_batch_ids hordered hbatch) hlease
  obtain ⟨rfl, -⟩ := mapEach_requireOutboxEvent hevents
  refine ⟨_, token, now + duration, table, hbatch, hids, ?_, rfl, htable⟩
  intro r hr
  have hmem := (mem_pendingOutboxEvents.mp (hbatch.subset hr)).1
  have hid : r.id ∈ originalIds := by
    rw [← hids]
    exact List.mem_map_of_mem hr
  exact Bool.eq_false_iff.mpr fun hlive =>
    hdead (List.any_eq_true.mpr ⟨r, hrows r hmem hid, hlive⟩)

instance (command : ClaimOutboxEventsCommand) (result : CommandResult)
    (principal : Principal) :
    Commits (OutboxSteps kernel admits)
      (resolveCachedOutboxClaim kernel command result principal) := by
  refine Commits.of_ok fun w refreshed w' h => ?_
  refine OutboxSteps.of_ordered (Within.of_eq (R := Frame []) h).clockReadings
    fun hordered => ?_
  unfold resolveCachedOutboxClaim at h
  split at h
  · obtain ⟨-, rfl⟩ := pure_eq_ok.mp h
    exact refl_of _ w
  · simp only [bind_eq_ok, readClock_eq_ok, throwIf_eq_ok] at h
    obtain ⟨_, _, ⟨rfl, rfl⟩, found, _, hfound, _, _, ⟨hpending, rfl⟩, h⟩ := h
    rw [mapEach_of_reads _ fun id => selectRow_eq_ok.mpr ⟨rfl, rfl⟩] at hfound
    obtain ⟨rfl, rfl⟩ := pure_eq_ok.mp hfound
    split at h
    · have hread : OutboxSteps kernel admits w w.tick :=
        Within.of_eq (m := kernel.readClock) (readClock_eq_ok.mpr ⟨rfl, rfl⟩)
      exact trans_of _ hread (Within.of_eq h)
    · have hrows : ∀ r ∈ w.tick.db.table OutboxEvent,
          r.id ∈ (result.outboxEvents.getD []).map (·.id) →
          r ∈ (((result.outboxEvents.getD []).map (·.id)).map fun id =>
            (w.tick.db.table OutboxEvent).find? fun r => r.id = id).reduceOption :=
        fun r hr hid => List.reduceOption_mem_iff.mpr
          (List.mem_map.mpr ⟨r.id, hid, outbox_find?_id hr⟩)
      obtain ⟨batch, leaseToken, leaseExpiresAt, table, hbatch, -, hfree, rfl, htable⟩ :=
        renewOutboxClaim_eq_ok kernel (w := w.tick) hordered hrows h
      exact lease_outbox_steps hbatch (Nat.le_refl _) (Nat.lt_succ_self _) hfree
        ((congrArg Table.rows (Database.table_set_same _ _)).trans htable)

end Claims

/-! ## Acknowledgements -/

section Acknowledgements

set_option synthInstance.maxSize 100000

variable {kernel : KernelContext} {command : AcknowledgeOutboxEventsCommand}
  {principal : Principal} {w w' : World}

/-- Every event is checked against a reading of the clock of its own. -/
theorem forEach_checkAcknowledgedEvent {leaseToken : String} {events : List OutboxEvent}
    {u : Unit}
    (h : forEach events (checkAcknowledgedEvent kernel principal leaseToken) w =
      (.ok u, w')) :
    w'.db = w.db ∧ w.clockReadings ≤ w'.clockReadings ∧
      ∀ r ∈ events, r.leasedTo principal.id (some leaseToken) = true ∧
        ∃ k, w.clockReadings ≤ k ∧ k < w'.clockReadings ∧
          r.leaseLive (kernel.clock k) = true := by
  induction events generalizing w with
  | nil =>
      obtain ⟨-, rfl⟩ := pure_eq_ok.mp h
      exact ⟨rfl, Nat.le_refl _, fun r hr => nomatch hr⟩
  | cons event rest ih =>
      simp only [forEach, checkAcknowledgedEvent, bind_eq_ok, throwIf_eq_ok, require_eq_ok,
        readClock_eq_ok] at h
      obtain ⟨_, _, ⟨_, _, ⟨-, rfl⟩, _, _, ⟨hleased, rfl⟩, expiry, _, ⟨hexpiry, rfl⟩, _, _,
        ⟨rfl, rfl⟩, hlive, rfl⟩, hrest⟩ := h
      obtain ⟨hdb, hclock, hall⟩ := ih hrest
      rw [World.tick_clockReadings] at hclock
      refine ⟨hdb, Nat.le_of_succ_le hclock, fun r hr => ?_⟩
      cases List.mem_cons.mp hr with
      | inl heq =>
          subst heq
          refine ⟨Classical.not_not.mp hleased, w.clockReadings, Nat.le_refl _, hclock, ?_⟩
          simp [OutboxEvent.leaseLive, hexpiry, Nat.lt_of_not_le hlive]
      | inr hmem =>
          obtain ⟨hr, k, hk, hk', hlive⟩ := hall r hmem
          exact ⟨hr, k, Nat.le_of_succ_le hk, hk', hlive⟩

/-- A successful acknowledgement, by the Runtime principal that holds the live lease on the
whole batch: all events it leased under the token, and the oldest ones. -/
theorem acknowledgeOutboxEvents_eq_ok {correlationId : String} {result : CommandResult}
    (h : acknowledgeOutboxEvents kernel command principal correlationId w = (.ok result, w')) :
    principal.kind = .runtime ∧ command.outboxEventIds ≠ [] ∧
    ∃ batch rest at',
      batch.map (·.id) = command.outboxEventIds ∧
      pendingOutboxEvents w.db = batch ++ rest ∧
      (∀ r ∈ batch, r.leasedTo principal.id (some command.leaseToken) = true ∧
        ∃ k, w.clockReadings ≤ k ∧ k < w'.clockReadings ∧
          r.leaseLive (kernel.clock k) = true) ∧
      (∀ r ∈ rest, r.leasedTo principal.id (some command.leaseToken) = false) ∧
      (w'.db.table OutboxEvent).rows = (w.db.table OutboxEvent).rows.map fun r =>
        if r.id ∈ batch.map (·.id) then r.acknowledge principal.id at' else r := by
  simp only [acknowledgeOutboxEvents, bind_eq_ok, requireKind_eq_ok, throwIf_eq_ok,
    requireNonEmpty_eq_ok, now_eq_ok, gets_eq_ok, pure_eq_ok] at h
  obtain ⟨_, _, ⟨hkind, rfl⟩, _, _, ⟨hne, rfl⟩, _, _, ⟨hunique, rfl⟩, _, _, ⟨-, rfl⟩, _, _,
    ⟨rfl, rfl⟩, _, _, ⟨rfl, rfl⟩, _, _, ⟨hids, rfl⟩, _, _, ⟨rfl, rfl⟩, _, _, ⟨hstart, rfl⟩,
    events, w₁, hevents, _, w₂, hcheck, _, w₃, hloop, -, rfl⟩ := h
  set batch := leasedOutboxEvents w.tick.db principal.id (some command.leaseToken) with hbatch
  have hmem : ∀ r ∈ pendingOutboxEvents w.db, r ∈ w.db.table OutboxEvent := fun r hr =>
    (mem_pendingOutboxEvents.mp hr).1
  have hleased : ∀ r ∈ batch, r ∈ pendingOutboxEvents w.db :=
    fun r hr => (List.mem_filter.mp hr).1
  have hall : unique command.outboxEventIds = command.outboxEventIds :=
    (unique_sublist _).eq_of_length (Classical.not_not.mp hunique)
  have hids := (Classical.not_not.mp hids).trans hall
  have hfront : (pendingOutboxEvents w.db).take batch.length = batch := by
    refine outbox_eq_of_ids (fun r hr => hmem r (List.mem_of_mem_take hr))
      (fun r hr => hmem r (hleased r hr)) ?_
    have hfst := congrArg (List.map Prod.fst) (Classical.not_not.mp hstart)
    rw [List.map_map, List.map_map] at hfst
    exact hfst
  obtain ⟨rfl, hevents, hrows⟩ := mapEach_requireOutboxEvent hevents
  have hsame : events = batch :=
    outbox_eq_of_ids hrows (fun r hr => hmem r (hleased r hr)) (by rw [hevents, hall, hids])
  rw [hsame] at hcheck hloop
  obtain ⟨hdb, hclock, hheld⟩ := forEach_checkAcknowledgedEvent hcheck
  rw [forEach_map batch OutboxEvent.id fun id => updateRows (fun r : OutboxEvent => r.id = id)
    (OutboxEvent.acknowledge principal.id (kernel.clock w.clockReadings))] at hloop
  have hnodup : (batch.map OutboxEvent.id).Nodup := by
    rw [show batch.map OutboxEvent.id = unique command.outboxEventIds from hids.trans hall.symm]
    exact unique_nodup _
  obtain ⟨table, rfl, htable⟩ := forEach_updateRows OutboxEvent.id
    (f := OutboxEvent.acknowledge principal.id (kernel.clock w.clockReadings))
    (fun _ => rfl) hnodup hloop
  refine ⟨hkind, hne, batch, (pendingOutboxEvents w.db).drop batch.length,
    kernel.clock w.clockReadings, hids, ?_, ?_, ?_, ?_⟩
  · conv_lhs => rw [← List.take_append_drop batch.length (pendingOutboxEvents w.db), hfront]
  · intro r hr
    obtain ⟨hleasedTo, k, hk, hk', hlive⟩ := hheld r hr
    exact ⟨hleasedTo, k, Nat.le_of_succ_le hk, hk', hlive⟩
  · -- the batch is all of the pending events the principal leased, so the rest has none
    have hsplit : batch = batch ++ ((pendingOutboxEvents w.db).drop batch.length).filter
        (OutboxEvent.leasedTo principal.id (some command.leaseToken)) := by
      conv_lhs =>
        rw [hbatch, leasedOutboxEvents, World.tick_db,
          ← List.take_append_drop batch.length (pendingOutboxEvents w.db), hfront,
          List.filter_append, List.filter_eq_self.mpr fun r hr => (hheld r hr).1]
    intro r hr
    have hnil := List.self_eq_append_right.mp hsplit
    exact Bool.eq_false_iff.mpr (List.filter_eq_nil_iff.mp hnil r hr)
  · rw [World.store_db, Database.table_set_same, htable, hdb]
    rfl

/-- What an acknowledgement of a Runtime principal may acknowledge. -/
def acknowledgedBy (command : AcknowledgeOutboxEventsCommand) (principal : Principal) :
    Admits := fun holder token items receipt =>
  principal.kind = .runtime ∧ holder = principal.id ∧ token = command.leaseToken ∧
    items.map (·.id) = command.outboxEventIds ∧ receipt.2 = some principal.id

instance (correlationId : String) :
    Commits (OutboxSteps kernel (acknowledgedBy command principal))
      (acknowledgeOutboxEvents kernel command principal correlationId) := by
  refine Commits.of_ok fun w result w' h => ?_
  refine OutboxSteps.of_step (Within.of_eq (R := Frame []) h).clockReadings
    fun hordered => ?_
  obtain ⟨hkind, hne, batch, rest, at', hids, hpending, hheld, hrest, hrows⟩ :=
    acknowledgeOutboxEvents_eq_ok h
  obtain ⟨done, hsplit, hdone⟩ := outbox_split hordered
  rw [hpending, ← List.append_assoc] at hsplit
  have hwaiting : ∀ r ∈ batch ++ rest, r.acknowledgedAt = none := fun r hr =>
    (mem_pendingOutboxEvents.mp (hpending ▸ hr)).2
  constructor
  · rw [hrows]
    exact sorted_map_ite (fun _ => rfl) hordered.sorted
  · rw [outboxQueue, outboxQueue, hrows, map_batch hsplit hordered, hsplit]
    simp only [List.map_append, List.map_map]
    have hentry : OutboxEvent.entry ∘ OutboxEvent.acknowledge principal.id at' =
        Entry.acknowledge (at', some principal.id) ∘ OutboxEvent.entry := rfl
    rw [hentry, ← List.map_map]
    refine .acknowledge _ _ _ principal.id command.leaseToken _ ?_ ?_ ?_ ?_ ?_
    · intro hnil
      rw [List.map_eq_nil_iff.mp hnil] at hids
      exact hne hids.symm
    · intro e he hwaits
      obtain ⟨r, hr, rfl⟩ := List.mem_map.mp he
      exact hdone r hr (r.entry_waiting.mp hwaits)
    · intro e he
      obtain ⟨r, hr, rfl⟩ := List.mem_map.mp he
      obtain ⟨hleased, k, hstart, hend, hlive⟩ := hheld r hr
      obtain ⟨hholder, htoken⟩ := r.leasedTo_iff.mp hleased
      exact ⟨r.entry_waiting.mpr (hwaiting r (List.mem_append_left rest hr)), hholder, htoken,
        kernel.clock k, ⟨k, hstart, hend, rfl⟩, (r.entry_live _).mpr hlive⟩
    · intro e he _ hholder htoken
      obtain ⟨r, hr, rfl⟩ := List.mem_map.mp he
      exact Bool.eq_false_iff.mp (hrest r hr) (r.leasedTo_iff.mpr ⟨hholder, htoken⟩)
    · refine ⟨hkind, rfl, rfl, ?_, rfl⟩
      rw [List.map_map, List.map_map]
      exact hids

end Acknowledgements

/-! ## Calls -/

/-- What a command may acknowledge. -/
def KernelCommand.acknowledges (command : KernelCommand) (principal : Principal) : Admits :=
  match command with
  | .AcknowledgeOutboxEvents command => acknowledgedBy command principal
  | _ => fun _ _ _ _ => False

/-- What a call may acknowledge. -/
def KernelCall.acknowledges (call : KernelCall) (w : World) : Admits :=
  fun holder token items receipt => ∃ issued principal, call.issued = some issued ∧
    (w.db.table Principal).find? (fun r => r.id = issued.context.principalId) = some principal ∧
    issued.command.acknowledges principal holder token items receipt

section Calls

set_option synthInstance.maxSize 100000

variable (kernel : KernelContext) {admits : Admits}

theorem OutboxSteps.mono {admits' : Admits} {w w' : World}
    (h : OutboxSteps kernel admits w w')
    (hadmits : ∀ holder token items receipt, admits holder token items receipt →
      admits' holder token items receipt) : OutboxSteps kernel admits' w w' :=
  ⟨h.1, fun hordered => ⟨(h.2 hordered).1, (h.2 hordered).2.mono hadmits⟩⟩

instance (command : KernelCommand) (context : PrincipalContext) (principal : Principal)
    (correlationId : String) :
    Commits (OutboxSteps kernel (command.acknowledges principal))
      (dispatchCommand kernel command context principal correlationId) := by
  cases command <;> unfold dispatchCommand KernelCommand.acknowledges <;> infer_instance

instance (command : KernelCommand) (result : CommandResult) (principal : Principal)
    (context : PrincipalContext) :
    Commits (OutboxSteps kernel admits)
      (resolveCachedResult kernel command result principal context) := by
  unfold resolveCachedResult
  split <;> infer_instance

instance (command : KernelCommand) (principal : Principal) (context : PrincipalContext)
    (operationContext : Option KernelOperationContext) :
    Commits (OutboxSteps kernel (command.acknowledges principal))
      (commandBody kernel command principal context operationContext) := inferInstance

/-- A call makes queue steps, and acknowledges events only for its own command. -/
theorem step_outbox (call : KernelCall) (w : World) :
    OutboxSteps kernel (call.acknowledges w) w (step kernel call w) := by
  refine step_within kernel call w fun issued principal hcall hprincipal => ?_
  refine Commits.mono (R := OutboxSteps kernel (issued.command.acknowledges principal))
    inferInstance fun w₁ w₂ h => h.mono kernel fun holder token items receipt hadmits => ?_
  exact ⟨issued, principal, hcall, hprincipal, hadmits⟩

theorem Reachable.outboxOrdered {w : World} (h : Reachable kernel w) : OutboxOrdered w.db := by
  refine h.invariant (fun w hopen => ?_) fun w call hw => (step_outbox kernel call w).2 hw |>.1
  have hframe : Frame [.outboxEvents] World.blank w := hopen.frame
  have htable := hframe.table_eq OutboxEvent (List.mem_singleton.mpr rfl)
  refine ⟨?_, ?_⟩
  · rw [htable]
    exact List.Pairwise.nil
  · rw [outboxQueue, htable]
    exact List.Pairwise.nil

end Calls

end Torsor.Kernel
