import Torsor.Kernel.PlainErrors
import Torsor.Kernel.RunBook

/-! # Every command makes one move of a Run

What each statement does to the book of the Runs, and from it what each command does: the
commands about Runs make one move of one file, decisions about Attentions end an Activation
besides, all others leave the files as they are but for Activations they end.
-/

namespace Torsor.Kernel

open Torsor.Library Tx

/-! ## The book after a statement -/

/-- The files of all Runs are the same. -/
def SameRuns (w w' : World) : Prop := runBook w'.db = runBook w.db

instance : IsPreorder World SameRuns where
  refl _ := rfl
  trans _ _ _ h h' := h'.trans h

instance : ConcernsTables SameRuns [.runs, .runInputs, .runActivityEvents, .activationAttempts,
    .outboxEvents] where
  of_tables w w' htables _ _ _ := by
    have hfile : ∀ id, runFile w'.db id = runFile w.db id := by
      intro id
      simp only [runFile, Database.table, htables .runs (by decide),
        htables .runInputs (by decide), htables .runActivityEvents (by decide),
        htables .activationAttempts (by decide), htables .outboxEvents (by decide)]
    exact funext hfile

namespace RunBook

/-- The book with the file of one Run changed. -/
def edit (b : RunBook) (id : String) (g : RunFile → RunFile) : RunBook :=
  Function.update b id (g (b id))

@[simp] theorem edit_edit (b : RunBook) (id : String) (g g' : RunFile → RunFile) :
    (b.edit id g).edit id g' = b.edit id fun f => g' (g f) := by
  simp [edit]

@[simp] theorem edit_self (b : RunBook) (id : String) (g : RunFile → RunFile) :
    b.edit id g id = g (b id) :=
  Function.update_self _ _ _

/-- A change of the file of one Run that leaves those of the others. -/
theorem eq_edit {b b' : RunBook} {id : String} {g : RunFile → RunFile} (hself : b' id = g (b id))
    (hother : ∀ id', id' ≠ id → b' id' = b id') : b' = b.edit id g := by
  funext id'
  by_cases hid : id' = id
  · subst hid
    rw [edit_self, hself]
  · rw [edit, Function.update_of_ne hid, hother id' hid]

end RunBook

section Views

variable {db : Database} {id : String}

/-- The file of a Run, read off the unstamped rows. -/
theorem runFile_eq : runFile db id =
    { run := ((db.table Run).rows.map Run.unstamped).find? fun r => r.id = id
      inputs := ((db.table RunInput).rows.map RunInput.unstamped).filter fun r => r.runId = id
      activities := ((db.table RunActivityEvent).rows.map RunActivityEvent.unstamped).filter
        fun r => r.runId = id
      activations := ((db.table ActivationAttempt).rows.map ActivationAttempt.unstamped).filter
        fun r => r.runId = some id
      wakes := (((db.table OutboxEvent).rows.map fun r => (r.topic, r.wake)).filter
        fun e => e.1.wakesRun && e.2.aggregateId = id).map (·.2) } := by
  simp only [runFile, Table.find?, Table.filter, List.find?_map, List.filter_map, List.map_map]
  rfl

end Views

section Statements

set_option synthInstance.maxSize 100000

variable {w w' : World} {u : Unit}

theorem runBook_store_runs (t : Table Run) (id : String) :
    runBook (w.store t).db id =
      { runBook w.db id with run := (t.rows.map Run.unstamped).find? fun r => r.id = id } := by
  simp [runBook, runFile_eq]

theorem runBook_store_inputs (t : Table RunInput) (id : String) :
    runBook (w.store t).db id =
      { runBook w.db id with
        inputs := (t.rows.map RunInput.unstamped).filter fun r => r.runId = id } := by
  simp [runBook, runFile_eq]

theorem runBook_store_activities (t : Table RunActivityEvent) (id : String) :
    runBook (w.store t).db id =
      { runBook w.db id with
        activities := (t.rows.map RunActivityEvent.unstamped).filter fun r => r.runId = id } := by
  simp [runBook, runFile_eq]

theorem runBook_store_activations (t : Table ActivationAttempt) (id : String) :
    runBook (w.store t).db id =
      { runBook w.db id with
        activations :=
          (t.rows.map ActivationAttempt.unstamped).filter fun r => r.runId = some id } := by
  simp [runBook, runFile_eq]

theorem runBook_store_wakes (t : Table OutboxEvent) (id : String) :
    runBook (w.store t).db id =
      { runBook w.db id with
        wakes := ((t.rows.map fun r => (r.topic, r.wake)).filter
          fun e => e.1.wakesRun && e.2.aggregateId = id).map (·.2) } := by
  simp [runBook, runFile_eq]

/-- A new Run. -/
theorem runBook_insertRun {r : Run} (h : insertRow r w = (.ok u, w')) :
    (runBook w.db r.id).run = none ∧
      runBook w'.db = (runBook w.db).edit r.id fun f => { f with run := some r.unstamped } := by
  obtain ⟨t, ht, rfl⟩ := insertRow_eq_ok.mp h
  have hnone : (w.db.table Run).find? (fun x => x.id = r.id) = none := by
    rw [Table.find?_eq_none]
    intro x hx
    refine decide_eq_false fun hid => ?_
    exact Table.not_mem_keys_of_insert? ht hx (k := primaryKey [.text x.id]) (by simp [Keyed.keys])
      (by simp [Keyed.keys, hid])
  refine ⟨by simp [runBook, runFile, hnone], RunBook.eq_edit ?_ fun id hid => ?_⟩
  · rw [runBook_store_runs, Table.insert?_eq_some ht]
    have hfresh : ((w.db.table Run).rows.map Run.unstamped).find? (fun x => x.id = r.id) = none := by
      rw [List.find?_eq_none]
      intro x hx
      obtain ⟨y, hy, rfl⟩ := List.mem_map.mp hx
      exact Bool.eq_false_iff.mp (Table.find?_eq_none.mp hnone y hy)
    simp [hfresh, Run.unstamped]
  · rw [runBook_store_runs, Table.insert?_eq_some ht]
    have hother : r.unstamped.id ≠ id := Ne.symm hid
    simp only [List.map_append, List.map_singleton, List.find?_append, List.find?_singleton,
      decide_eq_true_eq, hother, if_false, Option.or_none]
    rw [runBook, runFile_eq]

/-- An update of one Run. -/
theorem runBook_updateRun {id : String} {f : Run → Run} {hkeys : KeepsKeys f}
    (h : updateRows (fun r : Run => r.id = id) f hkeys w = (.ok u, w'))
    (hid : ∀ r, (f r).id = r.id) (hf : ∀ r, (f r).unstamped = f r.unstamped) :
    runBook w'.db = (runBook w.db).edit id fun file => { file with run := file.run.map f } := by
  obtain rfl := updateRows_eq_ok.mp h
  have hviews : ((w.db.table Run).update (fun r => r.id = id) f hkeys).rows.map Run.unstamped =
      ((w.db.table Run).rows.map Run.unstamped).map fun r => if r.id = id then f r else r := by
    refine Table.map_view_update fun r => ?_
    show (if decide (r.id = id) = true then f r else r).unstamped =
      if r.id = id then f r.unstamped else r.unstamped
    by_cases hr : r.id = id <;> simp [hr, hf]
  have hlookup : ∀ id', runBook (w.store ((w.db.table Run).update (fun r => r.id = id) f
      hkeys)).db id' = { runBook w.db id' with
        run := if id' = id then (runBook w.db id).run.map f else (runBook w.db id').run } := by
    intro id'
    rw [runBook_store_runs, hviews, Table.find?_map_ite hid]
    simp only [runBook, runFile_eq]
  refine RunBook.eq_edit ?_ fun id' hid' => ?_
  · rw [hlookup, if_pos rfl]
  · rw [hlookup, if_neg hid']

/-- A new input of a Run. -/
theorem runBook_insertInput {r : RunInput} (h : insertRow r w = (.ok u, w')) :
    (∀ i ∈ (runBook w.db r.runId).inputs, i.id ≠ r.id) ∧
      runBook w'.db = (runBook w.db).edit r.runId fun f =>
        { f with inputs := f.inputs ++ [r.unstamped] } := by
  obtain ⟨t, ht, rfl⟩ := insertRow_eq_ok.mp h
  refine ⟨fun i hi => ?_, RunBook.eq_edit ?_ fun id hid => ?_⟩
  · obtain ⟨x, hx, rfl⟩ := List.mem_map.mp hi
    intro hsame
    have hsame : x.id = r.id := hsame
    exact Table.not_mem_keys_of_insert? ht (Table.mem_filter.mp hx).1
      (k := primaryKey [.text x.id]) (by simp [Keyed.keys]) (by simp [Keyed.keys, hsame])
  · rw [runBook_store_inputs, Table.insert?_eq_some ht]
    simp [runBook, runFile_eq, List.filter_append, RunInput.unstamped]
  · rw [runBook_store_inputs, Table.insert?_eq_some ht]
    simp [runBook, runFile_eq, List.filter_append, RunInput.unstamped, Ne.symm hid]

/-- A new activity of a Run. -/
theorem runBook_insertActivity {r : RunActivityEvent} (h : insertRow r w = (.ok u, w')) :
    runBook w'.db = (runBook w.db).edit r.runId fun f =>
      { f with activities := f.activities ++ [r.unstamped] } := by
  obtain ⟨t, ht, rfl⟩ := insertRow_eq_ok.mp h
  refine RunBook.eq_edit ?_ fun id hid => ?_
  · rw [runBook_store_activities, Table.insert?_eq_some ht]
    simp [runBook, runFile_eq, List.filter_append, RunActivityEvent.unstamped]
  · rw [runBook_store_activities, Table.insert?_eq_some ht]
    simp [runBook, runFile_eq, List.filter_append, RunActivityEvent.unstamped, Ne.symm hid]

/-- An update of inputs of one Run. -/
theorem runBook_updateInputs {id : String} {p : RunInput → Bool} {f : RunInput → RunInput}
    {hkeys : KeepsKeys f} (h : updateRows p f hkeys w = (.ok u, w'))
    (hp : ∀ r, p r.unstamped = p r) (hrunId : ∀ r, (f r).runId = r.runId)
    (hf : ∀ r, (f r).unstamped = f r.unstamped)
    (hof : ∀ r ∈ w.db.table RunInput, p r = true → r.runId = id) :
    runBook w'.db = (runBook w.db).edit id fun file =>
      { file with inputs := file.inputs.map fun i => if p i then f i else i } := by
  obtain rfl := updateRows_eq_ok.mp h
  have hviews : ((w.db.table RunInput).update p f hkeys).rows.map RunInput.unstamped =
      ((w.db.table RunInput).rows.map RunInput.unstamped).map fun i => if p i then f i else i := by
    refine Table.map_view_update fun r => ?_
    simp only [hp]
    split
    · exact hf r
    · rfl
  have hinputs : ∀ id', (((w.db.table RunInput).update p f hkeys).rows.map
      RunInput.unstamped).filter (fun r => r.runId = id') =
        (runBook w.db id').inputs.map fun i => if p i then f i else i := by
    intro id'
    rw [hviews, List.filter_map]
    simp only [runBook, runFile_eq]
    refine congrArg (List.map _) (List.filter_congr fun i _ => ?_)
    simp only [Function.comp_apply]
    split
    · rw [hrunId]
    · rfl
  refine RunBook.eq_edit ?_ fun id' hid' => ?_
  · rw [runBook_store_inputs, hinputs]
  · rw [runBook_store_inputs, hinputs]
    have hothers : ∀ i ∈ (runBook w.db id').inputs, ¬ p i = true := by
      intro i hi hpi
      obtain ⟨r, hr, rfl⟩ := List.mem_map.mp hi
      obtain ⟨hr, hrun⟩ := Table.mem_filter.mp hr
      rw [hp] at hpi
      exact hid' ((of_decide_eq_true hrun).symm.trans (hof r hr hpi))
    rw [Table.map_ite_eq_self hothers]

/-- An update of Activations, whatever Run they are of. -/
theorem runBook_update_activations {p : ActivationAttempt → Bool}
    {f : ActivationAttempt → ActivationAttempt} {hkeys : KeepsKeys f}
    (hp : ∀ r, p r.unstamped = p r) (hrunId : ∀ r, (f r).runId = r.runId)
    (hf : ∀ r, (f r).unstamped = f r.unstamped) (w : World) :
    runBook (w.store ((w.db.table ActivationAttempt).update p f hkeys)).db =
      (runBook w.db).close fun r => if p r then f r else r := by
  have hviews : ((w.db.table ActivationAttempt).update p f hkeys).rows.map
      ActivationAttempt.unstamped = ((w.db.table ActivationAttempt).rows.map
        ActivationAttempt.unstamped).map fun r => if p r then f r else r := by
    refine Table.map_view_update fun r => ?_
    simp only [hp]
    split
    · exact hf r
    · rfl
  funext id
  rw [runBook_store_activations, hviews, List.filter_map]
  simp only [RunBook.close, RunFile.close, runBook, runFile_eq]
  have hfilter : ((fun r : ActivationAttempt => decide (r.runId = some id)) ∘
      fun r => if p r then f r else r) = fun r => decide (r.runId = some id) := by
    funext r
    simp only [Function.comp_apply]
    split
    · rw [hrunId]
    · rfl
  rw [hfilter]

theorem runBook_updateActivations {p : ActivationAttempt → Bool}
    {f : ActivationAttempt → ActivationAttempt} {hkeys : KeepsKeys f} {ids : List String}
    (h : updateActivations p f hkeys w = (.ok ids, w')) (hp : ∀ r, p r.unstamped = p r)
    (hrunId : ∀ r, (f r).runId = r.runId) (hf : ∀ r, (f r).unstamped = f r.unstamped) :
    runBook w'.db = (runBook w.db).close fun r => if p r then f r else r := by
  simp only [updateActivations, bind_eq_ok, selectRows_eq_ok, pure_eq_ok] at h
  obtain ⟨changed, _, ⟨-, rfl⟩, _, w₁, hupdate, _, w₂, htriggers, -, rfl⟩ := h
  have hsame : SameRuns w₁ w₂ := Within.of_eq htriggers
  obtain rfl := updateRows_eq_ok.mp hupdate
  exact hsame.trans (runBook_update_activations hp hrunId hf w)

/-- A new Activation of a Run. -/
theorem runBook_insertActivation {r : ActivationAttempt} {id : String} (hid : r.runId = some id)
    (h : insertActivation r w = (.ok u, w')) :
    (∀ a ∈ (runBook w.db id).activations, a.id ≠ r.id) ∧
      runBook w'.db = (runBook w.db).edit id fun f =>
        { f with activations := f.activations ++ [r.unstamped] } := by
  simp only [insertActivation, bind_eq_ok] at h
  obtain ⟨_, w₁, hinsert, htriggers⟩ := h
  have hsame : SameRuns w₁ w' := Within.of_eq htriggers
  obtain ⟨t, ht, rfl⟩ := insertRow_eq_ok.mp hinsert
  rw [hsame]
  refine ⟨fun a ha => ?_, RunBook.eq_edit ?_ fun id' hid' => ?_⟩
  · obtain ⟨x, hx, rfl⟩ := List.mem_map.mp ha
    intro hsame
    have hsame : x.id = r.id := hsame
    exact Table.not_mem_keys_of_insert? ht (Table.mem_filter.mp hx).1
      (k := primaryKey [.text x.id]) (by simp [Keyed.keys]) (by simp [Keyed.keys, hsame])
  · rw [runBook_store_activations, Table.insert?_eq_some ht]
    simp [runBook, runFile_eq, List.filter_append, ActivationAttempt.unstamped, hid]
  · rw [runBook_store_activations, Table.insert?_eq_some ht]
    simp [runBook, runFile_eq, List.filter_append, ActivationAttempt.unstamped, hid,
      Ne.symm hid']

/-- A new Activation of an Attention. -/
theorem sameRuns_insertActivation {r : ActivationAttempt} (hnone : r.runId = none)
    (h : insertActivation r w = (.ok u, w')) : SameRuns w w' := by
  simp only [insertActivation, bind_eq_ok] at h
  obtain ⟨_, w₁, hinsert, htriggers⟩ := h
  have hsame : SameRuns w₁ w' := Within.of_eq htriggers
  obtain ⟨t, ht, rfl⟩ := insertRow_eq_ok.mp hinsert
  refine hsame.trans (funext fun id => ?_)
  rw [runBook_store_activations, Table.insert?_eq_some ht]
  simp [runBook, runFile_eq, List.filter_append, ActivationAttempt.unstamped, hnone]

/-- An Outbox event that wakes a Run. -/
theorem runBook_enqueueWake {kernel : KernelContext} {topic : OutboxTopic}
    {aggregateType : AggregateType} {aggregateId : String} {payload : Json}
    (htopic : topic.wakesRun = true)
    (h : enqueueOutbox kernel topic aggregateType aggregateId payload w = (.ok u, w')) :
    runBook w'.db = (runBook w.db).edit aggregateId fun f =>
      { f with wakes := f.wakes ++ [⟨aggregateType, aggregateId, payload⟩] } := by
  simp only [enqueueOutbox, bind_eq_ok, newId_eq_ok, now_eq_ok, selectTable_eq_ok,
    insertRow_eq_ok] at h
  obtain ⟨_, _, ⟨-, rfl⟩, _, _, ⟨-, rfl⟩, _, _, ⟨rfl, rfl⟩, t, ht, rfl⟩ := h
  refine RunBook.eq_edit ?_ fun id hid => ?_
  · rw [runBook_store_wakes, Table.insert?_eq_some ht]
    simp [runBook, runFile_eq, List.filter_append, OutboxEvent.wake, htopic]
  · rw [runBook_store_wakes, Table.insert?_eq_some ht]
    simp [runBook, runFile_eq, List.filter_append, OutboxEvent.wake, Ne.symm hid]

end Statements

/-! ## Functions that leave the files as they are -/

section Quiet

set_option synthInstance.maxSize 100000

theorem sameRuns_updateRuns {p : Run → Bool} {f : Run → Run} {h : KeepsKeys f}
    (hf : ∀ r, (f r).unstamped = r.unstamped) : Within SameRuns (updateRows p f h) :=
  Within.updateRows fun w => funext fun id => by
    rw [runBook_store_runs, Table.map_view_eq hf, runBook, runFile_eq]

theorem sameRuns_updateInputs {p : RunInput → Bool} {f : RunInput → RunInput} {h : KeepsKeys f}
    (hf : ∀ r, (f r).unstamped = r.unstamped) : Within SameRuns (updateRows p f h) :=
  Within.updateRows fun w => funext fun id => by
    rw [runBook_store_inputs, Table.map_view_eq hf, runBook, runFile_eq]

theorem sameRuns_updateActivities {p : RunActivityEvent → Bool}
    {f : RunActivityEvent → RunActivityEvent} {h : KeepsKeys f}
    (hf : ∀ r, (f r).unstamped = r.unstamped) : Within SameRuns (updateRows p f h) :=
  Within.updateRows fun w => funext fun id => by
    rw [runBook_store_activities, Table.map_view_eq hf, runBook, runFile_eq]

theorem sameRuns_updateActivations {p : ActivationAttempt → Bool}
    {f : ActivationAttempt → ActivationAttempt} {h : KeepsKeys f}
    (hf : ∀ r, (f r).unstamped = r.unstamped) : Within SameRuns (updateRows p f h) :=
  Within.updateRows fun w => funext fun id => by
    rw [runBook_store_activations, Table.map_view_eq hf, runBook, runFile_eq]

theorem sameRuns_updateOutbox {p : OutboxEvent → Bool} {f : OutboxEvent → OutboxEvent}
    {h : KeepsKeys f} (hf : ∀ r, ((f r).topic, (f r).wake) = (r.topic, r.wake)) :
    Within SameRuns (updateRows p f h) :=
  Within.updateRows fun w => funext fun id => by
    rw [runBook_store_wakes, Table.map_view_eq hf, runBook, runFile_eq]

/-- The events with this topic wake no Run. -/
class QuietTopic (topic : OutboxTopic) : Prop where
  quiet : topic.wakesRun = false

instance : QuietTopic .messagePublished := ⟨rfl⟩
instance : QuietTopic .messageRevised := ⟨rfl⟩
instance : QuietTopic .runInputWithdrawn := ⟨rfl⟩
instance : QuietTopic .runActivated := ⟨rfl⟩
instance : QuietTopic .runWaiting := ⟨rfl⟩
instance : QuietTopic .runCompleted := ⟨rfl⟩
instance : QuietTopic .artifactPublished := ⟨rfl⟩
instance (termination : Termination) : QuietTopic termination.topic := ⟨by cases termination <;> rfl⟩

instance (kernel : KernelContext) (topic : OutboxTopic) [htopic : QuietTopic topic]
    (aggregateType : AggregateType) (aggregateId : String) (payload : Json) :
    Within SameRuns (enqueueOutbox kernel topic aggregateType aggregateId payload) := by
  have hinsert : ∀ (id : String) (createdAt : Timestamp), Within SameRuns (do
      let table ← selectTable OutboxEvent
      insertRow
        ({ sequence := nextSequence OutboxEvent.sequence table.rows
           id, topic, aggregateType, aggregateId, payload, createdAt
           deliveryAttempts := 0
           leaseHolderPrincipalId := none
           leaseToken := none
           leaseExpiresAt := none
           acknowledgedAt := none
           acknowledgedByPrincipalId := none } : OutboxEvent)) := by
    refine fun id createdAt => Within.insertRow fun w t ht => funext fun id' => ?_
    rw [runBook_store_wakes, Table.insert?_eq_some ht]
    simp [runBook, runFile_eq, List.filter_append, htopic.quiet]
  unfold enqueueOutbox
  infer_instance

variable (kernel : KernelContext)

instance (correlationId : String) (eventSequence : Nat) :
    Within SameRuns (markImmutableComponents correlationId eventSequence) := by
  have hinputs : ∀ p : RunInput → Bool, Within SameRuns (updateRows p
      (fun r => { r with
        createdEventSequence := stamp eventSequence r.createdEventSequence }) ⟨fun _ => rfl⟩) :=
    fun p => sameRuns_updateInputs fun _ => rfl
  have hactivities : ∀ p : RunActivityEvent → Bool, Within SameRuns (updateRows p
      (fun r => { r with
        createdEventSequence := stamp eventSequence r.createdEventSequence }) ⟨fun _ => rfl⟩) :=
    fun p => sameRuns_updateActivities fun _ => rfl
  have hactivations : ∀ p : ActivationAttempt → Bool, Within SameRuns (updateRows p
      (fun r => { r with
        createdEventSequence := stamp eventSequence r.createdEventSequence }) ⟨fun _ => rfl⟩) :=
    fun p => sameRuns_updateActivations fun _ => rfl
  unfold markImmutableComponents
  infer_instance

instance (eventSequence : Nat) (runId : String) :
    Within SameRuns (recordAffectedRun eventSequence runId) := by
  have hruns : ∀ p : Run → Bool, Within SameRuns (updateRows p
      (fun r => { r with
        createdEventSequence := stamp eventSequence r.createdEventSequence }) ⟨fun _ => rfl⟩) :=
    fun p => sameRuns_updateRuns fun _ => rfl
  have hinputs : ∀ p : RunInput → Bool, Within SameRuns (updateRows p
      (fun r => { r with
        createdEventSequence := stamp eventSequence r.createdEventSequence }) ⟨fun _ => rfl⟩) :=
    fun p => sameRuns_updateInputs fun _ => rfl
  have hactivities : ∀ p : RunActivityEvent → Bool, Within SameRuns (updateRows p
      (fun r => { r with
        createdEventSequence := stamp eventSequence r.createdEventSequence }) ⟨fun _ => rfl⟩) :=
    fun p => sameRuns_updateActivities fun _ => rfl
  unfold recordAffectedRun
  infer_instance

instance (correlationId : String) : Within SameRuns (recordProjectionVersions correlationId) := by
  unfold recordProjectionVersions recordVersionsAt
  infer_instance

/-! ### The Outbox -/

instance (ids : List String) (principalId leaseToken : String) (leaseExpiresAt : Timestamp) :
    Within SameRuns (leaseOutboxEvents ids principalId leaseToken leaseExpiresAt) := by
  have hlease : ∀ id : String, Within SameRuns (updateRows (fun r : OutboxEvent => r.id = id)
      (OutboxEvent.leaseTo principalId leaseToken leaseExpiresAt) ⟨fun _ => rfl⟩) :=
    fun id => sameRuns_updateOutbox fun _ => rfl
  unfold leaseOutboxEvents
  infer_instance

instance (command : ClaimOutboxEventsCommand) (principal : Principal) :
    Within SameRuns (claimOutboxEvents kernel command principal) := by
  unfold claimOutboxEvents
  infer_instance

instance (command : ClaimOutboxEventsCommand) (result : CommandResult) (principal : Principal) :
    Within SameRuns (resolveCachedOutboxClaim kernel command result principal) := by
  unfold resolveCachedOutboxClaim renewOutboxClaim
  infer_instance

instance (command : AcknowledgeOutboxEventsCommand) (principal : Principal)
    (correlationId : String) :
    Within SameRuns (acknowledgeOutboxEvents kernel command principal correlationId) := by
  have hacknowledge : ∀ (id : String) (now : Timestamp), Within SameRuns (updateRows
      (fun r : OutboxEvent => r.id = id) (OutboxEvent.acknowledge principal.id now)
      ⟨fun _ => rfl⟩) :=
    fun id now => sameRuns_updateOutbox fun _ => rfl
  unfold acknowledgeOutboxEvents
  infer_instance

/-! ### Messages -/

instance (input : NewMessage) : Within SameRuns (createMessage kernel input) := by
  unfold createMessage
  infer_instance

instance (command : StartThreadCommand) (principal : Principal) (correlationId : String) :
    Within SameRuns (startThread kernel command principal correlationId) := by
  unfold startThread
  infer_instance

instance (command : ReplyToThreadCommand) (principal : Principal) (context : PrincipalContext)
    (correlationId : String) :
    Within SameRuns (replyToThread kernel command principal context correlationId) := by
  unfold replyToThread
  infer_instance

instance (input : NewRevision) (type : EventType) (commandType : CommandType)
    (fields : List (String × Json)) (revisionId : String) :
    Within SameRuns (publishRevision kernel input type commandType fields revisionId) := by
  unfold publishRevision
  infer_instance

instance (command : EditMessageCommand) (principal : Principal) (correlationId : String) :
    Within SameRuns (editMessage kernel command principal correlationId) := by
  unfold editMessage
  infer_instance

instance (command : DeleteMessageCommand) (principal : Principal) (correlationId : String) :
    Within SameRuns (deleteMessage kernel command principal correlationId) := by
  unfold deleteMessage
  infer_instance

instance (command : PublishRunReplyCommand) (principal : Principal) (context : PrincipalContext)
    (correlationId : String) :
    Within SameRuns (publishRunReply kernel command principal context correlationId) := by
  unfold publishRunReply
  infer_instance

instance (command : CompleteRunCommand) (run : Run) (activationId : String)
    (principal : Principal) (context : PrincipalContext) (correlationId : String) :
    Within SameRuns (publishFinalReply kernel command run activationId principal context
      correlationId) := by
  unfold publishFinalReply
  infer_instance

instance (command : PublishArtifactCommand) (principal : Principal) (context : PrincipalContext)
    (correlationId : String) :
    Within SameRuns (publishArtifact kernel command principal context correlationId) := by
  unfold publishArtifact
  infer_instance

end Quiet

/-! ## What a command expects and creates -/

/-- The command names the Run, or an input of it, and carries this revision of the Run. -/
def KernelCommand.expects (command : KernelCommand) (b : RunBook) (runId : String)
    (revision : Nat) : Prop :=
  match command with
  | .SendToRun command =>
      command.runId = runId ∧ command.expectedRunRevision = some (revision : Int)
  | .WithdrawRunInput command =>
      (∃ input ∈ (b runId).inputs, input.id = command.runInputId) ∧
        command.expectedRunRevision = revision
  | .CompleteRun command => command.runId = runId ∧ command.expectedRunRevision = revision
  | .WaitRun command => command.runId = runId ∧ command.expectedRunRevision = revision
  | .FailRun command => command.runId = runId ∧ command.expectedRunRevision = revision
  | .CancelRun command => command.runId = runId ∧ command.expectedRunRevision = revision
  | .AdoptRunConfig command => command.runId = runId ∧ command.expectedRunRevision = revision
  | .StartActivation command =>
      command.runId = some runId ∧ command.expectedRunRevision = some (revision : Int)
  | .ParkRunAfterProviderAttemptFailure command =>
      command.runId = runId ∧ command.expectedRunRevision = revision
  | .ResolveAttentionWithExistingRun command =>
      command.runId = runId ∧ command.expectedRunRevision = revision
  | _ => False

/-- The Run is the one the admission of its Attention allows. -/
def AdmitsRun (w : World) (run : Run) : Prop :=
  ∃ attention admission w₁ w₂,
    (w.db.table Attention).find? (fun r => r.id = run.parentAttentionId) = some attention ∧
    SameTables TableName.butLeases w w₁ ∧
    admitRunFromAttention attention w₁ = (.ok admission, w₂) ∧
    run.causalRootId = admission.causalRootId ∧ run.parentRunId = admission.parentRunId ∧
    run.delegationDepth = admission.delegationDepth ∧ run.projectId = attention.projectId ∧
    run.homeChannelId = attention.channelId ∧ run.threadRootId = attention.threadRootId ∧
    run.ownerAgentId = attention.targetAgentId

/-- What a command may do to the Runs of a world. -/
def KernelCommand.permit (command : KernelCommand) (w : World) : RunPermit where
  admits := AdmitsRun w
  expects := command.expects (runBook w.db)

/-! ## Commands about Runs -/

section Commands

set_option synthInstance.maxSize 400000

variable {kernel : KernelContext} {w w' : World} {principal : Principal}
  {context : PrincipalContext} {correlationId : String} {result : CommandResult}
  {permit : RunPermit}

theorem RunBook.Step.of_edit {b b' : RunBook} {id : String} {g : RunFile → RunFile}
    (hbook : b' = b.edit id g) (hmove : (b id).Move permit id (g (b id))) :
    b.Step permit b' := by
  have hclose : (b.edit id g).close (fun r => r) = b.edit id g := by
    funext id'
    simp [RunBook.close, RunFile.close]
  rw [hbook, ← hclose]
  exact .move hmove .id

theorem RunBook.Step.refl (b : RunBook) : b.Step permit b := by
  have hclose : b.close (fun r => r) = b := by
    funext id
    simp [RunBook.close, RunFile.close]
  have hstep : b.Step permit (b.close fun r => r) := .close .id
  rwa [hclose] at hstep

theorem RunBook.Step.of_same (h : SameRuns w w') :
    (runBook w.db).Step permit (runBook w'.db) := by
  rw [h]
  exact .refl _

theorem requireRun_eq_ok {id : String} {run : Run} :
    requireRun id w = (.ok run, w') ↔
      (w.db.table Run).find? (fun r => r.id = id) = some run ∧ w = w' :=
  requireRow_eq_ok

theorem runBook_run {id : String} {run : Run}
    (h : (w.db.table Run).find? (fun r => r.id = id) = some run) :
    (runBook w.db id).run = some run.unstamped ∧ run.id = id :=
  ⟨by simp [runBook, runFile, h], of_decide_eq_true (Table.find?_eq_some h).2⟩

theorem requireMutableRun_eq_ok {runId : String} {expected : Option Int} {run : Run}
    (h : requireMutableRun runId expected w = (.ok run, w')) :
    (w.db.table Run).find? (fun r => r.id = runId) = some run ∧
      isTerminalRunState run.state = false ∧
      (∀ revision, expected = some revision → (run.revision : Int) = revision) ∧ w = w' := by
  simp only [requireMutableRun, bind_eq_ok, requireRun_eq_ok, throwIf_eq_ok, pure_eq_ok] at h
  obtain ⟨found, _, ⟨hfound, rfl⟩, _, _, ⟨hmutable, rfl⟩, _, _, hrevision, rfl, rfl⟩ := h
  refine ⟨hfound, Bool.eq_false_iff.mpr hmutable, fun revision hexpected => ?_, ?_⟩
  · subst hexpected
    exact (checkRevision_eq_ok.mp hrevision).1
  · split at hrevision
    · exact (checkRevision_eq_ok.mp hrevision).2
    · exact (pure_eq_ok.mp hrevision).2

/-- A Run gets its next input. -/
theorem createRunInput_eq_ok {run : Run} {messageRevisionId assignedByPrincipalId : String}
    {assignedByActivationId sourceAttentionId : Option String} {position : RunInputPosition}
    (h : createRunInput kernel run messageRevisionId assignedByPrincipalId
      assignedByActivationId sourceAttentionId w = (.ok position, w')) :
    position.sequence = run.nextInputSequence ∧
    ∃ input : RunInput, input.Follows run.id run.nextInputSequence ∧ input.id = position.id ∧
      input.sourceAttentionId = sourceAttentionId ∧
      (∀ i ∈ (runBook w.db run.id).inputs, i.id ≠ input.id) ∧
      runBook w'.db = (runBook w.db).edit run.id fun f =>
        { f with inputs := f.inputs ++ [input] } := by
  simp only [createRunInput, bind_eq_ok, newId_eq_ok, now_eq_ok, pure_eq_ok] at h
  obtain ⟨id, _, ⟨-, rfl⟩, createdAt, _, ⟨-, rfl⟩, _, w₃, hinsert, rfl, rfl⟩ := h
  obtain ⟨hnew, hbook⟩ := runBook_insertInput hinsert
  exact ⟨rfl, _, ⟨rfl, rfl, rfl⟩, rfl, rfl, hnew, hbook⟩

theorem sendToRun_step {command : SendToRunCommand}
    (h : sendToRun kernel command principal correlationId w = (.ok result, w')) :
    (runBook w.db).Step (KernelCommand.permit (.SendToRun command) w) (runBook w'.db) := by
  simp only [sendToRun, bind_eq_ok, requireKind_eq_ok, throwIf_eq_ok, now_eq_ok, pure_eq_ok] at h
  obtain ⟨_, _, ⟨-, rfl⟩, _, _, ⟨hcarried, rfl⟩, run, w₁, hrun, created, w₂, hmessage, position, w₃,
    hinput, updatedAt, _, ⟨-, rfl⟩, _, w₄, hupdate, _, w₅, hemit, _, w₆, hwake, cursor, w₇, hcursor,
    -, rfl⟩ := h
  obtain ⟨hfound, hmutable, hrevision, rfl⟩ := requireMutableRun_eq_ok hrun
  obtain ⟨hfile, hid⟩ := runBook_run hfound
  obtain ⟨hsequence, input, hfollows, hinputId, -, hnew, hbook⟩ := createRunInput_eq_ok hinput
  have hsame : SameRuns w w₂ := Within.of_eq hmessage
  have hemitted : SameRuns w₄ w₅ := Within.of_eq hemit
  have hread : SameRuns w₆ w₇ := Within.of_eq hcursor
  rw [hid] at hfollows hnew hbook
  rw [hsame] at hnew hbook
  have hrevised := runBook_updateRun hupdate (fun _ => rfl) fun _ => rfl
  rw [World.tick_db, hbook, RunBook.edit_edit] at hrevised
  have hwoken := runBook_enqueueWake rfl hwake
  rw [hemitted, hrevised, RunBook.edit_edit, ← hread] at hwoken
  refine .of_edit hwoken ?_
  simp only [hfile, hsequence, Option.map_some]
  refine .addInput hfile hmutable ⟨rfl, ?_⟩ hfollows hnew ⟨rfl, hfollows.runId_eq.symm, ?_⟩
  · cases hcommand : command.expectedRunRevision with
    | none => simp [hcommand] at hcarried
    | some revision => exact congrArg some (hrevision revision hcommand).symm
  · rw [hinputId]
    rfl

theorem runBook_activation_runId {db : Database} {id : String} {a : ActivationAttempt}
    (h : a ∈ (runBook db id).activations) : a.runId = some id := by
  obtain ⟨r, hr, rfl⟩ := List.mem_map.mp h
  exact of_decide_eq_true (Table.mem_filter.mp hr).2

theorem ends_revoke (revokedAt : Timestamp) (reason : String) :
    Ends (ActivationAttempt.revoke revokedAt reason) :=
  ⟨fun _ => rfl, fun _ _ => .inr (by simp [ActivationAttempt.revoke])⟩

/-- Revoking the Activations of a Run ends all of them. -/
theorem revokeRunActivations_eq_ok {runId reason : String} {revokedAt : Timestamp} {u : Unit}
    (h : revokeRunActivations runId reason revokedAt w = (.ok u, w')) :
    ∃ revoke, Ends revoke ∧ (∀ a ∈ (runBook w.db runId).activations, (revoke a).Ended) ∧
      runBook w'.db = (runBook w.db).edit runId fun f =>
        { f with activations := f.activations.map revoke } := by
  simp only [revokeRunActivations, bind_eq_ok] at h
  obtain ⟨changed, w₁, hupdate, hmark⟩ := h
  have hsame : SameRuns w₁ w' := Within.of_eq hmark
  have hclose := runBook_updateActivations hupdate (fun _ => rfl) (fun _ => rfl) fun _ => rfl
  refine ⟨fun r => if r.runId = some runId && r.finishedAt.isNone && r.revokedAt.isNone then
    r.revoke revokedAt reason else r, (ends_revoke revokedAt reason).ite, fun a ha => ?_, ?_⟩
  · beta_reduce
    split
    · exact .inr (by simp [ActivationAttempt.revoke])
    · rename_i hkept
      have hkept : a.finishedAt = none → ¬ a.revokedAt = none := by
        simpa [runBook_activation_runId ha] using hkept
      cases hfinished : a.finishedAt with
      | some at' => exact .inl (by rw [hfinished]; rfl)
      | none => exact .inr (Option.ne_none_iff_isSome.mp (hkept hfinished))
  · refine hsame.trans (hclose.trans (RunBook.eq_edit rfl fun id hid => ?_))
    have hothers : ∀ a ∈ (runBook w.db id).activations, ¬ (a.runId = some runId &&
        a.finishedAt.isNone && a.revokedAt.isNone) = true := by
      intro a ha
      have hother : some id ≠ some runId := fun heq => hid (Option.some.inj heq)
      simp [runBook_activation_runId ha, hother]
    refine RunFile.ext rfl rfl rfl ?_ rfl
    exact Table.map_ite_eq_self hothers

/-- A Run gets its next activity. -/
theorem insertActivity_eq_ok {runId activationId kind : String} {providerAttemptId : Option String}
    {payload : Json} {retentionClass : RetentionClass} {position : ActivityPosition}
    (h : insertActivity kernel runId activationId providerAttemptId kind payload retentionClass w =
      (.ok position, w')) :
    ∃ run activity, (runBook w.db runId).run = some run ∧
      activity.sequence = run.nextActivitySequence ∧
      runBook w'.db = (runBook w.db).edit runId fun f =>
        { f with
          run := f.run.map fun r => { r with nextActivitySequence := run.nextActivitySequence + 1 }
          activities := f.activities ++ [activity] } := by
  simp only [insertActivity, bind_eq_ok, requireNonEmpty_eq_ok, requireRun_eq_ok, newId_eq_ok,
    now_eq_ok, selectRow_eq_ok, throwIf_eq_ok, pure_eq_ok] at h
  obtain ⟨_, _, ⟨-, rfl⟩, run, _, ⟨hfound, rfl⟩, id, _, ⟨-, rfl⟩, createdAt, _, ⟨-, rfl⟩, attempt, _,
    ⟨-, rfl⟩, _, _, ⟨-, rfl⟩, _, w₁, hinsert, _, w₂, hupdate, rfl, rfl⟩ := h
  obtain ⟨hfile, hid⟩ := runBook_run hfound
  have hinserted := runBook_insertActivity hinsert
  have hupdated := runBook_updateRun hupdate (fun _ => rfl) fun _ => rfl
  rw [hinserted, RunBook.edit_edit] at hupdated
  exact ⟨run.unstamped, _, hfile, rfl, hupdated⟩

theorem waitRun_step {command : WaitRunCommand}
    (h : waitRun kernel command principal context correlationId w = (.ok result, w')) :
    (runBook w.db).Step (KernelCommand.permit (.WaitRun command) w) (runBook w'.db) := by
  simp only [waitRun, bind_eq_ok, throwIf_eq_ok, requireNonEmpty_eq_ok, now_eq_ok,
    pure_eq_ok] at h
  obtain ⟨run, w₁, hrun, activation, w₂, hactivation, _, _, ⟨hactive, rfl⟩, _, _, ⟨-, rfl⟩, updatedAt, _,
    ⟨-, rfl⟩, _, w₃, hupdate, revokedAt, _, ⟨-, rfl⟩, _, w₄, hrevoke, cursor, w₅, hemit, _, w₆,
    henqueue, -, rfl⟩ := h
  obtain ⟨hfound, hmutable, hrevision, rfl⟩ := requireMutableRun_eq_ok hrun
  obtain ⟨hfile, hid⟩ := runBook_run hfound
  have hread : SameRuns w w₂ := Within.of_eq hactivation
  have hafter : SameRuns w₄ w₆ :=
    trans_of SameRuns (Within.of_eq hemit) (Within.of_eq henqueue)
  have hupdated := runBook_updateRun hupdate (fun _ => rfl) fun _ => rfl
  obtain ⟨revoke, hends, hended, hrevoked⟩ := revokeRunActivations_eq_ok hrevoke
  rw [World.tick_db, hread] at hupdated
  rw [World.tick_db, hupdated] at hended hrevoked
  rw [RunBook.edit_self] at hended
  rw [RunBook.edit_edit, ← hafter] at hrevoked
  refine .of_edit hrevoked ?_
  simp only [hfile, Option.map_some]
  have hactive : run.state = .Active := not_not.mp hactive
  have hnumbers : ([] : List RunActivityEvent).map (·.sequence) =
    List.range' run.unstamped.nextActivitySequence 0 := rfl
  have hexpects : (KernelCommand.permit (.WaitRun command) w).expects command.runId
    run.unstamped.revision := ⟨rfl, (hrevision _ rfl).symm⟩
  have hmove := RunFile.Move.wait updatedAt hfile hactive hexpects hnumbers hends hended
  rw [List.append_nil] at hmove
  exact hmove

theorem adoptRunConfig_step {command : AdoptRunConfigCommand}
    (h : adoptRunConfig kernel command principal correlationId w = (.ok result, w')) :
    (runBook w.db).Step (KernelCommand.permit (.AdoptRunConfig command) w) (runBook w'.db) := by
  simp only [adoptRunConfig, bind_eq_ok, requireKind_eq_ok, throwIf_eq_ok, now_eq_ok,
    checkRevision_eq_ok, selectRow_eq_ok, pure_eq_ok] at h
  obtain ⟨_, _, ⟨-, rfl⟩, _, w₁, hpositive₁, _, w₂, hpositive₂, _, w₃, hpositive₃, run, w₄, hrun,
    agent, w₅, hagent, _, _, ⟨-, rfl⟩, _, _, ⟨htarget, rfl⟩, _, _, ⟨-, rfl⟩, _, _, ⟨-, rfl⟩, updatedAt, _,
    ⟨-, rfl⟩, _, w₆, hupdate, _, w₇, hemit, -, rfl⟩ := h
  obtain ⟨hfound, hmutable, hrevision, rfl⟩ := requireMutableRun_eq_ok hrun
  obtain ⟨hfile, hid⟩ := runBook_run hfound
  have hread : SameRuns w w₃ := trans_of SameRuns (Within.of_eq hpositive₁)
    (trans_of SameRuns (Within.of_eq hpositive₂) (Within.of_eq hpositive₃))
  have hread' : SameRuns w₃ w₅ := Within.of_eq hagent
  have hafter : SameRuns w₆ w₇ := Within.of_eq hemit
  have hupdated := runBook_updateRun hupdate (fun _ => rfl) fun _ => rfl
  rw [World.tick_db, hread', hread, ← hafter] at hupdated
  rw [hread] at hfile
  refine .of_edit hupdated ?_
  simp only [hfile, Option.map_some]
  refine .adopt hfile hmutable ⟨rfl, (hrevision _ rfl).symm⟩ ?_
  show run.agentConfigRevision < command.targetAgentConfigRevision.toNat
  omega

/-- A Run is ended: its Pending inputs and its Activations with it. -/
theorem terminateRun_step {run : Run} {termination : Termination} {reason : String}
    {activationId : Option String} {commandType : CommandType}
    (hfound : (w.db.table Run).find? (fun r => r.id = run.id) = some run)
    (hmutable : isTerminalRunState run.state = false)
    (hexpects : permit.expects run.id run.revision)
    (h : terminateRun kernel run termination reason principal activationId correlationId
      commandType w = (.ok result, w')) :
    (runBook w.db).Step permit (runBook w'.db) := by
  simp only [terminateRun, bind_eq_ok, requireNonEmpty_eq_ok, now_eq_ok, pure_eq_ok] at h
  obtain ⟨_, _, ⟨-, rfl⟩, _, w₁, hinputs, updatedAt, _, ⟨-, rfl⟩, _, w₂, hupdate, revokedAt, _,
    ⟨-, rfl⟩, _, w₃, hrevoke, capacity, w₄, hcapacity, cursor, w₅, hemit, _, w₆, henqueue, -,
    rfl⟩ := h
  obtain ⟨hfile, hid⟩ := runBook_run hfound
  have hafter : SameRuns w₃ w₆ := trans_of SameRuns (Within.of_eq hcapacity)
    (trans_of SameRuns (Within.of_eq hemit) (Within.of_eq henqueue))
  have hof : ∀ r : RunInput, (decide (r.runId = run.id) && decide (r.disposition = .Pending)) =
      true → r.runId = run.id :=
    fun r hr => of_decide_eq_true (Bool.and_eq_true_iff.mp hr).1
  have hdisposed := runBook_updateInputs hinputs (fun _ => rfl) (fun _ => rfl) (fun _ => rfl)
    fun r _ => hof r
  have hupdated := runBook_updateRun hupdate (fun _ => rfl) fun _ => rfl
  obtain ⟨revoke, hends, hended, hrevoked⟩ := revokeRunActivations_eq_ok hrevoke
  rw [World.tick_db, hdisposed, RunBook.edit_edit] at hupdated
  rw [World.tick_db, hupdated] at hended hrevoked
  rw [RunBook.edit_self] at hended
  rw [RunBook.edit_edit, ← hafter] at hrevoked
  refine .of_edit hrevoked ?_
  simp only [hfile, Option.map_some]
  have hrunId : ∀ i ∈ (runBook w.db run.id).inputs, i.runId = run.id := by
    intro i hi
    obtain ⟨r, hr, rfl⟩ := List.mem_map.mp hi
    exact of_decide_eq_true (Table.mem_filter.mp hr).2
  refine .finish hfile hmutable hexpects (by cases termination <;> rfl) (fun i hi => ?_)
    (fun i hi => ?_) hends hended
  · by_cases hpending : i.disposition = .Pending
    · refine .inl ⟨?_, hpending, ?_, ?_⟩ <;> simp [hrunId i hi, hpending, RunInput.assignment]
    · exact .inr (by simp [hpending])
  · by_cases hpending : i.disposition = .Pending
    · simp [hrunId i hi, hpending]
    · simp [hpending]

theorem cancelRun_step {command : CancelRunCommand}
    (h : cancelRun kernel command principal correlationId w = (.ok result, w')) :
    (runBook w.db).Step (KernelCommand.permit (.CancelRun command) w) (runBook w'.db) := by
  simp only [cancelRun, bind_eq_ok, requireKind_eq_ok] at h
  obtain ⟨_, _, ⟨-, rfl⟩, run, _, hrun, hterminate⟩ := h
  obtain ⟨hfound, hmutable, hrevision, rfl⟩ := requireMutableRun_eq_ok hrun
  have hid := (runBook_run hfound).2
  rw [← hid] at hfound
  exact terminateRun_step hfound hmutable ⟨hid.symm, (hrevision _ rfl).symm⟩ hterminate

theorem failRun_step {command : FailRunCommand}
    (h : failRun kernel command principal context correlationId w = (.ok result, w')) :
    (runBook w.db).Step (KernelCommand.permit (.FailRun command) w) (runBook w'.db) := by
  simp only [failRun, bind_eq_ok] at h
  obtain ⟨run, _, hrun, activation, w₁, hactivation, hterminate⟩ := h
  obtain ⟨hfound, hmutable, hrevision, rfl⟩ := requireMutableRun_eq_ok hrun
  have hid := (runBook_run hfound).2
  have hread : SameDatabase w w₁ := Within.of_eq hactivation
  rw [← hid, ← hread] at hfound
  rw [← hread]
  exact terminateRun_step hfound hmutable ⟨hid.symm, (hrevision _ rfl).symm⟩ hterminate

/-- An input as the file of its Run has it. -/
theorem runBook_input {input : RunInput} (h : input ∈ w.db.table RunInput) :
    input.unstamped ∈ (runBook w.db input.runId).inputs :=
  List.mem_map_of_mem (Table.mem_filter.mpr ⟨h, decide_eq_true rfl⟩)

theorem withdrawRunInput_step {command : WithdrawRunInputCommand}
    (h : withdrawRunInput kernel command principal context correlationId w = (.ok result, w')) :
    (runBook w.db).Step (KernelCommand.permit (.WithdrawRunInput command) w) (runBook w'.db) := by
  simp only [withdrawRunInput, requireRunInput, bind_eq_ok, requireRow_eq_ok, throwIf_eq_ok,
    requireNonEmpty_eq_ok, now_eq_ok, checkRevision_eq_ok, pure_eq_ok] at h
  obtain ⟨input, _, ⟨hinput, rfl⟩, run, w₁, hrun, _, _, ⟨-, rfl⟩, _, _, ⟨hpending, rfl⟩, _, _, ⟨-, rfl⟩,
    activationId, w₂, hactivation, _, _, ⟨-, rfl⟩, _, w₃, hdispose, updatedAt, _, ⟨-, rfl⟩, _, w₄,
    hupdate, cursor, w₅, hemit, _, w₆, henqueue, -, rfl⟩ := h
  obtain ⟨hmem, hinputId⟩ := Table.find?_eq_some hinput
  have hinputId : input.id = command.runInputId := of_decide_eq_true hinputId
  obtain ⟨hfound, hmutable, hrevision, rfl⟩ := requireMutableRun_eq_ok hrun
  obtain ⟨hfile, hid⟩ := runBook_run hfound
  have hread : SameDatabase w w₂ := Within.of_eq hactivation
  have hafter : SameRuns w₄ w₆ := trans_of SameRuns (Within.of_eq hemit) (Within.of_eq henqueue)
  have hsameRow : ∀ r ∈ w.db.table RunInput, r.id = command.runInputId → r = input :=
    fun r hr hrid => Table.eq_of_key hr hmem (k := primaryKey [.text r.id]) (by simp [Keyed.keys])
      (by simp [Keyed.keys, hrid, hinputId])
  have hof : ∀ r ∈ w₂.db.table RunInput, decide (r.id = command.runInputId) = true →
      r.runId = run.id := by
    intro r hr hrid
    rw [hread] at hr
    rw [hsameRow r hr (of_decide_eq_true hrid), hid]
  have hdisposed := runBook_updateInputs hdispose (fun _ => rfl) (fun _ => rfl) (fun _ => rfl) hof
  have hupdated := runBook_updateRun hupdate (fun _ => rfl) fun _ => rfl
  rw [World.tick_db, hdisposed, RunBook.edit_edit, hread, ← hafter] at hupdated
  refine .of_edit hupdated ?_
  rw [← hid] at hfile
  simp only [hfile, Option.map_some]
  have hmine : input.unstamped ∈ (runBook w.db run.id).inputs := hid ▸ runBook_input hmem
  have hunstamped : ∀ i ∈ (runBook w.db run.id).inputs, i.id = command.runInputId →
      i = input.unstamped := by
    intro i hi hiid
    obtain ⟨r, hr, rfl⟩ := List.mem_map.mp hi
    exact congrArg RunInput.unstamped (hsameRow r (Table.mem_filter.mp hr).1 hiid)
  have hwithdrawn : ∀ i ∈ (runBook w.db run.id).inputs, i.id = command.runInputId →
      i.Disposed { i with
        disposition := .Withdrawn
        dispositionRevision := input.dispositionRevision + 1
        dispositionReason := some command.reason
        supersededByRunInputId := none } := by
    intro i hi hiid
    rw [hunstamped i hi hiid]
    exact ⟨rfl, not_not.mp hpending, (by rintro ⟨⟩), rfl⟩
  have hmineId : input.unstamped.id = command.runInputId := hinputId
  refine .withdraw hfile hmutable
    ⟨⟨input.unstamped, hmine, hinputId⟩, (hrevision _ rfl).symm⟩ hmine ?_ fun i hi => ?_
  · rw [if_pos (decide_eq_true hmineId)]
    exact hwithdrawn _ hmine hinputId
  · by_cases hiid : i.id = command.runInputId
    · rw [if_pos (decide_eq_true hiid)]
      exact .inl (hwithdrawn i hi hiid)
    · exact .inr (if_neg (mt of_decide_eq_true hiid))

/-! ### Completion -/

/-- The input was Pending, and its disposition has been written once. -/
structure RunInput.Rewritten (old new : RunInput) : Prop where
  assignment : new.assignment = old.assignment
  pending : old.disposition = .Pending
  revision : new.dispositionRevision = old.dispositionRevision + 1

theorem table_input_runId {id : String} {p : RunInput → Prop}
    (hother : ∀ id', id' ≠ id → ∀ i ∈ (runBook w.db id').inputs, ¬ p i) {r : RunInput}
    (hr : r ∈ w.db.table RunInput) (hp : p r.unstamped) : r.runId = id := by
  by_contra hid
  exact hother r.runId hid _ (runBook_input hr) hp

/-- Disposing of an input writes the row with its identifier. -/
theorem disposeRunInput_eq_ok {exception : Option CompletionException} {inputId id : String}
    {u : Unit} (hother : ∀ id', id' ≠ id → ∀ i ∈ (runBook w.db id').inputs, i.id ≠ inputId)
    (h : disposeRunInput exception inputId w = (.ok u, w')) :
    ∃ rewrite : RunInput → RunInput, (∀ i, (rewrite i).assignment = i.assignment) ∧
      (∀ i, (rewrite i).dispositionRevision = i.dispositionRevision + 1) ∧
      runBook w'.db = (runBook w.db).edit id fun f =>
        { f with inputs := f.inputs.map fun i => if i.id = inputId then rewrite i else i } := by
  have hof : ∀ r ∈ w.db.table RunInput, decide (r.id = inputId) = true → r.runId = id :=
    fun r hr hrid => table_input_runId hother hr (of_decide_eq_true hrid)
  cases exception with
  | none =>
      have hwritten := runBook_updateInputs h (fun _ => rfl) (fun _ => rfl) (fun _ => rfl) hof
      simp only [decide_eq_true_eq] at hwritten
      refine ⟨_, ?_, ?_, hwritten⟩
      · exact fun _ => rfl
      · exact fun _ => rfl
  | some exception =>
      have hwritten := runBook_updateInputs h (fun _ => rfl) (fun _ => rfl) (fun _ => rfl) hof
      simp only [decide_eq_true_eq] at hwritten
      refine ⟨_, ?_, ?_, hwritten⟩
      · exact fun _ => rfl
      · exact fun _ => rfl

/-- What the loop over the inputs of one Run does, if the rows still are as they were read. -/
theorem completeRunInputs_eq_ok {exceptions : List CompletionException} {supplied : List String}
    {throughSequence : Int} {id : String} {xs : List RunInput} {u : Unit}
    (hnodup : (xs.map (·.id)).Nodup)
    (hother : ∀ id', id' ≠ id → ∀ i ∈ (runBook w.db id').inputs, i.id ∉ xs.map (·.id))
    (hread : ∀ i ∈ (runBook w.db id).inputs, ∀ x ∈ xs, i.id = x.id →
      i.disposition = x.disposition)
    (h : forEach xs (completeRunInput exceptions supplied throughSequence) w = (.ok u, w')) :
    ∃ dispose : RunInput → RunInput,
      (∀ i ∈ (runBook w.db id).inputs, i.Rewritten (dispose i) ∨ dispose i = i) ∧
      (∀ i, i.id ∉ xs.map (·.id) → dispose i = i) ∧
      runBook w'.db = (runBook w.db).edit id fun f => { f with inputs := f.inputs.map dispose } := by
  induction xs generalizing w with
  | nil =>
      obtain ⟨-, rfl⟩ := pure_eq_ok.mp h
      exact ⟨fun i => i, fun i _ => .inr rfl, fun _ _ => rfl, by simp [RunBook.edit]⟩
  | cons x rest ih =>
      obtain ⟨hx, hnodup⟩ := List.nodup_cons.mp hnodup
      have hx : x.id ∉ rest.map (·.id) := hx
      simp only [forEach, bind_eq_ok] at h
      obtain ⟨_, w₁, hfirst, hrest⟩ := h
      -- the first iteration disposes of `x` or leaves everything as it is
      have hstep : ∃ first : RunInput → RunInput,
          (∀ i ∈ (runBook w.db id).inputs, i.Rewritten (first i) ∨ first i = i) ∧
          (∀ i, i.id ≠ x.id → first i = i) ∧ (∀ i, (first i).id = i.id) ∧
          runBook w₁.db = (runBook w.db).edit id fun f =>
            { f with inputs := f.inputs.map first } := by
        unfold completeRunInput at hfirst
        split at hfirst
        · obtain ⟨-, rfl⟩ := pure_eq_ok.mp hfirst
          exact ⟨fun i => i, fun i _ => .inr rfl, fun _ _ => rfl, fun _ => rfl,
            by simp [RunBook.edit]⟩
        · rename_i hdue
          simp only [bind_eq_ok, throwIf_eq_ok] at hfirst
          obtain ⟨_, _, ⟨-, rfl⟩, hdispose⟩ := hfirst
          have hpending : x.disposition = .Pending := not_not.mp (not_or.mp hdue).1
          obtain ⟨rewrite, hassignment, hrevision, hbook⟩ := disposeRunInput_eq_ok
            (fun id' hid' i hi hsame => hother id' hid' i hi (by simp [hsame])) hdispose
          refine ⟨_, fun i hi => ?_, fun i hi => if_neg hi, fun i => ?_, hbook⟩
          · by_cases hid : i.id = x.id
            · rw [if_pos hid]
              exact .inl ⟨hassignment i, (hread i hi x List.mem_cons_self hid).trans hpending,
                hrevision i⟩
            · exact .inr (if_neg hid)
          · split
            · exact RunInput.id_of_assignment (hassignment i)
            · rfl
      obtain ⟨first, hfirst, hkeep, hids, hbook⟩ := hstep
      have hinputs : (runBook w₁.db id).inputs = (runBook w.db id).inputs.map first := by
        rw [hbook, RunBook.edit_self]
      have hfiles : ∀ id', id' ≠ id → runBook w₁.db id' = runBook w.db id' := by
        intro id' hid'
        rw [hbook, RunBook.edit, Function.update_of_ne hid']
      obtain ⟨later, hlater, hkeep', hbook'⟩ := ih hnodup
        (fun id' hid' i hi hmem => hother id' hid' i (hfiles id' hid' ▸ hi)
          (List.mem_cons_of_mem _ hmem))
        (fun i hi y hy hid => by
          rw [hinputs] at hi
          obtain ⟨j, hj, rfl⟩ := List.mem_map.mp hi
          rw [hids] at hid
          have hne : j.id ≠ x.id := by
            intro heq
            rw [← heq, hid] at hx
            exact hx (List.mem_map_of_mem hy)
          rw [hkeep j hne]
          exact hread j hj y (List.mem_cons_of_mem _ hy) hid)
        hrest
      refine ⟨later ∘ first, fun i hi => ?_, fun i hi => ?_, ?_⟩
      · by_cases hid : i.id = x.id
        · have hout : (first i).id ∉ rest.map (·.id) := by
            rw [hids, hid]
            exact hx
          rw [Function.comp_apply, hkeep' _ hout]
          exact hfirst i hi
        · have hmem : i ∈ (runBook w₁.db id).inputs := by
            rw [hinputs, ← hkeep i hid]
            exact List.mem_map_of_mem hi
          rw [Function.comp_apply, hkeep i hid]
          exact hlater i hmem
      · have hout := List.not_mem_of_not_mem_cons hi
        rw [Function.comp_apply, hkeep i (List.ne_of_not_mem_cons hi), hkeep' i hout]
      · rw [hbook', hbook, RunBook.edit_edit]
        simp only [List.map_map]

/-- The inputs of a Run that completes: the Pending ones are disposed of, every one. -/
theorem disposeRunInputs_eq_ok {command : CompleteRunCommand} {activationId : String} {u : Unit}
    (h : disposeRunInputs command activationId w = (.ok u, w')) :
    ∃ dispose : RunInput → RunInput,
      (∀ i ∈ (runBook w.db command.runId).inputs, i.Disposed (dispose i) ∨ dispose i = i) ∧
      (∀ i ∈ (runBook w.db command.runId).inputs, (dispose i).disposition ≠ .Pending) ∧
      runBook w'.db = (runBook w.db).edit command.runId fun f =>
        { f with inputs := f.inputs.map dispose } := by
  simp only [disposeRunInputs, bind_eq_ok, throwIf_eq_ok, selectRows_eq_ok] at h
  obtain ⟨_, _, ⟨-, rfl⟩, _, _, ⟨-, rfl⟩, found, _, ⟨hfound, rfl⟩, supplied, _, ⟨-, rfl⟩,
    supersession, w₁, hcheck, _, _, ⟨-, rfl⟩, _, w₂, hloop, pending, _, ⟨hpending, rfl⟩, hnone,
    rfl⟩ := h
  have hread : SameDatabase w w₁ := Within.of_eq hcheck
  have hmem : ∀ x ∈ orderBy RunInput.runInputSequence found, x ∈ w.db.table RunInput ∧
      x.runId = command.runId := by
    intro x hx
    rw [mem_orderBy, ← hfound] at hx
    exact ⟨(Table.mem_filter.mp hx).1, of_decide_eq_true (Table.mem_filter.mp hx).2⟩
  have hsame : ∀ id, ∀ i ∈ (runBook w.db id).inputs,
      ∀ x ∈ orderBy RunInput.runInputSequence found, i.id = x.id → i = x.unstamped := by
    intro id i hi x hx hid
    obtain ⟨r, hr, rfl⟩ := List.mem_map.mp hi
    have hid : r.id = x.id := hid
    exact congrArg RunInput.unstamped (Table.eq_of_key (Table.mem_filter.mp hr).1 (hmem x hx).1
      (k := primaryKey [.text r.id]) (by simp [Keyed.keys]) (by simp [Keyed.keys, hid]))
  have hnodup : ((orderBy RunInput.runInputSequence found).map (·.id)).Nodup := by
    rw [List.Perm.nodup_iff ((orderBy_perm RunInput.runInputSequence found).map _), ← hfound]
    exact (Table.nodup_map (w.db.table RunInput) (k := fun id => primaryKey [.text id])
      (by simp [Keyed.keys])).sublist (List.filter_sublist.map _)
  have hother : ∀ id, id ≠ command.runId → ∀ i ∈ (runBook w.db id).inputs,
      i.id ∉ (orderBy RunInput.runInputSequence found).map (·.id) := by
    intro id hid i hi hmemId
    obtain ⟨x, hx, hsameId⟩ := List.mem_map.mp hmemId
    have hrun := congrArg RunInput.runId (hsame id i hi x hx hsameId.symm)
    obtain ⟨r, hr, rfl⟩ := List.mem_map.mp hi
    have hrunId : r.runId = id := of_decide_eq_true (Table.mem_filter.mp hr).2
    exact hid (hrunId.symm.trans (hrun.trans (hmem x hx).2))
  obtain ⟨dispose, hdispose, -, hbook⟩ := completeRunInputs_eq_ok hnodup
    (fun id hid i hi => hother id hid i (by rwa [hread] at hi))
    (fun i hi x hx hid => by
      rw [hread] at hi
      rw [hsame _ i hi x hx hid]
      rfl)
    hloop
  rw [hread] at hdispose hbook
  have hsettled : ∀ i ∈ (runBook w.db command.runId).inputs,
      (dispose i).disposition ≠ .Pending := by
    intro i hi hstill
    have hi' : dispose i ∈ (runBook w₂.db command.runId).inputs := by
      rw [hbook, RunBook.edit_self]
      exact List.mem_map_of_mem hi
    obtain ⟨r, hr, hrow⟩ := List.mem_map.mp hi'
    obtain ⟨hr, hrun⟩ := Table.mem_filter.mp hr
    have hcounted : r ∈ pending := by
      rw [← hpending, Table.mem_filter]
      rw [← hrow] at hstill
      have hstill : r.disposition = .Pending := hstill
      exact ⟨hr, by simpa [hstill] using hrun⟩
    exact hnone (List.length_pos_of_mem hcounted)
  refine ⟨dispose, fun i hi => ?_, hsettled, hbook⟩
  exact (hdispose i hi).imp_left fun hrewritten =>
    ⟨hrewritten.assignment, hrewritten.pending, hsettled i hi, hrewritten.revision⟩

theorem completeRun_step {command : CompleteRunCommand}
    (h : completeRun kernel command principal context correlationId w = (.ok result, w')) :
    (runBook w.db).Step (KernelCommand.permit (.CompleteRun command) w) (runBook w'.db) := by
  simp only [completeRun, bind_eq_ok, now_eq_ok, pure_eq_ok] at h
  obtain ⟨run, _, hrun, activation, w₁, hactivation, _, w₂, hdispose, finalMessageId, w₃, hreply,
    updatedAt, _, ⟨-, rfl⟩, _, w₄, hupdate, revokedAt, _, ⟨-, rfl⟩, _, w₅, hrevoke, capacity, w₆,
    hcapacity, cursor, w₇, hemit, _, w₈, henqueue, -, rfl⟩ := h
  obtain ⟨hfound, hmutable, hrevision, rfl⟩ := requireMutableRun_eq_ok hrun
  obtain ⟨hfile, hid⟩ := runBook_run hfound
  have hread : SameDatabase w w₁ := Within.of_eq hactivation
  have hreplied : SameRuns w₂ w₃ := Within.of_eq hreply
  have hafter : SameRuns w₅ w₈ := trans_of SameRuns (Within.of_eq hcapacity)
    (trans_of SameRuns (Within.of_eq hemit) (Within.of_eq henqueue))
  obtain ⟨dispose, hdisposes, hsettled, hdisposed⟩ := disposeRunInputs_eq_ok hdispose
  rw [hread] at hdisposes hsettled hdisposed
  have hupdated := runBook_updateRun hupdate (fun _ => rfl) fun _ => rfl
  obtain ⟨revoke, hends, hended, hrevoked⟩ := revokeRunActivations_eq_ok hrevoke
  rw [World.tick_db, hreplied, hdisposed, RunBook.edit_edit] at hupdated
  rw [World.tick_db, hupdated] at hended hrevoked
  rw [RunBook.edit_self] at hended
  rw [RunBook.edit_edit, ← hafter] at hrevoked
  refine .of_edit hrevoked ?_
  simp only [hfile, Option.map_some]
  exact .finish hfile hmutable ⟨rfl, (hrevision _ rfl).symm⟩ rfl hdisposes hsettled hends hended

/-! ### Activations -/

/-- The row, the inputs it is given and the event of an Activation of a Run. -/
theorem createActivation_eq_ok {new : NewActivation} {id : String} (hid : new.runId = some id)
    (h : createActivation kernel new principal correlationId w = (.ok result, w')) :
    ∃ activation : ActivationAttempt, activation.runId = some id ∧
      activation.agentId = new.agentId ∧
      activation.runActivationGeneration = new.runActivationGeneration ∧
      activation.finishedAt = none ∧ activation.revokedAt = none ∧
      (∀ a ∈ (runBook w.db id).activations, a.id ≠ activation.id) ∧
      runBook w'.db = (runBook w.db).edit id fun f =>
        { f with activations := f.activations ++ [activation] } := by
  simp only [createActivation, bind_eq_ok, newId_eq_ok, selectRows_eq_ok, pure_eq_ok] at h
  obtain ⟨activationId, _, ⟨-, rfl⟩, _, w₁, hinsert, inputs, _, ⟨-, rfl⟩, _, w₂, hinputs, _, w₃, hemit,
    -, rfl⟩ := h
  obtain ⟨hnew, hbook⟩ := runBook_insertActivation hid hinsert
  have hafter : SameRuns w₁ w₃ := trans_of SameRuns (Within.of_eq hinputs) (Within.of_eq hemit)
  exact ⟨_, hid, rfl, rfl, rfl, rfl, hnew, hafter.trans hbook⟩

theorem sameRuns_createActivation {new : NewActivation} (hnone : new.runId = none)
    (h : createActivation kernel new principal correlationId w = (.ok result, w')) :
    SameRuns w w' := by
  simp only [createActivation, bind_eq_ok, newId_eq_ok, selectRows_eq_ok, pure_eq_ok] at h
  obtain ⟨activationId, _, ⟨-, rfl⟩, _, w₁, hinsert, inputs, _, ⟨-, rfl⟩, _, w₂, hinputs, _, w₃, hemit,
    -, rfl⟩ := h
  have hbook : SameRuns w.issue w₁ := sameRuns_insertActivation hnone hinsert
  have hafter : SameRuns w₁ w₃ := trans_of SameRuns (Within.of_eq hinputs) (Within.of_eq hemit)
  exact trans_of SameRuns hbook hafter

/-- The Run is Active afterwards, in the new generation; it was revised if it was Waiting. -/
theorem activateRun_eq_ok {run : Run} {runId : String} {generation revision : Nat}
    {now : Timestamp} (hfile : (runBook w.db runId).run = some run.unstamped)
    (hmutable : isTerminalRunState run.state = false)
    (h : activateRun kernel run runId generation now principal correlationId w =
      (.ok revision, w')) :
    runBook w'.db = (runBook w.db).edit runId fun f =>
      { f with
        run := some
          { run.unstamped with
            state := .Active
            revision := if run.state = .Waiting then run.revision + 1 else run.revision
            activationGeneration := generation
            updatedAt := now } } := by
  unfold activateRun at h
  split at h
  · rename_i hwaiting
    simp only [bind_eq_ok, pure_eq_ok] at h
    obtain ⟨_, w₁, hupdate, cursor, w₂, hemit, _, w₃, henqueue, -, rfl⟩ := h
    have hafter : SameRuns w₁ w₃ := trans_of SameRuns (Within.of_eq hemit) (Within.of_eq henqueue)
    have hupdated := runBook_updateRun hupdate (fun _ => rfl) fun _ => rfl
    rw [hafter, hupdated]
    refine RunBook.eq_edit ?_ fun id hid => ?_
    · rw [RunBook.edit_self, hfile, if_pos hwaiting]
      rfl
    · rw [RunBook.edit, Function.update_of_ne hid]
  · rename_i hactive
    simp only [bind_eq_ok, pure_eq_ok] at h
    obtain ⟨_, w₁, hupdate, -, rfl⟩ := h
    have hupdated := runBook_updateRun hupdate (fun _ => rfl) fun _ => rfl
    have hstate : run.state = .Active := by
      cases hstate : run.state <;> simp_all [isTerminalRunState]
    rw [hupdated]
    refine RunBook.eq_edit ?_ fun id hid => ?_
    · rw [RunBook.edit_self, hfile, if_neg hactive, ← hstate]
      rfl
    · rw [RunBook.edit, Function.update_of_ne hid]

theorem startRunActivation_step {command : StartActivationCommand} {runId : String}
    {now expiresAt : Timestamp}
    (hpermit : ∀ revision : Nat, command.expectedRunRevision = some (revision : Int) →
      permit.expects runId revision)
    (h : startRunActivation kernel command runId now expiresAt principal correlationId w =
      (.ok result, w')) :
    (runBook w.db).Step permit (runBook w'.db) := by
  simp only [startRunActivation, requireAgent, bind_eq_ok, throwIf_eq_ok, requireRow_eq_ok] at h
  obtain ⟨_, _, ⟨hcarried, rfl⟩, run, _, hrun, authority, w₁, hauthority, agent, _, ⟨hagent, rfl⟩, _,
    w₂, hrevoke, revision, w₃, hactivate, hcreate⟩ := h
  obtain ⟨hfound, hmutable, hrevision, rfl⟩ := requireMutableRun_eq_ok hrun
  obtain ⟨hfile, hrunId⟩ := runBook_run hfound
  have hread : SameDatabase w w₁ := Within.of_eq hauthority
  have hagentId : agent.id = run.ownerAgentId :=
    of_decide_eq_true (Table.find?_eq_some hagent).2
  obtain ⟨revoke, hends, hended, hrevoked⟩ := revokeRunActivations_eq_ok hrevoke
  rw [hread] at hended hrevoked
  have hactivated := activateRun_eq_ok (by rw [hrevoked, RunBook.edit_self, ← hfile]) hmutable
    hactivate
  obtain ⟨activation, hactivationRun, hactivationAgent, hgeneration, hfinished, hlive, hnew,
    hcreated⟩ := createActivation_eq_ok rfl hcreate
  rw [hactivated, RunBook.edit_self, hrevoked, RunBook.edit_self] at hnew
  rw [hactivated, RunBook.edit_edit, hrevoked, RunBook.edit_edit] at hcreated
  refine .of_edit hcreated ?_
  have hexpects : permit.expects runId run.unstamped.revision := by
    refine hpermit _ ?_
    cases hcommand : command.expectedRunRevision with
    | none => simp [hcommand] at hcarried
    | some expected => exact congrArg some (hrevision expected hcommand).symm
  refine .activate hfile hmutable hexpects
    ⟨?_, hactivationAgent.trans hagentId, hgeneration, hfinished, hlive⟩ (fun a ha => ?_) hends
    hended
  · rw [hactivationRun]
    exact congrArg some hrunId.symm
  · rw [← ActivationAttempt.id_of_start (hends.start a)]
    exact hnew _ (List.mem_map_of_mem ha)

theorem startAttentionActivation_same {command : StartActivationCommand} {attentionId : String}
    {now expiresAt : Timestamp}
    (h : startAttentionActivation kernel command attentionId now expiresAt principal correlationId
      w = (.ok result, w')) : SameRuns w w' := by
  simp only [startAttentionActivation, bind_eq_ok, throwIf_eq_ok, require_eq_ok,
    selectRow_eq_ok] at h
  obtain ⟨attention, w₁, hattention, _, _, ⟨-, rfl⟩, _, w₂, hlease, expiry, _, ⟨-, rfl⟩, existing, _,
    ⟨-, rfl⟩, hend⟩ := h
  have hread : SameRuns w w₂ :=
    trans_of SameRuns (Within.of_eq hattention) (Within.of_eq hlease)
  refine trans_of SameRuns hread ?_
  cases existing with
  | none =>
      obtain ⟨agent, w₃, hagent, hcreate⟩ := bind_eq_ok.mp hend
      have hfound : SameRuns w₂ w₃ := Within.of_eq hagent
      exact trans_of SameRuns hfound (sameRuns_createActivation rfl hcreate)
  | some existing =>
      obtain ⟨-, rfl⟩ := pure_eq_ok.mp hend
      exact refl_of SameRuns w₂

theorem startActivation_step {command : StartActivationCommand}
    (h : startActivation kernel command principal correlationId w = (.ok result, w')) :
    (runBook w.db).Step (KernelCommand.permit (.StartActivation command) w)
      (runBook w'.db) := by
  simp only [startActivation, bind_eq_ok, requireKind_eq_ok, throwIf_eq_ok, readClock_eq_ok] at h
  obtain ⟨_, _, ⟨-, rfl⟩, _, _, ⟨-, rfl⟩, durationMs, w₁, hduration, now, _, ⟨-, rfl⟩, hend⟩ := h
  have hread : SameDatabase w w₁ := Within.of_eq hduration
  split at hend
  · rename_i hcause
    have hpermit : ∀ revision : Nat, command.expectedRunRevision = some (revision : Int) →
        (KernelCommand.permit (.StartActivation command) w).expects (command.runId.getD "")
          revision :=
      fun revision hexpected => ⟨truthy_getD hcause, hexpected⟩
    have hstep := startRunActivation_step hpermit hend
    rw [World.tick_db, hread] at hstep
    exact hstep
  · have hsame : SameRuns w₁.tick w' := startAttentionActivation_same hend
    have hbefore : SameRuns w w₁.tick := congrArg runBook hread
    exact .of_same (trans_of SameRuns hbefore hsame)

/-! ### Decisions about Attentions -/

/-- No file but for Activations that end. -/
def ClosesRuns (w w' : World) : Prop :=
  ∃ e, Ends e ∧ runBook w'.db = (runBook w.db).close e

theorem RunBook.close_id (b : RunBook) : b.close (fun r => r) = b := by
  funext id
  simp [RunBook.close, RunFile.close]

theorem RunBook.close_close (b : RunBook) (e e' : ActivationAttempt → ActivationAttempt) :
    (b.close e).close e' = b.close (e' ∘ e) := by
  funext id
  simp [RunBook.close, RunFile.close]

instance : IsPreorder World ClosesRuns where
  refl w := ⟨fun r => r, .id, (RunBook.close_id _).symm⟩
  trans _ _ _ := by
    rintro ⟨e, he, hbook⟩ ⟨e', he', hbook'⟩
    exact ⟨e' ∘ e, he.comp he', by rw [hbook', hbook, RunBook.close_close]⟩

theorem ClosesRuns.of_same (h : SameRuns w w') : ClosesRuns w w' :=
  ⟨fun r => r, .id, h.trans (RunBook.close_id _).symm⟩

instance : ConcernsTables ClosesRuns [.runs, .runInputs, .runActivityEvents, .activationAttempts,
    .outboxEvents] where
  of_tables w w' htables hclock hissued hdraws :=
    .of_same (ConcernsTables.of_tables w w' htables hclock hissued hdraws)

theorem closesRuns_updateActivations {p : ActivationAttempt → Bool}
    {f : ActivationAttempt → ActivationAttempt} {hkeys : KeepsKeys f} (hf : Ends f)
    (hp : ∀ r, p r.unstamped = p r) (hrunId : ∀ r, (f r).runId = r.runId)
    (hunstamped : ∀ r, (f r).unstamped = f r.unstamped) :
    Within ClosesRuns (updateActivations p f hkeys) := by
  have hupdate : Within ClosesRuns (updateRows p f hkeys) :=
    Within.updateRows fun w =>
      ⟨_, hf.ite, runBook_update_activations hp hrunId hunstamped w⟩
  unfold updateActivations
  infer_instance

theorem RunBook.Step.of_closes (h : ClosesRuns w w') :
    (runBook w.db).Step permit (runBook w'.db) := by
  obtain ⟨e, he, hbook⟩ := h
  rw [hbook]
  exact .close he

instance (command : FinishActivationCommand) (principal : Principal) (context : PrincipalContext)
    (correlationId : String) :
    Within ClosesRuns (finishActivation kernel command principal context correlationId) := by
  have hfinish : ∀ now : Timestamp, Within ClosesRuns (updateActivations
      (fun r => r.id = command.activationId)
      (fun r => { r with
        finishedAt := some now, outcome := some command.outcome, detail := command.detail })) :=
    fun now => closesRuns_updateActivations ⟨fun _ => rfl, fun _ _ => .inl rfl⟩ (fun _ => rfl)
      (fun _ => rfl) fun _ => rfl
  unfold finishActivation
  infer_instance

instance (existing : AttentionDomainFence) (at' : Timestamp) :
    Within ClosesRuns (supersedeAttention existing at') := by
  have hrevoke : ∀ attentionId : String, Within ClosesRuns (updateActivations
      (fun r => r.attentionId = some attentionId && r.finishedAt.isNone && r.revokedAt.isNone)
      (ActivationAttempt.revoke at' "attention_domain_superseded")) :=
    fun attentionId => closesRuns_updateActivations (ends_revoke _ _) (fun _ => rfl)
      (fun _ => rfl) fun _ => rfl
  unfold supersedeAttention
  infer_instance

instance (attention : Attention) (leaseToken : String) (leaseExpiresAt at' : Timestamp)
    (existing : AttentionDomainFence) :
    Within ClosesRuns (takeOverAttentionDomain attention leaseToken leaseExpiresAt at'
      existing) := by
  unfold takeOverAttentionDomain
  infer_instance

instance (attention : Attention) (leaseToken : String) (leaseExpiresAt at' : Timestamp) :
    Within ClosesRuns (claimAttentionDomain attention leaseToken leaseExpiresAt at') := by
  unfold claimAttentionDomain
  infer_instance

instance (command : ClaimAttentionCommand) (principal : Principal) (correlationId : String) :
    Within ClosesRuns (claimAttention kernel command principal correlationId) := by
  have hrevoke : ∀ now : Timestamp, Within ClosesRuns (updateActivations
      (fun r => r.attentionId = some command.attentionId && r.revokedAt.isNone)
      (ActivationAttempt.revoke now "attention_lease_replaced")) :=
    fun now => closesRuns_updateActivations (ends_revoke _ _) (fun _ => rfl)
      (fun _ => rfl) fun _ => rfl
  unfold claimAttention
  infer_instance

instance (activationId : String) (now : Timestamp) (reason : String) :
    Within ClosesRuns (finishAttentionActivation activationId now reason) := by
  have hfinish : Within ClosesRuns (updateActivations (fun r => r.id = activationId)
      (ActivationAttempt.finishDecision now reason)) :=
    closesRuns_updateActivations ⟨fun _ => rfl, fun _ _ => .inl rfl⟩ (fun _ => rfl)
      (fun _ => rfl) fun _ => rfl
  unfold finishAttentionActivation
  infer_instance

instance (command : IgnoreAttentionCommand) (principal : Principal) (context : PrincipalContext)
    (correlationId : String) :
    Within ClosesRuns (ignoreAttention kernel command principal context correlationId) := by
  unfold ignoreAttention
  infer_instance


theorem RunBook.close_edit {b : RunBook} {e : ActivationAttempt → ActivationAttempt} {id : String}
    {g : RunFile → RunFile} (h : ∀ f, g (f.close e) = (g f).close e) :
    (b.close e).edit id g = (b.edit id g).close e := by
  funext id'
  by_cases hid : id' = id
  · subst hid
    exact (RunBook.edit_self _ _ _).trans ((h _).trans (by simp [RunBook.close]))
  · simp [RunBook.close, RunBook.edit, Function.update_of_ne hid]

theorem RunBook.Step.of_edit_close {b b' : RunBook} {id : String} {g : RunFile → RunFile}
    {e : ActivationAttempt → ActivationAttempt} (hbook : b' = (b.edit id g).close e)
    (hmove : (b id).Move permit id (g (b id))) (hends : Ends e) : b.Step permit b' := by
  rw [hbook]
  exact .move hmove hends

theorem requireAttentionDecisionContext_eq_ok {command : AttentionDecision}
    {decision : AttentionDecisionContext}
    (h : requireAttentionDecisionContext kernel command principal context w =
      (.ok decision, w')) :
    SameDatabase w w' ∧
      (w.db.table Attention).find? (fun r => r.id = command.attentionId) =
        some decision.attention ∧
      decision.agent.id = decision.attention.targetAgentId := by
  have hread : SameDatabase w w' := Within.of_eq h
  simp only [requireAttentionDecisionContext, requireAttention, bind_eq_ok, requireKind_eq_ok,
    throwIf_eq_ok, requireRow_eq_ok, pure_eq_ok] at h
  obtain ⟨_, _, ⟨-, rfl⟩, agent, w₁, hagent, attention, _, ⟨hattention, rfl⟩, _, _, ⟨htarget, rfl⟩, _,
    _, ⟨hopen, rfl⟩, _, w₂, hrevision, _, w₃, hlease, _, _, ⟨hcontext, rfl⟩, activation, w₄,
    hactivation, _, _, ⟨hscope, rfl⟩, _, w₅, hcurrent, rfl, rfl⟩ := h
  have hagentRead : SameDatabase w w₁ := Within.of_eq hagent
  rw [hagentRead] at hattention
  exact ⟨hread, hattention, not_not.mp htarget⟩

theorem admitRunFromAttention_parent {attention : Attention} {admission : CausalAdmission}
    (h : admitRunFromAttention attention w = (.ok admission, w')) :
    admission.parentAttentionId = attention.id := by
  simp only [admitRunFromAttention, bind_eq_ok, pure_eq_ok] at h
  obtain ⟨found, w₁, -, source, w₂, -, position, w₃, -, capacity, w₄, -, _, w₅, -, rfl, -⟩ := h
  rfl

theorem resolveAttentionWithRun_step {command : ResolveAttentionWithRunCommand}
    (h : resolveAttentionWithRun kernel command principal context correlationId w =
      (.ok result, w')) :
    (runBook w.db).Step (KernelCommand.permit (.ResolveAttentionWithRun command) w)
      (runBook w'.db) := by
  simp only [resolveAttentionWithRun, bind_eq_ok, newId_eq_ok, now_eq_ok, requireRun_eq_ok,
    pure_eq_ok] at h
  obtain ⟨decision, w₁, hdecision, admission, w₂, hadmission, runId, _, ⟨-, rfl⟩, now, _, ⟨-, rfl⟩, _,
    w₃, hinsert, run, _, ⟨hrun, rfl⟩, position, w₄, hinput, _, w₅, hfinish, _, w₆, hupdate, _, w₇,
    hdecide, cursor, w₈, hemit, _, w₉, hrecord, _, w₁₀, hwake, -, rfl⟩ := h
  obtain ⟨hread, hattention, hagent⟩ := requireAttentionDecisionContext_eq_ok hdecision
  have htables : SameTables TableName.butLeases w w₁ := Within.of_eq hdecision
  have hadmitted : SameDatabase w₁ w₂ := Within.of_eq hadmission
  have hbefore : SameDatabase w w₂ := trans_of SameDatabase hread hadmitted
  have hafter : SameRuns w₆ w₉ := trans_of SameRuns (Within.of_eq hdecide)
    (trans_of SameRuns (Within.of_eq hemit) (Within.of_eq hrecord))
  obtain ⟨hnone, hinserted⟩ := runBook_insertRun hinsert
  obtain ⟨hfile, hid⟩ := runBook_run hrun
  obtain ⟨hsequence, input, hfollows, hinputId, -, hnew, hadded⟩ := createRunInput_eq_ok hinput
  obtain ⟨e, hends, hclosed⟩ : ClosesRuns w₄ w₅ := Within.of_eq hfinish
  have hupdated := runBook_updateRun hupdate (fun _ => rfl) fun _ => rfl
  have hwoken := runBook_enqueueWake rfl hwake
  have hstart : runBook w₂.issue.tick.db = runBook w.db := congrArg runBook hbefore
  rw [hid] at hfollows hnew hadded
  rw [hstart] at hnone hinserted
  dsimp only at hnone hinserted
  rw [hafter, hupdated, hclosed, hadded, hinserted] at hwoken
  rw [RunBook.close_edit fun _ => rfl, RunBook.close_edit fun _ => rfl, RunBook.edit_edit,
    RunBook.edit_edit, RunBook.edit_edit] at hwoken
  rw [hinserted, RunBook.edit_self] at hfile hnew
  have hnext : run.nextInputSequence = 1 :=
    (congrArg Run.nextInputSequence (Option.some.inj hfile)).symm
  rw [hnext] at hfollows
  refine .of_edit_close hwoken ?_ hends
  have hparent : admission.parentAttentionId = decision.attention.id :=
    admitRunFromAttention_parent hadmission
  have hfound : decision.attention.id = command.attentionId :=
    of_decide_eq_true (Table.find?_eq_some hattention).2
  refine .create hnone rfl ⟨decision.attention, admission, w₁, w₂, ?_, htables, hadmission, rfl, rfl,
    rfl, rfl, rfl, rfl, hagent⟩ rfl rfl rfl rfl hfollows hnew ⟨rfl, hfollows.runId_eq.symm, ?_⟩
  · simp only [Run.unstamped, hparent, hfound]
    exact hattention
  · rw [hinputId]
    rfl

theorem requireContinuedRun_eq_ok {command : ResolveAttentionWithExistingRunCommand}
    {decision : AttentionDecisionContext} {run : Run}
    (h : requireContinuedRun command decision w = (.ok run, w')) :
    (w.db.table Run).find? (fun r => r.id = command.runId) = some run ∧
      isTerminalRunState run.state = false ∧ command.expectedRunRevision = run.revision ∧
      run.ownerAgentId = decision.agent.id ∧ w = w' := by
  simp only [requireContinuedRun, bind_eq_ok, requireRun_eq_ok, throwIf_eq_ok,
    checkRevision_eq_ok, pure_eq_ok] at h
  obtain ⟨found, _, ⟨hfound, rfl⟩, _, _, ⟨howner, rfl⟩, _, _, ⟨-, rfl⟩, _, _, ⟨hmutable, rfl⟩, _, _,
    ⟨hrevision, rfl⟩, rfl, rfl⟩ := h
  exact ⟨hfound, Bool.eq_false_iff.mpr hmutable, hrevision.symm, not_not.mp howner, rfl⟩

theorem resolveAttentionWithExistingRun_step {command : ResolveAttentionWithExistingRunCommand}
    (h : resolveAttentionWithExistingRun kernel command principal context correlationId w =
      (.ok result, w')) :
    (runBook w.db).Step (KernelCommand.permit (.ResolveAttentionWithExistingRun command) w)
      (runBook w'.db) := by
  simp only [resolveAttentionWithExistingRun, bind_eq_ok, now_eq_ok, pure_eq_ok] at h
  obtain ⟨decision, w₁, hdecision, run, _, hrun, now, _, ⟨-, rfl⟩, position, w₂, hinput, _, w₃,
    hupdate, _, w₄, hfinish, _, w₅, hdecide, cursor, w₆, hemit, _, w₇, hrecord, _, w₈, hwake, -,
    rfl⟩ := h
  obtain ⟨hfound, hmutable, hrevision, -, rfl⟩ := requireContinuedRun_eq_ok hrun
  have hread : SameDatabase w w₁ := Within.of_eq hdecision
  have hafter : SameRuns w₄ w₇ := trans_of SameRuns (Within.of_eq hdecide)
    (trans_of SameRuns (Within.of_eq hemit) (Within.of_eq hrecord))
  have hstart : runBook w₁.tick.db = runBook w.db := congrArg runBook hread
  rw [hread] at hfound
  obtain ⟨hfile, hid⟩ := runBook_run hfound
  obtain ⟨hsequence, input, hfollows, hinputId, -, hnew, hadded⟩ := createRunInput_eq_ok hinput
  obtain ⟨e, hends, hclosed⟩ : ClosesRuns w₃ w₄ := Within.of_eq hfinish
  have hupdated := runBook_updateRun hupdate (fun _ => rfl) fun _ => rfl
  have hwoken := runBook_enqueueWake rfl hwake
  rw [hid] at hfollows hnew hadded
  rw [hstart] at hnew hadded
  rw [hafter, hclosed, hupdated, hadded] at hwoken
  rw [RunBook.close_edit fun _ => rfl, RunBook.edit_edit, RunBook.edit_edit] at hwoken
  refine .of_edit_close hwoken ?_ hends
  simp only [hfile, hsequence, Option.map_some]
  refine .addInput hfile hmutable ⟨rfl, hrevision⟩ hfollows hnew ⟨rfl, hfollows.runId_eq.symm, ?_⟩
  rw [hinputId]
  rfl

/-! ### Activities -/

theorem requireParkableRun_eq_ok {command : ParkRunAfterProviderAttemptFailureCommand}
    {parkable : Run × ProviderAttempt × ActivationAttempt}
    (h : requireParkableRun command w = (.ok parkable, w')) :
    (w.db.table Run).find? (fun r => r.id = command.runId) = some parkable.1 ∧
      parkable.1.state = .Active ∧ command.expectedRunRevision = parkable.1.revision ∧
      SameDatabase w w' := by
  have hread : SameDatabase w w' := Within.of_eq h
  simp only [requireParkableRun, bind_eq_ok, requireRun_eq_ok, checkRevision_eq_ok,
    throwIf_eq_ok] at h
  obtain ⟨run, _, ⟨hfound, rfl⟩, _, _, ⟨hrevision, rfl⟩, _, _, ⟨hactive, rfl⟩, _, _, -, attempt, _, -,
    _, _, -, activation, _, -, _, _, -, _, _, -, _, _, -, hparkable⟩ := h
  obtain ⟨rfl, -⟩ := pure_eq_ok.mp hparkable
  exact ⟨hfound, not_not.mp hactive, hrevision.symm, hread⟩

theorem parkRunAfterProviderAttemptFailure_step
    {command : ParkRunAfterProviderAttemptFailureCommand}
    (h : parkRunAfterProviderAttemptFailure kernel command principal correlationId w =
      (.ok result, w')) :
    (runBook w.db).Step
      (KernelCommand.permit (.ParkRunAfterProviderAttemptFailure command) w)
      (runBook w'.db) := by
  simp only [parkRunAfterProviderAttemptFailure, bind_eq_ok, requireKind_eq_ok,
    requireNonEmpty_eq_ok, throwIf_eq_ok, now_eq_ok, pure_eq_ok] at h
  obtain ⟨_, _, ⟨-, rfl⟩, _, _, ⟨-, rfl⟩, _, _, ⟨-, rfl⟩, parkable, w₂, hparkable, now, _, ⟨-, rfl⟩, _,
    w₃, hupdate, _, w₄, hrevoke, activity, w₅, hactivity, cursor, w₆, hemit, _, w₇, henqueue, -,
    rfl⟩ := h
  obtain ⟨hfound, hactive, hrevision, hread⟩ := requireParkableRun_eq_ok hparkable
  obtain ⟨hfile, hid⟩ := runBook_run hfound
  have hafter : SameRuns w₅ w₇ := trans_of SameRuns (Within.of_eq hemit) (Within.of_eq henqueue)
  have hstart : runBook w₂.tick.db = runBook w.db := congrArg runBook hread
  have hupdated := runBook_updateRun hupdate (fun _ => rfl) fun _ => rfl
  obtain ⟨revoke, hends, hended, hrevoked⟩ := revokeRunActivations_eq_ok hrevoke
  obtain ⟨found, appended, hparked, hsequence, hinserted⟩ := insertActivity_eq_ok hactivity
  rw [hstart] at hupdated
  rw [hupdated] at hended hrevoked
  rw [RunBook.edit_edit] at hrevoked
  rw [hrevoked] at hparked hinserted
  rw [RunBook.edit_self] at hended hparked
  rw [RunBook.edit_edit, ← hafter] at hinserted
  simp only [hfile, Option.map_some, Option.some.injEq] at hparked
  refine .of_edit hinserted ?_
  simp only [hfile, Option.map_some]
  have hnext : found.nextActivitySequence = parkable.1.nextActivitySequence :=
    (congrArg Run.nextActivitySequence hparked).symm
  rw [hnext] at hsequence ⊢
  have hnumbers : [appended].map (·.sequence) =
      List.range' parkable.1.unstamped.nextActivitySequence 1 := congrArg (fun n => [n]) hsequence
  have hexpects : (KernelCommand.permit (.ParkRunAfterProviderAttemptFailure command) w).expects
      command.runId parkable.1.unstamped.revision := ⟨rfl, hrevision⟩
  exact RunFile.Move.wait now hfile hactive hexpects hnumbers hends hended

/-- An activity of a Run, whoever reports it. -/
theorem insertActivity_step {runId activationId kind : String} {providerAttemptId : Option String}
    {payload : Json} {retentionClass : RetentionClass} {position : ActivityPosition}
    (h : insertActivity kernel runId activationId providerAttemptId kind payload retentionClass w =
      (.ok position, w')) :
    (runBook w.db).Step permit (runBook w'.db) := by
  obtain ⟨run, activity, hfile, hsequence, hinserted⟩ := insertActivity_eq_ok h
  refine .of_edit hinserted ?_
  simp only [hfile, Option.map_some]
  exact .append hfile hsequence

theorem appendRunActivity_step {command : AppendRunActivityCommand}
    (h : appendRunActivity kernel command principal context correlationId w = (.ok result, w')) :
    (runBook w.db).Step permit (runBook w'.db) := by
  simp only [appendRunActivity, bind_eq_ok, pure_eq_ok] at h
  obtain ⟨activationId, w₁, hprovenance, activity, w₂, hactivity, run, w₃, hrun, cursor, w₄, hemit,
    -, rfl⟩ := h
  have hread : SameRuns w w₁ := Within.of_eq hprovenance
  have hafter : SameRuns w₂ w₄ := trans_of SameRuns (Within.of_eq hrun) (Within.of_eq hemit)
  rw [← hread, hafter]
  exact insertActivity_step hactivity

theorem recordLateOutput_step {command : RecordLateOutputCommand}
    (h : recordLateOutput kernel command principal context correlationId w = (.ok result, w')) :
    (runBook w.db).Step permit (runBook w'.db) := by
  simp only [recordLateOutput, bind_eq_ok, throwIf_eq_ok, pure_eq_ok] at h
  obtain ⟨run, w₁, hrun, activationId, w₂, hprovenance, activation, w₃, hactivation, current, w₄,
    hcurrent, _, _, ⟨-, rfl⟩, activity, w₅, hactivity, cursor, w₆, hemit, -, rfl⟩ := h
  have hcurrentRead : SameRuns w₃ w₄ := Within.of_eq hcurrent
  have hread : SameRuns w w₃ := trans_of SameRuns (Within.of_eq hrun)
    (trans_of SameRuns (Within.of_eq hprovenance) (Within.of_eq hactivation))
  have hafter : SameRuns w₅ w₆ := Within.of_eq hemit
  rw [← hread, ← hcurrentRead, hafter]
  exact insertActivity_step hactivity

end Commands

/-! ## Every call -/

section Calls

set_option synthInstance.maxSize 400000

variable (kernel : KernelContext) {w w' : World}

/-- The commands that make a move of a Run. -/
def KernelCommand.movesRuns : KernelCommand → Bool
  | .SendToRun _ | .WithdrawRunInput _ | .CompleteRun _ | .WaitRun _ | .FailRun _ | .CancelRun _
  | .AdoptRunConfig _ | .StartActivation _ | .ParkRunAfterProviderAttemptFailure _
  | .ResolveAttentionWithRun _ | .ResolveAttentionWithExistingRun _ | .AppendRunActivity _
  | .RecordLateOutput _ => true
  | _ => false

theorem KernelCommand.not_aboutWorktrees {command : KernelCommand}
    (h : command.movesRuns = true) : command.aboutWorktrees = false := by
  cases command <;> first | rfl | exact Bool.noConfusion (show false = true from h)

/-- A command that moves a Run makes one move of one file. -/
theorem dispatchCommand_runs {command : KernelCommand} (hmoves : command.movesRuns = true)
    {context : PrincipalContext} {principal : Principal} {correlationId : String}
    {result : CommandResult}
    (h : dispatchCommand kernel command context principal correlationId w = (.ok result, w')) :
    (runBook w.db).Step (command.permit w) (runBook w'.db) := by
  unfold dispatchCommand at h
  cases command with
  | SendToRun command => exact sendToRun_step h
  | WithdrawRunInput command => exact withdrawRunInput_step h
  | CompleteRun command => exact completeRun_step h
  | WaitRun command => exact waitRun_step h
  | FailRun command => exact failRun_step h
  | CancelRun command => exact cancelRun_step h
  | AdoptRunConfig command => exact adoptRunConfig_step h
  | StartActivation command => exact startActivation_step h
  | ParkRunAfterProviderAttemptFailure command =>
      exact parkRunAfterProviderAttemptFailure_step h
  | ResolveAttentionWithRun command => exact resolveAttentionWithRun_step h
  | ResolveAttentionWithExistingRun command => exact resolveAttentionWithExistingRun_step h
  | AppendRunActivity command => exact appendRunActivity_step h
  | RecordLateOutput command => exact recordLateOutput_step h
  | _ => cases hmoves

/-- The other commands end Activations at most. -/
theorem dispatchCommand_closes {command : KernelCommand} (hmoves : command.movesRuns = false)
    (context : PrincipalContext) (principal : Principal) (correlationId : String) :
    Within ClosesRuns (dispatchCommand kernel command context principal correlationId) := by
  unfold dispatchCommand
  cases command with
  | FinishActivation | ClaimAttention | IgnoreAttention => infer_instance
  | _ =>
      first
        | exact Bool.noConfusion (show true = false from hmoves)
        | exact Within.mono (inferInstance : Within SameRuns _) fun _ _ => .of_same

instance (correlationId : String) : Within ClosesRuns (recordProjectionVersions correlationId) :=
  Within.mono (inferInstance : Within SameRuns _) fun _ _ => .of_same

instance (command : KernelCommand) (result : CommandResult) (principal : Principal)
    (context : PrincipalContext) :
    Within SameRuns (resolveCachedResult kernel command result principal context) := by
  unfold resolveCachedResult
  split <;> infer_instance

instance (command : KernelCommand) (result : CommandResult) (principal : Principal)
    (context : PrincipalContext) :
    Within ClosesRuns (resolveCachedResult kernel command result principal context) :=
  Within.mono (inferInstance : Within SameRuns _) fun _ _ => .of_same

/-- What a call may do to the Runs of a world. -/
def KernelCall.permit (call : KernelCall) (w : World) : RunPermit where
  admits run := call.issued.isSome = true ∧ AdmitsRun w run
  expects runId revision :=
    ∃ issued, call.issued = some issued ∧ issued.command.expects (runBook w.db) runId revision

theorem AdmitsRun.of_tables {run : Run} (h : AdmitsRun w' run)
    (htables : SameTables TableName.butLeases w w') : AdmitsRun w run := by
  obtain ⟨attention, admission, w₁, w₂, hattention, hsame, h⟩ := h
  rw [htables.table_eq Attention (by decide)] at hattention
  exact ⟨attention, admission, w₁, w₂, hattention, trans_of _ htables hsame, h⟩

/-- A call makes one move of one file at most, and may end Activations. -/
theorem step_runs (call : KernelCall) (w : World) :
    (runBook w.db).Step (call.permit w) (runBook (step kernel call w).db) := by
  by_cases hmoves : ∃ issued, call.issued = some issued ∧ issued.command.movesRuns = true
  · obtain ⟨⟨command, context, operationContext⟩, hissued, hmoves⟩ := hmoves
    have hplain := dispatchCommand_plain kernel (KernelCommand.not_aboutWorktrees hmoves)
    obtain hsame | ⟨principal, correlationId, dispatched, w₁, w₂, -, hbefore, htables, hdispatch,
      hafter⟩ := step_outcome kernel SameRuns hissued w
    · exact .of_same hsame
    · have hstep := dispatchCommand_runs kernel hmoves hdispatch
      rw [← hbefore, hafter]
      refine hstep.mono (fun run hadmits => ⟨by rw [hissued]; rfl, hadmits.of_tables htables⟩)
        fun runId revision hexpects => ⟨_, hissued, ?_⟩
      rw [← hbefore]
      exact hexpects
  · refine .of_closes (step_within kernel call w fun issued principal hissued _ => ?_)
    have hquiet : issued.command.movesRuns = false :=
      Bool.eq_false_iff.mpr fun h => hmoves ⟨issued, hissued, h⟩
    have hdispatch := dispatchCommand_closes kernel hquiet
    infer_instance

end Calls

end Torsor.Kernel
