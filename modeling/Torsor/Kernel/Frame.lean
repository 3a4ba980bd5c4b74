import Torsor.Kernel.Database

/-! # What a statement leaves alone

`Frame ts` relates two worlds with the same tables `ts` and the same memory, the second
having taken no fewer readings, identifiers and draws. A relation that holds of all such
pairs says something about the tables `ts` only, so a statement about another table stays
within it; instance search carries this through a whole command.
-/

namespace Torsor.Kernel

open Torsor.Library Tx

/-- The tables `ts` and the memory of the process are unchanged, nothing is handed back. -/
structure Frame (ts : List TableName) (w w' : World) : Prop where
  tables : ∀ s ∈ ts, w'.db s = w.db s
  clockReadings : w.clockReadings ≤ w'.clockReadings
  issuedIds : w.issuedIds ≤ w'.issuedIds
  randomDraws : w.randomDraws ≤ w'.randomDraws
  revocations : w'.localWorktreeRevocations = w.localWorktreeRevocations
  executions : w'.localWorktreeExecutions = w.localWorktreeExecutions

namespace Frame

variable {ts : List TableName} {w w' w'' : World}

theorem refl (ts : List TableName) (w : World) : Frame ts w w :=
  ⟨fun _ _ => rfl, Nat.le_refl _, Nat.le_refl _, Nat.le_refl _, rfl, rfl⟩

theorem trans (h : Frame ts w w') (h' : Frame ts w' w'') : Frame ts w w'' where
  tables s hs := (h'.tables s hs).trans (h.tables s hs)
  clockReadings := Nat.le_trans h.clockReadings h'.clockReadings
  issuedIds := Nat.le_trans h.issuedIds h'.issuedIds
  randomDraws := Nat.le_trans h.randomDraws h'.randomDraws
  revocations := h'.revocations.trans h.revocations
  executions := h'.executions.trans h.executions

instance : IsPreorder World (Frame ts) where
  refl := refl ts
  trans _ _ _ := trans

/-- A table of the frame is the same table before and after. -/
theorem table_eq (h : Frame ts w w') (ρ : Type) [Keyed ρ UniqueKey] {t : TableName}
    [Stored ρ t] (ht : t ∈ ts) : w'.db.table ρ = w.db.table ρ := by
  rw [Database.table, h.tables t ht, Database.table]

/-- Replacing a table that is not in the frame. -/
theorem set {ρ : Type} [Keyed ρ UniqueKey] {t : TableName} [Stored ρ t]
    (hts : NotAmong t ts) (w : World) (u : Table ρ) :
    Frame ts w (w.store u) :=
  { refl ts w with
    tables := fun _ hs => Database.set_apply_of_ne _ _ fun heq => hts.notMem (heq ▸ hs) }

end Frame

/-! ## Relations about some tables only -/

/-- `R` holds whenever the tables `ts` and the memory are left alone. -/
class Concerns (R : World → World → Prop) (ts : outParam (List TableName)) : Prop where
  of_frame : ∀ w w', Frame ts w w' → R w w'

instance (ts : List TableName) : Concerns (Frame ts) ts := ⟨fun _ _ h => h⟩

/-- The step preserves `Inv`. -/
def Keeps (Inv : World → Prop) (w w' : World) : Prop := Inv w → Inv w'

instance (Inv : World → Prop) : IsPreorder World (Keeps Inv) where
  refl _ := id
  trans _ _ _ h h' := fun hInv => h' (h hInv)

/-- The database is unchanged. -/
def SameDatabase (w w' : World) : Prop := w'.db = w.db

instance : IsPreorder World SameDatabase where
  refl _ := rfl
  trans _ _ _ h h' := h'.trans h

def TableName.all : List TableName :=
  [.principals, .projects, .channels, .agents, .agentConfigRevisions, .causalLimits, .threads,
    .messages, .messageRevisions, .mentions, .attentions, .runs, .runInputs, .activationAttempts,
    .activationRunInputs, .providerAttempts, .kernelRuntimeState, .attentionRecoveryExecutions,
    .attentionDomainFences, .runActivityEvents, .artifacts, .idempotencyRecords, .outboxEvents,
    .worktreeWriterLeases, .worktreeWriterLeaseEvents, .physicalWorktrees, .worktreeExecutions,
    .worktreeExecutionEvents, .publicEvents, .runHistory, .runInputHistory, .activationHistory,
    .providerAttemptHistory, .attentionHistory, .projectionActivationChanges]

theorem TableName.mem_all (t : TableName) : t ∈ TableName.all := by cases t <;> decide

instance : Concerns SameDatabase TableName.all :=
  ⟨fun _ _ h => funext fun t => h.tables t t.mem_all⟩

section Within

variable {R : World → World → Prop} {ts : List TableName} [hR : Concerns R ts]

instance (kernel : KernelContext) : Within R kernel.readClock :=
  ⟨fun w => hR.of_frame _ _ { Frame.refl ts w with clockReadings := Nat.le_succ _ }⟩

instance (kernel : KernelContext) : Within R kernel.now :=
  inferInstanceAs (Within R kernel.readClock)

instance (kernel : KernelContext) (kind : String) : Within R (kernel.newId kind) :=
  ⟨fun w => hR.of_frame _ _ { Frame.refl ts w with issuedIds := Nat.le_succ _ }⟩

instance (kernel : KernelContext) : Within R kernel.drawToken :=
  ⟨fun w => hR.of_frame _ _ { Frame.refl ts w with randomDraws := Nat.le_succ _ }⟩

variable {ρ : Type} [Keyed ρ UniqueKey] {t : TableName} [Stored ρ t]

instance [h : NotAmong t ts] (u : Table ρ) : Within R (writeTable u) :=
  ⟨fun w => hR.of_frame _ _ (Frame.set h w u)⟩

variable [IsPreorder World R]

instance {α : Type} (code : ErrorCode) (message : String) (details : Option Json) :
    Within R (throwKernel code message details : K α) := by
  unfold throwKernel
  infer_instance

instance : Within R (selectTable ρ) := by
  unfold selectTable
  infer_instance

instance (p : ρ → Bool) : Within R (selectRow p) := by
  unfold selectRow
  infer_instance

instance (p : ρ → Bool) : Within R (selectRows p) := by
  unfold selectRows
  infer_instance

instance (p : ρ → Bool) (e : Failure) : Within R (requireRow p e) := by
  unfold requireRow
  infer_instance

variable [NotAmong t ts]

instance (r : ρ) : Within R (insertRow r) := by
  unfold insertRow
  infer_instance

instance (r : ρ) : Within R (insertRowOrIgnore r) := by
  unfold insertRowOrIgnore
  infer_instance

instance (p : ρ → Bool) (f : ρ → ρ) (h : KeepsKeys f) :
    Within R (updateRows p f h) := by
  unfold updateRows
  infer_instance

instance (p : ρ → Bool) (f : ρ → ρ) : Within R (updateKeys p f) := by
  unfold updateKeys
  infer_instance

instance (p : ρ → Bool) : Within R (deleteRows p) := by
  unfold deleteRows
  infer_instance

end Within

/-! ## Successful statements -/

section Equations

variable {ρ : Type} [Keyed ρ UniqueKey] {t : TableName} [Stored ρ t] {w w' : World}

@[simp] theorem readClock_eq_ok {kernel : KernelContext} {at' : Timestamp} :
    kernel.readClock w = (.ok at', w') ↔
      kernel.clock w.clockReadings = at' ∧
        w.tick = w' := by
  simp [KernelContext.readClock]

@[simp] theorem now_eq_ok {kernel : KernelContext} {at' : Timestamp} :
    kernel.now w = (.ok at', w') ↔
      kernel.clock w.clockReadings = at' ∧
        w.tick = w' :=
  readClock_eq_ok

@[simp] theorem newId_eq_ok {kernel : KernelContext} {kind id : String} :
    kernel.newId kind w = (.ok id, w') ↔
      kernel.idFactory kind w.issuedIds = id ∧
        w.issue = w' := by
  simp [KernelContext.newId]

@[simp] theorem drawToken_eq_ok {kernel : KernelContext} {token : String} :
    kernel.drawToken w = (.ok token, w') ↔
      kernel.randomBytes w.randomDraws = token ∧
        w.draw = w' := by
  simp [KernelContext.drawToken]

@[simp] theorem throwKernel_eq_ok {α : Type} {code : ErrorCode} {message : String}
    {details : Option Json} {a : α} :
    (throwKernel code message details : K α) w = (.ok a, w') ↔ False := by
  simp [throwKernel]

@[simp] theorem selectTable_eq_ok {u : Table ρ} :
    selectTable ρ w = (.ok u, w') ↔ w.db.table ρ = u ∧ w = w' := by
  simp [selectTable]

@[simp] theorem selectRow_eq_ok {p : ρ → Bool} {r : Option ρ} :
    selectRow p w = (.ok r, w') ↔ (w.db.table ρ).find? p = r ∧ w = w' := by
  simp [selectRow]

@[simp] theorem selectRows_eq_ok {p : ρ → Bool} {rs : List ρ} :
    selectRows p w = (.ok rs, w') ↔ (w.db.table ρ).filter p = rs ∧ w = w' := by
  simp [selectRows]

@[simp] theorem requireRow_eq_ok {p : ρ → Bool} {e : Failure} {r : ρ} :
    requireRow p e w = (.ok r, w') ↔ (w.db.table ρ).find? p = some r ∧ w = w' := by
  simp [requireRow]

@[simp] theorem writeTable_eq_ok {u : Table ρ} {x : Unit} :
    writeTable u w = (.ok x, w') ↔ w.store u = w' := by
  simp [writeTable]

@[simp] theorem insertRow_eq_ok {r : ρ} {x : Unit} :
    insertRow r w = (.ok x, w') ↔
      ∃ u, (w.db.table ρ).insert? r = some u ∧ w.store u = w' := by
  simp [insertRow]

@[simp] theorem insertRowOrIgnore_eq_ok {r : ρ} {x : Unit} :
    insertRowOrIgnore r w = (.ok x, w') ↔
      w.store (((w.db.table ρ).insert? r).getD (w.db.table ρ)) = w' := by
  simp [insertRowOrIgnore]

@[simp] theorem updateRows_eq_ok {p : ρ → Bool} {f : ρ → ρ}
    {h : KeepsKeys f} {x : Unit} :
    updateRows p f h w = (.ok x, w') ↔
      w.store ((w.db.table ρ).update p f h) = w' := by
  simp [updateRows]

@[simp] theorem updateKeys_eq_ok {p : ρ → Bool} {f : ρ → ρ} {x : Unit} :
    updateKeys p f w = (.ok x, w') ↔
      ∃ u, (w.db.table ρ).map? (fun r => if p r then f r else r) = some u ∧
        w.store u = w' := by
  simp [updateKeys]

@[simp] theorem deleteRows_eq_ok {p : ρ → Bool} {x : Unit} :
    deleteRows p w = (.ok x, w') ↔
      w.store ((w.db.table ρ).delete p) = w' := by
  simp [deleteRows]

/-- An insertion adds the row, or is refused and changes nothing. -/
theorem insertRow_cases (r : ρ) (w : World) :
    (∃ u, (w.db.table ρ).insert? r = some u ∧ insertRow r w = (.ok (), w.store u)) ∨
      insertRow r w = (.error .constraint, w) := by
  unfold insertRow
  rw [bind_of_ok (selectTable_eq_ok.mpr ⟨rfl, rfl⟩)]
  cases hinsert : (w.db.table ρ).insert? r with
  | none => exact .inr rfl
  | some u => exact .inl ⟨u, rfl, rfl⟩

theorem insertRow_eq_error {r : ρ} {e : Failure} (h : insertRow r w = (.error e, w')) : w' = w := by
  obtain ⟨_, -, hinsert⟩ | hinsert := insertRow_cases r w
  · rw [hinsert] at h
    cases h
  · rw [hinsert] at h
    cases h
    rfl

/-- A row made from the table it is inserted into; a refused insertion changes nothing. -/
theorem Within.insertRow {R : World → World → Prop} [IsPreorder World R] {f : Table ρ → ρ}
    (h : ∀ w u, (w.db.table ρ).insert? (f (w.db.table ρ)) = some u →
      R w (w.store u)) :
    Within R (do
      let table ← selectTable ρ
      Kernel.insertRow (f table)) where
  step w := by
    rw [bind_of_ok (selectTable_eq_ok.mpr ⟨rfl, rfl⟩), Kernel.insertRow,
      bind_of_ok (selectTable_eq_ok.mpr ⟨rfl, rfl⟩)]
    cases hinsert : (w.db.table ρ).insert? (f (w.db.table ρ)) with
    | none => exact refl_of R w
    | some u => exact h w u hinsert

/-- An update is within `R` when `R` relates the worlds with the table before and after. -/
theorem Within.updateRows {R : World → World → Prop} {p : ρ → Bool} {f : ρ → ρ} {h : KeepsKeys f}
    (hR : ∀ w, R w (w.store ((w.db.table ρ).update p f h))) :
    Within R (Kernel.updateRows p f h) := ⟨hR⟩

/-- Updates of the rows of every key of a list, one key after the other. -/
theorem forEach_updateRows {ids : List String} (key : ρ → String) {f : ρ → ρ}
    {hf : KeepsKeys f} (hkey : ∀ r, key (f r) = key r) (hnodup : ids.Nodup) {x : Unit}
    (h : forEach ids (fun id => updateRows (fun r : ρ => key r = id) f hf) w = (.ok x, w')) :
    ∃ u : Table ρ, w' = w.store u ∧
      u.rows = (w.db.table ρ).rows.map fun r => if key r ∈ ids then f r else r := by
  induction ids generalizing w with
  | nil =>
      obtain ⟨-, rfl⟩ := pure_eq_ok.mp h
      refine ⟨w.db.table ρ, ?_, ?_⟩
      · rw [World.store_table_self]
      · simp
  | cons id rest ih =>
      obtain ⟨hid, hrest⟩ := List.nodup_cons.mp hnodup
      simp only [forEach, bind_eq_ok, updateRows_eq_ok] at h
      obtain ⟨-, w₁, hw₁, hloop⟩ := h
      obtain ⟨u, hw', hu⟩ := ih hrest hloop
      subst hw₁
      refine ⟨u, ?_, ?_⟩
      · rw [hw']
        simp
      · rw [hu, World.store_db, Database.table_set_same, Table.update, List.map_map]
        apply List.map_congr_left
        intro r _
        by_cases hr : key r = id
        · simp [hr, hkey, hid]
        · simp [hr]

theorem forEach_map {α β : Type} (xs : List α) (g : α → β) (f : β → K Unit) :
    forEach xs (fun x => f (g x)) = forEach (xs.map g) f := by
  induction xs with
  | nil => rfl
  | cons x rest ih => simp only [forEach, List.map_cons, ih]

end Equations

end Torsor.Kernel
