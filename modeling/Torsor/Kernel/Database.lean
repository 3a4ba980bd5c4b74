import Torsor.Library.Transaction
import Torsor.Kernel.Types

/-! # The database and its statements

The database has one table for every row type; a statement names its table by the row
type. The clock, the identifier factory and the random source are unrelated to the
database: a rollback does not return a reading, an identifier or a draw.
-/

namespace Torsor.Kernel

open Torsor.Library

/-! ## Tables by name -/

inductive TableName where
  | principals | projects | channels | agents | agentConfigRevisions | causalLimits
  | threads | messages | messageRevisions | mentions | attentions | runs | runInputs
  | activationAttempts | activationRunInputs | providerAttempts | kernelRuntimeState
  | attentionRecoveryExecutions | attentionDomainFences | runActivityEvents | artifacts
  | idempotencyRecords | outboxEvents | worktreeWriterLeases | worktreeWriterLeaseEvents
  | physicalWorktrees | worktreeExecutions | worktreeExecutionEvents | publicEvents
  | runHistory | runInputHistory | activationHistory | providerAttemptHistory
  | attentionHistory | projectionActivationChanges
  deriving DecidableEq, Repr

/-- The type of the rows of a table. -/
abbrev TableName.Row : TableName → Type
  | .principals => Principal
  | .projects => Project
  | .channels => Channel
  | .agents => Agent
  | .agentConfigRevisions => AgentConfigRevision
  | .causalLimits => CausalLimits
  | .threads => Thread
  | .messages => Message
  | .messageRevisions => MessageRevision
  | .mentions => Mention
  | .attentions => Attention
  | .runs => Run
  | .runInputs => RunInput
  | .activationAttempts => ActivationAttempt
  | .activationRunInputs => ActivationRunInput
  | .providerAttempts => ProviderAttempt
  | .kernelRuntimeState => KernelRuntimeState
  | .attentionRecoveryExecutions => AttentionRecoveryExecution
  | .attentionDomainFences => AttentionDomainFence
  | .runActivityEvents => RunActivityEvent
  | .artifacts => Artifact
  | .idempotencyRecords => IdempotencyRecord
  | .outboxEvents => OutboxEvent
  | .worktreeWriterLeases => WorktreeWriterLease
  | .worktreeWriterLeaseEvents => WorktreeWriterLeaseEvent
  | .physicalWorktrees => PhysicalWorktree
  | .worktreeExecutions => WorktreeExecution
  | .worktreeExecutionEvents => WorktreeExecutionEvent
  | .publicEvents => PublicEvent
  | .runHistory => RunHistory
  | .runInputHistory => RunInputHistory
  | .activationHistory => ActivationHistory
  | .providerAttemptHistory => ProviderAttemptHistory
  | .attentionHistory => AttentionHistory
  | .projectionActivationChanges => ProjectionActivationChange

/-- The position of a table in the schema. -/
@[reducible] def TableName.number : TableName → Nat
  | .principals => 0
  | .projects => 1
  | .channels => 2
  | .agents => 3
  | .agentConfigRevisions => 4
  | .causalLimits => 5
  | .threads => 6
  | .messages => 7
  | .messageRevisions => 8
  | .mentions => 9
  | .attentions => 10
  | .runs => 11
  | .runInputs => 12
  | .activationAttempts => 13
  | .activationRunInputs => 14
  | .providerAttempts => 15
  | .kernelRuntimeState => 16
  | .attentionRecoveryExecutions => 17
  | .attentionDomainFences => 18
  | .runActivityEvents => 19
  | .artifacts => 20
  | .idempotencyRecords => 21
  | .outboxEvents => 22
  | .worktreeWriterLeases => 23
  | .worktreeWriterLeaseEvents => 24
  | .physicalWorktrees => 25
  | .worktreeExecutions => 26
  | .worktreeExecutionEvents => 27
  | .publicEvents => 28
  | .runHistory => 29
  | .runInputHistory => 30
  | .activationHistory => 31
  | .providerAttemptHistory => 32
  | .attentionHistory => 33
  | .projectionActivationChanges => 34

instance (t : TableName) : Keyed t.Row UniqueKey :=
  match t with
  | .principals => inferInstanceAs (Keyed Principal UniqueKey)
  | .projects => inferInstanceAs (Keyed Project UniqueKey)
  | .channels => inferInstanceAs (Keyed Channel UniqueKey)
  | .agents => inferInstanceAs (Keyed Agent UniqueKey)
  | .agentConfigRevisions => inferInstanceAs (Keyed AgentConfigRevision UniqueKey)
  | .causalLimits => inferInstanceAs (Keyed CausalLimits UniqueKey)
  | .threads => inferInstanceAs (Keyed Thread UniqueKey)
  | .messages => inferInstanceAs (Keyed Message UniqueKey)
  | .messageRevisions => inferInstanceAs (Keyed MessageRevision UniqueKey)
  | .mentions => inferInstanceAs (Keyed Mention UniqueKey)
  | .attentions => inferInstanceAs (Keyed Attention UniqueKey)
  | .runs => inferInstanceAs (Keyed Run UniqueKey)
  | .runInputs => inferInstanceAs (Keyed RunInput UniqueKey)
  | .activationAttempts => inferInstanceAs (Keyed ActivationAttempt UniqueKey)
  | .activationRunInputs => inferInstanceAs (Keyed ActivationRunInput UniqueKey)
  | .providerAttempts => inferInstanceAs (Keyed ProviderAttempt UniqueKey)
  | .kernelRuntimeState => inferInstanceAs (Keyed KernelRuntimeState UniqueKey)
  | .attentionRecoveryExecutions =>
      inferInstanceAs (Keyed AttentionRecoveryExecution UniqueKey)
  | .attentionDomainFences => inferInstanceAs (Keyed AttentionDomainFence UniqueKey)
  | .runActivityEvents => inferInstanceAs (Keyed RunActivityEvent UniqueKey)
  | .artifacts => inferInstanceAs (Keyed Artifact UniqueKey)
  | .idempotencyRecords => inferInstanceAs (Keyed IdempotencyRecord UniqueKey)
  | .outboxEvents => inferInstanceAs (Keyed OutboxEvent UniqueKey)
  | .worktreeWriterLeases => inferInstanceAs (Keyed WorktreeWriterLease UniqueKey)
  | .worktreeWriterLeaseEvents => inferInstanceAs (Keyed WorktreeWriterLeaseEvent UniqueKey)
  | .physicalWorktrees => inferInstanceAs (Keyed PhysicalWorktree UniqueKey)
  | .worktreeExecutions => inferInstanceAs (Keyed WorktreeExecution UniqueKey)
  | .worktreeExecutionEvents => inferInstanceAs (Keyed WorktreeExecutionEvent UniqueKey)
  | .publicEvents => inferInstanceAs (Keyed PublicEvent UniqueKey)
  | .runHistory => inferInstanceAs (Keyed RunHistory UniqueKey)
  | .runInputHistory => inferInstanceAs (Keyed RunInputHistory UniqueKey)
  | .activationHistory => inferInstanceAs (Keyed ActivationHistory UniqueKey)
  | .providerAttemptHistory => inferInstanceAs (Keyed ProviderAttemptHistory UniqueKey)
  | .attentionHistory => inferInstanceAs (Keyed AttentionHistory UniqueKey)
  | .projectionActivationChanges =>
      inferInstanceAs (Keyed ProjectionActivationChange UniqueKey)

def Database : Type := (t : TableName) → Table t.Row

/-- `ρ` is the row type of the table `t`. -/
class Stored (ρ : Type) [Keyed ρ UniqueKey] (t : outParam TableName) where
  ofRows : Table t.Row → Table ρ
  toRows : Table ρ → Table t.Row
  of_to : ∀ u, ofRows (toRows u) = u
  to_of : ∀ u, toRows (ofRows u) = u

instance : Stored Principal .principals := ⟨id, id, fun _ => rfl, fun _ => rfl⟩
instance : Stored Project .projects := ⟨id, id, fun _ => rfl, fun _ => rfl⟩
instance : Stored Channel .channels := ⟨id, id, fun _ => rfl, fun _ => rfl⟩
instance : Stored Agent .agents := ⟨id, id, fun _ => rfl, fun _ => rfl⟩
instance : Stored AgentConfigRevision .agentConfigRevisions := ⟨id, id, fun _ => rfl, fun _ => rfl⟩
instance : Stored CausalLimits .causalLimits := ⟨id, id, fun _ => rfl, fun _ => rfl⟩
instance : Stored Thread .threads := ⟨id, id, fun _ => rfl, fun _ => rfl⟩
instance : Stored Message .messages := ⟨id, id, fun _ => rfl, fun _ => rfl⟩
instance : Stored MessageRevision .messageRevisions := ⟨id, id, fun _ => rfl, fun _ => rfl⟩
instance : Stored Mention .mentions := ⟨id, id, fun _ => rfl, fun _ => rfl⟩
instance : Stored Attention .attentions := ⟨id, id, fun _ => rfl, fun _ => rfl⟩
instance : Stored Run .runs := ⟨id, id, fun _ => rfl, fun _ => rfl⟩
instance : Stored RunInput .runInputs := ⟨id, id, fun _ => rfl, fun _ => rfl⟩
instance : Stored ActivationAttempt .activationAttempts := ⟨id, id, fun _ => rfl, fun _ => rfl⟩
instance : Stored ActivationRunInput .activationRunInputs := ⟨id, id, fun _ => rfl, fun _ => rfl⟩
instance : Stored ProviderAttempt .providerAttempts := ⟨id, id, fun _ => rfl, fun _ => rfl⟩
instance : Stored KernelRuntimeState .kernelRuntimeState := ⟨id, id, fun _ => rfl, fun _ => rfl⟩
instance : Stored AttentionRecoveryExecution .attentionRecoveryExecutions :=
  ⟨id, id, fun _ => rfl, fun _ => rfl⟩
instance : Stored AttentionDomainFence .attentionDomainFences :=
  ⟨id, id, fun _ => rfl, fun _ => rfl⟩
instance : Stored RunActivityEvent .runActivityEvents := ⟨id, id, fun _ => rfl, fun _ => rfl⟩
instance : Stored Artifact .artifacts := ⟨id, id, fun _ => rfl, fun _ => rfl⟩
instance : Stored IdempotencyRecord .idempotencyRecords := ⟨id, id, fun _ => rfl, fun _ => rfl⟩
instance : Stored OutboxEvent .outboxEvents := ⟨id, id, fun _ => rfl, fun _ => rfl⟩
instance : Stored WorktreeWriterLease .worktreeWriterLeases := ⟨id, id, fun _ => rfl, fun _ => rfl⟩
instance : Stored WorktreeWriterLeaseEvent .worktreeWriterLeaseEvents :=
  ⟨id, id, fun _ => rfl, fun _ => rfl⟩
instance : Stored PhysicalWorktree .physicalWorktrees := ⟨id, id, fun _ => rfl, fun _ => rfl⟩
instance : Stored WorktreeExecution .worktreeExecutions := ⟨id, id, fun _ => rfl, fun _ => rfl⟩
instance : Stored WorktreeExecutionEvent .worktreeExecutionEvents :=
  ⟨id, id, fun _ => rfl, fun _ => rfl⟩
instance : Stored PublicEvent .publicEvents := ⟨id, id, fun _ => rfl, fun _ => rfl⟩
instance : Stored RunHistory .runHistory := ⟨id, id, fun _ => rfl, fun _ => rfl⟩
instance : Stored RunInputHistory .runInputHistory := ⟨id, id, fun _ => rfl, fun _ => rfl⟩
instance : Stored ActivationHistory .activationHistory := ⟨id, id, fun _ => rfl, fun _ => rfl⟩
instance : Stored ProviderAttemptHistory .providerAttemptHistory :=
  ⟨id, id, fun _ => rfl, fun _ => rfl⟩
instance : Stored AttentionHistory .attentionHistory := ⟨id, id, fun _ => rfl, fun _ => rfl⟩
instance : Stored ProjectionActivationChange .projectionActivationChanges :=
  ⟨id, id, fun _ => rfl, fun _ => rfl⟩

namespace Database

/-- The table of the rows of type `ρ`. -/
def table (db : Database) (ρ : Type) [Keyed ρ UniqueKey] {t : TableName} [Stored ρ t] :
    Table ρ :=
  Stored.ofRows (db t)

/-- The database with one table replaced. -/
def set (db : Database) {ρ : Type} [Keyed ρ UniqueKey] {t : TableName} [Stored ρ t]
    (u : Table ρ) : Database := fun s =>
  if h : t = s then h ▸ Stored.toRows u else db s

end Database

/-! ## Statements that touch different tables -/

/-- Two numbers that instance search can tell apart. -/
class Apart (m n : Nat) : Prop where
  ne : m ≠ n

instance (n : Nat) : Apart 0 (n + 1) := ⟨by omega⟩
instance (n : Nat) : Apart (n + 1) 0 := ⟨by omega⟩
instance (m n : Nat) [h : Apart m n] : Apart (m + 1) (n + 1) := ⟨by have := h.ne; omega⟩

/-- `t` is not one of the tables `ts`. -/
class NotAmong (t : TableName) (ts : List TableName) : Prop where
  notMem : t ∉ ts

instance (t : TableName) : NotAmong t [] := ⟨List.not_mem_nil⟩

theorem TableName.ne_of_apart {t s : TableName} (h : Apart t.number s.number) : t ≠ s := by
  rintro rfl
  exact h.ne rfl

instance (t s : TableName) (ts : List TableName) [h : Apart t.number s.number]
    [hs : NotAmong t ts] : NotAmong t (s :: ts) :=
  ⟨List.not_mem_cons_of_ne_of_not_mem (TableName.ne_of_apart h) hs.notMem⟩

namespace Database

variable {ρ : Type} [Keyed ρ UniqueKey] {t : TableName} [Stored ρ t]

@[simp] theorem table_set_same (db : Database) (u : Table ρ) : (db.set u).table ρ = u := by
  simp [table, set, Stored.of_to]

theorem set_apply_of_ne (db : Database) (u : Table ρ) {s : TableName} (h : t ≠ s) :
    db.set u s = db s := by
  simp [set, h]

theorem set_table_self (db : Database) : db.set (db.table ρ) = db := by
  funext s
  by_cases h : t = s
  · subst h
    simp [table, set, Stored.to_of]
  · exact set_apply_of_ne db _ h

@[simp] theorem set_set (db : Database) (u v : Table ρ) : (db.set u).set v = db.set v := by
  funext s
  by_cases h : t = s
  · subst h
    simp [set]
  · rw [set_apply_of_ne _ _ h, set_apply_of_ne _ _ h, set_apply_of_ne _ _ h]

@[simp] theorem table_set_apart (db : Database) (u : Table ρ) {τ : Type}
    [Keyed τ UniqueKey] {s : TableName} [Stored τ s] [h : Apart t.number s.number] :
    (db.set u).table τ = db.table τ := by
  rw [table, set_apply_of_ne db u (TableName.ne_of_apart h), table]

end Database

/-! ## The world a transaction runs in -/

/-- The binding of an execution this process started. -/
structure LocalWorktreeExecution where
  receipt : WorktreeExecutionReceipt
  principalId : String
  activationId : String

/-- The database, the readings, identifiers and draws taken so far, and the sets the
process keeps in memory. -/
structure World where
  db : Database
  clockReadings : Nat
  issuedIds : Nat
  randomDraws : Nat
  localWorktreeRevocations : List String
  localWorktreeExecutions : List LocalWorktreeExecution

namespace World

/-- One more reading of the clock is taken. -/
def tick (w : World) : World := { w with clockReadings := w.clockReadings + 1 }

/-- One more identifier is issued. -/
def issue (w : World) : World := { w with issuedIds := w.issuedIds + 1 }

/-- One more random value is drawn. -/
def draw (w : World) : World := { w with randomDraws := w.randomDraws + 1 }

/-- A table of the database is replaced. -/
def store (w : World) {ρ : Type} [Keyed ρ UniqueKey] {t : TableName} [Stored ρ t]
    (u : Table ρ) : World :=
  { w with db := w.db.set u }

section Projections

variable (w : World) {ρ : Type} [Keyed ρ UniqueKey] {t : TableName} [Stored ρ t] (u v : Table ρ)

@[simp] theorem tick_db : w.tick.db = w.db := rfl
@[simp] theorem tick_clockReadings : w.tick.clockReadings = w.clockReadings + 1 := rfl
@[simp] theorem tick_issuedIds : w.tick.issuedIds = w.issuedIds := rfl
@[simp] theorem tick_randomDraws : w.tick.randomDraws = w.randomDraws := rfl
@[simp] theorem issue_db : w.issue.db = w.db := rfl
@[simp] theorem issue_clockReadings : w.issue.clockReadings = w.clockReadings := rfl
@[simp] theorem issue_issuedIds : w.issue.issuedIds = w.issuedIds + 1 := rfl
@[simp] theorem issue_randomDraws : w.issue.randomDraws = w.randomDraws := rfl
@[simp] theorem draw_db : w.draw.db = w.db := rfl
@[simp] theorem draw_clockReadings : w.draw.clockReadings = w.clockReadings := rfl
@[simp] theorem draw_issuedIds : w.draw.issuedIds = w.issuedIds := rfl
@[simp] theorem draw_randomDraws : w.draw.randomDraws = w.randomDraws + 1 := rfl
@[simp] theorem store_db : (w.store u).db = w.db.set u := rfl
@[simp] theorem store_clockReadings : (w.store u).clockReadings = w.clockReadings := rfl
@[simp] theorem store_issuedIds : (w.store u).issuedIds = w.issuedIds := rfl
@[simp] theorem store_randomDraws : (w.store u).randomDraws = w.randomDraws := rfl

theorem store_table_self : w.store (w.db.table ρ) = w := by
  rw [store, Database.set_table_self]

@[simp] theorem store_store : (w.store u).store v = w.store v := by
  simp [store]

end Projections

end World

/-- What the Kernel is opened with. The `n`-th reading of the clock may be any instant;
an identifier and a random draw never repeat. `relative`, `isAbsolute` and `sep` are
those of `node:path`. -/
structure KernelContext where
  clock : Nat → Timestamp
  idFactory : String → Nat → String
  randomBytes : Nat → String
  activationDurationMs : Nat
  hashPayload : KernelCommand → String
  relative : String → String → String
  isAbsolute : String → Bool
  sep : String
  idFactory_inj : ∀ p q m n, idFactory p m = idFactory q n → m = n
  idFactory_ne_empty : ∀ p n, idFactory p n ≠ ""
  randomBytes_inj : ∀ m n, randomBytes m = randomBytes n → m = n

abbrev K (α : Type) : Type := Tx World Failure α

def KernelContext.readClock (kernel : KernelContext) : K Timestamp := fun w =>
  (.ok (kernel.clock w.clockReadings), w.tick)

/-- `now(kernel)`, the reading as text. -/
def KernelContext.now (kernel : KernelContext) : K Timestamp := kernel.readClock

def KernelContext.newId (kernel : KernelContext) (kind : String) : K String := fun w =>
  (.ok (kernel.idFactory kind w.issuedIds), w.issue)

/-- `randomBytes(32).toString("base64url")`. -/
def KernelContext.drawToken (kernel : KernelContext) : K String := fun w =>
  (.ok (kernel.randomBytes w.randomDraws), w.draw)

/-- `throw new KernelError(code, message, details)`. -/
def throwKernel {α : Type} (code : ErrorCode) (message : String)
    (details : Option Json := none) : K α :=
  Tx.raise (kernelError code message details)

/-! ## Statements -/

section Statements

variable {ρ : Type} [Keyed ρ UniqueKey] {t : TableName} [Stored ρ t]

/-- All rows of a table, in insertion order. -/
def selectTable (ρ : Type) [Keyed ρ UniqueKey] {t : TableName} [Stored ρ t] : K (Table ρ) :=
  Tx.gets fun w => w.db.table ρ

def writeTable (u : Table ρ) : K Unit := Tx.modify fun w => w.store u

/-- `SELECT * FROM t WHERE p`, for a `p` that selects one row at most. -/
def selectRow (p : ρ → Bool) : K (Option ρ) := Tx.gets fun w => (w.db.table ρ).find? p

/-- `SELECT * FROM t WHERE p`. -/
def selectRows (p : ρ → Bool) : K (List ρ) := Tx.gets fun w => (w.db.table ρ).filter p

/-- The only row `p` selects, or the error that reports its absence. -/
def requireRow (p : ρ → Bool) (e : Failure) : K ρ := do
  let row ← selectRow p
  Tx.require row e

def insertRow (r : ρ) : K Unit := do
  let table ← selectTable ρ
  let changed ← Tx.require (table.insert? r) .constraint
  writeTable changed

/-- `INSERT OR IGNORE`. -/
def insertRowOrIgnore (r : ρ) : K Unit := do
  let table ← selectTable ρ
  writeTable ((table.insert? r).getD table)

/-- `UPDATE t SET f WHERE p`; `f` assigns no column of a key. -/
def updateRows (p : ρ → Bool) (f : ρ → ρ)
    (h : KeepsKeys f := by exact ⟨fun _ => rfl⟩) : K Unit := do
  let table ← selectTable ρ
  writeTable (table.update p f h)

/-- `UPDATE t SET f WHERE p`, where `f` may assign columns of a key. -/
def updateKeys (p : ρ → Bool) (f : ρ → ρ) : K Unit := do
  let table ← selectTable ρ
  let changed ← Tx.require (table.map? fun r => if p r then f r else r) .constraint
  writeTable changed

def deleteRows (p : ρ → Bool) : K Unit := do
  let table ← selectTable ρ
  writeTable (table.delete p)

end Statements

end Torsor.Kernel
