import Torsor.Kernel.System

/-! # What a call commits

A transaction keeps the writes of a body that succeeds or raises a durable error.
`Commits R m` is what has to be shown of a body for every call to stay within `R`; it
follows from `Within R m`, and from a successful run alone where no error is durable.
-/

namespace Torsor.Kernel

open Torsor.Library Tx

/-- Unless `m` raises an error that is rolled back, `R` relates the states before and
after. -/
class Commits {α : Type} (R : World → World → Prop) (m : K α) : Prop where
  step : ∀ w, (∀ e, (m w).1 = .error e → e.isDurable = true) → R w (m w).2

/-- No error of `m` is durable. -/
abbrev Plain {α : Type} (m : K α) : Prop := Raises (fun e : Failure => e.isDurable = false) m

theorem not_durable {α : Type} {m : K α} [h : Plain m] {w w' : World} {e : Failure}
    (heq : m w = (.error e, w')) : e.isDurable = false :=
  h.raised w e (by rw [heq])

section Commits

variable {R : World → World → Prop} {α β : Type}

instance (priority := low) (m : K α) [h : Within R m] : Commits R m := ⟨fun w _ => h.step w⟩

/-- Without durable errors only successful runs count. -/
theorem Commits.of_ok {m : K α} [hm : Plain m] (h : ∀ w a w', m w = (.ok a, w') → R w w') :
    Commits R m where
  step w hdurable := by
    cases hrun : m w with
    | mk r w' =>
        cases r with
        | ok a => exact h w a w' hrun
        | error e =>
            have hplain := not_durable hrun
            have := hdurable e (by rw [hrun])
            rw [hplain] at this
            cases this

theorem Commits.of_eq_ok {m : K α} [hm : Commits R m] {w w' : World} {a : α}
    (h : m w = (.ok a, w')) : R w w' := by
  have := hm.step w (by rw [h]; intro e he; cases he)
  rwa [h] at this

theorem Commits.mono {S : World → World → Prop} {m : K α} (h : Commits R m)
    (hRS : ∀ w w', R w w' → S w w') : Commits S m :=
  ⟨fun w hdurable => hRS _ _ (h.step w hdurable)⟩

instance (m : K α) (f : α → K β) [IsPreorder World R] [hm : Commits R m]
    [hf : ∀ a, Commits R (f a)] : Commits R (m >>= f) where
  step w hdurable := by
    rw [bind_apply] at hdurable ⊢
    cases hrun : m w with
    | mk r w₁ =>
        rw [hrun] at hdurable
        cases r with
        | ok a => exact trans_of R (Commits.of_eq_ok hrun) ((hf a).step w₁ hdurable)
        | error e =>
            have := hm.step w (by
              rw [hrun]
              intro e' he'
              cases he'
              exact hdurable e rfl)
            rwa [hrun] at this

instance (p : Prop) [Decidable p] (m n : K α) [hm : Commits R m] [hn : Commits R n] :
    Commits R (if p then m else n) := by
  split
  · exact hm
  · exact hn

instance (o : Option α) (m : K β) (f : α → K β) [hm : Commits R m]
    [hf : ∀ a, Commits R (f a)] : Commits R (o.elim m f) := by
  cases o with
  | none => exact hm
  | some a => exact hf a

instance [IsPreorder World R] (xs : List α) (f : α → K Unit) [hf : ∀ a, Commits R (f a)] :
    Commits R (forEach xs f) := by
  induction xs with
  | nil => exact inferInstanceAs (Commits R (pure ()))
  | cons x rest ih => exact inferInstanceAs (Commits R (f x >>= fun _ => forEach rest f))

end Commits

/-! ## One state -/

/-- Unless `m`, run in `w`, raises an error outside `keep`, `R` relates the states before and
after. -/
def CommitsAt {α : Type} (keep : Failure → Prop) (R : World → World → Prop) (m : K α)
    (w : World) : Prop :=
  (∀ e, (m w).1 = .error e → keep e) → R w (m w).2

/-- The error is durable. -/
abbrev Durable (e : Failure) : Prop := e.isDurable = true

section CommitsAt

variable {keep : Failure → Prop} {R : World → World → Prop} {α β : Type} {w : World}

theorem Commits.of_at {m : K α} (h : ∀ w, CommitsAt Durable R m w) : Commits R m := ⟨h⟩

theorem Commits.commitsAt {m : K α} [h : Commits R m] : CommitsAt Durable R m w := h.step w

theorem Within.commitsAt {m : K α} [h : Within R m] : CommitsAt keep R m w := fun _ => h.step w

theorem CommitsAt.of_ok {m : K α} {a : α} {w' : World} (h : CommitsAt keep R m w)
    (hrun : m w = (.ok a, w')) : R w w' := by
  have := h (by rw [hrun]; intro e he; cases he)
  rwa [hrun] at this

theorem CommitsAt.of_cases {m : K α} (hok : ∀ a w', m w = (.ok a, w') → R w w')
    (herror : ∀ e w', m w = (.error e, w') → keep e → R w w') : CommitsAt keep R m w := by
  intro hkeep
  cases hrun : m w with
  | mk r w' =>
      cases r with
      | ok a => exact hok a w' hrun
      | error e => exact herror e w' hrun (hkeep e (by rw [hrun]))

/-- What runs after `m` may use what a successful run of `m` says. -/
theorem CommitsAt.bind [IsPreorder World R] {m : K α} {f : α → K β}
    (hm : CommitsAt keep R m w) (hf : ∀ a w₁, m w = (.ok a, w₁) → CommitsAt keep R (f a) w₁) :
    CommitsAt keep R (m >>= f) w := by
  intro hkeep
  rw [bind_apply] at hkeep ⊢
  cases hrun : m w with
  | mk r w₁ =>
      rw [hrun] at hkeep
      cases r with
      | ok a => exact trans_of R (hm.of_ok hrun) (hf a w₁ hrun hkeep)
      | error e =>
          have := hm (by rw [hrun]; intro e' he'; cases he'; exact hkeep e rfl)
          rwa [hrun] at this

/-- The same when `m` only reads. -/
theorem CommitsAt.bind_read [IsPreorder World R] {m : K α} {f : α → K β} [hm : Within Eq m]
    (hf : ∀ a, m w = (.ok a, w) → CommitsAt keep R (f a) w) :
    CommitsAt keep R (m >>= f) w := by
  refine CommitsAt.bind (fun _ => ?_) fun a w₁ hrun => ?_
  · rw [← hm.step w]
    exact refl_of R w
  · obtain rfl : w = w₁ := Within.of_eq hrun
    exact hf a hrun

/-- A handler that passes on the errors outside `keep'` and stays within `R`. -/
theorem CommitsAt.orElse [IsPreorder World R] {keep' : Failure → Prop} {m : K α}
    {handler : Failure → K α} [hh : ∀ e, Within R (handler e)] (hm : CommitsAt keep' R m w)
    (hkeep : ∀ e, keep e → keep' e)
    (hpass : ∀ e w₁, ¬ keep' e → handler e w₁ = (.error e, w₁)) :
    CommitsAt keep R (Tx.orElse m handler) w := by
  intro h
  unfold Tx.orElse at h ⊢
  cases hrun : m w with
  | mk r w₁ =>
      rw [hrun] at h
      cases r with
      | ok a => exact hm.of_ok hrun
      | error e =>
          have hkept : keep' e := by
            by_contra hnot
            have hraised : (handler e w₁).1 = .error e := by rw [hpass e w₁ hnot]
            exact hnot (hkeep e (h e hraised))
          have hbefore := hm (by rw [hrun]; intro e' he'; cases he'; exact hkept)
          rw [hrun] at hbefore
          exact trans_of R hbefore ((hh e).step w₁)

end CommitsAt

/-! ## Errors that are not durable -/

instance {α : Type} (code : ErrorCode) (message : String) (details : Option Json) :
    Plain (throwKernel code message details : K α) :=
  Raises.raise rfl

instance {α : Type} (error : KernelError) : Plain (raise (.kernel error) : K α) :=
  Raises.raise rfl

instance {α : Type} (fault : Fault) : Plain (raise (.fault fault) : K α) := Raises.raise rfl

instance {α : Type} : Plain (raise .constraint : K α) := Raises.raise rfl

section Plain

instance (kernel : KernelContext) : Plain kernel.readClock := ⟨fun _ _ h => nomatch h⟩

instance (kernel : KernelContext) : Plain kernel.now := ⟨fun _ _ h => nomatch h⟩

instance (kernel : KernelContext) (kind : String) : Plain (kernel.newId kind) :=
  ⟨fun _ _ h => nomatch h⟩

instance (kernel : KernelContext) : Plain kernel.drawToken := ⟨fun _ _ h => nomatch h⟩

variable {ρ : Type} [Keyed ρ UniqueKey] {t : TableName} [Stored ρ t]

instance : Plain (selectTable ρ) := ⟨fun _ _ h => nomatch h⟩

instance (u : Table ρ) : Plain (writeTable u) := ⟨fun _ _ h => nomatch h⟩

instance (p : ρ → Bool) : Plain (selectRow p) := ⟨fun _ _ h => nomatch h⟩

instance (p : ρ → Bool) : Plain (selectRows p) := ⟨fun _ _ h => nomatch h⟩

instance (p : ρ → Bool) (e : Failure) [Plain (raise e : K ρ)] : Plain (requireRow p e) := by
  unfold requireRow
  infer_instance

instance (r : ρ) : Plain (insertRow r) := by
  unfold insertRow
  infer_instance

instance (p : ρ → Bool) (f : ρ → ρ) (h : KeepsKeys f) : Plain (updateRows p f h) := by
  unfold updateRows
  infer_instance

instance (p : ρ → Bool) : Plain (deleteRows p) := by
  unfold deleteRows
  infer_instance

instance (principal : Principal) (kind : PrincipalKind) : Plain (requireKind principal kind) := by
  unfold requireKind
  infer_instance

instance (value field : String) : Plain (requireNonEmpty value field) := by
  unfold requireNonEmpty
  infer_instance

instance (limit : Option Int) : Plain (boundedLimit limit) := by
  unfold boundedLimit
  infer_instance

instance (durationMs : Int) (field : String) : Plain (boundedDuration durationMs field) := by
  unfold boundedDuration
  infer_instance

instance (id : String) : Plain (requireOutboxEvent id) := by
  unfold requireOutboxEvent
  infer_instance

set_option synthInstance.maxSize 100000

instance {η : Type} [Keyed η UniqueKey] {u : TableName} [Stored η u]
    (v : Versioning String ρ η) (eventSequence : Nat) (id : String) :
    Plain (recordVersion v eventSequence id) := by
  unfold recordVersion
  infer_instance

instance (correlationId : String) (eventSequence : Nat) :
    Plain (markImmutableComponents correlationId eventSequence) := by
  unfold markImmutableComponents
  infer_instance

instance (eventSequence : Nat) (runId : String) :
    Plain (recordAffectedRun eventSequence runId) := by
  unfold recordAffectedRun recordRunVersion
  infer_instance

instance (correlationId : String) : Plain (recordProjectionVersions correlationId) := by
  unfold recordProjectionVersions recordVersionsAt recordRunInputVersion
    recordActivationVersion recordProviderAttemptVersion
  infer_instance

/-- Without durable errors only successful runs count. -/
theorem CommitsAt.of_plain {R : World → World → Prop} {α : Type} {m : K α} [hm : Plain m]
    {w : World} (h : ∀ a w', m w = (.ok a, w') → R w w') : CommitsAt Durable R m w :=
  CommitsAt.of_cases h fun e w' hrun hdurable => by
    rw [Durable, not_durable hrun] at hdurable
    cases hdurable

end Plain

/-! ## Transactions -/

/-- Whatever the memory of the process, `R` holds when the tables `ts` are left alone. -/
class ConcernsTables (R : World → World → Prop) (ts : outParam (List TableName)) : Prop where
  of_tables : ∀ w w', (∀ s ∈ ts, w'.db s = w.db s) → w.clockReadings ≤ w'.clockReadings →
    w.issuedIds ≤ w'.issuedIds → w.randomDraws ≤ w'.randomDraws → R w w'

section Transactions

variable {R : World → World → Prop} {ts : List TableName} {α : Type}

instance [h : ConcernsTables R ts] : Concerns R ts :=
  ⟨fun w w' hf => h.of_tables w w' hf.tables hf.clockReadings hf.issuedIds hf.randomDraws⟩

/-- A rollback hands no reading, identifier or draw back. -/
theorem Frame.rollback {w w' : World} (h : Frame [] w w') (us : List TableName) :
    Frame us w (w.rollback w') :=
  { h with tables := fun _ _ => rfl }

instance [Concerns R ts] (m : K α) [hm : Commits R m] [hf : Within (Frame []) m] :
    Within R (transaction m) where
  step w := by
    unfold transaction
    have hframe := hf.step w
    cases hrun : m w with
    | mk r w' =>
        rw [hrun] at hframe
        cases r with
        | ok a => exact Commits.of_eq_ok hrun
        | error e =>
            by_cases he : e.isDurable = true
            · simp only [he, if_true]
              have := hm.step w (by rw [hrun]; intro e' h; cases h; exact he)
              rwa [hrun] at this
            · simp only [he]
              exact Concerns.of_frame _ _ (hframe.rollback ts)

instance [Concerns R ts] (m : K α) [hm : Commits R m] [hf : Within (Frame []) m] :
    Within R (queryTransaction m) where
  step w := by
    unfold queryTransaction
    have hframe := hf.step w
    cases hrun : m w with
    | mk r w' =>
        rw [hrun] at hframe
        cases r with
        | ok a => exact Commits.of_eq_ok hrun
        | error e => exact Concerns.of_frame _ _ (hframe.rollback ts)

instance [Concerns R ts] (m : K α) [hf : Within (Frame []) m] :
    Within R (observation m) where
  step w := Concerns.of_frame _ _ ((hf.step w).rollback ts)

end Transactions

/-! ## Bodies -/

set_option synthInstance.maxSize 100000

section Bodies

variable (kernel : KernelContext)

instance (provider : WorktreeProviderBinding) {R : World → World → Prop}
    [IsPreorder World R] : Within R (validateWorktreeProviderBinding provider) := by
  unfold validateWorktreeProviderBinding
  infer_instance

instance {R : World → World → Prop} {ts : List TableName} [Concerns R ts]
    [IsPreorder World R] (principal : Principal) (command : KernelCommand) :
    Within R (checkCommand principal command) := by
  unfold checkCommand
  split <;> infer_instance

instance (command : KernelCommand) (context : PrincipalContext) (principal : Principal)
    (correlationId : String) :
    Within (Frame []) (dispatchCommand kernel command context principal correlationId) := by
  unfold dispatchCommand
  split <;> infer_instance

instance (command : KernelCommand) (result : CommandResult) (principal : Principal)
    (context : PrincipalContext) :
    Within (Frame []) (resolveCachedResult kernel command result principal context) := by
  unfold resolveCachedResult
  split <;> infer_instance

instance (command : KernelCommand) (principal : Principal) (context : PrincipalContext)
    (cached : IdempotencyRecord) :
    Within (Frame []) (replayCommand kernel command principal context cached) := by
  unfold replayCommand
  cases command <;> infer_instance

instance (command : KernelCommand) (principal : Principal) (context : PrincipalContext)
    (operationContext : Option KernelOperationContext) :
    Within (Frame []) (performCommand kernel command principal context operationContext) := by
  unfold performCommand
  infer_instance

instance (command : KernelCommand) (principal : Principal) (context : PrincipalContext)
    (operationContext : Option KernelOperationContext) :
    Within (Frame []) (commandBody kernel command principal context operationContext) := by
  unfold commandBody
  infer_instance

variable {R : World → World → Prop} {ts : List TableName} [Concerns R ts]
  [IsPreorder World R]

instance [NotAmong .idempotencyRecords ts] (command : KernelCommand) (principal : Principal)
    (context : PrincipalContext) (cached : IdempotencyRecord)
    [∀ result, Commits R (resolveCachedResult kernel command result principal context)] :
    Commits R (replayCommand kernel command principal context cached) := by
  unfold replayCommand
  cases command <;> infer_instance

instance [NotAmong .idempotencyRecords ts] (command : KernelCommand) (principal : Principal)
    (context : PrincipalContext) (operationContext : Option KernelOperationContext)
    [∀ correlationId,
      Commits R (dispatchCommand kernel command context principal correlationId)]
    [∀ correlationId, Commits R (recordProjectionVersions correlationId)] :
    Commits R (performCommand kernel command principal context operationContext) := by
  unfold performCommand
  infer_instance

instance [NotAmong .idempotencyRecords ts] (command : KernelCommand) (principal : Principal)
    (context : PrincipalContext) (operationContext : Option KernelOperationContext)
    [Commits R (assertWriterCommandAuthority kernel command principal context)]
    [∀ correlationId,
      Commits R (dispatchCommand kernel command context principal correlationId)]
    [∀ result, Commits R (resolveCachedResult kernel command result principal context)]
    [∀ correlationId, Commits R (recordProjectionVersions correlationId)] :
    Commits R (commandBody kernel command principal context operationContext) := by
  unfold commandBody
  infer_instance

end Bodies

/-! ## Outcomes of a command -/

section Outcomes

variable {kernel : KernelContext} {w : World}

/-- A transaction succeeds, or fails and keeps its writes, or is rolled back. -/
theorem transaction_cases {α : Type} (m : K α) (w : World) :
    (∃ a w', m w = (.ok a, w') ∧ transaction m w = (.ok a, w')) ∨
    (∃ e w', m w = (.error e, w') ∧ e.isDurable = true ∧ transaction m w = (.error e, w')) ∨
    ∃ e w', m w = (.error e, w') ∧ e.isDurable = false ∧
      transaction m w = (.error (translateError e), w.rollback w') := by
  unfold transaction
  cases hrun : m w with
  | mk r w' =>
      cases r with
      | ok a => exact .inl ⟨a, w', rfl, rfl⟩
      | error e =>
          cases he : e.isDurable with
          | true => exact .inr (.inl ⟨e, w', rfl, he, by simp [he]⟩)
          | false => exact .inr (.inr ⟨e, w', rfl, he, by simp [he]⟩)

/-- A transaction keeps the writes of its body or rolls them back. -/
theorem transaction_snd {α : Type} (m : K α) (w : World) :
    ((∀ e, (m w).1 = .error e → e.isDurable = true) ∧ (transaction m w).2 = (m w).2) ∨
      (transaction m w).2 = w.rollback (m w).2 := by
  obtain ⟨a, w', hm, ht⟩ | ⟨e, w', hm, he, ht⟩ | ⟨e, w', hm, he, ht⟩ := transaction_cases m w
  · exact .inl ⟨fun e he => (by rw [hm] at he; cases he), by rw [ht, hm]⟩
  · exact .inl ⟨fun e' he' => (by rw [hm] at he'; cases he'; exact he), by rw [ht, hm]⟩
  · exact .inr (by rw [ht, hm])

@[simp] theorem transaction_eq_ok {α : Type} {m : K α} {a : α} {w w' : World} :
    transaction m w = (.ok a, w') ↔ m w = (.ok a, w') := by
  obtain ⟨b, w₁, hm, ht⟩ | ⟨e, w₁, hm, -, ht⟩ | ⟨e, w₁, hm, -, ht⟩ := transaction_cases m w
  all_goals simp [hm, ht]

theorem checkCommand_snd (principal : Principal) (command : KernelCommand) (w : World) :
    (checkCommand principal command w).2 = w := by
  have hthrow : ∀ (c : Prop) [Decidable c] (e : Failure),
      ((throwIf c e : K Unit) w).2 = w := by
    intro c _ e
    unfold throwIf
    split <;> rfl
  unfold checkCommand
  split
  · exact hthrow _ _
  · exact hthrow _ _
  · exact hthrow _ _
  · rename_i command
    cases command.provider with
    | none => rfl
    | some provider => exact hthrow _ _
  · rfl

/-- A command is refused before anything happens, or its principal is known and its body
runs in a transaction. -/
theorem executeTransaction_cases (kernel : KernelContext) (command : KernelCommand)
    (context : PrincipalContext) (operationContext : Option KernelOperationContext)
    (w : World) :
    (∃ e, executeTransaction kernel command context operationContext w = (.error e, w)) ∨
    ∃ principal,
      (w.db.table Principal).find? (fun r => r.id = context.principalId) = some principal ∧
      executeTransaction kernel command context operationContext w =
        transaction (commandBody kernel command principal (effectiveContext principal context)
          operationContext) w := by
  unfold executeTransaction throwIf
  split
  · exact .inl ⟨_, rfl⟩
  · rw [bind_of_ok (pure_apply _ w)]
    cases hprincipal : (w.db.table Principal).find? fun r => r.id = context.principalId with
    | none =>
        refine .inl ⟨kernelError .Unauthorized "The principal is not authenticated.", ?_⟩
        apply bind_of_error
        rw [requirePrincipal, requireRow, bind_of_ok (selectRow_eq_ok.mpr ⟨hprincipal, rfl⟩)]
        rfl
    | some principal =>
        rw [bind_of_ok (requirePrincipal_eq_ok.mpr ⟨hprincipal, rfl⟩)]
        cases hcheck : checkCommand principal command w with
        | mk r w' =>
            have hsame := checkCommand_snd principal command w
            rw [hcheck] at hsame
            subst hsame
            cases r with
            | error e => exact .inl ⟨e, bind_of_error hcheck⟩
            | ok u => exact .inr ⟨principal, rfl, bind_of_ok hcheck⟩

/-- A successful command has passed the fence of the writers, and is then replayed or
executed for the first time. -/
theorem executeTransaction_eq_ok {command : KernelCommand} {context : PrincipalContext}
    {operationContext : Option KernelOperationContext} {w w' : World} {result : CommandResult}
    (h : executeTransaction kernel command context operationContext w = (.ok result, w')) :
    ∃ principal w₁,
      (w.db.table Principal).find? (fun r => r.id = context.principalId) = some principal ∧
      assertWriterCommandAuthority kernel command principal
        (effectiveContext principal context) w = (.ok (), w₁) ∧
      ((∃ cached, (w₁.db.table IdempotencyRecord).find?
          (IdempotencyRecord.isOf principal.id command) = some cached ∧
        replayCommand kernel command principal (effectiveContext principal context) cached
          w₁ = (.ok result, w')) ∨
      ((w₁.db.table IdempotencyRecord).find?
          (IdempotencyRecord.isOf principal.id command) = none ∧
        performCommand kernel command principal (effectiveContext principal context)
          operationContext w₁ = (.ok result, w'))) := by
  obtain ⟨e, hrun⟩ | ⟨principal, hprincipal, hrun⟩ :=
    executeTransaction_cases kernel command context operationContext w
  · rw [hrun] at h
    cases h
  · rw [hrun, transaction_eq_ok] at h
    simp only [commandBody, bind_eq_ok, selectRow_eq_ok] at h
    obtain ⟨_, w₁, hfence, cached, _, ⟨hcached, rfl⟩, h⟩ := h
    refine ⟨principal, w₁, hprincipal, hfence, ?_⟩
    cases cached with
    | none => exact .inr ⟨hcached, h⟩
    | some cached => exact .inl ⟨cached, hcached, h⟩

theorem execute_eq_ok {command : KernelCommand} {context : PrincipalContext}
    {operationContext : Option KernelOperationContext} {w w' : World} {result : CommandResult}
    (h : execute kernel command context operationContext w = (.ok result, w')) :
    ∃ w₁, executeTransaction kernel command context operationContext w = (.ok result, w₁) ∧
      rememberExecution command context result w₁ = (.ok (), w') := by
  simp only [execute, bind_eq_ok, throwIf_eq_ok, pure_eq_ok] at h
  obtain ⟨_, _, ⟨-, rfl⟩, result, w₁, hrun, _, _, hremember, rfl, rfl⟩ := h
  exact ⟨w₁, hrun, hremember⟩

/-- What the body of a command commits is all that the command does. -/
theorem executeTransaction_within {R : World → World → Prop} {ts : List TableName}
    [Concerns R ts] [IsPreorder World R] {command : KernelCommand}
    {context : PrincipalContext}
    {operationContext : Option KernelOperationContext} {w : World}
    (hbody : ∀ principal,
      (w.db.table Principal).find? (fun r => r.id = context.principalId) = some principal →
      Commits R (commandBody kernel command principal (effectiveContext principal context)
        operationContext)) :
    R w (executeTransaction kernel command context operationContext w).2 := by
  obtain ⟨e, hrun⟩ | ⟨principal, hprincipal, hrun⟩ :=
    executeTransaction_cases kernel command context operationContext w
  · rw [hrun]
    exact refl_of R w
  · have := hbody principal hprincipal
    rw [hrun]
    exact Within.step w

end Outcomes

/-! ## Calls -/

section Calls

variable (kernel : KernelContext) {R : World → World → Prop} {ts : List TableName}
  [ConcernsTables R ts] [IsPreorder World R]

instance (command : KernelCommand) (context : PrincipalContext) (result : CommandResult) :
    Within R (rememberExecution command context result) := by
  have hremember : ∀ f : World → World, (∀ w, (f w).db = w.db) →
      (∀ w, (f w).clockReadings = w.clockReadings) → (∀ w, (f w).issuedIds = w.issuedIds) →
      (∀ w, (f w).randomDraws = w.randomDraws) → Within R (modify f : K Unit) :=
    fun f hdb hclock hids hdraws => Within.modify fun w =>
      ConcernsTables.of_tables w (f w) (fun s _ => by rw [hdb]) (Nat.le_of_eq (hclock w).symm)
        (Nat.le_of_eq (hids w).symm) (Nat.le_of_eq (hdraws w).symm)
  unfold rememberExecution
  split
  · split
    · exact hremember _ (fun _ => rfl) (fun _ => rfl) (fun _ => rfl) fun _ => rfl
    · infer_instance
  · infer_instance

instance (receipt : WorktreeExecutionReceipt) (context : PrincipalContext) :
    Within R (revokeLocalWorktreeAuthority receipt context) := by
  have hrevoke : ∀ activationId : String, Within R (modify fun w : World =>
      { w with
        localWorktreeRevocations :=
          if activationId ∈ w.localWorktreeRevocations then w.localWorktreeRevocations
          else activationId :: w.localWorktreeRevocations } : K Unit) :=
    fun _ => Within.modify fun w =>
      ConcernsTables.of_tables w _ (fun _ _ => rfl) (Nat.le_refl _) (Nat.le_refl _)
        (Nat.le_refl _)
  unfold revokeLocalWorktreeAuthority
  infer_instance

/-- After its transaction, a command only makes the process remember an execution. -/
theorem execute_after {us : List TableName} [ConcernsTables R us] (command : KernelCommand)
    (context : PrincipalContext) (operationContext : Option KernelOperationContext) (w : World) :
    (execute kernel command context operationContext w).2 = w ∨
      R (executeTransaction kernel command context operationContext w).2
        (execute kernel command context operationContext w).2 := by
  unfold execute throwIf
  split
  · exact .inl rfl
  · right
    rw [bind_of_ok (pure_apply _ w)]
    cases hrun : executeTransaction kernel command context operationContext w with
    | mk r w' =>
        cases r with
        | ok result =>
            rw [bind_of_ok hrun]
            have : Within R (do
                rememberExecution command context result
                pure result) := inferInstance
            exact this.step w'
        | error e =>
            rw [bind_of_error hrun]
            exact refl_of R w'

/-- A call stays within `R` when the bodies of its transactions commit within `R`. -/
theorem step_within (call : KernelCall) [NotAmong .projectionActivationChanges ts]
    [∀ principal context requireStopped,
      Commits R (assertWriterContextAuthority kernel principal context requireStopped)]
    [∀ authority principal, Commits R (assertWorktreeMutation kernel authority principal)]
    [∀ authority principal, Commits R (assertWorktreePublication kernel authority principal)]
    [∀ worktreeId principal, Commits R (getWorktreeWriterLease kernel worktreeId principal)]
    [Commits R (getAttentionRecoverySnapshot kernel)]
    [∀ afterCursor recoveryRevision limit,
      Commits R (listRecoverableAttentionExecutions kernel afterCursor recoveryRevision limit)]
    (w : World)
    (hbody : ∀ issued principal, call.issued = some issued →
      (w.db.table Principal).find? (fun r => r.id = issued.context.principalId) =
        some principal →
      Commits R (commandBody kernel issued.command principal
        (effectiveContext principal issued.context) issued.operationContext)) :
    R w (step kernel call w) := by
  cases call with
  | execute command context operationContext =>
      have hrun := executeTransaction_within fun principal =>
        hbody ⟨command, context, operationContext⟩ principal rfl
      obtain hrefused | hafter := execute_after kernel (R := R) command context operationContext w
      · show R w (execute kernel command context operationContext w).2
        rw [hrefused]
        exact refl_of R w
      · exact trans_of R hrun hafter
  | admitReport runId context =>
      have : Within R (admitReport kernel runId context) := by
        unfold admitReport
        infer_instance
      exact this.step w
  | publishReport input content context operationContext =>
      exact executeTransaction_within fun principal =>
        hbody ⟨input.command content, context, operationContext⟩ principal rfl
  | performWorktreeMutation authority context effect =>
      have : Within R (performWorktreeMutation kernel authority context effect) := by
        unfold performWorktreeMutation
        infer_instance
      exact this.step w
  | checkWorktreeAuthority authority context =>
      have : Within R (checkWorktreeAuthority kernel authority context) := by
        unfold checkWorktreeAuthority
        infer_instance
      exact this.step w
  | checkWorktreePublication authority context =>
      have : Within R (checkWorktreePublication kernel authority context) := by
        unfold checkWorktreePublication
        infer_instance
      exact this.step w
  | revokeLocalWorktreeAuthority receipt context => exact Within.step w
  | queryAttentionRecoverySnapshot context =>
      have : Within R (queryAttentionRecoverySnapshot kernel context) := by
        unfold queryAttentionRecoverySnapshot
        infer_instance
      exact this.step w
  | queryRecoverableAttentionExecutions afterCursor recoveryRevision limit context =>
      have : Within R (queryRecoverableAttentionExecutions kernel afterCursor recoveryRevision
          limit context) := by
        unfold queryRecoverableAttentionExecutions
        infer_instance
      exact this.step w
  | queryWorktreeWriterLease worktreeId context =>
      have : Within R (queryWorktreeWriterLease kernel worktreeId context) := by
        unfold queryWorktreeWriterLease
        infer_instance
      exact this.step w
  | read clockReadings issuedIds =>
      exact ConcernsTables.of_tables _ _ (fun _ _ => rfl) (Nat.le_add_right _ _)
        (Nat.le_add_right _ _) (Nat.le_refl _)
  | restart =>
      exact ConcernsTables.of_tables _ _
        (fun s hs => Database.set_apply_of_ne _ _ fun heq =>
          (inferInstance : NotAmong .projectionActivationChanges ts).notMem (heq ▸ hs))
        (Nat.le_refl _) (Nat.le_refl _) (Nat.le_refl _)

end Calls

/-! ## The part of a command that writes -/

/-- The tables `ts` are unchanged, nothing is handed back. -/
structure SameTables (ts : List TableName) (w w' : World) : Prop where
  tables : ∀ s ∈ ts, w'.db s = w.db s
  clockReadings : w.clockReadings ≤ w'.clockReadings
  issuedIds : w.issuedIds ≤ w'.issuedIds
  randomDraws : w.randomDraws ≤ w'.randomDraws

section SameTables

variable {ts : List TableName}

instance : IsPreorder World (SameTables ts) where
  refl _ := ⟨fun _ _ => rfl, Nat.le_refl _, Nat.le_refl _, Nat.le_refl _⟩
  trans _ _ _ h h' :=
    ⟨fun s hs => (h'.tables s hs).trans (h.tables s hs),
      Nat.le_trans h.clockReadings h'.clockReadings, Nat.le_trans h.issuedIds h'.issuedIds,
      Nat.le_trans h.randomDraws h'.randomDraws⟩

instance : ConcernsTables (SameTables ts) ts :=
  ⟨fun _ _ htables hclock hids hdraws => ⟨htables, hclock, hids, hdraws⟩⟩

theorem SameTables.table_eq {w w' : World} (h : SameTables ts w w') (ρ : Type)
    [Keyed ρ UniqueKey] {t : TableName} [Stored ρ t] (ht : t ∈ ts) :
    w'.db.table ρ = w.db.table ρ := by
  rw [Database.table, h.tables t ht, Database.table]

end SameTables

/-- The tables the check of the writer's authority before a command leaves alone. -/
abbrev TableName.butLeases : List TableName :=
  [.principals, .projects, .channels, .agents, .agentConfigRevisions, .causalLimits, .threads,
    .messages, .messageRevisions, .mentions, .attentions, .runs, .runInputs, .activationAttempts,
    .activationRunInputs, .providerAttempts, .kernelRuntimeState, .attentionRecoveryExecutions,
    .attentionDomainFences, .runActivityEvents, .artifacts, .idempotencyRecords, .outboxEvents,
    .physicalWorktrees, .worktreeExecutionEvents, .publicEvents, .runHistory, .runInputHistory,
    .activationHistory, .providerAttemptHistory, .attentionHistory, .projectionActivationChanges]

section Outcome

variable {kernel : KernelContext} {command : KernelCommand} {principal : Principal}
  {context : PrincipalContext} {operationContext : Option KernelOperationContext}

/-- Of a command that is executed for the first time, only its own part may leave `R`. -/
theorem performCommand_outcome (R : World → World → Prop) {ts : List TableName}
    [ConcernsTables R ts] [IsPreorder World R] [NotAmong .idempotencyRecords ts]
    [∀ correlationId,
      Plain (dispatchCommand kernel command context principal correlationId)]
    [∀ correlationId, Within R (recordProjectionVersions correlationId)]
    {w : World}
    (hkept : ∀ e, (performCommand kernel command principal context operationContext w).1 =
      .error e → e.isDurable = true) :
    ∃ correlationId dispatched w₁ w₂, R w w₁ ∧ SameTables TableName.butLeases w w₁ ∧
      dispatchCommand kernel command context principal correlationId w₁ =
        (.ok dispatched, w₂) ∧
      R w₂
        (performCommand kernel command principal context operationContext w).2 := by
  unfold performCommand at hkept ⊢
  obtain ⟨correlationId, w₁, hcorrelation⟩ : ∃ correlationId w₁,
      (operationContext.elim (kernel.newId "corr") fun operation =>
        pure operation.correlationId : K String) w = (.ok correlationId, w₁) := by
    cases operationContext with
    | none => exact ⟨_, _, rfl⟩
    | some operation => exact ⟨_, _, rfl⟩
  have hsame : R w w₁ := Within.of_eq hcorrelation
  have htables : SameTables TableName.butLeases w w₁ := Within.of_eq hcorrelation
  rw [bind_of_ok hcorrelation] at hkept ⊢
  cases hdispatch : dispatchCommand kernel command context principal correlationId w₁ with
  | mk r w₂ =>
      cases r with
      | error e =>
          have hdurable := hkept e (by rw [bind_of_error hdispatch])
          have hplain := not_durable hdispatch
          rw [hplain] at hdurable
          cases hdurable
      | ok dispatched =>
          refine ⟨correlationId, dispatched, w₁, w₂, hsame, htables, hdispatch, ?_⟩
          rw [bind_of_ok hdispatch]
          exact Within.step w₂

/-- Of a command, only its own part may leave `R`, when it is executed for the first time
and does not fail. -/
theorem commandBody_outcome (R : World → World → Prop) {ts : List TableName}
    [ConcernsTables R ts] [IsPreorder World R] [NotAmong .idempotencyRecords ts]
    [Commits R (assertWriterCommandAuthority kernel command principal context)]
    [∀ result,
      Commits R (resolveCachedResult kernel command result principal context)]
    [∀ correlationId,
      Plain (dispatchCommand kernel command context principal correlationId)]
    [∀ correlationId, Within R (recordProjectionVersions correlationId)]
    {w : World}
    (hkept : ∀ e, (commandBody kernel command principal context operationContext w).1 =
      .error e → e.isDurable = true) :
    R w (commandBody kernel command principal context operationContext w).2 ∨
    ∃ correlationId dispatched w₁ w₂, R w w₁ ∧ SameTables TableName.butLeases w w₁ ∧
      dispatchCommand kernel command context principal correlationId w₁ =
        (.ok dispatched, w₂) ∧
      R w₂
        (commandBody kernel command principal context operationContext w).2 := by
  unfold commandBody at hkept ⊢
  have hfence := (inferInstance : Commits R
    (assertWriterCommandAuthority kernel command principal context)).step w
  cases hassert : assertWriterCommandAuthority kernel command principal context w with
  | mk r w₁ =>
      rw [hassert] at hfence
      cases r with
      | error e =>
          rw [bind_of_error hassert] at hkept ⊢
          exact .inl (hfence fun e' he' => by cases he'; exact hkept e rfl)
      | ok u =>
          have hfence := hfence fun e he => by cases he
          have htables : SameTables TableName.butLeases w w₁ := Within.of_eq hassert
          rw [bind_of_ok hassert, bind_of_ok (selectRow_eq_ok.mpr ⟨rfl, rfl⟩)] at hkept ⊢
          cases hcached : (w₁.db.table IdempotencyRecord).find?
              (IdempotencyRecord.isOf principal.id command) with
          | some cached =>
              rw [hcached] at hkept
              have hreplay : Commits R
                (replayCommand kernel command principal context cached) := inferInstance
              exact .inl (trans_of _ hfence (hreplay.step w₁ hkept))
          | none =>
              rw [hcached] at hkept
              obtain ⟨correlationId, dispatched, w₂, w₃, hbefore, hsame, hdispatch, hafter⟩ :=
                performCommand_outcome R hkept
              exact .inr ⟨correlationId, dispatched, w₂, w₃, trans_of _ hfence hbefore,
                trans_of _ htables hsame, hdispatch, hafter⟩

variable (kernel command context operationContext) in
/-- The same of the transaction of the command. -/
theorem executeTransaction_outcome (R : World → World → Prop) {ts : List TableName}
    [ConcernsTables R ts] [IsPreorder World R] [NotAmong .idempotencyRecords ts]
    [∀ principal context,
      Commits R (assertWriterCommandAuthority kernel command principal context)]
    [∀ result principal context,
      Commits R (resolveCachedResult kernel command result principal context)]
    [∀ principal context correlationId,
      Plain (dispatchCommand kernel command context principal correlationId)]
    [∀ correlationId, Within R (recordProjectionVersions correlationId)]
    (w : World) :
    R w (executeTransaction kernel command context operationContext w).2 ∨
    ∃ principal correlationId dispatched w₁ w₂,
      (w.db.table Principal).find? (fun r => r.id = context.principalId) = some principal ∧
      R w w₁ ∧ SameTables TableName.butLeases w w₁ ∧
      dispatchCommand kernel command (effectiveContext principal context) principal
        correlationId w₁ = (.ok dispatched, w₂) ∧
      R w₂ (executeTransaction kernel command context operationContext w).2 := by
  obtain ⟨e, hrun⟩ | ⟨principal, hprincipal, hrun⟩ :=
    executeTransaction_cases kernel command context operationContext w
  · rw [hrun]
    exact .inl (refl_of _ w)
  · rw [hrun]
    obtain ⟨hkept, hsame⟩ | hrollback := transaction_snd (commandBody kernel command principal
      (effectiveContext principal context) operationContext) w
    · rw [hsame]
      obtain h | ⟨correlationId, dispatched, w₁, w₂, h⟩ := commandBody_outcome R hkept
      · exact .inl h
      · exact .inr ⟨principal, correlationId, dispatched, w₁, w₂, hprincipal, h⟩
    · rw [hrollback]
      have hframe : Within (Frame []) (commandBody kernel command principal
        (effectiveContext principal context) operationContext) := inferInstance
      exact .inl (Concerns.of_frame _ _ ((hframe.step w).rollback ts))

variable (kernel) in
/-- Of a call that executes a command, only the command's own part touches `ts`. -/
theorem step_outcome (R : World → World → Prop) {ts : List TableName} [ConcernsTables R ts]
    [IsPreorder World R] [NotAmong .idempotencyRecords ts]
    [∀ principal context,
      Commits R (assertWriterCommandAuthority kernel command principal context)]
    [∀ result principal context,
      Commits R (resolveCachedResult kernel command result principal context)]
    [∀ principal context correlationId,
      Plain (dispatchCommand kernel command context principal correlationId)]
    [∀ correlationId, Within R (recordProjectionVersions correlationId)]
    {call : KernelCall} (hcall : call.issued = some ⟨command, context, operationContext⟩)
    (w : World) :
    R w (step kernel call w) ∨
    ∃ principal correlationId dispatched w₁ w₂,
      (w.db.table Principal).find? (fun r => r.id = context.principalId) = some principal ∧
      R w w₁ ∧ SameTables TableName.butLeases w w₁ ∧
      dispatchCommand kernel command (effectiveContext principal context) principal
        correlationId w₁ = (.ok dispatched, w₂) ∧
      R w₂ (step kernel call w) := by
  cases call with
  | execute =>
      cases hcall
      obtain hrefused | hafter := execute_after kernel (R := R) command context
        operationContext w
      · refine .inl ?_
        show R w (execute kernel command context operationContext w).2
        rw [hrefused]
        exact refl_of _ w
      · obtain hsame | ⟨principal, correlationId, dispatched, w₁, w₂, hprincipal, hbefore,
          htables, hdispatch, hend⟩ :=
            executeTransaction_outcome kernel command context operationContext R w
        · exact .inl (trans_of _ hsame hafter)
        · exact .inr ⟨principal, correlationId, dispatched, w₁, w₂, hprincipal, hbefore,
            htables, hdispatch, trans_of _ hend hafter⟩
  | publishReport input content =>
      cases hcall
      exact executeTransaction_outcome kernel (input.command content) context
        operationContext R w
  | _ => cases hcall

end Outcome

end Torsor.Kernel
