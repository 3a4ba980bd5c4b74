import Torsor.Kernel.AttentionOrder
import Torsor.Kernel.Failures
import Torsor.Kernel.ReplayResults
import Torsor.Kernel.WorktreeExclusion

/-! # Fencing of writers

Whatever is granted in a Worktree later has a greater generation and a greater fencing token,
so an authority that is not the Active one any more stays so, and so does an execution that
has lost its authority. No operation accepts either again.
-/

namespace Torsor.Kernel

open Torsor.Library Tx

/-! ## Leases and executions of a later book -/

/-- The lease `r'` may be what became of the lease `r`: only an acquisition makes a lease
Active, and it raises both numbers. -/
structure WorktreeWriterLease.Becomes (r r' : WorktreeWriterLease) : Prop where
  revision : r' = r ∨ r.revision < r'.revision
  fence : (r'.generation = r.generation ∧ r.fencingToken ≤ r'.fencingToken ∧
      (r'.status = .Active → r.status = .Active ∧ r'.fencingToken = r.fencingToken ∧
        r'.leaseToken = r.leaseToken ∧ r'.holderPrincipalId = r.holderPrincipalId)) ∨
    r.generation < r'.generation ∧ r.fencingToken < r'.fencingToken

theorem WorktreeWriterLease.Becomes.refl (r : WorktreeWriterLease) : r.Becomes r :=
  ⟨.inl rfl, .inl ⟨rfl, Nat.le_refl _, fun hactive => ⟨hactive, rfl, rfl, rfl⟩⟩⟩

theorem WorktreeWriterLease.Becomes.trans {r r' r'' : WorktreeWriterLease} (h : r.Becomes r')
    (h' : r'.Becomes r'') : r.Becomes r'' where
  revision := by
    obtain rfl | hlater' := h'.revision
    · exact h.revision
    · obtain rfl | hlater := h.revision
      · exact .inr hlater'
      · exact .inr (Nat.lt_trans hlater hlater')
  fence := by
    obtain ⟨hsame, hle, hactive⟩ | ⟨hlt, htoken⟩ := h.fence
    · obtain ⟨hsame', hle', hactive'⟩ | ⟨hlt', htoken'⟩ := h'.fence
      · left
        refine ⟨hsame'.trans hsame, Nat.le_trans hle hle', ?_⟩
        intro hnow
        obtain ⟨hbefore, hf', ht', hh'⟩ := hactive' hnow
        obtain ⟨hfirst, hf, ht, hh⟩ := hactive hbefore
        exact ⟨hfirst, hf'.trans hf, ht'.trans ht, hh'.trans hh⟩
      · right
        omega
    · right
      obtain ⟨hsame', hle', -⟩ | ⟨hlt', htoken'⟩ := h'.fence <;> omega

/-- An execution as it was started. -/
def WorktreeExecution.started (e : WorktreeExecution) : WorktreeExecution :=
  { e with state := .Starting, authorityRevokedAt := none, authorityRevocationReason := none }

/-- The execution `e'` is `e` later on: a revocation is recorded once. -/
structure WorktreeExecution.Becomes (e e' : WorktreeExecution) : Prop where
  started : e'.started = e.started
  revoked : e.authorityRevokedAt.isSome = true →
    e'.authorityRevokedAt = e.authorityRevokedAt ∧
      e'.authorityRevocationReason = e.authorityRevocationReason

theorem WorktreeExecution.Becomes.refl (e : WorktreeExecution) : e.Becomes e :=
  ⟨rfl, fun _ => ⟨rfl, rfl⟩⟩

theorem WorktreeExecution.Becomes.trans {e e' e'' : WorktreeExecution} (h : e.Becomes e')
    (h' : e'.Becomes e'') : e.Becomes e'' where
  started := h'.started.trans h.started
  revoked hsome := by
    obtain ⟨hat, hreason⟩ := h.revoked hsome
    obtain ⟨hat', hreason'⟩ := h'.revoked (hat ▸ hsome)
    exact ⟨hat'.trans hat, hreason'.trans hreason⟩

namespace WorktreeBook

/-- The book `b'` is `b` later on. -/
structure Becomes (b b' : WorktreeBook) : Prop where
  leases : ∀ worktreeId r, b.lease worktreeId = some r →
    ∃ r', b'.lease worktreeId = some r' ∧ r.Becomes r'
  executions : ∀ e ∈ b.executions, ∃ e' ∈ b'.executions, e.Becomes e'

theorem Becomes.refl (b : WorktreeBook) : b.Becomes b where
  leases _ r hr := ⟨r, hr, .refl r⟩
  executions e he := ⟨e, he, .refl e⟩

theorem Becomes.trans {b b' b'' : WorktreeBook} (h : b.Becomes b') (h' : b'.Becomes b'') :
    b.Becomes b'' where
  leases worktreeId r hr := by
    obtain ⟨r', hr', hbecomes⟩ := h.leases worktreeId r hr
    obtain ⟨r'', hr'', hbecomes'⟩ := h'.leases worktreeId r' hr'
    exact ⟨r'', hr'', hbecomes.trans hbecomes'⟩
  executions e he := by
    obtain ⟨e', he', hbecomes⟩ := h.executions e he
    obtain ⟨e'', he'', hbecomes'⟩ := h'.executions e' he'
    exact ⟨e'', he'', hbecomes.trans hbecomes'⟩

section Steps

variable {b b' : WorktreeBook} {type : WorktreeWriterLeaseEventType}
  {r previous : WorktreeWriterLease}

theorem LeaseMove.becomes (hfiled : b.Filed) (h : b.LeaseMove type r)
    (hprevious : b.lease r.worktreeId = some previous) : previous.Becomes r := by
  cases h with
  | expire hr _ =>
      cases hr.symm.trans hprevious
      exact ⟨.inr (Nat.lt_succ_self _), .inl ⟨rfl, Nat.le_refl _, fun hactive => by cases hactive⟩⟩
  | @acquire worktreeId _ _ _ _ _ _ =>
      have hprevious : b.lease worktreeId = some previous := hprevious
      rw [hprevious]
      exact ⟨.inr (Nat.lt_succ_self _), .inr ⟨Nat.lt_succ_self _, Nat.lt_succ_self _⟩⟩
  | renew hr hactive =>
      cases hr.symm.trans hprevious
      exact ⟨.inr (Nat.lt_succ_self _),
        .inl ⟨rfl, Nat.le_refl _, fun _ => ⟨hactive, rfl, rfl, rfl⟩⟩⟩
  | release _ hr _ =>
      cases hr.symm.trans hprevious
      exact ⟨.inr (Nat.lt_succ_self _), .inl ⟨rfl, Nat.le_refl _, fun hactive => by cases hactive⟩⟩
  | @quarantine command quarantineToken observedAt _ =>
      rw [hfiled.quarantine] at hprevious
      rw [hprevious]
      exact ⟨.inr (Nat.lt_succ_self _), .inl ⟨rfl, Nat.le_succ _, fun hactive => by cases hactive⟩⟩
  | resolve _ hr _ =>
      cases hr.symm.trans hprevious
      exact ⟨.inr (Nat.lt_succ_self _), .inl ⟨rfl, Nat.le_refl _, fun hactive => by cases hactive⟩⟩

theorem Step.filed (h : b.Step b') (hfiled : b.Filed) : b'.Filed := by
  cases h with
  | lease => exact hfiled.setLease _
  | register => exact hfiled
  | start => exact hfiled
  | record => exact hfiled
  | revoke => exact hfiled

theorem Step.becomes (h : b.Step b') (hfiled : b.Filed) : b.Becomes b' := by
  cases h with
  | @lease type r event hmove _ _ =>
      refine ⟨?_, (Becomes.refl b).executions⟩
      intro worktreeId previous hprevious
      by_cases hof : worktreeId = r.worktreeId
      · subst hof
        exact ⟨r, setLease_lease_self b r, hmove.becomes hfiled hprevious⟩
      · exact ⟨previous, (setLease_lease_other hof).trans hprevious, .refl previous⟩
  | register => exact ⟨(Becomes.refl b).leases, (Becomes.refl b).executions⟩
  | start =>
      exact ⟨(Becomes.refl b).leases, fun e he => ⟨e, List.mem_append_left _ he, .refl e⟩⟩
  | @record recorded state _ _ =>
      refine ⟨(Becomes.refl b).leases, ?_⟩
      intro e he
      refine ⟨_, List.mem_map_of_mem he, ?_⟩
      split
      · exact ⟨rfl, fun _ => ⟨rfl, rfl⟩⟩
      · exact .refl e
  | revoke id revokedAt reason =>
      refine ⟨(Becomes.refl b).leases, ?_⟩
      intro e he
      refine ⟨_, List.mem_map_of_mem he, ?_⟩
      split
      · rename_i hof
        exact ⟨rfl, fun hsome => by simp [hof.2] at hsome⟩
      · exact .refl e

theorem becomes_of_run (h : Relation.ReflTransGen Step b b') (hfiled : b.Filed) :
    b.Becomes b' ∧ b'.Filed := by
  induction h with
  | refl => exact ⟨.refl b, hfiled⟩
  | tail _ hstep ih =>
      obtain ⟨hbecomes, hfiled'⟩ := ih
      exact ⟨hbecomes.trans (hstep.becomes hfiled'), hstep.filed hfiled'⟩

end Steps

/-! ## Authorities -/

/-- The authority is that of the Active lease of its Worktree. -/
def Honours (b : WorktreeBook) (authority : WorktreeLeaseAuthority) : Prop :=
  ∃ r, b.lease authority.worktreeId = some r ∧ r.status = .Active ∧
    r.generation = authority.generation ∧ r.fencingToken = authority.fencingToken ∧
    r.leaseToken = some authority.leaseToken

/-- The Worktree has come to the generation of the authority, which is not the Active one. -/
structure Retired (b : WorktreeBook) (authority : WorktreeLeaseAuthority) : Prop where
  reached : ∃ r, b.lease authority.worktreeId = some r ∧ authority.generation ≤ r.generation
  lost : ¬ b.Honours authority

section Authorities

variable {b b' : WorktreeBook} {authority : WorktreeLeaseAuthority}

theorem Retired.after (h : b.Retired authority) (hbecomes : b.Becomes b') :
    b'.Retired authority := by
  obtain ⟨r, hr, hreached⟩ := h.reached
  obtain ⟨r', hr', hfollows⟩ := hbecomes.leases _ r hr
  constructor
  · refine ⟨r', hr', ?_⟩
    obtain ⟨hsame, -⟩ | ⟨hlt, -⟩ := hfollows.fence <;> omega
  · intro hhonours
    obtain ⟨x, hx, hactive, hgeneration, hfencing, htoken⟩ := hhonours
    cases hr'.symm.trans hx
    obtain ⟨hsame, -, hkept⟩ | ⟨hlt, -⟩ := hfollows.fence
    · obtain ⟨hbefore, hf, ht, -⟩ := hkept hactive
      exact h.lost ⟨r, hr, hbefore, hsame.symm.trans hgeneration, hf.symm.trans hfencing,
        ht.symm.trans htoken⟩
    · omega

/-- An authority that was the Active one still is, or never will be again. -/
theorem Honours.after (h : b.Honours authority) (hbecomes : b.Becomes b') :
    b'.Honours authority ∨ b'.Retired authority := by
  by_cases hstill : b'.Honours authority
  · exact .inl hstill
  · right
    obtain ⟨r, hr, -, hgeneration, -⟩ := h
    obtain ⟨r', hr', hfollows⟩ := hbecomes.leases _ r hr
    refine ⟨⟨r', hr', ?_⟩, hstill⟩
    obtain ⟨hsame, -⟩ | ⟨hlt, -⟩ := hfollows.fence <;> omega

end Authorities

end WorktreeBook

/-! ## Runs -/

theorem worktreeBook_filed (db : Database) : (worktreeBook db).Filed :=
  fun _ _ => worktreeBook_lease_worktreeId

section Runs

variable {kernel : KernelContext} {w w' : World}

theorem Steps.worktreeBecomes (hs : Steps kernel w w') :
    (worktreeBook w.db).Becomes (worktreeBook w'.db) := by
  refine hs.invariant (P := fun w' => (worktreeBook w.db).Becomes (worktreeBook w'.db))
    (.refl _) fun w₁ call ih => ?_
  exact ih.trans (WorktreeBook.becomes_of_run (step_worktrees kernel call w₁)
    (worktreeBook_filed _)).1

end Runs

/-! ## What a check of authority has seen -/

/-- The Activation the prologue takes an activity to belong to. -/
def activityProvenance (db : Database) (activationId providerAttemptId : Option String) :
    Option String :=
  if activationId.isSome then activationId
  else if truthy providerAttemptId then
    ((db.table ProviderAttempt).find? fun r => some r.id = providerAttemptId).map (·.activationId)
  else none

/-- The Activation whose authority a command of a Runtime needs. -/
def KernelCommand.writerActivation (db : Database) : KernelCommand → Option String
  | .FinishActivation command =>
      if command.outcome = .Completed then some command.activationId else none
  | .FinishProviderAttempt command =>
      if command.status = .Unknown then none
      else ((db.table ProviderAttempt).find? fun r => r.id = command.providerAttemptId).map
        (·.activationId)
  | .AppendRunActivity command =>
      activityProvenance db command.activationId command.providerAttemptId
  | .RecordLateOutput command =>
      activityProvenance db command.activationId command.providerAttemptId
  | .StartProviderAttempt command => some command.activationId
  | _ => none

/-- Every execution of the Activation has its authority. -/
def ActivationHolds (w : World) (activationId : String) : Prop :=
  ∀ e ∈ w.db.table WorktreeExecution, e.activationId = activationId → HoldsAuthority e w

section Checks

variable {kernel : KernelContext} {w w' : World} {principal : Principal}
  {context : PrincipalContext} {command : KernelCommand} {u : Unit} (activationId : String)

theorem activityActivationId_eq_ok {activationId providerAttemptId found : Option String}
    (h : activityActivationId activationId providerAttemptId w = (.ok found, w')) :
    found = activityProvenance w.db activationId providerAttemptId ∧ w = w' := by
  unfold activityActivationId at h
  unfold activityProvenance
  split at h
  · rename_i hsome
    obtain ⟨rfl, rfl⟩ := pure_eq_ok.mp h
    exact ⟨(if_pos hsome).symm, rfl⟩
  · rename_i hsome
    rw [if_neg hsome]
    split at h
    · rename_i htruthy
      simp only [bind_eq_ok, selectRow_eq_ok, pure_eq_ok] at h
      obtain ⟨attempt, _, ⟨rfl, rfl⟩, rfl, rfl⟩ := h
      exact ⟨(if_pos htruthy).symm, rfl⟩
    · rename_i htruthy
      obtain ⟨rfl, rfl⟩ := pure_eq_ok.mp h
      exact ⟨(if_neg htruthy).symm, rfl⟩

theorem assertActivityAuthority_eq_ok {given providerAttemptId : Option String}
    (h : assertActivityAuthority kernel given providerAttemptId w = (.ok u, w')) :
    SameDatabase w w' ∧ (activityProvenance w.db given providerAttemptId = some activationId →
      activationId ≠ "" → ActivationHolds w activationId) := by
  simp only [assertActivityAuthority, bind_eq_ok] at h
  obtain ⟨found, w₁, hfound, hcheck⟩ := h
  obtain ⟨rfl, rfl⟩ := activityActivationId_eq_ok hfound
  split at hcheck
  · obtain ⟨hsame, hholds⟩ := assertActivationWriterAuthority_eq_ok hcheck
    refine ⟨hsame, ?_⟩
    intro hprovenance _
    rw [hprovenance] at hholds
    exact hholds
  · rename_i htruthy
    obtain ⟨-, rfl⟩ := pure_eq_ok.mp hcheck
    refine ⟨rfl, ?_⟩
    intro hprovenance hsome
    rw [hprovenance] at htruthy
    exact absurd (by simpa [truthy] using hsome) htruthy

theorem assertRuntimeCommandAuthority_eq_ok
    (h : assertRuntimeCommandAuthority kernel command w = (.ok u, w')) :
    SameDatabase w w' ∧ (command.writerActivation w.db = some activationId →
      activationId ≠ "" → ActivationHolds w activationId) := by
  cases command with
  | FinishActivation command =>
      simp only [assertRuntimeCommandAuthority] at h
      simp only [KernelCommand.writerActivation]
      split at h
      · rename_i hcompleted
        obtain ⟨hsame, hholds⟩ := assertActivationWriterAuthority_eq_ok h
        refine ⟨hsame, ?_⟩
        intro hof _
        rw [if_pos hcompleted] at hof
        exact Option.some.inj hof ▸ hholds
      · rename_i hcompleted
        obtain ⟨-, rfl⟩ := pure_eq_ok.mp h
        exact ⟨rfl, fun hof => by simp [hcompleted] at hof⟩
  | FinishProviderAttempt command =>
      simp only [assertRuntimeCommandAuthority] at h
      simp only [KernelCommand.writerActivation]
      split at h
      · rename_i hunknown
        obtain ⟨-, rfl⟩ := pure_eq_ok.mp h
        exact ⟨rfl, fun hof => by simp [hunknown] at hof⟩
      · rename_i hunknown
        simp only [bind_eq_ok, selectRow_eq_ok] at h
        obtain ⟨attempt, _, ⟨hattempt, rfl⟩, hcheck⟩ := h
        rw [if_neg hunknown, hattempt]
        cases attempt with
        | none =>
            obtain ⟨-, rfl⟩ := pure_eq_ok.mp hcheck
            exact ⟨rfl, fun hof => by cases hof⟩
        | some attempt =>
            obtain ⟨hsame, hholds⟩ := assertActivationWriterAuthority_eq_ok hcheck
            refine ⟨hsame, ?_⟩
            intro hof _
            exact Option.some.inj hof ▸ hholds
  | AppendRunActivity command => exact assertActivityAuthority_eq_ok activationId h
  | RecordLateOutput command => exact assertActivityAuthority_eq_ok activationId h
  | StartProviderAttempt command => exact assertActivityAuthority_eq_ok activationId h
  | _ =>
      obtain ⟨-, rfl⟩ := pure_eq_ok.mp h
      exact ⟨rfl, fun hof => by cases hof⟩

theorem assertWriterContextAuthority_eq_ok {requireStopped : Bool}
    (h : assertWriterContextAuthority kernel principal context requireStopped w = (.ok u, w')) :
    SameDatabase w w' ∧ (principal.kind = .agent → context.activationId = some activationId →
      activationId ≠ "" → ActivationHolds w activationId) := by
  simp only [assertWriterContextAuthority, bind_eq_ok, selectRow_eq_ok] at h
  obtain ⟨execution, _, ⟨hexecution, rfl⟩, hcheck⟩ := h
  split at hcheck
  · simp only [bind_eq_ok] at hcheck
    obtain ⟨activation, w₁, hactivation, _, w₂, hactor, hcheck⟩ := hcheck
    have hread : SameDatabase w w₂ :=
      trans_of SameDatabase (Within.of_eq hactivation) (Within.of_eq hactor)
    obtain ⟨hsame, hholds⟩ := assertActivationWriterAuthority_eq_ok hcheck
    refine ⟨trans_of SameDatabase hread hsame, ?_⟩
    intro _ hof _ e he hactivation
    rw [hof] at hholds
    have hnow := hholds e (hread ▸ he) hactivation
    exact ⟨hnow.notRevoked, hread ▸ hnow.grants⟩
  · rename_i hskip
    obtain ⟨-, rfl⟩ := pure_eq_ok.mp hcheck
    refine ⟨rfl, ?_⟩
    intro hkind hof hsome e he hactivation
    rw [hof] at hexecution hskip
    have htruthy : truthy (some activationId) = true := by simpa [truthy] using hsome
    cases execution with
    | none =>
        have hnone := Table.find?_eq_none.mp hexecution e he
        simp [hactivation] at hnone
    | some execution => exact absurd ⟨hkind, htruthy, rfl⟩ hskip

theorem assertWriterCommandAuthority_eq_ok
    (h : assertWriterCommandAuthority kernel command principal context w = (.ok u, w')) :
    SameDatabase w w' ∧
      (principal.kind = .agent → context.activationId = some activationId →
        activationId ≠ "" → ActivationHolds w activationId) ∧
      (principal.kind = .runtime → command.writerActivation w.db = some activationId →
        activationId ≠ "" → ActivationHolds w activationId) := by
  simp only [assertWriterCommandAuthority, bind_eq_ok] at h
  obtain ⟨_, w₁, hcontext, hcheck⟩ := h
  obtain ⟨hread, hagent⟩ := assertWriterContextAuthority_eq_ok activationId hcontext
  split at hcheck
  · obtain ⟨hsame, hruntime⟩ := assertRuntimeCommandAuthority_eq_ok activationId hcheck
    refine ⟨trans_of SameDatabase hread hsame, hagent, ?_⟩
    intro _ hof hsome e he hactivation
    rw [← hread] at hof
    have hnow := hruntime hof hsome e (hread ▸ he) hactivation
    exact ⟨hnow.notRevoked, hread ▸ hnow.grants⟩
  · rename_i hskip
    obtain ⟨-, rfl⟩ := pure_eq_ok.mp hcheck
    exact ⟨hread, hagent, fun hkind => absurd hkind hskip⟩

end Checks

/-! ## Executions that have lost their authority -/

namespace WorktreeBook

/-- Every execution was started under a generation its Worktree has come to. -/
structure StartsReached (b : WorktreeBook) : Prop where
  filed : b.Filed
  starts : ∀ e ∈ b.executions, ∃ r, b.lease e.worktreeId = some r ∧ e.generation ≤ r.generation

theorem startsReached_empty : StartsReached ⟨fun _ => none, [], fun _ => none, []⟩ where
  filed := by simp [Filed]
  starts := by simp

theorem Grants.after {b b' : WorktreeBook} {e : WorktreeExecution} (hbecomes : b.Becomes b')
    (hreached : ∃ r, b.lease e.worktreeId = some r ∧ e.generation ≤ r.generation)
    (h : b'.Grants e) : b.Grants e := by
  obtain ⟨r, hr, hle⟩ := hreached
  obtain ⟨r', hr', hactive, hgeneration, hfencing⟩ := h
  obtain ⟨x, hx, hfollows⟩ := hbecomes.leases _ r hr
  cases hr'.symm.trans hx
  obtain ⟨hsame, -, hkept⟩ | ⟨hlt, -⟩ := hfollows.fence
  · obtain ⟨hbefore, hf, -⟩ := hkept hactive
    exact ⟨r, hr, hbefore, hsame.symm.trans hgeneration, hf.symm.trans hfencing⟩
  · omega

theorem StartsReached.step {b b' : WorktreeBook} (h : b.StartsReached) (hstep : b.Step b') :
    b'.StartsReached where
  filed := hstep.filed h.filed
  starts := by
    have hbecomes := hstep.becomes h.filed
    have hkept : ∀ e : WorktreeExecution,
        (∃ r, b.lease e.worktreeId = some r ∧ e.generation ≤ r.generation) →
          ∃ r, b'.lease e.worktreeId = some r ∧ e.generation ≤ r.generation := by
      intro e hreached
      obtain ⟨r, hr, hle⟩ := hreached
      obtain ⟨r', hr', hfollows⟩ := hbecomes.leases _ r hr
      refine ⟨r', hr', ?_⟩
      obtain ⟨hsame, -⟩ | ⟨hlt, -⟩ := hfollows.fence <;> omega
    cases hstep with
    | lease => exact fun e he => hkept e (h.starts e he)
    | register => exact fun e he => h.starts e he
    | start _ _ hgrants =>
        intro e he
        cases List.mem_append.mp he with
        | inl hold => exact h.starts e hold
        | inr hlast =>
            rw [List.mem_singleton.mp hlast]
            obtain ⟨r, hr, -, hgeneration, -⟩ := hgrants
            exact ⟨r, hr, Nat.le_of_eq hgeneration.symm⟩
    | record =>
        intro e he
        obtain ⟨x, hx, rfl⟩ := List.mem_map.mp he
        split
        · exact h.starts x hx
        · exact h.starts x hx
    | revoke =>
        intro e he
        obtain ⟨x, hx, rfl⟩ := List.mem_map.mp he
        split
        · exact h.starts x hx
        · exact h.starts x hx

end WorktreeBook

/-- Some execution of the Activation has lost its authority. -/
def Fenced (w : World) (activationId : String) : Prop := ¬ ActivationHolds w activationId

section Fencing

set_option synthInstance.maxSize 400000

variable {kernel : KernelContext} {w w' : World} {activationId : String}

theorem Reachable.startsReached (h : Reachable kernel w) : (worktreeBook w.db).StartsReached :=
  h.worktreeInvariant WorktreeBook.startsReached_empty fun _ _ hstep h => h.step hstep

/-- What has authority later had it before. -/
theorem HoldsAuthority.before (hreach : Reachable kernel w) (hs : Steps kernel w w')
    {e : WorktreeExecution} (he : e ∈ w.db.table WorktreeExecution)
    (hholds : ∀ e' ∈ w'.db.table WorktreeExecution, e'.activationId = e.activationId →
      HoldsAuthority e' w') : HoldsAuthority e w := by
  have hbecomes := hs.worktreeBecomes
  have hlisted : e.withoutProcess ∈ (worktreeBook w.db).executions := List.mem_map_of_mem he
  obtain ⟨e', he', hfollows⟩ := hbecomes.executions _ hlisted
  obtain ⟨row, hrow, rfl⟩ := List.mem_map.mp he'
  have hstarted := hfollows.started
  simp only [WorktreeExecution.started, WorktreeExecution.withoutProcess,
    WorktreeExecution.mk.injEq] at hstarted
  have hactivation : row.activationId = e.activationId := by simp [hstarted]
  have hworktree : row.worktreeId = e.worktreeId := by simp [hstarted]
  have hgeneration : row.generation = e.generation := by simp [hstarted]
  have hfencing : row.fencingToken = e.fencingToken := by simp [hstarted]
  have hnow := hholds row hrow hactivation
  constructor
  · by_contra hrevoked
    have hkept := (hfollows.revoked (Option.isSome_iff_ne_none.mpr hrevoked)).1
    exact hrevoked (hkept.symm.trans hnow.notRevoked)
  · apply WorktreeBook.Grants.after hbecomes (hreach.startsReached.starts _ hlisted)
    obtain ⟨r, hr, hactive, hg, hf⟩ := hnow.grants
    exact ⟨r, hworktree ▸ hr, hactive, hg.trans hgeneration, hf.trans hfencing⟩

theorem Fenced.after (h : Fenced w activationId) (hreach : Reachable kernel w)
    (hs : Steps kernel w w') : Fenced w' activationId := by
  intro hholds
  apply h
  intro e he hof
  exact HoldsAuthority.before hreach hs he fun e' he' hof' => hholds e' he' (hof'.trans hof)

/-- The call is under the authority of the Activation: an Agent makes it in its context, or a
Runtime executes a command about it. -/
inductive ActsUnder (w : World) (activationId : String) : KernelCall → Prop
  | agent {call issued principal} (hissued : call.issued = some issued)
      (hprincipal : (w.db.table Principal).find?
        (fun r => r.id = issued.context.principalId) = some principal)
      (hkind : principal.kind = .agent)
      (hof : issued.context.activationId = some activationId) : ActsUnder w activationId call
  | runtime {call issued principal} (hissued : call.issued = some issued)
      (hprincipal : (w.db.table Principal).find?
        (fun r => r.id = issued.context.principalId) = some principal)
      (hkind : principal.kind = .runtime)
      (hof : issued.command.writerActivation w.db = some activationId) :
      ActsUnder w activationId call

theorem ActsUnder.issued {call : KernelCall} (h : ActsUnder w activationId call) :
    ∃ issued, call.issued = some issued := by
  cases h with
  | agent hissued _ _ _ => exact ⟨_, hissued⟩
  | runtime hissued _ _ _ => exact ⟨_, hissued⟩

/-- A command is executed or replayed only while its Activation has authority. -/
theorem ActsUnder.holds {call : KernelCall} {result : CommandResult}
    (h : ActsUnder w activationId call) (hsome : activationId ≠ "")
    (hanswer : answer kernel call w = some (.ok result)) : ActivationHolds w activationId := by
  cases h with
  | agent hissued hprincipal hkind hof =>
      obtain ⟨w₁, hrun, -⟩ := answer_eq_ok hissued hanswer
      obtain ⟨principal', w₂, hprincipal', hfence, -⟩ := executeTransaction_eq_ok hrun
      cases hprincipal.symm.trans hprincipal'
      obtain ⟨-, hagent, -⟩ := assertWriterCommandAuthority_eq_ok activationId hfence
      refine hagent hkind ?_ hsome
      rw [effectiveContext, if_neg (by simp [hkind])]
      exact hof
  | runtime hissued hprincipal hkind hof =>
      obtain ⟨w₁, hrun, -⟩ := answer_eq_ok hissued hanswer
      obtain ⟨principal', w₂, hprincipal', hfence, -⟩ := executeTransaction_eq_ok hrun
      cases hprincipal.symm.trans hprincipal'
      obtain ⟨-, -, hruntime⟩ := assertWriterCommandAuthority_eq_ok activationId hfence
      exact hruntime hkind hof hsome

/-- A report is admitted only while its Activation has authority. -/
theorem admitReport_holds {runId : String} {context : PrincipalContext} {principal : Principal}
    {u : Unit} (hprincipal : (w.db.table Principal).find?
      (fun r => r.id = context.principalId) = some principal)
    (hkind : principal.kind = .agent) (hof : context.activationId = some activationId)
    (hsome : activationId ≠ "") (h : admitReport kernel runId context w = (.ok u, w')) :
    ActivationHolds w activationId := by
  simp only [admitReport, bind_eq_ok, transaction_eq_ok, requirePrincipal_eq_ok] at h
  obtain ⟨_, w₁, ⟨principal', _, ⟨hfound, rfl⟩, hcheck⟩, -⟩ := h
  cases hprincipal.symm.trans hfound
  obtain ⟨-, hagent⟩ := assertWriterContextAuthority_eq_ok activationId hcheck
  exact hagent hkind hof hsome

instance (runId : String) (context : PrincipalContext) :
    Within FailureWrites (admitReport kernel runId context) := by
  unfold admitReport assertWriterContextAuthority
  infer_instance

section Mutations

variable {mutation : WorktreeMutationAuthority} {execution : WorktreeExecution}

/-- A check of an execution succeeds only while its Activation has authority. -/
theorem assertWorktreeMutation_holds {principal : Principal} {u : Unit}
    (hexecution : (w.db.table WorktreeExecution).find?
      (fun r => r.id = mutation.executionId) = some execution)
    (h : assertWorktreeMutation kernel mutation principal w = (.ok u, w')) :
    ActivationHolds w execution.activationId := by
  simp only [assertWorktreeMutation, requireExecution, bind_eq_ok, requireRow_eq_ok] at h
  obtain ⟨_, w₁, hruntime, found, _, ⟨hfound, rfl⟩, _, w₂, hreceipt, worktree, w₃, hworktree, _, w₄,
    hgrants, _, w₅, hwriter, -⟩ := h
  have hfirst : SameDatabase w w₁ := Within.of_eq hruntime
  have hread : SameDatabase w w₄ := trans_of _ (trans_of _ (trans_of _ hfirst
    (Within.of_eq hreceipt)) (Within.of_eq hworktree)) (Within.of_eq hgrants)
  rw [hfirst, hexecution] at hfound
  cases hfound
  obtain ⟨-, hholds⟩ := assertActivationWriterAuthority_eq_ok hwriter
  intro e he hactivation
  have hnow := hholds e (hread ▸ he) hactivation
  exact ⟨hnow.notRevoked, hread ▸ hnow.grants⟩

theorem assertWorktreePublication_holds {principal : Principal} {u : Unit}
    (hexecution : (w.db.table WorktreeExecution).find?
      (fun r => r.id = mutation.executionId) = some execution)
    (h : assertWorktreePublication kernel mutation principal w = (.ok u, w')) :
    ActivationHolds w execution.activationId := by
  simp only [assertWorktreePublication, requireExecution, bind_eq_ok, requireRow_eq_ok] at h
  obtain ⟨_, w₁, hruntime, found, _, ⟨hfound, rfl⟩, _, w₂, hreceipt, _, w₄, hgrants, _, w₅, hwriter,
    -⟩ := h
  have hfirst : SameDatabase w w₁ := Within.of_eq hruntime
  have hread : SameDatabase w w₄ :=
    trans_of _ (trans_of _ hfirst (Within.of_eq hreceipt)) (Within.of_eq hgrants)
  rw [hfirst, hexecution] at hfound
  cases hfound
  obtain ⟨-, hholds⟩ := assertActivationWriterAuthority_eq_ok hwriter
  intro e he hactivation
  have hnow := hholds e (hread ▸ he) hactivation
  exact ⟨hnow.notRevoked, hread ▸ hnow.grants⟩

end Mutations

/-- What the kernel answers for an Activation that has lost its authority. -/
structure ShutOut (kernel : KernelContext) (w : World) (activationId : String) : Prop where
  /-- A command fails, and writes nothing but what is found out about leases. -/
  commands : ∀ call, ActsUnder w activationId call →
    ∃ e, answer kernel call w = some (.error e) ∧
      ∀ t ∉ TableName.ofFindings, (step kernel call w).db t = w.db t
  /-- A report is not admitted. -/
  reports : ∀ runId context principal,
    (w.db.table Principal).find? (fun r => r.id = context.principalId) = some principal →
      principal.kind = .agent → context.activationId = some activationId →
        (∃ e, (admitReport kernel runId context w).1 = .error e) ∧
          ∀ t ∉ TableName.ofFindings, (step kernel (.admitReport runId context) w).db t = w.db t
  /-- No execution of the Activation may write or publish. -/
  writers : ∀ mutation execution, (w.db.table WorktreeExecution).find?
      (fun r => r.id = mutation.executionId) = some execution →
    execution.activationId = activationId → ∀ context effect,
      (performWorktreeMutation kernel mutation context effect w).1 ≠ .ok () ∧
        (checkWorktreePublication kernel mutation context w).1 ≠ .ok ()

theorem Fenced.shutOut (h : Fenced w activationId) (hsome : activationId ≠ "") :
    ShutOut kernel w activationId := by
  refine ⟨?_, ?_, ?_⟩
  · intro call hacts
    obtain ⟨issued, hissued⟩ := hacts.issued
    cases hanswer : answer kernel call w with
    | none =>
        cases call with
        | execute => cases hanswer
        | publishReport => cases hanswer
        | _ => cases hissued
    | some result =>
        cases result with
        | ok result => exact absurd (hacts.holds hsome hanswer) h
        | error e =>
            refine ⟨e, rfl, ?_⟩
            have hfailed := step_failed kernel hanswer
            split at hfailed
            · exact fun t ht => hfailed.tables_eq t ht
            · exact fun t _ => by rw [hfailed]
  · intro runId context principal hprincipal hkind hof
    have hwrites : FailureWrites w (admitReport kernel runId context w).2 :=
      Within.step w
    refine ⟨?_, fun t ht => hwrites.tables_eq t ht⟩
    cases hrun : admitReport kernel runId context w with
    | mk r w' =>
        cases r with
        | ok u => exact absurd (admitReport_holds hprincipal hkind hof hsome hrun) h
        | error e => exact ⟨e, rfl⟩
  · intro mutation execution hexecution hof context effect
    subst hof
    constructor
    · intro hok
      have hrun : performWorktreeMutation kernel mutation context effect w =
          (.ok (), (performWorktreeMutation kernel mutation context effect w).2) :=
        Prod.ext hok rfl
      simp only [performWorktreeMutation, transaction_eq_ok, bind_eq_ok,
        requirePrincipal_eq_ok] at hrun
      obtain ⟨principal, _, ⟨-, rfl⟩, _, _, hmutation, -⟩ := hrun
      exact h (assertWorktreeMutation_holds hexecution hmutation)
    · intro hok
      have hrun : checkWorktreePublication kernel mutation context w =
          (.ok (), (checkWorktreePublication kernel mutation context w).2) :=
        Prod.ext hok rfl
      simp only [checkWorktreePublication, transaction_eq_ok, bind_eq_ok,
        requirePrincipal_eq_ok] at hrun
      obtain ⟨principal, _, ⟨-, rfl⟩, hpublication⟩ := hrun
      exact h (assertWorktreePublication_holds hexecution hpublication)

/-- The execution as it is later has the revocation it had. -/
def StaysRevoked (w' : World) (e : WorktreeExecution) : Prop :=
  ∃ e' ∈ w'.db.table WorktreeExecution, e'.id = e.id ∧
    e'.authorityRevokedAt = e.authorityRevokedAt ∧
      e'.authorityRevocationReason = e.authorityRevocationReason

/-- An Activation one of whose executions has lost its authority is shut out in every later
state, and a recorded revocation is never cleared or replaced. -/
theorem activation_fenced (hreach : Reachable kernel w) (hs : Steps kernel w w')
    {e : WorktreeExecution} (he : e ∈ w.db.table WorktreeExecution)
    (hlost : ¬ HoldsAuthority e w) (hsome : e.activationId ≠ "") :
    ShutOut kernel w' e.activationId ∧
      (e.authorityRevokedAt.isSome = true → StaysRevoked w' e) := by
  constructor
  · have hfenced : Fenced w e.activationId := fun hholds => hlost (hholds e he rfl)
    exact (hfenced.after hreach hs).shutOut hsome
  · intro hrevoked
    have hlisted : e.withoutProcess ∈ (worktreeBook w.db).executions := List.mem_map_of_mem he
    obtain ⟨e', he', hfollows⟩ := hs.worktreeBecomes.executions _ hlisted
    obtain ⟨row, hrow, rfl⟩ := List.mem_map.mp he'
    obtain ⟨hat, hreason⟩ := hfollows.revoked hrevoked
    have hid : row.id = e.id :=
      (congrArg WorktreeExecution.id hfollows.started :
        row.withoutProcess.started.id = e.withoutProcess.started.id)
    exact ⟨row, hrow, hid, hat, hreason⟩

end Fencing

/-! ## A writer that is recovered -/

/-- The Runtime recovers the execution, whose stop it does not know of. -/
def recoveredWorld : World :=
  step countingKernel
    (asRuntime (.RecoverWorktreeExecution
      { idempotencyKey := "recover", executionId := issuedId 32, reason := "Stopped." }))
    writingWorld

/-- The Runtime appends to the activities of the Activation. -/
def appendActivityCall : KernelCall :=
  asRuntime (.AppendRunActivity
    { idempotencyKey := "append"
      runId := issuedId 15
      activationId := some (issuedId 26)
      kind := "progress"
      payload := .str "text"
      retentionClass := .durable })

theorem recoveredWorld_reachable : Reachable countingKernel recoveredWorld :=
  writingWorld_reachable.step _

/-- The recovered execution has its Activation shut out, and the append fails. -/
theorem recovered_activation_fenced :
    ∃ e ∈ recoveredWorld.db.table WorktreeExecution, e.activationId = issuedId 26 ∧
      ActsUnder recoveredWorld (issuedId 26) appendActivityCall ∧
      ShutOut countingKernel recoveredWorld e.activationId ∧ StaysRevoked recoveredWorld e := by
  have hrow : ∃ e ∈ (recoveredWorld.db.table WorktreeExecution).rows,
      e.activationId = issuedId 26 ∧ e.authorityRevokedAt.isSome = true := by decide +kernel
  have hprincipal : ((recoveredWorld.db.table Principal).find? fun r => r.id = "runtime").map
      (·.kind) = some .runtime := by decide +kernel
  have hreach := recoveredWorld_reachable
  -- Nothing else of the world is to be computed.
  generalize recoveredWorld = w at hrow hprincipal hreach ⊢
  obtain ⟨e, he, hof, hrevoked⟩ := hrow
  obtain ⟨principal, hfound, hkind⟩ := Option.map_eq_some_iff.mp hprincipal
  have hlost : ¬ HoldsAuthority e w := by
    intro hholds
    rw [hholds.notRevoked] at hrevoked
    cases hrevoked
  have hsome : e.activationId ≠ "" := by
    rw [hof]
    decide
  obtain ⟨hshut, hstays⟩ := activation_fenced hreach .refl he hlost hsome
  exact ⟨e, he, hof, .runtime rfl hfound hkind rfl, hshut, hstays hrevoked⟩

end Torsor.Kernel
