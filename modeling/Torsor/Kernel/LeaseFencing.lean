import Torsor.Kernel.AttentionOrder
import Torsor.Kernel.ReplayResults
import Torsor.Kernel.WriterFencing

/-! # Fencing of leases

The numbers of the lease of a Worktree never decrease, every acquisition raises them, and an
authority that has once ceased to be that of the Active lease is accepted by nothing: not by
a command or its replay, nor by a check of a mutation or a publication.
-/

namespace Torsor.Kernel

open Torsor.Library Tx

/-! ## Acceptance of an authority -/

/-- The authority of the writer lease a command of a Runtime acts under. -/
def KernelCommand.presentedAuthority : KernelCommand → Option WorktreeLeaseAuthority
  | .RenewWorktreeWriterLease command => some command.toWorktreeLeaseAuthority
  | .ReleaseWorktreeWriterLease command => some command.toWorktreeLeaseAuthority
  | .StartWorktreeExecution command => some command.toWorktreeLeaseAuthority
  | _ => none

/-- The Worktree whose lease the result of a command grants. -/
def KernelCommand.grantedWorktreeId? : KernelCommand → Option String
  | .AcquireWorktreeWriterLease command => some command.worktreeId
  | .RenewWorktreeWriterLease command => some command.worktreeId
  | _ => none

/-- The result carries the authority. -/
structure CommandResult.Carries (result : CommandResult) (authority : WorktreeLeaseAuthority) :
    Prop where
  generation : result.leaseGeneration = some authority.generation
  fencingToken : result.fencingToken = some authority.fencingToken
  leaseToken : result.leaseToken = some authority.leaseToken

/-- The call succeeds on the strength of the authority, or gives it out. -/
inductive Accepts (kernel : KernelContext) (w : World) (authority : WorktreeLeaseAuthority) :
    KernelCall → Prop
  | executed {call issued result} (hexecutes : Executes kernel call issued w result)
      (hpresents : issued.command.presentedAuthority = some authority) :
      Accepts kernel w authority call
  | restarted {call issued command result} (hissued : call.issued = some issued)
      (hcommand : issued.command = .StartWorktreeExecution command)
      (hpresents : command.toWorktreeLeaseAuthority = authority)
      (hanswer : answer kernel call w = some (.ok result)) : Accepts kernel w authority call
  | granted {call issued result} (hissued : call.issued = some issued)
      (hof : issued.command.grantedWorktreeId? = some authority.worktreeId)
      (hanswer : answer kernel call w = some (.ok result)) (hcarries : result.Carries authority) :
      Accepts kernel w authority call
  | mutated {mutation context effect}
      (hpresents : mutation.toWorktreeLeaseAuthority = authority)
      (hok : (performWorktreeMutation kernel mutation context effect w).1 = .ok ()) :
      Accepts kernel w authority (.performWorktreeMutation mutation context effect)
  | checked {mutation context} (hpresents : mutation.toWorktreeLeaseAuthority = authority)
      (hok : (checkWorktreeAuthority kernel mutation context w).1 = .ok ()) :
      Accepts kernel w authority (.checkWorktreeAuthority mutation context)
  | published {mutation context} (hpresents : mutation.toWorktreeLeaseAuthority = authority)
      (hok : (checkWorktreePublication kernel mutation context w).1 = .ok ()) :
      Accepts kernel w authority (.checkWorktreePublication mutation context)

section Acceptance

set_option synthInstance.maxSize 400000

variable {kernel : KernelContext} {w w' : World} {call : KernelCall} {issued : IssuedCommand}
  {result : CommandResult} {principal : Principal} {context : PrincipalContext}
  {correlationId : String} {authority : WorktreeLeaseAuthority}

theorem worktreeBook_lease_eq (h : SameTables [.worktreeWriterLeases] w w') :
    (worktreeBook w'.db).lease = (worktreeBook w.db).lease := by
  unfold worktreeBook
  rw [h.table_eq WorktreeWriterLease (by decide)]

theorem WorktreeLeaseAuthority.Live.honours {observedAt : Timestamp} {lease : WorktreeWriterLease}
    (hlive : authority.Live principal observedAt lease)
    (hlease : (worktreeBook w.db).lease authority.worktreeId = some lease) :
    (worktreeBook w.db).Honours authority :=
  ⟨lease, hlease, hlive.active, hlive.generation, hlive.fencingToken, hlive.leaseToken⟩

theorem WorktreeBook.Honours.congr {b b' : WorktreeBook} (h : b.Honours authority)
    (hsame : b.lease = b'.lease) : b'.Honours authority := by
  obtain ⟨r, hr, hrest⟩ := h
  exact ⟨r, hsame ▸ hr, hrest⟩

theorem replayCommand_resolves {command : KernelCommand} {cached : IdempotencyRecord}
    (h : replayCommand kernel command principal context cached w = (.ok result, w')) :
    ∃ w₁ w₂, SameTables [.worktreeWriterLeases] w w₁ ∧
      resolveCachedResult kernel command cached.result principal context w₁ = (.ok result, w₂) ∧
      SameTables [.worktreeWriterLeases] w₂ w' := by
  simp only [replayCommand, bind_eq_ok, pure_eq_ok] at h
  obtain ⟨_, w₁, hreport, _, w₂, hhash, refreshed, w₃, hresolve, _, _, hstore, rfl, rfl⟩ := h
  have hread : SameTables [.worktreeWriterLeases] w w₁ := by
    cases command <;> exact Within.of_eq hreport
  exact ⟨w₂, w₃, trans_of _ hread (Within.of_eq hhash), hresolve, Within.of_eq hstore⟩

theorem performCommand_dispatches {command : KernelCommand}
    {operationContext : Option KernelOperationContext}
    (h : performCommand kernel command principal context operationContext w =
      (.ok result, w')) :
    ∃ correlationId dispatched w₁ w₂, SameTables [.worktreeWriterLeases] w w₁ ∧
      dispatchCommand kernel command context principal correlationId w₁ = (.ok dispatched, w₂) ∧
      result = { dispatched with correlationId := some correlationId } ∧
      SameTables [.worktreeWriterLeases] w₂ w' := by
  simp only [performCommand, bind_eq_ok, pure_eq_ok] at h
  obtain ⟨correlationId, w₁, hcorrelation, dispatched, w₂, hdispatch, _, w₃, hrecord, createdAt,
    w₄, hnow, _, _, hinsert, rfl, rfl⟩ := h
  have hstored : SameTables [.worktreeWriterLeases] w₂ w₄ :=
    trans_of _ (Within.of_eq hrecord) (Within.of_eq hnow)
  exact ⟨correlationId, dispatched, w₁, w₂, Within.of_eq hcorrelation, hdispatch, rfl,
    trans_of _ hstored (Within.of_eq hinsert)⟩

/-- A command that succeeds is replayed or dispatched on the leases of the state. -/
theorem answer_cases (hissued : call.issued = some issued)
    (h : answer kernel call w = some (.ok result)) :
    ∃ principal context w₁ w₂, (worktreeBook w₁.db).lease = (worktreeBook w.db).lease ∧
      (worktreeBook (step kernel call w).db).lease = (worktreeBook w₂.db).lease ∧
      ((Recorded issued.context.principalId issued.command w ∧
        ∃ recorded, resolveCachedResult kernel issued.command recorded principal context w₁ =
          (.ok result, w₂)) ∨
      ∃ correlationId dispatched, dispatchCommand kernel issued.command context principal
          correlationId w₁ = (.ok dispatched, w₂) ∧
        result = { dispatched with correlationId := some correlationId }) := by
  obtain ⟨w₃, hrun, hafter⟩ := answer_eq_ok hissued h
  obtain ⟨principal, w₀, hprincipal, hfence, hbody⟩ := executeTransaction_eq_ok hrun
  have hsame : SameDatabase w w₀ := (assertWriterCommandAuthority_eq_ok "" hfence).1
  have hbefore : (worktreeBook w₀.db).lease = (worktreeBook w.db).lease := by rw [hsame]
  have hlast : (worktreeBook (step kernel call w).db).lease = (worktreeBook w₃.db).lease := by
    unfold worktreeBook
    rw [hafter.table_eq WorktreeWriterLease (TableName.mem_all _)]
  cases hbody with
  | inl hreplay =>
      obtain ⟨cached, hcached, hreplay⟩ := hreplay
      obtain ⟨w₁, w₂, hread, hresolve, hstored⟩ := replayCommand_resolves hreplay
      refine ⟨principal, _, w₁, w₂, (worktreeBook_lease_eq hread).trans hbefore,
        hlast.trans (worktreeBook_lease_eq hstored), .inl ⟨?_, _, hresolve⟩⟩
      have hid : principal.id = issued.context.principalId := by
        simpa using (Table.find?_eq_some hprincipal).2
      rw [hid, hsame] at hcached
      exact ⟨cached, hcached⟩
  | inr hperform =>
      obtain ⟨-, hperform⟩ := hperform
      obtain ⟨correlationId, dispatched, w₁, w₂, hread, hdispatch, hresult, hstored⟩ :=
        performCommand_dispatches hperform
      exact ⟨principal, _, w₁, w₂, (worktreeBook_lease_eq hread).trans hbefore,
        hlast.trans (worktreeBook_lease_eq hstored),
        .inr ⟨correlationId, dispatched, hdispatch, hresult⟩⟩

/-- A command is dispatched only under an authority its Worktree honours. -/
theorem dispatchCommand_presented {command : KernelCommand} {dispatched : CommandResult}
    (hpresents : command.presentedAuthority = some authority)
    (h : dispatchCommand kernel command context principal correlationId w =
      (.ok dispatched, w')) : (worktreeBook w.db).Honours authority := by
  cases command with
  | RenewWorktreeWriterLease command =>
      cases hpresents
      simp only [dispatchCommand, renewWorktreeWriterLease, bind_eq_ok] at h
      obtain ⟨_, w₁, hruntime, durationMs, w₂, hduration, observedAt, w₃, hnow, lease, w₄, hlive,
        -⟩ := h
      have hread : SameTables [.worktreeWriterLeases] w w₃ := trans_of _ (trans_of _
        (Within.of_eq hruntime) (Within.of_eq hduration)) (Within.of_eq hnow)
      obtain ⟨hlease, hlive, -⟩ := requireLiveAuthority_eq_ok hlive
      exact (hlive.honours hlease).congr (worktreeBook_lease_eq hread)
  | ReleaseWorktreeWriterLease command =>
      cases hpresents
      simp only [dispatchCommand, releaseWorktreeWriterLease, bind_eq_ok] at h
      obtain ⟨_, w₁, hruntime, observedAt, w₃, hnow, lease, w₄, hlive, -⟩ := h
      have hread : SameTables [.worktreeWriterLeases] w w₃ :=
        trans_of _ (Within.of_eq hruntime) (Within.of_eq hnow)
      obtain ⟨hlease, hlive, -⟩ := requireLiveAuthority_eq_ok hlive
      exact (hlive.honours hlease).congr (worktreeBook_lease_eq hread)
  | StartWorktreeExecution command =>
      cases hpresents
      simp only [dispatchCommand, startWorktreeExecution, bind_eq_ok] at h
      obtain ⟨_, w₁, hruntime, _, w₂, hexecutor, _, w₃, hidle, worktree, w₄, hworktree, _, w₅,
        hsource, _, w₆, hprovider, _, w₇, hwriter, observedAt, w₈, hnow, lease, w₉, hlive, -⟩ := h
      have hread : SameTables [.worktreeWriterLeases] w w₆ := trans_of _ (trans_of _ (trans_of _
        (trans_of _ (trans_of _ (Within.of_eq hruntime) (Within.of_eq hexecutor))
        (Within.of_eq hidle)) (Within.of_eq hworktree)) (Within.of_eq hsource))
        (Within.of_eq hprovider)
      obtain ⟨hsame, -⟩ := assertActivationWriterAuthority_eq_ok hwriter
      have hnow : SameTables [.worktreeWriterLeases] w₇ w₈ := Within.of_eq hnow
      obtain ⟨hlease, hlive, -⟩ := requireLiveAuthority_eq_ok hlive
      refine (hlive.honours hlease).congr ?_
      rw [worktreeBook_lease_eq hnow, hsame, worktreeBook_lease_eq hread]
  | _ => cases hpresents

theorem WorktreeWriterLease.observed_numbers (r : WorktreeWriterLease) (observedAt : Timestamp) :
    (r.observed observedAt).generation = r.generation ∧
      (r.observed observedAt).fencingToken = r.fencingToken := by
  unfold WorktreeWriterLease.observed
  split <;> exact ⟨rfl, rfl⟩

/-- An acquisition leaves a lease whose numbers are greater than those before it. -/
theorem acquireWorktreeWriterLease_grants {command : AcquireWorktreeWriterLeaseCommand}
    (h : acquireWorktreeWriterLease kernel command principal correlationId w =
      (.ok result, w')) :
    ∃ lease observedAt, (worktreeBook w'.db).lease command.worktreeId = some lease ∧
      lease.status = .Active ∧
      result = authorityResult .AcquireWorktreeWriterLease lease observedAt ∧
      ∀ r, (worktreeBook w.db).lease command.worktreeId = some r →
        r.generation < lease.generation ∧ r.fencingToken < lease.fencingToken := by
  simp only [acquireWorktreeWriterLease, bind_eq_ok, throwIf_eq_ok, requireLease_eq_ok,
    getLease_eq_ok, pure_eq_ok] at h
  obtain ⟨_, w₁, hruntime, _, w₂, hid, durationMs, w₃, hduration, observedAt, w₄, hnow, previous, _,
    ⟨hprevious, rfl⟩, existing, w₅, hexpire, _, w₆, hidle, _, _, ⟨-, rfl⟩, _, _, ⟨-, rfl⟩,
    leaseToken, w₇, htoken, _, w₈, hupsert, lease, _, ⟨hlease, rfl⟩, _, _, happend, rfl, rfl⟩ := h
  have hread : SameTables [.worktreeWriterLeases] w w₄ := trans_of _ (trans_of _ (trans_of _
    (Within.of_eq hruntime) (Within.of_eq hid)) (Within.of_eq hduration)) (Within.of_eq hnow)
  have hafter := worktreeBook_lease_eq (Within.of_eq happend)
  obtain ⟨rfl, -⟩ := expireIfNeeded_eq_ok hprevious hexpire
  refine ⟨lease, observedAt, ?_, ?_, rfl, ?_⟩
  · rw [hafter, hlease]
  · obtain rfl | ⟨r, rfl⟩ := upsertLease_found hupsert rfl (fun _ => rfl) hlease
    · rfl
    · rfl
  · intro r hr
    have hprevious : previous = some r := by
      rw [← hprevious, worktreeBook_lease_eq hread, hr]
    subst hprevious
    obtain ⟨hgeneration, hfencing⟩ := r.observed_numbers observedAt
    obtain rfl | ⟨x, rfl⟩ := upsertLease_found hupsert rfl (fun _ => rfl) hlease
    · simp [acquiredLease, hgeneration, hfencing]
    · simp [acquiredLease, hgeneration, hfencing]

/-- A renewal leaves the lease under the authority it was renewed with. -/
theorem renewWorktreeWriterLease_grants {command : RenewWorktreeWriterLeaseCommand}
    (h : renewWorktreeWriterLease kernel command principal correlationId w =
      (.ok result, w')) :
    ∃ lease observedAt, (worktreeBook w'.db).lease command.worktreeId = some lease ∧
      lease.status = .Active ∧
      result = authorityResult .RenewWorktreeWriterLease lease observedAt := by
  simp only [renewWorktreeWriterLease, bind_eq_ok, requireLease_eq_ok, updateRows_eq_ok,
    pure_eq_ok] at h
  obtain ⟨_, w₁, hruntime, durationMs, w₂, hduration, observedAt, w₃, hnow, lease, w₄, hlive, _,
    w₅, rfl, renewed, _, ⟨hrenewed, rfl⟩, _, _, happend, rfl, rfl⟩ := h
  obtain ⟨hlease, hauthority, rfl⟩ := requireLiveAuthority_eq_ok hlive
  have hafter := worktreeBook_lease_eq (Within.of_eq happend)
  refine ⟨renewed, observedAt, ?_, ?_, rfl⟩
  · rw [hafter, hrenewed]
  · rw [worktreeBook_update_lease hlease (f := fun r =>
      { r with
        revision := lease.revision + 1
        renewedAt := some observedAt
        expiresAt := some (observedAt + durationMs)
        updatedAt := observedAt }) fun _ => rfl, ← worktreeBook_lease_worktreeId hlease] at hrenewed
    rw [← Option.some.inj ((WorktreeBook.setLease_lease_self _ _).symm.trans hrenewed)]
    exact hauthority.active

theorem CommandResult.Carries.honours {lease : WorktreeWriterLease} {type : CommandType}
    {observedAt : Timestamp} {correlation : Option String} {worktreeId : String}
    (hof : worktreeId = authority.worktreeId)
    (hlease : (worktreeBook w.db).lease worktreeId = some lease)
    (hactive : lease.status = .Active)
    (hcarries : { authorityResult type lease observedAt with
      correlationId := correlation }.Carries authority) : (worktreeBook w.db).Honours authority :=
  ⟨lease, hof ▸ hlease, hactive, Option.some.inj hcarries.generation,
    Option.some.inj hcarries.fencingToken, hcarries.leaseToken⟩

/-- A result that grants a lease is that of the Active one. -/
theorem granted_honours (hissued : call.issued = some issued)
    (hof : issued.command.grantedWorktreeId? = some authority.worktreeId)
    (hanswer : answer kernel call w = some (.ok result)) (hcarries : result.Carries authority) :
    (worktreeBook (step kernel call w).db).Honours authority := by
  obtain ⟨principal, context, w₁, w₂, -, hlast, hrun⟩ := answer_cases hissued hanswer
  generalize issued.command = command at hof hrun
  refine WorktreeBook.Honours.congr ?_ hlast.symm
  cases command with
  | AcquireWorktreeWriterLease command =>
      have hof := Option.some.inj hof
      obtain ⟨-, recorded, hresolve⟩ | ⟨correlationId, dispatched, hdispatch, rfl⟩ := hrun
      · obtain ⟨lease, hlease, hlive, -, rfl, rfl⟩ :=
          resolveCachedWorktreeWriterLeaseAuthority_eq_ok hresolve (by decide)
        exact hcarries.honours hof hlease hlive.active
      · obtain ⟨lease, observedAt, hlease, hactive, rfl, -⟩ :=
          acquireWorktreeWriterLease_grants hdispatch
        exact hcarries.honours hof hlease hactive
  | RenewWorktreeWriterLease command =>
      have hof := Option.some.inj hof
      obtain ⟨-, recorded, hresolve⟩ | ⟨correlationId, dispatched, hdispatch, rfl⟩ := hrun
      · obtain ⟨lease, hlease, hlive, -, rfl, rfl⟩ :=
          resolveCachedWorktreeWriterLeaseAuthority_eq_ok hresolve (by decide)
        exact hcarries.honours hof hlease hlive.active
      · obtain ⟨lease, observedAt, hlease, hactive, rfl⟩ :=
          renewWorktreeWriterLease_grants hdispatch
        exact hcarries.honours hof hlease hactive
  | _ => cases hof

theorem assertWorktreeMutation_honours {mutation : WorktreeMutationAuthority} {u : Unit}
    (h : assertWorktreeMutation kernel mutation principal w = (.ok u, w')) :
    (worktreeBook w.db).Honours mutation.toWorktreeLeaseAuthority := by
  simp only [assertWorktreeMutation, bind_eq_ok] at h
  obtain ⟨_, w₁, hruntime, execution, w₂, hexecution, _, w₃, hreceipt, worktree, w₄, hworktree,
    _, w₅, hgrants, _, w₆, hwriter, observedAt, w₇, hnow, correlationId, w₈, hid, lease, w₉, hlive,
    -⟩ := h
  have hread : SameTables [.worktreeWriterLeases] w w₅ := trans_of _ (trans_of _ (trans_of _
    (trans_of _ (Within.of_eq hruntime) (Within.of_eq hexecution)) (Within.of_eq hreceipt))
    (Within.of_eq hworktree)) (Within.of_eq hgrants)
  obtain ⟨hsame, -⟩ := assertActivationWriterAuthority_eq_ok hwriter
  have hafter : SameTables [.worktreeWriterLeases] w₆ w₈ :=
    trans_of _ (Within.of_eq hnow) (Within.of_eq hid)
  obtain ⟨hlease, hlive, -⟩ := requireLiveAuthority_eq_ok hlive
  refine (hlive.honours hlease).congr ?_
  rw [worktreeBook_lease_eq hafter, hsame, worktreeBook_lease_eq hread]

theorem assertWorktreePublication_honours {mutation : WorktreeMutationAuthority} {u : Unit}
    (h : assertWorktreePublication kernel mutation principal w = (.ok u, w')) :
    (worktreeBook w.db).Honours mutation.toWorktreeLeaseAuthority := by
  simp only [assertWorktreePublication, bind_eq_ok] at h
  obtain ⟨_, w₁, hruntime, execution, w₂, hexecution, _, w₃, hreceipt, _, w₅,
    hgrants, _, w₆, hwriter, observedAt, w₇, hnow, correlationId, w₈, hid, lease, w₉, hlive, -⟩ := h
  have hread : SameTables [.worktreeWriterLeases] w w₅ := trans_of _ (trans_of _
    (trans_of _ (Within.of_eq hruntime) (Within.of_eq hexecution)) (Within.of_eq hreceipt))
    (Within.of_eq hgrants)
  obtain ⟨hsame, -⟩ := assertActivationWriterAuthority_eq_ok hwriter
  have hafter : SameTables [.worktreeWriterLeases] w₆ w₈ :=
    trans_of _ (Within.of_eq hnow) (Within.of_eq hid)
  obtain ⟨hlease, hlive, -⟩ := requireLiveAuthority_eq_ok hlive
  refine (hlive.honours hlease).congr ?_
  rw [worktreeBook_lease_eq hafter, hsame, worktreeBook_lease_eq hread]

/-- An authority that is accepted is that of the Active lease, before the call or after it. -/
theorem Accepts.honours (h : Accepts kernel w authority call) :
    (worktreeBook w.db).Honours authority ∨
      (worktreeBook (step kernel call w).db).Honours authority := by
  cases h with
  | executed hexecutes hpresents =>
      left
      obtain ⟨principal, context, w₁, w₂, hbefore, -, hrun⟩ :=
        answer_cases hexecutes.issues hexecutes.succeeds
      obtain ⟨hrecorded, -⟩ | ⟨correlationId, dispatched, hdispatch, -⟩ := hrun
      · exact absurd hrecorded hexecutes.fresh
      · exact (dispatchCommand_presented hpresents hdispatch).congr hbefore
  | restarted hissued hcommand hpresents hanswer =>
      left
      obtain ⟨principal, context, w₁, w₂, hbefore, -, hrun⟩ := answer_cases hissued hanswer
      rw [hcommand] at hrun
      refine WorktreeBook.Honours.congr ?_ hbefore
      obtain ⟨-, recorded, hresolve⟩ | ⟨correlationId, dispatched, hdispatch, -⟩ := hrun
      · simp only [resolveCachedResult, resolveCachedWorktreeExecution, bind_eq_ok] at hresolve
        obtain ⟨_, w₃, hprovider, _, w₄, hmutation, -⟩ := hresolve
        have hread : SameTables [.worktreeWriterLeases] w₁ w₃ := Within.of_eq hprovider
        subst hpresents
        exact (assertWorktreeMutation_honours hmutation).congr (worktreeBook_lease_eq hread)
      · have hcarried : (KernelCommand.StartWorktreeExecution _).presentedAuthority =
            some authority := congrArg some hpresents
        exact dispatchCommand_presented hcarried hdispatch
  | granted hissued hof hanswer hcarries =>
      exact .inr (granted_honours hissued hof hanswer hcarries)
  | @mutated mutation context effect hpresents hok =>
      left
      have hrun : performWorktreeMutation kernel mutation context effect w =
          (.ok (), (performWorktreeMutation kernel mutation context effect w).2) :=
        Prod.ext hok rfl
      simp only [performWorktreeMutation, transaction_eq_ok, bind_eq_ok,
        requirePrincipal_eq_ok] at hrun
      obtain ⟨principal, _, ⟨-, rfl⟩, _, _, hmutation, -⟩ := hrun
      exact hpresents ▸ assertWorktreeMutation_honours hmutation
  | @checked mutation context hpresents hok =>
      left
      cases hrun : (requirePrincipal context.principalId >>= fun principal =>
          assertWorktreeMutation kernel mutation principal : K Unit) w with
      | mk r w' =>
          have hok : r = .ok () := by
            rw [← hok]
            simp only [checkWorktreeAuthority, observation, hrun]
          subst hok
          simp only [bind_eq_ok, requirePrincipal_eq_ok] at hrun
          obtain ⟨principal, _, ⟨-, rfl⟩, hmutation⟩ := hrun
          exact hpresents ▸ assertWorktreeMutation_honours hmutation
  | @published mutation context hpresents hok =>
      left
      have hrun : checkWorktreePublication kernel mutation context w =
          (.ok (), (checkWorktreePublication kernel mutation context w).2) :=
        Prod.ext hok rfl
      simp only [checkWorktreePublication, transaction_eq_ok, bind_eq_ok,
        requirePrincipal_eq_ok] at hrun
      obtain ⟨principal, _, ⟨-, rfl⟩, hpublication⟩ := hrun
      exact hpresents ▸ assertWorktreePublication_honours hpublication

/-! ## The end of an authority -/

/-- The call ends the lease of the Worktree, or shows that it has ended. -/
inductive EndsLease (kernel : KernelContext) (w : World) (worktreeId : String) : KernelCall → Prop
  | released {call issued command result} (hexecutes : Executes kernel call issued w result)
      (hcommand : issued.command = .ReleaseWorktreeWriterLease command)
      (hof : command.worktreeId = worktreeId) : EndsLease kernel w worktreeId call
  | quarantined {call issued command result} (hexecutes : Executes kernel call issued w result)
      (hcommand : issued.command = .QuarantineWorktreeWriterLease command)
      (hof : command.worktreeId = worktreeId) : EndsLease kernel w worktreeId call
  | shown {context view} (hok : (queryWorktreeWriterLease kernel worktreeId context w).1 = .ok view)
      (hview : view.status ≠ .Active) :
      EndsLease kernel w worktreeId (.queryWorktreeWriterLease worktreeId context)

theorem releaseWorktreeWriterLease_ends {command : ReleaseWorktreeWriterLeaseCommand}
    (h : releaseWorktreeWriterLease kernel command principal correlationId w =
      (.ok result, w')) :
    ∃ lease, (worktreeBook w'.db).lease command.worktreeId = some lease ∧
      lease.status ≠ .Active := by
  simp only [releaseWorktreeWriterLease, bind_eq_ok, requireLease_eq_ok, updateRows_eq_ok,
    pure_eq_ok] at h
  obtain ⟨_, w₁, hruntime, observedAt, w₂, hnow, lease, w₃, hlive, _, w₄, hidle, _, w₅, rfl,
    released, _, ⟨hreleased, rfl⟩, _, _, happend, -, rfl⟩ := h
  obtain ⟨hlease, -, rfl⟩ := requireLiveAuthority_eq_ok hlive
  obtain ⟨-, rfl⟩ := assertPhysicalWorktreeIdle_eq_ok hidle
  have hafter := worktreeBook_lease_eq (Within.of_eq happend)
  refine ⟨released, by rw [hafter, hreleased], ?_⟩
  rw [worktreeBook_update_lease hlease (f := fun r =>
    { r with
      revision := lease.revision + 1
      status := .Released
      holderPrincipalId := none
      leaseToken := none
      expiresAt := none
      releasedAt := some observedAt
      updatedAt := observedAt }) fun _ => rfl, ← worktreeBook_lease_worktreeId hlease] at hreleased
  rw [← Option.some.inj ((WorktreeBook.setLease_lease_self _ _).symm.trans hreleased)]
  exact fun hactive => by cases hactive

theorem quarantineWorktreeWriterLease_ends {command : QuarantineWorktreeWriterLeaseCommand}
    (h : quarantineWorktreeWriterLease kernel command principal correlationId w =
      (.ok result, w')) :
    ∃ lease, (worktreeBook w'.db).lease command.worktreeId = some lease ∧
      lease.status ≠ .Active := by
  simp only [quarantineWorktreeWriterLease, bind_eq_ok, requireLease_eq_ok, pure_eq_ok] at h
  obtain ⟨_, _, -, _, _, -, _, _, -, observedAt, _, -, current, _, -, existing, _, -, _, _, -,
    _, _, -, _, _, -, _, _, -, quarantineToken, _, -, _, _, hupsert, lease, _, ⟨hlease, rfl⟩,
    _, _, happend, -, rfl⟩ := h
  have hafter := worktreeBook_lease_eq (Within.of_eq happend)
  refine ⟨lease, by rw [hafter, hlease], ?_⟩
  obtain rfl | ⟨r, rfl⟩ := upsertLease_found hupsert rfl (fun _ => rfl) hlease
  · exact fun hactive => by cases hactive
  · exact fun hactive => by cases hactive

theorem getWorktreeWriterLease_shows {worktreeId : String} {view : WorktreeWriterLeaseView}
    (h : getWorktreeWriterLease kernel worktreeId principal w = (.ok view, w')) :
    ∃ lease, (worktreeBook w'.db).lease worktreeId = some lease ∧
      view = mapWorktreeWriterLease lease := by
  simp only [getWorktreeWriterLease, bind_eq_ok, requireLease_eq_ok, pure_eq_ok] at h
  obtain ⟨_, w₁, hruntime, _, w₂, hid, observedAt, w₃, hnow, current, _, ⟨hcurrent, rfl⟩,
    correlationId, w₄, hcorrelation, lease, w₅, hexpire, rfl, rfl⟩ := h
  have hread : SameTables [.worktreeWriterLeases] w₃ w₄ := Within.of_eq hcorrelation
  have hstill : (worktreeBook w₄.db).lease worktreeId = some current := by
    rw [worktreeBook_lease_eq hread, hcurrent]
  obtain ⟨rfl, hlease⟩ := expireIfNeeded_eq_ok hstill hexpire
  exact ⟨_, hlease, rfl⟩

theorem EndsLease.inactive {worktreeId : String} (h : EndsLease kernel w worktreeId call) :
    ∃ lease, (worktreeBook (step kernel call w).db).lease worktreeId = some lease ∧
      lease.status ≠ .Active := by
  cases h with
  | released hexecutes hcommand hof =>
      subst hof
      obtain ⟨principal, context, w₁, w₂, -, hlast, hrun⟩ :=
        answer_cases hexecutes.issues hexecutes.succeeds
      obtain ⟨hrecorded, -⟩ | ⟨correlationId, dispatched, hdispatch, -⟩ := hrun
      · exact absurd hrecorded hexecutes.fresh
      · rw [hcommand] at hdispatch
        rw [hlast]
        exact releaseWorktreeWriterLease_ends hdispatch
  | quarantined hexecutes hcommand hof =>
      subst hof
      obtain ⟨principal, context, w₁, w₂, -, hlast, hrun⟩ :=
        answer_cases hexecutes.issues hexecutes.succeeds
      obtain ⟨hrecorded, -⟩ | ⟨correlationId, dispatched, hdispatch, -⟩ := hrun
      · exact absurd hrecorded hexecutes.fresh
      · rw [hcommand] at hdispatch
        rw [hlast]
        exact quarantineWorktreeWriterLease_ends hdispatch
  | @shown context view hok hview =>
      have hrun : queryWorktreeWriterLease kernel worktreeId context w =
          (.ok view, (queryWorktreeWriterLease kernel worktreeId context w).2) :=
        Prod.ext hok rfl
      have hbody := queryTransaction_eq_ok hrun
      simp only [bind_eq_ok] at hbody
      obtain ⟨principal, w₁, -, hget⟩ := hbody
      obtain ⟨lease, hlease, rfl⟩ := getWorktreeWriterLease_shows hget
      exact ⟨lease, hlease, hview⟩

/-- What the numbers and the authorities of the leases come to from `w` to `w'`. -/
structure LeasesFence (kernel : KernelContext) (w w' : World) : Prop where
  /-- The numbers of a lease never decrease. -/
  numbers : ∀ r ∈ w.db.table WorktreeWriterLease, ∃ r' ∈ w'.db.table WorktreeWriterLease,
    r'.worktreeId = r.worktreeId ∧ r.revision ≤ r'.revision ∧ r.generation ≤ r'.generation ∧
      r.fencingToken ≤ r'.fencingToken
  /-- An acquisition is given numbers that no lease of the Worktree has had. -/
  acquired : ∀ r ∈ w.db.table WorktreeWriterLease, ∀ call issued command result,
    Executes kernel call issued w' result → issued.command = .AcquireWorktreeWriterLease command →
      command.worktreeId = r.worktreeId → ∃ generation fencingToken,
        result.leaseGeneration = some generation ∧ result.fencingToken = some fencingToken ∧
          r.generation < generation ∧ r.fencingToken < fencingToken
  /-- A release, a quarantine and a query that shows the lease over retire its authority. -/
  ended : ∀ authority, (worktreeBook w.db).Honours authority →
    ∀ call, EndsLease kernel w' authority.worktreeId call →
      (worktreeBook (step kernel call w').db).Retired authority
  /-- An authority that is not the Active one any more is accepted by no call. -/
  retired : ∀ authority, (worktreeBook w.db).Retired authority →
    ∀ call, ¬ Accepts kernel w' authority call

theorem leaseRow_mem {r : WorktreeWriterLease} (hr : r ∈ w.db.table WorktreeWriterLease) :
    (worktreeBook w.db).lease r.worktreeId = some r := by
  refine Table.find?_of_mem hr (by simp) ?_
  intro x hx
  refine ⟨primaryKey [.text r.worktreeId], ?_, ?_⟩
  · simp [Keyed.keys, of_decide_eq_true hx]
  · simp [Keyed.keys]

/-- Along every run the leases fence off the writers of the past. -/
theorem leases_fence (hs : Steps kernel w w') : LeasesFence kernel w w' := by
  have hbecomes := hs.worktreeBecomes
  have hstep : ∀ call, (worktreeBook w.db).Becomes (worktreeBook (step kernel call w').db) := by
    intro call
    have hlast : Steps kernel w (step kernel call w') := hs.tail ⟨call, rfl⟩
    exact hlast.worktreeBecomes
  refine ⟨?_, ?_, ?_, ?_⟩
  · intro r hr
    obtain ⟨r', hr', hfollows⟩ := hbecomes.leases _ r (leaseRow_mem hr)
    obtain ⟨hmem, -⟩ := Table.find?_eq_some hr'
    refine ⟨r', hmem, worktreeBook_lease_worktreeId hr', ?_, ?_⟩
    · obtain rfl | hlater := hfollows.revision
      · exact Nat.le_refl _
      · exact Nat.le_of_lt hlater
    · obtain ⟨hsame, hle, -⟩ | ⟨hlt, hlater⟩ := hfollows.fence <;> omega
  · intro r hr call issued command result hexecutes hcommand hof
    obtain ⟨r', hr', hfollows⟩ := hbecomes.leases _ r (leaseRow_mem hr)
    obtain ⟨principal, context, w₁, w₂, hbefore, -, hrun⟩ :=
      answer_cases hexecutes.issues hexecutes.succeeds
    obtain ⟨hrecorded, -⟩ | ⟨correlationId, dispatched, hdispatch, rfl⟩ := hrun
    · exact absurd hrecorded hexecutes.fresh
    · rw [hcommand] at hdispatch
      obtain ⟨lease, observedAt, -, -, rfl, hgreater⟩ :=
        acquireWorktreeWriterLease_grants hdispatch
      obtain ⟨hgeneration, hfencing⟩ := hgreater r' (by rw [hbefore, hof, hr'])
      refine ⟨lease.generation, lease.fencingToken, rfl, rfl, ?_⟩
      obtain ⟨hsame, hle, -⟩ | ⟨hlt, hlater⟩ := hfollows.fence <;> omega
  · intro authority hhonours call hends
    obtain ⟨lease, hlease, hover⟩ := hends.inactive
    obtain hstill | hretired := hhonours.after (hstep call)
    · obtain ⟨r, hr, hactive, -⟩ := hstill
      cases hlease.symm.trans hr
      exact absurd hactive hover
    · exact hretired
  · intro authority hretired call haccepts
    obtain hnow | hafter := haccepts.honours
    · exact (hretired.after hbecomes).lost hnow
    · exact (hretired.after (hstep call)).lost hafter

end Acceptance

/-! ## A writer that is quarantined -/

/-- The authority the writer at work has been granted. -/
def writerAuthority : WorktreeLeaseAuthority :=
  { worktreeId := "worktree", generation := 1, fencingToken := 1, leaseToken := "wlt_r" }

def quarantinedWorld : World :=
  step countingKernel
    (asRuntime (.QuarantineWorktreeWriterLease
      { idempotencyKey := "quarantine"
        worktreeId := "worktree"
        expectedGeneration := some 1
        expectedFencingToken := some 1
        leaseToken := some "wlt_r"
        reason := "The writer is not trusted." }))
    writingWorld

theorem quarantinedWorld_of_writing : Steps countingKernel writingWorld quarantinedWorld :=
  .single ⟨_, rfl⟩

/-- The quarantine fences off the writer at work. -/
theorem quarantined_leases_fence :
    LeasesFence countingKernel writingWorld quarantinedWorld ∧
      (worktreeBook writingWorld.db).Honours writerAuthority ∧
      (worktreeBook quarantinedWorld.db).Retired writerAuthority := by
  have hbefore : ((worktreeBook writingWorld.db).lease "worktree").map (fun r =>
      (r.status, r.generation, r.fencingToken, r.leaseToken)) =
        some (.Active, 1, 1, some "wlt_r") := by decide +kernel
  have hafter : ((worktreeBook quarantinedWorld.db).lease "worktree").map (·.status) =
      some .Quarantined := by decide +kernel
  have hsteps := quarantinedWorld_of_writing
  -- Nothing else of the worlds is to be computed.
  generalize writingWorld = w at hbefore hsteps ⊢
  generalize quarantinedWorld = w' at hafter hsteps ⊢
  obtain ⟨r, hr, hnumbers⟩ := Option.map_eq_some_iff.mp hbefore
  obtain ⟨r', hr', hstatus⟩ := Option.map_eq_some_iff.mp hafter
  simp only [Prod.mk.injEq] at hnumbers
  obtain ⟨hactive, hgeneration, hfencing, htoken⟩ := hnumbers
  have hhonours : (worktreeBook w.db).Honours writerAuthority :=
    ⟨r, hr, hactive, hgeneration, hfencing, htoken⟩
  refine ⟨leases_fence hsteps, hhonours, ?_⟩
  obtain hstill | hretired := hhonours.after hsteps.worktreeBecomes
  · obtain ⟨x, hx, hnow, -⟩ := hstill
    cases hr'.symm.trans hx
    rw [hstatus] at hnow
    cases hnow
  · exact hretired

end Torsor.Kernel
