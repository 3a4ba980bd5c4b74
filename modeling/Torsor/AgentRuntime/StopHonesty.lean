import Torsor.AgentRuntime.ControlledWorktreeProcess

/-! # Honesty of a stop

A stop is on record only for a child whose close the handle has observed, or that was never
spawned; everything else that settles is on record as `Uncertain`. The lease is released
under a durable revocation, unless the first revocation comes between the last look at it
and the check that leads to the release.
-/

namespace Torsor.AgentRuntime

open Torsor.Library Torsor.Kernel

/-! ## The invariant -/

/-- The disposition a settlement in progress is about to record. -/
def Settlement.target? : Settlement → Option StopDisposition
  | .revoking target _ | .reading target _ | .requesting target _ | .recording target _ =>
      some target
  | _ => none

/-- The stop has found a spawn, or the attempt of one. -/
def PhysicalStop.needsSpawn : PhysicalStop → Bool
  | .requested | .forced | .ended .Uncertain => true
  | _ => false

/-- The events that call `stop`. -/
def ProcessEvent.stops : ProcessEvent → Bool
  | .launch _ | .runningRecorded true | .startFails | .stop _ => true
  | _ => false

/-- The settlement awaits no revocation and no lease. -/
def Settlement.quiet : Settlement → Bool
  | .revoking _ _ | .revokingAgain _ | .readingLease => false
  | _ => true

namespace ControlledWorktreeProcess

/-- The close of the child was observed, or no child was ever spawned. -/
def Gone (h : ControlledWorktreeProcess) : Prop :=
  h.closeEvidence.isSome = true ∨ h.spawnAttempted = false

structure Inv (h : ControlledWorktreeProcess) : Prop where
  created : h.start = .created → h.spawnAttempted = false
  attached : h.child = true → h.spawnAttempted = true
  closed : h.closeEvidence.isSome = true → h.child = true
  /-- Before the launch only a revocation begins the stop. -/
  begun : h.physicalStop ≠ .notBegun → h.revocationReason.isSome = true ∨ h.start ≠ .created
  settling : h.settlement ≠ .idle → h.physicalStop ≠ .notBegun
  stopping : isStopped h.receipt.state = true → h.physicalStop ≠ .notBegun
  ended : ∀ d, h.physicalStop = .ended d → d ≠ .Uncertain → h.Gone
  target : ∀ d, h.settlement.target? = some d → d ≠ .Uncertain → h.Gone
  stopped : isStopped h.receipt.state = true → h.Gone
  /-- The decision to record `Uncertain` follows the end of the physical stop. -/
  gaveUp : h.gaveUp = true → h.physicalStop = .ended .Uncertain
  doubted : h.settlement.target? = some .Uncertain → h.gaveUp = true
  uncertain : h.receipt.state = .Uncertain → h.gaveUp = true
  later : h.gaveUp = true → h.closeEvidence.isSome = true → h.closedLater = true
  upgrade : ∀ d, h.settlement.target? = some d → d ≠ .Uncertain → h.gaveUp = true →
    h.closedLater = true
  spawned : h.physicalStop.needsSpawn = true → h.spawnAttempted = true
  upgraded : h.gaveUp = true → isStopped h.receipt.state = true → h.closedLater = true
  read : ∀ d state, h.settlement = .reading d (some state) → h.receipt.state = state
  recorded : ∀ d, h.settlement = .recording d true → h.receipt.state = d.state
  settled : h.durablySettled = true →
    isStopped h.receipt.state = true ∨ h.receipt.state = .Uncertain
  retrying : h.retry = true → h.revocationReason.isSome = true
  stopOnce : h.stopRequests ≤ 1 ∧ (h.stopSent = false → h.stopRequests = 0)
  forceOnce : h.forceRequests ≤ 1 ∧ (h.forceSent = false → h.forceRequests = 0)

theorem Inv.fresh : Inv {} := by
  constructor <;> simp [isStopped, Settlement.target?, PhysicalStop.needsSpawn]

variable {h h' : ControlledWorktreeProcess}

theorem Inv.revoke (reason : StopReason) (hi : Inv h) : Inv (h.revoke reason) := by
  unfold ControlledWorktreeProcess.revoke
  split
  · exact hi
  · exact { hi with begun := fun _ => .inl rfl, retrying := fun _ => rfl }

/-- The stop begins on a handle that is revoked, or that has been launched. -/
theorem Inv.stopProcess (hi : Inv h) (hfirst : h.physicalStop = .notBegun)
    (hbegin : h.revocationReason.isSome = true ∨ h.start ≠ .created) : Inv h.stopProcess := by
  have hdoubt : h.gaveUp ≠ true := by
    intro hgave
    rw [hi.gaveUp hgave] at hfirst
    cases hfirst
  unfold ControlledWorktreeProcess.stopProcess
  split
  · rename_i hchild
    refine { hi with
      begun := fun _ => hbegin
      settling := fun _ => by simp
      stopping := fun _ => by simp
      gaveUp := fun hgave => absurd hgave hdoubt
      ended := ?_
      spawned := ?_ }
    · intro d hd hstop
      by_cases hspawn : h.spawnAttempted = true
      · simp only [hspawn, if_true] at hd
        cases hd
        exact absurd rfl hstop
      · exact .inr (by simpa using hspawn)
    · intro hneeds
      by_contra hspawn
      simp [hspawn, PhysicalStop.needsSpawn] at hneeds
  · rename_i hchild
    have hspawned : h.spawnAttempted = true := hi.attached (by simpa using hchild)
    split
    · rename_i hclosed
      exact { hi with
        begun := fun _ => hbegin
        settling := fun _ => by simp
        stopping := fun _ => by simp
        gaveUp := fun hgave => absurd hgave hdoubt
        spawned := fun _ => hspawned
        ended := fun _ _ _ => .inl hclosed }
    · split
      · exact { hi with
          begun := fun _ => hbegin
          settling := fun _ => by simp
          stopping := fun _ => by simp
          gaveUp := fun hgave => absurd hgave hdoubt
          spawned := fun _ => hspawned
          ended := by simp }
      · rename_i hsent
        have hnone : h.stopRequests = 0 := hi.stopOnce.2 (by simpa using hsent)
        exact { hi with
          begun := fun _ => hbegin
          settling := fun _ => by simp
          stopping := fun _ => by simp
          gaveUp := fun hgave => absurd hgave hdoubt
          spawned := fun _ => hspawned
          ended := by simp
          stopOnce := ⟨by simp [hnone], by simp⟩ }

@[simp] theorem stopProcess_settlement (h : ControlledWorktreeProcess) :
    h.stopProcess.settlement = h.settlement := by
  unfold ControlledWorktreeProcess.stopProcess
  split
  · rfl
  · split
    · rfl
    · split <;> rfl

theorem stopProcess_begun (h : ControlledWorktreeProcess) :
    h.stopProcess.physicalStop ≠ .notBegun := by
  unfold ControlledWorktreeProcess.stopProcess
  split
  · simp
  · split
    · simp
    · split <;> simp

/-- A settlement moves on to where it holds no target. -/
theorem Inv.moveOn {s : Settlement} (hi : Inv h) (hs : s.target? = none)
    (hbegun : s ≠ .idle → h.physicalStop ≠ .notBegun) : Inv { h with settlement := s } :=
  { hi with
    settling := hbegun
    target := by simp [hs]
    doubted := by simp [hs]
    upgrade := by simp [hs]
    read := by
      rintro d state rfl
      cases hs
    recorded := by
      rintro d rfl
      cases hs }

/-- A settlement moves on with its target. -/
theorem Inv.aim {s : Settlement} {d : StopDisposition} (hi : Inv h)
    (hd : h.settlement.target? = some d) (hs : s.target? = some d)
    (hread : ∀ state, s = .reading d (some state) → h.receipt.state = state)
    (hrecorded : s = .recording d true → h.receipt.state = d.state) :
    Inv { h with settlement := s } :=
  { hi with
    settling := fun _ => hi.settling (by
      intro hidle
      rw [hidle] at hd
      cases hd)
    target := by
      simp only [hs, ← hd]
      exact hi.target
    doubted := by
      simp only [hs, ← hd]
      exact hi.doubted
    upgrade := by
      simp only [hs, ← hd]
      exact hi.upgrade
    read := by
      rintro e state rfl
      cases hs
      exact hread state rfl
    recorded := by
      rintro e rfl
      cases hs
      exact hrecorded rfl }

/-- A settlement begins by waiting for the physical stop. -/
theorem Inv.awaitStop (hi : Inv h) (hbegun : h.physicalStop ≠ .notBegun) :
    Inv (if h.settlement = .idle then { h with settlement := .awaitingStop } else h) := by
  split
  · exact hi.moveOn rfl fun _ => hbegun
  · exact hi

theorem Inv.drain (hi : Inv h) (hbegin : h.revocationReason.isSome = true ∨ h.start ≠ .created) :
    Inv h.drain := by
  have hretry : Inv { h with retry := false } := { hi with retrying := by simp }
  unfold ControlledWorktreeProcess.drain
  by_cases hfirst : h.physicalStop = .notBegun
  · simp only [hfirst, if_true]
    exact (hretry.stopProcess hfirst hbegin).awaitStop (stopProcess_begun _)
  · simp only [hfirst, if_false]
    exact hretry.awaitStop hfirst

theorem revoke_isSome (reason : StopReason) (h : ControlledWorktreeProcess) :
    (h.revoke reason).revocationReason.isSome = true := by
  unfold ControlledWorktreeProcess.revoke
  split
  · assumption
  · rfl

/-- A settlement that failed is retried under a revocation. -/
theorem Inv.retryLater (reason : StopReason) (hi : Inv h) :
    Inv ({ h with retry := true }.revoke reason) := by
  unfold ControlledWorktreeProcess.revoke
  split
  · rename_i hrevoked
    exact { hi with retrying := fun _ => hrevoked }
  · exact { hi with begun := fun _ => .inl rfl, retrying := fun _ => rfl }

theorem Inv.stop (reason : StopReason) (hi : Inv h) : Inv (h.stop reason) :=
  (hi.revoke reason).drain (.inl (revoke_isSome reason h))

/-- What the Kernel accepts of a record, and what it leaves. -/
theorem record_cases (ok : Bool) (state : WorktreeExecutionState) (h : ControlledWorktreeProcess) :
    h.record ok state = (h, false) ∨
      state ∈ allowedExecutionStates h.receipt.state ∧
        ∃ receipt, receipt.state = state ∧
          (h.receipt.authorityRevoked = true → receipt.authorityRevoked = true) ∧
          receipt.leaseReleased = h.receipt.leaseReleased ∧
          h.record ok state = ({ h with receipt }, true) := by
  unfold ControlledWorktreeProcess.record ExecutionRecord.record
  cases ok with
  | false => exact .inl rfl
  | true =>
      by_cases hallowed : state ∈ allowedExecutionStates h.receipt.state
      · right
        refine ⟨hallowed, _, ?_, ?_, ?_, by simp only [if_true, hallowed]; rfl⟩
        · rfl
        · intro hrevoked
          simp [hrevoked]
        · rfl
      · left
        simp [hallowed]

theorem allowedExecutionStates_stopped {state : WorktreeExecutionState}
    (hstopped : isStopped state = true) : allowedExecutionStates state = [] := by
  cases state <;> first | rfl | cases hstopped

theorem isStopped_state_iff {d : StopDisposition} :
    isStopped d.state = true ↔ d ≠ .Uncertain := by
  cases d <;> simp [isStopped, StopDisposition.state]

theorem state_eq_uncertain_iff {d : StopDisposition} :
    d.state = .Uncertain ↔ d = .Uncertain := by
  cases d <;> simp [StopDisposition.state]

/-- The target of a settlement is recorded under what warrants it. -/
theorem Inv.recordTarget (ok : Bool) {d : StopDisposition} (hi : Inv h)
    (htarget : h.settlement.target? = some d) : Inv (h.recordTarget ok d) := by
  unfold ControlledWorktreeProcess.recordTarget
  cases record_cases ok d.state h with
  | inl hfailed =>
      rw [hfailed]
      exact hi.aim htarget rfl (by simp) (by simp)
  | inr hdone =>
      obtain ⟨-, receipt, hstate, -, -, hdone⟩ := hdone
      rw [hdone]
      have hbegun : h.physicalStop ≠ .notBegun := hi.settling (by
        intro hidle
        rw [hidle] at htarget
        cases htarget)
      have haimed : Inv { h with settlement := .recording d false } :=
        hi.aim htarget rfl (by simp) (by simp)
      exact { haimed with
        settling := fun _ => hbegun
        stopping := fun _ => hbegun
        stopped := by
          simp only [hstate, isStopped_state_iff]
          exact hi.target d htarget
        uncertain := by
          simp only [hstate, state_eq_uncertain_iff]
          rintro rfl
          exact hi.doubted htarget
        upgraded := by
          simp only [hstate, isStopped_state_iff]
          exact fun hgave hstop => hi.upgrade d htarget hstop hgave
        read := by simp
        recorded := by
          simp only [hstate, Settlement.recording.injEq]
          rintro e ⟨rfl, -⟩
          rfl
        settled := by
          simp only [hstate, isStopped_state_iff, state_eq_uncertain_iff]
          intro _
          by_cases hd : d = .Uncertain
          · exact .inr hd
          · exact .inl hd }

/-- A record of a state in between leaves the doubts and the stops as they are. -/
theorem Inv.receive {receipt : ExecutionRecord} (hi : Inv h)
    (hbetween : receipt.state = .Running ∨ receipt.state = .StopRequested)
    (hallowed : receipt.state ∈ allowedExecutionStates h.receipt.state)
    (hread : ∀ d read, h.settlement ≠ .reading d (some read))
    (hrecorded : ∀ d, h.settlement ≠ .recording d true) : Inv { h with receipt } := by
  have hmoves : isStopped receipt.state = false ∧ receipt.state ≠ .Uncertain := by
    cases hbetween with
    | inl hrunning => simp [hrunning, isStopped]
    | inr hrequested => simp [hrequested, isStopped]
  have hunsettled : h.durablySettled ≠ true := by
    intro hsettled
    cases hi.settled hsettled with
    | inl hstopped => simp [allowedExecutionStates_stopped hstopped] at hallowed
    | inr huncertain =>
        rw [huncertain] at hallowed
        cases hbetween with
        | inl hrunning => simp [hrunning, allowedExecutionStates] at hallowed
        | inr hrequested => simp [hrequested, allowedExecutionStates] at hallowed
  exact { hi with
    stopping := by simp [hmoves]
    stopped := by simp [hmoves]
    uncertain := by simp [hmoves]
    upgraded := by simp [hmoves]
    read := fun d read hreading => absurd hreading (hread d read)
    recorded := fun d hrecording => absurd hrecording (hrecorded d)
    settled := fun hsettled => absurd hsettled hunsettled }

theorem Inv.persistRevocation (ok : Bool) (hi : Inv h) : Inv (h.persistRevocation ok).1 := by
  unfold ControlledWorktreeProcess.persistRevocation
  split
  · exact hi
  · split
    · exact { hi with }
    · exact hi

/-- A revocation writes the receipt only. -/
theorem persistRevocation_frame (ok : Bool) (h : ControlledWorktreeProcess) :
    ∃ receipt, (h.persistRevocation ok).1 = { h with receipt } := by
  unfold ControlledWorktreeProcess.persistRevocation
  split
  · exact ⟨_, rfl⟩
  · split <;> exact ⟨_, rfl⟩

theorem revoke_frame (reason : StopReason) (h : ControlledWorktreeProcess) :
    ∃ revocationReason, h.revoke reason = { h with revocationReason } := by
  unfold ControlledWorktreeProcess.revoke
  split <;> exact ⟨_, rfl⟩

@[simp] theorem persistRevocation_physicalStop (ok : Bool) (h : ControlledWorktreeProcess) :
    (h.persistRevocation ok).1.physicalStop = h.physicalStop := by
  obtain ⟨receipt, hframe⟩ := persistRevocation_frame ok h
  rw [hframe]

theorem observedStopState_ne (h : ControlledWorktreeProcess) : h.observedStopState ≠ .Uncertain := by
  unfold ControlledWorktreeProcess.observedStopState
  split <;> simp

theorem release_of_some {ok : Bool} {r r' : ExecutionRecord}
    (hreleased : (if ok then r.release else none) = some r') :
    isStopped r.state = true ∧ { r with leaseReleased := true } = r' := by
  cases ok with
  | false => cases hreleased
  | true =>
      simp only [if_true, ExecutionRecord.release] at hreleased
      split at hreleased
      · rename_i hstopped
        exact ⟨hstopped, Option.some.inj hreleased⟩
      · cases hreleased

/-! ## One event -/

/-- The spawn finds a handle that has not begun to stop. -/
theorem Inv.spawn {child : Bool} {start : StartPhase} (hi : Inv h) (hcreated : h.start = .created)
    (hfirst : h.physicalStop = .notBegun) (hstart : start ≠ .created) :
    Inv { h with spawnAttempted := true, child, start } := by
  have hidle : h.settlement = .idle := by
    by_contra hsettling
    exact hi.settling hsettling hfirst
  exact { hi with
    created := fun hagain => absurd hagain hstart
    attached := fun _ => rfl
    closed := by
      intro hclosed
      have hspawned := hi.attached (hi.closed hclosed)
      rw [hi.created hcreated] at hspawned
      cases hspawned
    begun := fun _ => .inr hstart
    ended := by simp [hfirst]
    spawned := fun _ => rfl
    target := by simp [hidle, Settlement.target?]
    stopped := fun hstopped => absurd hfirst (hi.stopping hstopped) }

theorem Inv.launch (outcome : LaunchOutcome) (hi : Inv h) (hmove : h.launch outcome = some h') :
    Inv h' := by
  have hfailed : Inv { h with start := .failed } :=
    { hi with created := by simp, begun := fun _ => .inr (by simp) }
  unfold ControlledWorktreeProcess.launch at hmove
  split at hmove
  · cases hmove
  · split at hmove
    · cases hmove
      exact hfailed.stop _
    · rename_i hcreated hfresh
      have hstart : h.start = .created := by simpa using hcreated
      have hfirst : h.physicalStop = .notBegun := by
        by_contra hbegun
        cases hi.begun hbegun with
        | inl hrevoked => exact hfresh (.inl hrevoked)
        | inr hlaunched => exact hlaunched hstart
      split at hmove
      · cases hmove
        exact hfailed.stop _
      · cases outcome with
        | refused => exact absurd (.inr rfl) hfresh
        | notSpawned =>
            cases hmove
            have hspawned : Inv { h with spawnAttempted := true, start := .failed } :=
              hi.spawn hstart hfirst (by simp)
            exact hspawned.stop _
        | spawned pid committed ok =>
            dsimp only at hmove
            split at hmove
            · cases hmove
              have hspawned : Inv { h with spawnAttempted := true, child := true, start := .failed } :=
                hi.spawn hstart hfirst (by simp)
              exact hspawned.stop _
            · split at hmove
              · cases hmove
                exact hi.spawn hstart hfirst (by simp)
              · have hspawned (recorded : Bool) : Inv { h with
                    spawnAttempted := true, child := true, start := .recording recorded } :=
                  hi.spawn hstart hfirst (by simp)
                have hidle : h.settlement = .idle := by
                  by_contra hsettling
                  exact hi.settling hsettling hfirst
                cases record_cases ok .Running { h with spawnAttempted := true, child := true } with
                | inl hlost =>
                    rw [hlost] at hmove
                    cases hmove
                    exact hspawned false
                | inr hdone =>
                    obtain ⟨hallowed, receipt, hreceipt, -, -, hdone⟩ := hdone
                    rw [hdone] at hmove
                    cases hmove
                    exact (hspawned true).receive (.inl hreceipt) (by rw [hreceipt]; exact hallowed)
                      (by simp [hidle]) (by simp [hidle])

/-- The physical stop proceeds, as long as nobody has given it up. -/
theorem Inv.stopProceeds {physicalStop : PhysicalStop} (hi : Inv h) (hdoubt : h.gaveUp ≠ true)
    (hbegun : h.physicalStop ≠ .notBegun) (hproceeds : physicalStop ≠ .notBegun)
    (hspawned : h.spawnAttempted = true)
    (hended : ∀ d, physicalStop = .ended d → d ≠ .Uncertain → h.Gone) :
    Inv { h with physicalStop } :=
  { hi with
    spawned := fun _ => hspawned
    begun := fun _ => hi.begun hbegun
    settling := fun _ => hproceeds
    stopping := fun _ => hproceeds
    ended := hended
    gaveUp := fun hgave => absurd hgave hdoubt }

/-- A settlement holds a target only after the stop has begun. -/
theorem Inv.begun_of_target {d : StopDisposition} (hi : Inv h)
    (hd : h.settlement.target? = some d) : h.physicalStop ≠ .notBegun := by
  apply hi.settling
  intro hidle
  rw [hidle] at hd
  cases hd

/-- A settlement decides on its target. -/
theorem Inv.decided {d : StopDisposition} (call : RevocationCall) (hi : Inv h)
    (hbegun : h.physicalStop ≠ .notBegun) (hgone : d ≠ .Uncertain → h.Gone)
    (hlater : d ≠ .Uncertain → h.gaveUp = true → h.closedLater = true)
    (hdoubt : d = .Uncertain →
      h.physicalStop = .ended .Uncertain ∧ h.closeEvidence.isSome = false) :
    Inv { h with
      gaveUp := h.gaveUp || d = .Uncertain, settlement := .revoking d call } := by
  by_cases huncertain : d = .Uncertain
  · obtain ⟨hended, hopen⟩ := hdoubt huncertain
    simp only [huncertain, decide_true, Bool.or_true]
    exact { hi with
      settling := fun _ => hbegun
      target := by simp [Settlement.target?]
      upgraded := by
        intro _ hstopped
        cases hi.stopped hstopped with
        | inl hclosed => simp [hopen] at hclosed
        | inr hunspawned =>
            have hspawned := hi.spawned (by rw [hended]; rfl)
            rw [hunspawned] at hspawned
            cases hspawned
      gaveUp := fun _ => hended
      doubted := fun _ => rfl
      uncertain := fun _ => rfl
      later := by simp [hopen]
      upgrade := by simp [Settlement.target?]
      read := by simp
      recorded := by simp }
  · simp only [huncertain, decide_false, Bool.or_false]
    exact { hi with
      settling := fun _ => hbegun
      target := fun _ _ _ => hgone huncertain
      doubted := by simp [Settlement.target?, huncertain]
      upgrade := fun _ _ _ => hlater huncertain
      read := by simp
      recorded := by simp }

theorem Inv.stopSettled (ok : Bool) (hi : Inv h) (hmove : h.stopSettled ok = some h') :
    Inv h' := by
  unfold ControlledWorktreeProcess.stopSettled at hmove
  split at hmove
  · rename_i initial hawaiting hended
    dsimp only at hmove
    generalize hd : (if h.closeEvidence.isSome then h.observedStopState else initial) = d at hmove
    have hgone : d ≠ .Uncertain → h.Gone := by
      intro hstop
      by_cases hclosed : h.closeEvidence.isSome = true
      · exact .inl hclosed
      · rw [if_neg hclosed] at hd
        exact hi.ended d (hd ▸ hended) hstop
    have hdoubt : d = .Uncertain →
        h.physicalStop = .ended .Uncertain ∧ h.closeEvidence.isSome = false := by
      rintro rfl
      by_cases hclosed : h.closeEvidence.isSome = true
      · rw [if_pos hclosed] at hd
        exact absurd hd h.observedStopState_ne
      · rw [if_neg hclosed] at hd
        exact ⟨hd ▸ hended, by simpa using hclosed⟩
    have hlater : d ≠ .Uncertain → h.gaveUp = true → h.closedLater = true := by
      intro hstop hgave
      by_cases hclosed : h.closeEvidence.isSome = true
      · exact hi.later hgave hclosed
      · rw [if_neg hclosed] at hd
        rw [hi.gaveUp hgave, hd] at hended
        cases hended
        exact absurd rfl hstop
    have hrevoked : Inv (if d = .StopConfirmed then h else h.revoke .notConfirmed) := by
      split
      · exact hi
      · exact hi.revoke _
    obtain ⟨reason, hreason⟩ : ∃ revocationReason,
        (if d = .StopConfirmed then h else h.revoke .notConfirmed) = { h with revocationReason } := by
      split
      · exact ⟨_, rfl⟩
      · exact revoke_frame _ h
    rw [hreason] at hrevoked hmove
    have hpersisted := hrevoked.persistRevocation ok
    obtain ⟨receipt, hreceipt⟩ := persistRevocation_frame ok { h with revocationReason := reason }
    cases hmove
    rw [hreceipt] at hpersisted ⊢
    exact hpersisted.decided _ (by simp [hended]) hgone hlater hdoubt
  · cases hmove

theorem Inv.revocationReturns (ok : Bool) (hi : Inv h)
    (hmove : h.revocationReturns ok = some h') : Inv h' := by
  unfold ControlledWorktreeProcess.revocationReturns at hmove
  split at hmove
  · rename_i d hrevoking
    have hd : h.settlement.target? = some d := by simp [hrevoking, Settlement.target?]
    cases hmove
    exact hi.moveOn rfl fun _ => hi.begun_of_target hd
  · rename_i d call hsucceeded hrevoking
    have hd : h.settlement.target? = some d := by simp [hrevoking, Settlement.target?]
    have hreturned : Inv (h.revocationReturned call) := { hi with }
    dsimp only at hmove
    split at hmove
    · cases hmove
      apply hreturned.aim hd rfl
      · intro state hstate
        cases ok with
        | true =>
            cases hstate
            rfl
        | false => cases hstate
      · simp
    · cases hmove
      exact hreturned.moveOn rfl fun _ => hi.begun_of_target hd
  · cases hmove

theorem Inv.stateRead (ok : Bool) (hi : Inv h) (hmove : h.stateRead ok = some h') : Inv h' := by
  unfold ControlledWorktreeProcess.stateRead at hmove
  split at hmove
  · rename_i d hreading
    have hd : h.settlement.target? = some d := by simp [hreading, Settlement.target?]
    cases hmove
    exact hi.moveOn rfl fun _ => hi.begun_of_target hd
  · rename_i d state hreading
    have hd : h.settlement.target? = some d := by simp [hreading, Settlement.target?]
    have hstate : h.receipt.state = state := hi.read d state hreading
    have hheld : Inv { h with state } := { hi with }
    dsimp only at hmove
    split at hmove
    · rename_i hsettled
      cases hmove
      have hdone : Inv { h with state, durablySettled := true } := { hheld with
        settled := by
          intro _
          simp only [hstate]
          cases hsettled with
          | inl hstopped => exact .inl hstopped
          | inr htarget =>
              rw [htarget, isStopped_state_iff, state_eq_uncertain_iff]
              by_cases huncertain : d = .Uncertain
              · exact .inr huncertain
              · exact .inl huncertain }
      exact hdone.moveOn rfl fun _ => hi.begun_of_target hd
    · split at hmove
      · have hasked (recorded : Bool) : Inv { h with
            state, settlement := .requesting d recorded } :=
          hheld.aim hd rfl (by simp) (by simp)
        cases record_cases ok .StopRequested { h with state } with
        | inl hlost =>
            rw [hlost] at hmove
            cases hmove
            exact hasked false
        | inr hdone =>
            obtain ⟨hallowed, receipt, hreceipt, -, -, hdone⟩ := hdone
            rw [hdone] at hmove
            cases hmove
            exact (hasked true).receive (.inr hreceipt) (by rw [hreceipt]; exact hallowed)
              (by simp) (by simp)
      · cases hmove
        exact hheld.recordTarget ok hd
  · cases hmove

theorem Inv.stopRequestRecorded (ok : Bool) (hi : Inv h)
    (hmove : h.stopRequestRecorded ok = some h') : Inv h' := by
  unfold ControlledWorktreeProcess.stopRequestRecorded at hmove
  split at hmove
  · rename_i d hrequesting
    have hd : h.settlement.target? = some d := by simp [hrequesting, Settlement.target?]
    cases hmove
    exact hi.moveOn rfl fun _ => hi.begun_of_target hd
  · rename_i d hrequesting
    have hd : h.settlement.target? = some d := by simp [hrequesting, Settlement.target?]
    have hrequested : Inv { h with state := .StopRequested } := { hi with }
    cases hmove
    exact hrequested.recordTarget ok hd
  · cases hmove

theorem Inv.stateRecorded (hi : Inv h) (hmove : h.stateRecorded = some h') : Inv h' := by
  unfold ControlledWorktreeProcess.stateRecorded at hmove
  split at hmove
  · rename_i d hrecording
    have hd : h.settlement.target? = some d := by simp [hrecording, Settlement.target?]
    cases hmove
    exact hi.moveOn rfl fun _ => hi.begun_of_target hd
  · rename_i d hrecording
    have hd : h.settlement.target? = some d := by simp [hrecording, Settlement.target?]
    cases hmove
    have hdone : Inv { h with state := d.state, durablySettled := true } := { hi with
      settled := by
        intro _
        dsimp only
        rw [hi.recorded d hrecording, isStopped_state_iff, state_eq_uncertain_iff]
        by_cases huncertain : d = .Uncertain
        · exact .inr huncertain
        · exact .inl huncertain }
    exact hdone.moveOn rfl fun _ => hi.begun_of_target hd
  · cases hmove

/-- The events that keep the invariant for reasons of their own are lemmas above. -/
theorem Inv.step (e : ProcessEvent) (hi : Inv h) (hmove : processMachine e h = some h') :
    Inv h' := by
  cases e with
  | launch outcome => exact hi.launch outcome hmove
  | runningRecorded aborted =>
      simp only [processMachine, ControlledWorktreeProcess.runningRecorded] at hmove
      split at hmove
      · have hstarted : Inv { h with state := .Running, start := .started } :=
          { hi with created := by simp, begun := fun _ => .inr (by simp) }
        cases hmove
        split
        · exact hstarted.stop _
        · exact hstarted
      · cases hmove
        exact { hi with created := by simp, begun := fun _ => .inr (by simp) }
      · cases hmove
  | startFails =>
      simp only [processMachine, ControlledWorktreeProcess.startFails] at hmove
      split at hmove
      · have hfailed : Inv { h with start := .failed } :=
          { hi with created := by simp, begun := fun _ => .inr (by simp) }
        cases hmove
        exact hfailed.stop _
      · cases hmove
  | stop reason =>
      cases hmove
      exact hi.stop reason
  | finish inTime =>
      simp only [processMachine, ControlledWorktreeProcess.finish] at hmove
      split at hmove
      · cases hmove
      · rename_i hstarted
        split at hmove
        · cases hmove
          exact hi
        · cases hmove
          exact hi.drain (.inr (by simp [not_not.mp hstarted]))
  | childCloses evidence =>
      simp only [processMachine, ControlledWorktreeProcess.childCloses] at hmove
      split at hmove
      · rename_i hopen
        cases hmove
        exact { hi with
          closed := fun _ => hopen.1
          ended := fun _ _ _ => .inl rfl
          target := fun _ _ _ => .inl rfl
          stopped := fun _ => .inl rfl
          later := fun hgave _ => hgave
          upgraded := fun hgave _ => hgave
          upgrade := fun _ _ _ hgave => hgave }
      · cases hmove
  | graceEnds observed forced =>
      simp only [processMachine, ControlledWorktreeProcess.graceEnds] at hmove
      split at hmove
      · cases hmove
      · rename_i hwaiting
        simp only [not_or, not_not, not_and] at hwaiting
        obtain ⟨hrequested, hevidence⟩ := hwaiting
        have hspawned : h.spawnAttempted = true := hi.spawned (by rw [hrequested]; rfl)
        have hdoubt : h.gaveUp ≠ true := by
          intro hgave
          rw [hi.gaveUp hgave] at hrequested
          cases hrequested
        split at hmove
        · rename_i hobserved
          cases hmove
          exact hi.stopProceeds hdoubt (by simp [*]) (by simp) hspawned fun _ _ _ => .inl (by
            simpa [Option.isSome_iff_ne_none] using hevidence hobserved)
        · split at hmove
          · cases hmove
            exact hi.stopProceeds hdoubt (by simp [*]) (by simp) hspawned (by simp)
          · rename_i hsent
            cases hmove
            have hnone : h.forceRequests = 0 := hi.forceOnce.2 (by simpa using hsent)
            have hsending : Inv { h with
                forceSent := true, forceRequests := h.forceRequests + 1, forced } :=
              { hi with forceOnce := ⟨by simp [hnone], by simp⟩ }
            exact hsending.stopProceeds hdoubt (by simp [hrequested]) (by simp) hspawned (by simp)
  | forceEnds observed =>
      simp only [processMachine, ControlledWorktreeProcess.forceEnds] at hmove
      split at hmove
      · cases hmove
      · rename_i hwaiting
        simp only [not_or, not_not, not_and] at hwaiting
        obtain ⟨hforced, hevidence⟩ := hwaiting
        have hspawned : h.spawnAttempted = true := hi.spawned (by rw [hforced]; rfl)
        have hdoubt : h.gaveUp ≠ true := by
          intro hgave
          rw [hi.gaveUp hgave] at hforced
          cases hforced
        cases hmove
        apply hi.stopProceeds hdoubt (by simp [*]) (by simp) hspawned
        rintro d hd hstop
        cases observed with
        | true => exact .inl (by simpa [Option.isSome_iff_ne_none] using hevidence rfl)
        | false =>
            cases hd
            exact absurd rfl hstop
  | authorityRevoked =>
      cases hmove
      exact { hi with }
  | stopSettled ok => exact hi.stopSettled ok hmove
  | revocationReturns ok => exact hi.revocationReturns ok hmove
  | stateRead ok => exact hi.stateRead ok hmove
  | stopRequestRecorded ok => exact hi.stopRequestRecorded ok hmove
  | stateRecorded => exact hi.stateRecorded hmove
  | logged written ok =>
      simp only [processMachine, ControlledWorktreeProcess.logged] at hmove
      split at hmove
      · cases hmove
      · rename_i hlogging
        have hbegun : h.physicalStop ≠ .notBegun := hi.settling (by simp [not_not.mp hlogging])
        split at hmove
        · cases hmove
          exact hi.moveOn rfl fun _ => hbegun
        · cases hmove
          exact (hi.persistRevocation ok).moveOn rfl (by simpa using hbegun)
  | revocationConfirmed =>
      simp only [processMachine, ControlledWorktreeProcess.revocationConfirmed] at hmove
      split at hmove
      · rename_i hconfirming
        cases hmove
        exact hi.moveOn rfl fun _ => hi.settling (by simp [hconfirming])
      · rename_i call hsucceeded hconfirming
        have hreturned : Inv (h.revocationReturned call) := { hi with }
        split at hmove
        · cases hmove
          exact hreturned.moveOn rfl fun _ => hi.settling (by simp [hconfirming])
        · cases hmove
          exact hreturned.moveOn rfl fun _ => hi.settling (by simp [hconfirming])
      · cases hmove
  | leaseRead read held ok =>
      simp only [processMachine, ControlledWorktreeProcess.leaseRead] at hmove
      split at hmove
      · cases hmove
      · rename_i hreading
        have hbegun : h.physicalStop ≠ .notBegun := hi.settling (by simp [not_not.mp hreading])
        split at hmove
        · cases hmove
          exact hi.moveOn rfl fun _ => hbegun
        · split at hmove
          · cases hmove
            exact hi.moveOn rfl fun _ => hbegun
          · split at hmove
            · rename_i receipt hreleased
              obtain ⟨-, rfl⟩ := release_of_some hreleased
              cases hmove
              have hleased : Inv { h with receipt := { h.receipt with leaseReleased := true } } :=
                { hi with }
              exact hleased.moveOn rfl fun _ => hbegun
            · cases hmove
              exact hi.moveOn rfl fun _ => hbegun
  | leaseReleased expired =>
      simp only [processMachine, ControlledWorktreeProcess.leaseReleased] at hmove
      split at hmove
      · rename_i hreleasing
        cases hmove
        exact hi.moveOn rfl fun _ => hi.settling (by simp [hreleasing])
      · cases hmove
  | settlementEnds =>
      simp only [processMachine, ControlledWorktreeProcess.settlementEnds] at hmove
      split at hmove
      · cases hmove
        exact hi.moveOn rfl (by simp)
      · cases hmove
        have hidle : Inv { h with settlement := .idle } := hi.moveOn rfl (by simp)
        exact hidle.retryLater _
      · cases hmove
  | retryFires =>
      simp only [processMachine, ControlledWorktreeProcess.retryFires] at hmove
      split at hmove
      · rename_i hretry
        cases hmove
        exact hi.drain (.inl (hi.retrying hretry))
      · cases hmove

/-! ## Revocation before release -/

/-- The second call of `#persistRevocation` has found nothing to persist, and the check that
leads to the release is still to come. -/
def AwaitsCheck (h : ControlledWorktreeProcess) : Prop := h.settlement = .revokingAgain .skipped

structure ReleaseInv (h : ControlledWorktreeProcess) : Prop where
  durably : h.durablyRevoked = true → h.receipt.authorityRevoked = true
  returning : ∀ d, h.settlement = .revoking d .succeeded → h.receipt.authorityRevoked = true
  returningAgain : h.settlement = .revokingAgain .succeeded → h.receipt.authorityRevoked = true
  /-- Nobody has revoked in between. -/
  skipped : h.AwaitsCheck → h.revocationReason.isSome = true → h.durablyRevoked = true
  leasing : h.settlement = .readingLease → h.receipt.authorityRevoked = true
  released : h.receipt.leaseReleased = true →
    h.receipt.authorityRevoked = true ∧ isStopped h.receipt.state = true

theorem ReleaseInv.fresh : ReleaseInv {} := by
  constructor <;> simp [AwaitsCheck]

/-- What a part of an event does that neither persists a revocation nor releases. -/
structure Quiet (h h' : ControlledWorktreeProcess) : Prop where
  settlement : h'.settlement = h.settlement ∨ h'.settlement.quiet = true
  reason : h'.AwaitsCheck → h'.revocationReason.isSome = h.revocationReason.isSome
  durably : h'.durablyRevoked = h.durablyRevoked
  authority : h.receipt.authorityRevoked = true → h'.receipt.authorityRevoked = true
  released : h'.receipt.leaseReleased = h.receipt.leaseReleased
  stopped : isStopped h.receipt.state = true → isStopped h'.receipt.state = true

theorem Quiet.trans {h'' : ControlledWorktreeProcess} (hfirst : Quiet h h')
    (hsecond : Quiet h' h'') : Quiet h h'' where
  settlement := by
    cases hsecond.settlement with
    | inl hsame =>
        rw [hsame]
        exact hfirst.settlement
    | inr hquiet => exact .inr hquiet
  reason hgap := by
    cases hsecond.settlement with
    | inl hsame => exact (hsecond.reason hgap).trans (hfirst.reason (hsame.symm.trans hgap))
    | inr hquiet =>
        rw [hgap] at hquiet
        cases hquiet
  durably := hsecond.durably.trans hfirst.durably
  authority hrevoked := hsecond.authority (hfirst.authority hrevoked)
  released := hsecond.released.trans hfirst.released
  stopped hstopped := hsecond.stopped (hfirst.stopped hstopped)

theorem ReleaseInv.of_quiet (hr : ReleaseInv h) (hquiet : Quiet h h') : ReleaseInv h' where
  durably hdurable := hquiet.authority (hr.durably (hquiet.durably ▸ hdurable))
  returning d hreturning := by
    cases hquiet.settlement with
    | inl hsame => exact hquiet.authority (hr.returning d (hsame.symm.trans hreturning))
    | inr hother =>
        rw [hreturning] at hother
        cases hother
  returningAgain hreturning := by
    cases hquiet.settlement with
    | inl hsame => exact hquiet.authority (hr.returningAgain (hsame.symm.trans hreturning))
    | inr hother =>
        rw [hreturning] at hother
        cases hother
  skipped hgap hrevoked := by
    rw [hquiet.durably]
    cases hquiet.settlement with
    | inl hsame =>
        exact hr.skipped (hsame.symm.trans hgap) ((hquiet.reason hgap).symm.trans hrevoked)
    | inr hother =>
        rw [hgap] at hother
        cases hother
  leasing hleasing := by
    cases hquiet.settlement with
    | inl hsame => exact hquiet.authority (hr.leasing (hsame.symm.trans hleasing))
    | inr hother =>
        rw [hleasing] at hother
        cases hother
  released hreleased := by
    obtain ⟨hrevoked, hstopped⟩ := hr.released (hquiet.released ▸ hreleased)
    exact ⟨hquiet.authority hrevoked, hquiet.stopped hstopped⟩

theorem Quiet.refl (h : ControlledWorktreeProcess) : Quiet h h :=
  ⟨.inl rfl, fun _ => rfl, rfl, id, rfl, id⟩

theorem Quiet.stopProcess (h : ControlledWorktreeProcess) : Quiet h h.stopProcess := by
  unfold ControlledWorktreeProcess.stopProcess
  split
  · exact ⟨.inl rfl, fun _ => rfl, rfl, id, rfl, id⟩
  · split
    · exact ⟨.inl rfl, fun _ => rfl, rfl, id, rfl, id⟩
    · split <;> exact ⟨.inl rfl, fun _ => rfl, rfl, id, rfl, id⟩

theorem Quiet.drain (h : ControlledWorktreeProcess) : Quiet h h.drain := by
  have hretry : Quiet h { h with retry := false } := ⟨.inl rfl, fun _ => rfl, rfl, id, rfl, id⟩
  have hawaits (g : ControlledWorktreeProcess) :
      Quiet g (if g.settlement = .idle then { g with settlement := .awaitingStop } else g) := by
    split
    · exact ⟨.inr rfl, fun _ => rfl, rfl, id, rfl, id⟩
    · exact Quiet.refl g
  unfold ControlledWorktreeProcess.drain
  by_cases hfirst : h.physicalStop = .notBegun
  · simp only [hfirst, if_true]
    exact (hretry.trans (Quiet.stopProcess _)).trans (hawaits _)
  · simp only [hfirst, if_false]
    exact hretry.trans (hawaits _)

theorem Quiet.revoke (reason : StopReason)
    (hgap : h.AwaitsCheck → h.revocationReason.isSome = true) : Quiet h (h.revoke reason) := by
  unfold ControlledWorktreeProcess.revoke
  split
  · exact Quiet.refl h
  · exact ⟨.inl rfl, fun hawaits => (hgap hawaits).symm, rfl, id, rfl, id⟩

theorem Quiet.stop (reason : StopReason)
    (hgap : h.AwaitsCheck → h.revocationReason.isSome = true) : Quiet h (h.stop reason) :=
  (Quiet.revoke reason hgap).trans (Quiet.drain _)

theorem Quiet.receive {receipt : ExecutionRecord} {state : WorktreeExecutionState}
    (hallowed : state ∈ allowedExecutionStates h.receipt.state)
    (hauthority : h.receipt.authorityRevoked = true → receipt.authorityRevoked = true)
    (hreleased : receipt.leaseReleased = h.receipt.leaseReleased) : Quiet h { h with receipt } where
  settlement := .inl rfl
  reason _ := rfl
  durably := rfl
  authority := hauthority
  released := hreleased
  stopped hstopped := by simp [allowedExecutionStates_stopped hstopped] at hallowed

theorem Quiet.recordTarget (ok : Bool) (d : StopDisposition) (h : ControlledWorktreeProcess) :
    Quiet h (h.recordTarget ok d) := by
  unfold ControlledWorktreeProcess.recordTarget
  cases record_cases ok d.state h with
  | inl hfailed =>
      rw [hfailed]
      exact ⟨.inr rfl, fun _ => rfl, rfl, id, rfl, id⟩
  | inr hdone =>
      obtain ⟨hallowed, receipt, -, hauthority, hreleased, hdone⟩ := hdone
      rw [hdone]
      exact (Quiet.receive hallowed hauthority hreleased).trans
        ⟨.inr rfl, fun _ => rfl, rfl, id, rfl, id⟩

theorem Quiet.launch {outcome : LaunchOutcome}
    (hgap : h.AwaitsCheck → h.revocationReason.isSome = true)
    (hmove : h.launch outcome = some h') : Quiet h h' := by
  have hstarts (spawnAttempted child : Bool) (start : StartPhase) :
      Quiet h { h with spawnAttempted, child, start } :=
    ⟨.inl rfl, fun _ => rfl, rfl, id, rfl, id⟩
  have hfails (spawnAttempted child : Bool) :
      Quiet h ({ h with spawnAttempted, child, start := .failed }.stop .startFailed) :=
    (hstarts spawnAttempted child .failed).trans (Quiet.stop .startFailed hgap)
  unfold ControlledWorktreeProcess.launch at hmove
  split at hmove
  · cases hmove
  · split at hmove
    · cases hmove
      exact hfails h.spawnAttempted h.child
    · split at hmove
      · cases hmove
        exact hfails h.spawnAttempted h.child
      · cases outcome with
        | refused | notSpawned =>
            cases hmove
            exact hfails true h.child
        | spawned pid committed ok =>
            dsimp only at hmove
            split at hmove
            · cases hmove
              exact hfails true true
            · split at hmove
              · cases hmove
                exact hstarts true true .failing
              · cases record_cases ok .Running { h with spawnAttempted := true, child := true } with
                | inl hlost =>
                    rw [hlost] at hmove
                    cases hmove
                    exact hstarts true true (.recording false)
                | inr hdone =>
                    obtain ⟨hallowed, receipt, -, hauthority, hreleased, hdone⟩ := hdone
                    rw [hdone] at hmove
                    cases hmove
                    exact (hstarts true true (.recording true)).trans
                      (Quiet.receive hallowed hauthority hreleased)

theorem Quiet.stateRead {ok : Bool} (hmove : h.stateRead ok = some h') : Quiet h h' := by
  unfold ControlledWorktreeProcess.stateRead at hmove
  split at hmove
  · cases hmove
    exact ⟨.inr rfl, fun _ => rfl, rfl, id, rfl, id⟩
  · rename_i d state hreading
    have hheld : Quiet h { h with state } := ⟨.inl rfl, fun _ => rfl, rfl, id, rfl, id⟩
    dsimp only at hmove
    split at hmove
    · cases hmove
      exact ⟨.inr rfl, fun _ => rfl, rfl, id, rfl, id⟩
    · split at hmove
      · cases record_cases ok .StopRequested { h with state } with
        | inl hlost =>
            rw [hlost] at hmove
            cases hmove
            exact ⟨.inr rfl, fun _ => rfl, rfl, id, rfl, id⟩
        | inr hdone =>
            obtain ⟨hallowed, receipt, -, hauthority, hreleased, hdone⟩ := hdone
            rw [hdone] at hmove
            cases hmove
            exact (hheld.trans (Quiet.receive hallowed hauthority hreleased)).trans
              ⟨.inr rfl, fun _ => rfl, rfl, id, rfl, id⟩
      · cases hmove
        exact hheld.trans (Quiet.recordTarget ok d _)
  · cases hmove

theorem ReleaseInv.persistRevocation (ok : Bool) (hr : ReleaseInv h) :
    ReleaseInv (h.persistRevocation ok).1 := by
  unfold ControlledWorktreeProcess.persistRevocation
  split
  · exact hr
  · split
    · exact hr.of_quiet ⟨.inl rfl, fun _ => rfl, rfl, fun _ => rfl, rfl, id⟩
    · exact hr

/-- A revocation that has succeeded is durable, and one is skipped only if it need not be. -/
theorem persistRevocation_call (ok : Bool) (h : ControlledWorktreeProcess) :
    ((h.persistRevocation ok).2 = .succeeded →
      (h.persistRevocation ok).1.receipt.authorityRevoked = true) ∧
    ((h.persistRevocation ok).2 = .skipped →
      (h.persistRevocation ok).1.revocationReason.isSome = true →
        (h.persistRevocation ok).1.durablyRevoked = true) := by
  unfold ControlledWorktreeProcess.persistRevocation
  split
  · rename_i hskips
    constructor
    · simp
    · intro _ hrevoked
      cases hskips with
      | inl hnone => simp [Option.isNone_iff_eq_none.mp hnone] at hrevoked
      | inr hdurable => exact hdurable
  · split
    · simp [ExecutionRecord.revoke]
    · simp

theorem ReleaseInv.revocationReturned (call : RevocationCall) (hr : ReleaseInv h)
    (hcall : call = .succeeded → h.receipt.authorityRevoked = true)
    {s : Settlement} (hs : s.quiet = true ∨ s = .readingLease ∧ h.receipt.authorityRevoked = true) :
    ReleaseInv { h.revocationReturned call with settlement := s } where
  durably hdurable := by
    simp only [ControlledWorktreeProcess.revocationReturned, Bool.or_eq_true,
      decide_eq_true_eq] at hdurable
    cases hdurable with
    | inl hbefore => exact hr.durably hbefore
    | inr hsucceeded => exact hcall hsucceeded
  returning d hreturning := by
    cases hreturning
    cases hs with
    | inl hquiet => cases hquiet
    | inr hleasing => cases hleasing.1
  returningAgain hreturning := by
    cases hreturning
    cases hs with
    | inl hquiet => cases hquiet
    | inr hleasing => cases hleasing.1
  skipped hgap _ := by
    cases hgap
    cases hs with
    | inl hquiet => cases hquiet
    | inr hleasing => cases hleasing.1
  leasing hleasing := by
    cases hleasing
    cases hs with
    | inl hquiet => cases hquiet
    | inr hleasing => exact hleasing.2
  released := hr.released

/-! ## What an event leaves alone -/

/-- A stop on record stays, and a doubt on record gives way to a stop only. -/
structure Settles (state state' : WorktreeExecutionState) : Prop where
  stopped : isStopped state = true → state' = state
  uncertain : state = .Uncertain → state' = .Uncertain ∨ isStopped state' = true

theorem Settles.refl (state : WorktreeExecutionState) : Settles state state :=
  ⟨fun _ => rfl, fun huncertain => .inl huncertain⟩

theorem Settles.trans {state state' state'' : WorktreeExecutionState}
    (hfirst : Settles state state') (hsecond : Settles state' state'') :
    Settles state state'' where
  stopped hstopped := by
    have hsame := hfirst.stopped hstopped
    rw [← hsame]
    exact hsecond.stopped (hsame ▸ hstopped)
  uncertain huncertain := by
    cases hfirst.uncertain huncertain with
    | inl hdoubt => exact hsecond.uncertain hdoubt
    | inr hstopped =>
        rw [hsecond.stopped hstopped]
        exact .inr hstopped

theorem Settles.of_allowed {state state' : WorktreeExecutionState}
    (hallowed : state' ∈ allowedExecutionStates state) : Settles state state' where
  stopped hstopped := by simp [allowedExecutionStates_stopped hstopped] at hallowed
  uncertain huncertain := by
    rw [huncertain] at hallowed
    right
    cases state' <;> simp_all [allowedExecutionStates, isStopped]

/-- The spawn and the doubt of a handle stay, and the Kernel's record moves as it may. -/
structure Keeps (h h' : ControlledWorktreeProcess) : Prop where
  spawnAttempted : h'.spawnAttempted = h.spawnAttempted
  child : h'.child = h.child
  gaveUp : h.gaveUp = true → h'.gaveUp = true
  state : Settles h.receipt.state h'.receipt.state

theorem Keeps.refl (h : ControlledWorktreeProcess) : Keeps h h :=
  ⟨rfl, rfl, id, Settles.refl _⟩

theorem Keeps.trans {h'' : ControlledWorktreeProcess} (hfirst : Keeps h h')
    (hsecond : Keeps h' h'') : Keeps h h'' where
  spawnAttempted := hsecond.spawnAttempted.trans hfirst.spawnAttempted
  child := hsecond.child.trans hfirst.child
  gaveUp hgave := hsecond.gaveUp (hfirst.gaveUp hgave)
  state := hfirst.state.trans hsecond.state

theorem Keeps.drain (h : ControlledWorktreeProcess) : Keeps h h.drain := by
  have hframe : h.drain.spawnAttempted = h.spawnAttempted ∧ h.drain.child = h.child ∧
      h.drain.gaveUp = h.gaveUp ∧ h.drain.receipt = h.receipt := by
    unfold ControlledWorktreeProcess.drain ControlledWorktreeProcess.stopProcess
    grind
  obtain ⟨hspawn, hchild, hgave, hreceipt⟩ := hframe
  refine ⟨hspawn, hchild, fun hg => hgave ▸ hg, ?_⟩
  rw [hreceipt]
  exact Settles.refl _

theorem Keeps.revoke (reason : StopReason) (h : ControlledWorktreeProcess) :
    Keeps h (h.revoke reason) := by
  obtain ⟨_, hframe⟩ := revoke_frame reason h
  rw [hframe]
  exact ⟨rfl, rfl, id, Settles.refl _⟩

theorem Keeps.stop (reason : StopReason) (h : ControlledWorktreeProcess) :
    Keeps h (h.stop reason) :=
  (Keeps.revoke reason h).trans (Keeps.drain _)

theorem Keeps.persistRevocation (ok : Bool) (h : ControlledWorktreeProcess) :
    Keeps h (h.persistRevocation ok).1 := by
  unfold ControlledWorktreeProcess.persistRevocation
  split
  · exact Keeps.refl h
  · split <;> exact ⟨rfl, rfl, id, Settles.refl _⟩

theorem Keeps.record (ok : Bool) (state : WorktreeExecutionState)
    (h : ControlledWorktreeProcess) : Keeps h (h.record ok state).1 := by
  cases record_cases ok state h with
  | inl hfailed =>
      rw [hfailed]
      exact Keeps.refl h
  | inr hdone =>
      obtain ⟨hallowed, receipt, rfl, -, -, hdone⟩ := hdone
      rw [hdone]
      exact ⟨rfl, rfl, id, Settles.of_allowed hallowed⟩

theorem Keeps.recordTarget (ok : Bool) (d : StopDisposition) (h : ControlledWorktreeProcess) :
    Keeps h (h.recordTarget ok d) := by
  have hrecords := Keeps.record ok d.state h
  exact ⟨hrecords.spawnAttempted, hrecords.child, hrecords.gaveUp, hrecords.state⟩

theorem step_keeps (e : ProcessEvent) (hlaunch : ∀ outcome, e ≠ .launch outcome)
    (hmove : processMachine e h = some h') : Keeps h h' := by
  have hsame := Settles.refl h.receipt.state
  cases e with
  | launch outcome => exact absurd rfl (hlaunch outcome)
  | runningRecorded aborted =>
      simp only [processMachine, ControlledWorktreeProcess.runningRecorded] at hmove
      have hstops := Keeps.stop .cancellation { h with state := .Running, start := .started }
      grind [Keeps]
  | startFails =>
      simp only [processMachine, ControlledWorktreeProcess.startFails] at hmove
      have hstops := Keeps.stop .startFailed { h with start := .failed }
      grind [Keeps]
  | stop reason =>
      cases hmove
      exact Keeps.stop reason h
  | finish inTime =>
      simp only [processMachine, ControlledWorktreeProcess.finish] at hmove
      have hdrains := Keeps.drain h
      grind [Keeps]
  | childCloses evidence =>
      simp only [processMachine, ControlledWorktreeProcess.childCloses] at hmove
      grind [Keeps]
  | graceEnds observed forced =>
      simp only [processMachine, ControlledWorktreeProcess.graceEnds] at hmove
      grind [Keeps]
  | forceEnds observed =>
      simp only [processMachine, ControlledWorktreeProcess.forceEnds] at hmove
      grind [Keeps]
  | authorityRevoked =>
      cases hmove
      exact ⟨rfl, rfl, id, Settles.refl _⟩
  | stopSettled ok =>
      simp only [processMachine, ControlledWorktreeProcess.stopSettled] at hmove
      split at hmove
      · generalize (if h.closeEvidence.isSome then h.observedStopState else _) = d at hmove
        have hrevokes : Keeps h (if d = .StopConfirmed then h else h.revoke .notConfirmed) := by
          split
          · exact Keeps.refl h
          · exact Keeps.revoke _ h
        have hpersists := hrevokes.trans (Keeps.persistRevocation ok _)
        cases hmove
        refine ⟨hpersists.spawnAttempted, hpersists.child, ?_, hpersists.state⟩
        intro hgave
        simp [hpersists.gaveUp hgave]
      · cases hmove
  | revocationReturns ok =>
      simp only [processMachine, ControlledWorktreeProcess.revocationReturns,
        ControlledWorktreeProcess.revocationReturned] at hmove
      grind [Keeps]
  | stateRead ok =>
      simp only [processMachine, ControlledWorktreeProcess.stateRead] at hmove
      have hrequests (state : WorktreeExecutionState) :=
        Keeps.record ok .StopRequested { h with state }
      have hrecords (d : StopDisposition) (state : WorktreeExecutionState) :=
        Keeps.recordTarget ok d { h with state }
      grind [Keeps]
  | stopRequestRecorded ok =>
      simp only [processMachine, ControlledWorktreeProcess.stopRequestRecorded] at hmove
      have hrecords (d : StopDisposition) :=
        Keeps.recordTarget ok d { h with state := .StopRequested }
      grind [Keeps]
  | stateRecorded =>
      simp only [processMachine, ControlledWorktreeProcess.stateRecorded] at hmove
      grind [Keeps]
  | logged written ok =>
      simp only [processMachine, ControlledWorktreeProcess.logged] at hmove
      have hpersists := Keeps.persistRevocation ok h
      grind [Keeps]
  | revocationConfirmed =>
      simp only [processMachine, ControlledWorktreeProcess.revocationConfirmed,
        ControlledWorktreeProcess.revocationReturned] at hmove
      grind [Keeps]
  | leaseRead read held ok =>
      simp only [processMachine, ControlledWorktreeProcess.leaseRead] at hmove
      have hrelease (receipt : ExecutionRecord) := @release_of_some ok h.receipt receipt
      grind [Keeps]
  | leaseReleased expired =>
      simp only [processMachine, ControlledWorktreeProcess.leaseReleased] at hmove
      grind [Keeps]
  | settlementEnds =>
      simp only [processMachine, ControlledWorktreeProcess.settlementEnds] at hmove
      have hrevokes := Keeps.revoke .persistenceFailed { h with settlement := .idle, retry := true }
      grind [Keeps]
  | retryFires =>
      simp only [processMachine, ControlledWorktreeProcess.retryFires] at hmove
      have hdrains := Keeps.drain h
      grind [Keeps]

theorem ReleaseInv.step (e : ProcessEvent) (hr : ReleaseInv h)
    (hallowed : e.stops = true → h.AwaitsCheck → h.revocationReason.isSome = true)
    (hmove : processMachine e h = some h') : ReleaseInv h' := by
  have hsame : Quiet h h := Quiet.refl h
  cases e with
  | launch outcome => exact hr.of_quiet (Quiet.launch (hallowed rfl) hmove)
  | runningRecorded aborted =>
      simp only [processMachine, ControlledWorktreeProcess.runningRecorded] at hmove
      split at hmove
      · have hstarted : Quiet h { h with state := .Running, start := .started } :=
          ⟨.inl rfl, fun _ => rfl, rfl, id, rfl, id⟩
        cases hmove
        cases aborted with
        | true => exact hr.of_quiet (hstarted.trans (Quiet.stop _ (hallowed rfl)))
        | false => exact hr.of_quiet hstarted
      · cases hmove
        exact hr.of_quiet ⟨.inl rfl, fun _ => rfl, rfl, id, rfl, id⟩
      · cases hmove
  | startFails =>
      simp only [processMachine, ControlledWorktreeProcess.startFails] at hmove
      split at hmove
      · have hfailed : Quiet h { h with start := .failed } :=
          ⟨.inl rfl, fun _ => rfl, rfl, id, rfl, id⟩
        cases hmove
        exact hr.of_quiet (hfailed.trans (Quiet.stop _ (hallowed rfl)))
      · cases hmove
  | stop reason =>
      cases hmove
      exact hr.of_quiet (Quiet.stop reason (hallowed rfl))
  | finish inTime =>
      simp only [processMachine, ControlledWorktreeProcess.finish] at hmove
      split at hmove
      · cases hmove
      · split at hmove
        · cases hmove
          exact hr
        · cases hmove
          exact hr.of_quiet (Quiet.drain h)
  | childCloses evidence =>
      simp only [processMachine, ControlledWorktreeProcess.childCloses] at hmove
      split at hmove
      · cases hmove
        exact hr.of_quiet ⟨.inl rfl, fun _ => rfl, rfl, id, rfl, id⟩
      · cases hmove
  | graceEnds observed forced =>
      simp only [processMachine, ControlledWorktreeProcess.graceEnds] at hmove
      split at hmove
      · cases hmove
      · split at hmove
        · cases hmove
          exact hr.of_quiet ⟨.inl rfl, fun _ => rfl, rfl, id, rfl, id⟩
        · split at hmove <;> cases hmove <;>
            exact hr.of_quiet ⟨.inl rfl, fun _ => rfl, rfl, id, rfl, id⟩
  | forceEnds observed =>
      simp only [processMachine, ControlledWorktreeProcess.forceEnds] at hmove
      split at hmove
      · cases hmove
      · cases hmove
        exact hr.of_quiet ⟨.inl rfl, fun _ => rfl, rfl, id, rfl, id⟩
  | authorityRevoked =>
      cases hmove
      exact hr.of_quiet ⟨.inl rfl, fun _ => rfl, rfl, fun _ => rfl, rfl, id⟩
  | stopSettled ok =>
      simp only [processMachine, ControlledWorktreeProcess.stopSettled] at hmove
      split at hmove
      · rename_i initial hawaiting hended
        have hwaits : ¬ h.AwaitsCheck := by simp [AwaitsCheck, hawaiting]
        generalize (if h.closeEvidence.isSome then h.observedStopState else initial) = d at hmove
        have hrevoked : ReleaseInv (if d = .StopConfirmed then h else h.revoke .notConfirmed) := by
          split
          · exact hr
          · exact hr.of_quiet (Quiet.revoke _ fun hgap => absurd hgap hwaits)
        have hpersisted := hrevoked.persistRevocation ok
        obtain ⟨hsucceeded, -⟩ := persistRevocation_call ok
          (if d = .StopConfirmed then h else h.revoke .notConfirmed)
        cases hmove
        refine ⟨hpersisted.durably, ?_, by simp, by simp [AwaitsCheck], by simp,
          hpersisted.released⟩
        intro e hreturning
        simp only [Settlement.revoking.injEq] at hreturning
        exact hsucceeded hreturning.2
      · cases hmove
  | revocationReturns ok =>
      simp only [processMachine, ControlledWorktreeProcess.revocationReturns] at hmove
      split at hmove
      · cases hmove
        exact hr.of_quiet ⟨.inr rfl, fun _ => rfl, rfl, id, rfl, id⟩
      · rename_i d call hsucceeded hrevoking
        have hcall : call = .succeeded → h.receipt.authorityRevoked = true := by
          rintro rfl
          exact hr.returning d hrevoking
        split at hmove
        · cases hmove
          exact hr.revocationReturned call hcall (.inl rfl)
        · cases hmove
          exact hr.revocationReturned call hcall (.inl rfl)
      · cases hmove
  | stateRead ok => exact hr.of_quiet (Quiet.stateRead hmove)
  | stopRequestRecorded ok =>
      simp only [processMachine, ControlledWorktreeProcess.stopRequestRecorded] at hmove
      split at hmove
      · cases hmove
        exact hr.of_quiet ⟨.inr rfl, fun _ => rfl, rfl, id, rfl, id⟩
      · have hrequested : Quiet h { h with state := .StopRequested } :=
          ⟨.inl rfl, fun _ => rfl, rfl, id, rfl, id⟩
        cases hmove
        exact hr.of_quiet (hrequested.trans (Quiet.recordTarget ok _ _))
      · cases hmove
  | stateRecorded =>
      simp only [processMachine, ControlledWorktreeProcess.stateRecorded] at hmove
      split at hmove <;> cases hmove <;>
        exact hr.of_quiet ⟨.inr rfl, fun _ => rfl, rfl, id, rfl, id⟩
  | logged written ok =>
      simp only [processMachine, ControlledWorktreeProcess.logged] at hmove
      split at hmove
      · cases hmove
      · split at hmove
        · cases hmove
          exact hr.of_quiet ⟨.inr rfl, fun _ => rfl, rfl, id, rfl, id⟩
        · have hpersisted := hr.persistRevocation ok
          obtain ⟨hsucceeded, hskipped⟩ := persistRevocation_call ok h
          cases hmove
          exact ⟨hpersisted.durably, by simp,
            fun hcall => hsucceeded (by simpa using hcall),
            fun hgap => hskipped (by simpa [AwaitsCheck] using hgap), by simp,
            hpersisted.released⟩
  | revocationConfirmed =>
      simp only [processMachine, ControlledWorktreeProcess.revocationConfirmed] at hmove
      split at hmove
      · cases hmove
        exact hr.of_quiet ⟨.inr rfl, fun _ => rfl, rfl, id, rfl, id⟩
      · rename_i call hsucceeded hconfirming
        have hcall : call = .succeeded → h.receipt.authorityRevoked = true := by
          rintro rfl
          exact hr.returningAgain hconfirming
        split at hmove
        · rename_i hreleases
          cases hmove
          apply hr.revocationReturned call hcall (.inr ⟨rfl, ?_⟩)
          cases call with
          | succeeded => exact hcall rfl
          | failed => exact absurd rfl hsucceeded
          | skipped => exact hr.durably (hr.skipped hconfirming hreleases.1)
        · cases hmove
          exact hr.revocationReturned call hcall (.inl rfl)
      · cases hmove
  | leaseRead read held ok =>
      simp only [processMachine, ControlledWorktreeProcess.leaseRead] at hmove
      split at hmove
      · cases hmove
      · rename_i hreading
        have hrevoked := hr.leasing (not_not.mp hreading)
        split at hmove
        · cases hmove
          exact hr.of_quiet ⟨.inr rfl, fun _ => rfl, rfl, id, rfl, id⟩
        · split at hmove
          · cases hmove
            exact hr.of_quiet ⟨.inr rfl, fun _ => rfl, rfl, id, rfl, id⟩
          · split at hmove
            · rename_i receipt hreleased
              obtain ⟨hstopped, rfl⟩ := release_of_some hreleased
              cases hmove
              exact ⟨fun _ => hrevoked, by simp, by simp, by simp [AwaitsCheck], by simp,
                fun _ => ⟨hrevoked, hstopped⟩⟩
            · cases hmove
              exact hr.of_quiet ⟨.inr rfl, fun _ => rfl, rfl, id, rfl, id⟩
  | leaseReleased expired =>
      simp only [processMachine, ControlledWorktreeProcess.leaseReleased] at hmove
      split at hmove
      · cases hmove
        exact hr.of_quiet ⟨.inr rfl, fun _ => rfl, rfl, id, rfl, id⟩
      · cases hmove
  | settlementEnds =>
      simp only [processMachine, ControlledWorktreeProcess.settlementEnds] at hmove
      split at hmove
      · cases hmove
        exact hr.of_quiet ⟨.inr rfl, fun _ => rfl, rfl, id, rfl, id⟩
      · have hidle : Quiet h { h with settlement := .idle, retry := true } :=
          ⟨.inr rfl, (fun hgap => by cases hgap), rfl, id, rfl, id⟩
        cases hmove
        exact hr.of_quiet (hidle.trans (Quiet.revoke _ fun hgap => by cases hgap))
      · cases hmove
  | retryFires =>
      simp only [processMachine, ControlledWorktreeProcess.retryFires] at hmove
      split at hmove
      · cases hmove
        exact hr.of_quiet (Quiet.drain h)
      · cases hmove

/-! ## The whole run -/

/-- What the record of a stop says, and what led to it. -/
structure StopHonest (h : ControlledWorktreeProcess) : Prop where
  /-- A stop on record is the observed close of the child, or there never was one. -/
  stopped : isStopped h.receipt.state = true → h.Gone
  /-- Every other settled case is on record as `Uncertain`. -/
  settled : h.durablySettled = true → ¬ h.Gone → h.receipt.state = .Uncertain
  stopOnce : h.stopRequests ≤ 1
  forceOnce : h.forceRequests ≤ 1
  released : h.receipt.leaseReleased = true →
    h.receipt.authorityRevoked = true ∧ isStopped h.receipt.state = true

/-- What a later state of the handle owes to an earlier one. -/
structure StaysHonest (h h' : ControlledWorktreeProcess) : Prop where
  /-- After a stop is on record no child is spawned. -/
  noSpawn : isStopped h.receipt.state = true →
    h'.spawnAttempted = h.spawnAttempted ∧ h'.child = h.child
  /-- `Uncertain` on record gives way only to a close that the handle observed after it had
  settled on `Uncertain`. -/
  upgraded : h.receipt.state = .Uncertain → h'.receipt.state ≠ .Uncertain →
    isStopped h'.receipt.state = true ∧ h'.closedLater = true

theorem Inv.honest (hi : Inv h) (hr : ReleaseInv h) : StopHonest h where
  stopped := hi.stopped
  settled hsettled hgone := by
    cases hi.settled hsettled with
    | inl hstopped => exact absurd (hi.stopped hstopped) hgone
    | inr huncertain => exact huncertain
  stopOnce := hi.stopOnce.1
  forceOnce := hi.forceOnce.1
  released := hr.released

/-- A launch after the stop has begun spawns nothing. -/
theorem launch_keeps {outcome : LaunchOutcome} (hi : Inv h)
    (hstopped : isStopped h.receipt.state = true) (hmove : h.launch outcome = some h') :
    Keeps h h' := by
  have hbegun := hi.begun (hi.stopping hstopped)
  unfold ControlledWorktreeProcess.launch at hmove
  split at hmove
  · cases hmove
  · rename_i hcreated
    have hrevoked : h.revocationReason.isSome = true := hbegun.resolve_right hcreated
    rw [if_pos (.inl hrevoked)] at hmove
    cases hmove
    have hfailed : Keeps h { h with start := .failed } := ⟨rfl, rfl, id, Settles.refl _⟩
    exact hfailed.trans (Keeps.stop _ _)

/-- What one event owes to the state before it. -/
structure Advances (h h' : ControlledWorktreeProcess) : Prop where
  spawn : isStopped h.receipt.state = true →
    h'.spawnAttempted = h.spawnAttempted ∧ h'.child = h.child
  gaveUp : h.gaveUp = true → h'.gaveUp = true
  state : Settles h.receipt.state h'.receipt.state

theorem Advances.refl (h : ControlledWorktreeProcess) : Advances h h :=
  ⟨fun _ => ⟨rfl, rfl⟩, id, Settles.refl _⟩

theorem Advances.trans {h'' : ControlledWorktreeProcess} (hfirst : Advances h h')
    (hsecond : Advances h' h'') : Advances h h'' where
  spawn hstopped := by
    have hstays := hfirst.state.stopped hstopped
    obtain ⟨hspawn, hchild⟩ := hfirst.spawn hstopped
    obtain ⟨hspawn', hchild'⟩ := hsecond.spawn (hstays ▸ hstopped)
    exact ⟨hspawn'.trans hspawn, hchild'.trans hchild⟩
  gaveUp hgave := hsecond.gaveUp (hfirst.gaveUp hgave)
  state := hfirst.state.trans hsecond.state

theorem Keeps.advances (hkeeps : Keeps h h') : Advances h h' :=
  ⟨fun _ => ⟨hkeeps.spawnAttempted, hkeeps.child⟩, hkeeps.gaveUp, hkeeps.state⟩

theorem launch_advances {outcome : LaunchOutcome} (hi : Inv h)
    (hmove : h.launch outcome = some h') : Advances h h' := by
  have hspawn (hstopped : isStopped h.receipt.state = true) := launch_keeps hi hstopped hmove
  have hstops (spawnAttempted child : Bool) :=
    Keeps.stop .startFailed { h with spawnAttempted, child, start := .failed }
  suffices hrest : (h.gaveUp = true → h'.gaveUp = true) ∧
      Settles h.receipt.state h'.receipt.state by
    exact ⟨fun hstopped => ⟨(hspawn hstopped).spawnAttempted, (hspawn hstopped).child⟩,
      hrest.1, hrest.2⟩
  unfold ControlledWorktreeProcess.launch at hmove
  split at hmove
  · cases hmove
  · split at hmove
    · cases hmove
      exact ⟨(hstops _ _).gaveUp, (hstops _ _).state⟩
    · split at hmove
      · cases hmove
        exact ⟨(hstops _ _).gaveUp, (hstops _ _).state⟩
      · cases outcome with
        | refused | notSpawned =>
            cases hmove
            exact ⟨(hstops _ _).gaveUp, (hstops _ _).state⟩
        | spawned pid committed ok =>
            dsimp only at hmove
            split at hmove
            · cases hmove
              exact ⟨(hstops _ _).gaveUp, (hstops _ _).state⟩
            · split at hmove
              · cases hmove
                exact ⟨id, Settles.refl _⟩
              · have hrecords :=
                  Keeps.record ok .Running { h with spawnAttempted := true, child := true }
                cases hmove
                exact ⟨hrecords.gaveUp, hrecords.state⟩

theorem step_advances (e : ProcessEvent) (hi : Inv h) (hmove : processMachine e h = some h') :
    Advances h h' := by
  by_cases hlaunch : ∃ outcome, e = .launch outcome
  · obtain ⟨outcome, rfl⟩ := hlaunch
    exact launch_advances hi hmove
  · exact (step_keeps e (fun outcome he => hlaunch ⟨outcome, he⟩) hmove).advances

theorem Inv.runs {allowed : ProcessEvent → ControlledWorktreeProcess → Prop} (hi : Inv h)
    (hrun : processMachine.Runs allowed h h') : Inv h' ∧ Advances h h' := by
  induction hrun with
  | refl => exact ⟨hi, Advances.refl h⟩
  | tail e _ _ hmove ih =>
      obtain ⟨hinv, hadvances⟩ := ih
      exact ⟨hinv.step e hmove, hadvances.trans (step_advances e hinv hmove)⟩

theorem Inv.staysHonest (hi : Inv h) (hi' : Inv h') (hadvances : Advances h h') :
    StaysHonest h h' where
  noSpawn := hadvances.spawn
  upgraded huncertain hleft := by
    have hstopped := (hadvances.state.uncertain huncertain).resolve_left hleft
    exact ⟨hstopped, hi'.upgraded (hadvances.gaveUp (hi.uncertain huncertain)) hstopped⟩

end ControlledWorktreeProcess

/-- The first revocation of a handle does not fall between the second call of
`#persistRevocation`, which then has nothing to persist, and the check before the release. -/
def RevokesInTime (e : ProcessEvent) (h : ControlledWorktreeProcess) : Prop :=
  e.stops = true → h.AwaitsCheck → h.revocationReason.isSome = true

instance (e : ProcessEvent) (h : ControlledWorktreeProcess) : Decidable (RevokesInTime e h) :=
  inferInstanceAs (Decidable (_ → _ = _ → _))

/-- A handle that is revoked in time is honest about its stop, now and later on. -/
theorem process_stop_honest (h : ControlledWorktreeProcess)
    (hrun : processMachine.Runs RevokesInTime {} h) :
    h.StopHonest ∧ ∀ h', processMachine.Runs RevokesInTime h h' → h.StaysHonest h' := by
  obtain ⟨hi, -⟩ := ControlledWorktreeProcess.Inv.fresh.runs hrun
  have hr : h.ReleaseInv := hrun.invariant ControlledWorktreeProcess.ReleaseInv.fresh
    fun e _ _ hr hallowed hmove => hr.step e hallowed hmove
  refine ⟨hi.honest hr, ?_⟩
  intro h' hlater
  obtain ⟨hi', hadvances⟩ := hi.runs hlater
  exact hi.staysHonest hi' hadvances

/-- A child that ends by itself is drained; the handle is stopped after that. -/
def drainedThenStopped : List ProcessEvent :=
  [.launch (.spawned true true true), .runningRecorded false, .finish true,
    .childCloses { code := some 0, signal := none, error := none }, .graceEnds true false,
    .stopSettled true, .revocationReturns true, .stateRead true, .stopRequestRecorded true,
    .stateRecorded, .logged true true, .revocationConfirmed, .settlementEnds,
    .stop .scopeClosed, .stopSettled true, .revocationReturns true, .logged true true,
    .revocationConfirmed, .leaseRead true true true, .leaseReleased false]

theorem drainedThenStopped_stop_honest :
    ∃ h, processMachine.play drainedThenStopped {} = some h ∧
      h.receipt.leaseReleased = true ∧ h.StopHonest :=
  ⟨_, rfl, rfl, (process_stop_honest _ (.of_play drainedThenStopped (by rfl))).1⟩

/-- The same child, with the stop between the second revocation and the check after it. -/
def stoppedAtCheck : List ProcessEvent :=
  [.launch (.spawned true true true), .runningRecorded false, .finish true,
    .childCloses { code := some 0, signal := none, error := none }, .graceEnds true false,
    .stopSettled true, .revocationReturns true, .stateRead true, .stopRequestRecorded true,
    .stateRecorded, .logged true true, .stop .cancellation, .revocationConfirmed,
    .leaseRead true true true]

/-- A stop at that point releases the lease of an execution that is not durably revoked. -/
theorem stoppedAtCheck_releases_unrevoked :
    ¬ ∀ h, processMachine.Runs (fun _ _ => True) {} h → h.StopHonest := by
  intro hall
  have hplay : ∃ h, (processMachine.guarded fun _ _ => True).play stoppedAtCheck {} = some h ∧
      h.receipt.leaseReleased = true ∧ h.receipt.authorityRevoked = false :=
    ⟨_, rfl, rfl, rfl⟩
  obtain ⟨h, hplay, hreleased, hunrevoked⟩ := hplay
  have hrevoked := ((hall h (.of_play stoppedAtCheck hplay)).released hreleased).1
  rw [hunrevoked] at hrevoked
  cases hrevoked

end Torsor.AgentRuntime
