import Torsor.Kernel.PhysicalWorktrees
import Torsor.Library.Machine

/-! # The handle of a controlled child

A handle owns one execution of a Worktree from its durable intent on: it starts the child,
stops it, and makes the outcome durable. Every event below is what runs between two points
where the source awaits something; a Kernel call commits, or fails, where it is made, and the
handle learns of it in a later event.
-/

namespace Torsor.AgentRuntime

open Torsor.Library Torsor.Kernel

/-! ## The durable execution -/

/-- What the Kernel has on record of the execution and of its lease. -/
structure ExecutionRecord where
  state : WorktreeExecutionState := .Starting
  authorityRevoked : Bool := false
  /-- The handle has released the writer lease. -/
  leaseReleased : Bool := false
  deriving DecidableEq, Repr

namespace ExecutionRecord

/-- `RecordWorktreeExecution`, with the publication authority preserved. -/
def record (state : WorktreeExecutionState) (r : ExecutionRecord) : Option ExecutionRecord :=
  if state ∈ allowedExecutionStates r.state then
    some { r with
      state
      authorityRevoked := r.authorityRevoked || state = .Uncertain || state = .ForceTerminated }
  else none

/-- `RevokeWorktreeExecutionAuthority`. -/
def revoke (r : ExecutionRecord) : ExecutionRecord := { r with authorityRevoked := true }

/-- `ReleaseWorktreeWriterLease`: the Worktree must be idle. -/
def release (r : ExecutionRecord) : Option ExecutionRecord :=
  if isStopped r.state then some { r with leaseReleased := true } else none

end ExecutionRecord

/-! ## The handle -/

structure ChildCloseEvidence where
  code : Option Int
  signal : Option String
  error : Option String
  deriving DecidableEq, Repr

inductive StopDisposition where
  | StopConfirmed | ForceTerminated | Uncertain
  deriving DecidableEq, Repr

def StopDisposition.state : StopDisposition → WorktreeExecutionState
  | .StopConfirmed => .StopConfirmed
  | .ForceTerminated => .ForceTerminated
  | .Uncertain => .Uncertain

inductive StopReason where
  | cancellation | deadline | authorityLoss | scopeClosed | startFailed | executionFailed
  | reconciliation | notConfirmed | persistenceFailed
  deriving DecidableEq, Repr

/-- Where `#start` of the executor awaits. -/
inductive StartPhase where
  | created
  /-- The record `Running`, which the Kernel has accepted or not. -/
  | recording (ok : Bool)
  /-- The promise of `running` is rejected. -/
  | failing
  | started | failed
  deriving DecidableEq, Repr

/-- Where `#stopProcess` awaits the close of the child, or what it has returned. -/
inductive PhysicalStop where
  | notBegun | requested | forced
  | ended (disposition : StopDisposition)
  deriving DecidableEq, Repr

/-- What a call of `#persistRevocation` has done. -/
inductive RevocationCall where
  | skipped | succeeded | failed
  deriving DecidableEq, Repr

/-- Where `#persistStop` awaits, with what it holds there. -/
inductive Settlement where
  | idle | awaitingStop
  | revoking (target : StopDisposition) (call : RevocationCall)
  | reading (target : StopDisposition) (read : Option WorktreeExecutionState)
  | requesting (target : StopDisposition) (ok : Bool)
  | recording (target : StopDisposition) (ok : Bool)
  | logging
  | revokingAgain (call : RevocationCall)
  | readingLease
  | releasing (ok : Bool)
  | ended (ok : Bool)
  deriving DecidableEq, Repr

structure ControlledWorktreeProcess where
  start : StartPhase := .created
  spawnAttempted : Bool := false
  /-- The original child is attached. -/
  child : Bool := false
  closeEvidence : Option ChildCloseEvidence := none
  stopSent : Bool := false
  forceSent : Bool := false
  forced : Bool := false
  /-- The calls of `requestStop` and of `forceStop` on the child. -/
  stopRequests : Nat := 0
  forceRequests : Nat := 0
  physicalStop : PhysicalStop := .notBegun
  settlement : Settlement := .idle
  state : WorktreeExecutionState := .Starting
  /-- There is a revocation reason. -/
  revocationReason : Option StopReason := none
  durablyRevoked : Bool := false
  durablySettled : Bool := false
  /-- A retry of the settlement is scheduled. -/
  retry : Bool := false
  receipt : ExecutionRecord := {}
  /-- The settlement has resolved on `Uncertain`, and a close was observed later. -/
  gaveUp : Bool := false
  closedLater : Bool := false
  deriving DecidableEq, Repr

namespace ControlledWorktreeProcess

/-- The first reason stays. -/
def revoke (reason : StopReason) (h : ControlledWorktreeProcess) : ControlledWorktreeProcess :=
  if h.revocationReason.isSome then h else { h with revocationReason := some reason }

def observedStopState (h : ControlledWorktreeProcess) : StopDisposition :=
  if h.forced ∨ h.closeEvidence.any (·.signal.isSome) then .ForceTerminated else .StopConfirmed

/-- `#stopProcess` up to where it awaits a close. A request that throws leaves a text. -/
def stopProcess (h : ControlledWorktreeProcess) : ControlledWorktreeProcess :=
  if ¬ h.child then
    { h with physicalStop := .ended (if h.spawnAttempted then .Uncertain else .StopConfirmed) }
  else if h.closeEvidence.isSome then { h with physicalStop := .ended h.observedStopState }
  else if h.stopSent then { h with physicalStop := .requested }
  else
    { h with stopSent := true, stopRequests := h.stopRequests + 1, physicalStop := .requested }

def drain (h : ControlledWorktreeProcess) : ControlledWorktreeProcess :=
  let h := { h with retry := false }
  let h := if h.physicalStop = .notBegun then h.stopProcess else h
  if h.settlement = .idle then { h with settlement := .awaitingStop } else h

def stop (reason : StopReason) (h : ControlledWorktreeProcess) : ControlledWorktreeProcess :=
  (h.revoke reason).drain

/-- The handle calls the Kernel, which accepts the record unless something fails. -/
def record (ok : Bool) (state : WorktreeExecutionState) (h : ControlledWorktreeProcess) :
    ControlledWorktreeProcess × Bool :=
  match if ok then h.receipt.record state else none with
  | some receipt => ({ h with receipt }, true)
  | none => (h, false)

def persistRevocation (ok : Bool) (h : ControlledWorktreeProcess) :
    ControlledWorktreeProcess × RevocationCall :=
  if h.revocationReason.isNone ∨ h.durablyRevoked then (h, .skipped)
  else if ok then ({ h with receipt := h.receipt.revoke }, .succeeded)
  else (h, .failed)

/-- The flag a successful revocation sets on its return. -/
def revocationReturned (call : RevocationCall) (h : ControlledWorktreeProcess) :
    ControlledWorktreeProcess :=
  { h with durablyRevoked := h.durablyRevoked || call = .succeeded }

end ControlledWorktreeProcess

/-! ## Events -/

/-- What becomes of the step of `#start` that spawns the child. -/
inductive LaunchOutcome where
  /-- A check throws before `spawning`. -/
  | refused
  /-- The driver throws. -/
  | notSpawned
  /-- The child is attached; its process may lack an identity, the lock of the Kernel may be
  lost, and the record `Running` may fail. -/
  | spawned (pid committed ok : Bool)
  deriving DecidableEq, Repr

inductive ProcessEvent where
  | launch (outcome : LaunchOutcome)
  /-- `running` goes on, or fails, after its record. -/
  | runningRecorded (aborted : Bool)
  | startFails
  | stop (reason : StopReason)
  | finish (inTime : Bool)
  | childCloses (evidence : ChildCloseEvidence)
  /-- The wait for a close ends, with the close or without; the force signal may fail. -/
  | graceEnds (observed forced : Bool)
  | forceEnds (observed : Bool)
  /-- The Kernel revokes the authority on its own. -/
  | authorityRevoked
  | stopSettled (ok : Bool)
  | revocationReturns (ok : Bool)
  | stateRead (ok : Bool)
  | stopRequestRecorded (ok : Bool)
  | stateRecorded
  | logged (written ok : Bool)
  | revocationConfirmed
  | leaseRead (read held ok : Bool)
  /-- A failed release is no failure once the lease is Expired. -/
  | leaseReleased (expired : Bool)
  | settlementEnds
  | retryFires
  deriving DecidableEq, Repr

namespace ControlledWorktreeProcess

/-- The last step of `#start` before it awaits, from the checks on to `running`. -/
def launch (outcome : LaunchOutcome) (h : ControlledWorktreeProcess) :
    Option ControlledWorktreeProcess :=
  if h.start ≠ .created then none
  else if h.revocationReason.isSome ∨ outcome = .refused then
    some ({ h with start := .failed }.stop .startFailed)
  else if h.spawnAttempted ∨ h.state ≠ .Starting then
    some ({ h with start := .failed }.stop .startFailed)
  else
    match outcome with
    | .refused | .notSpawned =>
        some ({ h with spawnAttempted := true, start := .failed }.stop .startFailed)
    | .spawned pid committed ok =>
        let h := { h with spawnAttempted := true, child := true }
        if ¬ committed then some ({ h with start := .failed }.stop .startFailed)
        else if ¬ pid then some { h with start := .failing }
        else
          let (h, recorded) := h.record ok .Running
          some { h with start := .recording recorded }

def runningRecorded (aborted : Bool) (h : ControlledWorktreeProcess) :
    Option ControlledWorktreeProcess :=
  match h.start with
  | .recording true =>
      let h := { h with state := .Running, start := .started }
      some (if aborted then h.stop .cancellation else h)
  | .recording false => some { h with start := .failing }
  | _ => none

def startFails (h : ControlledWorktreeProcess) : Option ControlledWorktreeProcess :=
  if h.start = .failing then some ({ h with start := .failed }.stop .startFailed) else none

/-- `finish`, by the holder of a started handle; a revoked or late one throws. -/
def finish (inTime : Bool) (h : ControlledWorktreeProcess) : Option ControlledWorktreeProcess :=
  if h.start ≠ .started then none
  else if h.revocationReason.isSome ∨ ¬ inTime then some h
  else some h.drain

def childCloses (evidence : ChildCloseEvidence) (h : ControlledWorktreeProcess) :
    Option ControlledWorktreeProcess :=
  if h.child ∧ h.closeEvidence.isNone then
    some { h with closeEvidence := some evidence, closedLater := h.gaveUp }
  else none

/-- A wait that ends without the close has run out, or its observation has failed. -/
def graceEnds (observed forced : Bool) (h : ControlledWorktreeProcess) :
    Option ControlledWorktreeProcess :=
  if h.physicalStop ≠ .requested ∨ (observed ∧ h.closeEvidence.isNone) then none
  else if observed then some { h with physicalStop := .ended h.observedStopState }
  else if h.forceSent then some { h with physicalStop := .forced }
  else
    some { h with
      forceSent := true
      forceRequests := h.forceRequests + 1
      forced
      physicalStop := .forced }

def forceEnds (observed : Bool) (h : ControlledWorktreeProcess) :
    Option ControlledWorktreeProcess :=
  if h.physicalStop ≠ .forced ∨ (observed ∧ h.closeEvidence.isNone) then none
  else
    some { h with
      physicalStop := .ended (if observed then h.observedStopState else .Uncertain) }

def stopSettled (ok : Bool) (h : ControlledWorktreeProcess) : Option ControlledWorktreeProcess :=
  match h.settlement, h.physicalStop with
  | .awaitingStop, .ended initial =>
      let target := if h.closeEvidence.isSome then h.observedStopState else initial
      let h := if target = .StopConfirmed then h else h.revoke .notConfirmed
      let (h, call) := h.persistRevocation ok
      some { h with
        gaveUp := h.gaveUp || target = .Uncertain
        settlement := .revoking target call }
  | _, _ => none

/-- The state is read anew unless it is the one already settled. -/
def revocationReturns (ok : Bool) (h : ControlledWorktreeProcess) :
    Option ControlledWorktreeProcess :=
  match h.settlement with
  | .revoking _ .failed => some { h with settlement := .ended false }
  | .revoking target call =>
      let h := h.revocationReturned call
      if ¬ h.durablySettled ∨ h.state ≠ target.state then
        some { h with
          settlement := .reading target (if ok then some h.receipt.state else none) }
      else some { h with settlement := .logging }
  | _ => none

def recordTarget (ok : Bool) (target : StopDisposition) (h : ControlledWorktreeProcess) :
    ControlledWorktreeProcess :=
  let (h, recorded) := h.record ok target.state
  { h with settlement := .recording target recorded }

def stateRead (ok : Bool) (h : ControlledWorktreeProcess) : Option ControlledWorktreeProcess :=
  match h.settlement with
  | .reading _ none => some { h with settlement := .ended false }
  | .reading target (some state) =>
      let h := { h with state }
      if isStopped state ∨ state = target.state then
        some { h with durablySettled := true, settlement := .logging }
      else if h.child ∧ state ∉ [WorktreeExecutionState.StopRequested, .Uncertain] then
        let (h, recorded) := h.record ok .StopRequested
        some { h with settlement := .requesting target recorded }
      else some (h.recordTarget ok target)
  | _ => none

def stopRequestRecorded (ok : Bool) (h : ControlledWorktreeProcess) :
    Option ControlledWorktreeProcess :=
  match h.settlement with
  | .requesting _ false => some { h with settlement := .ended false }
  | .requesting target true => some ({ h with state := .StopRequested }.recordTarget ok target)
  | _ => none

def stateRecorded (h : ControlledWorktreeProcess) : Option ControlledWorktreeProcess :=
  match h.settlement with
  | .recording _ false => some { h with settlement := .ended false }
  | .recording target true =>
      some { h with state := target.state, durablySettled := true, settlement := .logging }
  | _ => none

/-- Both entries of the log, and the second call of `#persistRevocation`. -/
def logged (written ok : Bool) (h : ControlledWorktreeProcess) :
    Option ControlledWorktreeProcess :=
  if h.settlement ≠ .logging then none
  else if ¬ written then some { h with settlement := .ended false }
  else
    let (h, call) := h.persistRevocation ok
    some { h with settlement := .revokingAgain call }

/-- The check that leads to the release is made here, on the state as it is by then. -/
def revocationConfirmed (h : ControlledWorktreeProcess) : Option ControlledWorktreeProcess :=
  match h.settlement with
  | .revokingAgain .failed => some { h with settlement := .ended false }
  | .revokingAgain call =>
      let h := h.revocationReturned call
      if h.revocationReason.isSome ∧ isStopped h.state then
        some { h with settlement := .readingLease }
      else some { h with settlement := .ended true }
  | _ => none

def leaseRead (read held ok : Bool) (h : ControlledWorktreeProcess) :
    Option ControlledWorktreeProcess :=
  if h.settlement ≠ .readingLease then none
  else if ¬ read then some { h with settlement := .ended false }
  else if ¬ held then some { h with settlement := .ended true }
  else
    match if ok then h.receipt.release else none with
    | some receipt => some { h with receipt, settlement := .releasing true }
    | none => some { h with settlement := .releasing false }

def leaseReleased (expired : Bool) (h : ControlledWorktreeProcess) :
    Option ControlledWorktreeProcess :=
  match h.settlement with
  | .releasing ok => some { h with settlement := .ended (ok || expired) }
  | _ => none

def settlementEnds (h : ControlledWorktreeProcess) : Option ControlledWorktreeProcess :=
  match h.settlement with
  | .ended true => some { h with settlement := .idle }
  | .ended false =>
      some ({ h with settlement := .idle, retry := true }.revoke .persistenceFailed)
  | _ => none

def retryFires (h : ControlledWorktreeProcess) : Option ControlledWorktreeProcess :=
  if h.retry then some h.drain else none

end ControlledWorktreeProcess

def processMachine : Machine ProcessEvent ControlledWorktreeProcess
  | .launch outcome => ControlledWorktreeProcess.launch outcome
  | .runningRecorded aborted => ControlledWorktreeProcess.runningRecorded aborted
  | .startFails => ControlledWorktreeProcess.startFails
  | .stop reason => fun h => some (h.stop reason)
  | .finish inTime => ControlledWorktreeProcess.finish inTime
  | .childCloses evidence => ControlledWorktreeProcess.childCloses evidence
  | .graceEnds observed forced => ControlledWorktreeProcess.graceEnds observed forced
  | .forceEnds observed => ControlledWorktreeProcess.forceEnds observed
  | .authorityRevoked => fun h => some { h with receipt := h.receipt.revoke }
  | .stopSettled ok => ControlledWorktreeProcess.stopSettled ok
  | .revocationReturns ok => ControlledWorktreeProcess.revocationReturns ok
  | .stateRead ok => ControlledWorktreeProcess.stateRead ok
  | .stopRequestRecorded ok => ControlledWorktreeProcess.stopRequestRecorded ok
  | .stateRecorded => ControlledWorktreeProcess.stateRecorded
  | .logged written ok => ControlledWorktreeProcess.logged written ok
  | .revocationConfirmed => ControlledWorktreeProcess.revocationConfirmed
  | .leaseRead read held ok => ControlledWorktreeProcess.leaseRead read held ok
  | .leaseReleased expired => ControlledWorktreeProcess.leaseReleased expired
  | .settlementEnds => ControlledWorktreeProcess.settlementEnds
  | .retryFires => ControlledWorktreeProcess.retryFires

end Torsor.AgentRuntime
