import Mathlib.Logic.Basic
import Torsor.Library.Machine

/-! # The local host

The host runs the Runtime loop and the HTTP service on one Kernel. Its lifecycle races the
loop against a failure of the service, and cleans up when the race is over; `close` may be
called at any time and repeats a cleanup that failed. Every event below is what runs between
two points where the source awaits something.
-/

namespace Torsor.Server

open Torsor.Library

/-! ## The HTTP service -/

inductive ListenPhase where
  | none | binding | bound | failed
  deriving DecidableEq, Repr

/-- What has become of `#closePromise` of the service. -/
inductive ServiceClose where
  | none | awaitingListen | shutdown | closed | rejected
  deriving DecidableEq, Repr

structure HttpService where
  listening : ListenPhase := .none
  closing : ServiceClose := .none
  /-- The promise `failure` is rejected. -/
  failed : Bool := false
  deriving DecidableEq, Repr

namespace HttpService

/-- `close`: the first call decides, a pending bind is awaited first. -/
def close (service : HttpService) : HttpService :=
  if service.closing ≠ .none then service
  else if service.listening = .binding then { service with closing := .awaitingListen }
  else { service with closing := .shutdown }

/-- The bind settles; when it fails the service shuts down by itself. -/
def bound (ok : Bool) (service : HttpService) : HttpService :=
  { service with
    listening := if ok then .bound else .failed
    closing :=
      if service.closing = .awaitingListen ∨ (¬ ok ∧ service.closing = .none) then .shutdown
      else service.closing }

/-- `#fail`. -/
def fail (service : HttpService) : HttpService :=
  { service.close with failed := true }

end HttpService

/-! ## The host -/

inductive HostState where
  | created | starting | running | closing | closed
  deriving DecidableEq, Repr

/-- Where `#runLifecycle` awaits. -/
inductive LifecyclePhase where
  | none | recovering | listening | announcing | racing | reportingFailure | cleaning | done
  deriving DecidableEq, Repr

/-- Where `#runRuntimeLoop` awaits: a pass, or the pause after one. -/
inductive LoopPhase where
  | none | pass | pause | done
  deriving DecidableEq, Repr

/-- What has become of a promise. -/
inductive Settlement where
  | pending | fulfilled | rejected
  deriving DecidableEq, Repr

/-- One run of `#tryCloseResources`. -/
structure CleanupAttempt where
  service : Settlement
  executor : Settlement
  deriving DecidableEq, Repr

structure Host where
  /-- There is a Worktree executor. -/
  hasExecutor : Bool
  state : HostState := .created
  lifecycle : LifecyclePhase := .none
  loop : LoopPhase := .none
  /-- `#stopController` is aborted and the Runtime is stopped. -/
  stopped : Bool := false
  service : HttpService := {}
  /-- `#serviceClosePromise`, which a rejection resets. -/
  serviceClose : Option Settlement := none
  /-- A call of `close` on the executor has succeeded. -/
  executorClosed : Bool := false
  /-- `#cleanupPromise` and the attempt behind it, which a rejection resets. -/
  cleanup : Option CleanupAttempt := none
  cleanupFailed : Bool := false
  cleanupRetried : Bool := false
  kernelClosed : Bool := false
  deriving DecidableEq, Repr

namespace Host

/-- `AgentRuntime.runOnce` is in progress. -/
def passInProgress (h : Host) : Bool := h.loop = .pass

def requestStop (h : Host) : Host := { h with stopped := true }

def beginServiceClose (h : Host) : Host :=
  if h.serviceClose.isSome then h
  else { h with service := h.service.close, serviceClose := some .pending }

/-- `#tryCloseResources` up to its `allSettled`. -/
def tryCloseResources (h : Host) : Host :=
  let h := { h with state := .closing }.beginServiceClose
  { h with
    cleanup := some
      { service := h.serviceClose.getD .pending
        executor := if h.hasExecutor then .pending else .fulfilled } }

def closeResources (h : Host) : Host :=
  if h.cleanup.isSome then h else h.tryCloseResources

/-- The `finally` block of the lifecycle. -/
def finish (h : Host) : Host :=
  { ({ h with state := .closing }.requestStop).closeResources with lifecycle := .cleaning }

/-- `while (!signal.aborted) { const result = await this.#runtime.runOnce(); … }`. -/
def enterLoop (h : Host) : Host := { h with loop := if h.stopped then .done else .pass }

/-- The lifecycle goes on to listen, unless the host was closed meanwhile. -/
def afterRecovery (h : Host) : Host :=
  if h.stopped then h.finish
  else { h with lifecycle := .listening, service := { h.service with listening := .binding } }

end Host

/-! ## Events -/

inductive HostEvent where
  | start
  | close
  /-- `recover` and the log entries around it settle. -/
  | recovered (ok : Bool)
  /-- The bind of the service settles. -/
  | bound (ok : Bool)
  /-- The log entry before the race settles. -/
  | announced (ok : Bool)
  /-- The log entry of a failed start settles. -/
  | reported
  | passEnds (ok : Bool)
  /-- The pause of the loop is over, or interrupted. -/
  | pauseEnds
  | serviceFails
  /-- `Promise.race` settles. -/
  | raceSettles
  /-- `#shutdown` of the service settles. -/
  | shutdownEnds (ok : Bool)
  /-- The host takes note that the close of the service has settled. -/
  | serviceCloseSettles
  | executorCloseSettles (ok : Bool)
  /-- `allSettled` is over; the Kernel, if it comes to that, closes or throws. -/
  | cleanupSettles (ok : Bool)
  deriving DecidableEq, Repr

namespace Host

/-- `start`; a repeated call returns the promise of the first one. -/
def start (h : Host) : Option Host :=
  if h.state = .closing ∨ h.state = .closed ∨ h.lifecycle ≠ .none then some h
  else
    let h := { h with state := .starting }
    some (if h.hasExecutor then { h with lifecycle := .recovering } else h.afterRecovery)

/-- `close`, in the order of its branches. -/
def close (h : Host) : Option Host :=
  if h.cleanupFailed ∨ h.cleanupRetried then
    some { h with cleanupRetried := true }.closeResources
  else if h.state = .created then
    some ({ h with state := .closing }.requestStop).closeResources
  else if h.state ≠ .closed then
    some ({ h with state := .closing }.requestStop).beginServiceClose
  else some h

/-- A failure before the race is logged unless the service already listens. -/
def failStart (h : Host) : Host := { h with lifecycle := .reportingFailure }

def recovered (ok : Bool) (h : Host) : Option Host :=
  if h.lifecycle ≠ .recovering then none
  else if ok then some h.afterRecovery else some h.failStart

/-- The service listens, whatever was asked of the host meanwhile. -/
def listened (ok : Bool) (h : Host) : Option Host :=
  if h.lifecycle ≠ .listening then none
  else
    let h := { h with service := h.service.bound ok }
    if ok then some { h with state := .running, lifecycle := .announcing }
    else some h.failStart

def announced (ok : Bool) (h : Host) : Option Host :=
  if h.lifecycle ≠ .announcing then none
  else if ok then some { h.enterLoop with lifecycle := .racing }
  else some h.finish

def reported (h : Host) : Option Host :=
  if h.lifecycle ≠ .reportingFailure then none else some h.finish

def passEnds (ok : Bool) (h : Host) : Option Host :=
  if h.loop ≠ .pass then none
  else some { h with loop := if ok ∧ ¬ h.stopped then .pause else .done }

def pauseEnds (h : Host) : Option Host :=
  if h.loop ≠ .pause then none else some h.enterLoop

def serviceFails (h : Host) : Option Host :=
  if h.service.listening ≠ .bound ∨ h.service.failed then none
  else some { h with service := h.service.fail }

/-- The race is over when the loop is, or when the service has failed. -/
def raceSettles (h : Host) : Option Host :=
  if h.lifecycle = .racing ∧ (h.loop = .done ∨ h.service.failed) then some h.finish else none

def shutdownEnds (ok : Bool) (h : Host) : Option Host :=
  if h.service.closing ≠ .shutdown then none
  else
    some { h with
      service := { h.service with closing := if ok then .closed else .rejected } }

/-- The promise settles as the service has; the attempt that awaits it takes the result. -/
def serviceCloseSettles (h : Host) : Option Host :=
  if h.serviceClose ≠ some .pending then none
  else if h.service.closing = .closed then
    some { h with
      serviceClose := some .fulfilled
      cleanup := h.cleanup.map fun attempt => { attempt with service := .fulfilled } }
  else if h.service.closing = .rejected then
    some { h with
      serviceClose := none
      cleanup := h.cleanup.map fun attempt => { attempt with service := .rejected } }
  else none

def executorCloseSettles (ok : Bool) (h : Host) : Option Host :=
  h.cleanup.bind fun attempt =>
    if attempt.executor ≠ .pending then none
    else
      some { h with
        executorClosed := h.executorClosed || ok
        cleanup := some { attempt with executor := if ok then .fulfilled else .rejected } }

/-- The end of `#tryCloseResources`, with the handler of `#closeResources`. -/
def cleanupSettles (ok : Bool) (h : Host) : Option Host :=
  h.cleanup.bind fun attempt =>
    if attempt.service = .pending ∨ attempt.executor = .pending ∨ h.kernelClosed then none
    else
      let lifecycle := if h.lifecycle = .cleaning then .done else h.lifecycle
      if attempt.service = .fulfilled ∧ attempt.executor = .fulfilled ∧ ok then
        some { h with kernelClosed := true, cleanupFailed := false, state := .closed, lifecycle }
      else some { h with cleanup := none, cleanupFailed := true, lifecycle }

end Host

def hostMachine : Machine HostEvent Host
  | .start => Host.start
  | .close => Host.close
  | .recovered ok => Host.recovered ok
  | .bound ok => Host.listened ok
  | .announced ok => Host.announced ok
  | .reported => Host.reported
  | .passEnds ok => Host.passEnds ok
  | .pauseEnds => Host.pauseEnds
  | .serviceFails => Host.serviceFails
  | .raceSettles => Host.raceSettles
  | .shutdownEnds ok => Host.shutdownEnds ok
  | .serviceCloseSettles => Host.serviceCloseSettles
  | .executorCloseSettles ok => Host.executorCloseSettles ok
  | .cleanupSettles ok => Host.cleanupSettles ok

/-! ## Order of the shutdown -/

/-- The Kernel is closed only after the service and the executor, and under no pass. -/
structure Host.ClosesInOrder (h : Host) : Prop where
  service : h.kernelClosed = true → h.service.closing = .closed
  executor : h.kernelClosed = true → h.hasExecutor = true → h.executorClosed = true
  pass : h.kernelClosed = true → h.passInProgress = false

namespace Host

/-- What holds between the events of a host that does not leave the race under a pass. -/
structure Inv (h : Host) : Prop where
  fresh : h.state = .created → h.lifecycle = .none
  /-- The loop does not run before the race. -/
  idle : h.lifecycle ≠ .racing → h.lifecycle ≠ .cleaning → h.lifecycle ≠ .done → h.loop = .none
  /-- Once the cleanup has begun no pass is left, and none begins. -/
  quiet : h.cleanup.isSome ∨ h.cleanupFailed ∨ h.cleanupRetried ∨ h.kernelClosed →
    h.stopped = true ∧ h.loop ≠ .pass
  promise : h.serviceClose = some .fulfilled → h.service.closing = .closed
  attemptService : ∀ attempt, h.cleanup = some attempt → attempt.service = .fulfilled →
    h.service.closing = .closed
  attemptExecutor : ∀ attempt, h.cleanup = some attempt → attempt.executor = .fulfilled →
    h.hasExecutor = true → h.executorClosed = true
  closed : h.kernelClosed = true →
    h.service.closing = .closed ∧ (h.hasExecutor = true → h.executorClosed = true)

theorem Inv.created (hasExecutor : Bool) : Inv { hasExecutor } := by
  constructor <;> simp

variable {h h' : Host}

@[simp] theorem beginServiceClose_state (h : Host) : h.beginServiceClose.state = h.state := by
  unfold Host.beginServiceClose
  split <;> rfl

@[simp] theorem beginServiceClose_stopped (h : Host) :
    h.beginServiceClose.stopped = h.stopped := by
  unfold Host.beginServiceClose
  split <;> rfl

@[simp] theorem beginServiceClose_loop (h : Host) : h.beginServiceClose.loop = h.loop := by
  unfold Host.beginServiceClose
  split <;> rfl

theorem closeResources_state (hstate : h.state = .closing) : h.closeResources.state = .closing := by
  unfold Host.closeResources Host.tryCloseResources
  split
  · exact hstate
  · exact beginServiceClose_state _

/-- A service that is closed stays closed. -/
theorem close_of_closed {service : HttpService} (hclosed : service.closing = .closed) :
    service.close = service := by
  simp [HttpService.close, hclosed]

theorem Inv.beginServiceClose (hi : Inv h) : Inv h.beginServiceClose := by
  unfold Host.beginServiceClose
  split
  · exact hi
  · refine ⟨hi.fresh, hi.idle, hi.quiet, by simp, ?_, hi.attemptExecutor, ?_⟩
    · intro attempt hattempt hfulfilled
      rw [close_of_closed (hi.attemptService attempt hattempt hfulfilled)]
      exact hi.attemptService attempt hattempt hfulfilled
    · intro hclosed
      rw [close_of_closed (hi.closed hclosed).1]
      exact hi.closed hclosed

/-- The cleanup may begin once the host is stopped and no pass is in progress. -/
theorem Inv.closeResources (hi : Inv h) (hstopped : h.stopped = true) (hpass : h.loop ≠ .pass) :
    Inv h.closeResources := by
  unfold Host.closeResources
  split
  · exact hi
  · have hbegun : Inv ({ h with state := .closing }.beginServiceClose) :=
      Inv.beginServiceClose ⟨by simp, hi.idle, hi.quiet, hi.promise,
        hi.attemptService, hi.attemptExecutor, hi.closed⟩
    unfold Host.tryCloseResources
    refine ⟨hbegun.fresh, hbegun.idle, fun _ => ?_, hbegun.promise, ?_, ?_, hbegun.closed⟩
    · exact ⟨by simpa using hstopped, by simpa using hpass⟩
    · intro attempt hattempt hfulfilled
      obtain rfl := Option.some.inj hattempt
      apply hbegun.promise
      cases hpromise : ({ h with state := .closing }.beginServiceClose).serviceClose with
      | none => simp [hpromise] at hfulfilled
      | some settlement => simpa [hpromise] using hfulfilled
    · intro attempt hattempt hfulfilled hexecutor
      obtain rfl := Option.some.inj hattempt
      dsimp only at hexecutor hfulfilled
      rw [hexecutor, if_pos rfl] at hfulfilled
      cases hfulfilled

/-- The lifecycle may end once no pass is in progress. -/
theorem Inv.finish (hi : Inv h) (hpass : h.loop ≠ .pass) : Inv h.finish := by
  have hstopped : Inv ({ h with state := .closing }.requestStop) :=
    ⟨by simp [requestStop], hi.idle, fun hbegun => ⟨rfl, hpass⟩, hi.promise, hi.attemptService,
      hi.attemptExecutor, hi.closed⟩
  have hcleaned := hstopped.closeResources rfl hpass
  have hstate : ({ h with state := .closing }.requestStop).closeResources.state = .closing :=
    closeResources_state rfl
  unfold Host.finish
  exact ⟨by simp [hstate], fun _ hcleaning => absurd rfl hcleaning, hcleaned.quiet,
    hcleaned.promise, hcleaned.attemptService, hcleaned.attemptExecutor, hcleaned.closed⟩

theorem Inv.afterRecovery (hi : Inv h) (hstate : h.state ≠ .created) (hloop : h.loop = .none)
    : Inv h.afterRecovery := by
  unfold Host.afterRecovery
  split
  · exact hi.finish (by simp [hloop])
  · exact ⟨fun hfresh => absurd hfresh hstate, fun _ _ _ => hloop, hi.quiet, hi.promise,
      hi.attemptService, hi.attemptExecutor, hi.closed⟩

/-- The events that do not leave the race under a pass keep the invariant. -/
theorem Inv.step (e : HostEvent) (hi : Inv h) (hallowed : e = .raceSettles → h.loop ≠ .pass)
    (hmove : hostMachine e h = some h') : Inv h' := by
  cases e with
  | start =>
      simp only [hostMachine, Host.start] at hmove
      split at hmove
      · cases hmove
        exact hi
      · rename_i hfirst
        simp only [not_or, not_not] at hfirst
        obtain ⟨-, -, hnone⟩ := hfirst
        have hloop : h.loop = .none := hi.idle (by simp [hnone]) (by simp [hnone]) (by simp [hnone])
        have hstarting : Inv { h with state := .starting } :=
          ⟨by simp, hi.idle, hi.quiet, hi.promise, hi.attemptService, hi.attemptExecutor, hi.closed⟩
        split at hmove
        · cases hmove
          exact ⟨by simp, fun _ _ _ => hloop, hi.quiet, hi.promise, hi.attemptService,
            hi.attemptExecutor, hi.closed⟩
        · cases hmove
          exact hstarting.afterRecovery (by simp) hloop
  | close =>
      simp only [hostMachine, Host.close] at hmove
      split at hmove
      · rename_i hrepeats
        cases hmove
        obtain ⟨hstopped, hpass⟩ := hi.quiet (by
          cases hrepeats with
          | inl hfailed => exact .inr (.inl hfailed)
          | inr hretried => exact .inr (.inr (.inl hretried)))
        have hretried : Inv { h with cleanupRetried := true } :=
          ⟨hi.fresh, hi.idle, fun _ => ⟨hstopped, hpass⟩, hi.promise, hi.attemptService,
            hi.attemptExecutor, hi.closed⟩
        exact hretried.closeResources hstopped hpass
      · split at hmove
        · rename_i hcreated
          cases hmove
          have hnone := hi.fresh hcreated
          have hloop : h.loop = .none :=
            hi.idle (by simp [hnone]) (by simp [hnone]) (by simp [hnone])
          have hpass : h.loop ≠ .pass := by simp [hloop]
          have hstopped : Inv ({ h with state := .closing }.requestStop) :=
            ⟨by simp [requestStop], hi.idle, fun _ => ⟨rfl, hpass⟩, hi.promise,
              hi.attemptService, hi.attemptExecutor, hi.closed⟩
          exact hstopped.closeResources rfl hpass
        · split at hmove
          · cases hmove
            have hstopped : Inv ({ h with state := .closing }.requestStop) :=
              ⟨by simp [requestStop], hi.idle, fun hbegun => ⟨rfl, (hi.quiet hbegun).2⟩,
                hi.promise, hi.attemptService, hi.attemptExecutor, hi.closed⟩
            exact hstopped.beginServiceClose
          · cases hmove
            exact hi
  | recovered ok =>
      simp only [hostMachine, Host.recovered] at hmove
      split at hmove
      · cases hmove
      · rename_i hphase
        have hrecovering : h.lifecycle = .recovering := not_not.mp hphase
        have hloop : h.loop = .none :=
          hi.idle (by simp [hrecovering]) (by simp [hrecovering]) (by simp [hrecovering])
        have hstate : h.state ≠ .created := by
          intro hcreated
          have hnone := hi.fresh hcreated
          rw [hrecovering] at hnone
          cases hnone
        split at hmove
        · cases hmove
          exact hi.afterRecovery hstate hloop
        · cases hmove
          exact ⟨fun hcreated => absurd hcreated hstate, fun _ _ _ => hloop, hi.quiet, hi.promise,
            hi.attemptService, hi.attemptExecutor, hi.closed⟩
  | bound ok =>
      simp only [hostMachine, Host.listened] at hmove
      split at hmove
      · cases hmove
      · rename_i hphase
        have hlistening : h.lifecycle = .listening := not_not.mp hphase
        have hloop : h.loop = .none :=
          hi.idle (by simp [hlistening]) (by simp [hlistening]) (by simp [hlistening])
        have hstate : h.state ≠ .created := by
          intro hcreated
          have hnone := hi.fresh hcreated
          rw [hlistening] at hnone
          cases hnone
        have hclosed : h.service.closing = .closed → (h.service.bound ok).closing = .closed := by
          intro hclosed
          simp [HttpService.bound, hclosed]
        split at hmove
        · cases hmove
          exact ⟨by simp, fun _ _ _ => hloop, hi.quiet, fun hp => hclosed (hi.promise hp),
            fun a ha hf => hclosed (hi.attemptService a ha hf), hi.attemptExecutor,
            fun hk => ⟨hclosed (hi.closed hk).1, (hi.closed hk).2⟩⟩
        · cases hmove
          exact ⟨fun hcreated => absurd hcreated hstate, fun _ _ _ => hloop, hi.quiet,
            fun hp => hclosed (hi.promise hp),
            fun a ha hf => hclosed (hi.attemptService a ha hf), hi.attemptExecutor,
            fun hk => ⟨hclosed (hi.closed hk).1, (hi.closed hk).2⟩⟩
  | announced ok =>
      simp only [hostMachine, Host.announced] at hmove
      split at hmove
      · cases hmove
      · rename_i hphase
        have hannouncing : h.lifecycle = .announcing := not_not.mp hphase
        have hloop : h.loop = .none :=
          hi.idle (by simp [hannouncing]) (by simp [hannouncing]) (by simp [hannouncing])
        have hstate : h.state ≠ .created := by
          intro hcreated
          have hnone := hi.fresh hcreated
          rw [hannouncing] at hnone
          cases hnone
        split at hmove
        · cases hmove
          refine ⟨fun hcreated => absurd hcreated hstate, fun hracing => absurd rfl hracing, ?_,
            hi.promise, hi.attemptService, hi.attemptExecutor, hi.closed⟩
          intro hbegun
          have hstopped := (hi.quiet hbegun).1
          exact ⟨hstopped, by simp [enterLoop, hstopped]⟩
        · cases hmove
          exact hi.finish (by simp [hloop])
  | reported =>
      simp only [hostMachine, Host.reported] at hmove
      split at hmove
      · cases hmove
      · rename_i hphase
        have hreporting : h.lifecycle = .reportingFailure := not_not.mp hphase
        cases hmove
        have hloop : h.loop = .none :=
          hi.idle (by simp [hreporting]) (by simp [hreporting]) (by simp [hreporting])
        exact hi.finish (by simp [hloop])
  | passEnds ok =>
      simp only [hostMachine, Host.passEnds] at hmove
      split at hmove
      · cases hmove
      · rename_i hpass
        cases hmove
        refine ⟨hi.fresh, fun h₁ h₂ h₃ => ?_, fun hbegun => ?_, hi.promise, hi.attemptService,
          hi.attemptExecutor, hi.closed⟩
        · exact absurd (hi.idle h₁ h₂ h₃) (by simp [not_not.mp hpass])
        · exact absurd (not_not.mp hpass) (hi.quiet hbegun).2
  | pauseEnds =>
      simp only [hostMachine, Host.pauseEnds] at hmove
      split at hmove
      · cases hmove
      · rename_i hpause
        cases hmove
        refine ⟨hi.fresh, fun h₁ h₂ h₃ => ?_, fun hbegun => ?_, hi.promise, hi.attemptService,
          hi.attemptExecutor, hi.closed⟩
        · exact absurd (hi.idle h₁ h₂ h₃) (by simp [not_not.mp hpause])
        · have hstopped := (hi.quiet hbegun).1
          exact ⟨hstopped, by simp [enterLoop, hstopped]⟩
  | serviceFails =>
      simp only [hostMachine, Host.serviceFails] at hmove
      split at hmove
      · cases hmove
      · cases hmove
        have hclosed : h.service.closing = .closed → h.service.fail.closing = .closed := by
          intro hclosed
          simp [HttpService.fail, close_of_closed hclosed, hclosed]
        exact ⟨hi.fresh, hi.idle, hi.quiet, fun hp => hclosed (hi.promise hp),
          fun a ha hf => hclosed (hi.attemptService a ha hf), hi.attemptExecutor,
          fun hk => ⟨hclosed (hi.closed hk).1, (hi.closed hk).2⟩⟩
  | raceSettles =>
      simp only [hostMachine, Host.raceSettles] at hmove
      split at hmove
      · cases hmove
        exact hi.finish (hallowed rfl)
      · cases hmove
  | shutdownEnds ok =>
      simp only [hostMachine, Host.shutdownEnds] at hmove
      split at hmove
      · cases hmove
      · rename_i hphase
        have hshutdown : h.service.closing ≠ .closed := by simp [not_not.mp hphase]
        cases hmove
        exact ⟨hi.fresh, hi.idle, hi.quiet, fun hp => absurd (hi.promise hp) hshutdown,
          fun a ha hf => absurd (hi.attemptService a ha hf) hshutdown, hi.attemptExecutor,
          fun hk => absurd (hi.closed hk).1 hshutdown⟩
  | serviceCloseSettles =>
      simp only [hostMachine, Host.serviceCloseSettles] at hmove
      split at hmove
      · cases hmove
      · split at hmove
        · rename_i hclosed
          cases hmove
          refine ⟨hi.fresh, hi.idle, fun hbegun => hi.quiet (by simpa using hbegun),
            fun _ => hclosed, fun _ _ _ => hclosed, ?_, hi.closed⟩
          intro attempt hattempt hfulfilled
          obtain ⟨before, hbefore, rfl⟩ := Option.map_eq_some_iff.mp hattempt
          exact hi.attemptExecutor before hbefore hfulfilled
        · split at hmove
          · cases hmove
            refine ⟨hi.fresh, hi.idle, fun hbegun => hi.quiet (by simpa using hbegun), by simp,
              ?_, ?_, hi.closed⟩
            · intro attempt hattempt hfulfilled
              obtain ⟨before, hbefore, rfl⟩ := Option.map_eq_some_iff.mp hattempt
              cases hfulfilled
            · intro attempt hattempt hfulfilled
              obtain ⟨before, hbefore, rfl⟩ := Option.map_eq_some_iff.mp hattempt
              exact hi.attemptExecutor before hbefore hfulfilled
          · cases hmove
  | executorCloseSettles ok =>
      simp only [hostMachine, Host.executorCloseSettles] at hmove
      obtain ⟨before, hbefore, hmove⟩ := Option.bind_eq_some_iff.mp hmove
      split at hmove
      · cases hmove
      · cases hmove
        refine ⟨hi.fresh, hi.idle, fun _ => hi.quiet (.inl (by simp [hbefore])), hi.promise, ?_, ?_,
          ?_⟩
        · intro attempt hattempt hfulfilled
          obtain rfl := Option.some.inj hattempt
          exact hi.attemptService before hbefore hfulfilled
        · intro attempt hattempt hfulfilled hexecutor
          obtain rfl := Option.some.inj hattempt
          cases ok with
          | true => simp
          | false => cases hfulfilled
        · intro hk
          refine ⟨(hi.closed hk).1, fun hexecutor => ?_⟩
          simp [(hi.closed hk).2 hexecutor]
  | cleanupSettles ok =>
      simp only [hostMachine, Host.cleanupSettles] at hmove
      obtain ⟨attempt, hattempt, hmove⟩ := Option.bind_eq_some_iff.mp hmove
      have hquiet := hi.quiet (.inl (by simp [hattempt]))
      have hidle : ∀ phase : LifecyclePhase, phase = (if h.lifecycle = .cleaning then .done
          else h.lifecycle) → phase ≠ .racing → phase ≠ .cleaning → phase ≠ .done →
          h.loop = .none := by
        intro phase hphase h₁ h₂ h₃
        split at hphase
        · exact absurd hphase h₃
        · rw [hphase] at h₁ h₂ h₃
          exact hi.idle h₁ h₂ h₃
      have hfresh : h.state = .created →
          (if h.lifecycle = .cleaning then LifecyclePhase.done else h.lifecycle) = .none := by
        intro hcreated
        rw [hi.fresh hcreated]
        rfl
      split at hmove
      · cases hmove
      · split at hmove
        · rename_i hboth
          obtain ⟨hservice, hexecutor, -⟩ := hboth
          cases hmove
          exact ⟨by simp, hidle _ rfl, fun _ => hquiet, hi.promise, hi.attemptService,
            hi.attemptExecutor, fun _ => ⟨hi.attemptService attempt hattempt hservice,
              hi.attemptExecutor attempt hattempt hexecutor⟩⟩
        · cases hmove
          exact ⟨hfresh, hidle _ rfl, fun _ => hquiet, hi.promise, by simp, by simp, hi.closed⟩

theorem Inv.closesInOrder (hi : Inv h) : h.ClosesInOrder where
  service hk := (hi.closed hk).1
  executor hk := (hi.closed hk).2
  pass hk := by simp [passInProgress, (hi.quiet (.inr (.inr (.inr hk)))).2]

end Host

/-- The lifecycle does not leave the race while a Runtime pass is in progress: a failure of
the service does not interrupt one. -/
def LeavesNoPass (e : HostEvent) (h : Host) : Prop :=
  e = .raceSettles → h.passInProgress = false

instance (e : HostEvent) (h : Host) : Decidable (LeavesNoPass e h) :=
  inferInstanceAs (Decidable (_ → _))

/-- A host that never leaves the race under a pass closes the Kernel last. -/
theorem host_closes_in_order (hasExecutor : Bool) (h : Host)
    (hrun : hostMachine.Runs LeavesNoPass { hasExecutor } h) : h.ClosesInOrder := by
  apply Host.Inv.closesInOrder
  apply hrun.invariant (Host.Inv.created hasExecutor)
  intro e t t' hi hallowed hmove
  apply hi.step e ?_ hmove
  intro hrace
  simpa [Host.passInProgress] using hallowed hrace

/-- A start and a close, with the pass of the loop ending in between. -/
def orderlyShutdown : List HostEvent :=
  [.start, .bound true, .announced true, .close, .passEnds true, .raceSettles,
    .shutdownEnds true, .serviceCloseSettles, .cleanupSettles true]

theorem orderlyShutdown_closes_in_order :
    ∃ h, hostMachine.play orderlyShutdown { hasExecutor := false } = some h ∧
      h.kernelClosed = true ∧ h.ClosesInOrder :=
  ⟨_, rfl, rfl, host_closes_in_order false _
    (.of_play orderlyShutdown (by unfold Machine.guarded; rfl))⟩

/-- The service fails while the first pass is in progress. -/
def failureDuringPass : List HostEvent :=
  [.start, .bound true, .announced true, .serviceFails, .raceSettles, .shutdownEnds true,
    .serviceCloseSettles, .cleanupSettles true]

/-- A failure of the service closes the Kernel under the pass that is in progress. -/
theorem failure_closes_under_pass :
    ¬ ∀ (hasExecutor : Bool) (h : Host),
      hostMachine.Runs (fun _ _ => True) { hasExecutor } h → h.ClosesInOrder := by
  intro hall
  have hplay : ∃ h, (hostMachine.guarded fun _ _ => True).play failureDuringPass
      { hasExecutor := false } = some h ∧ h.kernelClosed = true ∧ h.passInProgress = true :=
    ⟨_, rfl, rfl, rfl⟩
  obtain ⟨h, hplay, hclosed, hpass⟩ := hplay
  have hidle := (hall false h (.of_play failureDuringPass hplay)).pass hclosed
  rw [hpass] at hidle
  cases hidle

end Torsor.Server
