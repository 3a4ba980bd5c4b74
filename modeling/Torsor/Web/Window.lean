import Torsor.Server.Sessions

/-! # The session of a window

Every window has a `WebController` of its own: a CSRF token with the Principal it was given
to, a number for its session and one for its token, and what it shows. The cookie is not
among them.
-/

namespace Torsor.Web

open Torsor.Kernel Torsor.Server

/-! ## Outcomes of requests -/

structure ApiError where
  status : Nat
  code : String
  message : String
  requestId : Bool

/-- How a request ends for the code that awaits it. -/
inductive Outcome where
  | body (body : ResponseBody)
  | apiError (error : ApiError)
  /-- Any other error: the network fails, or the body of a success cannot be read. -/
  | failure

/-- `readApiResponse`. -/
def readApiResponse (response : HttpResponse) (readable : Bool) : Outcome :=
  if 200 ≤ response.status ∧ response.status < 300 then
    if readable then .body response.body else .failure
  else
    match readable, response.body with
    | true, .error code message requestId =>
        .apiError ⟨response.status, code, message, requestId⟩
    | _, _ =>
        .apiError ⟨response.status, "request_failed",
          s!"The request failed with status {response.status}.", false⟩

def Outcome.isInvalidCsrfToken : Outcome → Bool
  | .apiError error => error.status = 403 && error.code = "invalid_csrf_token"
  | _ => false

def Outcome.isUnauthorized : Outcome → Bool
  | .apiError error => error.status = 401
  | _ => false

/-! ## Windows -/

inductive SessionState where
  | signedOut | exchanging | loading | ready | expired
  deriving DecidableEq, Repr

inductive Projection where
  | bootstrap | threads | thread | runs | run | agents | attentions
  deriving DecidableEq, Repr

/-- The two items of `sessionStorage`. -/
structure SessionStorage where
  csrf : Option String := none
  principal : Option String := none

/-- What windows tell each other about sessions. -/
inductive WindowMessage where
  | session (csrfToken principalId : String)
  | sessionCleared (session : SessionState)

structure Window where
  csrfToken : Option String := none
  principalId : Option String := none
  csrfRevision : Nat := 0
  sessionGeneration : Nat := 0
  storage : SessionStorage := {}
  session : SessionState := .signedOut
  /-- The loads whose responses each projection shows. -/
  projections : Projection → List Nat := fun _ => []

namespace Window

/-- `#setCsrfToken`. -/
def setCsrfToken (csrfToken principalId : String) (window : Window) : Window :=
  { window with
    csrfToken := some csrfToken
    principalId := some principalId
    csrfRevision := window.csrfRevision + 1
    storage := ⟨some csrfToken, some principalId⟩ }

/-- `#clearSession`. -/
def clearSession (session : SessionState) (window : Window) : Window where
  csrfToken := none
  principalId := none
  csrfRevision := window.csrfRevision + 1
  sessionGeneration := window.sessionGeneration + 1
  storage := {}
  session
  projections := fun _ => []

/-- `#bootstrap` up to its first request. -/
def beginBootstrap (window : Window) : Window :=
  { window with
    sessionGeneration := window.sessionGeneration + 1
    session := .loading
    projections := fun _ => [] }

/-- The handler of the broadcast channel. -/
def receive (message : WindowMessage) (window : Window) : Window :=
  match message with
  | .session csrfToken principalId =>
      if window.principalId.any (· ≠ principalId) then window.clearSession .expired
      else window.setCsrfToken csrfToken principalId
  | .sessionCleared session => window.clearSession session

/-- `resume` before it bootstraps, if it does. -/
def resume (window : Window) : Window :=
  match window.storage.csrf, window.storage.principal with
  | some csrfToken, some principalId =>
      (window.setCsrfToken csrfToken principalId).beginBootstrap
  | _, _ => { window with storage := {} }

/-- The check of `#request` on a response. -/
def expires (window : Window) (response : HttpResponse)
    (sessionGeneration csrfRevision : Nat) : Bool :=
  response.status = 401 && window.sessionGeneration = sessionGeneration &&
    window.csrfRevision = csrfRevision

end Window

/-! ## Loads -/

/-- The functions that read projections. -/
inductive LoadKind where
  | bootstrap | threads | thread | run | earlierRunActivity | runComposer | runs
  | attentionAndAgents | refreshBootstrap
  deriving DecidableEq, Repr

/-- What a response does to a projection: it takes its place, or is merged into it. -/
inductive Showing where
  | replaces | merges
  deriving DecidableEq, Repr

def LoadKind.shows : LoadKind → Projection → Option Showing
  | .bootstrap, .bootstrap | .bootstrap, .runs | .bootstrap, .agents | .bootstrap, .attentions =>
      some .replaces
  | .threads, .threads | .thread, .thread | .runs, .runs => some .replaces
  | .run, .run | .earlierRunActivity, .run => some .merges
  | .runComposer, .run | .runComposer, .runs | .runComposer, .threads => some .merges
  | .runComposer, .thread => some .replaces
  | .attentionAndAgents, .agents | .attentionAndAgents, .attentions => some .replaces
  | .refreshBootstrap, .bootstrap => some .replaces
  | _, _ => none

/-- The window shows what load `n` has read. -/
def Window.show (kind : LoadKind) (n : Nat) (window : Window) : Window :=
  { window with
    session := if kind = .bootstrap then .ready else window.session
    projections := fun projection =>
      match kind.shows projection with
      | some .replaces => [n]
      | some .merges => n :: window.projections projection
      | none => window.projections projection }

/-- A call of one of the functions; it may send several requests. -/
structure Load where
  window : Nat
  kind : LoadKind
  sessionGeneration : Nat
  /-- Who was signed in when it began. -/
  principalId : Option String
  settled : Bool

/-! ## Commands -/

inductive AttemptKind where
  | first | reauthenticated | retried
  deriving DecidableEq, Repr

/-- One `#sendCommand` of a `#command`. -/
structure Attempt where
  kind : AttemptKind
  sessionGeneration : Nat
  csrfRevision : Nat

/-- Where `#command` awaits. -/
inductive CommandPhase where
  | sending (attempt : Attempt) (request : Nat)
  | reading (attempt : Attempt) (response : HttpResponse)
  | awaitingRotation (outcome : Outcome)
  | rotated (outcome : Outcome) (rotated : Bool)
  | settled (outcome : Outcome)

/-- A call of `#command`. -/
structure CommandCall where
  window : Nat
  command : KernelCommand
  principalId : Option String
  sessionGeneration : Nat
  csrfRevision : Nat
  phase : CommandPhase

namespace CommandCall

/-- What `#command` takes from its window. -/
def begin (i : Nat) (window : Window) (command : KernelCommand)
    (phase : CommandPhase) : CommandCall where
  window := i
  command
  principalId := window.principalId
  sessionGeneration := window.sessionGeneration
  csrfRevision := window.csrfRevision
  phase

/-- The commands a `401` is repeated for under a newer token of the same Principal. -/
def repeatsUnauthorized (command : KernelCommand) : Bool :=
  command.type ∈ [CommandType.SendToRun, .CancelRun, .WithdrawRunInput, .EditMessage,
    .DeleteMessage, .UpdateAgentConfig, .AdoptRunConfig]

/-- The first branch of the `catch` of `#command`. -/
def reauthenticates (call : CommandCall) (window : Window) (outcome : Outcome) : Bool :=
  repeatsUnauthorized call.command && outcome.isUnauthorized &&
    window.csrfRevision ≠ call.csrfRevision && window.csrfToken.isSome &&
    window.principalId = call.principalId

/-- What follows the first attempt where it is not repeated at once. -/
def afterFirst (call : CommandCall) (window : Window) (outcome : Outcome) : CommandPhase :=
  if outcome.isInvalidCsrfToken then
    if window.csrfRevision ≠ call.csrfRevision then .rotated outcome window.csrfToken.isSome
    else .awaitingRotation outcome
  else .settled outcome

/-- A retry that is refused as well ends the session. -/
def endsSession (call : CommandCall) (window : Window) (attempt : Attempt)
    (outcome : Outcome) : Bool :=
  attempt.kind = .retried && outcome.isInvalidCsrfToken &&
    window.sessionGeneration = call.sessionGeneration &&
    window.csrfRevision = attempt.csrfRevision

/-- The token has changed, and the session has not. -/
def retries (call : CommandCall) (window : Window) (rotated : Bool) : Bool :=
  rotated && window.csrfToken.isSome && window.sessionGeneration = call.sessionGeneration

end CommandCall

end Torsor.Web
