import Torsor.Kernel.System

/-! # Sessions and commands of the server

A session is a cookie, a CSRF token and the Principal that signed in. A request is
authenticated when it arrives, and a command once more when its body has been read.
-/

namespace Torsor.Server

open Torsor.Library Torsor.Kernel Tx

/-! ## Responses -/

structure HttpError where
  status : Nat
  code : String
  message : String

/-- `snakeCase(error.code)`. -/
def snakeCase : ErrorCode → String
  | .NotFound => "not_found"
  | .Unauthorized => "unauthorized"
  | .Forbidden => "forbidden"
  | .InvalidCommand => "invalid_command"
  | .Conflict => "conflict"
  | .DomainBusy => "domain_busy"
  | .WriterAuthorityLost => "writer_authority_lost"
  | .CausalLimitExceeded => "causal_limit_exceeded"
  | .StaleRevision => "stale_revision"
  | .ConditionalCheckFailed => "conditional_check_failed"
  | .TerminalRun => "terminal_run"
  | .PendingRunInputs => "pending_run_inputs"

def kernelStatus : ErrorCode → Nat
  | .Unauthorized => 401
  | .Forbidden => 403
  | .NotFound => 404
  | .InvalidCommand => 400
  | .Conflict | .DomainBusy | .WriterAuthorityLost | .CausalLimitExceeded | .StaleRevision
  | .ConditionalCheckFailed | .TerminalRun | .PendingRunInputs => 409

inductive ResponseBody where
  | session (principalId csrfToken : String)
  | result (result : CommandResult)
  | projection
  | noContent
  /-- What the server answers carries its `requestId`, what a proxy answers does not. -/
  | error (code message : String) (requestId : Bool)

structure HttpResponse where
  status : Nat
  /-- The cookie a `Set-Cookie` header leaves. -/
  setCookie : Option (Option String) := none
  body : ResponseBody

/-- `sendError`. -/
def HttpError.response (error : HttpError) : HttpResponse where
  status := error.status
  body := .error error.code error.message true

def failureResponse : Failure → HttpResponse
  | .kernel error | .durable error =>
      { status := kernelStatus error.code
        body := .error (snakeCase error.code) error.message true }
  | _ =>
      { status := 500
        body := .error "internal_error" "The server could not complete the request." true }

/-! ## Requests -/

structure RequestHeaders where
  authorization : Option String := none
  /-- The cookie `torsor_session`. -/
  cookie : Option String := none
  /-- The `Content-Type` up to its first `;`, trimmed and in lower case. -/
  mediaType : Option String := none
  /-- The header `X-Torsor-CSRF`. -/
  csrf : Option String := none

inductive JsonBody where
  | malformed
  | notAnObject
  /-- The names of its fields, and the command they are. -/
  | object (fields : List String) (command : KernelCommand)

structure RequestBody where
  byteLength : Nat
  json : JsonBody

/-- `commandTypes`. -/
def commandTypes : List CommandType :=
  [.StartThread, .ReplyToThread, .EditMessage, .DeleteMessage, .UpdateAgentConfig,
    .AdoptRunConfig, .SendToRun, .CancelRun, .WithdrawRunInput]

def forbiddenCommandFields : List String :=
  ["type", "principalId", "principalContext", "actorPrincipalId", "authorPrincipalId",
    "authorAgentId", "causedByAttentionId", "causedByRunId", "activationId", "correlationId"]

structure ServerOptions where
  credentials : String → Option PrincipalContext
  sessionDurationMs : Int
  bodyLimitBytes : Nat

/-! ## Sessions -/

structure Session where
  context : PrincipalContext
  expiresAt : Int
  csrfToken : String

abbrev Sessions : Type := String → Option Session

def sameContext (left right : PrincipalContext) : Bool :=
  left.principalId = right.principalId && left.activationId = right.activationId

theorem sameContext_iff {left right : PrincipalContext} :
    sameContext left right = true ↔ left = right := by
  cases left
  cases right
  simp [sameContext]

namespace Sessions

def pruned (sessions : Sessions) (now : Int) : Sessions := fun id =>
  (sessions id).filter fun session => now < session.expiresAt

def put (sessions : Sessions) (id : String) (session : Session) : Sessions := fun id' =>
  if id' = id then some session else sessions id'

def delete (sessions : Sessions) (id : String) : Sessions := fun id' =>
  if id' = id then none else sessions id'

end Sessions

/-- What a sign-in gives: the session it found for this Principal, or a new one. -/
structure SessionGrant where
  sessionId : String
  session : Session
  reused : Bool

/-- `#handleSession` for `POST`; `sessionId` and `csrfToken` are what a new session gets. -/
def grantSession (options : ServerOptions) (sessions : Sessions) (now : Int)
    (headers : RequestHeaders) (sessionId csrfToken : String) : Except HttpError SessionGrant :=
  match headers.authorization with
  | none => .error ⟨401, "unauthorized", "A local bearer credential is required."⟩
  | some authorization =>
      match options.credentials authorization with
      | none => .error ⟨401, "unauthorized", "The local bearer credential is invalid."⟩
      | some context =>
          let reusable : Option SessionGrant := do
            let currentSessionId ← headers.cookie
            let currentSession ← sessions.pruned now currentSessionId
            if sameContext currentSession.context context then
              some ⟨currentSessionId, currentSession, true⟩
            else none
          .ok (reusable.getD
            ⟨sessionId, ⟨context, now + options.sessionDurationMs, csrfToken⟩, false⟩)

def SessionGrant.response (grant : SessionGrant) : HttpResponse where
  status := 201
  setCookie := some (some grant.sessionId)
  body := .session grant.session.context.principalId grant.session.csrfToken

/-! ## Authentication -/

/-- The session a request was authenticated by, as it was then. -/
structure SessionBinding where
  sessionId : String
  sessionExpiresAt : Int
  sessionCsrfToken : String

/-- `authentication` is `"session"` where there is a binding, and `"bearer"` elsewhere. -/
structure AuthenticatedRequest where
  context : PrincipalContext
  session : Option SessionBinding

/-- The session of the cookie, unless it has expired. -/
def Sessions.current (sessions : Sessions) (now : Int) (headers : RequestHeaders) :
    Option (String × Session) := do
  let sessionId ← headers.cookie
  let session ← sessions.pruned now sessionId
  pure (sessionId, session)

def authenticate (options : ServerOptions) (sessions : Sessions) (now : Int)
    (headers : RequestHeaders) : Except HttpError AuthenticatedRequest :=
  let bearerContext := headers.authorization.bind options.credentials
  if headers.authorization.isSome ∧ bearerContext.isNone then
    .error ⟨401, "unauthorized", "The local bearer credential is invalid."⟩
  else
    match bearerContext, sessions.current now headers with
    | some context, some (_, session) =>
        if sameContext context session.context then .ok ⟨context, none⟩
        else .error ⟨400, "ambiguous_authentication",
          "Bearer and session credentials identify different principals."⟩
    | some context, none => .ok ⟨context, none⟩
    | none, some (sessionId, session) =>
        .ok ⟨session.context, some ⟨sessionId, session.expiresAt, session.csrfToken⟩⟩
    | none, none => .error ⟨401, "unauthorized", "Authentication is required."⟩

/-- The session is still the one the request was authenticated by. -/
def SessionBinding.stands (binding : SessionBinding) (context : PrincipalContext)
    (now : Int) (session : Session) : Bool :=
  now < session.expiresAt && session.expiresAt = binding.sessionExpiresAt &&
    session.csrfToken = binding.sessionCsrfToken && sameContext session.context context

def authenticationIsCurrent (sessions : Sessions) (now : Int)
    (authenticated : AuthenticatedRequest) : Bool :=
  match authenticated.session with
  | none => true
  | some binding =>
      (sessions binding.sessionId).any (binding.stands authenticated.context now)

/-- A check that fails deletes the session. -/
def sessionsAfterCheck (sessions : Sessions) (now : Int)
    (authenticated : AuthenticatedRequest) : Sessions :=
  match authenticated.session with
  | none => sessions
  | some binding =>
      if authenticationIsCurrent sessions now authenticated then sessions
      else sessions.delete binding.sessionId

/-! ## Commands -/

/-- The checks of `#handleCommand` before the body is read. -/
def checkCommandHeaders (slug : Option CommandType) (headers : RequestHeaders)
    (authenticated : AuthenticatedRequest) : Option HttpError :=
  if ∀ type, slug = some type → type ∉ commandTypes then
    some ⟨404, "not_found", "The command endpoint does not exist."⟩
  else if headers.mediaType ≠ some "application/json" then
    some ⟨415, "unsupported_media_type",
      "Command requests require Content-Type: application/json."⟩
  else if authenticated.session.any fun binding =>
      headers.csrf ≠ some binding.sessionCsrfToken then
    some ⟨403, "invalid_csrf_token",
      "The browser session CSRF token is missing or invalid."⟩
  else none

def readJsonObject (body : RequestBody) (limitBytes : Nat) :
    Except HttpError (List String × KernelCommand) :=
  if limitBytes < body.byteLength then
    .error ⟨413, "payload_too_large", s!"The request body exceeds {limitBytes} bytes."⟩
  else
    match body.json with
    | .malformed => .error ⟨400, "invalid_json", "The request body is not valid JSON."⟩
    | .notAnObject => .error ⟨400, "invalid_request", "The request body must be a JSON object."⟩
    | .object fields command => .ok (fields, command)

/-- The checks of `#handleCommand` on the fields of the body. -/
def checkCommandFields (fields : List String) (command : KernelCommand) : Option HttpError :=
  match forbiddenCommandFields.find? (· ∈ fields) with
  | some field =>
      some ⟨400, "invalid_request",
        s!"Command field {field} is server-controlled and must not be supplied."⟩
  | none =>
      if command.idempotencyKey = "" then
        some ⟨400, "invalid_request", "A non-empty idempotencyKey is required."⟩
      else none

/-- What `#handleCommand` is to execute once the body is there. -/
def readCommand (options : ServerOptions) (body : RequestBody) : Except HttpError KernelCommand :=
  match readJsonObject body options.bodyLimitBytes with
  | .error error => .error error
  | .ok (fields, command) =>
      match checkCommandFields fields command with
      | some error => .error error
      | none => .ok command

/-- The response to a command; `logged` says whether the log entry before it could be written. -/
def commandResponse (outcome : Except Failure CommandResult) (logged : Bool) : HttpResponse :=
  match outcome with
  | .ok result =>
      if logged then { status := 200, body := .result result }
      else
        { status := 500
          body := .error "internal_error" "The server could not complete the request." true }
  | .error failure => failureResponse failure

end Torsor.Server
