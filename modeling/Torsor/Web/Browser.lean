import Torsor.Web.Window

/-! # A browser and its server

The windows of one browser share a cookie, which the browser puts into a request when it
sends it. Requests may be lost, late or repeated, and so may the responses to them. Every step
is what runs between two points where the source awaits something.
-/

namespace Torsor.Web

open Torsor.Library Torsor.Kernel Torsor.Server

/-! ## Requests on their way -/

/-- The Kernel, the configuration of the server, and `JSON.stringify` of a command's body. -/
structure Site where
  kernel : KernelContext
  options : ServerOptions
  stringify : KernelCommand → RequestBody

/-- Who awaits the response. -/
inductive Sender where
  | exchange (window : Nat)
  | signOut (window : Nat)
  | command (n : Nat)
  | load (n csrfRevision : Nat)
  /-- A client that is no window of this browser. -/
  | other
  deriving DecidableEq, Repr

inductive Endpoint where
  | exchange
  | signOut
  | command (type : Option CommandType) (body : RequestBody)
  | query

structure HttpRequest where
  sender : Sender
  endpoint : Endpoint
  headers : RequestHeaders
  sent : Bool := false

/-- A command whose body the server is reading. -/
structure Job where
  request : Nat
  authenticated : AuthenticatedRequest

/-- A command the server has executed. -/
structure Execution where
  request : Nat
  authenticated : AuthenticatedRequest
  now : Int
  /-- The sessions of the server at that moment. -/
  sessions : Sessions
  command : KernelCommand
  outcome : Except Failure CommandResult

structure System where
  world : World
  sessions : Sessions
  /-- Every session there has been. -/
  created : List (String × Session)
  cookie : Option String
  windows : List Window
  messages : List (Nat × WindowMessage)
  requests : List HttpRequest
  jobs : List Job
  responses : List (Nat × HttpResponse)
  commands : List CommandCall
  loads : List Load
  executions : List Execution

namespace System

/-- Nobody has signed in yet. -/
def initial (world : World) : System where
  world
  sessions := fun _ => none
  created := []
  cookie := none
  windows := []
  messages := []
  requests := []
  jobs := []
  responses := []
  commands := []
  loads := []
  executions := []

/-! ## Parts of steps -/

def change (i : Nat) (f : Window → Window) (s : System) : System :=
  { s with windows := s.windows.modify i f }

def post (i : Nat) (message : WindowMessage) (s : System) : System :=
  { s with messages := s.messages ++ [(i, message)] }

def clearSession (i : Nat) (session : SessionState) (broadcast : Bool) (s : System) : System :=
  let s := if broadcast then s.post i (.sessionCleared session) else s
  s.change i (Window.clearSession session)

def send (request : HttpRequest) (s : System) : System :=
  { s with requests := s.requests ++ [request] }

def respond (r : Nat) (response : HttpResponse) (s : System) : System :=
  { s with responses := s.responses ++ [(r, response)] }

def setPhase (n : Nat) (phase : CommandPhase) (s : System) : System :=
  { s with commands := s.commands.modify n fun call => { call with phase } }

/-- `#sendCommand`. -/
def sendCommand (site : Site) (n : Nat) (command : KernelCommand) (attempt : Attempt)
    (csrfToken : String) (s : System) : System :=
  (s.send
    { sender := .command n
      endpoint := .command (some command.type) (site.stringify command)
      headers := { mediaType := some "application/json", csrf := some csrfToken } }).setPhase n
    (.sending attempt s.requests.length)

/-- `#request` sees a response: a `401` to the present token ends the session. -/
def see (i : Nat) (window : Window) (response : HttpResponse)
    (sessionGeneration csrfRevision : Nat) (s : System) : System :=
  if window.expires response sessionGeneration csrfRevision then
    s.clearSession i .expired true
  else s

/-! ## The server -/

def grant (r : Nat) (now : Int) (grant : SessionGrant) (s : System) : System :=
  { s with
    sessions := (s.sessions.pruned now).put grant.sessionId grant.session
    created :=
      if grant.reused then s.created else s.created ++ [(grant.sessionId, grant.session)] }.respond r
    grant.response

/-- A request to sign in arrives. -/
def arriveExchange (site : Site) (r : Nat) (headers : RequestHeaders) (now : Int)
    (sessionId csrfToken : String) (s : System) : System :=
  match grantSession site.options s.sessions now headers sessionId csrfToken with
  | .error error => s.respond r error.response
  | .ok grant => s.grant r now grant

def arriveSignOut (r : Nat) (headers : RequestHeaders) (s : System) : System :=
  { s with
    sessions := headers.cookie.elim s.sessions s.sessions.delete }.respond r
    { status := 204, setCookie := some none, body := .noContent }

/-- A command arrives, or a query, which is answered at once. -/
def arrive (site : Site) (r : Nat) (request : HttpRequest) (now : Int) (s : System) : System :=
  let pruned := { s with sessions := s.sessions.pruned now }
  match authenticate site.options s.sessions now request.headers with
  | .error error => pruned.respond r error.response
  | .ok authenticated =>
      match request.endpoint with
      | .command type _ =>
          match checkCommandHeaders type request.headers authenticated with
          | some error => pruned.respond r error.response
          | none => { pruned with jobs := s.jobs ++ [⟨r, authenticated⟩] }
      | _ => pruned.respond r { status := 200, body := .projection }

def executed (job : Job) (now : Int) (command : KernelCommand)
    (outcome : Except Failure CommandResult) (world : World) (s : System) : System :=
  { s with
    world
    executions := s.executions ++
      [⟨job.request, job.authenticated, now, s.sessions, command, outcome⟩] }

/-- The body of a command has been read. -/
def perform (site : Site) (job : Job) (body : RequestBody) (now : Int) (correlationId : String)
    (logged : Bool) (s : System) : System :=
  match readCommand site.options body with
  | .error error => s.respond job.request error.response
  | .ok command =>
      if authenticationIsCurrent s.sessions now job.authenticated then
        let executed := execute site.kernel command job.authenticated.context
          (some ⟨correlationId⟩) s.world
        (s.executed job now command executed.1 executed.2).respond job.request
          (commandResponse executed.1 logged)
      else
        { s with sessions := sessionsAfterCheck s.sessions now job.authenticated }.respond
          job.request
          (HttpError.response
            ⟨401, "unauthorized", "The browser session expired or was revoked."⟩)

/-! ## Commands of a window -/

/-- `#command` up to its first request. -/
def startCommand (site : Site) (i : Nat) (window : Window) (command : KernelCommand)
    (s : System) : System :=
  let call := CommandCall.begin i window command
  let attempt : Attempt := ⟨.first, window.sessionGeneration, window.csrfRevision⟩
  match window.csrfToken with
  | some csrfToken =>
      sendCommand site s.commands.length command attempt csrfToken
        { s with commands := s.commands ++ [call (.sending attempt s.requests.length)] }
  | none =>
      { s with
        commands := s.commands ++ [call (.settled (.apiError ⟨401, "session_expired",
          "The browser session has expired. Exchange the local credential again.", false⟩))]
      }.clearSession i .expired true

/-- The `catch` of `#command`, or its result. -/
def endAttempt (site : Site) (n : Nat) (call : CommandCall) (window : Window)
    (attempt : Attempt) (outcome : Outcome) (s : System) : System :=
  match attempt.kind, window.csrfToken with
  | .first, some csrfToken =>
      if call.reauthenticates window outcome then
        s.sendCommand site n call.command
          ⟨.reauthenticated, window.sessionGeneration, window.csrfRevision⟩ csrfToken
      else s.setPhase n (call.afterFirst window outcome)
  | .first, none => s.setPhase n (call.afterFirst window outcome)
  | _, _ =>
      (if call.endsSession window attempt outcome then
          s.clearSession call.window .expired false
        else s).setPhase n (.settled outcome)

/-- What follows `#waitForCsrfRotation`. -/
def afterRotation (site : Site) (n : Nat) (call : CommandCall) (window : Window)
    (outcome : Outcome) (rotated : Bool) (s : System) : System :=
  match call.retries window rotated, window.csrfToken with
  | true, some csrfToken =>
      s.sendCommand site n call.command
        ⟨.retried, call.sessionGeneration, window.csrfRevision⟩ csrfToken
  | _, _ =>
      (if window.sessionGeneration = call.sessionGeneration then
          s.clearSession call.window .expired false
        else s).setPhase n (.settled outcome)

/-! ## Loads of a window -/

def startLoad (i : Nat) (window : Window) (kind : LoadKind) (s : System) : System :=
  { s with
    loads := s.loads ++
      [{ window := i
         kind
         sessionGeneration := window.sessionGeneration
         principalId := window.principalId
         settled := false }] }

/-- `#bootstrap` up to its first request. -/
def bootstrap (i : Nat) (window : Window) (s : System) : System :=
  (s.change i Window.beginBootstrap).startLoad i window.beginBootstrap .bootstrap

/-- A load ends, and its responses are shown if the session is the one it began in and
`current`, what else it checks, holds. -/
def endLoad (n : Nat) (load : Load) (window : Window) (current : Bool) (s : System) : System :=
  let settled :=
    { s with loads := s.loads.modify n fun load => { load with settled := true } }
  if window.sessionGeneration = load.sessionGeneration ∧ current then
    settled.change load.window (Window.show load.kind n)
  else settled

/-! ## Steps -/

/-- Session ids and CSRF tokens of new sessions are new. -/
def Fresh (sessionId csrfToken : String) (s : System) : Prop :=
  ∀ entry ∈ s.created, entry.1 ≠ sessionId ∧ entry.2.csrfToken ≠ csrfToken

inductive Step (site : Site) (s : System) : System → Prop where
  /-- Anybody else calls the Kernel. -/
  | call (call : KernelCall) : Step site s { s with world := step site.kernel call s.world }
  /-- A window opens: with an empty storage, or with that of another one, whose copy or whose
  successor it is. -/
  | openEmpty : Step site s { s with windows := s.windows ++ [{}] }
  | openCopy (i : Nat) (window : Window) (hwindow : s.windows[i]? = some window) :
      Step site s { s with windows := s.windows ++ [{ storage := window.storage }] }
  | resume (i : Nat) (window : Window) (hwindow : s.windows[i]? = some window)
      (hstored : window.storage.csrf.isSome ∧ window.storage.principal.isSome) :
      Step site s
        ((s.change i Window.resume).startLoad i window.resume .bootstrap)
  | resumeNothing (i : Nat) (window : Window) (hwindow : s.windows[i]? = some window)
      (hstored : ¬ (window.storage.csrf.isSome ∧ window.storage.principal.isSome)) :
      Step site s (s.change i Window.resume)
  -- Signing in and out.
  | exchange (i : Nat) (window : Window) (hwindow : s.windows[i]? = some window)
      (token : String) :
      Step site s
        ((s.change i fun window => { window with session := .exchanging }).send
          { sender := .exchange i
            endpoint := .exchange
            headers := { authorization := some token } })
  | exchanged (i r : Nat) (request : HttpRequest) (hrequest : s.requests[r]? = some request)
      (hsender : request.sender = .exchange i) (window : Window)
      (hwindow : s.windows[i]? = some window) (response : HttpResponse)
      (hresponse : (r, response) ∈ s.responses) (principalId csrfToken : String)
      (hbody : readApiResponse response true = .body (.session principalId csrfToken)) :
      Step site s
        (((s.change i (Window.setCsrfToken csrfToken principalId)).post i
          (.session csrfToken principalId)).bootstrap i
            (window.setCsrfToken csrfToken principalId))
  | exchangeFails (i r : Nat) (request : HttpRequest) (hrequest : s.requests[r]? = some request)
      (hsender : request.sender = .exchange i) :
      Step site s (s.clearSession i .signedOut false)
  | signOut (i : Nat) (window : Window) (hwindow : s.windows[i]? = some window) :
      Step site s (s.send { sender := .signOut i, endpoint := .signOut, headers := {} })
  | signedOut (i r : Nat) (request : HttpRequest) (hrequest : s.requests[r]? = some request)
      (hsender : request.sender = .signOut i) :
      Step site s (s.clearSession i .signedOut true)
  | receive (i j : Nat) (message : WindowMessage) (hmessage : (j, message) ∈ s.messages)
      (hother : i ≠ j) : Step site s (s.change i (Window.receive message))
  -- The browser and the network.
  | attach (r : Nat) (request : HttpRequest) (hrequest : s.requests[r]? = some request)
      (hunsent : request.sent = false) :
      Step site s
        { s with
          requests := s.requests.set r
            { request with
              headers := { request.headers with cookie := s.cookie }
              sent := true } }
  | storeCookie (r : Nat) (response : HttpResponse) (hresponse : (r, response) ∈ s.responses)
      (cookie : Option String) (hcookie : response.setCookie = some cookie) :
      Step site s { s with cookie }
  | loseCookie : Step site s { s with cookie := none }
  | otherClient (endpoint : Endpoint) (headers : RequestHeaders) :
      Step site s (s.send { sender := .other, endpoint, headers, sent := true })
  /-- A proxy answers in place of the server. -/
  | proxyFails (r status : Nat) (code message : String) :
      Step site s (s.respond r { status, body := .error code message false })
  -- The server.
  | arriveExchange (r : Nat) (request : HttpRequest) (hrequest : s.requests[r]? = some request)
      (hsent : request.sent = true) (hendpoint : request.endpoint = .exchange) (now : Int)
      (sessionId csrfToken : String) (hfresh : s.Fresh sessionId csrfToken) :
      Step site s (s.arriveExchange site r request.headers now sessionId csrfToken)
  | arriveSignOut (r : Nat) (request : HttpRequest) (hrequest : s.requests[r]? = some request)
      (hsent : request.sent = true) (hendpoint : request.endpoint = .signOut) :
      Step site s (s.arriveSignOut r request.headers)
  | arrive (r : Nat) (request : HttpRequest) (hrequest : s.requests[r]? = some request)
      (hsent : request.sent = true)
      (hendpoint : request.endpoint ≠ .exchange ∧ request.endpoint ≠ .signOut) (now : Int) :
      Step site s (s.arrive site r request now)
  | perform (j : Nat) (job : Job) (hjob : s.jobs[j]? = some job) (request : HttpRequest)
      (hrequest : s.requests[job.request]? = some request) (type : Option CommandType)
      (body : RequestBody) (hendpoint : request.endpoint = .command type body) (now : Int)
      (correlationId : String) (logged : Bool) :
      Step site s (s.perform site job body now correlationId logged)
  -- Commands.
  | startCommand (i : Nat) (window : Window) (hwindow : s.windows[i]? = some window)
      (command : KernelCommand) : Step site s (s.startCommand site i window command)
  | commandResponse (n : Nat) (call : CommandCall) (hcall : s.commands[n]? = some call)
      (attempt : Attempt) (r : Nat) (hphase : call.phase = .sending attempt r)
      (window : Window) (hwindow : s.windows[call.window]? = some window)
      (response : HttpResponse) (hresponse : (r, response) ∈ s.responses) :
      Step site s
        ((s.see call.window window response attempt.sessionGeneration
          attempt.csrfRevision).setPhase n (.reading attempt response))
  | commandRead (n : Nat) (call : CommandCall) (hcall : s.commands[n]? = some call)
      (attempt : Attempt) (response : HttpResponse)
      (hphase : call.phase = .reading attempt response) (window : Window)
      (hwindow : s.windows[call.window]? = some window) (readable : Bool) :
      Step site s (s.endAttempt site n call window attempt (readApiResponse response readable))
  | commandFails (n : Nat) (call : CommandCall) (hcall : s.commands[n]? = some call)
      (attempt : Attempt) (r : Nat) (hphase : call.phase = .sending attempt r) :
      Step site s (s.setPhase n (.settled .failure))
  | rotationEnds (n : Nat) (call : CommandCall) (hcall : s.commands[n]? = some call)
      (outcome : Outcome) (hphase : call.phase = .awaitingRotation outcome) (window : Window)
      (hwindow : s.windows[call.window]? = some window) :
      Step site s (s.setPhase n (.rotated outcome
        (window.csrfRevision ≠ call.csrfRevision && window.csrfToken.isSome)))
  | rotationRead (n : Nat) (call : CommandCall) (hcall : s.commands[n]? = some call)
      (outcome : Outcome) (rotated : Bool) (hphase : call.phase = .rotated outcome rotated)
      (window : Window) (hwindow : s.windows[call.window]? = some window) :
      Step site s (s.afterRotation site n call window outcome rotated)
  -- Loads.
  /-- A signed-in window reads a projection. -/
  | startLoad (i : Nat) (window : Window) (hwindow : s.windows[i]? = some window)
      (hsession : window.principalId.isSome) (kind : LoadKind) (hkind : kind ≠ .bootstrap) :
      Step site s (s.startLoad i window kind)
  | rebootstrap (i : Nat) (window : Window) (hwindow : s.windows[i]? = some window)
      (hsession : window.principalId.isSome) : Step site s (s.bootstrap i window)
  | loadRequest (n : Nat) (load : Load) (hload : s.loads[n]? = some load) (csrfRevision : Nat) :
      Step site s (s.send { sender := .load n csrfRevision, endpoint := .query, headers := {} })
  | loadResponse (n : Nat) (load : Load) (hload : s.loads[n]? = some load) (r : Nat)
      (request : HttpRequest) (hrequest : s.requests[r]? = some request) (csrfRevision : Nat)
      (hsender : request.sender = .load n csrfRevision) (window : Window)
      (hwindow : s.windows[load.window]? = some window) (response : HttpResponse)
      (hresponse : (r, response) ∈ s.responses) :
      Step site s (s.see load.window window response load.sessionGeneration csrfRevision)
  | endLoad (n : Nat) (load : Load) (hload : s.loads[n]? = some load)
      (hsettled : load.settled = false) (window : Window)
      (hwindow : s.windows[load.window]? = some window) (current : Bool) :
      Step site s (s.endLoad n load window current)
  /-- A selection is left, and what it shows goes. -/
  | leave (i : Nat) (projection : Projection) :
      Step site s
        (s.change i fun window =>
          { window with
            projections := fun p => if p = projection then [] else window.projections p })

/-- All that can follow the opening of the Kernel. -/
inductive Reachable (site : Site) : System → Prop where
  | opened {w : World} (hopened : Opened site.kernel w) : Reachable site (initial w)
  | step {s s' : System} (hreached : Reachable site s) (hstep : Step site s s') :
      Reachable site s'

/-- A run from one state to another. -/
def Steps (site : Site) : System → System → Prop := Relation.ReflTransGen (Step site)

end System

end Torsor.Web
