import Torsor.AgentRuntime.ActionPlan
import Torsor.AgentRuntime.NdjsonFraming

/-! # One execution by the Copilot adapter

`CopilotAcpAdapter.execute` talks with a provider process over its standard streams, asks it for
an action envelope, stops it, and applies the envelope. Output, failures, aborts and answers of
the persistence arrive in any order between the steps of `execute`.
-/

namespace Torsor.AgentRuntime.Copilot
open Torsor.Library

/-- What the execution is given. The functions stand for the platform's: `JSON.parse` of a text
and of the UTF-8 of a frame, `Buffer.byteLength` of a text and of a value's JSON, whether starting
a capability throws, and whether the worktree still allows publication. -/
structure ExecutionConfig where
  limits : CopilotAcpLimits
  cause : CauseType
  trustedLocal : Bool
  allowAll : Bool
  reportArtifactsEnabled : Bool
  jsonParse : JsString → Option Json
  frameParse : List UInt8 → Option Json
  byteLength : JsString → Nat
  jsonBytes : Json → Nat
  throwsAt : Nat → Option AcpError
  publicationAllowed : Nat → Bool

/-- Attention is never handled with the authority of a worktree. -/
def ExecutionConfig.isTrusted (c : ExecutionConfig) : Bool := c.trustedLocal && c.cause = .run

/-- A call of a capability: while the provider is talking, or for an action of the plan. -/
inductive Invocation where
  | streamed (kind : JsString) (payload : Json) (retentionClass : Option RetentionClass)
  | applied (action : CopilotAction)

def Invocation.isStreamed : Invocation → Bool
  | .streamed _ _ _ => true
  | .applied _ => false

inductive RpcId where
  | text (value : JsString)
  | number (value : Int)
deriving DecidableEq

structure OutgoingRequest where
  id : Nat
  settled : Option (Checked Json)

/-- What the handlers of the connection share. -/
structure Session where
  nextId : Nat
  outgoing : Option OutgoingRequest
  incoming : List RpcId
  answers : List (RpcId × Checked (Option JsString))
  sessionId : Option JsString
  acceptUpdates : Bool
  restrictedPermissionRequested : Bool
  streamBytes : Nat
  activityBytes : Nat
  tools : CopilotToolActivity
  outputChunks : List JsString
  /-- The persistence queue: operations under way, and the first error. -/
  persisting : Nat
  persistenceError : Option AcpError
  invocations : List Invocation
  aborted : Bool

def Session.start : Session where
  nextId := 0
  outgoing := none
  incoming := []
  answers := []
  sessionId := none
  acceptUpdates := true
  restrictedPermissionRequested := false
  streamBytes := 0
  activityBytes := 0
  tools := ⟨128, 512, .empty, 0⟩
  outputChunks := []
  persisting := 0
  persistenceError := none
  invocations := []
  aborted := false

def Session.output (s : Session) : JsString := s.outputChunks.flatten

/-- A handler changes the session and may throw. -/
abbrev Handled : Type := Session × Option AcpError

def thrown (s : Session) : Handled := (s, some (.protocol {}))

def overLimit (s : Session) : Handled := (s, some (.protocol outputLimit))

/-! ## Messages of the provider -/

/-- `enqueue` of `PersistenceQueue`, with what its first error sets off. -/
def enqueue (c : ExecutionConfig) (s : Session) (invocation : Invocation) : Handled :=
  match s.persistenceError with
  | some error => (s, some error)
  | none =>
      if c.limits.maxPendingPersistenceOperations ≤ s.persisting then thrown s
      else
        let s' := { s with invocations := s.invocations ++ [invocation] }
        match c.throwsAt s.invocations.length with
        | some error =>
            ({ s' with persistenceError := some error, acceptUpdates := false }, some error)
        | none => ({ s' with persisting := s'.persisting + 1 }, none)

def toolPayload (event : CopilotToolActivityEvent) : Json :=
  .object [(units "toolCallId", .string (units event.toolCallId)),
    (units "kind", .string (units event.toolKind.name)),
    (units "status", .string (units event.status.name))]

/-- Count one persisted activity and enqueue it. -/
def persist (c : ExecutionConfig) (s : Session) (kind : String) (payload : Json)
    (retentionClass : Option RetentionClass) : Handled :=
  if c.limits.maxActivityBytes - s.activityBytes < c.jsonBytes payload then overLimit s
  else
    enqueue c { s with activityBytes := s.activityBytes + c.jsonBytes payload }
      (.streamed (units kind) payload retentionClass)

def persistToolEvents (c : ExecutionConfig) : List CopilotToolActivityEvent → Session → Handled
  | [], s => (s, none)
  | event :: rest, s =>
      match persist c s event.kind.name (toolPayload event) none with
      | (s, some error) => (s, some error)
      | (s, none) => persistToolEvents c rest s

def onToolUpdate (c : ExecutionConfig) (s : Session) (type : ToolUpdateType) (params update : Json) :
    Handled :=
  if c.isTrusted = false then (s, some (.protocol ⟨"provider_policy_violation"⟩))
  else if s.sessionId = none ∨ textOf (params.field "sessionId") ≠ s.sessionId then thrown s
  else
    let s := if type = .toolCall then { s with outputChunks := [] } else s
    match s.tools.accept update with
    | (tools, .error error) => ({ s with tools }, some (.protocol error))
    | (tools, .ok events) => persistToolEvents c events { s with tools }

def chunkPayload (text : JsString) (messageId : Option JsString) : Json :=
  .object ((units "text", .string text) ::
    messageId.toList.map fun id => (units "messageId", .string id))

def onMessageChunk (c : ExecutionConfig) (s : Session) (params update : Json) : Handled :=
  if c.isTrusted ∧ (s.sessionId = none ∨ textOf (params.field "sessionId") ≠ s.sessionId) then
    thrown s
  else
    match getRecord (update.field "content") with
    | .error error => (s, some error)
    | .ok content =>
        match textOf (content.field "text") with
        | none => (s, none)
        | some text =>
            if textOf (content.field "type") ≠ some (units "text") then (s, none)
            else if c.limits.maxStreamBytes - s.streamBytes < c.byteLength text then overLimit s
            else
              let s :=
                { s with
                  streamBytes := s.streamBytes + c.byteLength text
                  outputChunks := s.outputChunks ++ [text] }
              if c.isTrusted ∨ c.cause ≠ .run then (s, none)
              else
                match textOf (update.field "messageId") with
                | none =>
                    persist c s "agent_message_chunk" (chunkPayload text none) (some .transient)
                | some _ =>
                    match requireBoundedString (update.field "messageId")
                        c.limits.maxFieldLength with
                    | .error error => (s, some error)
                    | .ok id =>
                        persist c s "agent_message_chunk" (chunkPayload text (some id))
                          (some .transient)

def onNotification (c : ExecutionConfig) (s : Session) (method : JsString)
    (params : Option Json) : Handled :=
  if s.acceptUpdates = false ∨ method ≠ units "session/update" then (s, none)
  else
    match getRecord params with
    | .error error => (s, some error)
    | .ok params =>
        match getRecord (params.field "update") with
        | .error error => (s, some error)
        | .ok update =>
            if withinDepth c.limits.maxJsonDepth 0 update = false then thrown s
            else
              match updateType update with
              | some type => onToolUpdate c s type params update
              | none =>
                  if textOf (update.field "sessionUpdate") = some (units "agent_message_chunk") then
                    onMessageChunk c s params update
                  else (s, none)

/-- The option that is selected for a permission request; `none` cancels it. -/
def selectPermission (c : ExecutionConfig) (s : Session) (params : Option Json) :
    Checked (Option JsString) := do
  if c.isTrusted && c.allowAll && !s.aborted && s.acceptUpdates then
    let params ← getRecord params
    match (params.field "options").bind itemsOf with
    | none => protocolError
    | some options =>
        if s.sessionId = none ∨ textOf (params.field "sessionId") ≠ s.sessionId ∨
            32 < options.length then
          protocolError
        else if c.publicationAllowed s.answers.length = false then .error .other
        else do
          let options ← options.mapM fun option => getRecord (some option)
          let ofKind (kind : String) :=
            options.find? fun option => textOf (option.field "kind") = some (units kind)
          match (ofKind "allow_always").orElse fun _ => ofKind "allow_once" with
          | none => return none
          | some selected => some <$> requireBoundedString (selected.field "optionId") 256
  else return none

def onRequest (c : ExecutionConfig) (s : Session) (id : RpcId) (method : JsString)
    (params : Option Json) : Session :=
  if method = units "session/request_permission" then
    let s :=
      { s with
        restrictedPermissionRequested := s.restrictedPermissionRequested || !c.isTrusted }
    { s with answers := s.answers ++ [(id, selectPermission c s params)] }
  else { s with answers := s.answers ++ [(id, protocolError)] }

def safeIntegerOf (value : Option Json) : Option Int :=
  match value with
  | some (.number (some q)) =>
      if q.den = 1 ∧ q.num.natAbs ≤ 9007199254740991 then some q.num else none
  | _ => none

def requireRpcId (value : Json) : Checked RpcId :=
  match value.text, safeIntegerOf (some value) with
  | some text, _ => pure (.text text)
  | none, some n => pure (.number n)
  | none, none => protocolError

def receiveResponse (s : Session) (message : Json) (id : Option RpcId) : Handled :=
  let result := message.field "result"
  let error := message.field "error"
  if id = none ∨ result.isSome = error.isSome then thrown s
  else
    match s.outgoing with
    | none => thrown s
    | some request =>
        if id ≠ some (.number request.id) ∨ request.settled.isSome then thrown s
        else
          match result with
          | some value => ({ s with outgoing := some { request with settled := some (.ok value) } }, none)
          | none =>
              let code := safeIntegerOf (error.bind (·.field "code"))
              let text := textOf (error.bind (·.field "message"))
              if code = none ∨ text = none then thrown s
              else ({ s with outgoing := some { request with settled := some protocolError } }, none)

def receiveMessage (c : ExecutionConfig) (s : Session) (message : Json) : Handled :=
  if textOf (message.field "jsonrpc") ≠ some (units "2.0") then thrown s
  else
    let id := (message.field "id").map requireRpcId
    match id with
    | some (.error error) => (s, some error)
    | _ =>
        let id := id.bind Except.toOption
        if message.field "method" = none then receiveResponse s message id
        else
          match textOf (message.field "method") with
          | none => thrown s
          | some method =>
              if (message.field "result").isSome ∨ (message.field "error").isSome ∨
                  (method = units "session/request_permission" ∧ id = none) ∨
                  (method = units "session/update" ∧ id ≠ none) then
                thrown s
              else
                match id with
                | none => onNotification c s method (message.field "params")
                | some id =>
                    if id ∈ s.incoming then thrown s
                    else
                      (onRequest c { s with incoming := id :: s.incoming } id method
                        (message.field "params"), none)

/-- `#receiveFrame`. -/
def receiveFrame (c : ExecutionConfig) (s : Session) (frame : List UInt8) : Handled :=
  match c.frameParse frame with
  | none => thrown s
  | some message => receiveMessage c s message

def frames (c : ExecutionConfig) : ConnectionFrames Session AcpError where
  maxFrameBytes := c.limits.maxFrameBytes
  maxStdoutBytes := c.limits.maxStdoutBytes
  outputLimit := .protocol outputLimit
  incompleteFrame := .protocol {}
  receiveFrame := receiveFrame c

/-! ## The steps of an execution -/

/-- Where `execute` waits. -/
inductive Phase where
  | starting
  | initializing
  | creatingSession
  | selectingMode
  | prompting
  | correcting
  | stopping (promptResult : Json)
  | draining (promptResult : Json)
  /-- For a capability; the rest of the plan is still to be applied. -/
  | calling (rest : List CopilotAction)
  | ended (error : Option AcpError)

structure Execution where
  connection : NdjsonRpcConnection Session AcpError
  phase : Phase
  processClosed : Bool
  /-- The plan, once every check has passed. -/
  plan : Option (List CopilotAction)
  capabilityFailed : Bool

namespace Execution

def start : Execution where
  connection := .start .start
  phase := .starting
  processClosed := false
  plan := none
  capabilityFailed := false

def session (e : Execution) : Session := e.connection.state

def withSession (e : Execution) (f : Session → Session) : Execution :=
  { e with connection := { e.connection with state := f e.connection.state } }

/-- An error leaves the body of `execute`; what follows only cleans up. -/
def fails (e : Execution) (error : AcpError) : Execution :=
  { e.withSession fun s => { s with acceptUpdates := false } with phase := .ended (some error) }

/-- Send a request and wait for its answer. -/
def request (e : Execution) (phase : Phase) (writable : Bool) : Execution :=
  match e.connection.failed with
  | some error => e.fails error
  | none =>
      let sent := e.withSession fun s => { s with nextId := s.nextId + 1, outgoing := none }
      if writable then
        { sent.withSession fun s => { s with outgoing := some ⟨e.session.nextId, none⟩ } with phase }
      else sent.fails .other

/-- The answer that `execute` waits for; a failed connection answers all requests. -/
def awaited (e : Execution) : Option (Checked Json) :=
  e.session.outgoing.bind fun request =>
    request.settled.orElse fun _ => e.connection.failed.map .error

end Execution

/-- The first coding mode that a list of records offers under a key. -/
def codingMode (key : String) (records : List Json) : Option JsString :=
  let named (name : String) :=
    records.any fun record => textOf (record.field key) = some (units name)
  if named "agent" then some (units "agent")
  else if named "interactive" then some (units "interactive")
  else none

def boundedItems (value : Option Json) : Checked (List Json) :=
  match value.bind itemsOf with
  | none => protocolError
  | some items => if 64 < items.length then protocolError else pure items

def configRecords (option : Json) : Checked (List Json) := do
  let record ← getRecord (some option)
  if record.field "options" = none then return [record]
  let nested ← boundedItems (record.field "options")
  nested.mapM fun item => getRecord (some item)

def selectConfigOption : List Json → Checked (Option JsString)
  | [] => return none
  | value :: rest => do
      let config ← getRecord (some value)
      if textOf (config.field "id") ≠ some (units "mode") ∨
          textOf (config.field "type") ≠ some (units "select") then
        selectConfigOption rest
      else
        let options ← boundedItems (config.field "options")
        let records ← options.mapM configRecords
        match codingMode "value" records.flatten with
        | some coding =>
            if textOf (config.field "currentValue") ≠ some coding then return some coding
            else selectConfigOption rest
        | none => selectConfigOption rest

/-- The coding mode to select, if one is advertised and not current. -/
def selectCodingMode (session : Json) : Checked (Option JsString) := do
  if session.field "configOptions" ≠ none then
    let options ← boundedItems (session.field "configOptions")
    selectConfigOption options
  else if session.field "modes" = none then return none
  else
    let modes ← getRecord (session.field "modes")
    let available ← boundedItems (modes.field "availableModes")
    let records ← available.mapM fun mode => getRecord (some mode)
    return (codingMode "id" records).filter fun coding =>
      textOf (modes.field "currentModeId") ≠ some coding

def assertPromptEnded (result : Json) : Checked Unit := do
  let stopReason ← requireBoundedString (result.field "stopReason") 64
  if stopReason = units "end_turn" then return ()
  else if stopReason = units "cancelled" then .error (.execution "provider_cancelled")
  else .error (.execution "provider_execution_failed")

/-- Only a trusted provider has tools, and they have to be done. -/
def assertToolsComplete (c : ExecutionConfig) (s : Session) : Checked Unit :=
  if c.isTrusted then
    match s.tools.assertComplete with
    | .error error => .error (.protocol error)
    | .ok () => pure ()
  else pure ()

def assertReportsEnabled (c : ExecutionConfig) (actions : List CopilotAction) : Checked Unit :=
  if actions.any CopilotAction.isReport ∧ c.reportArtifactsEnabled = false then protocolError
  else pure ()

/-- Every check of a plan, once the provider has stopped. -/
def checkedPlan (c : ExecutionConfig) (s : Session) (promptResult : Json) :
    Checked (List CopilotAction) := do
  assertToolsComplete c s
  assertPromptEnded promptResult
  let actions ← parseActions c.jsonParse c.limits s.output
  validateActionPlan actions c.cause
  assertReportsEnabled c actions
  return actions

namespace Execution

variable (c : ExecutionConfig)

/-- `applyActions` up to its next wait. -/
def applyNext (e : Execution) (remaining : List CopilotAction) : Execution :=
  match remaining with
  | [] => { e with phase := .ended none }
  | action :: rest =>
      if e.session.aborted then e.fails .interrupted
      else
        { e.withSession fun s => { s with invocations := s.invocations ++ [.applied action] } with
          phase := .calling rest }

/-- After the answer to a prompt: a restricted provider may be asked once more. -/
def afterPrompt (e : Execution) (promptResult : Json) (writable : Bool) : Execution :=
  if c.isTrusted then { e with phase := .stopping promptResult }
  else
    match assertPromptEnded promptResult with
    | .error error => e.fails error
    | .ok () =>
        match parseActions c.jsonParse c.limits e.session.output with
        | .ok _ => { e with phase := .stopping promptResult }
        | .error error =>
            if error ≠ .actionFormat ∨ e.session.restrictedPermissionRequested then e.fails error
            else (e.withSession fun s => { s with outputChunks := [] }).request .correcting writable

/-- The answer to the request that `execute` waits for. -/
def answered (e : Execution) (value : Json) (writable : Bool) : Execution :=
  match e.phase with
  | .initializing =>
      if safeIntegerOf (value.field "protocolVersion") ≠ some 1 then e.fails (.protocol {})
      else e.request .creatingSession writable
  | .creatingSession =>
      match requireBoundedString (value.field "sessionId") c.limits.maxFieldLength with
      | .error error => e.fails error
      | .ok sessionId =>
          let e := e.withSession fun s => { s with sessionId := some sessionId }
          if c.isTrusted then
            match selectCodingMode value with
            | .error error => e.fails error
            | .ok none => e.request .prompting writable
            | .ok (some _) => e.request .selectingMode writable
          else e.request .prompting writable
  | .selectingMode => e.request .prompting writable
  | .prompting => e.afterPrompt c value writable
  | .correcting =>
      match assertPromptEnded value with
      | .error error => e.fails error
      | .ok () => { e with phase := .stopping value }
  | _ => e

def isRequesting (e : Execution) : Bool :=
  match e.phase with
  | .initializing | .creatingSession | .selectingMode | .prompting | .correcting => true
  | _ => false

/-- The answer to the selection of a mode is not looked at; all others have to be objects. -/
def settle (e : Execution) (answer : Checked Json) (writable : Bool) : Execution :=
  match answer with
  | .error error => e.fails error
  | .ok value =>
      match e.phase with
      | .selectingMode => e.answered c value writable
      | _ =>
          match getRecord (some value) with
          | .error error => e.fails error
          | .ok value => e.answered c value writable

/-- After the persistence has drained: seal the connection, check the plan and begin with it. -/
def drained (e : Execution) (promptResult : Json) : Execution :=
  match e.session.persistenceError with
  | some error => e.fails error
  | none =>
      match NdjsonRpcConnection.seal (frames c) e.connection with
      | .error error => e.fails error
      | .ok () =>
          match checkedPlan c e.session promptResult with
          | .error error => e.fails error
          | .ok plan => { e with plan := some plan }.applyNext plan

end Execution

/-! ## What can happen -/

inductive Move where
  /-- The process has been started, or could not be. -/
  | started (error : Option AcpError) (writable : Bool)
  | output (chunk : List UInt8)
  /-- The process exits or fails, a stream fails, or there is too much on the error stream. -/
  | connectionFails (error : AcpError)
  | abort (reason : AcpError)
  /-- One operation of the persistence ends. -/
  | persisted (error : Option AcpError)
  | responded (id : RpcId)
  | resume (writable : Bool)
  | processCloses
  /-- `stopProcess`, or `finish` of the worktree, is over; without error only once the process is
  closed. -/
  | stopReturns (error : Option AcpError)
  | capabilityReturns (error : Option AcpError)

namespace Execution

def persisted (e : Execution) (error : Option AcpError) : Execution :=
  if e.session.persisting = 0 then e
  else
    let e := e.withSession fun s => { s with persisting := s.persisting - 1 }
    match error with
    | none => e
    | some error =>
        if e.session.persistenceError.isSome then e
        else
          let e := e.withSession fun s =>
            { s with persistenceError := some error, acceptUpdates := false }
          { e with connection := e.connection.fail error }

def aborted (e : Execution) (reason : AcpError) : Execution :=
  let e := e.withSession fun s => { s with aborted := true, acceptUpdates := false }
  { e with connection := e.connection.fail reason }

def resume (c : ExecutionConfig) (e : Execution) (writable : Bool) : Execution :=
  if e.isRequesting then
    match e.awaited with
    | none => e
    | some answer => e.settle c answer writable
  else
    match e.phase with
    | .draining promptResult =>
        if e.session.persisting = 0 then e.drained c promptResult else e
    | _ => e

def step (c : ExecutionConfig) (e : Execution) : Move → Execution
  | .started error writable =>
      match e.phase, error with
      | .starting, some error => e.fails error
      | .starting, none =>
          if e.session.aborted then e.fails .interrupted else e.request .initializing writable
      | _, _ => e
  | .output chunk =>
      { e with connection := NdjsonRpcConnection.receiveChunk (frames c) e.connection chunk }
  | .connectionFails error => { e with connection := e.connection.fail error }
  | .abort reason => e.aborted reason
  | .persisted error => e.persisted error
  | .responded id => e.withSession fun s => { s with incoming := s.incoming.erase id }
  | .resume writable => e.resume c writable
  | .processCloses => { e with processClosed := true }
  | .stopReturns error =>
      match e.phase, error with
      | .stopping _, some error => e.fails error
      | .stopping promptResult, none =>
          if e.processClosed then
            { e.withSession fun s => { s with acceptUpdates := false } with
              phase := .draining promptResult }
          else e
      | _, _ => e
  | .capabilityReturns error =>
      match e.phase, error with
      | .calling _, some error => { e.fails error with capabilityFailed := true }
      | .calling rest, none => e.applyNext rest
      | _, _ => e

def run (c : ExecutionConfig) (e : Execution) (moves : List Move) : Execution :=
  moves.foldl (step c) e

theorem step_of_calling {c : ExecutionConfig} {e : Execution} {rest : List CopilotAction}
    (hphase : e.phase = .calling rest) :
    e.step c (.capabilityReturns none) = e.applyNext rest := by
  simp only [step, hphase]

end Execution

end Torsor.AgentRuntime.Copilot
