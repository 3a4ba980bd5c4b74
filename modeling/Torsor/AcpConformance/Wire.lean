import Torsor.Library.EntryMap
import Mathlib.Data.Rat.Defs

/-! # The observer of an ACP connection

`Wire` sees every JSON-RPC message of both sides of one connection and fails the run at the
first that leaves the supported lifecycle. `observe` is what it does with one message; the
payload schema of the SDK is a parameter.
-/

namespace Torsor.AcpConformance
open Torsor.Library

/-! ## JSON values -/

inductive Json where
  | null
  | bool (value : Bool)
  | number (value : Rat)
  | string (value : String)
  | array (items : List Json)
  | object (fields : List (String × Json))

/-- The fields of an object; `Object.hasOwn` is that the lookup finds one. -/
abbrev RecordValue := List (String × Json)

def record : Option Json → Option RecordValue
  | some (.object fields) => some fields
  | _ => none

def text : Option Json → Option String
  | some (.string value) => some value
  | _ => none

def items : Option Json → Option (List Json)
  | some (.array values) => some values
  | _ => none

def safeInteger : Option Json → Option Int
  | some (.number value) =>
      if value.den = 1 ∧ value.num.natAbs ≤ 9007199254740991 then some value.num else none
  | _ => none

/-- `value.name`, where `value` is an object. -/
def member (value : Option Json) (name : String) : Option Json :=
  (record value).bind (List.lookup name)

/-! ## Failures -/

structure HarnessError where
  code : String
  message : String
deriving DecidableEq, Repr

def fail {α : Type} (code message : String) : Except HarnessError α := .error ⟨code, message⟩

def failIf (p : Prop) [Decidable p] (code message : String) : Except HarnessError Unit :=
  if p then fail code message else pure ()

/-- A step taken only under a condition. -/
def onlyIf {α : Type} (p : Prop) [Decidable p] (x : Except HarnessError α) (otherwise : α) :
    Except HarnessError α :=
  if p then x else pure otherwise

section
variable {α β : Type} {x : Except HarnessError α} {f : α → Except HarnessError β} {b : β}

@[simp] theorem fail_eq_ok {code message : String} {a : α} :
    fail code message = .ok a ↔ False := by
  simp [fail]

@[simp] theorem failIf_eq_ok {p : Prop} [Decidable p] {code message : String} {u : Unit} :
    failIf p code message = .ok u ↔ ¬ p := by
  by_cases hp : p
  · simp [failIf, hp]
  · simp [failIf, hp, pure, Except.pure]

@[simp] theorem onlyIf_eq_ok {p : Prop} [Decidable p] {a a' : α} :
    onlyIf p x a = .ok a' ↔ (p ∧ x = .ok a') ∨ (¬ p ∧ a = a') := by
  by_cases hp : p
  · simp [onlyIf, hp]
  · simp [onlyIf, hp, pure, Except.pure]

@[simp] theorem except_map_eq_ok {g : α → β} :
    g <$> x = .ok b ↔ ∃ a, x = .ok a ∧ g a = b := by
  cases x with
  | error e => simp [Functor.map, Except.map]
  | ok a => simp [Functor.map, Except.map]

@[simp] theorem except_bind_eq_ok : (x >>= f) = .ok b ↔ ∃ a, x = .ok a ∧ f a = .ok b := by
  cases x with
  | error e => simp [bind, Except.bind]
  | ok a => simp [bind, Except.bind]

@[simp] theorem except_pure_eq_ok {a a' : α} :
    (pure a : Except HarnessError α) = .ok a' ↔ a = a' := by
  simp [pure, Except.pure]

end

/-! ## The observer's state -/

inductive Direction where
  | client
  | provider
deriving DecidableEq, Repr

def Direction.other : Direction → Direction
  | .client => .provider
  | .provider => .client

def Direction.name : Direction → String
  | .client => "client"
  | .provider => "provider"

/-- A JSON-RPC id with its type. -/
inductive RpcId where
  | string (value : String)
  | number (value : Int)
deriving DecidableEq, Repr

def rpcId : Json → Option RpcId
  | .string value => some (.string value)
  | value => (safeInteger (some value)).map .number

def RpcId.typeOf : RpcId → String
  | .string _ => "string"
  | .number _ => "number"

def RpcId.toText : RpcId → String
  | .string value => value
  | .number value => value.repr

/-- The key of a request in the one map that holds those of both sides. -/
def pendingKey (owner : Direction) (id : RpcId) : String :=
  owner.name ++ ":" ++ id.typeOf ++ ":" ++ id.toText

structure PendingRequest where
  method : String
  sessionId : Option Json
  toolCallId : Option Json
  cancelled : Bool

structure WireState where
  pending : EntryMap String PendingRequest
  /-- The tool ids announced in each session. -/
  sessions : EntryMap String (List String)
  initialized : Bool
  events : Nat

def WireState.start : WireState := ⟨.empty, .empty, false, 0⟩

inductive PayloadPart where
  | params
  | result
deriving DecidableEq, Repr

structure WireConfig where
  /-- The bound on the number of messages. -/
  events : Nat
  workspace : String
  /-- The SDK schema of a method's params or result, where the method has one. -/
  validPayload : String → PayloadPart → Option Json → Bool

def validatePayload (c : WireConfig) (method : String) (part : PayloadPart)
    (value : Option Json) : Except HarnessError Unit :=
  failIf (c.validPayload method part value = false) "protocol_result"
    "Payload does not match the pinned ACP method schema."

def stopReasons : List String :=
  ["end_turn", "cancelled", "refusal", "max_tokens", "max_turn_requests"]

def clientSessionMethods : List String := ["session/new", "session/prompt", "session/cancel"]

def turnUpdates : List String :=
  ["user_message_chunk", "agent_message_chunk", "agent_thought_chunk", "tool_call",
    "tool_call_update"]

namespace WireState

/-! ## Sessions, prompts and tools -/

def isPrompt (sessionId : String) (entry : String × PendingRequest) : Bool :=
  entry.1.startsWith "client:" ∧ entry.2.method = "session/prompt" ∧
    text entry.2.sessionId = some sessionId

def activePrompt (s : WireState) (sessionId : String) : Bool :=
  s.pending.entries.any (isPrompt sessionId)

def tool (s : WireState) (sessionId : String) (toolCallId : Option Json) (initial : Bool) :
    Except HarnessError WireState :=
  match s.sessions.get sessionId, text toolCallId with
  | some tools, some id => do
      failIf (id = "") "protocol_state"
        "Tool identity requires a created session and nonempty tool ID."
      if initial then
        failIf (id ∈ tools) "protocol_state" "Initial tool ID was already used in this session."
        pure { s with sessions := s.sessions.set sessionId (tools ++ [id]) }
      else
        failIf (id ∉ tools) "protocol_state"
          "Tool update or permission refers to a tool not announced in this session."
        pure s
  | _, _ =>
      fail "protocol_state" "Tool identity requires a created session and nonempty tool ID."

def permission (s : WireState) (sessionId toolCallId : Option Json) :
    Except HarnessError WireState :=
  match text sessionId with
  | some id => do
      failIf (s.sessions.get id = none ∨ s.activePrompt id = false) "protocol_state"
        "Permission requires a created session with an outstanding prompt."
      s.tool id toolCallId false
  | none =>
      fail "protocol_state" "Permission requires a created session with an outstanding prompt."

def cancelPrompts (s : WireState) (sessionId : String) : WireState :=
  { s with
    pending := s.pending.mapValues fun key request =>
      if isPrompt sessionId (key, request) then { request with cancelled := true }
      else request }

/-! ## Responses -/

def result (c : WireConfig) (s : WireState) (method : String) (value : Option Json) :
    Except HarnessError WireState := do
  validatePayload c method .result value
  if method = "initialize" then
    failIf (safeInteger (member value "protocolVersion") ≠ some 1 ∨
      record (member value "agentCapabilities") = none) "protocol_result"
      "Initialize requires protocol version 1 and agentCapabilities."
    pure { s with initialized := true }
  else if method = "session/new" then
    match text (member value "sessionId") with
    | some id => do
        failIf (id = "") "protocol_result" "Session creation requires a nonempty sessionId."
        failIf (s.sessions.get id ≠ none) "protocol_result"
          "Session creation returned an ID already used on this connection."
        pure { s with sessions := s.sessions.set id [] }
    | none => fail "protocol_result" "Session creation requires a nonempty sessionId."
  else
    failIf (method = "session/prompt" ∧
      ∀ reason ∈ stopReasons, text (member value "stopReason") ≠ some reason) "protocol_result"
      "Prompt result requires a supported stopReason."
    pure s

def observeResponse (c : WireConfig) (s : WireState) (direction : Direction)
    (message : RecordValue) (id : Option RpcId) : Except HarnessError WireState := do
  let value := message.lookup "result"
  let error := message.lookup "error"
  failIf (id = none ∨ value.isSome = error.isSome) "invalid_envelope"
    "Response must contain exactly one result or error."
  let key := (id.map (pendingKey direction.other)).getD ""
  match s.pending.get key with
  | none => fail "unexpected_response" "Response ID is unknown or already completed."
  | some request => do
      let s ← onlyIf (direction = .client ∧ request.method = "session/request_permission")
        (s.permission request.sessionId request.toolCallId) s
      let s := { s with pending := s.pending.delete key }
      failIf (request.cancelled ∧ text (member value "stopReason") ≠ some "cancelled")
        "protocol_result" "A cancelled prompt must return stopReason cancelled."
      if error.isSome then
        failIf (safeInteger (member error "code") = none ∨ text (member error "message") = none)
          "invalid_envelope" "RPC error requires an integer code and string message."
        pure s
      else if direction = .provider then s.result c request.method value
      else pure s

/-! ## Requests and notifications -/

/-- What the harness lets a client ask for at its first request. -/
def isHarnessInitialization (params : Option Json) : Bool :=
  safeInteger (member params "protocolVersion") = some 1 ∧
    (record (member params "clientCapabilities")).any (·.isEmpty)

/-- A session of the synthetic workspace, without servers or further directories. -/
def isSyntheticSession (c : WireConfig) (params : Option Json) : Bool :=
  text (member params "cwd") = some c.workspace ∧
    (items (member params "mcpServers")).any (·.isEmpty) ∧
    (member params "additionalDirectories" = none ∨
      (items (member params "additionalDirectories")).any (·.isEmpty))

def requireTurn (s : WireState) (method : String) (params : Option Json) :
    Except HarnessError Unit :=
  match text (member params "sessionId") with
  | some sessionId => do
      failIf (s.sessions.get sessionId = none) "protocol_state"
        "Prompt and cancel require a session created on this connection."
      failIf (method = "session/prompt" ∧ s.activePrompt sessionId) "protocol_state"
        "A session cannot have overlapping prompts."
  | none =>
      fail "protocol_state" "Prompt and cancel require a session created on this connection."

def sessionUpdate (s : WireState) (id : Option RpcId) (params : Option Json) :
    Except HarnessError WireState :=
  match text (member params "sessionId") with
  | some sessionId => do
      failIf (id ≠ none ∨ s.sessions.get sessionId = none) "protocol_state"
        "Session updates must be notifications for a session created on this connection."
      let update := member params "update"
      let kind := text (member update "sessionUpdate")
      failIf ((∃ name ∈ turnUpdates, kind = some name) ∧ s.activePrompt sessionId = false)
        "protocol_state" "Content and tool updates require an outstanding prompt for their session."
      if kind = some "tool_call" ∨ kind = some "tool_call_update" then
        s.tool sessionId (member update "toolCallId") (kind = some "tool_call")
      else pure s
  | none =>
      fail "protocol_state"
        "Session updates must be notifications for a session created on this connection."

def requestPermission (s : WireState) (id : Option RpcId) (params : Option Json) :
    Except HarnessError WireState := do
  failIf (id = none ∨ record (member params "toolCall") = none) "protocol_state"
    "Permission must be a request identifying a session and tool."
  s.permission (member params "sessionId") (member (member params "toolCall") "toolCallId")

/-- A request stays pending until it is answered. -/
def addPending (s : WireState) (direction : Direction) (method : String) (id : Option RpcId)
    (params : Option Json) : Except HarnessError WireState :=
  match id with
  | none => pure s
  | some id => do
      let key := pendingKey direction id
      failIf (s.pending.get key ≠ none) "invalid_envelope" "Request ID is already active."
      pure
        { s with
          pending := s.pending.set key
            { method
              sessionId := member params "sessionId"
              toolCallId := member (member params "toolCall") "toolCallId"
              cancelled := false } }

def observeCall (c : WireConfig) (s : WireState) (direction : Direction)
    (message : RecordValue) (id : Option RpcId) : Except HarnessError WireState :=
  match text (message.lookup "method") with
  | none => fail "invalid_envelope" "Request or notification has an invalid envelope."
  | some method => do
      failIf ((message.lookup "result").isSome ∨ (message.lookup "error").isSome)
        "invalid_envelope" "Request or notification has an invalid envelope."
      failIf (direction = .client ∧ method.startsWith "session/" ∧
        (method ∉ clientSessionMethods ∨ (method = "session/cancel" ↔ id.isSome)))
        "protocol_state"
        "Session method or message kind is outside the supported lifecycle safety boundary."
      let params := message.lookup "params"
      failIf (params.isSome ∧ record params = none) "invalid_envelope"
        "ACP params must be an object."
      validatePayload c method .params params
      failIf (direction = .client ∧ method = "session/new" ∧ s.initialized = false)
        "protocol_state" "Initialize must complete before creating a session."
      failIf (direction = .client ∧ method = "initialize" ∧
        isHarnessInitialization params = false) "protocol_state"
        "Harness initialization requires version 1 and no optional client capabilities."
      failIf (direction = .client ∧ method = "session/new" ∧
        isSyntheticSession c params = false) "protocol_state"
        ("Sessions must use the synthetic workspace without MCP servers or additional " ++
          "directories.")
      onlyIf (direction = .client ∧ (method = "session/prompt" ∨ method = "session/cancel"))
        (s.requireTurn method params) ()
      let s ← onlyIf (direction = .provider ∧ method = "session/update")
        (s.sessionUpdate id params) s
      let s ← onlyIf (direction = .provider ∧ method = "session/request_permission")
        (s.requestPermission id params) s
      let s :=
        if direction = .client ∧ method = "session/cancel" then
          (text (member params "sessionId")).elim s s.cancelPrompts
        else s
      s.addPending direction method id params

def observe (c : WireConfig) (s : WireState) (direction : Direction) (message : RecordValue) :
    Except HarnessError WireState := do
  failIf (c.events < s.events + 1) "event_limit" "Protocol event count exceeded its budget."
  let s := { s with events := s.events + 1 }
  let id := (message.lookup "id").bind rpcId
  failIf ((message.lookup "id").isSome ∧ id = none) "invalid_envelope"
    "JSON-RPC ID must be a string or safe integer."
  if (message.lookup "method").isSome then s.observeCall c direction message id
  else s.observeResponse c direction message id

end WireState

end Torsor.AcpConformance
