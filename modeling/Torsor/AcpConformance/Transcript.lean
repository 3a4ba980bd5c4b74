import Torsor.AcpConformance.Lifecycle
import Torsor.Library.JsonQuote

/-! # The transcript of a connection

Every message that the observer accepts leaves an event. The event keeps the shape of the
message and a few listed facts; ids are replaced by aliases, numbered in the order in which they
first appear.
-/

namespace Torsor.AcpConformance
open Torsor.Library WireState

/-! ## Aliases -/

/-- The alias tables. How a key is spelled stays open. -/
structure Aliases (ι σ τ : Type) where
  ids : EntryMap ι String
  sessions : EntryMap σ String
  tools : EntryMap τ String

section
variable {ι σ τ κ : Type} [DecidableEq ι] [DecidableEq σ] [DecidableEq τ] [DecidableEq κ]

def Aliases.empty : Aliases ι σ τ := ⟨.empty, .empty, .empty⟩

/-- The alias of a key, new if the key is. -/
def aliasOf (map : EntryMap κ String) (key : κ) (label : String) : String × EntryMap κ String :=
  match map.get key with
  | some value => (value, map)
  | none =>
      let value := label ++ "-" ++ (map.size + 1).repr
      (value, map.set key value)

def requestAlias (key : ι) : StateM (Aliases ι σ τ) String := fun aliases =>
  let (value, ids) := aliasOf aliases.ids key "request"
  (value, { aliases with ids })

def sessionAlias (key : σ) : StateM (Aliases ι σ τ) String := fun aliases =>
  let (value, sessions) := aliasOf aliases.sessions key "session"
  (value, { aliases with sessions })

def toolAlias (key : τ) : StateM (Aliases ι σ τ) String := fun aliases =>
  let (value, tools) := aliasOf aliases.tools key "tool"
  (value, { aliases with tools })

end

/-- `JSON.stringify([sessionId, toolCallId])`. -/
def toolKey (sessionId toolCallId : String) : String :=
  String.ofList ('[' :: (JsonQuote.quote sessionId.toList ++ ',' ::
    (JsonQuote.quote toolCallId.toList ++ [']'])))

/-! ## What is listed -/

def methods : List String :=
  ["initialize", "session/new", "session/prompt", "session/cancel", "session/update",
    "session/request_permission", "fs/read_text_file", "fs/write_text_file", "terminal/create",
    "terminal/output", "terminal/kill", "terminal/release", "terminal/wait_for_exit"]

def updates : List String :=
  ["agent_message_chunk", "user_message_chunk", "agent_thought_chunk", "tool_call",
    "tool_call_update", "plan", "available_commands_update", "current_mode_update",
    "config_option_update", "session_info_update", "usage_update"]

def stops : List String :=
  ["end_turn", "cancelled", "refusal", "max_tokens", "max_turn_requests"]

def toolKinds : List String :=
  ["read", "edit", "delete", "move", "search", "execute", "think", "fetch", "switch_mode",
    "other"]

def toolStatuses : List String := ["pending", "in_progress", "completed", "failed"]

/-- The word itself if it is listed. -/
def listedOr (words : List String) (placeholder word : String) : Json :=
  .string (if word ∈ words then word else placeholder)

/-- A field that may be absent. -/
def optionalField (name : String) (value : Option Json) : RecordValue :=
  value.toList.map fun value => (name, value)

def flag : Option Json → Option Bool
  | some (.bool value) => some value
  | _ => none

/-- The boolean fields among those named. -/
def flags (names : List String) (value : Option Json) : List (String × Bool) :=
  names.filterMap fun name => (flag (member value name)).map fun b => (name, b)

def flagFields (values : List (String × Bool)) : RecordValue :=
  values.map fun (name, b) => (name, .bool b)

/-! ## Payloads -/

abbrev Recorder (α : Type) : Type := StateM (Aliases String String String) α

def tool (value : Option Json) (sessionId : String) : Recorder RecordValue := do
  let toolCallId ← (text (member value "toolCallId")).mapM fun toolCallId =>
    toolAlias (toolKey sessionId toolCallId)
  return optionalField "toolCallId" (toolCallId.map .string) ++
    optionalField "kind"
      ((text (member value "kind")).map (listedOr toolKinds "<unknown>")) ++
    optionalField "status"
      ((text (member value "status")).map (listedOr toolStatuses "<unknown>"))

def nestedCapabilities : List String := ["image", "audio", "embeddedContext", "http", "sse"]

def agentCapabilities (value : Option Json) : RecordValue :=
  flagFields (flags ["loadSession"] value) ++
    ["promptCapabilities", "mcpCapabilities"].flatMap fun key =>
      let nested := member value key
      optionalField key
        ((record nested).map fun _ => .object (flagFields (flags nestedCapabilities nested)))

/-- Only a tool call, or an update of one, names a tool. -/
def isToolUpdate (method : Option String) (update : Option Json) : Bool :=
  method = some "session/update" ∧
    (text (member update "sessionUpdate") = some "tool_call" ∨
      text (member update "sessionUpdate") = some "tool_call_update")

def updatedTool (method sessionId : Option String) (update : Option Json) : Recorder RecordValue :=
  match sessionId with
  | some sessionId => if isToolUpdate method update then tool update sessionId else pure []
  | none => pure []

def updateFields (method sessionId : Option String) (update : Option Json) :
    Recorder RecordValue := do
  let facts ← updatedTool method sessionId update
  return ("sessionUpdate", ((text (member update "sessionUpdate")).map
    (listedOr updates "<unknown>")).getD (.string "<unknown>")) :: facts

def permissionTool (method sessionId : Option String) (toolCall : Option Json) :
    Recorder (Option RecordValue) :=
  match sessionId with
  | some sessionId =>
      if method = some "session/request_permission" then
        (record toolCall).mapM fun _ => tool toolCall sessionId
      else pure none
  | none => pure none

def payload (value : Option Json) (method : Option String) : Recorder RecordValue :=
  if record value = none then return [("value", .string "<redacted>")]
  else do
    let sessionId := text (member value "sessionId")
    let update := member value "update"
    let session ← sessionId.mapM sessionAlias
    let updated ← (record update).mapM fun _ => updateFields method sessionId update
    let called ← permissionTool method sessionId (member value "toolCall")
    return optionalField "protocolVersion"
        ((safeInteger (member value "protocolVersion")).map fun n : Int => .number n) ++
      optionalField "sessionId" (session.map .string) ++
      optionalField "stopReason"
        ((text (member value "stopReason")).map (listedOr stops "<unknown>")) ++
      optionalField "agentCapabilities"
        ((record (member value "agentCapabilities")).map fun _ =>
          .object (agentCapabilities (member value "agentCapabilities"))) ++
      optionalField "clientCapabilities"
        ((record (member value "clientCapabilities")).map fun _ => .object []) ++
      optionalField "authMethodCount"
        ((items (member value "authMethods")).map fun list : List Json => .number list.length) ++
      optionalField "cwd" ((member value "cwd").map fun _ => .string "<workspace>") ++
      optionalField "prompt" ((member value "prompt").map fun _ => .string "<redacted>") ++
      optionalField "update" (updated.map .object) ++
      optionalField "toolCall" (called.map .object) ++
      optionalField "outcome"
        ((record (member value "outcome")).map fun _ => .object [("outcome", .string
          (if text (member (member value "outcome") "outcome") = some "cancelled"
            then "cancelled" else "<redacted>"))])

/-! ## Events -/

inductive EventDirection where
  | wire (direction : Direction)
  | harness
deriving DecidableEq, Repr

structure TranscriptEvent where
  schemaVersion : Nat
  sequence : Nat
  /-- In milliseconds. -/
  timestamp : Nat
  direction : EventDirection
  kind : String
  message : RecordValue

structure Transcript (ι σ τ : Type) where
  events : List TranscriptEvent
  aliases : Aliases ι σ τ

namespace Transcript

variable {ι σ τ : Type} [DecidableEq ι] [DecidableEq σ] [DecidableEq τ]

def empty : Transcript ι σ τ := ⟨[], .empty⟩

/-- The clock of a transcript is its length. -/
def add (t : Transcript ι σ τ) (direction : EventDirection) (kind : String)
    (message : RecordValue) : Transcript ι σ τ :=
  let sequence := t.events.length
  let event := { schemaVersion := 1, sequence, timestamp := sequence, direction, kind, message }
  { t with events := t.events ++ [event] }

/-- One more event, whose message needs aliases. -/
def addWith (t : Transcript ι σ τ) (direction : Direction) (kind : String)
    (message : StateM (Aliases ι σ τ) RecordValue) : Transcript ι σ τ :=
  let result := message.run t.aliases
  { t with aliases := result.2 }.add (.wire direction) kind result.1

end Transcript

def messageKind (isCall hasId : Bool) : String :=
  if isCall then (if hasId then "request" else "notification") else "response"

/-- The side whose request the id belongs to. -/
def idOwner (isCall : Bool) (direction : Direction) : Direction :=
  if isCall then direction else direction.other

def answerFields (error value : Option Json) : Recorder RecordValue :=
  match record error with
  | some _ => pure [("error", .object (optionalField "code" (member error "code")))]
  | none => do
      let result ← value.mapM fun value => payload (some value) none
      return optionalField "result" (result.map .object)

/-- The id is the one the observer has read. -/
def safeMessage (direction : Direction) (message : RecordValue) (id : Option RpcId) :
    Recorder RecordValue := do
  let method := text (message.lookup "method")
  let params := message.lookup "params"
  let owner := idOwner method.isSome direction
  let request ← id.mapM fun id => requestAlias (pendingKey owner id)
  let answer ← answerFields (message.lookup "error") (message.lookup "result")
  let params ← (record params).mapM fun _ => payload params method
  return [("jsonrpc", .string "2.0")] ++ optionalField "id" (request.map .string) ++
    optionalField "method" (method.map (listedOr methods "<extension>")) ++ answer ++
    optionalField "params" (params.map .object)

def Transcript.protocol (t : Transcript String String String) (direction : Direction)
    (message : RecordValue) (id : Option RpcId) : Transcript String String String :=
  t.addWith direction (messageKind (text (message.lookup "method")).isSome id.isSome)
    (safeMessage direction message id)

/-! ## A run -/

/-- What the transcript is told of: a message on the wire, or a step of the harness. -/
inductive Entry where
  | message (frame : Frame)
  | harness (kind : String)

/-- The observer and the transcript after a history, if all its messages are accepted. -/
def transcribe (c : WireConfig) :
    List Entry → Except HarnessError (WireState × Transcript String String String)
  | [] => pure (.start, .empty)
  | .harness kind :: before => do
      let (s, t) ← transcribe c before
      pure (s, t.add .harness kind [])
  | .message f :: before => do
      let (s, t) ← transcribe c before
      let s ← s.observe c f.direction f.message
      pure (s, t.protocol f.direction f.message f.id)

end Torsor.AcpConformance
