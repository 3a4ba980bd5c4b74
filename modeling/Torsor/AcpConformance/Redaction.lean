import Mathlib.Logic.Equiv.Basic
import Torsor.AcpConformance.Transcript
import Torsor.Library.Coupling

/-! # What a transcript may tell

The projection of a message keeps its direction, its shape and the listed facts; its ids are
renamed. A transcript is a function of the projections alone.
-/

namespace Torsor.AcpConformance
open Torsor.Library WireState

/-! ## Projections -/

/-- Other names for the ids: a request id is known by its side, a tool id by its session. -/
structure Renaming (ι σ τ : Type) where
  request : Direction → RpcId → ι
  session : String → σ
  tool : String → String → τ
  request_injective : ∀ owner, (request owner).Injective
  session_injective : session.Injective
  tool_injective : ∀ sessionId, (tool sessionId).Injective

/-- One renaming for both sides and for all sessions. -/
def Renaming.permuting (request : Equiv.Perm RpcId) (session tool : Equiv.Perm String) :
    Renaming RpcId String String where
  request := fun _ => request
  session := session
  tool := fun _ => tool
  request_injective := fun _ => request.injective
  session_injective := session.injective
  tool_injective := fun _ => tool.injective

/-- A text of which only a listed word is told. -/
inductive Listed where
  | word (word : String)
  | other
deriving DecidableEq, Repr

def Listed.of (words : List String) (word : String) : Listed :=
  if word ∈ words then .word word else .other

structure ToolFacts (τ : Type) where
  toolCallId : Option τ
  kind : Option Listed
  status : Option Listed
deriving DecidableEq

structure UpdateFacts (τ : Type) where
  sessionUpdate : Listed
  tool : Option (ToolFacts τ)
deriving DecidableEq

structure CapabilityFacts where
  loadSession : List (String × Bool)
  prompt : Option (List (String × Bool))
  mcp : Option (List (String × Bool))
deriving DecidableEq

structure PayloadFacts (σ τ : Type) where
  protocolVersion : Option Int
  sessionId : Option σ
  stopReason : Option Listed
  agentCapabilities : Option CapabilityFacts
  hasClientCapabilities : Bool
  authMethods : Option Nat
  hasCwd : Bool
  hasPrompt : Bool
  update : Option (UpdateFacts τ)
  toolCall : Option (ToolFacts τ)
  /-- Whether a permission outcome is cancelled. -/
  cancelled : Option Bool
deriving DecidableEq

structure MessageFacts (ι σ τ : Type) where
  direction : Direction
  method : Option Listed
  id : Option ι
  error : Option Int
  /-- A result that is not an object tells nothing more. -/
  result : Option (Option (PayloadFacts σ τ))
  params : Option (PayloadFacts σ τ)
deriving DecidableEq

inductive EntryFacts (ι σ τ : Type) where
  | message (facts : MessageFacts ι σ τ)
  | harness (kind : String)
deriving DecidableEq

section
variable {ι σ τ : Type} (ρ : Renaming ι σ τ)

def ToolFacts.of (sessionId : String) (value : Option Json) : ToolFacts τ where
  toolCallId := (text (member value "toolCallId")).map (ρ.tool sessionId)
  kind := (text (member value "kind")).map (Listed.of toolKinds)
  status := (text (member value "status")).map (Listed.of toolStatuses)

def UpdateFacts.of (method : Option String) (sessionId : Option String) (value : Option Json) :
    UpdateFacts τ where
  sessionUpdate := ((text (member value "sessionUpdate")).map (Listed.of updates)).getD .other
  tool := sessionId.bind fun sessionId =>
    if isToolUpdate method value then some (.of ρ sessionId value) else none

def CapabilityFacts.of (value : Option Json) : CapabilityFacts where
  loadSession := flags ["loadSession"] value
  prompt := (record (member value "promptCapabilities")).map fun _ =>
    flags nestedCapabilities (member value "promptCapabilities")
  mcp := (record (member value "mcpCapabilities")).map fun _ =>
    flags nestedCapabilities (member value "mcpCapabilities")

def PayloadFacts.of (method : Option String) (value : Option Json) : PayloadFacts σ τ where
  protocolVersion := safeInteger (member value "protocolVersion")
  sessionId := (text (member value "sessionId")).map ρ.session
  stopReason := (text (member value "stopReason")).map (Listed.of stops)
  agentCapabilities := (record (member value "agentCapabilities")).map fun _ =>
    .of (member value "agentCapabilities")
  hasClientCapabilities := (record (member value "clientCapabilities")).isSome
  authMethods := (items (member value "authMethods")).map List.length
  hasCwd := (member value "cwd").isSome
  hasPrompt := (member value "prompt").isSome
  update := (record (member value "update")).map fun _ =>
    .of ρ method (text (member value "sessionId")) (member value "update")
  toolCall := (text (member value "sessionId")).bind fun sessionId =>
    if method = some "session/request_permission" then
      (record (member value "toolCall")).map fun _ => .of ρ sessionId (member value "toolCall")
    else none
  cancelled := (record (member value "outcome")).map fun _ =>
    text (member (member value "outcome") "outcome") = some "cancelled"

def project (f : Frame) : MessageFacts ι σ τ where
  direction := f.direction
  method := f.method.map (Listed.of methods)
  id := f.id.map (ρ.request (idOwner f.method.isSome f.direction))
  error := safeInteger (member (f.message.lookup "error") "code")
  result := f.result.map fun value =>
    (record (some value)).map fun _ => .of ρ none (some value)
  params := (record (f.message.lookup "params")).map fun _ =>
    .of ρ f.method (f.message.lookup "params")

def projectEntry : Entry → EntryFacts ι σ τ
  | .message f => .message (project ρ f)
  | .harness kind => .harness kind

end

/-! ## The transcript of projections -/

def Listed.toJson (placeholder : String) : Listed → Json
  | .word w => .string w
  | .other => .string placeholder

section
variable {ι σ τ : Type} [DecidableEq ι] [DecidableEq σ] [DecidableEq τ]

/-- Aliases of renamed ids. -/
abbrev Redactor (ι σ τ : Type) (α : Type) : Type :=
  StateM (Aliases (Direction × ι) σ (σ × τ)) α

def ToolFacts.redact (facts : ToolFacts τ) (session : σ) : Redactor ι σ τ RecordValue := do
  let toolCallId ← facts.toolCallId.mapM fun id => toolAlias (session, id)
  return optionalField "toolCallId" (toolCallId.map .string) ++
    optionalField "kind" (facts.kind.map (Listed.toJson "<unknown>")) ++
    optionalField "status" (facts.status.map (Listed.toJson "<unknown>"))

def UpdateFacts.redactTool (facts : UpdateFacts τ) (session : Option σ) :
    Redactor ι σ τ RecordValue :=
  match session, facts.tool with
  | some session, some tool => tool.redact session
  | _, _ => pure []

def UpdateFacts.redact (facts : UpdateFacts τ) (session : Option σ) :
    Redactor ι σ τ RecordValue := do
  let tool ← facts.redactTool session
  return ("sessionUpdate", facts.sessionUpdate.toJson "<unknown>") :: tool

def CapabilityFacts.redact (facts : CapabilityFacts) : RecordValue :=
  flagFields facts.loadSession ++
    (optionalField "promptCapabilities" (facts.prompt.map fun fs => .object (flagFields fs)) ++
      optionalField "mcpCapabilities" (facts.mcp.map fun fs => .object (flagFields fs)))

def presence (value : Json) (present : Bool) : Option Json := if present then some value else none

def PayloadFacts.redactTool (facts : PayloadFacts σ τ) :
    Redactor ι σ τ (Option RecordValue) :=
  match facts.sessionId with
  | some session => facts.toolCall.mapM fun tool => tool.redact session
  | none => pure none

def PayloadFacts.redact (facts : PayloadFacts σ τ) : Redactor ι σ τ RecordValue := do
  let session ← facts.sessionId.mapM sessionAlias
  let updated ← facts.update.mapM fun update => update.redact facts.sessionId
  let called ← facts.redactTool
  return optionalField "protocolVersion" (facts.protocolVersion.map fun n : Int => .number n) ++
    optionalField "sessionId" (session.map .string) ++
    optionalField "stopReason" (facts.stopReason.map (Listed.toJson "<unknown>")) ++
    optionalField "agentCapabilities" (facts.agentCapabilities.map fun fs => .object fs.redact) ++
    optionalField "clientCapabilities" (presence (.object []) facts.hasClientCapabilities) ++
    optionalField "authMethodCount" (facts.authMethods.map fun n : Nat => .number n) ++
    optionalField "cwd" (presence (.string "<workspace>") facts.hasCwd) ++
    optionalField "prompt" (presence (.string "<redacted>") facts.hasPrompt) ++
    optionalField "update" (updated.map .object) ++
    optionalField "toolCall" (called.map .object) ++
    optionalField "outcome" (facts.cancelled.map fun cancelled =>
      .object [("outcome", .string (if cancelled then "cancelled" else "<redacted>"))])

def redactPayload : Option (PayloadFacts σ τ) → Redactor ι σ τ RecordValue
  | some facts => facts.redact
  | none => pure [("value", .string "<redacted>")]

def MessageFacts.redactAnswer (facts : MessageFacts ι σ τ) : Redactor ι σ τ RecordValue :=
  match facts.error with
  | some code => pure [("error", .object [("code", .number code)])]
  | none => do
      let result ← facts.result.mapM redactPayload
      return optionalField "result" (result.map .object)

def MessageFacts.redact (facts : MessageFacts ι σ τ) : Redactor ι σ τ RecordValue := do
  let owner := idOwner facts.method.isSome facts.direction
  let request ← facts.id.mapM fun id => requestAlias (owner, id)
  let answer ← facts.redactAnswer
  let params ← facts.params.mapM PayloadFacts.redact
  return [("jsonrpc", .string "2.0")] ++ optionalField "id" (request.map .string) ++
    optionalField "method" (facts.method.map (Listed.toJson "<extension>")) ++ answer ++
    optionalField "params" (params.map .object)

def redactAll : List (EntryFacts ι σ τ) → Transcript (Direction × ι) σ (σ × τ)
  | [] => .empty
  | .harness kind :: before => (redactAll before).add .harness kind []
  | .message facts :: before =>
      (redactAll before).addWith facts.direction
        (messageKind facts.method.isSome facts.id.isSome) facts.redact

end

end Torsor.AcpConformance
