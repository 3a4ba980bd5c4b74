import Mathlib.Data.Rat.Defs
import Torsor.Library.JsText
import Torsor.Library.Table
import Torsor.AgentRuntime.ToolActivity

/-! # Action plans

A provider ends its turn with one envelope of actions. The envelope is read as a whole and
checked against the limits and against the cause of the activation before any action is applied.
-/

namespace Torsor.AgentRuntime.Copilot
open Torsor.Library

/-- Numbers by their value; `none` is one too large for a double. -/
abbrev Json : Type := JsonValue (Option Rat)

structure CopilotAcpLimits where
  maxFrameBytes : Nat
  maxStdoutBytes : Nat
  maxStreamBytes : Nat
  maxActivityBytes : Nat
  maxPendingPersistenceOperations : Nat
  maxJsonDepth : Nat
  maxActionCount : Nat
  maxTargetCount : Nat
  maxFieldLength : Nat

inductive AcpError where
  /-- `ActionEnvelopeFormatError`, for which the provider is asked again. -/
  | actionFormat
  | protocol (error : ProviderProtocolError)
  | execution (diagnosticCode : String)
  | interrupted
  | other
deriving DecidableEq, Repr

abbrev Checked (α : Type) : Type := Except AcpError α

def protocolError {α : Type} : Checked α := .error (.protocol {})

/-! ## Actions -/

inductive RetentionClass where
  | durable
  | transient
deriving DecidableEq, Repr

structure ReplyDraft where
  body : JsString
  targetAgentIds : Option (List JsString)
  expectedThreadCursor : Option Nat

inductive CopilotAction where
  | publishReport (idempotencyKey text : JsString)
  | createRun
  | continueRun (runId : JsString)
  | ignoreAttention (reason : JsString)
  | appendActivity (kind : JsString) (payload : Json) (retentionClass : Option RetentionClass)
  | publishReply (reply : ReplyDraft)
  | reportStatus (status : JsString) (detail : Option JsString)
  | complete (incorporatedThroughInputSequence : Option Nat) (finalReply : Option ReplyDraft)
  | fail (reason : JsString)
  | wait (reason : JsString)

inductive ActionType where
  | publishReport | createRun | continueRun | ignoreAttention | appendActivity | publishReply
  | reportStatus | complete | fail | wait
deriving DecidableEq, Repr

def ActionType.name : ActionType → String
  | .publishReport => "publish_report"
  | .createRun => "create_run"
  | .continueRun => "continue_run"
  | .ignoreAttention => "ignore_attention"
  | .appendActivity => "append_activity"
  | .publishReply => "publish_reply"
  | .reportStatus => "report_status"
  | .complete => "complete"
  | .fail => "fail"
  | .wait => "wait"

def actionTypes : List ActionType :=
  [.publishReport, .createRun, .continueRun, .ignoreAttention, .appendActivity, .publishReply,
    .reportStatus, .complete, .fail, .wait]

namespace CopilotAction

/-- The decisions about an attention. -/
def isDecision : CopilotAction → Bool
  | .createRun | .continueRun _ | .ignoreAttention _ => true
  | _ => false

/-- The actions that end a run's activation. -/
def isTerminal : CopilotAction → Bool
  | .complete _ _ | .fail _ | .wait _ => true
  | _ => false

def isReport : CopilotAction → Bool
  | .publishReport _ _ => true
  | _ => false

end CopilotAction

/-! ## Texts -/

/-- White space of the language, which `trim` and `\s` agree on. -/
def isSpace (u : UInt16) : Bool :=
  u ∈ [9, 10, 11, 12, 13, 32, 0xA0, 0x1680, 0x2028, 0x2029, 0x202F, 0x205F, 0x3000, 0xFEFF] ∨
    (0x2000 ≤ u ∧ u ≤ 0x200A)

def trimEnd (s : JsString) : JsString := (s.reverse.dropWhile isSpace).reverse

def trim (s : JsString) : JsString := trimEnd (s.dropWhile isSpace)

def fence : JsString := units "```"

def toLower (u : UInt16) : UInt16 := if 65 ≤ u ∧ u ≤ 90 then u + 32 else u

/-- Without the opening of a fenced block. -/
def dropOpening (s : JsString) : JsString :=
  let rest := s.drop fence.length
  let rest := if (rest.take 4).map toLower = units "json" then rest.drop 4 else rest
  rest.dropWhile isSpace

/-- Without the end of a fenced block. -/
def dropClosing (s : JsString) : JsString :=
  if fence.isSuffixOf s then trimEnd (s.take (s.length - fence.length)) else s

def normalized (output : JsString) : JsString :=
  let trimmed := trim output
  if fence.isPrefixOf trimmed then dropClosing (dropOpening trimmed) else trimmed

/-! ## Values -/

mutual

/-- No part of the value lies deeper than the bound. -/
def withinDepth {ν : Type} (maxDepth depth : Nat) : JsonValue ν → Bool
  | .array items => depth ≤ maxDepth && withinDepthItems maxDepth (depth + 1) items
  | .object fields => depth ≤ maxDepth && withinDepthFields maxDepth (depth + 1) fields
  | _ => depth ≤ maxDepth

def withinDepthItems {ν : Type} (maxDepth depth : Nat) : List (JsonValue ν) → Bool
  | [] => true
  | value :: rest => withinDepth maxDepth depth value && withinDepthItems maxDepth depth rest

def withinDepthFields {ν : Type} (maxDepth depth : Nat) : List (JsString × JsonValue ν) → Bool
  | [] => true
  | field :: rest => withinDepthField maxDepth depth field && withinDepthFields maxDepth depth rest

def withinDepthField {ν : Type} (maxDepth depth : Nat) : JsString × JsonValue ν → Bool
  | (_, value) => withinDepth maxDepth depth value

end

mutual

/-- Every number in the value is finite. -/
def allFinite : Json → Bool
  | .number value => value.isSome
  | .array items => allFiniteItems items
  | .object fields => allFiniteFields fields
  | _ => true

def allFiniteItems : List Json → Bool
  | [] => true
  | value :: rest => allFinite value && allFiniteItems rest

def allFiniteFields : List (JsString × Json) → Bool
  | [] => true
  | field :: rest => allFiniteField field && allFiniteFields rest

def allFiniteField : JsString × Json → Bool
  | (_, value) => allFinite value

end

def assertJsonDepth (value : Json) (maxDepth : Nat) : Checked Unit :=
  if withinDepth maxDepth 0 value then pure () else protocolError

/-- The value itself, if it can be serialized. -/
def toJsonValue (value : Option Json) (maxDepth : Nat) : Checked Json :=
  match value with
  | none => protocolError
  | some value => do
      assertJsonDepth value maxDepth
      if allFinite value then pure value else protocolError

def textOf (value : Option Json) : Option JsString := value.bind JsonValue.text

def isRecord : Json → Bool
  | .object _ => true
  | _ => false

def getRecord (value : Option Json) : Checked Json :=
  match value with
  | some value => if isRecord value then pure value else protocolError
  | none => protocolError

def requireBoundedString (value : Option Json) (maxLength : Nat) : Checked JsString :=
  match textOf value with
  | none => protocolError
  | some s =>
      if trim s = [] then protocolError
      else if maxLength < s.length then protocolError
      else pure s

def itemsOf : Json → Option (List Json)
  | .array items => some items
  | _ => none

/-- A non-negative integer, where there is a value. -/
def optionalNumber (value : Option Json) : Checked (Option Nat) :=
  match value with
  | none => pure none
  | some (.number (some q)) =>
      if q.den = 1 ∧ 0 ≤ q.num then pure (some q.num.toNat) else protocolError
  | some _ => protocolError

def optionalStringArray (value : Option Json) (limits : CopilotAcpLimits) :
    Checked (Option (List JsString)) :=
  match value with
  | none => pure none
  | some value =>
      match itemsOf value with
      | none => protocolError
      | some items =>
          if items.any fun item => item.text = none then protocolError
          else if limits.maxTargetCount < items.length then protocolError
          else
            some <$> items.mapM fun item => requireBoundedString (some item) limits.maxFieldLength

def optionalBoundedString (value : Option Json) (maxLength : Nat) : Checked (Option JsString) :=
  match value with
  | none => pure none
  | some value => some <$> requireBoundedString (some value) maxLength

def optionalRetention (value : Option Json) : Checked (Option RetentionClass) :=
  match value with
  | none => pure none
  | some value =>
      if value.text = some (units "durable") then pure (some .durable)
      else if value.text = some (units "transient") then pure (some .transient)
      else protocolError

/-- The fields of a reply, in the action itself or under `finalReply`. -/
def parseReply (reply : Json) (limits : CopilotAcpLimits) : Checked ReplyDraft := do
  let body ← requireBoundedString (reply.field "body") limits.maxFieldLength
  let targetAgentIds ← optionalStringArray (reply.field "targetAgentIds") limits
  let expectedThreadCursor ← optionalNumber (reply.field "expectedThreadCursor")
  return { body, targetAgentIds, expectedThreadCursor }

def optionalReply (value : Option Json) (limits : CopilotAcpLimits) :
    Checked (Option ReplyDraft) :=
  match value with
  | none => pure none
  | some value => do
      let reply ← getRecord (some value)
      some <$> parseReply reply limits

/-! ## Parsing -/

def keysOf : Json → List JsString
  | .object fields => fields.map Prod.fst
  | _ => []

def parseActionOf (type : ActionType) (action : Json) (limits : CopilotAcpLimits) :
    Checked CopilotAction :=
  let bounded (name : String) (maxLength : Nat) :=
    requireBoundedString (action.field name) maxLength
  match type with
  | .publishReport =>
      if (keysOf action).any (· ∉ ["type", "idempotencyKey", "text"].map units) then protocolError
      else do
        let idempotencyKey ← bounded "idempotencyKey" 256
        let text ← bounded "text" limits.maxFieldLength
        return .publishReport idempotencyKey text
  | .createRun => return .createRun
  | .continueRun => do
      let runId ← bounded "runId" limits.maxFieldLength
      return .continueRun runId
  | .ignoreAttention => do
      let reason ← bounded "reason" limits.maxFieldLength
      return .ignoreAttention reason
  | .appendActivity => do
      let kind ← bounded "kind" (min 256 limits.maxFieldLength)
      let payload ← toJsonValue (action.field "payload") limits.maxJsonDepth
      let retentionClass ← optionalRetention (action.field "retentionClass")
      return .appendActivity kind payload retentionClass
  | .publishReply => do
      let reply ← parseReply action limits
      return .publishReply reply
  | .reportStatus => do
      let status ← bounded "status" (min 256 limits.maxFieldLength)
      let detail ← optionalBoundedString (action.field "detail") limits.maxFieldLength
      return .reportStatus status detail
  | .complete => do
      let sequence ← optionalNumber (action.field "incorporatedThroughInputSequence")
      let finalReply ← optionalReply (action.field "finalReply") limits
      return .complete sequence finalReply
  | .fail => do
      let reason ← bounded "reason" limits.maxFieldLength
      return .fail reason
  | .wait => do
      let reason ← bounded "reason" limits.maxFieldLength
      return .wait reason

def parseAction (limits : CopilotAcpLimits) (action : Json) : Checked CopilotAction :=
  if isRecord action = false ∨ textOf (action.field "type") = none ∨
      textOf (action.field "type") = some [] then
    .error .actionFormat
  else do
    let type ← requireBoundedString (action.field "type") 64
    match actionTypes.find? fun known => units known.name = type with
    | some known => parseActionOf known action limits
    | none => protocolError

/-- The envelope is read by `JSON.parse`. -/
def parseActions (jsonParse : JsString → Option Json) (limits : CopilotAcpLimits)
    (output : JsString) : Checked (List CopilotAction) :=
  match jsonParse (normalized output) with
  | none => .error .actionFormat
  | some parsed => do
      assertJsonDepth parsed limits.maxJsonDepth
      match (parsed.field "actions").bind itemsOf with
      | none => .error .actionFormat
      | some actions =>
          if actions.length = 0 then .error .actionFormat
          else if limits.maxActionCount < actions.length then protocolError
          else actions.mapM (parseAction limits)

/-! ## Plans -/

inductive CauseType where
  | attention
  | run
deriving DecidableEq, Repr

/-- The places of the actions that end a run's activation. -/
def terminalIndexes (actions : List CopilotAction) : List Nat :=
  (List.range actions.length).filter fun i => actions[i]?.any CopilotAction.isTerminal

def validateActionPlan (actions : List CopilotAction) (cause : CauseType) : Checked Unit :=
  match cause with
  | .attention =>
      if actions.length ≠ 1 ∨ actions.head?.any CopilotAction.isDecision = false then protocolError
      else pure ()
  | .run =>
      if actions.any CopilotAction.isDecision then protocolError
      else if terminalIndexes actions ≠ [actions.length - 1] then protocolError
      else pure ()

/-! ## What a plan is -/

/-- Text that a field may hold. -/
def Bounded (maxLength : Nat) (s : JsString) : Prop := trim s ≠ [] ∧ s.length ≤ maxLength

def ReplyDraft.Within (limits : CopilotAcpLimits) (reply : ReplyDraft) : Prop :=
  Bounded limits.maxFieldLength reply.body ∧
    ∀ ids, reply.targetAgentIds = some ids → ids.length ≤ limits.maxTargetCount ∧
      ∀ id ∈ ids, Bounded limits.maxFieldLength id

def CopilotAction.Within (limits : CopilotAcpLimits) : CopilotAction → Prop
  | .publishReport idempotencyKey text =>
      Bounded 256 idempotencyKey ∧ Bounded limits.maxFieldLength text
  | .createRun => True
  | .continueRun runId => Bounded limits.maxFieldLength runId
  | .ignoreAttention reason => Bounded limits.maxFieldLength reason
  | .appendActivity kind payload _ =>
      Bounded (min 256 limits.maxFieldLength) kind ∧
        withinDepth limits.maxJsonDepth 0 payload = true ∧ allFinite payload = true
  | .publishReply reply => reply.Within limits
  | .reportStatus status detail =>
      Bounded (min 256 limits.maxFieldLength) status ∧
        ∀ s, detail = some s → Bounded limits.maxFieldLength s
  | .complete _ finalReply => ∀ reply, finalReply = some reply → reply.Within limits
  | .fail reason => Bounded limits.maxFieldLength reason
  | .wait reason => Bounded limits.maxFieldLength reason

/-- An attention is decided once; a run's activation is ended once, at the end. -/
def ValidFor (cause : CauseType) (plan : List CopilotAction) : Prop :=
  match cause with
  | .attention => ∃ action, plan = [action] ∧ action.isDecision = true
  | .run => ∃ before last, plan = before ++ [last] ∧ last.isTerminal = true ∧
      (∀ action ∈ before, action.isTerminal = false) ∧ ∀ action ∈ plan, action.isDecision = false

/-- All the limits that a plan keeps. -/
structure WithinLimits (limits : CopilotAcpLimits) (plan : List CopilotAction) : Prop where
  nonempty : plan ≠ []
  count : plan.length ≤ limits.maxActionCount
  actions : ∀ action ∈ plan, action.Within limits

/-! ## Parsed plans -/

section
variable {limits : CopilotAcpLimits}

@[simp] theorem protocolError_eq_ok {α : Type} {a : α} :
    (protocolError : Checked α) = .ok a ↔ False := by
  simp [protocolError]

@[simp] theorem checked_bind_eq_ok {α β : Type} {x : Checked α} {f : α → Checked β} {b : β} :
    (x >>= f) = .ok b ↔ ∃ a, x = .ok a ∧ f a = .ok b := by
  cases x with
  | error e => simp [bind, Except.bind]
  | ok a => simp [bind, Except.bind]

@[simp] theorem checked_pure_eq_ok {α : Type} {a b : α} :
    (pure a : Checked α) = .ok b ↔ a = b := by
  simp [pure, Except.pure]

@[simp] theorem checked_map_eq_ok {α β : Type} {x : Checked α} {f : α → β} {b : β} :
    f <$> x = .ok b ↔ ∃ a, x = .ok a ∧ f a = b := by
  cases x with
  | error e => simp [Functor.map, Except.map]
  | ok a => simp [Functor.map, Except.map]

theorem mapM_eq_ok {α β : Type} {f : α → Checked β} {xs : List α} {ys : List β}
    (h : xs.mapM f = .ok ys) : List.Forall₂ (fun x y => f x = .ok y) xs ys := by
  induction xs generalizing ys with
  | nil =>
      rw [List.mapM_nil, checked_pure_eq_ok] at h
      subst h
      exact .nil
  | cons x rest ih =>
      rw [List.mapM_cons] at h
      simp only [checked_bind_eq_ok, checked_pure_eq_ok] at h
      obtain ⟨y, hy, ys, hys, rfl⟩ := h
      exact .cons hy (ih hys)

theorem requireBoundedString_ok {value : Option Json} {maxLength : Nat} {s : JsString}
    (h : requireBoundedString value maxLength = .ok s) : Bounded maxLength s := by
  unfold requireBoundedString at h
  split at h
  · simp at h
  · split_ifs at h with hblank hlong
    · simp at h
    · simp at h
    · rw [checked_pure_eq_ok] at h
      subst h
      exact ⟨hblank, by omega⟩

theorem optionalBoundedString_ok {value : Option Json} {maxLength : Nat} {o : Option JsString}
    (h : optionalBoundedString value maxLength = .ok o) :
    ∀ s, o = some s → Bounded maxLength s := by
  unfold optionalBoundedString at h
  split at h
  · rw [checked_pure_eq_ok] at h
    subst h
    rintro _ ⟨⟩
  · rw [checked_map_eq_ok] at h
    obtain ⟨s, hs, rfl⟩ := h
    rintro _ ⟨⟩
    exact requireBoundedString_ok hs

theorem toJsonValue_ok {value : Option Json} {maxDepth : Nat} {payload : Json}
    (h : toJsonValue value maxDepth = .ok payload) :
    withinDepth maxDepth 0 payload = true ∧ allFinite payload = true := by
  unfold toJsonValue assertJsonDepth at h
  split at h
  · simp at h
  · split_ifs at h with hdepth hfinite
    · simp only [checked_bind_eq_ok, checked_pure_eq_ok] at h
      obtain ⟨_, _, rfl⟩ := h
      exact ⟨hdepth, hfinite⟩
    all_goals simp at h

theorem optionalStringArray_ok {value : Option Json} {o : Option (List JsString)}
    (h : optionalStringArray value limits = .ok o) :
    ∀ ids, o = some ids → ids.length ≤ limits.maxTargetCount ∧
      ∀ id ∈ ids, Bounded limits.maxFieldLength id := by
  unfold optionalStringArray at h
  split at h
  · rw [checked_pure_eq_ok] at h
    subst h
    rintro _ ⟨⟩
  · split at h
    · simp at h
    · split_ifs at h with htext hcount
      · simp at h
      · simp at h
      · rw [checked_map_eq_ok] at h
        obtain ⟨ids, hids, rfl⟩ := h
        rintro _ ⟨⟩
        have hall := mapM_eq_ok hids
        refine ⟨by rw [← hall.length_eq]; omega, ?_⟩
        intro id hid
        obtain ⟨item, _, hitem⟩ := forall₂_mem_right hall hid
        exact requireBoundedString_ok hitem

theorem parseReply_ok {reply : Json} {draft : ReplyDraft}
    (h : parseReply reply limits = .ok draft) : draft.Within limits := by
  simp only [parseReply, checked_bind_eq_ok, checked_pure_eq_ok] at h
  obtain ⟨body, hbody, ids, hids, cursor, _, rfl⟩ := h
  exact ⟨requireBoundedString_ok hbody, optionalStringArray_ok hids⟩

theorem optionalReply_ok {value : Option Json} {o : Option ReplyDraft}
    (h : optionalReply value limits = .ok o) : ∀ reply, o = some reply → reply.Within limits := by
  unfold optionalReply at h
  split at h
  · rw [checked_pure_eq_ok] at h
    subst h
    rintro _ ⟨⟩
  · simp only [checked_bind_eq_ok, checked_map_eq_ok] at h
    obtain ⟨_, _, draft, hdraft, rfl⟩ := h
    rintro _ ⟨⟩
    exact parseReply_ok hdraft

theorem parseActionOf_ok {type : ActionType} {value : Json} {action : CopilotAction}
    (h : parseActionOf type value limits = .ok action) : action.Within limits := by
  cases type with
  | publishReport =>
      simp only [parseActionOf] at h
      split_ifs at h with hkeys
      · simp at h
      · simp only [checked_bind_eq_ok, checked_pure_eq_ok] at h
        obtain ⟨key, hkey, text, htext, rfl⟩ := h
        exact ⟨requireBoundedString_ok hkey, requireBoundedString_ok htext⟩
  | createRun =>
      simp only [parseActionOf, checked_pure_eq_ok] at h
      subst h
      exact trivial
  | continueRun =>
      simp only [parseActionOf, checked_bind_eq_ok, checked_pure_eq_ok] at h
      obtain ⟨runId, hrunId, rfl⟩ := h
      exact requireBoundedString_ok hrunId
  | ignoreAttention =>
      simp only [parseActionOf, checked_bind_eq_ok, checked_pure_eq_ok] at h
      obtain ⟨reason, hreason, rfl⟩ := h
      exact requireBoundedString_ok hreason
  | appendActivity =>
      simp only [parseActionOf, checked_bind_eq_ok, checked_pure_eq_ok] at h
      obtain ⟨kind, hkind, payload, hpayload, _, _, rfl⟩ := h
      exact ⟨requireBoundedString_ok hkind, toJsonValue_ok hpayload⟩
  | publishReply =>
      simp only [parseActionOf, checked_bind_eq_ok, checked_pure_eq_ok] at h
      obtain ⟨reply, hreply, rfl⟩ := h
      exact parseReply_ok hreply
  | reportStatus =>
      simp only [parseActionOf, checked_bind_eq_ok, checked_pure_eq_ok] at h
      obtain ⟨status, hstatus, detail, hdetail, rfl⟩ := h
      exact ⟨requireBoundedString_ok hstatus, optionalBoundedString_ok hdetail⟩
  | complete =>
      simp only [parseActionOf, checked_bind_eq_ok, checked_pure_eq_ok] at h
      obtain ⟨_, _, reply, hreply, rfl⟩ := h
      exact optionalReply_ok hreply
  | fail =>
      simp only [parseActionOf, checked_bind_eq_ok, checked_pure_eq_ok] at h
      obtain ⟨reason, hreason, rfl⟩ := h
      exact requireBoundedString_ok hreason
  | wait =>
      simp only [parseActionOf, checked_bind_eq_ok, checked_pure_eq_ok] at h
      obtain ⟨reason, hreason, rfl⟩ := h
      exact requireBoundedString_ok hreason

theorem parseAction_ok {value : Json} {action : CopilotAction}
    (h : parseAction limits value = .ok action) : action.Within limits := by
  unfold parseAction at h
  split_ifs at h with hformat
  simp only [checked_bind_eq_ok] at h
  obtain ⟨type, _, h⟩ := h
  split at h
  · exact parseActionOf_ok h
  · simp at h

/-- A plan is read only as a whole, and only within the limits. -/
theorem parseActions_ok {jsonParse : JsString → Option Json} {output : JsString}
    {plan : List CopilotAction} (h : parseActions jsonParse limits output = .ok plan) :
    WithinLimits limits plan ∧ ∃ envelope, jsonParse (normalized output) = some envelope ∧
      withinDepth limits.maxJsonDepth 0 envelope = true := by
  unfold parseActions at h
  split at h
  · cases h
  · rename_i envelope hparsed
    simp only [checked_bind_eq_ok, assertJsonDepth] at h
    obtain ⟨_, hdepth, h⟩ := h
    have hdepth : withinDepth limits.maxJsonDepth 0 envelope = true := by
      by_contra hno
      simp [hno] at hdepth
    split at h
    · cases h
    · rename_i actions _
      split_ifs at h with hempty hcount
      · simp at h
      · have hall := mapM_eq_ok h
        refine ⟨⟨?_, by rw [← hall.length_eq]; omega, ?_⟩, envelope, hparsed, hdepth⟩
        · rintro rfl
          exact hempty hall.length_eq
        · intro action haction
          obtain ⟨value, _, hvalue⟩ := forall₂_mem_right hall haction
          exact parseAction_ok hvalue

theorem terminalIndexes_append (before : List CopilotAction) (last : CopilotAction) :
    terminalIndexes (before ++ [last]) =
      terminalIndexes before ++ if last.isTerminal then [before.length] else [] := by
  unfold terminalIndexes
  rw [List.length_append, List.length_singleton, List.range_succ, List.filter_append]
  congr 1
  · apply List.filter_congr
    intro i hi
    rw [List.getElem?_append_left (List.mem_range.mp hi)]
  · by_cases hlast : last.isTerminal
    · simp [hlast]
    · simp [hlast]

theorem terminalIndexes_lt {plan : List CopilotAction} {i : Nat} (h : i ∈ terminalIndexes plan) :
    i < plan.length := List.mem_range.mp (List.mem_filter.mp h).1

theorem terminalIndexes_nil {plan : List CopilotAction} (h : terminalIndexes plan = []) :
    ∀ action ∈ plan, action.isTerminal = false := by
  intro action haction
  obtain ⟨i, hi⟩ := List.mem_iff_getElem?.mp haction
  by_contra hterminal
  have hmem : i ∈ terminalIndexes plan := by
    refine List.mem_filter.mpr ⟨List.mem_range.mpr (List.getElem?_eq_some_iff.mp hi).1, ?_⟩
    simpa [hi] using hterminal
  rw [h] at hmem
  cases hmem

theorem validateActionPlan_ok {plan : List CopilotAction} {cause : CauseType}
    (h : validateActionPlan plan cause = .ok ()) (hne : plan ≠ []) : ValidFor cause plan := by
  cases cause with
  | attention =>
      simp only [validateActionPlan] at h
      split_ifs at h with hbad
      · simp at h
      · obtain ⟨hlength, hdecision⟩ := not_or.mp hbad
        obtain ⟨action, rfl⟩ := List.length_eq_one_iff.mp (not_not.mp hlength)
        exact ⟨action, rfl, by simpa using hdecision⟩
  | run =>
      simp only [validateActionPlan] at h
      split_ifs at h with hdecision hterminal
      · simp at h
      · simp at h
      · obtain hnil | ⟨before, last, rfl⟩ := List.eq_nil_or_concat' plan
        · exact absurd hnil hne
        rw [not_not, terminalIndexes_append, List.length_append, List.length_singleton,
          Nat.add_sub_cancel] at hterminal
        have hlast : last.isTerminal = true := by
          by_contra hno
          rw [if_neg hno, List.append_nil] at hterminal
          have hmem : before.length ∈ terminalIndexes before := by
            rw [hterminal]
            exact List.mem_singleton_self _
          exact absurd (terminalIndexes_lt hmem) (lt_irrefl _)
        have hnil : terminalIndexes before = [] := by simpa [hlast] using hterminal
        refine ⟨before, last, rfl, hlast, terminalIndexes_nil hnil, ?_⟩
        intro action haction
        by_contra hyes
        rw [Bool.not_eq_false] at hyes
        exact hdecision (List.any_eq_true.mpr ⟨action, haction, hyes⟩)

end

end Torsor.AgentRuntime.Copilot
