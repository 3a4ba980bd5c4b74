import Torsor.Library.EntryMap
import Torsor.Library.JsonValue

/-! # The public activity of a provider's tools

`CopilotToolActivity` turns the tool updates of a provider into public events. A tool starts
once, settles at most once, and is known by a number; nothing else of an update is published.
-/

namespace Torsor.AgentRuntime
open Torsor.Library

/-! ## Events -/

inductive ToolKind where
  | read | edit | delete | move | search | execute | think | fetch | switchMode | other
deriving DecidableEq, Repr

def ToolKind.name : ToolKind → String
  | .read => "read"
  | .edit => "edit"
  | .delete => "delete"
  | .move => "move"
  | .search => "search"
  | .execute => "execute"
  | .think => "think"
  | .fetch => "fetch"
  | .switchMode => "switch_mode"
  | .other => "other"

def toolKinds : List ToolKind :=
  [.read, .edit, .delete, .move, .search, .execute, .think, .fetch, .switchMode, .other]

inductive ToolStatus where
  | inProgress | completed | failed
deriving DecidableEq, Repr

def ToolStatus.name : ToolStatus → String
  | .inProgress => "in_progress"
  | .completed => "completed"
  | .failed => "failed"

inductive ToolEventKind where
  | toolStarted | toolCompleted | toolFailed
deriving DecidableEq, Repr

def ToolEventKind.name : ToolEventKind → String
  | .toolStarted => "tool_started"
  | .toolCompleted => "tool_completed"
  | .toolFailed => "tool_failed"

structure CopilotToolActivityEvent where
  kind : ToolEventKind
  toolCallId : String
  toolKind : ToolKind
  status : ToolStatus
deriving DecidableEq, Repr

/-- Every string in an event. -/
def CopilotToolActivityEvent.texts (e : CopilotToolActivityEvent) : List String :=
  [e.kind.name, e.toolCallId, e.toolKind.name, e.status.name]

structure ToolState where
  publicId : String
  kind : ToolKind
  status : ToolStatus
deriving DecidableEq, Repr

def event (state : ToolState) (status : ToolStatus) : CopilotToolActivityEvent where
  kind :=
    match status with
    | .inProgress => .toolStarted
    | .completed => .toolCompleted
    | .failed => .toolFailed
  toolCallId := state.publicId
  toolKind := state.kind
  status

/-! ## Updates -/

structure ProviderProtocolError where
  diagnosticCode : String := "provider_protocol_error"
deriving DecidableEq, Repr

def outputLimit : ProviderProtocolError := ⟨"provider_output_limit"⟩

inductive ToolUpdateType where
  | toolCall
  | toolCallUpdate
deriving DecidableEq, Repr

section Updates

variable {ν : Type}

def normalizeKind (value : JsonValue ν) : ToolKind :=
  (toolKinds.find? fun kind => value.text = some (units kind.name)).getD .other

def normalizeStatus (value : JsonValue ν) : Except ProviderProtocolError ToolStatus :=
  if value.text = some (units "pending") ∨ value.text = some (units "in_progress") then
    .ok .inProgress
  else if value.text = some (units "completed") then .ok .completed
  else if value.text = some (units "failed") then .ok .failed
  else .error {}

/-- Whether an update is about a tool. -/
def updateType (update : JsonValue ν) : Option ToolUpdateType :=
  let type := (update.field "sessionUpdate").bind JsonValue.text
  if type = some (units "tool_call") then some .toolCall
  else if type = some (units "tool_call_update") then some .toolCallUpdate
  else none

def requireToolId (update : JsonValue ν) : Except ProviderProtocolError JsString :=
  match (update.field "toolCallId").bind JsonValue.text with
  | some rawId => if rawId.length = 0 ∨ 256 < rawId.length then .error {} else .ok rawId
  | none => .error {}

/-- The status after an update; an absent one stays. -/
def statusAfter (previous : Option ToolState) (update : JsonValue ν) :
    Except ProviderProtocolError ToolStatus :=
  match update.field "status" with
  | none => .ok ((previous.map ToolState.status).getD .inProgress)
  | some value => normalizeStatus value

def kindAfter (previous : Option ToolState) (update : JsonValue ν) : ToolKind :=
  match update.field "kind" with
  | none => (previous.map ToolState.kind).getD .other
  | some value => normalizeKind value

end Updates

/-! ## The observer -/

structure CopilotToolActivity where
  maxToolCalls : Nat
  maxToolUpdates : Nat
  tools : EntryMap JsString ToolState
  updates : Nat

/-- `tool-1`, `tool-2`, ... -/
def toolId (n : Nat) : String := "tool-" ++ n.repr

namespace CopilotToolActivity

variable {ν : Type}

/-- The constructor, for limits that are integers. -/
def new (maxToolCalls maxToolUpdates : Nat) : Except ProviderProtocolError CopilotToolActivity :=
  if maxToolCalls < 1 ∨ 128 < maxToolCalls ∨ maxToolUpdates < 1 ∨ 512 < maxToolUpdates then
    .error {}
  else .ok ⟨maxToolCalls, maxToolUpdates, .empty, 0⟩

def assertComplete (s : CopilotToolActivity) : Except ProviderProtocolError Unit :=
  if s.tools.entries.any fun entry => entry.2.status = .inProgress then .error {} else .ok ()

/-- The event of a tool that has settled. -/
def terminal (state : ToolState) : List CopilotToolActivityEvent :=
  if state.status = .inProgress then [] else [event state state.status]

/-- What an update does to a tool, once its status and kind are known. -/
def settle (s : CopilotToolActivity) (rawId : JsString) (status : ToolStatus) (kind : ToolKind) :
    Except ProviderProtocolError (CopilotToolActivity × List CopilotToolActivityEvent) :=
  match s.tools.get rawId with
  | none =>
      let state : ToolState := ⟨toolId (s.tools.size + 1), kind, status⟩
      .ok ({ s with tools := s.tools.set rawId state },
        event state .inProgress :: terminal state)
  | some previous =>
      if previous.status ≠ .inProgress then
        if status ≠ previous.status ∨ kind ≠ previous.kind then .error {} else .ok (s, [])
      else
        let state : ToolState := ⟨previous.publicId, kind, status⟩
        .ok ({ s with tools := s.tools.set rawId state }, terminal state)

def observeTool (s : CopilotToolActivity) (type : ToolUpdateType) (update : JsonValue ν) :
    Except ProviderProtocolError (CopilotToolActivity × List CopilotToolActivityEvent) :=
  match requireToolId update with
  | .error e => .error e
  | .ok rawId =>
      let previous := s.tools.get rawId
      if previous = none ∧ type = .toolCallUpdate then .error {}
      else if previous = none ∧ s.maxToolCalls ≤ s.tools.size then .error outputLimit
      else
        match statusAfter previous update with
        | .error e => .error e
        | .ok status => s.settle rawId status (kindAfter previous update)

/-- One call; a failure leaves the update counted. -/
def accept (s : CopilotToolActivity) (update : JsonValue ν) :
    CopilotToolActivity × Except ProviderProtocolError (List CopilotToolActivityEvent) :=
  match updateType update with
  | none => (s, .ok [])
  | some type =>
      if s.maxToolUpdates ≤ s.updates then (s, .error outputLimit)
      else
        let counted := { s with updates := s.updates + 1 }
        match counted.observeTool type update with
        | .error e => (counted, .error e)
        | .ok (next, events) => (next, .ok events)

end CopilotToolActivity

/-! ## What one call does -/

/-- The tool an update is about. -/
def toolOf {ν : Type} (update : JsonValue ν) : Option JsString :=
  (updateType update).bind fun _ => (update.field "toolCallId").bind JsonValue.text

/-- The ways a call is accepted. -/
inductive ToolMove {ν : Type} (s : CopilotToolActivity) (update : JsonValue ν) :
    CopilotToolActivity → List CopilotToolActivityEvent → Prop where
  | ignored (h : toolOf update = none) : ToolMove s update s []
  | announced {rawId : JsString} {state : ToolState} (h : toolOf update = some rawId)
      (hnew : s.tools.get rawId = none) (hcalls : s.tools.size < s.maxToolCalls)
      (hupdates : s.updates < s.maxToolUpdates)
      (hid : state.publicId = toolId (s.tools.size + 1)) :
      ToolMove s update { s with tools := s.tools.set rawId state, updates := s.updates + 1 }
        (event state .inProgress :: CopilotToolActivity.terminal state)
  | progressed {rawId : JsString} {previous state : ToolState} (h : toolOf update = some rawId)
      (hprevious : s.tools.get rawId = some previous) (hrunning : previous.status = .inProgress)
      (hupdates : s.updates < s.maxToolUpdates) (hid : state.publicId = previous.publicId) :
      ToolMove s update { s with tools := s.tools.set rawId state, updates := s.updates + 1 }
        (CopilotToolActivity.terminal state)
  | repeated {rawId : JsString} {previous : ToolState} (h : toolOf update = some rawId)
      (hprevious : s.tools.get rawId = some previous) (hsettled : previous.status ≠ .inProgress)
      (hupdates : s.updates < s.maxToolUpdates)
      (hstatus : statusAfter (some previous) update = .ok previous.status)
      (hkind : kindAfter (some previous) update = previous.kind) :
      ToolMove s update { s with updates := s.updates + 1 } []

section Moves

variable {ν : Type} {s s' : CopilotToolActivity} {update : JsonValue ν}
  {events : List CopilotToolActivityEvent}

theorem requireToolId_text {rawId : JsString} (h : requireToolId update = .ok rawId) :
    (update.field "toolCallId").bind JsonValue.text = some rawId := by
  unfold requireToolId at h
  split at h
  · rename_i id hid
    split at h
    · cases h
    · cases h
      exact hid
  · cases h

/-- Everything an accepted call can do. -/
theorem accept_move (h : s.accept update = (s', .ok events)) : ToolMove s update s' events := by
  unfold CopilotToolActivity.accept at h
  cases htype : updateType update with
  | none =>
      rw [htype] at h
      cases h
      exact .ignored (by rw [toolOf, htype]; rfl)
  | some type =>
      simp only [htype] at h
      by_cases hlimit : s.maxToolUpdates ≤ s.updates
      · rw [if_pos hlimit] at h
        cases h
      · rw [if_neg hlimit] at h
        have hupdates : s.updates < s.maxToolUpdates := Nat.lt_of_not_le hlimit
        unfold CopilotToolActivity.observeTool at h
        cases hid : requireToolId update with
        | error e =>
            simp only [hid] at h
            cases h
        | ok rawId =>
            have htool : toolOf update = some rawId := by
              rw [toolOf, htype]
              exact requireToolId_text hid
            simp only [hid] at h
            cases hget : s.tools.get rawId with
            | none =>
                simp only [hget, true_and] at h
                by_cases hfirst : type = .toolCallUpdate
                · rw [if_pos hfirst] at h
                  cases h
                · rw [if_neg hfirst] at h
                  by_cases hcalls : s.maxToolCalls ≤ s.tools.size
                  · rw [if_pos hcalls] at h
                    cases h
                  · rw [if_neg hcalls] at h
                    cases hstatus : statusAfter none update with
                    | error e =>
                        simp only [hstatus] at h
                        cases h
                    | ok status =>
                        simp only [hstatus, CopilotToolActivity.settle, hget] at h
                        cases h
                        exact .announced htool hget (Nat.lt_of_not_le hcalls) hupdates rfl
            | some previous =>
                simp only [hget, reduceCtorEq, false_and, if_false] at h
                cases hstatus : statusAfter (some previous) update with
                | error e =>
                    simp only [hstatus] at h
                    cases h
                | ok status =>
                    simp only [hstatus, CopilotToolActivity.settle, hget] at h
                    by_cases hrunning : previous.status = .inProgress
                    · rw [if_neg (not_not_intro hrunning)] at h
                      cases h
                      exact .progressed htool hget hrunning hupdates rfl
                    · rw [if_pos hrunning] at h
                      by_cases hsame : status ≠ previous.status ∨
                          kindAfter (some previous) update ≠ previous.kind
                      · rw [if_pos hsame] at h
                        cases h
                      · rw [if_neg hsame] at h
                        cases h
                        push Not at hsame
                        exact .repeated htool hget hrunning hupdates (hsame.1 ▸ hstatus) hsame.2

end Moves

/-! ## What the stream of events is -/

/-- An accepted call and what it has emitted. -/
structure AcceptedCall (ν : Type) where
  update : JsonValue ν
  events : List CopilotToolActivityEvent

/-- The calls a new observer accepts one after another. -/
inductive Accepts {ν : Type} (s₀ : CopilotToolActivity) :
    List (AcceptedCall ν) → CopilotToolActivity → Prop where
  | nil : Accepts s₀ [] s₀
  | call {history : List (AcceptedCall ν)} {s s' : CopilotToolActivity} {update : JsonValue ν}
      {events : List CopilotToolActivityEvent} (h : Accepts s₀ history s)
      (haccept : s.accept update = (s', .ok events)) :
      Accepts s₀ (history ++ [⟨update, events⟩]) s'

section Streams

variable {ν : Type}

def AcceptedCall.tool (call : AcceptedCall ν) : Option JsString := toolOf call.update

/-- The events of a tool. -/
def toolEvents (rawId : JsString) (history : List (AcceptedCall ν)) :
    List CopilotToolActivityEvent :=
  history.flatMap fun call => if call.tool = some rawId then call.events else []

/-- The tools, in the order in which they appear. -/
def rawIds (history : List (AcceptedCall ν)) : List JsString :=
  (history.filterMap AcceptedCall.tool).eraseDups

/-- A tool has started, and perhaps settled. -/
inductive ToolStream (publicId : String) : List CopilotToolActivityEvent → Prop where
  | started (kind : ToolKind) :
      ToolStream publicId [event ⟨publicId, kind, .inProgress⟩ .inProgress]
  | settled (kind : ToolKind) (state : ToolState) (hid : state.publicId = publicId)
      (hsettled : state.status ≠ .inProgress) :
      ToolStream publicId
        [event ⟨publicId, kind, .inProgress⟩ .inProgress, event state state.status]

/-- The update says nothing new about a tool that has settled. -/
structure Repeats (update : JsonValue ν) (e : CopilotToolActivityEvent) : Prop where
  status : ∀ value, update.field "status" = some value → normalizeStatus value = .ok e.status
  kind : ∀ value, update.field "kind" = some value → normalizeKind value = e.toolKind

/-- The strings that any event may contain. -/
def publicTexts : List String :=
  [ToolEventKind.toolStarted, .toolCompleted, .toolFailed].map ToolEventKind.name ++
    toolKinds.map ToolKind.name ++
    [ToolStatus.inProgress, .completed, .failed].map ToolStatus.name

/-- What holds of the calls an observer with these limits has accepted. -/
structure PublicLifecycle (maxToolCalls maxToolUpdates : Nat) (history : List (AcceptedCall ν))
    (s : CopilotToolActivity) : Prop where
  streams : ∀ n rawId, (rawIds history)[n]? = some rawId →
    ToolStream (toolId (n + 1)) (toolEvents rawId history)
  quiet : ∀ call ∈ history, call.tool = none → call.events = []
  repeats : ∀ before call after rawId e, history = before ++ call :: after →
    call.tool = some rawId → e ∈ toolEvents rawId before → e.status ≠ .inProgress →
    call.events = [] ∧ Repeats call.update e
  distinct : ∀ m n, toolId m = toolId n → m = n
  calls : (rawIds history).length ≤ maxToolCalls
  updates : (history.filterMap AcceptedCall.tool).length ≤ maxToolUpdates
  texts : ∀ call ∈ history, ∀ e ∈ call.events, ∀ t ∈ e.texts,
    t ∈ publicTexts ∨ ∃ n, 1 ≤ n ∧ n ≤ maxToolCalls ∧ t = toolId n
  complete : s.assertComplete = .ok () ↔
    ∀ rawId ∈ rawIds history, ∃ e ∈ toolEvents rawId history, e.status ≠ .inProgress

end Streams

/-! ## What the observer tracks -/

section Tracking

variable {ν : Type} {history : List (AcceptedCall ν)} {call : AcceptedCall ν} {rawId : JsString}
  {s s' s₀ : CopilotToolActivity} {update : JsonValue ν} {events : List CopilotToolActivityEvent}

theorem toolEvents_append : toolEvents rawId (history ++ [call]) =
    toolEvents rawId history ++ if call.tool = some rawId then call.events else [] := by
  rw [toolEvents, List.flatMap_append, toolEvents]
  simp

theorem mem_toolEvents {e : CopilotToolActivityEvent} :
    e ∈ toolEvents rawId history ↔
      ∃ call ∈ history, call.tool = some rawId ∧ e ∈ call.events := by
  simp only [toolEvents, List.mem_flatMap]
  constructor
  · rintro ⟨call, hcall, he⟩
    by_cases htool : call.tool = some rawId
    · rw [if_pos htool] at he
      exact ⟨call, hcall, htool, he⟩
    · rw [if_neg htool] at he
      cases he
  · rintro ⟨call, hcall, htool, he⟩
    exact ⟨call, hcall, by rwa [if_pos htool]⟩

theorem mem_rawIds : rawId ∈ rawIds history ↔ ∃ call ∈ history, call.tool = some rawId := by
  simp [rawIds, List.mem_eraseDups]

theorem toolEvents_of_not_mem (h : rawId ∉ rawIds history) : toolEvents rawId history = [] := by
  apply List.eq_nil_iff_forall_not_mem.mpr
  intro e he
  obtain ⟨call, hcall, htool, -⟩ := mem_toolEvents.mp he
  exact h (mem_rawIds.mpr ⟨call, hcall, htool⟩)

theorem rawIds_append_none (h : call.tool = none) :
    rawIds (history ++ [call]) = rawIds history := by
  rw [rawIds, List.filterMap_append, rawIds]
  simp [h]

theorem eraseDups_append_singleton (ids : List JsString) (rawId : JsString) :
    (ids ++ [rawId]).eraseDups = ids.eraseDups ++ if rawId ∈ ids then [] else [rawId] := by
  rw [List.eraseDups_append]
  by_cases hmem : rawId ∈ ids
  · simp [List.removeAll, hmem]
  · simp [List.removeAll, hmem, List.eraseDups_cons]

theorem rawIds_append_some (h : call.tool = some rawId) :
    rawIds (history ++ [call]) =
      rawIds history ++ if rawId ∈ rawIds history then [] else [rawId] := by
  have hmem : rawId ∈ history.filterMap AcceptedCall.tool ↔ rawId ∈ rawIds history := by
    rw [rawIds, List.mem_eraseDups]
  rw [rawIds, List.filterMap_append, List.filterMap_cons_some h, List.filterMap_nil,
    eraseDups_append_singleton, ← rawIds]
  simp only [hmem]

/-- The entries of the observer are the tools, each with what is known of it. -/
structure Tracks (history : List (AcceptedCall ν)) (s : CopilotToolActivity) : Prop where
  keys : s.tools.entries.map Prod.fst = rawIds history
  shown : ∀ n rawId state, s.tools.entries[n]? = some (rawId, state) →
    state.publicId = toolId (n + 1) ∧ ∃ kind, toolEvents rawId history =
      event ⟨state.publicId, kind, .inProgress⟩ .inProgress :: CopilotToolActivity.terminal state
  updates : (history.filterMap AcceptedCall.tool).length = s.updates

theorem Tracks.get_none (htracks : Tracks history s) :
    s.tools.get rawId = none ↔ rawId ∉ rawIds history := by
  rw [← htracks.keys, EntryMap.mem_keys, not_not]

theorem Tracks.size (htracks : Tracks history s) : s.tools.size = (rawIds history).length := by
  rw [← htracks.keys, List.length_map, EntryMap.size]

theorem Tracks.start (hnew : s₀.tools = .empty) (hupdates : s₀.updates = 0) :
    Tracks ([] : List (AcceptedCall ν)) s₀ := by
  refine ⟨?_, fun n rawId state h => ?_, hupdates.symm⟩
  · rw [hnew]
    rfl
  · rw [hnew] at h
    cases h

/-- What was emitted for one tool stays when a call is about another. -/
theorem toolEvents_other {rawId' : JsString} (htool : call.tool = some rawId)
    (hne : rawId' ≠ rawId) : toolEvents rawId' (history ++ [call]) = toolEvents rawId' history := by
  have hother : ¬ call.tool = some rawId' := by
    rw [htool, Option.some_inj]
    exact Ne.symm hne
  rw [toolEvents_append, if_neg hother, List.append_nil]

theorem filterMap_tool_append (h : call.tool = some rawId) :
    ((history ++ [call]).filterMap AcceptedCall.tool).length =
      (history.filterMap AcceptedCall.tool).length + 1 := by
  rw [List.filterMap_append, List.filterMap_cons_some h]
  simp

/-- Every accepted call keeps what is tracked. -/
theorem Tracks.accept (htracks : Tracks history s) (hmove : ToolMove s update s' events) :
    Tracks (history ++ [⟨update, events⟩]) s' := by
  cases hmove with
  | ignored h =>
      have hnone : (⟨update, []⟩ : AcceptedCall ν).tool = none := h
      refine ⟨?_, fun n rawId state hentry => ?_, ?_⟩
      · rw [rawIds_append_none hnone]
        exact htracks.keys
      · rw [toolEvents_append, hnone, if_neg (by rintro ⟨⟩), List.append_nil]
        exact htracks.shown n rawId state hentry
      · rw [List.filterMap_append]
        simpa [hnone] using htracks.updates
  | @announced rawId state h hnew hcalls hupdates hid =>
      have htool : (⟨update, event state .inProgress :: CopilotToolActivity.terminal state⟩ :
        AcceptedCall ν).tool = some rawId := h
      have hfresh : rawId ∉ rawIds history := htracks.get_none.mp hnew
      refine ⟨?_, fun n rawId' state' hentry => ?_, ?_⟩
      · rw [rawIds_append_some htool, if_neg hfresh, EntryMap.set_entries hnew, List.map_append,
          htracks.keys]
        rfl
      · rw [EntryMap.set_entries hnew] at hentry
        by_cases hn : n < s.tools.entries.length
        · rw [List.getElem?_append_left hn] at hentry
          have hmem : rawId' ∈ rawIds history := by
            rw [← htracks.keys]
            exact List.mem_map_of_mem (List.mem_of_getElem? hentry)
          have hne : rawId' ≠ rawId := fun heq => hfresh (heq ▸ hmem)
          rw [toolEvents_other htool hne]
          exact htracks.shown n rawId' state' hentry
        · rw [List.getElem?_append_right (Nat.le_of_not_lt hn)] at hentry
          have hlast : n = s.tools.entries.length := by
            have hbound := (List.getElem?_eq_some_iff.mp hentry).choose
            simp only [List.length_singleton] at hbound
            omega
          subst hlast
          rw [Nat.sub_self] at hentry
          cases hentry
          refine ⟨hid, state.kind, ?_⟩
          rw [toolEvents_append, toolEvents_of_not_mem hfresh, if_pos htool]
          rfl
      · rw [filterMap_tool_append htool, htracks.updates]
  | @progressed rawId previous state h hprevious hrunning hupdates hid =>
      have htool : (⟨update, CopilotToolActivity.terminal state⟩ : AcceptedCall ν).tool =
        some rawId := h
      have hset : s.tools.get rawId ≠ none := by
        rw [hprevious]
        rintro ⟨⟩
      have hold : rawId ∈ rawIds history := by
        by_contra hnot
        exact hset (htracks.get_none.mpr hnot)
      have hentries := EntryMap.set_entries_of_get (v := state) hset
      refine ⟨?_, fun n rawId' state' hentry => ?_, ?_⟩
      · rw [rawIds_append_some htool, if_pos hold, List.append_nil, ← htracks.keys, hentries,
          List.map_map]
        apply List.map_congr_left
        intro entry _
        by_cases hentry : entry.1 = rawId
        · simp [hentry]
        · simp [hentry]
      · rw [hentries, List.getElem?_map, Option.map_eq_some_iff] at hentry
        obtain ⟨entry, hentry, heq⟩ := hentry
        by_cases hkey : entry.1 = rawId
        · rw [if_pos hkey] at heq
          cases heq
          have hprev : entry.2 = previous := by
            have hmem := EntryMap.mem_entries.mp (List.mem_of_getElem? hentry)
            rw [hkey, hprevious] at hmem
            exact (Option.some_inj.mp hmem).symm
          obtain ⟨hpublic, kind, hevents⟩ := htracks.shown n entry.1 entry.2 hentry
          rw [hprev] at hpublic hevents
          rw [hkey] at hevents
          refine ⟨hid.trans hpublic, kind, ?_⟩
          rw [toolEvents_append, hevents, if_pos htool, CopilotToolActivity.terminal,
            if_pos hrunning, hid]
          rfl
        · rw [if_neg hkey] at heq
          subst heq
          rw [toolEvents_other htool hkey]
          exact htracks.shown n rawId' state' hentry
      · rw [filterMap_tool_append htool, htracks.updates]
  | @repeated rawId previous h hprevious hsettled hupdates hstatus hkind =>
      have htool : (⟨update, []⟩ : AcceptedCall ν).tool = some rawId := h
      have hold : rawId ∈ rawIds history := by
        by_contra hnot
        rw [htracks.get_none.mpr hnot] at hprevious
        cases hprevious
      refine ⟨?_, fun n rawId' state hentry => ?_, ?_⟩
      · rw [rawIds_append_some htool, if_pos hold, List.append_nil]
        exact htracks.keys
      · rw [toolEvents_append, ite_self, List.append_nil]
        exact htracks.shown n rawId' state hentry
      · rw [filterMap_tool_append htool, htracks.updates]

/-- An accepted call leaves the limits and counts within them. -/
structure Bounded (s : CopilotToolActivity) : Prop where
  calls : s.tools.size ≤ s.maxToolCalls
  updates : s.updates ≤ s.maxToolUpdates

theorem ToolMove.limits (hmove : ToolMove s update s' events) :
    s'.maxToolCalls = s.maxToolCalls ∧ s'.maxToolUpdates = s.maxToolUpdates := by
  cases hmove <;> exact ⟨rfl, rfl⟩

theorem ToolMove.quiet (hmove : ToolMove s update s' events) (h : toolOf update = none) :
    events = [] := by
  cases hmove with
  | ignored => rfl
  | repeated => rfl
  | announced htool => exact absurd (h.symm.trans htool) (by rintro ⟨⟩)
  | progressed htool => exact absurd (h.symm.trans htool) (by rintro ⟨⟩)

theorem size_set_of_get {state : ToolState} {tools : EntryMap JsString ToolState}
    (h : tools.get rawId ≠ none) : (tools.set rawId state).size = tools.size := by
  rw [EntryMap.size, EntryMap.set_entries_of_get h, List.length_map, EntryMap.size]

theorem Bounded.accept (hbounded : Bounded s) (hmove : ToolMove s update s' events) :
    Bounded s' := by
  cases hmove with
  | ignored h => exact hbounded
  | announced h hnew hcalls hupdates hid =>
      refine ⟨?_, hupdates⟩
      show (s.tools.set _ _).size ≤ s.maxToolCalls
      rw [EntryMap.size_set hnew]
      exact hcalls
  | progressed h hprevious hrunning hupdates hid =>
      refine ⟨?_, hupdates⟩
      show (s.tools.set _ _).size ≤ s.maxToolCalls
      rw [size_set_of_get (by rw [hprevious]; rintro ⟨⟩)]
      exact hbounded.calls
  | repeated h hprevious hsettled hupdates hstatus hkind => exact ⟨hbounded.calls, hupdates⟩

/-- The state of a tool that has emitted something. -/
theorem Tracks.state (htracks : Tracks history s) (h : rawId ∈ rawIds history) :
    ∃ (n : Nat) (state : ToolState), s.tools.entries[n]? = some (rawId, state) := by
  rw [← htracks.keys] at h
  obtain ⟨entry, hentry, rfl⟩ := List.mem_map.mp h
  obtain ⟨n, hn⟩ := List.mem_iff_getElem?.mp hentry
  exact ⟨n, entry.2, hn⟩

/-- An event that settles a tool shows its state. -/
theorem Tracks.settled (htracks : Tracks history s) {e : CopilotToolActivityEvent}
    (he : e ∈ toolEvents rawId history) (hsettled : e.status ≠ .inProgress) :
    ∃ state, s.tools.get rawId = some state ∧ state.status ≠ .inProgress ∧
      e = event state state.status := by
  have hmem : rawId ∈ rawIds history := by
    obtain ⟨call, hcall, htool, -⟩ := mem_toolEvents.mp he
    exact mem_rawIds.mpr ⟨call, hcall, htool⟩
  obtain ⟨n, state, hentry⟩ := htracks.state hmem
  obtain ⟨-, kind, hevents⟩ := htracks.shown n rawId state hentry
  rw [hevents, List.mem_cons] at he
  obtain rfl | he := he
  · exact absurd rfl hsettled
  · unfold CopilotToolActivity.terminal at he
    split at he
    · cases he
    · rename_i hstatus
      exact ⟨state, EntryMap.mem_entries.mp (List.mem_of_getElem? hentry), hstatus,
        List.mem_singleton.mp he⟩

/-- After that only repeats are accepted. -/
theorem Tracks.repeats (htracks : Tracks history s) (hmove : ToolMove s update s' events)
    (htool : toolOf update = some rawId) {e : CopilotToolActivityEvent}
    (he : e ∈ toolEvents rawId history) (hsettled : e.status ≠ .inProgress) :
    events = [] ∧ Repeats update e := by
  obtain ⟨state, hget, hstatus, rfl⟩ := htracks.settled he hsettled
  cases hmove with
  | ignored h =>
      rw [htool] at h
      cases h
  | announced h hnew hcalls hupdates hid =>
      rw [htool] at h
      cases h
      rw [hget] at hnew
      cases hnew
  | progressed h hprevious hrunning hupdates hid =>
      rw [htool] at h
      cases h
      rw [hget] at hprevious
      cases hprevious
      exact absurd hrunning hstatus
  | repeated h hprevious hother hupdates hsame hkind =>
      rw [htool] at h
      cases h
      rw [hget] at hprevious
      cases hprevious
      refine ⟨rfl, fun value hvalue => ?_, fun value hvalue => ?_⟩
      · rw [statusAfter, hvalue] at hsame
        exact hsame
      · rw [kindAfter, hvalue] at hkind
        exact hkind

/-- The strings of the event of a tool. -/
theorem event_texts {state : ToolState} {status : ToolStatus} {n : Nat}
    (hid : state.publicId = toolId n) {t : String} (ht : t ∈ (event state status).texts) :
    t ∈ publicTexts ∨ t = toolId n := by
  have hkind : ∀ kind : ToolEventKind, kind.name ∈ publicTexts := by
    intro kind
    cases kind <;> decide
  have htool : ∀ kind : ToolKind, kind.name ∈ publicTexts := by
    intro kind
    cases kind <;> decide
  have hstatus : ∀ status : ToolStatus, status.name ∈ publicTexts := by
    intro status
    cases status <;> decide
  simp only [CopilotToolActivityEvent.texts, List.mem_cons, List.not_mem_nil, or_false] at ht
  obtain rfl | rfl | rfl | rfl := ht
  · exact .inl (hkind _)
  · exact .inr hid
  · exact .inl (htool _)
  · exact .inl (hstatus _)

theorem toolId_injective {m n : Nat} (h : toolId m = toolId n) : m = n := by
  have hlist := congrArg String.toList h
  rw [toolId, toolId, String.toList_append, String.toList_append, List.append_cancel_left_eq,
    Nat.toList_repr, Nat.toList_repr] at hlist
  rw [← Nat.ofDigitChars_ten_toDigits (n := m), hlist, Nat.ofDigitChars_ten_toDigits]

/-- Every tool that has started has settled, exactly when the observer says so. -/
theorem Tracks.complete (htracks : Tracks history s) : s.assertComplete = .ok () ↔
    ∀ rawId ∈ rawIds history, ∃ e ∈ toolEvents rawId history, e.status ≠ .inProgress := by
  have hany : s.assertComplete = .ok () ↔
      ∀ entry ∈ s.tools.entries, entry.2.status ≠ .inProgress := by
    unfold CopilotToolActivity.assertComplete
    split
    · rename_i hrunning
      obtain ⟨entry, hentry, hstatus⟩ := List.any_eq_true.mp hrunning
      exact ⟨nofun, fun hall => absurd (of_decide_eq_true hstatus) (hall entry hentry)⟩
    · rename_i hnone
      refine ⟨fun _ entry hentry hstatus => hnone ?_, fun _ => rfl⟩
      exact List.any_eq_true.mpr ⟨entry, hentry, decide_eq_true hstatus⟩
  rw [hany]
  constructor
  · intro hall rawId hmem
    obtain ⟨n, state, hentry⟩ := htracks.state hmem
    have hstatus := hall _ (List.mem_of_getElem? hentry)
    obtain ⟨-, kind, hevents⟩ := htracks.shown n rawId state hentry
    refine ⟨event state state.status, ?_, hstatus⟩
    rw [hevents, CopilotToolActivity.terminal, if_neg hstatus]
    exact List.mem_cons_of_mem _ List.mem_cons_self
  · intro hall entry hentry
    have hmem : entry.1 ∈ rawIds history := by
      rw [← htracks.keys]
      exact List.mem_map_of_mem hentry
    obtain ⟨e, he, hsettled⟩ := hall _ hmem
    obtain ⟨state, hget, hstatus, -⟩ := htracks.settled he hsettled
    rw [EntryMap.mem_entries.mp hentry] at hget
    cases hget
    exact hstatus

/-- What holds after any number of accepted calls. -/
theorem Accepts.tracks (hstart : Tracks ([] : List (AcceptedCall ν)) s₀) (hbounded : Bounded s₀)
    (h : Accepts s₀ history s) : Tracks history s ∧ Bounded s ∧
      s.maxToolCalls = s₀.maxToolCalls ∧ s.maxToolUpdates = s₀.maxToolUpdates := by
  induction h with
  | nil => exact ⟨hstart, hbounded, rfl, rfl⟩
  | call _ haccept ih =>
      obtain ⟨htracks, hbound, hcalls, hupdates⟩ := ih
      have hmove := accept_move haccept
      obtain ⟨hcalls', hupdates'⟩ := hmove.limits
      exact ⟨htracks.accept hmove, hbound.accept hmove, hcalls'.trans hcalls,
        hupdates'.trans hupdates⟩

/-- A call in the middle was accepted after the calls before it. -/
theorem Accepts.split (h : Accepts s₀ history s) {before after : List (AcceptedCall ν)}
    (hsplit : history = before ++ call :: after) :
    ∃ s₁ s₂, Accepts s₀ before s₁ ∧ ToolMove s₁ call.update s₂ call.events := by
  induction h generalizing after with
  | nil => exact absurd hsplit (by simp)
  | @call earlier s₁ s₂ update events hearlier haccept ih =>
      obtain rfl | ⟨after', last, rfl⟩ := List.eq_nil_or_concat after
      · obtain ⟨rfl, hcall⟩ := List.append_inj' hsplit rfl
        cases hcall
        exact ⟨s₁, s₂, hearlier, accept_move haccept⟩
      · rw [List.concat_eq_append, ← List.cons_append, ← List.append_assoc] at hsplit
        obtain ⟨hbefore, -⟩ := List.append_inj' hsplit rfl
        exact ih hbefore

end Tracking

section Lifecycle

variable {ν : Type} {history : List (AcceptedCall ν)} {s₀ s : CopilotToolActivity}
  {maxToolCalls maxToolUpdates : Nat}

theorem new_eq_ok (h : CopilotToolActivity.new maxToolCalls maxToolUpdates = .ok s₀) :
    s₀ = ⟨maxToolCalls, maxToolUpdates, .empty, 0⟩ := by
  unfold CopilotToolActivity.new at h
  split at h
  · cases h
  · cases h
    rfl

/-- Whatever updates a new observer accepts, the tools it shows start, settle and are numbered
as they should, and nothing of an update but an allowed kind is in an event. -/
theorem tool_lifecycle (hnew : CopilotToolActivity.new maxToolCalls maxToolUpdates = .ok s₀)
    (h : Accepts s₀ history s) : PublicLifecycle maxToolCalls maxToolUpdates history s := by
  obtain rfl := new_eq_ok hnew
  have hstart : ∀ ν : Type, Tracks ([] : List (AcceptedCall ν))
      ⟨maxToolCalls, maxToolUpdates, .empty, 0⟩ := fun _ => .start rfl rfl
  have hbounded : Bounded ⟨maxToolCalls, maxToolUpdates, .empty, 0⟩ :=
    ⟨Nat.zero_le _, Nat.zero_le _⟩
  obtain ⟨htracks, hbound, hcalls, hupdates⟩ := h.tracks (hstart ν) hbounded
  have hcalls : s.maxToolCalls = maxToolCalls := hcalls
  have hupdates : s.maxToolUpdates = maxToolUpdates := hupdates
  have hentry : ∀ (n : Nat) rawId, (rawIds history)[n]? = some rawId →
      ∃ state, s.tools.entries[n]? = some (rawId, state) := by
    intro n rawId hn
    rw [← htracks.keys, List.getElem?_map, Option.map_eq_some_iff] at hn
    obtain ⟨entry, hentry, rfl⟩ := hn
    exact ⟨entry.2, hentry⟩
  have hquiet : ∀ call ∈ history, call.tool = none → call.events = [] := by
    intro call hcall htool
    obtain ⟨before, after, hsplit⟩ := List.append_of_mem hcall
    obtain ⟨s₁, s₂, -, hmove⟩ := h.split hsplit
    exact hmove.quiet htool
  refine ⟨fun n rawId hn => ?_, hquiet, fun before call after rawId e hsplit htool he hsettled => ?_,
    fun m n => toolId_injective, ?_, ?_, fun call hcall e he t ht => ?_, htracks.complete⟩
  · obtain ⟨state, hstate⟩ := hentry n rawId hn
    obtain ⟨hid, kind, hevents⟩ := htracks.shown n rawId state hstate
    rw [hevents, hid, CopilotToolActivity.terminal]
    split
    · exact .started kind
    · rename_i hstatus
      exact .settled kind state hid hstatus
  · obtain ⟨s₁, s₂, hbefore, hmove⟩ := h.split hsplit
    exact (hbefore.tracks (hstart ν) hbounded).1.repeats hmove htool he hsettled
  · rw [← htracks.size, ← hcalls]
    exact hbound.calls
  · rw [htracks.updates, ← hupdates]
    exact hbound.updates
  · cases htool : call.tool with
    | none =>
        rw [hquiet call hcall htool] at he
        cases he
    | some rawId =>
        have hmem : e ∈ toolEvents rawId history := mem_toolEvents.mpr ⟨call, hcall, htool, he⟩
        obtain ⟨n, state, hstate⟩ := htracks.state (mem_rawIds.mpr ⟨call, hcall, htool⟩)
        obtain ⟨hid, kind, hevents⟩ := htracks.shown n rawId state hstate
        have hn : n < s.tools.entries.length := (List.getElem?_eq_some_iff.mp hstate).choose
        have htext : t ∈ publicTexts ∨ t = toolId (n + 1) := by
          rw [hevents, List.mem_cons] at hmem
          obtain rfl | hmem := hmem
          · have hstarted : (⟨state.publicId, kind, .inProgress⟩ : ToolState).publicId =
                toolId (n + 1) := hid
            exact event_texts hstarted ht
          · unfold CopilotToolActivity.terminal at hmem
            split at hmem
            · cases hmem
            · obtain rfl := List.mem_singleton.mp hmem
              exact event_texts hid ht
        refine htext.imp_right fun heq => ⟨n + 1, Nat.succ_pos n, ?_, heq⟩
        have hsize : s.tools.entries.length ≤ maxToolCalls := hcalls ▸ hbound.calls
        exact Nat.le_trans hn hsize

end Lifecycle

/-! ## A tool that starts and settles -/

def newActivity : CopilotToolActivity := ⟨2, 3, .empty, 0⟩

/-- The provider's own name of the tool is not shown. -/
def startedTool : JsonValue Unit :=
  .object [(units "sessionUpdate", .string (units "tool_call")),
    (units "toolCallId", .string (units "call_7f")), (units "kind", .string (units "execute")),
    (units "title", .string (units "rm"))]

def settledTool : JsonValue Unit :=
  .object [(units "sessionUpdate", .string (units "tool_call_update")),
    (units "toolCallId", .string (units "call_7f")), (units "status", .string (units "completed"))]

def toolHistory : List (AcceptedCall Unit) :=
  [⟨startedTool, [⟨.toolStarted, "tool-1", .execute, .inProgress⟩]⟩,
    ⟨settledTool, [⟨.toolCompleted, "tool-1", .execute, .completed⟩]⟩]

def settledActivity : CopilotToolActivity :=
  ((newActivity.accept startedTool).1.accept settledTool).1

theorem toolHistory_accepted : Accepts newActivity toolHistory settledActivity := by
  have hstarted : Accepts newActivity (toolHistory.take 1) (newActivity.accept startedTool).1 :=
    .call .nil (Prod.ext rfl rfl)
  exact .call hstarted (Prod.ext rfl rfl)

theorem toolHistory_lifecycle : PublicLifecycle 2 3 toolHistory settledActivity :=
  @tool_lifecycle Unit toolHistory newActivity settledActivity 2 3 rfl toolHistory_accepted

end Torsor.AgentRuntime
