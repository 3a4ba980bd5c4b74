import Torsor.AcpConformance.Wire

/-! # What an observed trace satisfies

A trace is kept as its history, the latest frame first. The law of a frame speaks of the frame
and of its past alone; the observer's maps are shown to agree with the past, and each check of
`observe` to enforce its clause of the law.
-/

namespace Torsor.AcpConformance
open Torsor.Library WireState

/-! ## Frames -/

structure Frame where
  direction : Direction
  message : RecordValue

namespace Frame

def id (f : Frame) : Option RpcId := (f.message.lookup "id").bind rpcId

def IsResponse (f : Frame) : Prop := f.message.lookup "method" = none

def method (f : Frame) : Option String := text (f.message.lookup "method")

def param (f : Frame) (name : String) : Option Json := member (f.message.lookup "params") name

def result (f : Frame) : Option Json := f.message.lookup "result"

/-- The session a request or notification names. -/
def session (f : Frame) : Option String := text (f.param "sessionId")

def updateKind (f : Frame) : Option String := text (member (f.param "update") "sessionUpdate")

/-- The tool a session update names. -/
def updatedTool (f : Frame) : Option String := text (member (f.param "update") "toolCallId")

/-- The tool a permission request names. -/
def permissionTool (f : Frame) : Option String := text (member (f.param "toolCall") "toolCallId")

def Asks (f : Frame) (owner : Direction) (id : RpcId) : Prop :=
  f.direction = owner ∧ ¬ f.IsResponse ∧ f.id = some id

def Answers (f : Frame) (owner : Direction) (id : RpcId) : Prop :=
  f.direction = owner.other ∧ f.IsResponse ∧ f.id = some id

def Sends (f : Frame) (direction : Direction) (method : String) : Prop :=
  f.direction = direction ∧ f.method = some method

def Prompts (f : Frame) (sessionId : String) : Prop :=
  f.Sends .client "session/prompt" ∧ f.session = some sessionId

def Cancels (f : Frame) (sessionId : String) : Prop :=
  f.Sends .client "session/cancel" ∧ f.session = some sessionId

def Announces (f : Frame) (sessionId toolId : String) : Prop :=
  f.Sends .provider "session/update" ∧ f.session = some sessionId ∧
    f.updateKind = some "tool_call" ∧ f.updatedTool = some toolId

end Frame

/-! ## What a history says -/

/-- A request, what came after it and what before, such that nothing after answers it. -/
structure Outstanding (history : List Frame) (owner : Direction) (id : RpcId) (request : Frame)
    (since earlier : List Frame) : Prop where
  split : history = since ++ request :: earlier
  asked : request.Asks owner id
  unanswered : ∀ g ∈ since, ¬ g.Answers owner id

def PromptOutstanding (history : List Frame) (sessionId : String) : Prop :=
  ∃ id request since earlier,
    Outstanding history .client id request since earlier ∧ request.Prompts sessionId

/-- A frame answers an outstanding request. -/
def Answered (f : Frame) (before : List Frame) (request : Frame) (since earlier : List Frame) :
    Prop :=
  ∃ id, f.Answers request.direction id ∧
    Outstanding before request.direction id request since earlier

/-- Something that a frame does, given its past, was done in a history. -/
def Happened (P : Frame → List Frame → Prop) : List Frame → Prop
  | [] => False
  | f :: before => P f before ∨ Happened P before

/-- A history obeys a law if each frame does, given its past. -/
def Obeys (P : Frame → List Frame → Prop) : List Frame → Prop
  | [] => True
  | f :: before => P f before ∧ Obeys P before

/-- The provider returns a result for an initialize request. -/
def Initializes (f : Frame) (before : List Frame) : Prop :=
  f.result ≠ none ∧ ∃ request since earlier,
    Answered f before request since earlier ∧ request.Sends .client "initialize"

/-- The provider returns the id in its result for a session/new request. -/
def Creates (sessionId : String) (f : Frame) (before : List Frame) : Prop :=
  text (member f.result "sessionId") = some sessionId ∧ ∃ request since earlier,
    Answered f before request since earlier ∧ request.Sends .client "session/new"

abbrev SessionExists (history : List Frame) (sessionId : String) : Prop :=
  Happened (Creates sessionId) history

abbrev Announced (history : List Frame) (sessionId toolId : String) : Prop :=
  Happened (fun f _ => f.Announces sessionId toolId) history

/-- At most one prompt of a session is outstanding. -/
def OnePrompt (history : List Frame) : Prop :=
  ∀ sessionId id id' request request' since since' earlier earlier',
    Outstanding history .client id request since earlier → request.Prompts sessionId →
    Outstanding history .client id' request' since' earlier' → request'.Prompts sessionId →
    id = id' ∧ request = request' ∧ since = since'

/-- The law of one frame, given its past. -/
structure Lawful (f : Frame) (before : List Frame) : Prop where
  /-- A response answers one outstanding request, and no other. -/
  answersOne : f.IsResponse → ∃ request since earlier, Answered f before request since earlier ∧
    ∀ request' since' earlier', Answered f before request' since' earlier' →
      request' = request ∧ since' = since ∧ earlier' = earlier
  /-- The request that an answer creates a session for was sent after a successful initialize. -/
  createdAfterInitialize : ∀ request since earlier, Answered f before request since earlier →
    request.Sends .client "session/new" → Happened Initializes earlier
  createdOnce : ∀ sessionId, Creates sessionId f before → ¬ SessionExists before sessionId
  /-- Whatever concerns a session names one that exists. -/
  sessionKnown :
    f.Sends .client "session/prompt" ∨ f.Sends .client "session/cancel" ∨
      f.Sends .provider "session/update" ∨ f.Sends .provider "session/request_permission" →
    ∃ sessionId, f.session = some sessionId ∧ SessionExists before sessionId
  onePrompt : OnePrompt (f :: before)
  updatesInPrompt : f.Sends .provider "session/update" →
    (∃ kind ∈ turnUpdates, f.updateKind = some kind) →
    ∃ sessionId, f.session = some sessionId ∧ PromptOutstanding before sessionId
  permissionsInPrompt : f.Sends .provider "session/request_permission" →
    ∃ sessionId, f.session = some sessionId ∧ PromptOutstanding before sessionId
  answersInPrompt : ∀ request since earlier, Answered f before request since earlier →
    request.Sends .provider "session/request_permission" →
    ∃ sessionId, request.session = some sessionId ∧ PromptOutstanding before sessionId
  announcedOnce : ∀ sessionId toolId, f.Announces sessionId toolId →
    ¬ Announced before sessionId toolId
  updatesAnnounced : f.Sends .provider "session/update" → f.updateKind = some "tool_call_update" →
    ∃ sessionId toolId, f.session = some sessionId ∧ f.updatedTool = some toolId ∧
      Announced before sessionId toolId
  permissionsAnnounced : f.Sends .provider "session/request_permission" →
    ∃ sessionId toolId, f.session = some sessionId ∧ f.permissionTool = some toolId ∧
      Announced before sessionId toolId
  /-- A prompt cancelled while it was outstanding ends as cancelled. -/
  cancelledPrompts : ∀ request since earlier sessionId,
    Answered f before request since earlier → request.Prompts sessionId →
    (∃ g ∈ since, g.Cancels sessionId) → text (member f.result "stopReason") = some "cancelled"

/-- The observer's state after a history, if it failed at none of its frames. -/
def observeAll (c : WireConfig) : List Frame → Except HarnessError WireState
  | [] => pure .start
  | f :: before => do
      let s ← observeAll c before
      s.observe c f.direction f.message

/-! ## Growing a history -/

section
variable {f : Frame} {history before : List Frame} {owner : Direction} {id : RpcId}
  {request : Frame} {since earlier : List Frame}

theorem Outstanding.asked_now (h : f.Asks owner id) :
    Outstanding (f :: before) owner id f [] before :=
  ⟨rfl, h, by simp⟩

theorem Outstanding.kept (h : Outstanding before owner id request since earlier)
    (hnot : ¬ f.Answers owner id) :
    Outstanding (f :: before) owner id request (f :: since) earlier := by
  refine ⟨by rw [h.split]; rfl, h.asked, ?_⟩
  intro g hg
  cases hg with
  | head => exact hnot
  | tail _ hg => exact h.unanswered g hg

theorem Outstanding.cases (h : Outstanding (f :: before) owner id request since earlier) :
    (f = request ∧ since = [] ∧ earlier = before ∧ f.Asks owner id) ∨
    ∃ since', since = f :: since' ∧ ¬ f.Answers owner id ∧
      Outstanding before owner id request since' earlier := by
  cases since with
  | nil =>
      have hsplit := h.split
      simp only [List.nil_append, List.cons.injEq] at hsplit
      obtain ⟨rfl, rfl⟩ := hsplit
      exact .inl ⟨rfl, rfl, rfl, h.asked⟩
  | cons g since' =>
      have hsplit := h.split
      simp only [List.cons_append, List.cons.injEq] at hsplit
      obtain ⟨rfl, hbefore⟩ := hsplit
      refine .inr ⟨since', rfl, h.unanswered f (.head _), hbefore, h.asked, ?_⟩
      intro g hg
      exact h.unanswered g (.tail _ hg)

theorem Outstanding.direction (h : Outstanding before owner id request since earlier) :
    request.direction = owner := h.asked.1

theorem Direction.other_inj {d d' : Direction} (h : d.other = d'.other) : d = d' := by
  cases d <;> cases d' <;> simp_all [Direction.other]

end

/-! ## Keys -/

theorem repr_toList_injective {m n : Nat} (h : m.repr.toList = n.repr.toList) : m = n := by
  have hdigits := congrArg (Nat.ofDigitChars 10 · 0) h
  simpa [Nat.toList_repr, Nat.ofDigitChars_ten_toDigits] using hdigits

theorem minus_not_in_repr (n : Nat) : '-' ∉ n.repr.toList := by
  intro hmem
  rw [Nat.toList_repr] at hmem
  exact absurd (Nat.isDigit_of_mem_toDigits (by omega) (by omega) hmem) (by decide)

theorem intRepr_toList_injective {m n : Int} (h : m.repr.toList = n.repr.toList) : m = n := by
  cases m with
  | ofNat m =>
      cases n with
      | ofNat n => exact congrArg _ (repr_toList_injective h)
      | negSucc n =>
          have hminus : '-' ∈ (Int.negSucc n).repr.toList := by simp [Int.repr]
          rw [← h] at hminus
          exact absurd hminus (minus_not_in_repr m)
  | negSucc m =>
      cases n with
      | ofNat n =>
          have hminus : '-' ∈ (Int.negSucc m).repr.toList := by simp [Int.repr]
          rw [h] at hminus
          exact absurd hminus (minus_not_in_repr n)
      | negSucc n =>
          simp only [Int.repr, String.toList_append, List.append_cancel_left_eq] at h
          have hsucc := repr_toList_injective h
          simp only [Nat.succ_eq_add_one, Nat.add_right_cancel_iff] at hsucc
          exact congrArg _ hsucc

theorem pendingKey_inj {owner owner' : Direction} {id id' : RpcId}
    (h : pendingKey owner id = pendingKey owner' id') : owner = owner' ∧ id = id' := by
  have htext := congrArg String.toList h
  cases owner <;> cases owner' <;> cases id <;> cases id' <;>
    simp [pendingKey, Direction.name, RpcId.typeOf, RpcId.toText] at htext ⊢
  all_goals first
    | exact String.toList_inj.mp htext
    | exact intRepr_toList_injective htext

theorem pendingKey_startsWith {owner : Direction} {id : RpcId} :
    (pendingKey owner id).startsWith "client:" = true ↔ owner = .client := by
  rw [String.startsWith_string_iff]
  cases owner with
  | client => simp [pendingKey, Direction.name]
  | provider => simp [pendingKey, Direction.name]

end Torsor.AcpConformance
