import Torsor.AcpConformance.Lifecycle

/-! # The observer enforces the lifecycle

`observe_cases` says once what an observed frame can be and do; the observer's maps then follow
the history, and the law of each frame is read off its checks.
-/

namespace Torsor.AcpConformance
open Torsor.Library WireState

variable {c : WireConfig} {s s' : WireState} {f : Frame}

/-! ## What each check lets through -/

theorem tool_eq_ok {sessionId : String} {toolCallId : Option Json} {initial : Bool} :
    s.tool sessionId toolCallId initial = .ok s' ↔
      ∃ tools id, s.sessions.get sessionId = some tools ∧ text toolCallId = some id ∧ id ≠ "" ∧
        ((initial = true ∧ id ∉ tools ∧
            s' = { s with sessions := s.sessions.set sessionId (tools ++ [id]) }) ∨
          (initial = false ∧ id ∈ tools ∧ s' = s)) := by
  cases hsession : s.sessions.get sessionId with
  | none => simp [tool, hsession]
  | some tools =>
      cases hid : text toolCallId with
      | none => simp [tool, hsession, hid]
      | some id =>
          cases initial with
          | false => simp [tool, hsession, hid, @eq_comm _ s']
          | true => simp [tool, hsession, hid, @eq_comm _ s']

theorem permission_eq_ok {sessionId toolCallId : Option Json} :
    s.permission sessionId toolCallId = .ok s' ↔
      ∃ session tools id, text sessionId = some session ∧ s.activePrompt session = true ∧
        s.sessions.get session = some tools ∧ text toolCallId = some id ∧ id ≠ "" ∧
        id ∈ tools ∧ s' = s := by
  cases hsession : text sessionId with
  | none => simp [permission, hsession]
  | some session =>
      simp only [permission, hsession, except_bind_eq_ok, failIf_eq_ok, tool_eq_ok]
      constructor
      · rintro ⟨_, hactive, tools, id, htools, hid, hne, hcase⟩
        obtain ⟨hfalse, _⟩ | ⟨_, hmem, rfl⟩ := hcase
        · cases hfalse
        · exact ⟨session, tools, id, rfl, by simpa using (not_or.mp hactive).2, htools, hid,
            hne, hmem, rfl⟩
      · rintro ⟨_, tools, id, hsome, hactive, htools, hid, hne, hmem, rfl⟩
        cases hsome
        refine ⟨(), ?_, tools, id, htools, hid, hne, .inr ⟨trivial, hmem, rfl⟩⟩
        simp [htools, hactive]

/-- What a permission check has seen. -/
structure Permitted (s : WireState) (sessionId toolCallId : Option Json) : Prop where
  permitted : ∃ session tools id, text sessionId = some session ∧
    s.activePrompt session = true ∧ s.sessions.get session = some tools ∧
    text toolCallId = some id ∧ id ∈ tools

/-! ## Responses -/

/-- What an observed response does to the sessions and to `initialized`. -/
structure Resulted (s s' : WireState) (f : Frame) (request : PendingRequest) : Prop where
  pending : s'.pending = s.pending
  initialized : s'.initialized = true → s.initialized = true ∨
    (f.direction = .provider ∧ f.result ≠ none ∧ request.method = "initialize")
  sessions : (s'.sessions = s.sessions ∧
      ¬ (f.direction = .provider ∧ f.result ≠ none ∧ request.method = "session/new")) ∨
    ∃ sessionId, f.direction = .provider ∧ request.method = "session/new" ∧
      text (member f.result "sessionId") = some sessionId ∧
      s.sessions.get sessionId = none ∧ s'.sessions = s.sessions.set sessionId []

theorem result_spec {request : PendingRequest} (hdirection : f.direction = .provider)
    (hresult : f.result ≠ none) (h : s.result c request.method f.result = .ok s') :
    Resulted s s' f request := by
  simp only [WireState.result, except_bind_eq_ok] at h
  obtain ⟨_, _, h⟩ := h
  by_cases hinit : request.method = "initialize"
  · simp only [if_pos hinit, except_bind_eq_ok, except_pure_eq_ok] at h
    obtain ⟨_, _, rfl⟩ := h
    refine ⟨rfl, fun _ => .inr ⟨hdirection, hresult, hinit⟩, .inl ⟨rfl, ?_⟩⟩
    intro hnew
    exact absurd (hinit.symm.trans hnew.2.2) (by decide)
  · by_cases hnew : request.method = "session/new"
    · rw [if_neg hinit, if_pos hnew] at h
      cases hid : text (member f.result "sessionId") with
      | none =>
          rw [hid] at h
          simp at h
      | some sessionId =>
          rw [hid] at h
          simp only [except_bind_eq_ok, failIf_eq_ok, except_pure_eq_ok] at h
          obtain ⟨_, _, _, hfree, rfl⟩ := h
          exact ⟨rfl, .inl, .inr ⟨sessionId, hdirection, hnew, hid, by simpa using hfree, rfl⟩⟩
    · simp only [if_neg hinit, if_neg hnew, except_bind_eq_ok, except_pure_eq_ok] at h
      obtain ⟨_, _, rfl⟩ := h
      exact ⟨rfl, .inl, .inl ⟨rfl, fun hcreated => hnew hcreated.2.2⟩⟩

/-- What an observed response is, and what it leaves. -/
structure ResponseStep (s s' : WireState) (f : Frame) (id : RpcId) (request : PendingRequest) :
    Prop where
  isResponse : f.IsResponse
  id_eq : f.id = some id
  found : s.pending.get (pendingKey f.direction.other id) = some request
  permitted : f.direction = .client → request.method = "session/request_permission" →
    Permitted s request.sessionId request.toolCallId
  cancelled : request.cancelled = true → text (member f.result "stopReason") = some "cancelled"
  resulted : Resulted { s with pending := s.pending.delete (pendingKey f.direction.other id) } s' f
    request

theorem observeResponse_spec (hresponse : f.IsResponse)
    (h : s.observeResponse c f.direction f.message f.id = .ok s') :
    ∃ id request, ResponseStep s s' f id request := by
  simp only [observeResponse, except_bind_eq_ok, failIf_eq_ok, not_or] at h
  obtain ⟨_, ⟨hid, hone⟩, h⟩ := h
  obtain ⟨id, hid⟩ := Option.ne_none_iff_exists'.mp hid
  simp only [hid, Option.map_some, Option.getD_some] at h
  cases hfound : s.pending.get (pendingKey f.direction.other id) with
  | none =>
      rw [hfound] at h
      simp at h
  | some request =>
      rw [hfound] at h
      simp only [except_bind_eq_ok, failIf_eq_ok] at h
      obtain ⟨s₁, hpermission, _, hcancelled, h⟩ := h
      have hpermitted : s₁ = s ∧ (f.direction = .client →
          request.method = "session/request_permission" →
          Permitted s request.sessionId request.toolCallId) := by
        obtain ⟨_, hpermission⟩ | ⟨hnot, rfl⟩ := onlyIf_eq_ok.mp hpermission
        · obtain ⟨session, tools, id, hsession, hactive, htools, htool, _, hmem, rfl⟩ :=
            permission_eq_ok.mp hpermission
          exact ⟨rfl, fun _ _ => ⟨session, tools, id, hsession, hactive, htools, htool, hmem⟩⟩
        · exact ⟨rfl, fun hclient hmethod => absurd ⟨hclient, hmethod⟩ hnot⟩
      obtain ⟨rfl, hpermitted⟩ := hpermitted
      refine ⟨id, request, hresponse, hid, hfound, hpermitted, ?_, ?_⟩
      · intro hyes
        by_contra hreason
        exact hcancelled ⟨hyes, hreason⟩
      · split at h
        · rename_i herror
          simp only [except_bind_eq_ok, except_pure_eq_ok] at h
          obtain ⟨_, _, rfl⟩ := h
          have hnone : f.result = none := by
            apply Option.not_isSome_iff_eq_none.mp
            intro hsome
            exact hone (hsome.trans herror.symm)
          exact ⟨rfl, .inl, .inl ⟨rfl, fun hcreated => hcreated.2.1 hnone⟩⟩
        · rename_i herror
          have hsome : f.result ≠ none := by
            intro hnone
            have hresult : (f.message.lookup "result").isSome = false := congrArg _ hnone
            exact hone (hresult.trans (Bool.eq_false_iff.mpr herror).symm)
          split at h
          · rename_i hprovider
            exact result_spec hprovider hsome h
          · rename_i hclient
            rw [except_pure_eq_ok] at h
            subst h
            exact ⟨rfl, .inl, .inl ⟨rfl, fun hcreated => hclient hcreated.1⟩⟩

/-! ## Requests and notifications -/

/-- What an observed request or notification does to the sessions. -/
structure ToolStep (s s' : WireState) (f : Frame) : Prop where
  pending : s'.pending = s.pending
  initialized : s'.initialized = s.initialized
  sessions : (s'.sessions = s.sessions ∧ ∀ sessionId toolId, ¬ f.Announces sessionId toolId) ∨
    ∃ sessionId toolId tools, f.Announces sessionId toolId ∧
      s.sessions.get sessionId = some tools ∧ toolId ∉ tools ∧
      s'.sessions = s.sessions.set sessionId (tools ++ [toolId])

theorem ToolStep.refl (h : ∀ sessionId toolId, ¬ f.Announces sessionId toolId) :
    ToolStep s s f :=
  ⟨rfl, rfl, .inl ⟨rfl, h⟩⟩

/-- What the check of a session update has seen. -/
structure UpdateChecked (s : WireState) (f : Frame) (sessionId : String) : Prop where
  session : f.session = some sessionId
  known : s.sessions.get sessionId ≠ none
  inPrompt : (∃ kind ∈ turnUpdates, f.updateKind = some kind) → s.activePrompt sessionId = true
  announced : f.updateKind = some "tool_call_update" → ∃ tools toolId,
    s.sessions.get sessionId = some tools ∧ f.updatedTool = some toolId ∧ toolId ∈ tools

theorem sessionUpdate_spec (hsends : f.Sends .provider "session/update")
    (h : s.sessionUpdate f.id (f.message.lookup "params") = .ok s') :
    (∃ sessionId, UpdateChecked s f sessionId) ∧ ToolStep s s' f := by
  cases hsession : f.session with
  | none =>
      rw [sessionUpdate, show text (member (f.message.lookup "params") "sessionId") = none
        from hsession] at h
      simp at h
  | some sessionId =>
      rw [sessionUpdate, show text (member (f.message.lookup "params") "sessionId") =
        some sessionId from hsession] at h
      simp only [except_bind_eq_ok, failIf_eq_ok, not_or] at h
      obtain ⟨_, ⟨_, hknown⟩, _, hprompt, h⟩ := h
      have hinPrompt : (∃ kind ∈ turnUpdates, f.updateKind = some kind) →
          s.activePrompt sessionId = true := by
        intro hkind
        by_contra hnot
        exact hprompt ⟨hkind, Bool.eq_false_iff.mpr hnot⟩
      have hannounces : ∀ session toolId, f.Announces session toolId → session = sessionId := by
        intro session toolId hannounce
        exact Option.some.inj (hannounce.2.1.symm.trans hsession)
      split at h
      · obtain ⟨tools, id, htools, htool, _, hcase⟩ := tool_eq_ok.mp h
        have htool : f.updatedTool = some id := htool
        obtain ⟨hinitial, hfresh, rfl⟩ | ⟨hinitial, hmem, rfl⟩ := hcase
        · have hkind : f.updateKind = some "tool_call" := of_decide_eq_true hinitial
          refine ⟨⟨sessionId, hsession, hknown, hinPrompt, ?_⟩, rfl, rfl,
            .inr ⟨sessionId, id, tools, ⟨hsends, hsession, hkind, htool⟩, htools, hfresh, rfl⟩⟩
          intro hupdate
          rw [hkind] at hupdate
          simp at hupdate
        · have hkind : f.updateKind ≠ some "tool_call" := of_decide_eq_false hinitial
          refine ⟨⟨sessionId, hsession, hknown, hinPrompt, fun _ => ⟨tools, id, htools, htool,
            hmem⟩⟩, .refl ?_⟩
          intro session toolId hannounce
          exact hkind hannounce.2.2.1
      · rename_i hnot
        have hkind := not_or.mp hnot
        rw [except_pure_eq_ok] at h
        subst h
        refine ⟨⟨sessionId, hsession, hknown, hinPrompt, fun hupdate => absurd hupdate hkind.2⟩,
          .refl ?_⟩
        intro session toolId hannounce
        exact hkind.1 hannounce.2.2.1

/-- A pending request after a frame that may cancel it. -/
def cancelledBy (f : Frame) (key : String) (request : PendingRequest) : PendingRequest :=
  if f.direction = .client ∧ f.method = some "session/cancel" ∧
      f.session.any fun sessionId => isPrompt sessionId (key, request) then
    { request with cancelled := true }
  else request

/-- What a request or notification leaves pending. -/
structure PendingStep (s s' : WireState) (f : Frame) : Prop where
  fresh : ∀ id, f.id = some id → s.pending.get (pendingKey f.direction id) = none
  asked : ∀ id method, f.id = some id → f.method = some method →
    s'.pending.get (pendingKey f.direction id) = some
      { method
        sessionId := f.param "sessionId"
        toolCallId := member (f.param "toolCall") "toolCallId"
        cancelled := false }
  others : ∀ key, (∀ id, f.id = some id → key ≠ pendingKey f.direction id) →
    s'.pending.get key = (s.pending.get key).map (cancelledBy f key)

theorem requireTurn_spec {method : String} (hmethod : f.method = some method) {u : Unit}
    (h : s.requireTurn method (f.message.lookup "params") = .ok u) :
    ∃ sessionId, f.session = some sessionId ∧ s.sessions.get sessionId ≠ none ∧
      (f.Sends .client "session/prompt" → s.activePrompt sessionId = false) := by
  cases hsession : f.session with
  | none =>
      rw [requireTurn, show text (member (f.message.lookup "params") "sessionId") = none
        from hsession] at h
      simp at h
  | some sessionId =>
      rw [requireTurn, show text (member (f.message.lookup "params") "sessionId") =
        some sessionId from hsession] at h
      simp only [except_bind_eq_ok, failIf_eq_ok] at h
      obtain ⟨_, hknown, hprompt⟩ := h
      refine ⟨sessionId, rfl, hknown, ?_⟩
      intro hprompts
      have hname : method = "session/prompt" :=
        Option.some.inj (hmethod.symm.trans hprompts.2)
      by_contra hactive
      exact hprompt ⟨hname, Bool.not_eq_false _ ▸ hactive⟩

theorem get_cancelPrompts {sessionId key : String} :
    (s.cancelPrompts sessionId).pending.get key = (s.pending.get key).map fun request =>
      if isPrompt sessionId (key, request) then { request with cancelled := true } else request :=
  EntryMap.get_mapValues

/-- What an observed request or notification is, and what it leaves. -/
structure CallStep (s s' : WireState) (f : Frame) : Prop where
  notResponse : ¬ f.IsResponse
  method : f.method ≠ none
  initialized : f.Sends .client "session/new" → s.initialized = true
  turn : f.Sends .client "session/prompt" ∨ f.Sends .client "session/cancel" →
    ∃ sessionId, f.session = some sessionId ∧ s.sessions.get sessionId ≠ none ∧
      (f.Sends .client "session/prompt" → s.activePrompt sessionId = false)
  update : f.Sends .provider "session/update" → ∃ sessionId, UpdateChecked s f sessionId
  permission : f.Sends .provider "session/request_permission" →
    Permitted s (f.param "sessionId") (member (f.param "toolCall") "toolCallId")
  tools : ToolStep { s with pending := s'.pending } s' f
  pending : PendingStep s s' f

theorem cancel_spec {method : String} (hmethod : f.method = some method) {key : String} :
    (if f.direction = .client ∧ method = "session/cancel" then
        (text (member (f.message.lookup "params") "sessionId")).elim s s.cancelPrompts
      else s).pending.get key = (s.pending.get key).map (cancelledBy f key) := by
  by_cases hcancel : f.direction = .client ∧ method = "session/cancel"
  · have hmethod' : f.method = some "session/cancel" := hmethod.trans (congrArg _ hcancel.2)
    rw [if_pos hcancel, show text (member (f.message.lookup "params") "sessionId") = f.session
      from rfl]
    cases hsession : f.session with
    | none =>
        have hsame : cancelledBy f key = id := by
          funext request
          simp [cancelledBy, hsession]
        rw [hsame, Option.map_id]
        rfl
    | some sessionId =>
        rw [Option.elim_some, get_cancelPrompts]
        congr 1
        funext request
        simp [cancelledBy, hcancel.1, hmethod', hsession]
  · rw [if_neg hcancel]
    have hsame : cancelledBy f key = id := by
      funext request
      have hnot : ¬ (f.direction = .client ∧ f.method = some "session/cancel" ∧
          f.session.any fun sessionId => isPrompt sessionId (key, request)) := by
        rintro ⟨hclient, hmethod', _⟩
        exact hcancel ⟨hclient, Option.some.inj (hmethod.symm.trans hmethod')⟩
      rw [cancelledBy, if_neg hnot]
      rfl
    rw [hsame, Option.map_id]
    rfl

theorem cancel_frame {p : Prop} [Decidable p] {session : Option String} :
    (if p then session.elim s s.cancelPrompts else s).sessions = s.sessions ∧
      (if p then session.elim s s.cancelPrompts else s).initialized = s.initialized := by
  split
  · cases session with
    | none => exact ⟨rfl, rfl⟩
    | some sessionId => exact ⟨rfl, rfl⟩
  · exact ⟨rfl, rfl⟩

theorem addPending_spec {method : String} (hmethod : f.method = some method)
    {cancelled : WireState} (hcancelled : ∀ key, cancelled.pending.get key =
      (s.pending.get key).map (cancelledBy f key))
    (h : cancelled.addPending f.direction method f.id (f.message.lookup "params") = .ok s') :
    PendingStep s s' f ∧ s'.sessions = cancelled.sessions ∧
      s'.initialized = cancelled.initialized := by
  cases hid : f.id with
  | none =>
      rw [hid, addPending, except_pure_eq_ok] at h
      subst h
      refine ⟨⟨?_, ?_, fun key _ => hcancelled key⟩, rfl, rfl⟩
      · intro id hsome
        rw [hid] at hsome
        cases hsome
      · intro id method hsome
        rw [hid] at hsome
        cases hsome
  | some id =>
      rw [hid] at h
      simp only [addPending, except_bind_eq_ok, failIf_eq_ok, not_not, except_pure_eq_ok] at h
      obtain ⟨_, hfree, rfl⟩ := h
      refine ⟨⟨?_, ?_, ?_⟩, rfl, rfl⟩
      · intro id' hid'
        cases hid.symm.trans hid'
        rw [hcancelled] at hfree
        exact Option.map_eq_none_iff.mp hfree
      · intro id' method' hid' hmethod'
        cases hid.symm.trans hid'
        cases hmethod.symm.trans hmethod'
        exact EntryMap.get_set_self
      · intro key hkey
        rw [← hcancelled]
        exact EntryMap.get_set_of_ne (hkey id hid)

theorem observeCall_spec (hresponse : ¬ f.IsResponse)
    (h : s.observeCall c f.direction f.message f.id = .ok s') : CallStep s s' f := by
  cases hmethod : f.method with
  | none =>
      rw [observeCall, show text (f.message.lookup "method") = none from hmethod] at h
      simp at h
  | some method =>
      rw [observeCall, show text (f.message.lookup "method") = some method from hmethod] at h
      simp only [except_bind_eq_ok, failIf_eq_ok] at h
      obtain ⟨_, _, _, _, _, _, _, _, _, hnew, _, _, _, _, _, hturn, s₁, hupdate, s₂,
        hpermission, h⟩ := h
      have hsends : ∀ direction name, f.Sends direction name →
          f.direction = direction ∧ method = name := by
        intro direction name hsends
        exact ⟨hsends.1, Option.some.inj (hmethod.symm.trans hsends.2)⟩
      have hupdated : (f.Sends .provider "session/update" →
          ∃ sessionId, UpdateChecked s f sessionId) ∧ ToolStep s s₁ f ∧
          (method = "session/request_permission" → s₁ = s) := by
        obtain ⟨⟨hdirection, hname⟩, hok⟩ | ⟨hnot, rfl⟩ := onlyIf_eq_ok.mp hupdate
        · obtain ⟨hchecked, htools⟩ :=
            sessionUpdate_spec ⟨hdirection, hmethod.trans (congrArg _ hname)⟩ hok
          refine ⟨fun _ => hchecked, htools, ?_⟩
          intro hother
          exact absurd (hname.symm.trans hother) (by decide)
        · refine ⟨fun hupdates => absurd (hsends _ _ hupdates) hnot, .refl ?_, fun _ => rfl⟩
          intro sessionId toolId hannounces
          exact hnot (hsends _ _ hannounces.1)
      have hpermitted : (f.Sends .provider "session/request_permission" →
          Permitted s₁ (f.param "sessionId") (member (f.param "toolCall") "toolCallId")) ∧
          s₂ = s₁ := by
        obtain ⟨_, hpermission⟩ | ⟨hnot, rfl⟩ := onlyIf_eq_ok.mp hpermission
        · simp only [requestPermission, except_bind_eq_ok] at hpermission
          obtain ⟨_, _, hpermission⟩ := hpermission
          obtain ⟨session, tools, id, hsession, hactive, htools, htool, _, hmem, rfl⟩ :=
            permission_eq_ok.mp hpermission
          exact ⟨fun _ => ⟨session, tools, id, hsession, hactive, htools, htool, hmem⟩, rfl⟩
        · exact ⟨fun hasks => absurd (hsends _ _ hasks) hnot, rfl⟩
      obtain ⟨hpermitted, rfl⟩ := hpermitted
      obtain ⟨hchecked, htools, hunchanged⟩ := hupdated
      have hcancelled := fun key => @cancel_spec s₂ f _ hmethod key
      simp only [htools.pending] at hcancelled
      obtain ⟨hpending, hsessions, hinitialized⟩ := addPending_spec hmethod hcancelled h
      rw [cancel_frame.1] at hsessions
      rw [cancel_frame.2] at hinitialized
      refine ⟨hresponse, by simp [hmethod], ?_, ?_, hchecked, ?_, ⟨rfl, ?_, ?_⟩, hpending⟩
      · intro hasks
        obtain ⟨hclient, hname⟩ := hsends _ _ hasks
        by_contra hnot
        exact hnew ⟨hclient, hname, Bool.eq_false_iff.mpr hnot⟩
      · intro hasks
        have hcondition : f.direction = .client ∧
            (method = "session/prompt" ∨ method = "session/cancel") := by
          obtain hprompts | hcancels := hasks
          · exact ⟨(hsends _ _ hprompts).1, .inl (hsends _ _ hprompts).2⟩
          · exact ⟨(hsends _ _ hcancels).1, .inr (hsends _ _ hcancels).2⟩
        obtain ⟨_, hturn⟩ | ⟨hnot, _⟩ := onlyIf_eq_ok.mp hturn
        · exact requireTurn_spec hmethod hturn
        · exact absurd hcondition hnot
      · intro hasks
        have hsame := hunchanged (hsends _ _ hasks).2
        rw [← hsame]
        exact hpermitted hasks
      · exact hinitialized.trans htools.initialized
      · rw [hsessions]
        exact htools.sessions

/-- What an observed frame can be and do. -/
theorem observe_cases (h : s.observe c f.direction f.message = .ok s') :
    ∃ n, (∃ id request, ResponseStep { s with events := n } s' f id request) ∨
      CallStep { s with events := n } s' f := by
  simp only [observe, except_bind_eq_ok] at h
  obtain ⟨_, _, _, _, h⟩ := h
  refine ⟨s.events + 1, ?_⟩
  split at h
  · rename_i hmethod
    right
    apply observeCall_spec ?_ h
    intro hresponse
    rw [hresponse] at hmethod
    cases hmethod
  · rename_i hmethod
    left
    exact observeResponse_spec (Option.not_isSome_iff_eq_none.mp hmethod) h

end Torsor.AcpConformance
