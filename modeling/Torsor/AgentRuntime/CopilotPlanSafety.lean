import Torsor.AgentRuntime.CopilotExecution

/-! # A plan is applied as a whole or not at all -/

namespace Torsor.AgentRuntime.Copilot
open Torsor.Library

variable {c : ExecutionConfig}

/-! ## What the provider's output sets off -/

/-- Nothing but streamed invocations is added. -/
structure Appends (s s' : Session) : Prop where
  invocations : ∃ new, s'.invocations = s.invocations ++ new ∧ ∀ i ∈ new, i.isStreamed = true
  aborted : s.aborted = true → s'.aborted = true

theorem Appends.of_same {s s' : Session} (h : s'.invocations = s.invocations)
    (haborted : s'.aborted = s.aborted) : Appends s s' :=
  ⟨⟨[], by simp [h], by rintro _ ⟨⟩⟩, fun h => haborted.trans h⟩

theorem Appends.trans {s s' s'' : Session} (h : Appends s s') (h' : Appends s' s'') :
    Appends s s'' := by
  obtain ⟨new, hnew, hstreamed⟩ := h.invocations
  obtain ⟨new', hnew', hstreamed'⟩ := h'.invocations
  refine ⟨⟨new ++ new', by rw [hnew', hnew, List.append_assoc], ?_⟩,
    fun haborted => h'.aborted (h.aborted haborted)⟩
  intro i hi
  obtain hi | hi := List.mem_append.mp hi
  · exact hstreamed i hi
  · exact hstreamed' i hi

theorem enqueue_appends (s : Session) {invocation : Invocation}
    (h : invocation.isStreamed = true) : Appends s (enqueue c s invocation).1 := by
  have hone : ∀ i ∈ [invocation], i.isStreamed = true := by
    intro i hi
    rwa [List.mem_singleton.mp hi]
  unfold enqueue
  split
  · exact .of_same rfl rfl
  · split_ifs
    · exact .of_same rfl rfl
    · simp only
      split
      · exact ⟨⟨[invocation], rfl, hone⟩, id⟩
      · exact ⟨⟨[invocation], rfl, hone⟩, id⟩

theorem persist_appends (s : Session) (kind : String) (payload : Json)
    (retentionClass : Option RetentionClass) :
    Appends s (persist c s kind payload retentionClass).1 := by
  unfold persist
  split_ifs
  · exact .of_same rfl rfl
  · have hcounted : Appends s { s with activityBytes := s.activityBytes + c.jsonBytes payload } :=
      .of_same rfl rfl
    exact hcounted.trans (enqueue_appends _ rfl)

theorem persistToolEvents_appends (events : List CopilotToolActivityEvent) (s : Session) :
    Appends s (persistToolEvents c events s).1 := by
  induction events generalizing s with
  | nil => exact .of_same rfl rfl
  | cons event rest ih =>
      have hfirst := persist_appends (c := c) s event.kind.name (toolPayload event) none
      rw [persistToolEvents]
      split
      · rename_i s' error heq
        rwa [heq] at hfirst
      · rename_i s' heq
        rw [heq] at hfirst
        exact hfirst.trans (ih s')

theorem onToolUpdate_appends (s : Session) (type : ToolUpdateType) (params update : Json) :
    Appends s (onToolUpdate c s type params update).1 := by
  unfold onToolUpdate
  split_ifs with htrusted hsession hcall
  · exact .of_same rfl rfl
  · exact .of_same rfl rfl
  all_goals
    simp only
    split
    · exact .of_same rfl rfl
    · refine Appends.trans ?_ (persistToolEvents_appends _ _)
      exact .of_same rfl rfl

theorem onMessageChunk_appends (s : Session) (params update : Json) :
    Appends s (onMessageChunk c s params update).1 := by
  unfold onMessageChunk
  by_cases hother : c.isTrusted = true ∧
      (s.sessionId = none ∨ textOf (params.field "sessionId") ≠ s.sessionId)
  · rw [if_pos hother]
    exact .of_same rfl rfl
  rw [if_neg hother]
  split
  · exact .of_same rfl rfl
  · rename_i content _
    split
    · exact .of_same rfl rfl
    · rename_i text _
      by_cases htype : textOf (content.field "type") ≠ some (units "text")
      · rw [if_pos htype]
        exact .of_same rfl rfl
      rw [if_neg htype]
      by_cases hlimit : c.limits.maxStreamBytes - s.streamBytes < c.byteLength text
      · rw [if_pos hlimit]
        exact .of_same rfl rfl
      rw [if_neg hlimit]
      simp only
      by_cases hquiet : c.isTrusted = true ∨ c.cause ≠ .run
      · rw [if_pos hquiet]
        exact .of_same rfl rfl
      rw [if_neg hquiet]
      split
      · refine Appends.trans ?_ (persist_appends _ _ _ _)
        exact .of_same rfl rfl
      · split
        · exact .of_same rfl rfl
        · refine Appends.trans ?_ (persist_appends _ _ _ _)
          exact .of_same rfl rfl

/-- Once updates are not accepted any more, nothing is invoked and the output stays. -/
structure Streams (s s' : Session) : Prop extends Appends s s' where
  quiet : s.acceptUpdates = false → s'.invocations = s.invocations ∧ s'.acceptUpdates = false ∧
    s'.output = s.output

theorem Streams.refl (s : Session) : Streams s s := ⟨.of_same rfl rfl, fun h => ⟨rfl, h, rfl⟩⟩

theorem Streams.trans {s s' s'' : Session} (h : Streams s s') (h' : Streams s' s'') :
    Streams s s'' := by
  refine ⟨h.toAppends.trans h'.toAppends, ?_⟩
  intro hquiet
  obtain ⟨hinvocations, hquiet', houtput⟩ := h.quiet hquiet
  obtain ⟨hinvocations', hquiet'', houtput'⟩ := h'.quiet hquiet'
  exact ⟨hinvocations'.trans hinvocations, hquiet'', houtput'.trans houtput⟩

theorem onNotification_streams (s : Session) (method : JsString) (params : Option Json) :
    Streams s (onNotification c s method params).1 := by
  unfold onNotification
  by_cases hignored : s.acceptUpdates = false ∨ method ≠ units "session/update"
  · rw [if_pos hignored]
    exact .refl s
  rw [if_neg hignored]
  have haccepts : s.acceptUpdates ≠ false := fun h => hignored (.inl h)
  refine ⟨?_, fun hquiet => absurd hquiet haccepts⟩
  split
  · exact .of_same rfl rfl
  · split
    · exact .of_same rfl rfl
    · rename_i params _ _ update _
      by_cases hdepth : withinDepth c.limits.maxJsonDepth 0 update = false
      · rw [if_pos hdepth]
        exact .of_same rfl rfl
      rw [if_neg hdepth]
      split
      · exact onToolUpdate_appends s _ _ _
      · split_ifs
        · exact onMessageChunk_appends s _ _
        · exact .of_same rfl rfl

/-- The session is the same in all that concerns the plan. -/
theorem Streams.of_same {s s' : Session} (hinvocations : s'.invocations = s.invocations)
    (haborted : s'.aborted = s.aborted) (haccepts : s'.acceptUpdates = s.acceptUpdates)
    (houtput : s'.outputChunks = s.outputChunks) : Streams s s' :=
  ⟨.of_same hinvocations haborted, fun hquiet => ⟨hinvocations, haccepts.trans hquiet,
    congrArg List.flatten houtput⟩⟩

theorem onRequest_streams (s : Session) (id : RpcId) (method : JsString) (params : Option Json) :
    Streams s (onRequest c s id method params) := by
  unfold onRequest
  split_ifs
  · exact .of_same rfl rfl rfl rfl
  · exact .of_same rfl rfl rfl rfl

theorem receiveResponse_streams (s : Session) (message : Json) (id : Option RpcId) :
    Streams s (receiveResponse s message id).1 := by
  unfold receiveResponse
  simp only
  by_cases hshape : id = none ∨ (message.field "result").isSome = (message.field "error").isSome
  · rw [if_pos hshape]
    exact .refl s
  rw [if_neg hshape]
  split
  · exact .refl s
  · rename_i request _
    by_cases hknown : id ≠ some (.number request.id) ∨ request.settled.isSome = true
    · rw [if_pos hknown]
      exact .refl s
    rw [if_neg hknown]
    split
    · exact .of_same rfl rfl rfl rfl
    · split_ifs
      · exact .refl s
      · exact .of_same rfl rfl rfl rfl

theorem receiveMessage_streams (s : Session) (message : Json) :
    Streams s (receiveMessage c s message).1 := by
  unfold receiveMessage
  by_cases hversion : textOf (message.field "jsonrpc") ≠ some (units "2.0")
  · rw [if_pos hversion]
    exact .refl s
  rw [if_neg hversion]
  simp only
  split
  · exact .refl s
  · split_ifs with hmethod
    · exact receiveResponse_streams s message _
    · split
      · exact .refl s
      · rename_i method _
        split_ifs
        · exact .refl s
        · split
          · exact onNotification_streams s _ _
          · rename_i id _
            split_ifs
            · exact .refl s
            · refine Streams.trans ?_ (onRequest_streams _ id method _)
              exact .of_same rfl rfl rfl rfl

theorem receiveFrame_streams (s : Session) (frame : List UInt8) :
    Streams s (receiveFrame c s frame).1 := by
  unfold receiveFrame
  split
  · exact .refl s
  · exact receiveMessage_streams s _

theorem fail_state {σ ε : Type} (connection : NdjsonRpcConnection σ ε) (error : ε) :
    (connection.fail error).state = connection.state := by
  unfold NdjsonRpcConnection.fail
  split <;> rfl

theorem receiveFrames_streams (buffer : List UInt8)
    (connection : NdjsonRpcConnection Session AcpError) :
    Streams connection.state
      (NdjsonRpcConnection.receiveFrames (frames c) buffer connection).state := by
  fun_induction NdjsonRpcConnection.receiveFrames (frames c) buffer connection with
  | case1 buffer connection hfirst hlong =>
      rw [fail_state]
      exact .refl _
  | case2 buffer connection hfirst hshort => exact .refl _
  | case3 buffer connection frame rest hfirst hempty ih => exact ih
  | case4 buffer connection frame rest hfirst hempty hlong =>
      rw [fail_state]
      exact .refl _
  | case5 buffer connection frame rest hfirst hempty hshort state error hhandle =>
      rw [fail_state]
      have hframe := receiveFrame_streams (c := c) connection.state frame
      have hstate : (receiveFrame c connection.state frame).1 = state := congrArg Prod.fst hhandle
      rwa [hstate] at hframe
  | case6 buffer connection frame rest hfirst hempty hshort state hhandle ih =>
      have hframe := receiveFrame_streams (c := c) connection.state frame
      have hstate : (receiveFrame c connection.state frame).1 = state := congrArg Prod.fst hhandle
      rw [hstate] at hframe
      exact hframe.trans ih

theorem receiveChunk_streams (connection : NdjsonRpcConnection Session AcpError)
    (chunk : List UInt8) :
    Streams connection.state
      (NdjsonRpcConnection.receiveChunk (frames c) connection chunk).state := by
  unfold NdjsonRpcConnection.receiveChunk
  split_ifs
  · exact .refl _
  · rw [fail_state]
    exact .refl _
  · have hframes := receiveFrames_streams (c := c) (connection.buffer ++ chunk)
      { connection with stdoutBytes := connection.stdoutBytes + chunk.length }
    exact hframes

/-! ## The invariant -/

/-- Every check of a plan has passed on the output as it now is. -/
structure PlanChecked (c : ExecutionConfig) (output : JsString) (plan : List CopilotAction) :
    Prop where
  parsed : parseActions c.jsonParse c.limits output = .ok plan
  valid : validateActionPlan plan c.cause = .ok ()
  reports : ∀ action ∈ plan, action.isReport = true → c.reportArtifactsEnabled = true

/-- What is left of a plan, by where the execution is. -/
def Remaining (e : Execution) (rest : List CopilotAction) : Prop :=
  match e.phase with
  | .calling r => r = rest
  | .ended none => rest = []
  | .ended (some _) => e.session.aborted = true ∨ e.capabilityFailed = true
  | _ => False

structure Planned (c : ExecutionConfig) (e : Execution) (plan : List CopilotAction) : Prop where
  closed : e.processClosed = true
  quiet : e.session.acceptUpdates = false
  checked : PlanChecked c e.session.output plan
  applied : ∃ streamed done rest, e.session.invocations = streamed ++ done.map .applied ∧
    (∀ i ∈ streamed, i.isStreamed = true) ∧ plan = done ++ rest ∧ Remaining e rest

structure Inv (c : ExecutionConfig) (e : Execution) : Prop where
  unplanned : e.plan = none → (∀ i ∈ e.session.invocations, i.isStreamed = true) ∧
    (∀ rest, e.phase ≠ .calling rest) ∧ e.phase ≠ .ended none
  draining : ∀ result, e.phase = .draining result →
    e.processClosed = true ∧ e.session.acceptUpdates = false
  planned : ∀ plan, e.plan = some plan → Planned c e plan

variable {e e' : Execution}

theorem start_inv : Inv c .start := by
  refine ⟨fun _ => ⟨by rintro _ ⟨⟩, by rintro _ ⟨⟩, by rintro ⟨⟩⟩, by rintro _ ⟨⟩, by rintro _ ⟨⟩⟩

/-! ## Events between the steps -/

/-- The execution stays where it is; at most the provider is heard. -/
structure Calm (e e' : Execution) : Prop where
  phase : e'.phase = e.phase
  plan : e'.plan = e.plan
  capabilityFailed : e'.capabilityFailed = e.capabilityFailed
  closed : e.processClosed = true → e'.processClosed = true
  session : Streams e.session e'.session

theorem Inv.calm (h : Inv c e) (hcalm : Calm e e') : Inv c e' where
  unplanned := by
    intro hplan
    rw [hcalm.plan] at hplan
    obtain ⟨hstreamed, hphase⟩ := h.unplanned hplan
    rw [hcalm.phase]
    refine ⟨?_, hphase⟩
    obtain ⟨new, hnew, hnewStreamed⟩ := hcalm.session.invocations
    intro i hi
    rw [hnew] at hi
    obtain hi | hi := List.mem_append.mp hi
    · exact hstreamed i hi
    · exact hnewStreamed i hi
  draining := by
    intro result hphase
    rw [hcalm.phase] at hphase
    obtain ⟨hclosed, hquiet⟩ := h.draining result hphase
    exact ⟨hcalm.closed hclosed, (hcalm.session.quiet hquiet).2.1⟩
  planned := by
    intro plan hplan
    rw [hcalm.plan] at hplan
    have hold := h.planned plan hplan
    obtain ⟨hinvocations, hquiet, houtput⟩ := hcalm.session.quiet hold.quiet
    obtain ⟨streamed, done, rest, hsplit, hstreamed, hrest, hremaining⟩ := hold.applied
    refine ⟨hcalm.closed hold.closed, hquiet, houtput ▸ hold.checked, streamed, done, rest,
      hinvocations.trans hsplit, hstreamed, hrest, ?_⟩
    unfold Remaining at hremaining ⊢
    rw [hcalm.phase, hcalm.capabilityFailed]
    split at hremaining
    · exact hremaining
    · exact hremaining
    · exact hremaining.imp_left hcalm.session.aborted
    · exact hremaining.elim

theorem fail_calm (e : Execution) (error : AcpError) :
    Calm e { e with connection := e.connection.fail error } :=
  ⟨rfl, rfl, rfl, id, .of_same (congrArg Session.invocations (fail_state _ _))
    (congrArg Session.aborted (fail_state _ _)) (congrArg Session.acceptUpdates (fail_state _ _))
    (congrArg Session.outputChunks (fail_state _ _))⟩

theorem Calm.trans {e'' : Execution} (h : Calm e e') (h' : Calm e' e'') : Calm e e'' :=
  ⟨h'.phase.trans h.phase, h'.plan.trans h.plan, h'.capabilityFailed.trans h.capabilityFailed,
    fun hclosed => h'.closed (h.closed hclosed), h.session.trans h'.session⟩

theorem Calm.of_session (f : Session → Session) (h : ∀ s, Streams s (f s)) :
    Calm e (e.withSession f) := ⟨rfl, rfl, rfl, id, h _⟩

theorem persisted_calm (error : Option AcpError) : Calm e (e.persisted error) := by
  have hcount : Calm e (e.withSession fun s => { s with persisting := s.persisting - 1 }) :=
    .of_session _ fun s => .of_same rfl rfl rfl rfl
  unfold Execution.persisted
  by_cases hnone : e.session.persisting = 0
  · rw [if_pos hnone]
    exact ⟨rfl, rfl, rfl, id, .refl _⟩
  rw [if_neg hnone]
  cases error with
  | none => exact hcount
  | some error =>
      simp only
      split_ifs
      · exact hcount
      · refine (hcount.trans ?_).trans (fail_calm _ error)
        exact .of_session _ fun s => ⟨.of_same rfl rfl, fun _ => ⟨rfl, rfl, rfl⟩⟩

theorem aborted_calm (reason : AcpError) : Calm e (e.aborted reason) := by
  unfold Execution.aborted
  refine Calm.trans ?_ (fail_calm _ reason)
  exact .of_session _ fun s =>
    ⟨⟨⟨[], by simp, by rintro _ ⟨⟩⟩, fun _ => rfl⟩, fun _ => ⟨rfl, rfl, rfl⟩⟩

/-! ## Steps before the plan -/

/-- Nothing is invoked, and the plan is not reached. -/
structure Early (e e' : Execution) : Prop where
  plan : e'.plan = e.plan
  invocations : e'.session.invocations = e.session.invocations
  notCalling : ∀ rest, e'.phase ≠ .calling rest
  notDone : e'.phase ≠ .ended none
  draining : ∀ result, e'.phase = .draining result →
    e'.processClosed = true ∧ e'.session.acceptUpdates = false

/-- A plan is only ever being applied or over. -/
theorem Inv.plan_none (h : Inv c e) {phase : Phase} (hphase : e.phase = phase)
    (hcalling : ∀ rest, phase ≠ .calling rest) (hended : ∀ error, phase ≠ .ended error) :
    e.plan = none := by
  subst hphase
  cases hplan : e.plan with
  | none => rfl
  | some plan =>
      obtain ⟨_, _, rest, _, _, _, hremaining⟩ := (h.planned plan hplan).applied
      unfold Remaining at hremaining
      split at hremaining
      · exact absurd ‹_› (hcalling _)
      · exact absurd ‹_› (hended _)
      · exact absurd ‹_› (hended _)
      · exact hremaining.elim

theorem Inv.early (h : Inv c e) (hplan : e.plan = none) (hearly : Early e e') : Inv c e' := by
  refine ⟨fun _ => ⟨?_, hearly.notCalling, hearly.notDone⟩, hearly.draining, ?_⟩
  · rw [hearly.invocations]
    exact (h.unplanned hplan).1
  · intro plan hsome
    rw [hearly.plan, hplan] at hsome
    cases hsome

theorem fails_early (e : Execution) (error : AcpError) : Early e (e.fails error) :=
  ⟨rfl, rfl, by rintro _ ⟨⟩, by rintro ⟨⟩, by rintro _ ⟨⟩⟩

theorem Early.of_session {f : Session → Session} (h : Early (e.withSession f) e')
    (hsame : ∀ s, (f s).invocations = s.invocations) : Early e e' :=
  ⟨h.plan, h.invocations.trans (hsame _), h.notCalling, h.notDone, h.draining⟩

theorem request_early (e : Execution) {phase : Phase} (writable : Bool)
    (hcalling : ∀ rest, phase ≠ .calling rest) (hdone : phase ≠ .ended none)
    (hdraining : ∀ result, phase ≠ .draining result) : Early e (e.request phase writable) := by
  unfold Execution.request
  split
  · exact fails_early e _
  · simp only
    split_ifs
    · exact ⟨rfl, rfl, hcalling, hdone, fun result h => absurd h (hdraining result)⟩
    · exact (fails_early _ _).of_session fun _ => rfl

theorem stopping_early (e : Execution) (result : Json) :
    Early e { e with phase := .stopping result } :=
  ⟨rfl, rfl, by rintro _ ⟨⟩, by rintro ⟨⟩, by rintro _ ⟨⟩⟩

theorem afterPrompt_early (e : Execution) (promptResult : Json) (writable : Bool) :
    Early e (e.afterPrompt c promptResult writable) := by
  unfold Execution.afterPrompt
  split_ifs
  · exact stopping_early e promptResult
  · split
    · exact fails_early e _
    · split
      · exact stopping_early e promptResult
      · split_ifs
        · exact fails_early e _
        · refine (request_early _ writable ?_ ?_ ?_).of_session fun _ => rfl
          · rintro _ ⟨⟩
          · rintro ⟨⟩
          · rintro _ ⟨⟩

theorem answered_early (hrequesting : e.isRequesting = true) (value : Json) (writable : Bool) :
    Early e (e.answered c value writable) := by
  have hrequest : ∀ (e : Execution) phase, phase = .creatingSession ∨ phase = .prompting ∨
      phase = .selectingMode → Early e (e.request phase writable) := by
    intro e phase hphase
    apply request_early
    · rintro _ rfl
      simp at hphase
    · rintro rfl
      simp at hphase
    · rintro _ rfl
      simp at hphase
  unfold Execution.answered
  split
  · split_ifs
    · exact fails_early e _
    · exact hrequest e _ (.inl rfl)
  · split
    · exact fails_early e _
    · rename_i sessionId _
      simp only
      apply @Early.of_session e _ fun s => { s with sessionId := some sessionId }
      · split_ifs
        · split
          · exact fails_early _ _
          · exact hrequest _ _ (.inr (.inl rfl))
          · exact hrequest _ _ (.inr (.inr rfl))
        · exact hrequest _ _ (.inr (.inl rfl))
      · exact fun _ => rfl
  · exact hrequest e _ (.inr (.inl rfl))
  · exact afterPrompt_early e value writable
  · split
    · exact fails_early e _
    · exact stopping_early e value
  · unfold Execution.isRequesting at hrequesting
    split at hrequesting
    all_goals simp_all

theorem settle_early (hrequesting : e.isRequesting = true) (answer : Checked Json)
    (writable : Bool) : Early e (e.settle c answer writable) := by
  unfold Execution.settle
  split
  · exact fails_early e _
  · split
    · exact answered_early hrequesting _ writable
    · split
      · exact fails_early e _
      · exact answered_early hrequesting _ writable

/-! ## Applying the plan -/

/-- Once there is a plan, its own part of the invariant is all that is left of it. -/
theorem Planned.inv {plan : List CopilotAction} (h : Planned c e plan) (hplan : e.plan = some plan)
    (hdraining : ∀ result, e.phase ≠ .draining result) : Inv c e := by
  refine ⟨?_, fun result hphase => absurd hphase (hdraining result), ?_⟩
  · intro hnone
    exact absurd (hplan.symm.trans hnone) (Option.some_ne_none _)
  · intro plan' hplan'
    obtain rfl := Option.some.inj (hplan.symm.trans hplan')
    exact h

theorem applyNext_inv {plan done : List CopilotAction} {streamed : List Invocation}
    {remaining : List CopilotAction} (hplan : e.plan = some plan) (hclosed : e.processClosed = true)
    (hquiet : e.session.acceptUpdates = false) (hchecked : PlanChecked c e.session.output plan)
    (hinvocations : e.session.invocations = streamed ++ done.map .applied)
    (hstreamed : ∀ i ∈ streamed, i.isStreamed = true) (hsplit : plan = done ++ remaining) :
    Inv c (e.applyNext remaining) := by
  cases remaining with
  | nil =>
      have hplanned : Planned c (e.applyNext []) plan :=
        ⟨hclosed, hquiet, hchecked, streamed, done, [], hinvocations, hstreamed, hsplit, rfl⟩
      exact hplanned.inv hplan (by rintro _ ⟨⟩)
  | cons action rest =>
      unfold Execution.applyNext
      by_cases haborted : e.session.aborted = true
      · simp only [haborted, if_true]
        refine Planned.inv ?_ hplan (by rintro _ ⟨⟩)
        exact ⟨hclosed, rfl, hchecked, streamed, done, action :: rest, hinvocations, hstreamed,
          hsplit, .inl haborted⟩
      · simp only [haborted]
        refine Planned.inv ?_ hplan (by rintro _ ⟨⟩)
        refine ⟨hclosed, hquiet, hchecked, streamed, done ++ [action], rest, ?_, hstreamed,
          by rw [hsplit]; simp, rfl⟩
        have hlast : (e.withSession fun s =>
            { s with invocations := s.invocations ++ [.applied action] }).session.invocations =
            e.session.invocations ++ [.applied action] := rfl
        show (e.withSession fun s =>
          { s with invocations := s.invocations ++ [.applied action] }).session.invocations = _
        rw [hlast, hinvocations]
        simp

theorem checkedPlan_ok {s : Session} {promptResult : Json} {plan : List CopilotAction}
    (h : checkedPlan c s promptResult = .ok plan) : PlanChecked c s.output plan := by
  simp only [checkedPlan, checked_bind_eq_ok, checked_pure_eq_ok] at h
  obtain ⟨_, _, _, _, actions, hparsed, _, hvalid, _, hreports, rfl⟩ := h
  refine ⟨hparsed, hvalid, ?_⟩
  intro action haction hreport
  by_contra hdisabled
  have hrefused : actions.any CopilotAction.isReport = true ∧ c.reportArtifactsEnabled = false :=
    ⟨List.any_eq_true.mpr ⟨action, haction, hreport⟩, by simpa using hdisabled⟩
  rw [assertReportsEnabled, if_pos hrefused] at hreports
  simp at hreports

theorem Inv.drained (h : Inv c e) {promptResult : Json} (hphase : e.phase = .draining promptResult) :
    Inv c (e.drained c promptResult) := by
  have hplan : e.plan = none := h.plan_none hphase (by rintro _ ⟨⟩) (by rintro _ ⟨⟩)
  obtain ⟨hclosed, hquiet⟩ := h.draining _ hphase
  unfold Execution.drained
  split
  · exact h.early hplan (fails_early e _)
  · split
    · exact h.early hplan (fails_early e _)
    · split
      · exact h.early hplan (fails_early e _)
      · rename_i plan hchecked
        exact @applyNext_inv c { e with plan := some plan } plan [] e.session.invocations plan rfl
          hclosed hquiet (checkedPlan_ok hchecked) (List.append_nil _).symm (h.unplanned hplan).1
          rfl

theorem Inv.capabilityReturned (h : Inv c e) {rest : List CopilotAction}
    (hphase : e.phase = .calling rest) (error : Option AcpError) :
    Inv c (e.step c (.capabilityReturns error)) := by
  cases hplan : e.plan with
  | none => exact absurd hphase ((h.unplanned hplan).2.1 rest)
  | some plan =>
      have hplanned := h.planned plan hplan
      obtain ⟨streamed, done, rest', hinvocations, hstreamed, hsplit, hremaining⟩ :=
        hplanned.applied
      simp only [Remaining, hphase] at hremaining
      subst hremaining
      cases error with
      | none =>
          rw [Execution.step_of_calling hphase]
          exact applyNext_inv hplan hplanned.closed hplanned.quiet hplanned.checked hinvocations
            hstreamed hsplit
      | some error =>
          simp only [Execution.step, hphase]
          refine Planned.inv ?_ hplan (by rintro _ ⟨⟩)
          exact ⟨hplanned.closed, rfl, hplanned.checked, streamed, done, rest, hinvocations,
            hstreamed, hsplit, .inr rfl⟩

/-! ## Runs -/

theorem Inv.started (h : Inv c e) (error : Option AcpError) (writable : Bool) :
    Inv c (e.step c (.started error writable)) := by
  simp only [Execution.step]
  split
  · rename_i hphase
    have hplan : e.plan = none := h.plan_none hphase (by rintro _ ⟨⟩) (by rintro _ ⟨⟩)
    exact h.early hplan (fails_early e _)
  · rename_i hphase
    have hplan : e.plan = none := h.plan_none hphase (by rintro _ ⟨⟩) (by rintro _ ⟨⟩)
    split_ifs
    · exact h.early hplan (fails_early e _)
    · apply h.early hplan (request_early e writable _ _ _)
      · rintro _ ⟨⟩
      · rintro ⟨⟩
      · rintro _ ⟨⟩
  · exact h

theorem Inv.stopReturned (h : Inv c e) (error : Option AcpError) :
    Inv c (e.step c (.stopReturns error)) := by
  simp only [Execution.step]
  split
  · rename_i hphase
    have hplan : e.plan = none := h.plan_none hphase (by rintro _ ⟨⟩) (by rintro _ ⟨⟩)
    exact h.early hplan (fails_early e _)
  · rename_i promptResult hphase
    have hplan : e.plan = none := h.plan_none hphase (by rintro _ ⟨⟩) (by rintro _ ⟨⟩)
    split_ifs with hclosed
    · exact h.early hplan ⟨rfl, rfl, by rintro _ ⟨⟩, by rintro ⟨⟩, fun _ _ => ⟨hclosed, rfl⟩⟩
    · exact h
  · exact h

theorem Inv.resumed (h : Inv c e) (writable : Bool) : Inv c (e.resume c writable) := by
  unfold Execution.resume
  by_cases hrequesting : e.isRequesting = true
  · rw [if_pos hrequesting]
    have hplan : e.plan = none := by
      apply h.plan_none rfl
      · intro rest hphase
        simp [Execution.isRequesting, hphase] at hrequesting
      · intro error hphase
        simp [Execution.isRequesting, hphase] at hrequesting
    split
    · exact h
    · exact h.early hplan (settle_early hrequesting _ writable)
  · rw [if_neg hrequesting]
    split
    · rename_i promptResult hphase
      split_ifs
      · exact h.drained hphase
      · exact h
    · exact h

theorem Inv.step (h : Inv c e) (move : Move) : Inv c (e.step c move) := by
  cases move with
  | started error writable => exact h.started error writable
  | output chunk =>
      exact h.calm ⟨rfl, rfl, rfl, id, receiveChunk_streams e.connection chunk⟩
  | connectionFails error => exact h.calm (fail_calm e error)
  | abort reason => exact h.calm (aborted_calm reason)
  | persisted error => exact h.calm (persisted_calm error)
  | responded id =>
      exact h.calm (.of_session (fun s => { s with incoming := s.incoming.erase id })
        fun _ => .of_same rfl rfl rfl rfl)
  | resume writable => exact h.resumed writable
  | processCloses => exact h.calm ⟨rfl, rfl, rfl, fun _ => rfl, .refl _⟩
  | stopReturns error => exact h.stopReturned error
  | capabilityReturns error =>
      by_cases hcalling : ∃ rest, e.phase = .calling rest
      · obtain ⟨rest, hphase⟩ := hcalling
        exact h.capabilityReturned hphase error
      · have hsame : e.step c (.capabilityReturns error) = e := by
          simp only [Execution.step]
          split
          · exact absurd ⟨_, ‹_›⟩ hcalling
          · exact absurd ⟨_, ‹_›⟩ hcalling
          · rfl
        rw [hsame]
        exact h

theorem Inv.run (h : Inv c e) (moves : List Move) : Inv c (e.run c moves) := by
  induction moves generalizing e with
  | nil => exact h
  | cons move rest ih => exact ih (h.step move)

/-- What is left of a plan is applied by as many answers of capabilities. -/
theorem run_calling (rest : List CopilotAction) (hphase : e.phase = .calling rest)
    (haborted : e.session.aborted = false) :
    (e.run c (List.replicate (rest.length + 1) (.capabilityReturns none))).phase =
      .ended none := by
  induction rest generalizing e with
  | nil =>
      show (e.step c (.capabilityReturns none)).phase = .ended none
      rw [Execution.step_of_calling hphase]
      rfl
  | cons action rest ih =>
      rw [List.length_cons, List.replicate_succ]
      show ((e.step c (.capabilityReturns none)).run c _).phase = .ended none
      have hstep : e.step c (.capabilityReturns none) =
          { e.withSession fun s => { s with invocations := s.invocations ++ [.applied action] } with
            phase := .calling rest } := by
        simp [Execution.step_of_calling hphase, Execution.applyNext, haborted]
      rw [hstep]
      exact ih rfl haborted

/-! ## All or nothing -/

/-- What a plan that is applied has passed: the whole envelope is read, it keeps every limit and
fits its cause, and reports can be stored. -/
structure Sound (c : ExecutionConfig) (output : JsString) (plan : List CopilotAction) : Prop where
  parsed : parseActions c.jsonParse c.limits output = .ok plan
  depth : ∃ envelope, c.jsonParse (normalized output) = some envelope ∧
    withinDepth c.limits.maxJsonDepth 0 envelope = true
  limits : WithinLimits c.limits plan
  valid : ValidFor c.cause plan
  reports : ∀ action ∈ plan, action.isReport = true → c.reportArtifactsEnabled = true

theorem PlanChecked.sound {output : JsString} {plan : List CopilotAction}
    (h : PlanChecked c output plan) : Sound c output plan := by
  obtain ⟨hlimits, hdepth⟩ := parseActions_ok h.parsed
  exact ⟨h.parsed, hdepth, hlimits, validateActionPlan_ok h.valid hlimits.nonempty, h.reports⟩

structure AllOrNothing (c : ExecutionConfig) (e : Execution) : Prop where
  /-- As soon as anything but streaming was invoked, the provider has stopped, and a sound plan
  has been invoked up to some place, after all streaming. -/
  applied : (∃ i ∈ e.session.invocations, i.isStreamed = false) →
    e.processClosed = true ∧ ∃ plan streamed done, Sound c e.session.output plan ∧
      e.session.invocations = streamed ++ done.map .applied ∧
      (∀ i ∈ streamed, i.isStreamed = true) ∧ done <+: plan
  /-- Where no sound plan was reached, none of it is applied. -/
  nothing : (∀ plan, ¬ Sound c e.session.output plan) →
    ∀ i ∈ e.session.invocations, i.isStreamed = true
  /-- The whole plan is applied, unless a capability fails or the execution is aborted. -/
  whole : ∀ error, e.phase = .ended error →
    (error = none ∨ ∃ i ∈ e.session.invocations, i.isStreamed = false) →
    e.session.aborted = false → e.capabilityFailed = false →
    ∃ plan streamed, Sound c e.session.output plan ∧
      e.session.invocations = streamed ++ plan.map .applied ∧
      ∀ i ∈ streamed, i.isStreamed = true
  /-- It does come to its end, if all capabilities return. -/
  finishes : ∀ rest, e.phase = .calling rest → e.session.aborted = false →
    (e.run c (List.replicate (rest.length + 1) (.capabilityReturns none))).phase = .ended none

theorem Inv.applied (h : Inv c e) (hsome : ∃ i ∈ e.session.invocations, i.isStreamed = false) :
    ∃ plan, Planned c e plan := by
  cases hplan : e.plan with
  | none =>
      obtain ⟨i, hi, hnot⟩ := hsome
      rw [(h.unplanned hplan).1 i hi] at hnot
      cases hnot
  | some plan => exact ⟨plan, h.planned plan hplan⟩

end Torsor.AgentRuntime.Copilot
