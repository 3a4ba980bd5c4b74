import Torsor.Web.Browser

/-! # Sessions of windows are isolated

Every token a window holds was given out by the server for a session of the Principal the
window holds it with, and a session number stands for one Principal. So a command runs under
the Principal that was signed in when it was accepted, whatever cookie is sent with it.
-/

namespace Torsor.Web

open Torsor.Library Torsor.Kernel Torsor.Server

theorem getElem?_append_of_eq_some {α : Type} {l l' : List α} {n : Nat} {x : α}
    (h : l[n]? = some x) : (l ++ l')[n]? = some x := by
  rw [List.getElem?_append_left (List.getElem?_eq_some_iff.mp h).1, h]

/-! ## Tokens and Principals -/

/-- The server gave out the token for a session of the Principal. -/
def Issued (created : List (String × Session)) (csrfToken principalId : String) : Prop :=
  ∃ entry ∈ created, entry.2.csrfToken = csrfToken ∧ entry.2.context.principalId = principalId

theorem Issued.grows {created more : List (String × Session)} {csrfToken principalId : String}
    (h : Issued created csrfToken principalId) : Issued (created ++ more) csrfToken principalId := by
  obtain ⟨entry, hentry, htoken⟩ := h
  exact ⟨entry, List.mem_append_left more hentry, htoken⟩

/-- No two sessions have one token. -/
def TokensDiffer (created : List (String × Session)) : Prop :=
  ∀ entry ∈ created, ∀ entry' ∈ created, entry.2.csrfToken = entry'.2.csrfToken → entry = entry'

theorem TokensDiffer.append {created : List (String × Session)} {entry : String × Session}
    (h : TokensDiffer created)
    (hfresh : ∀ old ∈ created, old.2.csrfToken ≠ entry.2.csrfToken) :
    TokensDiffer (created ++ [entry]) := by
  intro e he e' he' hsame
  simp only [List.mem_append, List.mem_singleton] at he he'
  cases he with
  | inl hold =>
      cases he' with
      | inl hold' => exact h e hold e' hold' hsame
      | inr hnew' =>
          rw [hnew'] at hsame
          exact absurd hsame (hfresh e hold)
  | inr hnew =>
      cases he' with
      | inl hold' =>
          rw [hnew] at hsame
          exact absurd hsame.symm (hfresh e' hold')
      | inr hnew' => rw [hnew, hnew']

namespace Window

/-- What the window holds, and what it has stored, was issued. -/
structure Sound (created : List (String × Session)) (window : Window) : Prop where
  paired : window.csrfToken.isSome = window.principalId.isSome
  held : ∀ csrfToken principalId, window.csrfToken = some csrfToken →
    window.principalId = some principalId → Issued created csrfToken principalId
  stored : ∀ csrfToken principalId, window.storage.csrf = some csrfToken →
    window.storage.principal = some principalId → Issued created csrfToken principalId

/-- A new session, or the same one of the same Principal. -/
def Moves (window window' : Window) : Prop :=
  window.sessionGeneration < window'.sessionGeneration ∨
    window.sessionGeneration = window'.sessionGeneration ∧
      (window.principalId.isSome → window'.principalId = window.principalId)

/-- Something was begun in an earlier session of the window, or in this one, by the Principal
who is signed in. -/
def Followed (window : Window) (sessionGeneration : Nat) (principalId : Option String) : Prop :=
  sessionGeneration < window.sessionGeneration ∨
    sessionGeneration = window.sessionGeneration ∧ principalId.isSome ∧
      window.principalId = principalId

variable {created more : List (String × Session)} {window window' window'' : Window}
  {csrfToken principalId : String}

theorem Moves.refl (window : Window) : Moves window window := .inr ⟨rfl, fun _ => rfl⟩

theorem Moves.trans (h : Moves window window') (h' : Moves window' window'') :
    Moves window window'' := by
  unfold Moves at *
  cases h with
  | inl hless =>
      left
      cases h' with
      | inl hless' => omega
      | inr hsame => omega
  | inr hsame =>
      obtain ⟨heq, hprincipal⟩ := hsame
      cases h' with
      | inl hless' =>
          left
          omega
      | inr hsame' =>
          right
          refine ⟨by omega, fun hsome => ?_⟩
          have hprincipal' := hprincipal hsome
          rw [← hprincipal'] at hsome ⊢
          exact hsame'.2 hsome

theorem Followed.moves {sessionGeneration : Nat} {principalId : Option String}
    (h : window.Followed sessionGeneration principalId) (hmoves : Moves window window') :
    window'.Followed sessionGeneration principalId := by
  unfold Followed Moves at *
  cases h with
  | inl hless =>
      left
      omega
  | inr hsame =>
      obtain ⟨hgeneration, hsome, hprincipal⟩ := hsame
      cases hmoves with
      | inl hless =>
          left
          omega
      | inr hkeeps =>
          right
          refine ⟨by omega, hsome, ?_⟩
          rw [hkeeps.2 (by rw [hprincipal]; exact hsome), hprincipal]

theorem Sound.grows (h : window.Sound created) : window.Sound (created ++ more) where
  paired := h.paired
  held csrfToken principalId hcsrf hprincipal := (h.held csrfToken principalId hcsrf hprincipal).grows
  stored csrfToken principalId hcsrf hprincipal :=
    (h.stored csrfToken principalId hcsrf hprincipal).grows

theorem sound_setCsrfToken (h : Issued created csrfToken principalId) :
    (window.setCsrfToken csrfToken principalId).Sound created where
  paired := rfl
  held token principal hcsrf hprincipal := by
    cases hcsrf
    cases hprincipal
    exact h
  stored token principal hcsrf hprincipal := by
    cases hcsrf
    cases hprincipal
    exact h

theorem sound_clearSession (session : SessionState) :
    (window.clearSession session).Sound created where
  paired := rfl
  held _ _ hcsrf := nomatch hcsrf
  stored _ _ hcsrf := nomatch hcsrf

theorem Sound.beginBootstrap (h : window.Sound created) :
    window.beginBootstrap.Sound created := ⟨h.paired, h.held, h.stored⟩

theorem moves_clearSession (session : SessionState) :
    Moves window (window.clearSession session) := .inl (Nat.lt_succ_self _)

theorem moves_beginBootstrap : Moves window window.beginBootstrap := .inl (Nat.lt_succ_self _)

theorem sound_receive {message : WindowMessage}
    (hmessage : ∀ csrfToken principalId, message = .session csrfToken principalId →
      Issued created csrfToken principalId) : (window.receive message).Sound created := by
  cases message with
  | session csrfToken principalId =>
      simp only [Window.receive]
      split
      · exact sound_clearSession _
      · exact sound_setCsrfToken (hmessage _ _ rfl)
  | sessionCleared session => exact sound_clearSession _

theorem moves_receive (message : WindowMessage) : Moves window (window.receive message) := by
  cases message with
  | session csrfToken principalId =>
      simp only [Window.receive]
      split
      · exact moves_clearSession _
      · rename_i hsame
        right
        refine ⟨rfl, fun hsome => ?_⟩
        obtain ⟨principal, hprincipal⟩ := Option.isSome_iff_exists.mp hsome
        rw [hprincipal] at hsame
        have heq : principal = principalId := by simpa using hsame
        rw [hprincipal, heq]
        rfl
  | sessionCleared session => exact moves_clearSession _

theorem moves_resume : Moves window window.resume := by
  unfold Window.resume
  split
  · exact .inl (Nat.lt_succ_self _)
  · exact .inr ⟨rfl, fun _ => rfl⟩

end Window

namespace System

variable {site : Site} {s s' : System} {request : HttpRequest}

/-! ## The invariant -/

/-- The sessions of the server, and what was given out for them. -/
structure Credentials (s : System) : Prop where
  live : ∀ id session, s.sessions id = some session → (id, session) ∈ s.created
  tokens : TokensDiffer s.created
  windows : ∀ window ∈ s.windows, window.Sound s.created
  messages : ∀ i csrfToken principalId, (i, .session csrfToken principalId) ∈ s.messages →
    Issued s.created csrfToken principalId
  responses : ∀ r response, (r, response) ∈ s.responses →
    ∀ principalId csrfToken, response.body = .session principalId csrfToken →
      Issued s.created csrfToken principalId

/-- A request of a command carries a token of the Principal who gave the command. -/
def Carries (s : System) (request : HttpRequest) : Prop :=
  ∀ n, request.sender = .command n → ∃ call, s.commands[n]? = some call ∧
    request.headers.authorization = none ∧ ∃ csrfToken principalId,
      request.headers.csrf = some csrfToken ∧ call.principalId = some principalId ∧
        Issued s.created csrfToken principalId

/-- The request was authenticated by a session of the server and its token, or by a bearer
credential. -/
def Admits (s : System) (request : HttpRequest) (authenticated : AuthenticatedRequest) : Prop :=
  match authenticated.session with
  | none => request.headers.authorization.isSome
  | some binding =>
      (binding.sessionId,
        ⟨authenticated.context, binding.sessionExpiresAt, binding.sessionCsrfToken⟩) ∈ s.created ∧
        request.headers.csrf = some binding.sessionCsrfToken

/-- Requests, and what the server makes of them. -/
structure Bound (s : System) : Prop where
  requests : ∀ request ∈ s.requests, s.Carries request
  jobs : ∀ job ∈ s.jobs, ∃ request, s.requests[job.request]? = some request ∧
    s.Admits request job.authenticated
  executions : ∀ x ∈ s.executions, ∃ request, s.requests[x.request]? = some request ∧
    s.Admits request x.authenticated
  current : ∀ x ∈ s.executions, authenticationIsCurrent x.sessions x.now x.authenticated = true

/-- What was begun in the session a window is in was begun by its Principal. -/
structure Numbered (s : System) : Prop where
  commands : ∀ call ∈ s.commands, ∃ window, s.windows[call.window]? = some window ∧
    window.Followed call.sessionGeneration call.principalId
  loads : ∀ load ∈ s.loads, ∃ window, s.windows[load.window]? = some window ∧
    window.Followed load.sessionGeneration load.principalId
  shown : ∀ (i : Nat) (window : Window), s.windows[i]? = some window → ∀ projection,
    ∀ n ∈ window.projections projection, ∃ load : Load, s.loads[n]? = some load ∧
      load.window = i ∧ load.sessionGeneration = window.sessionGeneration

structure Inv (s : System) : Prop where
  credentials : s.Credentials
  bound : s.Bound
  numbered : s.Numbered

/-! ## Parts of steps keep it -/

/-- What a step may make of a window. -/
structure Allows (s : System) (i : Nat) (window window' : Window) : Prop where
  sound : window'.Sound s.created
  moves : window.Moves window'
  shown : ∀ projection, ∀ n ∈ window'.projections projection,
    n ∈ window.projections projection ∧
        window'.sessionGeneration = window.sessionGeneration ∨
      ∃ load : Load, s.loads[n]? = some load ∧ load.window = i ∧
        load.sessionGeneration = window'.sessionGeneration

theorem change_window {i j : Nat} {f : Window → Window} {window' : Window}
    (h : (s.change i f).windows[j]? = some window') :
    ∃ window, s.windows[j]? = some window ∧
      (i = j ∧ window' = f window ∨ i ≠ j ∧ window' = window) := by
  simp only [change, List.getElem?_modify] at h
  by_cases hij : i = j
  · simp only [hij, if_true, Option.map_eq_map, Option.map_eq_some_iff] at h
    obtain ⟨window, hwindow, rfl⟩ := h
    exact ⟨window, hwindow, .inl ⟨hij, rfl⟩⟩
  · simp only [hij, if_false, id_map'] at h
    exact ⟨window', by simpa using h, .inr ⟨hij, rfl⟩⟩

theorem Allows.followed {i j : Nat} {f : Window → Window} {sessionGeneration : Nat}
    {principalId : Option String}
    (hf : ∀ window, s.windows[i]? = some window → s.Allows i window (f window))
    (h : ∃ window, s.windows[j]? = some window ∧ window.Followed sessionGeneration principalId) :
    ∃ window, (s.change i f).windows[j]? = some window ∧
      window.Followed sessionGeneration principalId := by
  obtain ⟨window, hwindow, hfollowed⟩ := h
  simp only [System.change, List.getElem?_modify, hwindow]
  by_cases hij : i = j
  · subst hij
    exact ⟨f window, by simp, hfollowed.moves (hf window hwindow).moves⟩
  · exact ⟨window, by simp [hij], hfollowed⟩

theorem Numbered.change {i : Nat} {f : Window → Window} (hn : s.Numbered)
    (hf : ∀ window, s.windows[i]? = some window → s.Allows i window (f window)) :
    (s.change i f).Numbered where
  commands call hcall := Allows.followed hf (hn.commands call hcall)
  loads load hload := Allows.followed hf (hn.loads load hload)
  shown j window' hwindow' projection n hn' := by
    obtain ⟨window, hwindow, ⟨rfl, rfl⟩ | ⟨-, rfl⟩⟩ := change_window hwindow'
    · cases (hf window hwindow).shown projection n hn' with
      | inl hold =>
          obtain ⟨load, hload, hi, hgeneration⟩ := hn.shown i window hwindow projection n hold.1
          exact ⟨load, hload, hi, hgeneration.trans hold.2.symm⟩
      | inr hnew => exact hnew
    · exact hn.shown j _ hwindow projection n hn'

theorem Inv.change {i : Nat} {f : Window → Window} (hi : Inv s)
    (hf : ∀ window, s.windows[i]? = some window → s.Allows i window (f window)) :
    Inv (s.change i f) where
  credentials :=
    { hi.credentials with
      windows := by
        intro window' hmem
        obtain ⟨j, hj⟩ := List.mem_iff_getElem?.mp hmem
        obtain ⟨window, hwindow, ⟨rfl, rfl⟩ | ⟨-, rfl⟩⟩ := change_window hj
        · exact (hf window hwindow).sound
        · exact hi.credentials.windows _ (List.mem_of_getElem? hwindow) }
  bound := { hi.bound with }
  numbered := hi.numbered.change hf

/-- A window that only goes on in its session, or begins an empty one. -/
theorem Allows.of_window {i : Nat} {window window' : Window} (hsound : window'.Sound s.created)
    (hmoves : window.Moves window')
    (hshown : window'.projections = window.projections ∧
        window'.sessionGeneration = window.sessionGeneration ∨
      window'.projections = fun _ => []) : s.Allows i window window' where
  sound := hsound
  moves := hmoves
  shown projection n hn := by
    cases hshown with
    | inl hsame => exact .inl ⟨hsame.1 ▸ hn, hsame.2⟩
    | inr hempty =>
        rw [hempty] at hn
        cases hn

theorem Inv.windowSound (hi : Inv s) {i : Nat} {window : Window}
    (hwindow : s.windows[i]? = some window) : window.Sound s.created :=
  hi.credentials.windows window (List.mem_of_getElem? hwindow)

theorem Inv.post {i : Nat} {message : WindowMessage} (hi : Inv s)
    (hmessage : ∀ csrfToken principalId, message = .session csrfToken principalId →
      Issued s.created csrfToken principalId) : Inv (s.post i message) where
  credentials :=
    { hi.credentials with
      messages := by
        intro j csrfToken principalId hmem
        cases List.mem_append.mp hmem with
        | inl hold => exact hi.credentials.messages j csrfToken principalId hold
        | inr hnew =>
            cases List.mem_singleton.mp hnew
            exact hmessage csrfToken principalId rfl }
  bound := { hi.bound with }
  numbered := { hi.numbered with }

theorem Inv.clearSession {i : Nat} {session : SessionState} {broadcast : Bool} (hi : Inv s) :
    Inv (s.clearSession i session broadcast) := by
  have hposted : Inv (if broadcast then s.post i (.sessionCleared session) else s) := by
    split
    · exact hi.post fun _ _ h => nomatch h
    · exact hi
  apply hposted.change
  intro window hwindow
  exact .of_window (Window.sound_clearSession _) (Window.moves_clearSession _) (.inr rfl)

theorem Inv.respond {r : Nat} {response : HttpResponse} (hi : Inv s)
    (hresponse : ∀ principalId csrfToken, response.body = .session principalId csrfToken →
      Issued s.created csrfToken principalId) : Inv (s.respond r response) where
  credentials :=
    { hi.credentials with
      responses := by
        intro r' response' hmem
        cases List.mem_append.mp hmem with
        | inl hold => exact hi.credentials.responses r' response' hold
        | inr hnew =>
            cases List.mem_singleton.mp hnew
            exact hresponse }
  bound := { hi.bound with }
  numbered := { hi.numbered with }

theorem Inv.send {request : HttpRequest} (hi : Inv s) (hcarries : s.Carries request) :
    Inv (s.send request) where
  credentials := { hi.credentials with }
  bound :=
    { hi.bound with
      requests := by
        intro request' hmem
        cases List.mem_append.mp hmem with
        | inl hold => exact hi.bound.requests request' hold
        | inr hnew =>
            cases List.mem_singleton.mp hnew
            exact hcarries
      jobs := by
        intro job hjob
        obtain ⟨request', hrequest, hadmits⟩ := hi.bound.jobs job hjob
        exact ⟨request', getElem?_append_of_eq_some hrequest, hadmits⟩
      executions := by
        intro x hx
        obtain ⟨request', hrequest, hadmits⟩ := hi.bound.executions x hx
        exact ⟨request', getElem?_append_of_eq_some hrequest, hadmits⟩ }
  numbered := { hi.numbered with }

/-! ### Commands and loads -/

theorem setPhase_command {n m : Nat} {phase : CommandPhase} {call : CommandCall}
    (h : s.commands[m]? = some call) :
    ∃ phase', (s.setPhase n phase).commands[m]? = some { call with phase := phase' } := by
  simp only [setPhase, List.getElem?_modify, h]
  by_cases hnm : n = m
  · exact ⟨phase, by simp [hnm]⟩
  · exact ⟨call.phase, by simp [hnm]⟩

theorem mem_setPhase {n : Nat} {phase : CommandPhase} {call' : CommandCall}
    (h : call' ∈ (s.setPhase n phase).commands) :
    ∃ call ∈ s.commands, ∃ phase', call' = { call with phase := phase' } := by
  obtain ⟨m, hm⟩ := List.mem_iff_getElem?.mp h
  simp only [setPhase, List.getElem?_modify, Option.map_eq_map, Option.map_eq_some_iff] at hm
  obtain ⟨call, hcall, heq⟩ := hm
  refine ⟨call, List.mem_of_getElem? hcall, ?_⟩
  by_cases hnm : n = m
  · exact ⟨phase, by simpa [hnm] using heq.symm⟩
  · exact ⟨call.phase, by simpa [hnm] using heq.symm⟩

theorem Carries.later (h : s.Carries request)
    (hcreated : ∃ more, s'.created = s.created ++ more)
    (hcalls : ∀ (n : Nat) (call : CommandCall), s.commands[n]? = some call →
      ∃ phase, s'.commands[n]? = some { call with phase := phase }) : s'.Carries request := by
  intro n hsender
  obtain ⟨call, hcall, hauthorization, csrfToken, principalId, hcsrf, hprincipal, hissued⟩ :=
    h n hsender
  obtain ⟨phase, hcall'⟩ := hcalls n call hcall
  obtain ⟨more, hmore⟩ := hcreated
  exact ⟨_, hcall', hauthorization, csrfToken, principalId, hcsrf, hprincipal,
    hmore ▸ hissued.grows⟩

theorem Inv.setPhase {n : Nat} {phase : CommandPhase} (hi : Inv s) : Inv (s.setPhase n phase) where
  credentials := { hi.credentials with }
  bound :=
    { hi.bound with
      requests := fun request hrequest =>
        Carries.later (hi.bound.requests request hrequest) ⟨[], (List.append_nil _).symm⟩ fun _ _ => setPhase_command }
  numbered :=
    { hi.numbered with
      commands := by
        intro call' hcall'
        obtain ⟨call, hcall, phase', rfl⟩ := mem_setPhase hcall'
        exact hi.numbered.commands call hcall }

theorem Inv.addCommand {call : CommandCall} (hi : Inv s)
    (hfollowed : ∃ window, s.windows[call.window]? = some window ∧
      window.Followed call.sessionGeneration call.principalId) :
    Inv { s with commands := s.commands ++ [call] } where
  credentials := { hi.credentials with }
  bound :=
    { hi.bound with
      requests := fun request hrequest =>
        Carries.later (hi.bound.requests request hrequest) ⟨[], (List.append_nil _).symm⟩ fun _ call' hcall' =>
          ⟨call'.phase, getElem?_append_of_eq_some hcall'⟩ }
  numbered :=
    { hi.numbered with
      commands := by
        intro call' hmem
        cases List.mem_append.mp hmem with
        | inl hold => exact hi.numbered.commands call' hold
        | inr hnew =>
            cases List.mem_singleton.mp hnew
            exact hfollowed }

theorem Inv.startLoad {i : Nat} {window : Window} {kind : LoadKind} (hi : Inv s)
    (hwindow : s.windows[i]? = some window) (hsession : window.principalId.isSome) : Inv (s.startLoad i window kind) where
  credentials := { hi.credentials with }
  bound := { hi.bound with }
  numbered :=
    { hi.numbered with
      loads := by
        intro load hmem
        cases List.mem_append.mp hmem with
        | inl hold => exact hi.numbered.loads load hold
        | inr hnew =>
            cases List.mem_singleton.mp hnew
            exact ⟨window, hwindow, .inr ⟨rfl, hsession, rfl⟩⟩
      shown := by
        intro j window' hwindow' projection n hn
        obtain ⟨load, hload, hat⟩ := hi.numbered.shown j window' hwindow' projection n hn
        exact ⟨load, getElem?_append_of_eq_some hload, hat⟩ }

/-- A command is sent under the token its window holds for the Principal of the command. -/
theorem Inv.sendCommand {n : Nat} {call : CommandCall} {command : KernelCommand}
    {attempt : Attempt} {csrfToken principalId : String} (hi : Inv s)
    (hcall : s.commands[n]? = some call) (hprincipal : call.principalId = some principalId)
    (hissued : Issued s.created csrfToken principalId) :
    Inv (s.sendCommand site n command attempt csrfToken) := by
  apply Inv.setPhase
  apply hi.send
  intro m hsender
  cases hsender
  exact ⟨call, hcall, rfl, csrfToken, principalId, rfl, hprincipal, hissued⟩

theorem Inv.settleLoad {n : Nat} (hi : Inv s) :
    Inv { s with loads := s.loads.modify n fun load => { load with settled := true } } where
  credentials := { hi.credentials with }
  bound := { hi.bound with }
  numbered :=
    { hi.numbered with
      loads := by
        intro load' hmem
        obtain ⟨m, hm⟩ := List.mem_iff_getElem?.mp hmem
        simp only [List.getElem?_modify, Option.map_eq_map, Option.map_eq_some_iff] at hm
        obtain ⟨load, hload, rfl⟩ := hm
        have hold := hi.numbered.loads load (List.mem_of_getElem? hload)
        split
        · exact hold
        · exact hold
      shown := by
        intro i window hwindow projection m hm
        obtain ⟨load, hload, hwhere, hgeneration⟩ :=
          hi.numbered.shown i window hwindow projection m hm
        simp only [List.getElem?_modify, hload]
        split
        · exact ⟨_, rfl, hwhere, hgeneration⟩
        · exact ⟨_, rfl, hwhere, hgeneration⟩ }

theorem Inv.endLoad {n : Nat} {load : Load} {window : Window} {current : Bool} (hi : Inv s)
    (hload : s.loads[n]? = some load) (hwindow : s.windows[load.window]? = some window) :
    Inv (s.endLoad n load window current) := by
  unfold System.endLoad
  split
  · rename_i hcurrent
    apply hi.settleLoad.change
    intro window' hwindow'
    obtain rfl : window' = window := Option.some.inj (hwindow'.symm.trans hwindow)
    have hsound := hi.windowSound hwindow
    refine ⟨⟨hsound.paired, hsound.held, hsound.stored⟩, .inr ⟨rfl, fun _ => rfl⟩, ?_⟩
    intro projection m hm
    have hnew : ∃ load' : Load,
        (s.loads.modify n fun load => { load with settled := true })[n]? = some load' ∧
          load'.window = load.window ∧ load'.sessionGeneration = window'.sessionGeneration :=
      ⟨{ load with settled := true }, by simp [hload], rfl, hcurrent.1.symm⟩
    simp only [Window.show] at hm
    split at hm
    · obtain rfl : m = n := by simpa using hm
      exact .inr hnew
    · cases List.mem_cons.mp hm with
      | inl hfirst => exact .inr (hfirst ▸ hnew)
      | inr hold => exact .inl ⟨hold, rfl⟩
    · exact .inl ⟨hm, rfl⟩
  · exact hi.settleLoad

/-! ### The server -/

theorem Inv.fewerSessions {sessions : Sessions} (hi : Inv s)
    (hfewer : ∀ id session, sessions id = some session → s.sessions id = some session) :
    Inv { s with sessions } where
  credentials :=
    { hi.credentials with
      live := fun id session hsession =>
        hi.credentials.live id session (hfewer id session hsession) }
  bound := { hi.bound with }
  numbered := { hi.numbered with }

theorem pruned_eq_some {sessions : Sessions} {now : Int} {id : String} {session : Session} :
    sessions.pruned now id = some session ↔
      sessions id = some session ∧ now < session.expiresAt := by
  simp [Sessions.pruned, Option.filter_eq_some_iff]

theorem Inv.prune {now : Int} (hi : Inv s) :
    Inv { s with sessions := s.sessions.pruned now } :=
  hi.fewerSessions fun _ _ hsession => (pruned_eq_some.mp hsession).1

theorem Inv.delete {id : String} (hi : Inv s) :
    Inv { s with sessions := s.sessions.delete id } := by
  apply hi.fewerSessions
  intro id' session hsession
  unfold Sessions.delete at hsession
  split at hsession
  · cases hsession
  · exact hsession

theorem Admits.later {authenticated : AuthenticatedRequest}
    (h : s.Admits request authenticated) (hcreated : ∃ more, s'.created = s.created ++ more) :
    s'.Admits request authenticated := by
  obtain ⟨more, hmore⟩ := hcreated
  unfold Admits at h ⊢
  split
  · rename_i hnone
    rw [hnone] at h
    exact h
  · rename_i binding hbinding
    rw [hbinding] at h
    exact ⟨hmore ▸ List.mem_append_left more h.1, h.2⟩

/-- A sign-in finds a session that lives, or gets a new one. -/
theorem grantSession_eq_ok {options : ServerOptions} {sessions : Sessions} {now : Int}
    {headers : RequestHeaders} {sessionId csrfToken : String} {grant : SessionGrant}
    (h : grantSession options sessions now headers sessionId csrfToken = .ok grant) :
    grant.reused = true ∧ sessions.pruned now grant.sessionId = some grant.session ∨
      grant.reused = false ∧ grant.sessionId = sessionId ∧ grant.session.csrfToken = csrfToken := by
  unfold grantSession at h
  split at h
  · cases h
  · split at h
    · cases h
    · rename_i context _
      generalize hreusable : (do
        let currentSessionId ← headers.cookie
        let currentSession ← sessions.pruned now currentSessionId
        if sameContext currentSession.context context then
          some ⟨currentSessionId, currentSession, true⟩
        else none : Option SessionGrant) = reusable at h
      cases reusable with
      | none =>
          cases h
          exact .inr ⟨rfl, rfl, rfl⟩
      | some found =>
          cases h
          left
          simp only [Option.bind_eq_bind, Option.bind_eq_some_iff] at hreusable
          obtain ⟨id, -, session, hsession, hfound⟩ := hreusable
          split at hfound
          · cases hfound
            exact ⟨rfl, hsession⟩
          · cases hfound

theorem Inv.grant {r : Nat} {now : Int} {grant : SessionGrant} (hi : Inv s)
    (hgrant : grant.reused = true ∧ s.sessions.pruned now grant.sessionId = some grant.session ∨
      grant.reused = false ∧ s.Fresh grant.sessionId grant.session.csrfToken) :
    Inv (s.grant r now grant) := by
  have hmem : (grant.sessionId, grant.session) ∈
      if grant.reused then s.created else s.created ++ [(grant.sessionId, grant.session)] := by
    cases hgrant with
    | inl hold =>
        rw [if_pos hold.1]
        exact hi.credentials.live _ _ (pruned_eq_some.mp hold.2).1
    | inr hnew =>
        rw [if_neg (by simp [hnew.1])]
        simp
  have hmore : ∃ more, (if grant.reused then s.created
      else s.created ++ [(grant.sessionId, grant.session)]) = s.created ++ more := by
    split
    · exact ⟨[], (List.append_nil _).symm⟩
    · exact ⟨_, rfl⟩
  have htokens : TokensDiffer (if grant.reused then s.created
      else s.created ++ [(grant.sessionId, grant.session)]) := by
    cases hgrant with
    | inl hold =>
        rw [if_pos hold.1]
        exact hi.credentials.tokens
    | inr hnew =>
        rw [if_neg (by simp [hnew.1])]
        exact hi.credentials.tokens.append fun entry hentry => (hnew.2 entry hentry).2
  generalize hcreated : (if grant.reused then s.created
      else s.created ++ [(grant.sessionId, grant.session)]) = created at *
  obtain ⟨more, rfl⟩ := hmore
  have hgranted : Inv { s with
      sessions := (s.sessions.pruned now).put grant.sessionId grant.session
      created := s.created ++ more } :=
    { credentials :=
        { live := by
            intro id session hsession
            simp only [Sessions.put] at hsession
            split at hsession
            · cases hsession
              rename_i hid
              exact hid ▸ hmem
            · exact List.mem_append_left more
                (hi.credentials.live id session (pruned_eq_some.mp hsession).1)
          tokens := htokens
          windows := fun window hwindow => (hi.credentials.windows window hwindow).grows
          messages := fun i csrfToken principalId hmessage =>
            (hi.credentials.messages i csrfToken principalId hmessage).grows
          responses := fun r response hresponse principalId csrfToken hbody =>
            (hi.credentials.responses r response hresponse principalId csrfToken hbody).grows }
      bound :=
        { hi.bound with
          requests := fun request hrequest =>
            Carries.later (hi.bound.requests request hrequest) ⟨more, rfl⟩
              fun _ call hcall => ⟨call.phase, hcall⟩
          jobs := fun job hjob => by
            obtain ⟨request, hrequest, hadmits⟩ := hi.bound.jobs job hjob
            exact ⟨request, hrequest, hadmits.later ⟨more, rfl⟩⟩
          executions := fun x hx => by
            obtain ⟨request, hrequest, hadmits⟩ := hi.bound.executions x hx
            exact ⟨request, hrequest, hadmits.later ⟨more, rfl⟩⟩ }
      numbered := { hi.numbered with } }
  unfold System.grant
  rw [hcreated]
  apply hgranted.respond
  intro principalId csrfToken hbody
  cases hbody
  exact ⟨_, hmem, rfl, rfl⟩

theorem Inv.arriveExchange {r : Nat} {headers : RequestHeaders} {now : Int}
    {sessionId csrfToken : String} (hi : Inv s) (hfresh : s.Fresh sessionId csrfToken) :
    Inv (s.arriveExchange site r headers now sessionId csrfToken) := by
  unfold System.arriveExchange
  split
  · exact hi.respond fun _ _ h => nomatch h
  · rename_i grant hgrant
    apply hi.grant
    cases grantSession_eq_ok hgrant with
    | inl hold => exact .inl hold
    | inr hnew =>
        right
        refine ⟨hnew.1, ?_⟩
        rw [hnew.2.1, hnew.2.2]
        exact hfresh

theorem Inv.arriveSignOut {r : Nat} {headers : RequestHeaders} (hi : Inv s) :
    Inv (s.arriveSignOut r headers) := by
  have hdeleted : Inv { s with sessions := headers.cookie.elim s.sessions s.sessions.delete } := by
    cases headers.cookie with
    | none => exact hi
    | some id => exact hi.delete
  exact hdeleted.respond fun _ _ h => nomatch h

/-- What `authenticate` says of a request holds of it. -/
theorem authenticate_admits {now : Int} {authenticated : AuthenticatedRequest}
    (hi : Inv s)
    (h : authenticate site.options s.sessions now request.headers = .ok authenticated)
    (hcsrf : ∀ binding, authenticated.session = some binding →
      request.headers.csrf = some binding.sessionCsrfToken) :
    s.Admits request authenticated := by
  unfold authenticate at h
  simp only at h
  split at h
  · cases h
  · split at h
    · rename_i hbearer _
      obtain ⟨token, htoken, -⟩ := Option.bind_eq_some_iff.mp hbearer
      split at h
      · cases h
        simp [Admits, htoken]
      · cases h
    · rename_i hbearer _
      cases h
      obtain ⟨token, htoken, -⟩ := Option.bind_eq_some_iff.mp hbearer
      simp [Admits, htoken]
    · rename_i sessionId session _ hcurrent
      cases h
      simp only [Sessions.current, Option.bind_eq_bind, Option.bind_eq_some_iff,
        Option.pure_def, Option.some.injEq, Prod.mk.injEq] at hcurrent
      obtain ⟨id, -, found, hfound, rfl, rfl⟩ := hcurrent
      exact ⟨hi.credentials.live _ _ (pruned_eq_some.mp hfound).1, hcsrf _ rfl⟩
    · cases h

theorem csrf_of_checked {type : Option CommandType} {headers : RequestHeaders}
    {authenticated : AuthenticatedRequest} {binding : SessionBinding}
    (h : checkCommandHeaders type headers authenticated = none)
    (hbinding : authenticated.session = some binding) :
    headers.csrf = some binding.sessionCsrfToken := by
  unfold checkCommandHeaders at h
  split at h
  · cases h
  · split at h
    · cases h
    · split at h
      · cases h
      · rename_i hcsrf
        simpa [hbinding] using hcsrf

theorem Inv.arrive {r : Nat} {now : Int} (hi : Inv s) (hrequest : s.requests[r]? = some request) :
    Inv (s.arrive site r request now) := by
  have hpruned : Inv { s with sessions := s.sessions.pruned now } := hi.prune
  unfold System.arrive
  simp only
  split
  · exact hpruned.respond fun _ _ h => nomatch h
  · rename_i authenticated hauthenticated
    split
    · split
      · exact hpruned.respond fun _ _ h => nomatch h
      · rename_i type _ _ hchecked
        have hadmits : s.Admits request authenticated := by
          apply authenticate_admits hi hauthenticated
          intro binding hbinding
          exact csrf_of_checked hchecked hbinding
        exact
          { credentials := { hpruned.credentials with }
            bound :=
              { hpruned.bound with
                jobs := by
                  intro job hmem
                  cases List.mem_append.mp hmem with
                  | inl hold => exact hi.bound.jobs job hold
                  | inr hnew =>
                      cases List.mem_singleton.mp hnew
                      exact ⟨request, hrequest, hadmits⟩ }
            numbered := { hpruned.numbered with } }
    · exact hpruned.respond fun _ _ h => nomatch h

theorem Inv.executed {job : Job} {now : Int} {command : KernelCommand}
    {outcome : Except Failure CommandResult} {world : World} (hi : Inv s) (hjob : job ∈ s.jobs)
    (hcurrent : authenticationIsCurrent s.sessions now job.authenticated = true) :
    Inv (s.executed job now command outcome world) where
  credentials := { hi.credentials with }
  bound :=
    { hi.bound with
      executions := by
        intro x hmem
        cases List.mem_append.mp hmem with
        | inl hold => exact hi.bound.executions x hold
        | inr hnew =>
            cases List.mem_singleton.mp hnew
            exact hi.bound.jobs job hjob
      current := by
        intro x hmem
        cases List.mem_append.mp hmem with
        | inl hold => exact hi.bound.current x hold
        | inr hnew =>
            cases List.mem_singleton.mp hnew
            exact hcurrent }
  numbered := { hi.numbered with }

theorem commandResponse_body {outcome : Except Failure CommandResult} {logged : Bool}
    {principalId csrfToken : String} :
    (commandResponse outcome logged).body ≠ .session principalId csrfToken := by
  unfold commandResponse
  split
  · split <;> simp
  · unfold failureResponse
    split <;> simp

theorem Inv.perform {job : Job} {body : RequestBody} {now : Int} {correlationId : String}
    {logged : Bool} (hi : Inv s) (hjob : job ∈ s.jobs) :
    Inv (s.perform site job body now correlationId logged) := by
  unfold System.perform
  split
  · exact hi.respond fun _ _ h => nomatch h
  · split
    · rename_i hcurrent
      exact (hi.executed hjob hcurrent).respond fun _ _ h => absurd h commandResponse_body
    · apply Inv.respond
      · unfold sessionsAfterCheck
        split
        · exact hi
        · split
          · exact hi
          · exact hi.delete
      · exact fun _ _ h => nomatch h

/-! ### Windows and the browser -/

/-- A new window. -/
theorem Inv.openWindow {storage : SessionStorage} (hi : Inv s)
    (hstored : ∀ csrfToken principalId, storage.csrf = some csrfToken →
      storage.principal = some principalId → Issued s.created csrfToken principalId) :
    Inv { s with windows := s.windows ++ [{ storage }] } where
  credentials :=
    { hi.credentials with
      windows := by
        intro window hmem
        cases List.mem_append.mp hmem with
        | inl hold => exact hi.credentials.windows window hold
        | inr hnew =>
            cases List.mem_singleton.mp hnew
            exact ⟨rfl, (fun _ _ h => nomatch h), hstored⟩ }
  bound := { hi.bound with }
  numbered :=
    { commands := by
        intro call hcall
        obtain ⟨window, hwindow, hfollowed⟩ := hi.numbered.commands call hcall
        exact ⟨window, getElem?_append_of_eq_some hwindow, hfollowed⟩
      loads := by
        intro load hload
        obtain ⟨window, hwindow, hfollowed⟩ := hi.numbered.loads load hload
        exact ⟨window, getElem?_append_of_eq_some hwindow, hfollowed⟩
      shown := by
        intro i window hwindow projection n hn
        by_cases hold : i < s.windows.length
        · rw [List.getElem?_append_left hold] at hwindow
          exact hi.numbered.shown i window hwindow projection n hn
        · rw [List.getElem?_append_right (by omega)] at hwindow
          cases List.mem_singleton.mp (List.mem_of_getElem? hwindow)
          cases hn }

theorem Inv.see {i : Nat} {window : Window} {response : HttpResponse}
    {sessionGeneration csrfRevision : Nat} (hi : Inv s) :
    Inv (s.see i window response sessionGeneration csrfRevision) := by
  unfold System.see
  split
  · exact hi.clearSession
  · exact hi

/-- The call was begun in the present session of its window, by the Principal of the token. -/
theorem Inv.issued_of_followed {call : CommandCall} {window : Window} {csrfToken : String}
    (hi : Inv s) (hwindow : s.windows[call.window]? = some window)
    (htoken : window.csrfToken = some csrfToken)
    (hprincipal : window.principalId = call.principalId) :
    ∃ principalId, call.principalId = some principalId ∧
      Issued s.created csrfToken principalId := by
  have hsound := hi.windowSound hwindow
  have hsome : window.principalId.isSome := by rw [← hsound.paired, htoken]; rfl
  obtain ⟨principalId, hprincipalId⟩ := Option.isSome_iff_exists.mp hsome
  exact ⟨principalId, hprincipal ▸ hprincipalId, hsound.held _ _ htoken hprincipalId⟩

theorem Inv.startCommand {i : Nat} {window : Window} {command : KernelCommand} (hi : Inv s)
    (hwindow : s.windows[i]? = some window) : Inv (s.startCommand site i window command) := by
  unfold System.startCommand
  simp only
  split
  · rename_i csrfToken htoken
    have hsound := hi.windowSound hwindow
    have hsome : window.principalId.isSome := by rw [← hsound.paired, htoken]; rfl
    obtain ⟨principalId, hprincipalId⟩ := Option.isSome_iff_exists.mp hsome
    have hissued : Issued s.created csrfToken principalId := hsound.held _ _ htoken hprincipalId
    refine Inv.sendCommand (hi.addCommand ⟨window, hwindow, .inr ⟨rfl, hsome, rfl⟩⟩)
      List.getElem?_concat_length hprincipalId hissued
  · have hcleared : Inv (s.clearSession i .expired true) := hi.clearSession
    refine hcleared.addCommand ⟨window.clearSession .expired, ?_, .inl (Nat.lt_succ_self _)⟩
    simp [System.clearSession, System.change, System.post, CommandCall.begin, hwindow]

theorem Inv.endAttempt {n : Nat} {call : CommandCall} {window : Window} {attempt : Attempt}
    {outcome : Outcome} (hi : Inv s) (hcall : s.commands[n]? = some call)
    (hwindow : s.windows[call.window]? = some window) :
    Inv (s.endAttempt site n call window attempt outcome) := by
  unfold System.endAttempt
  split
  · split
    · rename_i htoken hreauthenticates
      unfold CommandCall.reauthenticates at hreauthenticates
      simp only [Bool.and_eq_true, decide_eq_true_eq] at hreauthenticates
      obtain ⟨principalId, hprincipal, hissued⟩ :=
        hi.issued_of_followed hwindow htoken hreauthenticates.2
      exact hi.sendCommand hcall hprincipal hissued
    · exact hi.setPhase
  · exact hi.setPhase
  · apply Inv.setPhase
    split
    · exact hi.clearSession
    · exact hi

theorem Inv.afterRotation {n : Nat} {call : CommandCall} {window : Window} {outcome : Outcome}
    {rotated : Bool} (hi : Inv s) (hcall : s.commands[n]? = some call)
    (hwindow : s.windows[call.window]? = some window) :
    Inv (s.afterRotation site n call window outcome rotated) := by
  unfold System.afterRotation
  split
  · rename_i csrfToken hretries htoken
    unfold CommandCall.retries at hretries
    simp only [Bool.and_eq_true, decide_eq_true_eq] at hretries
    have hprincipal : window.principalId = call.principalId := by
      obtain ⟨window', hwindow', hfollowed⟩ :=
        hi.numbered.commands call (List.mem_of_getElem? hcall)
      obtain rfl : window' = window := Option.some.inj (hwindow'.symm.trans hwindow)
      cases hfollowed with
      | inl hless => omega
      | inr hsame => exact hsame.2.2
    obtain ⟨principalId, hprincipalId, hissued⟩ :=
      hi.issued_of_followed hwindow htoken hprincipal
    exact hi.sendCommand hcall hprincipalId hissued
  · apply Inv.setPhase
    split
    · exact hi.clearSession
    · exact hi

theorem change_at {i : Nat} {window : Window} {f : Window → Window}
    (hwindow : s.windows[i]? = some window) : (s.change i f).windows[i]? = some (f window) := by
  simp [System.change, hwindow]

/-- A window takes up a token and a new session, which it begins by loading. -/
theorem Inv.bootstrap {i : Nat} {window : Window} (hi : Inv s)
    (hwindow : s.windows[i]? = some window) (hsession : window.principalId.isSome) :
    Inv (s.bootstrap i window) := by
  have hbegun : Inv (s.change i Window.beginBootstrap) := by
    apply hi.change
    intro window' hwindow'
    exact .of_window (hi.windowSound hwindow').beginBootstrap Window.moves_beginBootstrap
      (.inr rfl)
  exact hbegun.startLoad (change_at hwindow) hsession

theorem Inv.attach {r : Nat} (hi : Inv s) (hrequest : s.requests[r]? = some request) :
    Inv { s with
      requests := s.requests.set r
        { request with headers := { request.headers with cookie := s.cookie }, sent := true } } := by
  have hfound : ∀ (n : Nat) (authenticated : AuthenticatedRequest),
      (∃ old, s.requests[n]? = some old ∧ s.Admits old authenticated) →
        ∃ new, (s.requests.set r
          { request with
            headers := { request.headers with cookie := s.cookie }
            sent := true })[n]? = some new ∧ s.Admits new authenticated := by
    intro n authenticated hold
    obtain ⟨old, hat, hadmits⟩ := hold
    by_cases hn : r = n
    · subst hn
      obtain rfl : old = request := Option.some.inj (hat.symm.trans hrequest)
      refine ⟨_, List.getElem?_set_self (List.getElem?_eq_some_iff.mp hat).1, ?_⟩
      unfold Admits at hadmits ⊢
      exact hadmits
    · exact ⟨old, by rw [List.getElem?_set_ne hn, hat], hadmits⟩
  exact
    { credentials := { hi.credentials with }
      bound :=
        { hi.bound with
          requests := by
            intro request' hmem
            cases List.mem_or_eq_of_mem_set hmem with
            | inl hold => exact hi.bound.requests request' hold
            | inr hnew =>
                subst hnew
                exact hi.bound.requests request (List.mem_of_getElem? hrequest)
          jobs := fun job hjob => hfound job.request _ (hi.bound.jobs job hjob)
          executions := fun x hx => hfound x.request _ (hi.bound.executions x hx) }
      numbered := { hi.numbered with } }

theorem Allows.resume {i : Nat} {window : Window} (hsound : window.Sound s.created) :
    s.Allows i window window.resume := by
  unfold Window.resume
  split
  · rename_i csrfToken principalId hcsrf hprincipal
    have hissued := hsound.stored csrfToken principalId hcsrf hprincipal
    exact .of_window (Window.sound_setCsrfToken hissued).beginBootstrap
      (.inl (Nat.lt_succ_self _)) (.inr rfl)
  · exact .of_window ⟨hsound.paired, hsound.held, (fun _ _ h => nomatch h)⟩ (.refl _)
      (.inl ⟨rfl, rfl⟩)

theorem Allows.receive {i : Nat} {window : Window} {message : WindowMessage}
    (hmessage : ∀ csrfToken principalId, message = .session csrfToken principalId →
      Issued s.created csrfToken principalId) : s.Allows i window (window.receive message) := by
  refine .of_window (Window.sound_receive hmessage) (Window.moves_receive message) ?_
  cases message with
  | session csrfToken principalId =>
      simp only [Window.receive]
      split
      · exact .inr rfl
      · exact .inl ⟨rfl, rfl⟩
  | sessionCleared session => exact .inr rfl

/-- Nothing comes between the token and the new session. -/
theorem begin_after_setCsrfToken {i : Nat} {csrfToken principalId : String}
    {message : WindowMessage} :
    ((s.change i (Window.setCsrfToken csrfToken principalId)).post i message).change i
        Window.beginBootstrap =
      (s.change i (Window.beginBootstrap ∘ Window.setCsrfToken csrfToken principalId)).post i
        message := by
  simp [System.change, System.post, List.modify_modify_eq]

theorem readApiResponse_body {response : HttpResponse} {readable : Bool} {body : ResponseBody}
    (h : readApiResponse response readable = .body body) : response.body = body := by
  unfold readApiResponse at h
  split at h
  · split at h
    · cases h
      rfl
    · cases h
  · split at h <;> cases h

theorem Inv.step (hi : Inv s) (hstep : Step site s s') : Inv s' := by
  cases hstep with
  | call call => exact ⟨{ hi.credentials with }, { hi.bound with }, { hi.numbered with }⟩
  | openEmpty => exact hi.openWindow fun _ _ h => nomatch h
  | openCopy i window hwindow => exact hi.openWindow (hi.windowSound hwindow).stored
  | resume i window hwindow hstored =>
      have hresumed : Inv (s.change i Window.resume) :=
        hi.change fun window' hwindow' => .resume (hi.windowSound hwindow')
      apply hresumed.startLoad (change_at hwindow)
      obtain ⟨csrfToken, hcsrf⟩ := Option.isSome_iff_exists.mp hstored.1
      obtain ⟨principalId, hprincipal⟩ := Option.isSome_iff_exists.mp hstored.2
      simp [Window.resume, hcsrf, hprincipal, Window.setCsrfToken, Window.beginBootstrap]
  | resumeNothing i window hwindow hstored =>
      exact hi.change fun window' hwindow' => .resume (hi.windowSound hwindow')
  | exchange i window hwindow token =>
      apply Inv.send
      · apply hi.change
        intro window' hwindow'
        have hsound := hi.windowSound hwindow'
        exact .of_window ⟨hsound.paired, hsound.held, hsound.stored⟩ (.refl _) (.inl ⟨rfl, rfl⟩)
      · exact fun _ h => nomatch h
  | exchanged i r request hrequest hsender window hwindow response hresponse principalId
      csrfToken hbody =>
      have hissued : Issued s.created csrfToken principalId :=
        hi.credentials.responses r response hresponse principalId csrfToken
          (readApiResponse_body hbody)
      have hbegun : Inv (s.change i (Window.beginBootstrap ∘
          Window.setCsrfToken csrfToken principalId)) := by
        apply hi.change
        intro window' hwindow'
        exact .of_window (Window.sound_setCsrfToken hissued).beginBootstrap
          (.inl (Nat.lt_succ_self _)) (.inr rfl)
      have hposted : Inv ((s.change i (Window.beginBootstrap ∘
          Window.setCsrfToken csrfToken principalId)).post i (.session csrfToken principalId)) := by
        apply hbegun.post
        intro token principal hsame
        cases hsame
        exact hissued
      unfold System.bootstrap
      rw [begin_after_setCsrfToken]
      exact hposted.startLoad (change_at hwindow) rfl
  | exchangeFails i r request hrequest hsender => exact hi.clearSession
  | signOut i window hwindow => exact hi.send fun _ h => nomatch h
  | signedOut i r request hrequest hsender => exact hi.clearSession
  | receive i j message hmessage hother =>
      apply hi.change
      intro window hwindow
      apply Allows.receive
      intro csrfToken principalId hsession
      exact hi.credentials.messages j csrfToken principalId (hsession ▸ hmessage)
  | attach r request hrequest hunsent => exact hi.attach hrequest
  | storeCookie r response hresponse cookie hcookie =>
      exact ⟨{ hi.credentials with }, { hi.bound with }, { hi.numbered with }⟩
  | loseCookie => exact ⟨{ hi.credentials with }, { hi.bound with }, { hi.numbered with }⟩
  | otherClient endpoint headers => exact hi.send fun _ h => nomatch h
  | proxyFails r status code message => exact hi.respond fun _ _ h => nomatch h
  | arriveExchange r request hrequest hsent hendpoint now sessionId csrfToken hfresh =>
      exact hi.arriveExchange hfresh
  | arriveSignOut r request hrequest hsent hendpoint => exact hi.arriveSignOut
  | arrive r request hrequest hsent hendpoint now => exact hi.arrive hrequest
  | perform j job hjob request hrequest type body hendpoint now correlationId logged =>
      exact hi.perform (List.mem_of_getElem? hjob)
  | startCommand i window hwindow command => exact hi.startCommand hwindow
  | commandResponse n call hcall attempt r hphase window hwindow response hresponse =>
      exact hi.see.setPhase
  | commandRead n call hcall attempt response hphase window hwindow readable =>
      exact hi.endAttempt hcall hwindow
  | commandFails n call hcall attempt r hphase => exact hi.setPhase
  | rotationEnds n call hcall outcome hphase window hwindow => exact hi.setPhase
  | rotationRead n call hcall outcome rotated hphase window hwindow =>
      exact hi.afterRotation hcall hwindow
  | startLoad i window hwindow hsession kind hkind => exact hi.startLoad hwindow hsession
  | rebootstrap i window hwindow hsession => exact hi.bootstrap hwindow hsession
  | loadRequest n load hload csrfRevision => exact hi.send fun _ h => nomatch h
  | loadResponse n load hload r request hrequest csrfRevision hsender window hwindow response
      hresponse => exact hi.see
  | endLoad n load hload hsettled window hwindow current => exact hi.endLoad hload hwindow
  | leave i projection =>
      apply hi.change
      intro window hwindow
      have hsound := hi.windowSound hwindow
      refine ⟨⟨hsound.paired, hsound.held, hsound.stored⟩, .refl _, ?_⟩
      intro p n hn
      left
      simp only at hn
      split at hn
      · cases hn
      · exact ⟨hn, rfl⟩

theorem Reachable.inv (h : Reachable site s) : Inv s := by
  induction h with
  | opened hopened =>
      exact
        { credentials :=
            { live := fun _ _ h => nomatch h
              tokens := fun _ h => nomatch h
              windows := fun _ h => nomatch h
              messages := fun _ _ _ h => nomatch h
              responses := fun _ _ h => nomatch h }
          bound := ⟨(fun _ h => nomatch h), (fun _ h => nomatch h), (fun _ h => nomatch h),
            (fun _ h => nomatch h)⟩
          numbered :=
            ⟨(fun _ h => nomatch h), (fun _ h => nomatch h), (fun _ _ h => nomatch h)⟩ }
  | step _ hstep ih => exact ih.step hstep

/-! ## Runs -/

/-- Windows go on in their sessions or into later ones, and loads stay what they are. -/
structure Later (s s' : System) : Prop where
  windows : ∀ (i : Nat) (window : Window), s.windows[i]? = some window →
    ∃ window', s'.windows[i]? = some window' ∧ window.Moves window'
  loads : ∀ (n : Nat) (load : Load), s.loads[n]? = some load →
    ∃ settled, s'.loads[n]? = some { load with settled := settled }

theorem Later.of_same (hwindows : s'.windows = s.windows) (hloads : s'.loads = s.loads) :
    Later s s' where
  windows _ window hwindow := ⟨window, hwindows ▸ hwindow, .refl _⟩
  loads _ load hload := ⟨load.settled, hloads ▸ hload⟩

theorem Later.refl (s : System) : Later s s := .of_same rfl rfl

theorem Later.trans {s'' : System} (h : Later s s') (h' : Later s' s'') : Later s s'' where
  windows i window hwindow := by
    obtain ⟨window', hwindow', hmoves⟩ := h.windows i window hwindow
    obtain ⟨window'', hwindow'', hmoves'⟩ := h'.windows i window' hwindow'
    exact ⟨window'', hwindow'', hmoves.trans hmoves'⟩
  loads n load hload := by
    obtain ⟨settled, hload'⟩ := h.loads n load hload
    obtain ⟨settled', hload''⟩ := h'.loads n _ hload'
    exact ⟨settled', hload''⟩

theorem Later.change {i : Nat} {f : Window → Window}
    (hf : ∀ window, s.windows[i]? = some window → window.Moves (f window)) :
    Later s (s.change i f) where
  windows j window hwindow := by
    simp only [System.change, List.getElem?_modify, hwindow]
    by_cases hij : i = j
    · subst hij
      exact ⟨f window, by simp, hf window hwindow⟩
    · exact ⟨window, by simp [hij], .refl _⟩
  loads n load hload := ⟨load.settled, hload⟩

theorem Later.clearSession {i : Nat} {session : SessionState} {broadcast : Bool} :
    Later s (s.clearSession i session broadcast) := by
  have hposted : Later s (if broadcast then s.post i (.sessionCleared session) else s) := by
    split
    · exact .of_same rfl rfl
    · exact .refl _
  exact hposted.trans (.change fun _ _ => Window.moves_clearSession _)

theorem Later.see {i : Nat} {window : Window} {response : HttpResponse}
    {sessionGeneration csrfRevision : Nat} :
    Later s (s.see i window response sessionGeneration csrfRevision) := by
  unfold System.see
  split
  · exact .clearSession
  · exact .refl _

theorem Later.startLoad {i : Nat} {window : Window} {kind : LoadKind} :
    Later s (s.startLoad i window kind) where
  windows _ window' hwindow' := ⟨window', hwindow', .refl _⟩
  loads _ load hload := ⟨load.settled, getElem?_append_of_eq_some hload⟩

theorem Later.openWindow {window : Window} :
    Later s { s with windows := s.windows ++ [window] } where
  windows _ window' hwindow' := ⟨window', getElem?_append_of_eq_some hwindow', .refl _⟩
  loads _ load hload := ⟨load.settled, hload⟩

theorem Later.endLoad {n : Nat} {load : Load} {window : Window} {current : Bool} :
    Later s (s.endLoad n load window current) := by
  have hsettled : Later s
      { s with loads := s.loads.modify n fun load => { load with settled := true } } :=
    { windows := fun j window' hwindow' => ⟨window', hwindow', .refl _⟩
      loads := by
        intro m load' hload'
        simp only [List.getElem?_modify, hload']
        by_cases hnm : n = m
        · exact ⟨true, by simp [hnm]⟩
        · exact ⟨load'.settled, by simp [hnm]⟩ }
  unfold System.endLoad
  split
  · exact hsettled.trans (.change fun _ _ => .inr ⟨rfl, fun _ => rfl⟩)
  · exact hsettled

theorem Later.perform {job : Job} {body : RequestBody} {now : Int} {correlationId : String}
    {logged : Bool} : Later s (s.perform site job body now correlationId logged) := by
  unfold System.perform
  split
  · exact .of_same rfl rfl
  · split
    · exact .of_same rfl rfl
    · exact .of_same rfl rfl

theorem Step.later (hstep : Step site s s') : Later s s' := by
  cases hstep with
  | openEmpty => exact .openWindow
  | openCopy i window hwindow => exact .openWindow
  | resume i window hwindow hstored =>
      exact (Later.change fun _ _ => Window.moves_resume).trans .startLoad
  | resumeNothing i window hwindow hstored => exact .change fun _ _ => Window.moves_resume
  | exchange i window hwindow token =>
      have hchanged : Later s
          (s.change i fun window => { window with session := .exchanging }) :=
        .change fun _ _ => .inr ⟨rfl, fun _ => rfl⟩
      exact hchanged.trans (.of_same rfl rfl)
  | exchanged i r request hrequest hsender window hwindow response hresponse principalId
      csrfToken hbody =>
      unfold System.bootstrap
      rw [begin_after_setCsrfToken]
      have hbegun : Later s (s.change i (Window.beginBootstrap ∘
          Window.setCsrfToken csrfToken principalId)) :=
        .change fun _ _ => .inl (Nat.lt_succ_self _)
      have hposted : Later s ((s.change i (Window.beginBootstrap ∘
          Window.setCsrfToken csrfToken principalId)).post i (.session csrfToken principalId)) :=
        hbegun.trans (.of_same rfl rfl)
      exact hposted.trans .startLoad
  | exchangeFails i r request hrequest hsender => exact .clearSession
  | signedOut i r request hrequest hsender => exact .clearSession
  | receive i j message hmessage hother => exact .change fun _ _ => Window.moves_receive message
  | startCommand i window hwindow command =>
      unfold System.startCommand
      simp only
      split
      · exact .of_same rfl rfl
      · have hcleared : Later s (s.clearSession i .expired true) := .clearSession
        exact hcleared.trans (.of_same rfl rfl)
  | commandResponse n call hcall attempt r hphase window hwindow response hresponse =>
      exact Later.see.trans (.of_same rfl rfl)
  | commandRead n call hcall attempt response hphase window hwindow readable =>
      unfold System.endAttempt
      split
      · split
        · exact .of_same rfl rfl
        · exact .of_same rfl rfl
      · exact .of_same rfl rfl
      · split
        · exact Later.clearSession.trans (.of_same rfl rfl)
        · exact .of_same rfl rfl
  | rotationRead n call hcall outcome rotated hphase window hwindow =>
      unfold System.afterRotation
      split
      · exact .of_same rfl rfl
      · split
        · exact Later.clearSession.trans (.of_same rfl rfl)
        · exact .of_same rfl rfl
  | startLoad i window hwindow hsession kind hkind => exact .startLoad
  | rebootstrap i window hwindow hsession =>
      exact (Later.change fun _ _ => Window.moves_beginBootstrap).trans .startLoad
  | loadResponse n load hload r request hrequest csrfRevision hsender window hwindow response
      hresponse => exact .see
  | endLoad n load hload hsettled window hwindow current => exact .endLoad
  | leave i projection => exact .change fun _ _ => .inr ⟨rfl, fun _ => rfl⟩
  | perform j job hjob request hrequest type body hendpoint now correlationId logged =>
      exact .perform
  | arriveExchange r request hrequest hsent hendpoint now sessionId csrfToken hfresh =>
      unfold System.arriveExchange
      split
      · exact .of_same rfl rfl
      · exact .of_same rfl rfl
  | arrive r request hrequest hsent hendpoint now =>
      unfold System.arrive
      simp only
      split
      · exact .of_same rfl rfl
      · split
        · split
          · exact .of_same rfl rfl
          · exact .of_same rfl rfl
        · exact .of_same rfl rfl
  | _ => exact .of_same rfl rfl

theorem Steps.later (h : Steps site s s') : Later s s' := by
  induction h with
  | refl => exact .refl _
  | tail _ hstep ih => exact ih.trans hstep.later

theorem Steps.reachable (h : Steps site s s') (hreached : Reachable site s) :
    Reachable site s' := by
  induction h with
  | refl => exact hreached
  | tail _ hstep ih => exact ih.step hstep

/-- The session of window `i` is another one in `s'`, or another Principal's. -/
def SessionChanged (i : Nat) (s s' : System) : Prop :=
  ∃ window window', s.windows[i]? = some window ∧ s'.windows[i]? = some window' ∧
    (window.sessionGeneration ≠ window'.sessionGeneration ∨
      window.principalId ≠ window'.principalId)

/-- What a load has read is not shown after the session it began in. -/
theorem Inv.not_shown {n : Nat} {load : Load} (hi : Inv s) (hi' : Inv s') (hlater : Later s s')
    (hload : s.loads[n]? = some load) (hchanged : SessionChanged load.window s s')
    {window : Window} (hwindow : s'.windows[load.window]? = some window)
    (projection : Projection) : n ∉ window.projections projection := by
  intro hshown
  obtain ⟨before, after, hbefore, hafter, hdiffer⟩ := hchanged
  obtain rfl : after = window := Option.some.inj (hafter.symm.trans hwindow)
  obtain ⟨settled, hload'⟩ := hlater.loads n load hload
  obtain ⟨shown, hshownLoad, -, hgeneration⟩ :=
    hi'.numbered.shown load.window after hwindow projection n hshown
  have hsame : shown = { load with settled := settled } :=
    Option.some.inj (hshownLoad.symm.trans hload')
  have hnow : load.sessionGeneration = after.sessionGeneration := by rw [← hgeneration, hsame]
  obtain ⟨before', hbefore', hfollowed⟩ :=
    hi.numbered.loads load (List.mem_of_getElem? hload)
  obtain rfl : before' = before := Option.some.inj (hbefore'.symm.trans hbefore)
  obtain ⟨after', hafter', hmoves⟩ := hlater.windows load.window before' hbefore
  obtain rfl : after' = after := Option.some.inj (hafter'.symm.trans hafter)
  unfold Window.Moves at hmoves
  cases hfollowed with
  | inl hless => omega
  | inr hthen =>
      obtain ⟨hgen, hsome, hprincipal⟩ := hthen
      cases hmoves with
      | inl hless => omega
      | inr hkeeps =>
          have hkept := hkeeps.2 (by rw [hprincipal]; exact hsome)
          cases hdiffer with
          | inl hother => exact hother hkeeps.1
          | inr hother => exact hother hkept.symm

end System

/-! ## Isolation -/

/-- The session that authenticated the request, as it was then, lives. -/
def SessionBinding.Lives (binding : SessionBinding) (context : PrincipalContext)
    (sessions : Sessions) (now : Int) : Prop :=
  sessions binding.sessionId =
      some ⟨context, binding.sessionExpiresAt, binding.sessionCsrfToken⟩ ∧
    now < binding.sessionExpiresAt

/-- Whatever happens in the windows, on the network and at the server. -/
structure SessionsIsolated (site : Site) : Prop where
  /-- A command runs under the Principal its window had when it accepted the command. -/
  bound : ∀ s, System.Reachable site s → ∀ x ∈ s.executions, ∀ request n (call : CommandCall),
    s.requests[x.request]? = some request → request.sender = .command n →
      s.commands[n]? = some call → call.principalId = some x.authenticated.context.principalId
  /-- A command that a session authenticated is executed while that very session lives. -/
  live : ∀ s, System.Reachable site s → ∀ x ∈ s.executions, ∀ binding,
    x.authenticated.session = some binding →
      SessionBinding.Lives binding x.authenticated.context x.sessions x.now
  /-- After a change of its session a window shows nothing that was asked for before. -/
  isolated : ∀ s s' n (load : Load), System.Reachable site s → System.Steps site s s' →
    s.loads[n]? = some load → System.SessionChanged load.window s s' →
      ∀ window : Window, s'.windows[load.window]? = some window →
        ∀ projection, n ∉ window.projections projection

end Torsor.Web
