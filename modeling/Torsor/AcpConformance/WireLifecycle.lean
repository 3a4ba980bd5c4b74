import Torsor.AcpConformance.WireObservation

/-! # Observed traces obey the lifecycle -/

namespace Torsor.AcpConformance
open Torsor.Library WireState

variable {c : WireConfig} {s s' : WireState} {f : Frame} {history before : List Frame}

/-! ## The observer's maps and the history -/

/-- What a pending entry keeps of its request. -/
structure Notes (entry : PendingRequest) (request : Frame) (since : List Frame) : Prop where
  method : request.method = some entry.method
  sessionId : entry.sessionId = request.param "sessionId"
  toolCallId : entry.toolCallId = member (request.param "toolCall") "toolCallId"
  cancelled : entry.cancelled = true ↔
    ∃ sessionId, request.Prompts sessionId ∧ ∃ g ∈ since, g.Cancels sessionId

/-- The pending requests are the outstanding ones. -/
structure TracksPending (history : List Frame) (s : WireState) : Prop where
  sound : ∀ key entry, s.pending.get key = some entry → ∃ owner id request since earlier,
    key = pendingKey owner id ∧ Outstanding history owner id request since earlier ∧
      Notes entry request since
  complete : ∀ owner id request since earlier, Outstanding history owner id request since earlier →
    s.pending.get (pendingKey owner id) ≠ none
  unique : ∀ owner id request request' since since' earlier earlier',
    Outstanding history owner id request since earlier →
    Outstanding history owner id request' since' earlier' → since = since'

structure Tracks (history : List Frame) (s : WireState) : Prop where
  pending : TracksPending history s
  onePrompt : OnePrompt history
  initialized : s.initialized = true → Happened Initializes history
  sessions : ∀ sessionId, s.sessions.get sessionId ≠ none ↔ SessionExists history sessionId
  tools : ∀ sessionId tools, s.sessions.get sessionId = some tools →
    ∀ toolId, toolId ∈ tools ↔ Announced history sessionId toolId
  announcedKnown : ∀ sessionId toolId, Announced history sessionId toolId →
    s.sessions.get sessionId ≠ none
  newAfterInitialize : Obeys (fun f before => f.Sends .client "session/new" →
    Happened Initializes before) history

theorem Outstanding.eq_of_since {owner : Direction} {id : RpcId} {request request' : Frame}
    {since earlier earlier' : List Frame}
    (h : Outstanding history owner id request since earlier)
    (h' : Outstanding history owner id request' since earlier') :
    request = request' ∧ earlier = earlier' := by
  have hsplit := h.split.symm.trans h'.split
  rw [List.append_cancel_left_eq, List.cons.injEq] at hsplit
  exact hsplit

theorem TracksPending.entry (hi : TracksPending history s) {owner : Direction} {id : RpcId}
    {request : Frame} {since earlier : List Frame}
    (h : Outstanding history owner id request since earlier) :
    ∃ entry, s.pending.get (pendingKey owner id) = some entry ∧ Notes entry request since := by
  obtain ⟨entry, hentry⟩ := Option.ne_none_iff_exists'.mp (hi.complete _ _ _ _ _ h)
  obtain ⟨owner', id', request', since', earlier', hkey, hout, hnotes⟩ := hi.sound _ _ hentry
  obtain ⟨rfl, rfl⟩ := pendingKey_inj hkey
  obtain rfl := hi.unique _ _ _ _ _ _ _ _ h hout
  obtain ⟨rfl, rfl⟩ := h.eq_of_since hout
  exact ⟨entry, hentry, hnotes⟩

theorem Notes.session {entry : PendingRequest} {request : Frame} {since : List Frame}
    (h : Notes entry request since) : text entry.sessionId = request.session := by
  rw [h.sessionId]
  rfl

theorem TracksPending.activePrompt_iff (hi : TracksPending history s) {sessionId : String} :
    s.activePrompt sessionId = true ↔ PromptOutstanding history sessionId := by
  rw [activePrompt, List.any_eq_true]
  constructor
  · rintro ⟨⟨key, entry⟩, hmem, hprompt⟩
    simp only [isPrompt, Bool.decide_and, Bool.and_eq_true, decide_eq_true_eq] at hprompt
    obtain ⟨hclient, hmethod, hsession⟩ := hprompt
    obtain ⟨owner, id, request, since, earlier, rfl, hout, hnotes⟩ :=
      hi.sound _ _ (EntryMap.mem_entries.mp hmem)
    obtain rfl := pendingKey_startsWith.mp hclient
    refine ⟨id, request, since, earlier, hout, ⟨hout.direction, ?_⟩, ?_⟩
    · rw [hnotes.method, hmethod]
    · rw [← hnotes.session, hsession]
  · rintro ⟨id, request, since, earlier, hout, hprompts⟩
    obtain ⟨entry, hentry, hnotes⟩ := hi.entry hout
    refine ⟨(_, entry), EntryMap.mem_entries.mpr hentry, ?_⟩
    simp only [isPrompt, Bool.decide_and, Bool.and_eq_true, decide_eq_true_eq]
    refine ⟨pendingKey_startsWith.mpr rfl, ?_, ?_⟩
    · exact Option.some.inj (hnotes.method.symm.trans hprompts.1.2)
    · rw [hnotes.session, hprompts.2]

/-! ## Steps -/

theorem TracksPending.events (hi : TracksPending history s) {n : Nat} :
    TracksPending history { s with events := n } := ⟨hi.sound, hi.complete, hi.unique⟩

theorem Frame.Cancels.notResponse {sessionId : String} (h : f.Cancels sessionId) :
    ¬ f.IsResponse := by
  intro hresponse
  have hmethod := h.1.2
  rw [Frame.method, hresponse] at hmethod
  cases hmethod

theorem Notes.response {entry : PendingRequest} {request : Frame} {since : List Frame}
    (h : Notes entry request since) (hresponse : f.IsResponse) :
    Notes entry request (f :: since) := by
  refine { h with cancelled := h.cancelled.trans ?_ }
  constructor
  · rintro ⟨sessionId, hprompts, g, hg, hcancels⟩
    exact ⟨sessionId, hprompts, g, .tail _ hg, hcancels⟩
  · rintro ⟨sessionId, hprompts, g, hg, hcancels⟩
    cases hg with
    | head => exact absurd hresponse hcancels.notResponse
    | tail _ hg => exact ⟨sessionId, hprompts, g, hg, hcancels⟩

/-- A response takes the one entry it answers. -/
theorem TracksPending.response (hi : TracksPending before s) {id : RpcId}
    (hresponse : f.IsResponse) (hid : f.id = some id)
    (hpending : s'.pending = s.pending.delete (pendingKey f.direction.other id)) :
    TracksPending (f :: before) s' := by
  have hanswers : ∀ owner id', f.Answers owner id' →
      pendingKey owner id' = pendingKey f.direction.other id := by
    intro owner id' hanswer
    have howner : owner = f.direction.other := by
      apply Direction.other_inj
      rw [← hanswer.1]
      cases f.direction <;> rfl
    rw [howner, Option.some.inj (hid.symm.trans hanswer.2.2)]
  have hnotAsks : ∀ owner id', ¬ f.Asks owner id' := fun _ _ hasks => hasks.2.1 hresponse
  constructor
  · intro key entry hentry
    rw [hpending] at hentry
    by_cases hkey : key = pendingKey f.direction.other id
    · rw [hkey, EntryMap.get_delete_self] at hentry
      cases hentry
    · rw [EntryMap.get_delete_of_ne hkey] at hentry
      obtain ⟨owner, id', request, since, earlier, rfl, hout, hnotes⟩ := hi.sound _ _ hentry
      exact ⟨owner, id', request, f :: since, earlier, rfl,
        hout.kept fun hanswer => hkey (hanswers _ _ hanswer), hnotes.response hresponse⟩
  · intro owner id' request since earlier hout
    obtain ⟨_, _, _, hasks⟩ | ⟨since', rfl, hnot, hout⟩ := hout.cases
    · exact absurd hasks (hnotAsks _ _)
    · rw [hpending, EntryMap.get_delete_of_ne]
      · exact hi.complete _ _ _ _ _ hout
      · intro hkey
        obtain ⟨rfl, rfl⟩ := pendingKey_inj hkey
        apply hnot
        refine ⟨?_, hresponse, hid⟩
        cases f.direction <;> rfl
  · intro owner id' request request' since since' earlier earlier' hout hout'
    obtain ⟨_, _, _, hasks⟩ | ⟨rest, rfl, _, hout⟩ := hout.cases
    · exact absurd hasks (hnotAsks _ _)
    · obtain ⟨_, _, _, hasks⟩ | ⟨rest', rfl, _, hout'⟩ := hout'.cases
      · exact absurd hasks (hnotAsks _ _)
      · rw [hi.unique _ _ _ _ _ _ _ _ hout hout']

theorem Notes.call {entry : PendingRequest} {request : Frame} {since : List Frame}
    {owner : Direction} {id : RpcId} (h : Notes entry request since)
    (howner : request.direction = owner) :
    Notes (cancelledBy f (pendingKey owner id) entry) request (f :: since) := by
  have hmark : (f.direction = .client ∧ f.method = some "session/cancel" ∧
      f.session.any (fun sessionId => isPrompt sessionId (pendingKey owner id, entry)) = true) ↔
      ∃ sessionId, request.Prompts sessionId ∧ f.Cancels sessionId := by
    rw [Option.any_eq_true]
    constructor
    · rintro ⟨hclient, hmethod, sessionId, hsession, hprompt⟩
      simp only [isPrompt, Bool.decide_and, Bool.and_eq_true, decide_eq_true_eq] at hprompt
      obtain ⟨hkey, hentry, hentrySession⟩ := hprompt
      refine ⟨sessionId, ⟨⟨howner.trans (pendingKey_startsWith.mp hkey), ?_⟩, ?_⟩,
        ⟨hclient, hmethod⟩, hsession⟩
      · rw [h.method, hentry]
      · rw [← h.session, hentrySession]
    · rintro ⟨sessionId, hprompts, hcancels⟩
      refine ⟨hcancels.1.1, hcancels.1.2, sessionId, hcancels.2, ?_⟩
      simp only [isPrompt, Bool.decide_and, Bool.and_eq_true, decide_eq_true_eq]
      refine ⟨pendingKey_startsWith.mpr (howner.symm.trans hprompts.1.1), ?_, ?_⟩
      · exact Option.some.inj (h.method.symm.trans hprompts.1.2)
      · rw [h.session, hprompts.2]
  rw [cancelledBy]
  split
  · rename_i hyes
    obtain ⟨sessionId, hprompts, hcancels⟩ := hmark.mp hyes
    exact ⟨h.method, h.sessionId, h.toolCallId,
      fun _ => ⟨sessionId, hprompts, f, .head _, hcancels⟩, fun _ => rfl⟩
  · rename_i hno
    refine { h with cancelled := h.cancelled.trans ⟨?_, ?_⟩ }
    · rintro ⟨sessionId, hprompts, g, hg, hcancels⟩
      exact ⟨sessionId, hprompts, g, .tail _ hg, hcancels⟩
    · rintro ⟨sessionId, hprompts, g, hg, hcancels⟩
      cases hg with
      | head => exact absurd (hmark.mpr ⟨sessionId, hprompts, hcancels⟩) hno
      | tail _ hg => exact ⟨sessionId, hprompts, g, hg, hcancels⟩

/-- A request is added under its key; a notification adds nothing. -/
theorem TracksPending.call (hi : TracksPending before s) (hcall : ¬ f.IsResponse)
    (hmethod : f.method ≠ none) (hpending : PendingStep s s' f) :
    TracksPending (f :: before) s' := by
  have hnotAnswers : ∀ owner id, ¬ f.Answers owner id := fun _ _ hanswer => hcall hanswer.2.1
  obtain ⟨method, hmethod⟩ := Option.ne_none_iff_exists'.mp hmethod
  have hnone : ∀ owner id, f.Asks owner id → ∀ request since earlier,
      ¬ Outstanding before owner id request since earlier := by
    rintro owner id ⟨rfl, _, hid⟩ request since earlier hout
    exact hi.complete _ _ _ _ _ hout (hpending.fresh id hid)
  constructor
  · intro key entry hentry
    by_cases hkey : ∃ id, f.id = some id ∧ key = pendingKey f.direction id
    · obtain ⟨id, hid, rfl⟩ := hkey
      rw [hpending.asked id method hid hmethod, Option.some.injEq] at hentry
      subst hentry
      refine ⟨f.direction, id, f, [], before, rfl, .asked_now ⟨rfl, hcall, hid⟩,
        hmethod, rfl, rfl, ?_⟩
      simp
    · have hother : ∀ id, f.id = some id → key ≠ pendingKey f.direction id :=
        fun id hid heq => hkey ⟨id, hid, heq⟩
      rw [hpending.others key hother] at hentry
      obtain ⟨old, hold, rfl⟩ := Option.map_eq_some_iff.mp hentry
      obtain ⟨owner, id, request, since, earlier, rfl, hout, hnotes⟩ := hi.sound _ _ hold
      exact ⟨owner, id, request, f :: since, earlier, rfl, hout.kept (hnotAnswers _ _),
        hnotes.call hout.direction⟩
  · intro owner id request since earlier hout
    obtain ⟨_, _, _, hasks⟩ | ⟨since', rfl, _, hout⟩ := hout.cases
    · obtain ⟨rfl, _, hid⟩ := hasks
      rw [hpending.asked id method hid hmethod]
      exact Option.some_ne_none _
    · have hother : ∀ id', f.id = some id' → pendingKey owner id ≠ pendingKey f.direction id' := by
        intro id' hid hkey
        obtain ⟨rfl, rfl⟩ := pendingKey_inj hkey
        exact hnone _ _ ⟨rfl, hcall, hid⟩ _ _ _ hout
      rw [hpending.others _ hother]
      intro hnone'
      exact hi.complete _ _ _ _ _ hout (Option.map_eq_none_iff.mp hnone')
  · intro owner id request request' since since' earlier earlier' hout hout'
    obtain ⟨_, rfl, _, hasks⟩ | ⟨rest, rfl, _, hout⟩ := hout.cases
    · obtain ⟨_, rfl, _, _⟩ | ⟨rest', rfl, _, hout'⟩ := hout'.cases
      · rfl
      · exact absurd hout' (hnone _ _ hasks _ _ _)
    · obtain ⟨_, rfl, _, hasks⟩ | ⟨rest', rfl, _, hout'⟩ := hout'.cases
      · exact absurd hout (hnone _ _ hasks _ _ _)
      · rw [hi.unique _ _ _ _ _ _ _ _ hout hout']

/-! ## One response -/

theorem Obeys.at {P : Frame → List Frame → Prop} {later earlier : List Frame}
    (h : Obeys P (later ++ f :: earlier)) : P f earlier := by
  induction later with
  | nil => exact h.1
  | cons g later ih => exact ih h.2

theorem Direction.other_other (d : Direction) : d.other.other = d := by
  cases d <;> rfl

theorem OnePrompt.kept (hi : OnePrompt before)
    (hnot : ∀ sessionId, f.Prompts sessionId → ¬ PromptOutstanding before sessionId) :
    OnePrompt (f :: before) := by
  intro sessionId id id' request request' since since' earlier earlier' hout hprompts hout'
    hprompts'
  obtain ⟨rfl, rfl, _, hasks⟩ | ⟨rest, rfl, _, hout⟩ := hout.cases
  · obtain ⟨rfl, rfl, _, hasks'⟩ | ⟨rest', rfl, _, hout'⟩ := hout'.cases
    · exact ⟨Option.some.inj (hasks.2.2.symm.trans hasks'.2.2), rfl, rfl⟩
    · exact absurd ⟨_, _, _, _, hout', hprompts'⟩ (hnot _ hprompts)
  · obtain ⟨rfl, rfl, _, hasks'⟩ | ⟨rest', rfl, _, hout'⟩ := hout'.cases
    · exact absurd ⟨_, _, _, _, hout, hprompts⟩ (hnot _ hprompts')
    · obtain ⟨rfl, rfl, rfl⟩ :=
        hi _ _ _ _ _ _ _ _ _ hout hprompts hout' hprompts'
      exact ⟨rfl, rfl, rfl⟩

section
variable {id : RpcId} {entry : PendingRequest}

/-- The request that a response answers is the one of the entry it took. -/
theorem ResponseStep.answered (hstep : ResponseStep s s' f id entry)
    (hi : TracksPending before s) {request : Frame} {since earlier : List Frame}
    (h : Answered f before request since earlier) :
    request.direction = f.direction.other ∧ Notes entry request since ∧
      Outstanding before f.direction.other id request since earlier := by
  obtain ⟨id', hanswers, hout⟩ := h
  have hdirection : request.direction = f.direction.other := by
    rw [hanswers.1, Direction.other_other]
  rw [hdirection] at hout
  obtain rfl := Option.some.inj (hstep.id_eq.symm.trans hanswers.2.2)
  obtain ⟨entry', hentry, hnotes⟩ := hi.entry hout
  obtain rfl := Option.some.inj (hstep.found.symm.trans hentry)
  exact ⟨hdirection, hnotes, hout⟩

theorem ResponseStep.answers (hstep : ResponseStep s s' f id entry)
    (hi : TracksPending before s) :
    ∃ request since earlier, Answered f before request since earlier := by
  obtain ⟨owner, id', request, since, earlier, hkey, hout, _⟩ := hi.sound _ _ hstep.found
  obtain ⟨rfl, rfl⟩ := pendingKey_inj hkey
  refine ⟨request, since, earlier, id, ?_, hout.direction ▸ hout⟩
  exact ⟨by rw [hout.direction, Direction.other_other], hstep.isResponse, hstep.id_eq⟩

theorem ResponseStep.notSends (hstep : ResponseStep s s' f id entry) (direction : Direction)
    (method : String) : ¬ f.Sends direction method := by
  intro hsends
  have hmethod := hsends.2
  rw [Frame.method, hstep.isResponse] at hmethod
  cases hmethod

/-- An answer that creates a session does so in the observer. -/
theorem ResponseStep.creates (hstep : ResponseStep s s' f id entry)
    (hi : TracksPending before s) {sessionId : String} (h : Creates sessionId f before) :
    s.sessions.get sessionId = none ∧ s'.sessions = s.sessions.set sessionId [] := by
  obtain ⟨hid, request, since, earlier, hanswered, hnew⟩ := h
  obtain ⟨hdirection, hnotes, _⟩ := hstep.answered hi hanswered
  have hprovider : f.direction = .provider := by
    apply Direction.other_inj
    rw [← hdirection]
    exact hnew.1
  have hmethod : entry.method = "session/new" :=
    Option.some.inj (hnotes.method.symm.trans hnew.2)
  have hresult : f.result ≠ none := by
    intro hnone
    rw [hnone] at hid
    cases hid
  obtain ⟨_, hnot⟩ | ⟨sessionId', _, _, hid', hfree, hset⟩ := hstep.resulted.sessions
  · exact absurd ⟨hprovider, hresult, hmethod⟩ hnot
  · obtain rfl := Option.some.inj (hid.symm.trans hid')
    exact ⟨hfree, hset⟩

theorem Tracks.responseLawful (hi : Tracks before s) (hstep : ResponseStep s s' f id entry) :
    Lawful f before where
  answersOne := by
    intro _
    obtain ⟨request, since, earlier, hanswered⟩ := hstep.answers hi.pending
    refine ⟨request, since, earlier, hanswered, ?_⟩
    intro request' since' earlier' hanswered'
    obtain ⟨_, _, hout⟩ := hstep.answered hi.pending hanswered
    obtain ⟨_, _, hout'⟩ := hstep.answered hi.pending hanswered'
    obtain rfl := hi.pending.unique _ _ _ _ _ _ _ _ hout hout'
    obtain ⟨rfl, rfl⟩ := hout.eq_of_since hout'
    exact ⟨rfl, rfl, rfl⟩
  createdAfterInitialize := by
    intro request since earlier hanswered hnew
    obtain ⟨_, _, hout⟩ := hstep.answered hi.pending hanswered
    have hobeys := hi.newAfterInitialize
    rw [hout.split] at hobeys
    exact hobeys.at hnew
  createdOnce := by
    intro sessionId hcreates hexists
    exact (hi.sessions sessionId).mpr hexists (hstep.creates hi.pending hcreates).1
  sessionKnown := by
    rintro (h | h | h | h)
    · exact absurd h (hstep.notSends _ _)
    · exact absurd h (hstep.notSends _ _)
    · exact absurd h (hstep.notSends _ _)
    · exact absurd h (hstep.notSends _ _)
  onePrompt := hi.onePrompt.kept fun _ hprompts => absurd hprompts.1 (hstep.notSends _ _)
  updatesInPrompt := fun h => absurd h (hstep.notSends _ _)
  permissionsInPrompt := fun h => absurd h (hstep.notSends _ _)
  answersInPrompt := by
    intro request since earlier hanswered hasks
    obtain ⟨hdirection, hnotes, _⟩ := hstep.answered hi.pending hanswered
    have hclient : f.direction = .client := by
      apply Direction.other_inj
      rw [← hdirection]
      exact hasks.1
    have hmethod := Option.some.inj (hnotes.method.symm.trans hasks.2)
    obtain ⟨session, _, _, hsession, hactive, _⟩ := (hstep.permitted hclient hmethod).permitted
    exact ⟨session, hnotes.session.symm.trans hsession, hi.pending.activePrompt_iff.mp hactive⟩
  announcedOnce := fun _ _ h => absurd h.1 (hstep.notSends _ _)
  updatesAnnounced := fun h => absurd h (hstep.notSends _ _)
  permissionsAnnounced := fun h => absurd h (hstep.notSends _ _)
  cancelledPrompts := by
    intro request since earlier sessionId hanswered hprompts hcancelled
    obtain ⟨_, hnotes, _⟩ := hstep.answered hi.pending hanswered
    exact hstep.cancelled (hnotes.cancelled.mpr ⟨sessionId, hprompts, hcancelled⟩)

theorem Tracks.response (hi : Tracks before s) (hstep : ResponseStep s s' f id entry) :
    Tracks (f :: before) s' where
  pending := hi.pending.response hstep.isResponse hstep.id_eq hstep.resulted.pending
  onePrompt := hi.onePrompt.kept fun _ hprompts => absurd hprompts.1 (hstep.notSends _ _)
  initialized := by
    intro hyes
    obtain hold | ⟨hprovider, hresult, hmethod⟩ := hstep.resulted.initialized hyes
    · exact .inr (hi.initialized hold)
    · obtain ⟨request, since, earlier, hanswered⟩ := hstep.answers hi.pending
      obtain ⟨hdirection, hnotes, _⟩ := hstep.answered hi.pending hanswered
      refine .inl ⟨hresult, request, since, earlier, hanswered, ?_, ?_⟩
      · rw [hdirection, hprovider]
        rfl
      · rw [hnotes.method, hmethod]
  sessions := by
    intro sessionId
    show _ ↔ Creates sessionId f before ∨ SessionExists before sessionId
    rw [← hi.sessions]
    by_cases hcreates : Creates sessionId f before
    · obtain ⟨_, hset⟩ := hstep.creates hi.pending hcreates
      simp [hset, EntryMap.get_set_self, hcreates]
    · obtain ⟨hsame, _⟩ | ⟨sessionId', hprovider, hmethod, hid, _, hset⟩ :=
        hstep.resulted.sessions
      · simp [hsame, hcreates]
      · have hne : sessionId ≠ sessionId' := by
          rintro rfl
          obtain ⟨request, since, earlier, hanswered⟩ := hstep.answers hi.pending
          obtain ⟨hdirection, hnotes, _⟩ := hstep.answered hi.pending hanswered
          apply hcreates
          refine ⟨hid, request, since, earlier, hanswered, ?_, ?_⟩
          · rw [hdirection, hprovider]
            rfl
          · rw [hnotes.method, hmethod]
        simp [hset, EntryMap.get_set_of_ne hne, hcreates]
  tools := by
    intro sessionId tools htools toolId
    have hiff : Announced (f :: before) sessionId toolId ↔ Announced before sessionId toolId :=
      or_iff_right fun hannounces => hstep.notSends _ _ hannounces.1
    rw [hiff]
    obtain ⟨hsame, _⟩ | ⟨sessionId', _, _, _, hfree, hset⟩ := hstep.resulted.sessions
    · rw [hsame] at htools
      exact hi.tools _ _ htools toolId
    · rw [hset] at htools
      by_cases hsession : sessionId = sessionId'
      · subst hsession
        rw [EntryMap.get_set_self, Option.some.injEq] at htools
        subst htools
        simp only [List.not_mem_nil, false_iff]
        intro hannounced
        exact hi.announcedKnown _ _ hannounced hfree
      · rw [EntryMap.get_set_of_ne hsession] at htools
        exact hi.tools _ _ htools toolId
  announcedKnown := by
    intro sessionId toolId hannounced
    obtain hnow | hannounced := hannounced
    · exact absurd hnow.1 (hstep.notSends _ _)
    · have hold := hi.announcedKnown _ _ hannounced
      obtain ⟨hsame, _⟩ | ⟨sessionId', _, _, _, hfree, hset⟩ := hstep.resulted.sessions
      · rw [hsame]
        exact hold
      · rw [hset, EntryMap.get_set_of_ne]
        · exact hold
        · rintro rfl
          exact hold hfree
  newAfterInitialize := ⟨fun h => absurd h (hstep.notSends _ _), hi.newAfterInitialize⟩

end

/-! ## One request or notification -/

theorem CallStep.notAnswered (hstep : CallStep s s' f) {request : Frame}
    {since earlier : List Frame} : ¬ Answered f before request since earlier := by
  rintro ⟨_, hanswers, _⟩
  exact hstep.notResponse hanswers.2.1

theorem Tracks.noOtherPrompt (hi : Tracks before s) (hstep : CallStep s s' f) (sessionId : String)
    (hprompts : f.Prompts sessionId) : ¬ PromptOutstanding before sessionId := by
  intro hout
  obtain ⟨session, hsession, _, hfree⟩ := hstep.turn (.inl hprompts.1)
  obtain rfl := Option.some.inj (hprompts.2.symm.trans hsession)
  have hactive := hi.pending.activePrompt_iff.mpr hout
  rw [hfree hprompts.1] at hactive
  cases hactive

theorem Tracks.callLawful (hi : Tracks before s) (hstep : CallStep s s' f) : Lawful f before := by
  have hactive : ∀ sessionId, s.activePrompt sessionId = true →
      PromptOutstanding before sessionId := fun _ => hi.pending.activePrompt_iff.mp
  exact {
    answersOne := fun h => absurd h hstep.notResponse
    createdAfterInitialize := fun _ _ _ h => absurd h hstep.notAnswered
    createdOnce := by
      rintro sessionId ⟨_, request, since, earlier, hanswered, _⟩
      exact absurd hanswered hstep.notAnswered
    sessionKnown := by
      rintro (h | h | h | h)
      · obtain ⟨sessionId, hsession, hknown, _⟩ := hstep.turn (.inl h)
        exact ⟨sessionId, hsession, (hi.sessions _).mp hknown⟩
      · obtain ⟨sessionId, hsession, hknown, _⟩ := hstep.turn (.inr h)
        exact ⟨sessionId, hsession, (hi.sessions _).mp hknown⟩
      · obtain ⟨sessionId, hchecked⟩ := hstep.update h
        exact ⟨sessionId, hchecked.session, (hi.sessions _).mp hchecked.known⟩
      · obtain ⟨sessionId, tools, _, hsession, _, htools, _⟩ := (hstep.permission h).permitted
        exact ⟨sessionId, hsession, (hi.sessions _).mp (by simp [htools])⟩
    onePrompt := hi.onePrompt.kept (hi.noOtherPrompt hstep)
    updatesInPrompt := by
      intro hupdate hkind
      obtain ⟨sessionId, hchecked⟩ := hstep.update hupdate
      exact ⟨sessionId, hchecked.session, hactive _ (hchecked.inPrompt hkind)⟩
    permissionsInPrompt := by
      intro hasks
      obtain ⟨sessionId, _, _, hsession, hprompt, _⟩ := (hstep.permission hasks).permitted
      exact ⟨sessionId, hsession, hactive _ hprompt⟩
    answersInPrompt := fun _ _ _ h => absurd h hstep.notAnswered
    announcedOnce := by
      intro sessionId toolId hannounces hannounced
      obtain ⟨_, hnot⟩ | ⟨session, tool, tools, hannounces', htools, hfresh, _⟩ :=
        hstep.tools.sessions
      · exact hnot _ _ hannounces
      · obtain rfl := Option.some.inj (hannounces.2.1.symm.trans hannounces'.2.1)
        obtain rfl := Option.some.inj (hannounces.2.2.2.symm.trans hannounces'.2.2.2)
        exact hfresh ((hi.tools _ _ htools _).mpr hannounced)
    updatesAnnounced := by
      intro hupdate hkind
      obtain ⟨sessionId, hchecked⟩ := hstep.update hupdate
      obtain ⟨tools, toolId, htools, htool, hmem⟩ := hchecked.announced hkind
      exact ⟨sessionId, toolId, hchecked.session, htool, (hi.tools _ _ htools _).mp hmem⟩
    permissionsAnnounced := by
      intro hasks
      obtain ⟨sessionId, tools, toolId, hsession, _, htools, htool, hmem⟩ :=
        (hstep.permission hasks).permitted
      exact ⟨sessionId, toolId, hsession, htool, (hi.tools _ _ htools _).mp hmem⟩
    cancelledPrompts := fun _ _ _ _ h => absurd h hstep.notAnswered }

theorem Tracks.call (hi : Tracks before s) (hstep : CallStep s s' f) : Tracks (f :: before) s' where
  pending := hi.pending.call hstep.notResponse hstep.method hstep.pending
  onePrompt := hi.onePrompt.kept (hi.noOtherPrompt hstep)
  initialized := by
    intro hyes
    rw [hstep.tools.initialized] at hyes
    exact .inr (hi.initialized hyes)
  sessions := by
    intro sessionId
    have hnot : ¬ Creates sessionId f before := by
      rintro ⟨_, request, since, earlier, hanswered, _⟩
      exact hstep.notAnswered hanswered
    show _ ↔ Creates sessionId f before ∨ SessionExists before sessionId
    rw [or_iff_right hnot, ← hi.sessions]
    obtain ⟨hsame, _⟩ | ⟨session, toolId, tools, _, htools, _, hset⟩ := hstep.tools.sessions
    · rw [hsame]
    · rw [hset]
      by_cases hsession : sessionId = session
      · subst hsession
        simp [EntryMap.get_set_self, htools]
      · rw [EntryMap.get_set_of_ne hsession]
  tools := by
    intro sessionId tools htools toolId
    show _ ↔ f.Announces sessionId toolId ∨ Announced before sessionId toolId
    obtain ⟨hsame, hnot⟩ | ⟨session, tool, tools', hannounces, htools', _, hset⟩ :=
      hstep.tools.sessions
    · rw [hsame] at htools
      rw [or_iff_right (hnot _ _)]
      exact hi.tools _ _ htools toolId
    · rw [hset] at htools
      by_cases hsession : sessionId = session
      · subst hsession
        rw [EntryMap.get_set_self, Option.some.injEq] at htools
        subst htools
        rw [List.mem_append, List.mem_singleton, hi.tools _ _ htools' toolId, or_comm]
        apply or_congr_left
        constructor
        · rintro rfl
          exact hannounces
        · intro hannounces'
          exact Option.some.inj (hannounces'.2.2.2.symm.trans hannounces.2.2.2)
      · rw [EntryMap.get_set_of_ne hsession] at htools
        rw [or_iff_right]
        · exact hi.tools _ _ htools toolId
        · intro hannounces'
          exact hsession (Option.some.inj (hannounces'.2.1.symm.trans hannounces.2.1))
  announcedKnown := by
    intro sessionId toolId hannounced
    obtain ⟨hsame, hnot⟩ | ⟨session, tool, tools', hannounces, htools', _, hset⟩ :=
      hstep.tools.sessions
    · rw [hsame]
      obtain hnow | hannounced := hannounced
      · exact absurd hnow (hnot _ _)
      · exact hi.announcedKnown _ _ hannounced
    · rw [hset]
      by_cases hsession : sessionId = session
      · subst hsession
        simp [EntryMap.get_set_self]
      · rw [EntryMap.get_set_of_ne hsession]
        obtain hnow | hannounced := hannounced
        · exact absurd (Option.some.inj (hnow.2.1.symm.trans hannounces.2.1)) hsession
        · exact hi.announcedKnown _ _ hannounced
  newAfterInitialize :=
    ⟨fun hsends => hi.initialized (hstep.initialized hsends), hi.newAfterInitialize⟩

/-! ## Whole traces -/

theorem tracks_start : Tracks [] .start where
  pending := by
    constructor
    · intro key entry h
      cases h
    · intro owner id request since earlier h
      exact absurd h.split (by simp)
    · intro owner id request request' since since' earlier earlier' h
      exact absurd h.split (by simp)
  onePrompt := by
    intro _ _ _ _ _ _ _ _ _ h
    exact absurd h.split (by simp)
  initialized := fun h => absurd h (by decide)
  sessions := fun _ => ⟨fun h => absurd rfl h, False.elim⟩
  tools := by
    intro sessionId tools h
    cases h
  announcedKnown := fun _ _ => False.elim
  newAfterInitialize := trivial

theorem Tracks.events (hi : Tracks history s) {n : Nat} : Tracks history { s with events := n } :=
  { hi with pending := hi.pending.events }

theorem Tracks.step (hi : Tracks before s) (h : s.observe c f.direction f.message = .ok s') :
    Lawful f before ∧ Tracks (f :: before) s' := by
  obtain ⟨n, ⟨id, entry, hstep⟩ | hstep⟩ := observe_cases h
  · exact ⟨hi.events.responseLawful hstep, hi.events.response hstep⟩
  · exact ⟨hi.events.callLawful hstep, hi.events.call hstep⟩

theorem tracks_observeAll (h : observeAll c history = .ok s) :
    Obeys Lawful history ∧ Tracks history s := by
  induction history generalizing s with
  | nil =>
      rw [observeAll, except_pure_eq_ok] at h
      subst h
      exact ⟨trivial, tracks_start⟩
  | cons f before ih =>
      simp only [observeAll, except_bind_eq_ok] at h
      obtain ⟨s₁, hbefore, hstep⟩ := h
      obtain ⟨hobeys, htracks⟩ := ih hbefore
      obtain ⟨hlawful, htracks'⟩ := htracks.step hstep
      exact ⟨⟨hlawful, hobeys⟩, htracks'⟩

/-- In a trace observed without failure every frame obeys the law, and the observer knows just
the sessions that the trace created. -/
theorem wire_lifecycle_sound (c : WireConfig) (history : List Frame) (s : WireState)
    (h : observeAll c history = .ok s) :
    Obeys Lawful history ∧
      ∀ sessionId, s.sessions.get sessionId ≠ none ↔ SessionExists history sessionId := by
  obtain ⟨hobeys, htracks⟩ := tracks_observeAll h
  exact ⟨hobeys, htracks.sessions⟩

/-! ## A cancelled prompt -/

def clientFrame (fields : RecordValue) : Frame := ⟨.client, ("jsonrpc", .string "2.0") :: fields⟩

def providerFrame (fields : RecordValue) : Frame :=
  ⟨.provider, ("jsonrpc", .string "2.0") :: fields⟩

/-- A prompt with one tool call, cancelled before the tool was permitted; the latest first. -/
def cancelledPrompt : List Frame :=
  [ providerFrame [("id", .number 2), ("result", .object [("stopReason", .string "cancelled")])],
    clientFrame [("id", .string "p"),
      ("result", .object [("outcome", .object [("outcome", .string "cancelled")])])],
    clientFrame [("method", .string "session/cancel"),
      ("params", .object [("sessionId", .string "s")])],
    providerFrame [("id", .string "p"), ("method", .string "session/request_permission"),
      ("params", .object [("sessionId", .string "s"),
        ("toolCall", .object [("toolCallId", .string "t")]), ("options", .array [])])],
    providerFrame [("method", .string "session/update"),
      ("params", .object [("sessionId", .string "s"),
        ("update", .object [("sessionUpdate", .string "tool_call"),
          ("toolCallId", .string "t"), ("title", .string "Read")])])],
    clientFrame [("id", .number 2), ("method", .string "session/prompt"),
      ("params", .object [("sessionId", .string "s"),
        ("prompt", .array [.object [("type", .string "text"), ("text", .string "Hello")]])])],
    providerFrame [("id", .number 1), ("result", .object [("sessionId", .string "s")])],
    clientFrame [("id", .number 1), ("method", .string "session/new"),
      ("params", .object [("cwd", .string "/work"), ("mcpServers", .array [])])],
    providerFrame [("id", .number 0), ("result", .object [("protocolVersion", .number 1),
      ("agentCapabilities", .object [])])],
    clientFrame [("id", .number 0), ("method", .string "initialize"),
      ("params", .object [("protocolVersion", .number 1), ("clientCapabilities", .object [])])] ]

/-- The schema accepts all of these payloads. -/
def acceptingWire : WireConfig := ⟨100, "/work", fun _ _ _ => true⟩

theorem cancelledPrompt_observed : ∃ s, observeAll acceptingWire cancelledPrompt = .ok s := by
  have hok : (observeAll acceptingWire cancelledPrompt).isOk = true := by decide +kernel
  cases hall : observeAll acceptingWire cancelledPrompt with
  | error e =>
      rw [hall] at hok
      cases hok
  | ok s => exact ⟨s, rfl⟩

theorem cancelledPrompt_lifecycle : ∃ s : WireState, Obeys Lawful cancelledPrompt ∧
    ∀ sessionId, s.sessions.get sessionId ≠ none ↔ SessionExists cancelledPrompt sessionId := by
  obtain ⟨s, hs⟩ := cancelledPrompt_observed
  exact ⟨s, wire_lifecycle_sound acceptingWire cancelledPrompt s hs⟩

/-- A prompt that is cancelled may not end its turn otherwise. -/
example : (observeAll acceptingWire
    (providerFrame [("id", .number 2), ("result", .object [("stopReason", .string "end_turn")])]
      :: cancelledPrompt.tail)).isOk = false := by
  decide +kernel

end Torsor.AcpConformance
