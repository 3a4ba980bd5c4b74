import Torsor.AcpConformance.Redaction
import Torsor.AcpConformance.WireLifecycle

/-! # Transcripts tell nothing but the projections -/

namespace Torsor.AcpConformance
open Torsor.Library WireState

variable {ι σ τ : Type} (ρ : Renaming ι σ τ)

/-! ## One alias for each id -/

theorem toolKey_injective : Function.Injective fun p : String × String => toolKey p.1 p.2 := by
  rintro ⟨s, t⟩ ⟨s', t'⟩ h
  have hlist := String.ofList_injective h
  simp only [List.cons.injEq, true_and] at hlist
  obtain ⟨hsession, hrest⟩ := JsonQuote.quote_prefixCode hlist
  simp only [List.cons.injEq, true_and] at hrest
  obtain ⟨htool, _⟩ := JsonQuote.quote_prefixCode hrest
  rw [String.toList_injective hsession, String.toList_injective htool]

section
variable {δ κ κ' : Type} [DecidableEq κ] [DecidableEq κ'] {f : δ → κ} {g : δ → κ'}
  {m : EntryMap κ String} {m' : EntryMap κ' String}

theorem aliasOf_mirrors (h : EntryMap.Mirrors f g m m') (hf : f.Injective) (hg : g.Injective)
    (d : δ) (label : String) :
    (aliasOf m (f d) label).1 = (aliasOf m' (g d) label).1 ∧
      EntryMap.Mirrors f g (aliasOf m (f d) label).2 (aliasOf m' (g d) label).2 := by
  have hget := h.get hf hg d
  unfold aliasOf
  cases hm : m.get (f d) with
  | some value =>
      rw [hm] at hget
      simpa [← hget] using h
  | none =>
      rw [hm] at hget
      have hset := h.set hm hget.symm (label ++ "-" ++ (m.size + 1).repr)
      simpa [← hget, ← h.size] using hset

end

/-- The tables agree up to the spelling of their keys. -/
structure SameAliases (a : Aliases String String String)
    (b : Aliases (Direction × ι) σ (σ × τ)) : Prop where
  ids : EntryMap.Mirrors (fun p : Direction × RpcId => pendingKey p.1 p.2)
    (fun p => (p.1, ρ.request p.1 p.2)) a.ids b.ids
  sessions : EntryMap.Mirrors id ρ.session a.sessions b.sessions
  tools : EntryMap.Mirrors (fun p : String × String => toolKey p.1 p.2)
    (fun p => (ρ.session p.1, ρ.tool p.1 p.2)) a.tools b.tools

theorem SameAliases.empty : SameAliases ρ .empty .empty :=
  ⟨.empty, .empty, .empty⟩

theorem requestAlias_coupled [DecidableEq ι] (owner : Direction) (id : RpcId) :
    Coupled (SameAliases ρ) (requestAlias (pendingKey owner id))
      (requestAlias (owner, ρ.request owner id)) := by
  intro a b h
  have hkey : Function.Injective fun p : Direction × RpcId => pendingKey p.1 p.2 := by
    rintro ⟨owner, id⟩ ⟨owner', id'⟩ heq
    obtain ⟨rfl, rfl⟩ := pendingKey_inj heq
    rfl
  have hname : Function.Injective fun p : Direction × RpcId => (p.1, ρ.request p.1 p.2) := by
    rintro ⟨owner, id⟩ ⟨owner', id'⟩ heq
    simp only [Prod.mk.injEq] at heq
    obtain ⟨rfl, hid⟩ := heq
    rw [ρ.request_injective owner hid]
  obtain ⟨hvalue, hmap⟩ := aliasOf_mirrors h.ids hkey hname (owner, id) "request"
  exact ⟨hvalue, hmap, h.sessions, h.tools⟩

theorem sessionAlias_coupled [DecidableEq σ] (sessionId : String) :
    Coupled (SameAliases ρ) (sessionAlias sessionId) (sessionAlias (ρ.session sessionId)) := by
  intro a b h
  obtain ⟨hvalue, hmap⟩ :=
    aliasOf_mirrors h.sessions Function.injective_id ρ.session_injective sessionId "session"
  exact ⟨hvalue, h.ids, hmap, h.tools⟩

theorem toolAlias_coupled [DecidableEq σ] [DecidableEq τ] (sessionId toolCallId : String) :
    Coupled (SameAliases ρ) (toolAlias (toolKey sessionId toolCallId))
      (toolAlias (ρ.session sessionId, ρ.tool sessionId toolCallId)) := by
  intro a b h
  have hname : Function.Injective fun p : String × String =>
      (ρ.session p.1, ρ.tool p.1 p.2) := by
    rintro ⟨s, t⟩ ⟨s', t'⟩ heq
    simp only [Prod.mk.injEq] at heq
    obtain rfl := ρ.session_injective heq.1
    rw [ρ.tool_injective _ heq.2]
  obtain ⟨hvalue, hmap⟩ :=
    aliasOf_mirrors h.tools toolKey_injective hname (sessionId, toolCallId) "tool"
  exact ⟨hvalue, h.ids, h.sessions, hmap⟩

/-! ## What is listed -/

theorem toJson_listed (words : List String) (placeholder word : String) :
    (Listed.of words word).toJson placeholder = listedOr words placeholder word := by
  unfold Listed.of listedOr
  split <;> rfl

theorem map_toJson (words : List String) (placeholder : String) (value : Option String) :
    (value.map (Listed.of words)).map (Listed.toJson placeholder) =
      value.map (listedOr words placeholder) := by
  cases value with
  | none => rfl
  | some word => rw [Option.map_some, Option.map_some, toJson_listed, Option.map_some]

theorem safeInteger_eq_some {value : Option Json} {n : Int} (h : safeInteger value = some n) :
    value = some (.number n) := by
  unfold safeInteger at h
  split at h
  · rename_i q
    split at h
    · rename_i hq
      rw [← Option.some.inj h, Rat.coe_int_num_of_den_eq_one hq.1]
    · cases h
  · cases h

theorem presence_isSome {α : Type} (value : Json) (o : Option α) :
    presence value o.isSome = o.map fun _ => value := by
  cases o <;> rfl

theorem capabilities_redact (value : Option Json) :
    (CapabilityFacts.of value).redact = agentCapabilities value := by
  simp [CapabilityFacts.of, CapabilityFacts.redact, agentCapabilities, Option.map_map,
    Function.comp_def]

/-! ## Payloads -/

section
variable [DecidableEq σ] [DecidableEq τ]

theorem tool_coupled (sessionId : String) (value : Option Json) :
    Coupled (SameAliases ρ) (tool value sessionId)
      ((ToolFacts.of ρ sessionId value).redact (ρ.session sessionId)) := by
  unfold tool ToolFacts.redact ToolFacts.of
  apply Coupled.bind
  · exact Coupled.mapM _ fun toolCallId _ => toolAlias_coupled ρ sessionId toolCallId
  · intro toolCallId
    rw [map_toJson, map_toJson]
    exact .pure _

theorem updatedTool_coupled (method sessionId : Option String) (value : Option Json) :
    Coupled (SameAliases ρ) (updatedTool method sessionId value)
      ((UpdateFacts.of ρ method sessionId value).redactTool (sessionId.map ρ.session)) := by
  unfold updatedTool UpdateFacts.redactTool UpdateFacts.of
  cases sessionId with
  | none => exact .pure _
  | some sessionId =>
      by_cases htool : isToolUpdate method value
      · simpa [htool] using tool_coupled ρ sessionId value
      · simpa [htool] using Coupled.pure _

theorem update_coupled (method sessionId : Option String) (value : Option Json) :
    Coupled (SameAliases ρ) (updateFields method sessionId value)
      ((UpdateFacts.of ρ method sessionId value).redact (sessionId.map ρ.session)) := by
  unfold updateFields UpdateFacts.redact
  apply Coupled.bind (updatedTool_coupled ρ method sessionId value)
  intro facts
  cases hkind : text (member value "sessionUpdate") with
  | none =>
      simp only [UpdateFacts.of, hkind]
      exact .pure _
  | some kind =>
      simp only [UpdateFacts.of, hkind, Option.map_some, Option.getD_some, toJson_listed]
      exact .pure _

theorem permissionTool_coupled (method : Option String) (value : Option Json) :
    Coupled (SameAliases ρ)
      (permissionTool method (text (member value "sessionId")) (member value "toolCall"))
      (PayloadFacts.of ρ method value).redactTool := by
  unfold permissionTool PayloadFacts.redactTool PayloadFacts.of
  cases text (member value "sessionId") with
  | none => exact .pure _
  | some sessionId =>
      by_cases hmethod : method = some "session/request_permission"
      · simp only [hmethod, if_true, Option.map_some, Option.bind_some]
        exact Coupled.mapM _ fun _ _ => tool_coupled ρ sessionId _
      · simpa [hmethod] using Coupled.pure _

theorem payload_coupled (method : Option String) (value : Option Json) :
    Coupled (SameAliases ρ) (payload value method)
      (redactPayload ((record value).map fun _ => PayloadFacts.of ρ method value)) := by
  unfold payload
  cases hrecord : record value with
  | none => exact .pure _
  | some fields =>
      simp only [reduceCtorEq, if_false, Option.map_some, redactPayload, PayloadFacts.redact]
      apply Coupled.bind
      · exact Coupled.mapM _ fun sessionId _ => sessionAlias_coupled ρ sessionId
      · intro session
        apply Coupled.bind
        · exact Coupled.mapM _ fun _ _ => update_coupled ρ method _ _
        · intro updated
          apply Coupled.bind (permissionTool_coupled ρ method value)
          intro called
          simp only [PayloadFacts.of, toJson_listed, presence_isSome, Option.map_map,
            Function.comp_def, capabilities_redact, decide_eq_true_eq]
          exact .pure _

theorem result_coupled (value : Option Json) :
    Coupled (SameAliases ρ) (value.mapM fun value => payload (some value) none)
      ((value.map fun value =>
        (record (some value)).map fun _ => PayloadFacts.of ρ none (some value)).mapM
          redactPayload) :=
  Coupled.mapM _ fun value _ => payload_coupled ρ none (some value)

theorem params_coupled (method : Option String) (value : Option Json) :
    Coupled (SameAliases ρ) ((record value).mapM fun _ => payload value method)
      (((record value).map fun _ => PayloadFacts.of ρ method value).mapM PayloadFacts.redact) := by
  have h := payload_coupled ρ method value
  cases hrecord : record value with
  | none => exact .pure none
  | some fields =>
      rw [hrecord] at h
      exact h.map some

end

/-! ## Messages -/

/-- The error of an accepted message has a code. -/
theorem observe_error {c : WireConfig} {s s' : WireState} {direction : Direction}
    {message : RecordValue} (h : s.observe c direction message = .ok s')
    (herror : record (message.lookup "error") ≠ none) :
    safeInteger (member (message.lookup "error") "code") ≠ none := by
  have hsome : (message.lookup "error").isSome = true := by
    cases hlookup : message.lookup "error" with
    | none => simp [hlookup, record] at herror
    | some value => rfl
  unfold observe at h
  simp only [except_bind_eq_ok, failIf_eq_ok] at h
  obtain ⟨_, _, _, _, h⟩ := h
  split at h
  · unfold observeCall at h
    split at h
    · simp at h
    · simp only [except_bind_eq_ok, failIf_eq_ok, hsome] at h
      obtain ⟨_, hno, _⟩ := h
      exact absurd (.inr trivial) hno
  · unfold observeResponse at h
    simp only [except_bind_eq_ok, failIf_eq_ok] at h
    obtain ⟨_, _, h⟩ := h
    split at h
    · simp at h
    · simp only [except_bind_eq_ok, failIf_eq_ok, hsome, if_true] at h
      obtain ⟨_, _, _, _, _, hcode, _⟩ := h
      exact fun hnone => hcode (.inl hnone)

theorem answer_coupled [DecidableEq σ] [DecidableEq τ] (f : Frame)
    (hcode : record (f.message.lookup "error") ≠ none →
      safeInteger (member (f.message.lookup "error") "code") ≠ none) :
    Coupled (SameAliases ρ)
      (answerFields (f.message.lookup "error") (f.message.lookup "result"))
      (project ρ f).redactAnswer := by
  unfold answerFields MessageFacts.redactAnswer
  cases hrecord : record (f.message.lookup "error") with
  | none =>
      have hnone : (project ρ f).error = none := by
        simp [project, member, hrecord, safeInteger]
      rw [hnone]
      apply Coupled.bind (result_coupled ρ _)
      intro result
      exact .pure _
  | some fields =>
      obtain ⟨code, hsafe⟩ := Option.ne_none_iff_exists'.mp (hcode (by simp [hrecord]))
      have herror : (project ρ f).error = some code := hsafe
      rw [herror, safeInteger_eq_some hsafe]
      exact .pure _

theorem message_coupled [DecidableEq ι] [DecidableEq σ] [DecidableEq τ] (f : Frame)
    (hcode : record (f.message.lookup "error") ≠ none →
      safeInteger (member (f.message.lookup "error") "code") ≠ none) :
    Coupled (SameAliases ρ) (safeMessage f.direction f.message f.id)
      (project ρ f).redact := by
  have hcall : (project ρ f).method.isSome = f.method.isSome := by simp [project]
  unfold safeMessage MessageFacts.redact
  rw [hcall]
  apply Coupled.bind
  · exact Coupled.mapM _ fun id _ => requestAlias_coupled ρ _ id
  · intro request
    apply Coupled.bind (answer_coupled ρ f hcode)
    intro answer
    apply Coupled.bind (params_coupled ρ _ _)
    intro params
    simp only [project, map_toJson]
    exact .pure _

/-! ## Whole transcripts -/

section
variable {ρ} {t : Transcript String String String} {u : Transcript (Direction × ι) σ (σ × τ)}

/-- The transcript is that of the projections, but for the spelling of the keys. -/
structure SameTranscript (ρ : Renaming ι σ τ) (t : Transcript String String String)
    (u : Transcript (Direction × ι) σ (σ × τ)) : Prop where
  events : t.events = u.events
  aliases : SameAliases ρ t.aliases u.aliases

theorem SameTranscript.add (h : SameTranscript ρ t u) (direction : EventDirection)
    (kind : String) (message : RecordValue) :
    SameTranscript ρ (t.add direction kind message) (u.add direction kind message) := by
  refine ⟨?_, h.aliases⟩
  simp [Transcript.add, h.events]

theorem SameTranscript.addWith (h : SameTranscript ρ t u) (direction : Direction)
    (kind : String) {x : Recorder RecordValue} {y : Redactor ι σ τ RecordValue}
    (hxy : Coupled (SameAliases ρ) x y) :
    SameTranscript ρ (t.addWith direction kind x) (u.addWith direction kind y) := by
  obtain ⟨hmessage, haliases⟩ := hxy _ _ h.aliases
  have hbase : SameTranscript ρ { t with aliases := (x.run t.aliases).2 }
      { u with aliases := (y.run u.aliases).2 } := ⟨h.events, haliases⟩
  simp only [Transcript.addWith, hmessage]
  exact hbase.add _ _ _

end

/-- The transcript of an accepted trace is a function of the projections. -/
theorem transcribe_redacts [DecidableEq ι] [DecidableEq σ] [DecidableEq τ] (c : WireConfig) (history : List Entry) {s : WireState}
    {t : Transcript String String String} (h : transcribe c history = .ok (s, t)) :
    SameTranscript ρ t (redactAll (history.map (projectEntry ρ))) := by
  induction history generalizing s t with
  | nil =>
      simp only [transcribe, except_pure_eq_ok, Prod.mk.injEq] at h
      obtain ⟨_, rfl⟩ := h
      exact ⟨rfl, .empty ρ⟩
  | cons entry before ih =>
      cases entry with
      | harness kind =>
          simp only [transcribe, except_bind_eq_ok, except_pure_eq_ok, Prod.mk.injEq] at h
          obtain ⟨⟨s₀, t₀⟩, hbefore, _, rfl⟩ := h
          exact (ih hbefore).add _ _ _
      | message f =>
          simp only [transcribe, except_bind_eq_ok, except_pure_eq_ok, Prod.mk.injEq] at h
          obtain ⟨⟨s₀, t₀⟩, hbefore, s', hobserve, _, rfl⟩ := h
          have hkind : messageKind (text (f.message.lookup "method")).isSome f.id.isSome =
              messageKind (project ρ f).method.isSome (project ρ f).id.isSome := by
            simp [project, Frame.method]
          rw [Transcript.protocol, hkind]
          exact (ih hbefore).addWith _ _ (message_coupled ρ f (observe_error hobserve))

/-- Two accepted traces that are alike but for what is not listed, and for the names of their
ids, leave one transcript. -/
theorem transcript_noninterfering {ι σ τ : Type} (ρ ρ' : Renaming ι σ τ) (c c' : WireConfig)
    (history history' : List Entry) (s s' : WireState) (t t' : Transcript String String String)
    (h : transcribe c history = .ok (s, t)) (h' : transcribe c' history' = .ok (s', t'))
    (hsame : history.map (projectEntry ρ) = history'.map (projectEntry ρ')) :
    t.events = t'.events := by
  classical
  have hevents := (transcribe_redacts ρ c history h).events
  rw [hsame] at hevents
  exact hevents.trans (transcribe_redacts ρ' c' history' h').events.symm

/-- A prompt and its one tool call; the latest first. -/
def promptAbout (id : Int) (sessionId toolCallId prompt title : String) : List Entry :=
  [ .message (providerFrame [("id", .number id),
      ("result", .object [("stopReason", .string "end_turn"), ("note", .string title)])]),
    .message (providerFrame [("method", .string "session/update"),
      ("params", .object [("sessionId", .string sessionId),
        ("update", .object [("sessionUpdate", .string "tool_call"), ("kind", .string "read"),
          ("toolCallId", .string toolCallId), ("title", .string title)])])]),
    .message (clientFrame [("id", .number id), ("method", .string "session/prompt"),
      ("params", .object [("sessionId", .string sessionId),
        ("prompt", .array [.string prompt])])]),
    .message (providerFrame [("id", .number 1),
      ("result", .object [("sessionId", .string sessionId)])]),
    .message (clientFrame [("id", .number 1), ("method", .string "session/new"),
      ("params", .object [("cwd", .string "/work"), ("mcpServers", .array [])])]),
    .message (providerFrame [("id", .number 0), ("result", .object [("protocolVersion", .number 1),
      ("agentCapabilities", .object [])])]),
    .message (clientFrame [("id", .number 0), ("method", .string "initialize"),
      ("params", .object [("protocolVersion", .number 1), ("clientCapabilities", .object [])])]),
    .harness "started" ]

theorem promptAbout_transcribed (id : Int) (sessionId toolCallId prompt title : String)
    (h : (transcribe acceptingWire (promptAbout id sessionId toolCallId prompt title)).isOk =
      true) :
    ∃ s t, transcribe acceptingWire (promptAbout id sessionId toolCallId prompt title) =
      .ok (s, t) := by
  cases hall : transcribe acceptingWire (promptAbout id sessionId toolCallId prompt title) with
  | error e =>
      rw [hall] at h
      cases h
  | ok r => exact ⟨r.1, r.2, rfl⟩

theorem secrets_noninterfering : ∃ s s' t t',
    transcribe acceptingWire (promptAbout 2 "s" "t" "Hello" "Read") = .ok (s, t) ∧
    transcribe acceptingWire (promptAbout 7 "u" "v" "A secret" "Hidden") = .ok (s', t') ∧
    t.events = t'.events := by
  obtain ⟨s, t, h⟩ := promptAbout_transcribed 2 "s" "t" "Hello" "Read" (by decide +kernel)
  obtain ⟨s', t', h'⟩ := promptAbout_transcribed 7 "u" "v" "A secret" "Hidden"
    (by decide +kernel)
  refine ⟨s, s', t, t', h, h', ?_⟩
  exact transcript_noninterfering
    (.permuting (Equiv.refl _) (Equiv.refl _) (Equiv.refl _))
    (.permuting (Equiv.swap (.number 2) (.number 7)) (Equiv.swap "s" "u") (Equiv.swap "t" "v"))
    acceptingWire acceptingWire _ _ s s' t t' h h' (by decide +kernel)

end Torsor.AcpConformance
