import Torsor.Web.RunControlRecovery

/-! # Run controls over whole runs -/

namespace Torsor.Web.Controls
open Torsor.Library ControlWindow

/-! ## The invariant -/

def HoldsPending (stored : Option StoredText) (key : JsString) (request : RunControlRequest)
    (principalId : JsString) : Prop :=
  ∃ m, recovered stored = some m ∧ m.get key = some (unknownEntry request principalId)

/-- What holds whatever becomes of the storage. -/
structure Sound (w : ControlWindow) : Prop where
  entries : ∀ key entry, w.model.entries.get key = some entry → SoundEntry key entry
  flights : ∀ f ∈ w.flights, SoundEntry f.key f.pending ∧ f.request.key = f.key ∧
    f.principalId ≠ []
  sent : ∀ x ∈ w.sent, HoldsPending x.stored x.key x.request x.principalId

structure Inv (w : ControlWindow) : Prop extends Sound w where
  stored : w.model.recoveryError = none → Restores w.stored w.model.entries

variable {w : ControlWindow} {key : JsString} {entry : RunControlEntry} {saves : Bool}

theorem Sound.entryAt (h : Sound w) (key : JsString) : SoundEntry key (w.entry key) := by
  unfold ControlWindow.entry
  cases hget : w.model.entries.get key with
  | none => exact .empty key
  | some entry => exact h.entries key entry hget

/-! ## Setting an entry -/

theorem set_flights : (w.set key entry saves).flights = w.flights := by
  unfold ControlWindow.set changed
  split_ifs <;> rfl

theorem set_sent : (w.set key entry saves).sent = w.sent := by
  unfold ControlWindow.set changed
  split_ifs <;> rfl

theorem set_entries : (w.set key entry saves).model.entries = w.model.entries.set key entry := by
  unfold ControlWindow.set changed
  split_ifs <;> rfl

/-- A save that fails, or is not tried, leaves the storage as it was. -/
theorem set_stored (h : (w.set key entry saves).model.recoveryError ≠ none) :
    (w.set key entry saves).stored = w.stored := by
  unfold ControlWindow.set changed at *
  split_ifs at * with herror hsaves
  · rfl
  · rw [Option.not_isSome_iff_eq_none] at herror
    exact absurd herror h
  · rfl

theorem set_recoveryError (h : w.model.recoveryError ≠ none) :
    (w.set key entry saves).model.recoveryError ≠ none := by
  have herror : w.model.recoveryError.isSome = true := Option.isSome_iff_ne_none.mpr h
  simpa [ControlWindow.set, changed, herror] using h

theorem Sound.set (h : Sound w) (hentry : SoundEntry key entry) :
    Inv (w.set key entry saves) where
  entries := by
    intro key' entry' hget
    rw [set_entries] at hget
    by_cases hkey : key' = key
    · subst hkey
      rw [EntryMap.get_set_self] at hget
      cases hget
      exact hentry
    · rw [EntryMap.get_set_of_ne hkey] at hget
      exact h.entries key' entry' hget
  flights := by
    rw [set_flights]
    exact h.flights
  sent := by
    rw [set_sent]
    exact h.sent
  stored := by
    intro hnone
    unfold ControlWindow.set changed at *
    split_ifs at * with herror hsaves
    · rw [hnone] at herror
      cases herror
    · apply saved_restores
      intro key' entry' hget
      by_cases hkey : key' = key
      · subst hkey
        rw [EntryMap.get_set_self] at hget
        cases hget
        exact hentry
      · rw [EntryMap.get_set_of_ne hkey] at hget
        exact h.entries key' entry' hget

/-! ## Sending -/

theorem SoundEntry.pending_entry (h : SoundEntry key entry) {request : RunControlRequest}
    {principalId : JsString} (hkey : request.key = key) (hprincipal : principalId ≠ []) :
    SoundEntry key (entry.pending request principalId) := by
  refine ⟨?_, h.acknowledged⟩
  rintro _ ⟨⟩
  exact ⟨hkey, principalId, rfl, hprincipal⟩

theorem Sound.send (h : Sound w) (hentry : SoundEntry key entry) {request : RunControlRequest}
    {principalId : JsString} (hkey : request.key = key) (hprincipal : principalId ≠ []) :
    Inv (w.send key entry request principalId saves) := by
  have hpending := hentry.pending_entry hkey hprincipal
  have hset : Inv (w.set key (entry.pending request principalId) saves) := h.set hpending
  unfold ControlWindow.send
  simp only
  split_ifs with herror
  · exact hset.toSound.set hentry
  · rw [Option.not_isSome_iff_eq_none] at herror
    refine ⟨⟨hset.entries, ?_, ?_⟩, hset.stored⟩
    · intro f hf
      obtain hold | hnew := List.mem_append.mp hf
      · exact hset.flights f hold
      · rw [List.mem_singleton] at hnew
        subst hnew
        exact ⟨hpending, hkey, hprincipal⟩
    · intro x hx
      obtain hold | hnew := List.mem_append.mp hx
      · exact hset.sent x hold
      · rw [List.mem_singleton] at hnew
        subst hnew
        obtain ⟨m, hm, hget⟩ := hset.stored herror
        refine ⟨m, hm, ?_⟩
        rw [hget, set_entries, EntryMap.get_set_self]
        rfl

theorem createRequest_ok {run : RunView} {principalId : JsString} {inputId : Option Identifier}
    {inputs : List RunInputView} {available : Bool} {uuid : Identifier}
    {request : RunControlRequest}
    (h : createRequest entry run principalId inputId
      (inputId.bind fun id => inputs.find? fun input => input.id = id) available uuid =
      .ok request) :
    request.key = controlKey run.id.1 (inputId.map Subtype.val) ∧ principalId ≠ [] := by
  unfold createRequest at h
  split_ifs at h with hknown havailable hreview hmissing
  · split at h
    · cases h
    · cases h
  · split at h
    · cases h
    · rename_i hreason
      have hprincipal : principalId ≠ [] := by
        rintro rfl
        simp [controlUnavailable] at hreason
      simp only at h
      split at h
      · rename_i input hinput
        cases h
        obtain ⟨id, rfl, hfind⟩ := Option.bind_eq_some_iff.mp hinput
        have hid : input.id = id := by simpa using List.find?_some hfind
        exact ⟨by simp [RunControlRequest.key, hid], hprincipal⟩
      · rename_i hinput
        cases h
        have hnone : inputId = none := by simpa [hinput] using hmissing
        exact ⟨by simp [RunControlRequest.key, hnone], hprincipal⟩

theorem SoundEntry.of_same {entry' : RunControlEntry} (h : SoundEntry key entry)
    (hrequest : entry'.request = entry.request) (hprincipal : entry'.principalId = entry.principalId)
    (hknown : entry'.acknowledged = entry.acknowledged) : SoundEntry key entry' := by
  refine ⟨?_, ?_⟩
  · rw [hrequest, hprincipal]
    exact h.pending
  · rw [hknown]
    exact h.acknowledged

/-- What a submission comes to: nothing, a reason, or a request that is sent again or is new. -/
theorem submitRequest_cases (key principalId : JsString)
    (create : RunControlEntry → Except String RunControlRequest) :
    w.submitRequest key principalId create saves = w ∨
    (∃ reason, w.submitRequest key principalId create saves =
      w.set key { w.entry key with error := some reason } saves) ∨
    ∃ request, w.submitRequest key principalId create saves =
        w.send key (w.entry key) request principalId saves ∧
      w.model.recoveryError = none ∧
      ((w.entry key).request = some request ∧ (w.entry key).principalId = some principalId ∨
        (w.entry key).request = none ∧ create (w.entry key) = .ok request) := by
  by_cases herror : w.model.recoveryError.isSome = true
  · exact .inl (by simp [submitRequest, herror])
  by_cases hsubmitting : (w.entry key).status = .submitting
  · exact .inl (by simp [submitRequest, hsubmitting])
  have hnone : w.model.recoveryError = none := by simpa using herror
  cases hrequest : (w.entry key).request with
  | some request =>
      by_cases hsame : (w.entry key).principalId = some principalId
      · exact .inr (.inr ⟨request, by simp [submitRequest, hnone, hsubmitting, hrequest, hsame],
          hnone, .inl ⟨rfl, hsame⟩⟩)
      · exact .inr (.inl ⟨_, by simp [submitRequest, hnone, hsubmitting, hrequest, hsame]; rfl⟩)
  | none =>
      cases hcreate : create (w.entry key) with
      | error reason =>
          exact .inr (.inl ⟨_, by simp [submitRequest, hnone, hsubmitting, hrequest, hcreate]; rfl⟩)
      | ok request =>
          exact .inr (.inr ⟨request, by simp [submitRequest, hnone, hsubmitting, hrequest, hcreate],
            hnone, .inr ⟨rfl, rfl⟩⟩)

theorem Inv.submit (h : Inv w) {run : RunView} {inputs : List RunInputView}
    {principalId : JsString} {inputId : Option Identifier} {available : Bool} {uuid : Identifier} :
    Inv (w.submit run inputs principalId inputId available uuid saves) := by
  have hentry := h.toSound.entryAt (controlKey run.id.1 (inputId.map Subtype.val))
  obtain heq | ⟨reason, heq⟩ | ⟨request, heq, _, hrequest⟩ :=
    @submitRequest_cases w saves
      (controlKey run.id.1 (inputId.map Subtype.val)) principalId fun entry =>
        createRequest entry run principalId inputId
          (inputId.bind fun id => inputs.find? fun input => input.id = id) available uuid
  · rw [ControlWindow.submit, heq]
    exact h
  · rw [ControlWindow.submit, heq]
    exact h.toSound.set (hentry.of_same rfl rfl rfl)
  · rw [ControlWindow.submit, heq]
    obtain ⟨hsome, hprincipal⟩ | ⟨_, hcreate⟩ := hrequest
    · obtain ⟨hkey, p, hp, hne⟩ := hentry.pending request hsome
      rw [hprincipal] at hp
      cases hp
      exact h.toSound.send hentry hkey hne
    · obtain ⟨hkey, hne⟩ := createRequest_ok hcreate
      exact h.toSound.send hentry hkey hne

/-! ## Answers -/

theorem SoundEntry.failed (h : SoundEntry key entry) (revision : Nat) (failure : SendFailure) :
    SoundEntry key (entry.failed revision failure) := by
  unfold RunCommandEntry.failed
  simp only
  split
  · exact ⟨by rintro _ ⟨⟩, h.acknowledged⟩
  · exact h.of_same rfl rfl rfl

theorem Sound.answerFlight (h : Sound w) {f : ControlFlight} (hflight : SoundEntry f.key f.pending)
    (hkey : f.request.key = f.key) (hprincipal : f.principalId ≠ []) (outcome : SendOutcome) :
    Inv (w.answerFlight f outcome saves) := by
  unfold ControlWindow.answerFlight
  simp only
  split
  · exact h.set (hflight.failed _ _)
  · split
    · exact h.set (hflight.failed _ _)
    · rename_i receipt hreceipt
      have hanswered : SoundEntry f.key
          (RunCommandEntry.answered f.request f.principalId receipt) := by
        refine ⟨by rintro _ ⟨⟩, ?_⟩
        rintro _ ⟨⟩
        exact ⟨hkey, hprincipal, requireControlReceipt_eq hreceipt⟩
      exact Sound.set ⟨h.entries, h.flights, h.sent⟩ hanswered

theorem Inv.answer (h : Inv w) (flight : Nat) (outcome : SendOutcome) :
    Inv (w.answer flight outcome saves) := by
  unfold ControlWindow.answer
  split
  · exact h
  · rename_i f hf
    obtain ⟨hsound, hkey, hprincipal⟩ := h.flights f (List.mem_of_getElem? hf)
    apply Sound.answerFlight _ hsound hkey hprincipal
    exact ⟨h.entries, fun g hg => h.flights g (List.mem_of_mem_eraseIdx hg), h.sent⟩

/-! ## Other moves -/

theorem Inv.edit (h : Inv w) (draft : JsString) : Inv (w.edit key draft saves) := by
  have hentry := h.toSound.entryAt key
  unfold ControlWindow.edit
  simp only
  split_ifs with hrequest hstatus
  · exact h
  · exact h.toSound.set (hentry.of_same rfl rfl rfl)
  · exact h.toSound.set (hentry.of_same rfl rfl rfl)

theorem Inv.beginRefresh (h : Inv w) : Inv (w.beginRefresh key saves) := by
  have hentry := h.toSound.entryAt key
  unfold ControlWindow.beginRefresh
  exact Sound.set ⟨h.entries, h.flights, h.sent⟩ (hentry.of_same rfl rfl rfl)

theorem Inv.finishRefresh (h : Inv w) (version : Nat) (succeeded : Bool) :
    Inv (w.finishRefresh key version succeeded saves) := by
  have hentry := h.toSound.entryAt key
  unfold ControlWindow.finishRefresh
  by_cases hversion : w.model.refreshVersions.get key ≠ some version
  · rw [if_pos hversion]
    exact h
  · rw [if_neg hversion]
    exact h.toSound.set (hentry.of_same rfl rfl rfl)

/-- A window that starts to read the storage. -/
theorem load_inv {stored : Option StoredText} {reads : Bool} :
    (∀ key entry, (RunControlsModel.load stored reads).entries.get key = some entry →
      SoundEntry key entry) ∧
    ((RunControlsModel.load stored reads).recoveryError = none →
      Restores stored (RunControlsModel.load stored reads).entries) := by
  unfold RunControlsModel.load
  split
  · rename_i entries hload
    have hrecovered : recovered stored = some entries := by
      cases reads with
      | false => cases hload
      | true => exact hload
    exact ⟨fun key entry hget => (Fresh.recovered hrecovered key entry hget).1,
      fun _ => recovered_restores hrecovered⟩
  · exact ⟨by rintro _ _ ⟨⟩, by rintro ⟨⟩⟩

theorem start_inv (stored : Option StoredText) (reads : Bool) : Inv (start stored reads) :=
  ⟨⟨load_inv.1, by rintro _ ⟨⟩, by rintro _ ⟨⟩⟩, load_inv.2⟩

theorem Inv.reload (h : Inv w) (reads : Bool) : Inv (w.reload reads) :=
  ⟨⟨load_inv.1, by rintro _ ⟨⟩, h.sent⟩, load_inv.2⟩

theorem Inv.step (h : Inv w) (move : ControlMove) : Inv (w.step move) := by
  cases move with
  | submit run inputs principalId inputId available uuid saves => exact h.submit
  | answer flight outcome saves => exact h.answer flight outcome
  | edit key draft saves => exact h.edit draft
  | beginRefresh key saves => exact h.beginRefresh
  | finishRefresh key version succeeded saves => exact h.finishRefresh version succeeded
  | reload reads => exact h.reload reads

theorem Inv.run (h : Inv w) (moves : List ControlMove) : Inv (w.run moves) := by
  induction moves generalizing w with
  | nil => exact h
  | cons move rest ih => exact ih (h.step move)

/-! ## Failed storage -/

theorem send_fails {request : RunControlRequest} {principalId : JsString}
    (h : (w.send key entry request principalId saves).model.recoveryError ≠ none) :
    (w.send key entry request principalId saves).stored = w.stored ∧
      (w.send key entry request principalId saves).sent = w.sent := by
  unfold ControlWindow.send at *
  simp only at *
  by_cases herror : (w.set key (entry.pending request principalId) saves).model.recoveryError.isSome
  · simp only [herror, if_true] at h ⊢
    have hfailed := Option.isSome_iff_ne_none.mp herror
    exact ⟨(set_stored h).trans (set_stored hfailed), set_sent.trans set_sent⟩
  · simp only [herror] at h
    exact absurd (Option.not_isSome_iff_eq_none.mp herror) h

theorem answerFlight_fails {f : ControlFlight} {outcome : SendOutcome}
    (h : (w.answerFlight f outcome saves).model.recoveryError ≠ none) :
    (w.answerFlight f outcome saves).stored = w.stored ∧
      (w.answerFlight f outcome saves).sent = w.sent := by
  cases outcome with
  | failure e => exact ⟨set_stored h, set_sent⟩
  | response value =>
      cases hreceipt : requireControlReceipt value f.request with
      | none =>
          simp only [answerFlight, hreceipt] at h ⊢
          exact ⟨set_stored h, set_sent⟩
      | some receipt =>
          simp only [answerFlight, hreceipt] at h ⊢
          exact ⟨set_stored h, set_sent⟩

/-- Where the window ends with an error, nothing was stored or sent. -/
theorem step_fails (move : ControlMove) (h : (w.step move).model.recoveryError ≠ none) :
    (w.step move).stored = w.stored ∧ (w.step move).sent = w.sent := by
  cases move with
  | submit run inputs principalId inputId available uuid saves =>
      simp only [ControlWindow.step, ControlWindow.submit] at h ⊢
      obtain heq | ⟨reason, heq⟩ | ⟨request, heq, _⟩ :=
        @submitRequest_cases w saves
          (controlKey run.id.1 (inputId.map Subtype.val)) principalId fun entry =>
            createRequest entry run principalId inputId
              (inputId.bind fun id => inputs.find? fun input => input.id = id) available uuid
      · rw [heq]
        exact ⟨rfl, rfl⟩
      · rw [heq] at h ⊢
        exact ⟨set_stored h, set_sent⟩
      · rw [heq] at h ⊢
        exact send_fails h
  | answer flight outcome saves =>
      simp only [ControlWindow.step, ControlWindow.answer] at h ⊢
      split at h
      · exact ⟨rfl, rfl⟩
      · exact answerFlight_fails h
  | edit key draft saves =>
      simp only [ControlWindow.step, ControlWindow.edit] at h ⊢
      split_ifs at h ⊢ with hrequest hstatus
      · exact ⟨rfl, rfl⟩
      · exact ⟨set_stored h, set_sent⟩
      · exact ⟨set_stored h, set_sent⟩
  | beginRefresh key saves => exact ⟨set_stored h, set_sent⟩
  | finishRefresh key version succeeded saves =>
      simp only [ControlWindow.step, ControlWindow.finishRefresh] at h ⊢
      by_cases hversion : w.model.refreshVersions.get key ≠ some version
      · rw [if_pos hversion]
        exact ⟨rfl, rfl⟩
      · rw [if_neg hversion] at h ⊢
        exact ⟨set_stored h, set_sent⟩
  | reload reads => exact ⟨rfl, rfl⟩

def ControlMove.isReload : ControlMove → Bool
  | .reload _ => true
  | _ => false

/-- Only a new window is rid of an error. -/
theorem step_recoveryError {move : ControlMove} (hmove : move.isReload = false)
    (h : w.model.recoveryError ≠ none) : (w.step move).model.recoveryError ≠ none := by
  cases move with
  | submit run inputs principalId inputId available uuid saves =>
      have herror : w.model.recoveryError.isSome = true := Option.isSome_iff_ne_none.mpr h
      simpa [ControlWindow.step, ControlWindow.submit, submitRequest, herror] using h
  | answer flight outcome saves =>
      simp only [ControlWindow.step, ControlWindow.answer, answerFlight]
      split
      · exact h
      · split
        · exact set_recoveryError h
        · split
          · exact set_recoveryError h
          · exact set_recoveryError h
  | edit key draft saves =>
      simp only [ControlWindow.step, ControlWindow.edit]
      split_ifs with hrequest hstatus
      · exact h
      · exact set_recoveryError h
      · exact set_recoveryError h
  | beginRefresh key saves => exact set_recoveryError h
  | finishRefresh key version succeeded saves =>
      simp only [ControlWindow.step, ControlWindow.finishRefresh]
      by_cases hversion : w.model.refreshVersions.get key ≠ some version
      · rwa [if_pos hversion]
      · rw [if_neg hversion]
        exact set_recoveryError h
  | reload reads => cases hmove

theorem run_closed (moves : List ControlMove) (hmoves : ∀ move ∈ moves, move.isReload = false)
    (h : w.model.recoveryError ≠ none) :
    (w.run moves).stored = w.stored ∧ (w.run moves).sent = w.sent := by
  induction moves generalizing w with
  | nil => exact ⟨rfl, rfl⟩
  | cons move rest ih =>
      have herror := step_recoveryError (hmoves move (.head _)) h
      obtain ⟨hstored, hsent⟩ := step_fails move herror
      obtain ⟨hstored', hsent'⟩ := ih (fun m hm => hmoves m (.tail _ hm)) herror
      exact ⟨hstored'.trans hstored, hsent'.trans hsent⟩

/-! ## Recovery -/

/-- A new window has the pending requests, as unknown, and the acknowledged ones. -/
def RestoresAll (w : ControlWindow) : Prop :=
  ∃ m, RunControlsModel.load w.stored true = ⟨m, .empty, none⟩ ∧ ∀ key,
    (∀ entry request, w.model.entries.get key = some entry → entry.request = some request →
      ∃ p, entry.principalId = some p ∧ m.get key = some (unknownEntry request p)) ∧
    (∀ entry known, w.model.entries.get key = some entry → entry.request = none →
      entry.acknowledged = some known →
        m.get key = some (.answered known.request known.principalId known.receipt)) ∧
    (m.get key ≠ none → ∃ entry, w.model.entries.get key = some entry ∧
      (entry.request ≠ none ∨ entry.acknowledged ≠ none))

theorem Inv.restoresAll (h : Inv w) (hnone : w.model.recoveryError = none) : RestoresAll w := by
  obtain ⟨m, hm, hrestored⟩ := h.stored hnone
  refine ⟨m, by simp [RunControlsModel.load, hm], ?_⟩
  intro key
  refine ⟨?_, ?_, ?_⟩
  · intro entry request hget hrequest
    obtain ⟨_, p, hp, _⟩ := (h.entries key entry hget).pending request hrequest
    exact ⟨p, hp, by simp [hrestored, hget, restored, hrequest, hp]⟩
  · intro entry known hget hrequest hknown
    simp [hrestored, hget, restored, hrequest, hknown]
  · intro hfound
    cases hget : w.model.entries.get key with
    | none => simp [hrestored, hget] at hfound
    | some entry =>
        refine ⟨entry, rfl, ?_⟩
        by_contra hneither
        obtain ⟨hrequest, hknown⟩ := not_or.mp hneither
        rw [not_ne_iff] at hrequest hknown
        simp [hrestored, hget, restored, hrequest, hknown] at hfound

structure Recoverable (w : ControlWindow) : Prop where
  /-- What was sent was held by the storage when it was sent, with its principal. -/
  writtenAhead : ∀ x ∈ w.sent, HoldsPending x.stored x.key x.request x.principalId
  restores : w.model.recoveryError = none → RestoresAll w
  /-- A load or a save that fails leaves the text that was last loaded or saved. -/
  failing : ∀ move, (w.step move).model.recoveryError ≠ none →
    (w.step move).stored = w.stored ∧ (w.step move).sent = w.sent
  /-- After that, this window neither sends nor saves. -/
  closed : w.model.recoveryError ≠ none →
    ∀ moves : List ControlMove, (∀ move ∈ moves, move.isReload = false) →
      (w.run moves).stored = w.stored ∧ (w.run moves).sent = w.sent

/-- Run controls are saved before they are sent; while the storage works, it has what the window
knows; and once it does not, the window only keeps what it has. -/
theorem runControls_recoverable (stored : Option StoredText) (reads : Bool)
    (moves : List ControlMove) : Recoverable ((start stored reads).run moves) := by
  have hinv := (start_inv stored reads).run moves
  exact {
    writtenAhead := hinv.sent
    restores := hinv.restoresAll
    failing := step_fails
    closed := fun herror rest hrest => run_closed rest hrest herror }

/-! ## A receipt that cannot be saved -/

def someRun : RunView := ⟨⟨units "r", by decide⟩, .active, ⟨1, by decide⟩⟩

def someRequest : RunControlRequest :=
  .cancel ⟨⟨units "k", by decide⟩, someRun.id, someRun.revision⟩

/-- The request is saved; its receipt is not. -/
def unsavedReceipt : List ControlMove :=
  [ .submit someRun [] (units "h") none true ⟨units "k", by decide⟩ true,
    .answer 0 (.response (some (.object [(units "result", someRequest.receipt.toJson)]))) false ]

theorem unsavedReceipt_not_restored :
    ¬ ∀ (stored : Option StoredText) (reads : Bool) (moves : List ControlMove),
      RestoresAll ((start stored reads).run moves) := by
  intro hall
  have hknown : ((start none true).run unsavedReceipt).model.entries.get someRequest.key =
      some (.answered someRequest (units "h") someRequest.receipt) := by decide +kernel
  have hloaded : (RunControlsModel.load ((start none true).run unsavedReceipt).stored
      true).entries.get someRequest.key = some (unknownEntry someRequest (units "h")) := by
    decide +kernel
  obtain ⟨m, hm, hkeys⟩ := hall none true unsavedReceipt
  rw [hm, (hkeys someRequest.key).2.1 _ _ hknown rfl rfl] at hloaded
  cases hloaded

end Torsor.Web.Controls
