import Torsor.Web.RunControlMoves

/-! # Run controls are saved before they are sent, and recovered -/

namespace Torsor.Web.Controls
open Torsor.Library

/-! ## What is written is read back -/

theorem identifierOf_string (i : Identifier) : identifierOf (some (.string i.1)) = some i := by
  simp [identifierOf, textOf, JsonValue.text, i.2]

theorem revisionOf_number (r : Revision) : revisionOf (some (.number (r.1 : Rat))) = some r := by
  have hbounds := r.2
  have hvalid : (r.1 : Rat).den = 1 ∧ 1 ≤ (r.1 : Rat).num ∧
      (r.1 : Rat).num ≤ 9007199254740991 := by
    simp only [Rat.den_natCast, Rat.num_natCast, true_and]
    omega
  simp only [revisionOf, numberOf, Option.bind_some, hvalid, and_self, dif_pos, Option.some.injEq]
  apply Subtype.ext
  simp

theorem requireRequest_toJson (r : RunControlRequest) : requireRequest (some r.toJson) = some r := by
  cases r with
  | cancel common =>
      simp [requireRequest, RunControlRequest.toJson, ControlTarget.fields, member,
        identifierOf_string, revisionOf_number, textOf, JsonValue.text]
  | withdraw common runInputId revision =>
      simp [requireRequest, RunControlRequest.toJson, ControlTarget.fields, member,
        identifierOf_string, revisionOf_number, textOf, JsonValue.text]

theorem requireControlReceipt_toJson (r : RunControlRequest) :
    requireControlReceipt (some (.object [(units "result", r.receipt.toJson)])) r =
      some r.receipt := by
  cases r with
  | cancel common =>
      simp [requireControlReceipt, RunControlRequest.receipt, RunControlReceipt.toJson, member,
        textOf, JsonValue.text, numberOf, ControlCommand.text]
  | withdraw common runInputId revision =>
      simp [requireControlReceipt, RunControlRequest.receipt, RunControlReceipt.toJson, member,
        textOf, JsonValue.text, numberOf, ControlCommand.text]

theorem requireControlReceipt_eq {value : Option Json} {r : RunControlRequest}
    {receipt : RunControlReceipt} (h : requireControlReceipt value r = some receipt) :
    receipt = r.receipt := by
  cases r with
  | cancel common =>
      simp only [requireControlReceipt, Option.ite_none_right_eq_some, Option.some.injEq] at h
      exact h.2.symm
  | withdraw common runInputId revision =>
      simp only [requireControlReceipt, Option.ite_none_right_eq_some, Option.some.injEq] at h
      exact h.2.symm

/-! ## Entries and what is restored of them -/

/-- Requests lie under their own key, with the principal that sent them. -/
structure SoundEntry (key : JsString) (entry : RunControlEntry) : Prop where
  pending : ∀ request, entry.request = some request →
    request.key = key ∧ ∃ p, entry.principalId = some p ∧ p ≠ []
  acknowledged : ∀ known, entry.acknowledged = some known →
    known.request.key = key ∧ known.principalId ≠ [] ∧ known.receipt = known.request.receipt

/-- What a new window knows of an entry. -/
def restored (entry : RunControlEntry) : Option RunControlEntry :=
  match entry.request, entry.principalId with
  | some request, some principalId => some (unknownEntry request principalId)
  | some _, none => none
  | none, _ =>
      entry.acknowledged.map fun known => .answered known.request known.principalId known.receipt

theorem SoundEntry.empty (key : JsString) : SoundEntry key emptyRunCommand :=
  ⟨by rintro _ ⟨⟩, by rintro _ ⟨⟩⟩

theorem savedItem_pending {key p : JsString} {entry : RunControlEntry}
    {request : RunControlRequest} (hrequest : entry.request = some request)
    (hprincipal : entry.principalId = some p) :
    savedItem key entry = some (.object [(units "key", .string key),
      (units "request", request.toJson), (units "principalId", .string p)]) := by
  simp [savedItem, hrequest, hprincipal]

theorem savedItem_known {key : JsString} {entry : RunControlEntry}
    {known : Acknowledged RunControlRequest RunControlReceipt} (hrequest : entry.request = none)
    (hknown : entry.acknowledged = some known) :
    savedItem key entry = some (.object [(units "key", .string key),
      (units "request", known.request.toJson), (units "principalId", .string known.principalId),
      (units "receipt", known.receipt.toJson)]) := by
  simp [savedItem, hrequest, hknown]

theorem savedItem_restored {key : JsString} {entry : RunControlEntry}
    (h : SoundEntry key entry) :
    (savedItem key entry = none ∧ restored entry = none) ∨
      ∃ value e, savedItem key entry = some value ∧ restored entry = some e ∧
        ∀ entries : ControlEntries, entries.get key = none →
          readItem entries value = some (entries.set key e) := by
  cases hrequest : entry.request with
  | some request =>
      obtain ⟨rfl, p, hprincipal, hp⟩ := h.pending request hrequest
      refine .inr ⟨_, unknownEntry request p, savedItem_pending hrequest hprincipal, ?_, ?_⟩
      · simp [restored, hrequest, hprincipal]
      · intro entries hfree
        simp [readItem, identifierOf_string ⟨p, hp⟩, requireRequest_toJson, textOf,
          JsonValue.text, hfree]
  | none =>
      cases hknown : entry.acknowledged with
      | none =>
          exact .inl ⟨by simp [savedItem, hrequest, hknown], by simp [restored, hrequest, hknown]⟩
      | some known =>
          obtain ⟨rfl, hp, hreceipt⟩ := h.acknowledged known hknown
          refine .inr ⟨_, .answered known.request known.principalId known.receipt,
            savedItem_known hrequest hknown, by simp [restored, hrequest, hknown], ?_⟩
          intro entries hfree
          simp [readItem, identifierOf_string ⟨known.principalId, hp⟩, requireRequest_toJson,
            textOf, JsonValue.text, hfree, hreceipt, requireControlReceipt_toJson]

/-- A new window that reads the storage knows of the entries what can be restored of them. -/
def Restores (stored : Option StoredText) (entries : ControlEntries) : Prop :=
  ∃ m, recovered stored = some m ∧ ∀ key, m.get key = (entries.get key).bind restored

theorem foldlM_readItem (l : List (JsString × RunControlEntry)) (entries : ControlEntries)
    (hsound : ∀ p ∈ l, SoundEntry p.1 p.2) (hnodup : (l.map Prod.fst).Nodup)
    (hfree : ∀ p ∈ l, entries.get p.1 = none) :
    ∃ m, (l.filterMap fun (key, entry) => savedItem key entry).foldlM readItem entries = some m ∧
      m.entries = entries.entries ++ l.filterMap fun p => (restored p.2).map fun e => (p.1, e) := by
  induction l generalizing entries with
  | nil => exact ⟨entries, rfl, by simp⟩
  | cons p rest ih =>
      have hrest : ∀ q ∈ rest, SoundEntry q.1 q.2 := fun q hq => hsound q (.tail _ hq)
      rw [List.map_cons, List.nodup_cons] at hnodup
      obtain ⟨hsaved, hnone⟩ | ⟨value, e, hsaved, hsome, hread⟩ :=
        savedItem_restored (hsound p (.head _))
      · obtain ⟨m, hm, hentries⟩ :=
          ih entries hrest hnodup.2 fun q hq => hfree q (.tail _ hq)
        exact ⟨m, by simpa [hsaved] using hm, by simpa [hnone] using hentries⟩
      · have hfree' : ∀ q ∈ rest, (entries.set p.1 e).get q.1 = none := by
          intro q hq
          rw [EntryMap.get_set_of_ne]
          · exact hfree q (.tail _ hq)
          · rintro heq
            exact hnodup.1 (heq ▸ List.mem_map_of_mem hq)
        obtain ⟨m, hm, hentries⟩ := ih (entries.set p.1 e) hrest hnodup.2 hfree'
        refine ⟨m, ?_, ?_⟩
        · simpa [hsaved, hread entries (hfree p (.head _))] using hm
        · rw [hentries, EntryMap.set_entries (hfree p (.head _))]
          simp [hsome]

/-- What is saved is restored. -/
theorem saved_restores {entries : ControlEntries}
    (h : ∀ key entry, entries.get key = some entry → SoundEntry key entry) :
    Restores (some (.json (saved entries))) entries := by
  obtain ⟨m, hm, hentries⟩ := foldlM_readItem entries.entries .empty
    (fun p hp => h p.1 p.2 (EntryMap.mem_entries.mp hp)) entries.keys_nodup (fun _ _ => rfl)
  refine ⟨m, hm, ?_⟩
  intro key
  apply Option.ext
  intro e
  rw [← EntryMap.mem_entries, hentries, Option.bind_eq_some_iff]
  simp only [EntryMap.empty, List.nil_append, List.mem_filterMap, Option.map_eq_some_iff,
    Prod.mk.injEq]
  constructor
  · rintro ⟨⟨_, entry⟩, hmem, _, hrestored, rfl, rfl⟩
    exact ⟨entry, EntryMap.mem_entries.mp hmem, hrestored⟩
  · rintro ⟨entry, hget, hrestored⟩
    exact ⟨(key, entry), EntryMap.mem_entries.mpr hget, e, hrestored, rfl, rfl⟩

/-- Entries as a new window has them. -/
def Fresh (entries : ControlEntries) : Prop :=
  ∀ key entry, entries.get key = some entry → SoundEntry key entry ∧ restored entry = some entry

theorem Fresh.set {entries : ControlEntries} (h : Fresh entries) {key : JsString}
    {entry : RunControlEntry} (hsound : SoundEntry key entry)
    (hrestored : restored entry = some entry) : Fresh (entries.set key entry) := by
  intro key' entry' hget
  by_cases hkey : key' = key
  · subst hkey
    rw [EntryMap.get_set_self] at hget
    cases hget
    exact ⟨hsound, hrestored⟩
  · rw [EntryMap.get_set_of_ne hkey] at hget
    exact h key' entry' hget

theorem Fresh.readItem {entries entries' : ControlEntries} (h : Fresh entries) {value : Json}
    (hread : readItem entries value = some entries') : Fresh entries' := by
  simp only [Controls.readItem, Option.bind_eq_bind, Option.bind_eq_some_iff,
    Option.ite_none_right_eq_some] at hread
  obtain ⟨principalId, _, request, _, _, hread⟩ := hread
  split at hread
  · cases hread
    refine h.set ⟨?_, by rintro _ ⟨⟩⟩ rfl
    rintro _ ⟨⟩
    exact ⟨rfl, _, rfl, principalId.2⟩
  · simp only [Option.bind_eq_some_iff] at hread
    obtain ⟨receipt, hreceipt, hread⟩ := hread
    cases hread
    refine h.set ⟨by rintro _ ⟨⟩, ?_⟩ rfl
    rintro _ ⟨⟩
    exact ⟨rfl, principalId.2, requireControlReceipt_eq hreceipt⟩

theorem Fresh.foldlM {values : List Json} {entries entries' : ControlEntries} (h : Fresh entries)
    (hread : values.foldlM Controls.readItem entries = some entries') : Fresh entries' := by
  induction values generalizing entries with
  | nil =>
      cases hread
      exact h
  | cons value rest ih =>
      rw [List.foldlM_cons, Option.bind_eq_bind, Option.bind_eq_some_iff] at hread
      obtain ⟨next, hnext, hrest⟩ := hread
      exact ih (h.readItem hnext) hrest

theorem Fresh.empty : Fresh .empty := by
  rintro key entry ⟨⟩

theorem Fresh.recovered {stored : Option StoredText} {entries : ControlEntries}
    (h : recovered stored = some entries) : Fresh entries := by
  unfold Controls.recovered readRecovery at h
  split at h
  · cases h
    exact .empty
  · split at h
    · exact Fresh.empty.foldlM h
    · cases h

theorem recovered_restores {stored : Option StoredText} {entries : ControlEntries}
    (h : recovered stored = some entries) : Restores stored entries := by
  refine ⟨entries, h, ?_⟩
  intro key
  cases hget : entries.get key with
  | none => rfl
  | some entry => exact (Fresh.recovered h key entry hget).2.symm

end Torsor.Web.Controls
