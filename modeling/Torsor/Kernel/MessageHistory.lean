import Mathlib.Data.List.Range
import Torsor.Kernel.MessageMoves

/-! # The history of a Message

The revisions of a Message are numbered from one without a gap, and a tombstone is the last of
them. Every revision has the mentions its command asked for and the Attentions these open.
-/

namespace Torsor.Kernel
open Torsor.Library Tx

/-- The numbers of the revisions of a Message, in the order they were created. -/
def Database.revisionNumbers (db : Database) (messageId : String) : List Nat :=
  (db.revisionFaces.filter fun r => r.messageId = messageId).map (·.revision)

structure MessageInv (db : Database) : Prop where
  numbered : ∀ m ∈ db.messageFaces, db.revisionNumbers m.id = List.range' 1 m.latestRevision
  belongs : ∀ r ∈ db.revisionFaces, ∃ m ∈ db.messageFaces, m.id = r.messageId
  last : ∀ r ∈ db.revisionFaces, r.tombstone = true →
    ∀ m ∈ db.messageFaces, m.id = r.messageId → r.revision = m.latestRevision
  mentioned : ∀ x ∈ db.mentionFaces, ∃ r ∈ db.revisionFaces, r.id = x.messageRevisionId
  opened : ∀ x ∈ db.openings, ∃ r ∈ db.revisionFaces, r.id = x.messageRevisionId

/-! ## Keys -/

section Keys

variable {db db' : Database}

theorem messageFace_of_id {m m' : MessageFace} (hm : m ∈ db.messageFaces)
    (hm' : m' ∈ db.messageFaces) (hid : m'.id = m.id) : m' = m := by
  obtain ⟨r, hr, rfl⟩ := List.mem_map.mp hm
  obtain ⟨r', hr', rfl⟩ := List.mem_map.mp hm'
  have hid : r'.id = r.id := hid
  rw [Table.eq_of_key hr' hr (k := primaryKey [.text r.id]) (by simp [Keyed.keys, hid])
    (by simp [Keyed.keys])]

theorem revisionFace_of_number {r r' : RevisionFace} (hr : r ∈ db.revisionFaces)
    (hr' : r' ∈ db.revisionFaces) (hof : r'.messageId = r.messageId)
    (hnumber : r'.revision = r.revision) : r' = r := by
  obtain ⟨x, hx, rfl⟩ := List.mem_map.mp hr
  obtain ⟨x', hx', rfl⟩ := List.mem_map.mp hr'
  have hof : x'.messageId = x.messageId := hof
  have hnumber : x'.revision = x.revision := hnumber
  rw [Table.eq_of_key hx' hx (k := ⟨1, [.text x.messageId, .integer x.revision]⟩)
    (by simp [Keyed.keys, hof, hnumber]) (by simp [Keyed.keys])]

theorem revisionNumbers_append {revision : RevisionFace}
    (h : db'.revisionFaces = db.revisionFaces ++ [revision]) (messageId : String) :
    db'.revisionNumbers messageId = db.revisionNumbers messageId ++
      if revision.messageId = messageId then [revision.revision] else [] := by
  by_cases hof : revision.messageId = messageId
  · simp [Database.revisionNumbers, h, hof]
  · simp [Database.revisionNumbers, h, hof]

theorem revisionNumbers_eq_nil {messageId : String}
    (h : ∀ r ∈ db.revisionFaces, r.messageId ≠ messageId) :
    db.revisionNumbers messageId = [] := by
  simp only [Database.revisionNumbers, List.map_eq_nil_iff, List.filter_eq_nil_iff,
    decide_eq_true_eq]
  exact h

/-- Revisions of a Message count from one. -/
theorem revisionNumbers_positive (hinv : MessageInv db) {m : MessageFace} {r : RevisionFace}
    (hm : m ∈ db.messageFaces) (hr : r ∈ db.revisionFaces) (hof : r.messageId = m.id) :
    0 < r.revision := by
  have hmem : r.revision ∈ db.revisionNumbers m.id :=
    List.mem_map_of_mem (List.mem_filter.mpr ⟨hr, decide_eq_true hof⟩)
  rw [hinv.numbered m hm, List.mem_range'_1] at hmem
  exact hmem.1

end Keys

/-! ## One move -/

section Moves

variable {db db' : Database} {command : KernelCommand} {message : MessageFace}
  {latest revision : RevisionFace} {revisionId : String} {targets : List String}
  {opens : String → Bool}

/-- Mentions and Attentions still belong to revisions. -/
theorem RevisionAdded.belong (h : RevisionAdded db db' revision targets opens)
    (hinv : MessageInv db) :
    (∀ x ∈ db'.mentionFaces, ∃ r ∈ db'.revisionFaces, r.id = x.messageRevisionId) ∧
      ∀ x ∈ db'.openings, ∃ r ∈ db'.revisionFaces, r.id = x.messageRevisionId := by
  have hkept : ∀ r ∈ db.revisionFaces, r ∈ db'.revisionFaces := by
    intro r hr
    rw [h.revisions]
    exact List.mem_append_left _ hr
  have hnew : revision ∈ db'.revisionFaces := by
    rw [h.revisions]
    exact List.mem_append_right _ (List.mem_singleton_self _)
  constructor
  · intro x hx
    rw [h.mentions] at hx
    obtain hold | hadded := List.mem_append.mp hx
    · obtain ⟨r, hr, hid⟩ := hinv.mentioned x hold
      exact ⟨r, hkept r hr, hid⟩
    · obtain ⟨target, -, rfl⟩ := List.mem_map.mp hadded
      exact ⟨revision, hnew, rfl⟩
  · intro x hx
    rw [h.openings] at hx
    obtain hold | hadded := List.mem_append.mp hx
    · obtain ⟨r, hr, hid⟩ := hinv.opened x hold
      exact ⟨r, hkept r hr, hid⟩
    · obtain ⟨target, -, rfl⟩ := List.mem_map.mp hadded
      exact ⟨revision, hnew, rfl⟩

theorem Publishes.inv (h : Publishes db db' message revisionId targets opens)
    (hinv : MessageInv db) : MessageInv db' := by
  have hfresh : ∀ r ∈ db.revisionFaces, r.messageId ≠ message.id := by
    intro r hr hof
    obtain ⟨m, hm, hid⟩ := hinv.belongs r hr
    exact h.fresh m hm (hid.trans hof)
  obtain ⟨hmentioned, hopened⟩ := h.added.belong hinv
  refine ⟨fun m hm => ?_, fun r hr => ?_, fun r hr htombstone m hm hof => ?_, hmentioned, hopened⟩
  · rw [revisionNumbers_append h.added.revisions]
    rw [h.messages] at hm
    obtain hold | hnew := List.mem_append.mp hm
    · rw [if_neg fun hsame => h.fresh m hold hsame.symm, List.append_nil]
      exact hinv.numbered m hold
    · obtain rfl := List.mem_singleton.mp hnew
      rw [if_pos rfl, revisionNumbers_eq_nil hfresh, h.latest]
      rfl
  · rw [h.added.revisions] at hr
    rw [h.messages]
    obtain hold | hnew := List.mem_append.mp hr
    · obtain ⟨m, hm, hid⟩ := hinv.belongs r hold
      exact ⟨m, List.mem_append_left _ hm, hid⟩
    · obtain rfl := List.mem_singleton.mp hnew
      exact ⟨message, List.mem_append_right _ (List.mem_singleton_self _), rfl⟩
  · rw [h.added.revisions] at hr
    rw [h.messages] at hm
    obtain hold | hnew := List.mem_append.mp hr
    · obtain hm | hm := List.mem_append.mp hm
      · exact hinv.last r hold htombstone m hm hof
      · obtain rfl := List.mem_singleton.mp hm
        exact absurd hof.symm (hfresh r hold)
    · obtain rfl := List.mem_singleton.mp hnew
      cases htombstone

/-- No revision of a Message that can be revised is a tombstone. -/
theorem Revises.none_tombstone (h : Revises db db' message latest revision targets)
    (hinv : MessageInv db) {r : RevisionFace} (hr : r ∈ db.revisionFaces)
    (hof : r.messageId = message.id) : r.tombstone = false := by
  apply Bool.eq_false_iff.mpr
  intro htombstone
  have hlast := hinv.last r hr htombstone message h.message_mem hof.symm
  have hsame : r = latest := revisionFace_of_number h.latest_mem hr
    (hof.trans h.latest_of.symm) (hlast.trans h.latest_eq.symm)
  rw [hsame, h.live] at htombstone
  cases htombstone

theorem Revises.messages_cases (h : Revises db db' message latest revision targets)
    {m : MessageFace} (hm : m ∈ db'.messageFaces) :
    m = { message with latestRevision := message.latestRevision + 1 } ∨
      m ∈ db.messageFaces ∧ m.id ≠ message.id := by
  rw [h.messages] at hm
  obtain ⟨old, hold, rfl⟩ := List.mem_map.mp hm
  by_cases hid : old.id = message.id
  · obtain rfl := messageFace_of_id h.message_mem hold hid
    exact .inl (if_pos rfl)
  · rw [if_neg hid]
    exact .inr ⟨hold, hid⟩

theorem Revises.inv (h : Revises db db' message latest revision targets)
    (hinv : MessageInv db) : MessageInv db' := by
  obtain ⟨hmentioned, hopened⟩ := h.added.belong hinv
  refine ⟨fun m hm => ?_, fun r hr => ?_, fun r hr htombstone m hm hof => ?_, hmentioned, hopened⟩
  · rw [revisionNumbers_append h.added.revisions]
    obtain rfl | ⟨hold, hid⟩ := h.messages_cases hm
    · rw [if_pos h.of, hinv.numbered message h.message_mem, h.next, List.range'_1_concat,
        Nat.add_comm 1]
    · rw [if_neg, List.append_nil]
      · exact hinv.numbered m hold
      · rw [h.of]
        exact fun hsame => hid hsame.symm
  · have hbelongs : ∃ m ∈ db.messageFaces, m.id = r.messageId := by
      rw [h.added.revisions] at hr
      obtain hold | hnew := List.mem_append.mp hr
      · exact hinv.belongs r hold
      · obtain rfl := List.mem_singleton.mp hnew
        exact ⟨message, h.message_mem, h.of.symm⟩
    obtain ⟨m, hm, hid⟩ := hbelongs
    rw [h.messages]
    refine ⟨_, List.mem_map_of_mem hm, ?_⟩
    split <;> exact hid
  · rw [h.added.revisions] at hr
    obtain hold | hnew := List.mem_append.mp hr
    · obtain rfl | ⟨hm, -⟩ := h.messages_cases hm
      · rw [h.none_tombstone hinv hold hof.symm] at htombstone
        cases htombstone
      · exact hinv.last r hold htombstone m hm hof
    · obtain rfl := List.mem_singleton.mp hnew
      obtain rfl | ⟨-, hid⟩ := h.messages_cases hm
      · exact h.next
      · exact absurd (hof.trans h.of) hid

theorem MessageInv.of_same (hinv : MessageInv db) (hmessages : db'.messageFaces = db.messageFaces)
    (hrevisions : db'.revisionFaces = db.revisionFaces)
    (hmentions : db'.mentionFaces = db.mentionFaces) (hopenings : db'.openings = db.openings) :
    MessageInv db' := by
  have hnumbers : ∀ id, db'.revisionNumbers id = db.revisionNumbers id := by
    intro id
    rw [Database.revisionNumbers, hrevisions, Database.revisionNumbers]
  refine ⟨?_, ?_, ?_, ?_, ?_⟩
  · rw [hmessages]
    exact fun m hm => (hnumbers m.id).trans (hinv.numbered m hm)
  · rw [hmessages, hrevisions]
    exact hinv.belongs
  · rw [hmessages, hrevisions]
    exact hinv.last
  · rw [hmentions, hrevisions]
    exact hinv.mentioned
  · rw [hopenings, hrevisions]
    exact hinv.opened

theorem MessageMove.inv (hmove : MessageMove command db db') (hinv : MessageInv db) :
    MessageInv db' := by
  cases hmove with
  | published h => exact h.inv hinv
  | revised _ _ h => exact h.inv hinv
  | quiet hmessages hrevisions hmentions hopenings =>
      exact hinv.of_same hmessages hrevisions hmentions hopenings

end Moves

/-! ## What a revision was created with -/

/-- The Attention of a mention is not opened for the author Agent of an initial revision and
for the owner of the Run a Message is sent to. -/
def Suppressed (command : KernelCommand) (before : Database) (author : Option String)
    (revision : RevisionFace) (target : String) : Prop :=
  (revision.revision = 1 ∧ author = some target) ∨ command.ownerSentTo before = some target

/-- In `db` the revision has the mentions and the Attentions of a command executed in
`before`. -/
structure CreatedBy (command : KernelCommand) (before db : Database) (revision : RevisionFace) :
    Prop where
  mentioned : ∀ target, (⟨revision.id, target⟩ : MentionFace) ∈ db.mentionFaces ↔
    target ∈ command.mentionTargets
  opened : ∃ message ∈ db.messageFaces, message.id = revision.messageId ∧
    ∀ target kind, (⟨revision.id, target, kind⟩ : Opening) ∈ db.openings ↔
      kind = "Mention" ∧ target ∈ command.mentionTargets ∧
        ¬ Suppressed command before message.authorAgentId revision target

section Created

variable {db db' before : Database} {command command' : KernelCommand} {message : MessageFace}
  {latest revision r : RevisionFace} {revisionId : String} {targets : List String}
  {opens : String → Bool}

/-- The mentions and Attentions of the new revision are those that are added with it. -/
theorem RevisionAdded.new (h : RevisionAdded db db' revision targets opens)
    (hinv : MessageInv db) :
    (∀ target, (⟨revision.id, target⟩ : MentionFace) ∈ db'.mentionFaces ↔ target ∈ targets) ∧
      ∀ target kind, (⟨revision.id, target, kind⟩ : Opening) ∈ db'.openings ↔
        kind = "Mention" ∧ target ∈ targets ∧ opens target = true := by
  have hmentions : ∀ target, (⟨revision.id, target⟩ : MentionFace) ∉ db.mentionFaces := by
    intro target hmem
    obtain ⟨r, hr, hid⟩ := hinv.mentioned _ hmem
    exact h.fresh r hr hid
  have hopenings : ∀ target kind,
      (⟨revision.id, target, kind⟩ : Opening) ∉ db.openings := by
    intro target kind hmem
    obtain ⟨r, hr, hid⟩ := hinv.opened _ hmem
    exact h.fresh r hr hid
  constructor
  · intro target
    rw [h.mentions]
    simp [hmentions target]
  · intro target kind
    rw [h.openings]
    simp only [List.mem_append, hopenings target kind, false_or, List.mem_map, List.mem_filter,
      Opening.mk.injEq, true_and]
    constructor
    · intro hadded
      obtain ⟨x, ⟨hx, hopens⟩, rfl, rfl⟩ := hadded
      exact ⟨rfl, hx, hopens⟩
    · intro hadded
      obtain ⟨rfl, hx, hopens⟩ := hadded
      exact ⟨target, ⟨hx, hopens⟩, rfl, rfl⟩

/-- Those of other revisions stay. -/
theorem RevisionAdded.old (h : RevisionAdded db db' revision targets opens)
    (hr : r ∈ db.revisionFaces) :
    (∀ target, (⟨r.id, target⟩ : MentionFace) ∈ db'.mentionFaces ↔
      (⟨r.id, target⟩ : MentionFace) ∈ db.mentionFaces) ∧
      ∀ target kind, (⟨r.id, target, kind⟩ : Opening) ∈ db'.openings ↔
        (⟨r.id, target, kind⟩ : Opening) ∈ db.openings := by
  have hne : revision.id ≠ r.id := fun hsame => h.fresh r hr hsame.symm
  constructor
  · intro target
    rw [h.mentions]
    simp [hne]
  · intro target kind
    rw [h.openings]
    simp [hne]

theorem CreatedBy.of_added (hcreated : CreatedBy command before db r)
    (hr : r ∈ db.revisionFaces) (h : RevisionAdded db db' revision targets opens)
    (hmessages : ∀ m ∈ db.messageFaces, ∃ m' ∈ db'.messageFaces,
      m'.id = m.id ∧ m'.authorAgentId = m.authorAgentId) : CreatedBy command before db' r := by
  obtain ⟨hmentions, hopenings⟩ := h.old hr
  obtain ⟨m, hm, hid, hopened⟩ := hcreated.opened
  obtain ⟨m', hm', hid', hauthor⟩ := hmessages m hm
  refine ⟨fun target => (hmentions target).trans (hcreated.mentioned target), m', hm',
    hid'.trans hid, fun target kind => ?_⟩
  rw [hauthor]
  exact (hopenings target kind).trans (hopened target kind)

/-- A move leaves what older revisions were created with, and a new one was created by it. -/
theorem MessageMove.created (hmove : MessageMove command db db') (hinv : MessageInv db)
    (hr : r ∈ db'.revisionFaces) :
    (r ∈ db.revisionFaces ∧ ∀ command' before, CreatedBy command' before db r →
      CreatedBy command' before db' r) ∨
    (∀ old ∈ db.revisionFaces, old.id ≠ r.id) ∧ CreatedBy command db db' r := by
  cases hmove with
  | @published message revisionId h =>
      rw [h.added.revisions] at hr
      obtain hold | hnew := List.mem_append.mp hr
      · refine .inl ⟨hold, fun _ _ hcreated => hcreated.of_added hold h.added fun m hm => ?_⟩
        rw [h.messages]
        exact ⟨m, List.mem_append_left _ hm, rfl, rfl⟩
      · obtain rfl := List.mem_singleton.mp hnew
        obtain ⟨hmentions, hopenings⟩ := h.added.new hinv
        refine .inr ⟨h.added.fresh, fun target => ?_, message, ?_, rfl, fun target kind => ?_⟩
        · exact (hmentions target).trans mem_unique
        · rw [h.messages]
          exact List.mem_append_right _ (List.mem_singleton_self _)
        · rw [hopenings target kind, mem_unique]
          simp [Suppressed, eq_comm (a := some target)]
  | @revised message latest revision targets htargets hsent h =>
      rw [h.added.revisions] at hr
      obtain hold | hnew := List.mem_append.mp hr
      · refine .inl ⟨hold, fun _ _ hcreated => hcreated.of_added hold h.added fun m hm => ?_⟩
        rw [h.messages]
        refine ⟨_, List.mem_map_of_mem hm, ?_⟩
        split <;> exact ⟨rfl, rfl⟩
      · obtain rfl := List.mem_singleton.mp hnew
        obtain ⟨hmentions, hopenings⟩ := h.added.new hinv
        have hmem : ∀ target, target ∈ targets ↔ target ∈ command.mentionTargets :=
          fun target => htargets.mem_iff.trans mem_unique
        have hpositive : 0 < message.latestRevision := by
          have hlatest := revisionNumbers_positive hinv h.message_mem h.latest_mem h.latest_of
          rw [← h.latest_eq]
          exact hlatest
        have hlater : r.revision ≠ 1 := by
          rw [h.next]
          omega
        refine .inr ⟨h.added.fresh, fun target => (hmentions target).trans (hmem target),
          { message with latestRevision := message.latestRevision + 1 }, ?_, h.of.symm,
          fun target kind => ?_⟩
        · rw [h.messages]
          refine List.mem_map.mpr ⟨message, h.message_mem, if_pos rfl⟩
        · rw [hopenings target kind, hmem]
          simp [Suppressed, hlater, hsent]
  | quiet hmessages hrevisions hmentions hopenings =>
      rw [hrevisions] at hr
      refine .inl ⟨hr, fun _ _ hcreated => ⟨?_, ?_⟩⟩
      · rw [hmentions]
        exact hcreated.mentioned
      · rw [hmessages, hopenings]
        exact hcreated.opened

end Created

/-! ## Every reachable state -/

section Runs

variable {kernel : KernelContext} {w w' w₀ : World}

theorem messageInv_opened (h : Opened kernel w) : MessageInv w.db := by
  have hframe : Frame [.messages, .messageRevisions, .mentions, .attentions] World.blank w :=
    h.frame
  have hsame : SameMessages World.blank w :=
    ConcernsTables.of_tables World.blank w hframe.tables hframe.clockReadings hframe.issuedIds
      hframe.randomDraws
  obtain ⟨hmessages, hrevisions, hmentions, hopenings⟩ := hsame
  refine MessageInv.of_same ?_ hmessages hrevisions hmentions hopenings
  refine ⟨?_, ?_, ?_, ?_, ?_⟩ <;> exact fun x hx => nomatch hx

theorem MessageInv.step (hinv : MessageInv w.db) (call : KernelCall) :
    MessageInv (step kernel call w).db := by
  obtain hsame | ⟨issued, -, hmove⟩ := step_messages kernel call w
  · exact hinv.of_same hsame.messages hsame.revisions hsame.mentions hsame.openings
  · exact hmove.inv hinv

theorem messageInv_steps (hinv : MessageInv w.db) (hs : Steps kernel w w') :
    MessageInv w'.db :=
  hs.invariant (P := fun w => MessageInv w.db) hinv fun _ call ih => ih.step call

theorem MessageMove.revisions_kept {db db' : Database} {command : KernelCommand}
    (hmove : MessageMove command db db') {r : RevisionFace} (hr : r ∈ db.revisionFaces) :
    r ∈ db'.revisionFaces := by
  cases hmove with
  | published h =>
      rw [h.added.revisions]
      exact List.mem_append_left _ hr
  | revised _ _ h =>
      rw [h.added.revisions]
      exact List.mem_append_left _ hr
  | quiet _ hrevisions _ _ => rwa [hrevisions]

theorem revisionFaces_kept (hs : Steps kernel w w') {r : RevisionFace}
    (hr : r ∈ w.db.revisionFaces) : r ∈ w'.db.revisionFaces := by
  refine hs.invariant (P := fun w => r ∈ w.db.revisionFaces) hr fun w₁ call ih => ?_
  obtain hsame | ⟨issued, -, hmove⟩ := step_messages kernel call w₁
  · rw [hsame.revisions]
    exact ih
  · exact hmove.revisions_kept ih

/-- The revision was added by a call of the run, and it has what that call asked for. -/
def RevisionRecorded (kernel : KernelContext) (w₀ w : World) (r : RevisionFace) : Prop :=
  ∃ w₁ call issued, Steps kernel w₀ w₁ ∧ call.issued = some issued ∧
    Steps kernel (step kernel call w₁) w ∧ (∀ old ∈ w₁.db.revisionFaces, old.id ≠ r.id) ∧
    r ∈ (step kernel call w₁).db.revisionFaces ∧ CreatedBy issued.command w₁.db w.db r

/-- A call after which a revision is there added it, or left it as it was created. -/
theorem revision_created (hinv : MessageInv w.db) (call : KernelCall) {r : RevisionFace}
    (hr : r ∈ (step kernel call w).db.revisionFaces) :
    (r ∈ w.db.revisionFaces ∧ ∀ command before, CreatedBy command before w.db r →
      CreatedBy command before (step kernel call w).db r) ∨
    ∃ issued, call.issued = some issued ∧ (∀ old ∈ w.db.revisionFaces, old.id ≠ r.id) ∧
      CreatedBy issued.command w.db (step kernel call w).db r := by
  obtain hsame | ⟨issued, hissued, hmove⟩ := step_messages kernel call w
  · rw [hsame.revisions] at hr
    refine .inl ⟨hr, fun command before hcreated => ⟨?_, ?_⟩⟩
    · rw [hsame.mentions]
      exact hcreated.mentioned
    · rw [hsame.messages, hsame.openings]
      exact hcreated.opened
  · obtain hold | ⟨hnew, hcreated⟩ := hmove.created hinv hr
    · exact .inl hold
    · exact .inr ⟨issued, hissued, hnew, hcreated⟩

theorem revisions_recorded (hopen : Opened kernel w₀) (hs : Steps kernel w₀ w) :
    ∀ r ∈ w.db.revisionFaces, RevisionRecorded kernel w₀ w r := by
  induction hs with
  | refl =>
      intro r hr
      have hframe : Frame [.messageRevisions] World.blank w₀ := hopen.frame
      have htable : w₀.db.table MessageRevision = Table.empty := by
        simp only [Database.table, hframe.tables .messageRevisions (by decide)]
        rfl
      rw [Database.revisionFaces, htable] at hr
      cases hr
  | @tail w₁ _ hrun hcall ih =>
      obtain ⟨call, rfl⟩ := hcall
      intro r hr
      have hinv := messageInv_steps (messageInv_opened hopen) hrun
      obtain ⟨hold, hkept⟩ | ⟨issued, hissued, hnew, hcreated⟩ := revision_created hinv call hr
      · obtain ⟨w₂, before, issued, hbefore, hissued, hafter, hnew, hadded, hcreated⟩ := ih r hold
        exact ⟨w₂, before, issued, hbefore, hissued, hafter.tail ⟨call, rfl⟩, hnew, hadded,
          hkept _ _ hcreated⟩
      · exact ⟨w₁, call, issued, hrun, hissued, .refl, hnew, hr, hcreated⟩

/-- No revision follows a tombstone. -/
theorem tombstone_last (hinv : MessageInv w.db) (hs : Steps kernel w w') {r r' : RevisionFace}
    (hr : r ∈ w.db.revisionFaces) (htombstone : r.tombstone = true)
    (hr' : r' ∈ w'.db.revisionFaces) (hof : r'.messageId = r.messageId) :
    r'.revision ≤ r.revision ∧ r' ∈ w.db.revisionFaces := by
  have hinv' := messageInv_steps hinv hs
  obtain ⟨m', hm', hid'⟩ := hinv'.belongs r' hr'
  have hlast := hinv'.last r (revisionFaces_kept hs hr) htombstone m' hm' (hid'.trans hof)
  have hmem : r'.revision ∈ w'.db.revisionNumbers m'.id :=
    List.mem_map_of_mem (List.mem_filter.mpr ⟨hr', decide_eq_true hid'.symm⟩)
  rw [hinv'.numbered m' hm', List.mem_range'_1] at hmem
  have hle : r'.revision ≤ r.revision := by omega
  -- the Message had a revision with this number before, and it is this one
  obtain ⟨m, hm, hid⟩ := hinv.belongs r hr
  have hlatest := hinv.last r hr htombstone m hm hid
  have hnumber : r'.revision ∈ w.db.revisionNumbers m.id := by
    rw [hinv.numbered m hm, List.mem_range'_1]
    omega
  obtain ⟨old, hold, hsame⟩ := List.mem_map.mp hnumber
  obtain ⟨hold, holdOf⟩ := List.mem_filter.mp hold
  have holdOf : old.messageId = m.id := of_decide_eq_true holdOf
  have heq : r' = old := revisionFace_of_number (revisionFaces_kept hs hold) hr'
    (hof.trans (hid.symm.trans holdOf.symm)) hsame.symm
  rw [heq]
  exact ⟨heq ▸ hle, hold⟩

/-- The revision history of the Messages in a state `w` reached from the opening `w₀`. -/
structure WellFormedHistory (kernel : KernelContext) (w₀ w : World) : Prop where
  /-- Each Message has one revision for each number up to its latest revision. -/
  numbered : ∀ message ∈ w.db.table Message,
    ((w.db.table MessageRevision).filter fun r => r.messageId = message.id).map (·.revision) =
      List.range' 1 message.latestRevision
  /-- Only the last one can be a tombstone. -/
  last : ∀ r ∈ w.db.table MessageRevision, r.tombstone = true →
    ∀ message ∈ w.db.table Message, message.id = r.messageId → r.revision = message.latestRevision
  /-- Once tombstoned the Message never gets another revision. -/
  final : ∀ r ∈ w.db.table MessageRevision, r.tombstone = true → ∀ w', Steps kernel w w' →
    ∀ r' ∈ w'.db.table MessageRevision, r'.messageId = r.messageId →
      r'.revision ≤ r.revision ∧ r'.face ∈ w.db.revisionFaces
  /-- The mentions and Attentions of a revision are those its command asked for. -/
  recorded : ∀ r ∈ w.db.table MessageRevision, RevisionRecorded kernel w₀ w r.face
  /-- There are no others. -/
  mentioned : ∀ mention ∈ w.db.table Mention, ∃ r ∈ w.db.table MessageRevision,
    r.id = mention.messageRevisionId
  opened : ∀ attention ∈ w.db.table Attention, ∃ r ∈ w.db.table MessageRevision,
    r.id = attention.messageRevisionId
  /-- A target is mentioned once in a revision. -/
  mentionedOnce : ∀ a ∈ w.db.table Mention, ∀ b ∈ w.db.table Mention, a.face = b.face → a = b
  /-- A target has one Attention for a revision and a trigger. -/
  openedOnce : ∀ a ∈ w.db.table Attention, ∀ b ∈ w.db.table Attention,
    a.opening = b.opening → a = b

theorem message_history_wellFormed (hopen : Opened kernel w₀) (hs : Steps kernel w₀ w) :
    WellFormedHistory kernel w₀ w := by
  have hinv := messageInv_steps (messageInv_opened hopen) hs
  refine ⟨fun message hmessage => ?_, fun r hr htombstone message hmessage hof => ?_,
    fun r hr htombstone w' hafter r' hr' hof => ?_, fun r hr => ?_, fun mention hmention => ?_,
    fun attention hattention => ?_, fun a ha b hb hsame => ?_, fun a ha b hb hsame => ?_⟩
  · have hnumbers := hinv.numbered message.face (List.mem_map_of_mem hmessage)
    simp only [Database.revisionNumbers, Database.revisionFaces, List.filter_map,
      List.map_map] at hnumbers
    exact hnumbers
  · exact hinv.last r.face (List.mem_map_of_mem hr) htombstone message.face
      (List.mem_map_of_mem hmessage) hof
  · exact tombstone_last hinv hafter (List.mem_map_of_mem hr) htombstone
      (List.mem_map_of_mem hr') hof
  · exact revisions_recorded hopen hs r.face (List.mem_map_of_mem hr)
  · obtain ⟨x, hx, hid⟩ := hinv.mentioned mention.face (List.mem_map_of_mem hmention)
    obtain ⟨r, hr, rfl⟩ := List.mem_map.mp hx
    exact ⟨r, hr, hid⟩
  · obtain ⟨x, hx, hid⟩ := hinv.opened attention.opening (List.mem_map_of_mem hattention)
    obtain ⟨r, hr, rfl⟩ := List.mem_map.mp hx
    exact ⟨r, hr, hid⟩
  · simp only [Mention.face, MentionFace.mk.injEq] at hsame
    exact Table.eq_of_key ha hb (k := ⟨1, [.text a.messageRevisionId, .text a.targetAgentId]⟩)
      (by simp [Keyed.keys]) (by simp [Keyed.keys, hsame])
  · simp only [Attention.opening, Opening.mk.injEq] at hsame
    exact Table.eq_of_key ha hb
      (k := ⟨2, [.text a.messageRevisionId, .text a.targetAgentId, .text a.triggerKind]⟩)
      (by simp [Keyed.keys]) (by simp [Keyed.keys, hsame])

end Runs

/-! ### A Message that is edited and deleted -/

/-- The Human mentions the Agent again. -/
def editCall : KernelCall :=
  .execute
    (.EditMessage
      { idempotencyKey := "edit"
        messageId := issuedId 1
        expectedMessageRevision := 1
        body := "Hello again"
        targetAgentIds := some ["alice", "alice"] })
    { principalId := "human" } none

def deleteCall : KernelCall :=
  .execute
    (.DeleteMessage
      { idempotencyKey := "delete"
        messageId := issuedId 1
        expectedMessageRevision := 2 })
    { principalId := "human" } none

def editedWorld : World := step countingKernel editCall threadWorld

def deletedWorld : World := step countingKernel deleteCall editedWorld

theorem deletedWorld_steps : Steps countingKernel smallWorld deletedWorld := by
  have hthread : Step countingKernel smallWorld threadWorld := ⟨threadCall, rfl⟩
  have hedit : Step countingKernel threadWorld editedWorld := ⟨editCall, rfl⟩
  have hdelete : Step countingKernel editedWorld deletedWorld := ⟨deleteCall, rfl⟩
  exact ((Relation.ReflTransGen.single hthread).tail hedit).tail hdelete

theorem smallWorld_isOpened : Opened countingKernel smallWorld := by
  refine ⟨⟨4, 10⟩, smallBootstrap, ?_⟩
  rfl

theorem deletedWorld_history : WellFormedHistory countingKernel smallWorld deletedWorld :=
  message_history_wellFormed smallWorld_isOpened deletedWorld_steps

example : (deletedWorld.db.table MessageRevision).rows.map (fun r => (r.revision, r.tombstone)) =
    [(1, false), (2, false), (3, true)] := by decide +kernel

end Torsor.Kernel
