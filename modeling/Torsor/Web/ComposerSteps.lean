import Torsor.Web.ReadSteps

/-! # Settling a refresh of the Run composer

Its halves are shown together, or each for itself where the other one has been superseded; a
half that is shown also puts its item in a list. That list is a projection of its own, which
may have been read later.
-/

namespace Torsor.Web

open Torsor.Library Torsor.Kernel

namespace WebView

/-- The half is shown when its composer settles. -/
def showsHalf (s : WebView) (n m : Nat) (read other : ProjectionRead) : Bool :=
  s.isCurrent n read && read.state = .fetched true &&
    (!s.isCurrent m other || other.state = .fetched true)

/-- The item a half puts in a list was read no earlier than what it replaces. -/
def patchesOlder (server : ServerState) (read : ProjectionRead) (s : WebView) : Bool :=
  match s.patch server read (read.readAt.getD 0) with
  | some (key, item) =>
      (s.shown key).all fun shown =>
        shown.items.all fun old =>
          old.id = item.id ∧ old.revision ≤ item.revision → old.readAt ≤ item.readAt
  | none => true

def settling (s : WebView) (c : Nat) : Option (ComposerRefresh × ProjectionRead × ProjectionRead) :=
  do
    let composer ← s.composers[c]?
    let run ← s.reads[composer.run]?
    let thread ← s.reads[composer.thread]?
    some (composer, run, thread)

variable {s s' : WebView} {server : ServerState} {key : ProjectionKey} {time n m : Nat}
variable {read other : ProjectionRead}

/-! ## What a half changes -/

theorem setReadState_eq (n : Nat) (state : ReadState) (s : WebView) :
    ∃ f, s.setReadState n state = { s with reads := s.reads.modify n f } :=
  ⟨_, rfl⟩

theorem replaced_eq (n : Nat) (read : ProjectionRead) (s : WebView) :
    ∃ f, s.replaced n read = { s with reads := s.reads.modify n f } := by
  unfold replaced
  split
  · split
    · split <;> exact setReadState_eq ..
    · exact setReadState_eq ..
  · exact setReadState_eq ..

theorem patch_cases {item : ShownItem} (hown : s.SelectsOwn)
    (h : s.patch server read time = some (key, item)) :
    (∃ runId, read.key = .run runId ∧ key = .runs) ∨
      (∃ threadId channelId, read.key = .thread threadId ∧ key = .threads channelId) := by
  unfold patch at h
  split at h
  · rename_i runId hkey
    cases h
    exact .inl ⟨runId, hkey, rfl⟩
  · rename_i threadId hkey
    simp only [Option.map_eq_some_iff, Prod.mk.injEq] at h
    obtain ⟨key', hselected, rfl, -⟩ := h
    have hfamily := hown.own _ _ hselected
    refine .inr ⟨threadId, ?_⟩
    cases key' with
    | threads channelId => exact ⟨channelId, hkey, rfl⟩
    | thread _ => cases hfamily
    | run _ => cases hfamily
    | runs => cases hfamily
    | attentionAgents => cases hfamily
    | bootstrap => cases hfamily
  · cases h

theorem applyHalf_eq (hown : s.SelectsOwn) (server : ServerState) (n : Nat)
    (read : ProjectionRead) (time : Nat) :
    ∃ f shown, s.applyHalf server n read time =
        { s with reads := s.reads.modify n f, shown } ∧
      ∀ runId channelId, read.key = .run runId →
        shown (.threads channelId) = s.shown (.threads channelId) := by
  have hbase : ∃ f shown, (if read.kind.isBeside then s.setReadState n (.settled true)
        else s.applyRead server n read time) = { s with reads := s.reads.modify n f, shown } ∧
      ∀ runId channelId, read.key = .run runId →
        shown (.threads channelId) = s.shown (.threads channelId) := by
    split
    · exact ⟨_, s.shown, rfl, fun _ _ _ => rfl⟩
    · refine ⟨_, _, rfl, ?_⟩
      intro runId channelId hkey
      rw [Function.update_of_ne]
      simp [hkey]
  obtain ⟨f, shown, heq, hshown⟩ := hbase
  unfold applyHalf
  simp only [heq]
  split
  · rename_i key item hpatch
    refine ⟨f, _, rfl, ?_⟩
    intro runId channelId hkey
    rw [Function.update_of_ne, hshown runId channelId hkey]
    rintro rfl
    cases patch_cases hown hpatch with
    | inl hruns =>
        obtain ⟨_, -, hkey'⟩ := hruns
        cases hkey'
    | inr hthreads =>
        obtain ⟨_, _, hkey', -⟩ := hthreads
        rw [hkey] at hkey'
        cases hkey'
  · exact ⟨f, shown, rfl, hshown⟩

theorem settleHalf_eq (hown : s.SelectsOwn) (server : ServerState) (n : Nat)
    (read : ProjectionRead) (ok preservePair : Bool) (time : Nat) :
    ∃ f shown, s.settleHalf server n read ok preservePair time =
        { s with reads := s.reads.modify n f, shown } ∧
      ∀ runId channelId, read.key = .run runId →
        shown (.threads channelId) = s.shown (.threads channelId) := by
  unfold settleHalf
  split
  · exact ⟨_, s.shown, rfl, fun _ _ _ => rfl⟩
  · split
    · obtain ⟨f, heq⟩ := replaced_eq n read s
      exact ⟨f, s.shown, heq, fun _ _ _ => rfl⟩
    · split
      · exact ⟨_, s.shown, rfl, fun _ _ _ => rfl⟩
      · exact applyHalf_eq hown server n read time

/-! ## A half settles -/

theorem patchesOlder_of_shown {item : ShownItem} (hpatches : s.patchesOlder server read = true)
    (htime : read.readAt = some time) (hpatch : s.patch server read time = some (key, item))
    {shown : Shown} (hshown : s.shown key = some shown) :
    ∀ old ∈ shown.items, old.id = item.id ∧ old.revision ≤ item.revision →
      old.readAt ≤ item.readAt := by
  unfold patchesOlder at hpatches
  simp only [htime, Option.getD_some, hpatch, hshown, Option.all_some, List.all_eq_true,
    decide_eq_true_eq] at hpatches
  exact hpatches

theorem Reads.applyHalf (h : Reads server s) (hread : s.HasRead n read)
    (hstate : read.state = .fetched true) (hcurrent : s.isCurrent n read = true)
    (htime : read.readAt = some time) (hpatches : s.patchesOlder server read = true) :
    s.Grows (s.applyHalf server n read time) ∧ Reads server (s.applyHalf server n read time) := by
  have hne : read.state ≠ .settled true := by simp [hstate]
  have hbase : s.Grows (if read.kind.isBeside then s.setReadState n (.settled true)
        else s.applyRead server n read time) ∧
      Reads server (if read.kind.isBeside then s.setReadState n (.settled true)
        else s.applyRead server n read time) := by
    split
    · rename_i hkind
      apply h.setReadState hread hne (by simp)
      · simp [hkind]
      · simp
    · rename_i hkind
      exact h.applyRead hread hne (by simpa using hkind) hcurrent htime
  unfold WebView.applyHalf
  simp only
  split
  case h_2 => exact hbase
  case h_1 key item hpatch =>
    have hlists : ∀ key', key' = key →
        (if read.kind.isBeside then s.setReadState n (.settled true)
          else s.applyRead server n read time).shown key' = s.shown key' := by
      rintro key' rfl
      split
      · rfl
      · simp only [WebView.applyRead]
        rw [Function.update_of_ne]
        rintro rfl
        cases patch_cases h.reads.own hpatch with
        | inl hruns =>
            obtain ⟨_, hkey, hkey'⟩ := hruns
            rw [hkey] at hkey'
            cases hkey'
        | inr hthreads =>
            obtain ⟨_, _, hkey, hkey'⟩ := hthreads
            rw [hkey] at hkey'
            cases hkey'
    rw [← hlists key rfl]
    have hrun : ∀ runId, key ≠ .run runId := by
      rintro runId rfl
      cases patch_cases h.reads.own hpatch with
      | inl hruns =>
          obtain ⟨_, -, hkey⟩ := hruns
          cases hkey
      | inr hthreads =>
          obtain ⟨_, _, -, hkey⟩ := hthreads
          cases hkey
    refine ⟨{ hbase.1 with }, hbase.2.reads.patch hrun ?_, { hbase.2.latest with }⟩
    intro shown hshown
    rw [hlists key rfl] at hshown
    exact patchesOlder_of_shown hpatches htime hpatch hshown

theorem Reads.settleHalf (h : Reads server s) (hread : s.HasRead n read) {ok : Bool}
    (hstate : read.state = .fetched ok) (preservePair : Bool)
    (hpatches : s.isCurrent n read = true → ok = true → preservePair = false →
      s.patchesOlder server read = true) :
    s.Grows (s.settleHalf server n read ok preservePair (read.readAt.getD 0)) ∧
      Reads server (s.settleHalf server n read ok preservePair (read.readAt.getD 0)) := by
  have hne : read.state ≠ .settled true := by simp [hstate]
  unfold WebView.settleHalf
  split
  · exact h.settleFalse hread hne
  · split
    · exact h.replaced hread hne
    · rename_i hcurrent
      split
      · exact h.settleFalse hread hne
      · rename_i hshows
        have hok : ok = true := by
          by_contra hnot
          exact hshows (.inl hnot)
        have hpair : preservePair = false := by
          by_contra hnot
          exact hshows (.inr (by simpa using hnot))
        have hcurrent' : s.isCurrent n read = true := by simpa using hcurrent
        subst hok
        have hsome := (h.reads.each n read hread).fetched hstate
        obtain ⟨time, htime⟩ := Option.isSome_iff_exists.mp hsome
        have hpatches' := hpatches hcurrent' rfl hpair
        rw [htime]
        exact h.applyHalf hread hstate hcurrent' htime hpatches'

/-! ## Both halves settle -/

/-- Settling the Run half leaves the Thread half as it was. -/
theorem patchesOlder_frame (hown : s.SelectsOwn) {f : ProjectionRead → ProjectionRead}
    {shown : ProjectionKey → Option Shown} {threadId : String}
    (hkey : read.key = .thread threadId)
    (hshown : ∀ channelId, shown (.threads channelId) = s.shown (.threads channelId)) :
    ({ s with reads := s.reads.modify n f, shown } : WebView).patchesOlder server read =
      s.patchesOlder server read := by
  unfold patchesOlder patch
  simp only [hkey]
  cases hselected : s.selected .threads with
  | none => rfl
  | some key =>
      have hfamily := hown.own _ _ hselected
      cases key with
      | threads channelId => simp only [Option.map_some, hshown channelId]
      | thread _ => cases hfamily
      | run _ => cases hfamily
      | runs => cases hfamily
      | attentionAgents => cases hfamily
      | bootstrap => cases hfamily

theorem HasRead.modify_ne {f : ProjectionRead → ProjectionRead}
    {shown : ProjectionKey → Option Shown} (h : s.HasRead m other) (hne : n ≠ m) :
    ({ s with reads := s.reads.modify n f, shown } : WebView).HasRead m other := by
  simp only [HasRead]
  rw [List.getElem?_modify_ne f _ hne]
  exact h

theorem Reads.settleComposer (h : Reads server s) {composer : ComposerRefresh}
    {run thread : ProjectionRead} {runId threadId : String} {runOk threadOk : Bool}
    (hrun : s.HasRead composer.run run) (hthread : s.HasRead composer.thread thread)
    (hrunKey : run.key = .run runId) (hthreadKey : thread.key = .thread threadId)
    (hrunState : run.state = .fetched runOk) (hthreadState : thread.state = .fetched threadOk)
    (hrunPatches : s.showsHalf composer.run composer.thread run thread = true →
      s.patchesOlder server run = true)
    (hthreadPatches : s.showsHalf composer.thread composer.run thread run = true →
      s.patchesOlder server thread = true) :
    s.Grows (s.settleComposer server composer run thread runOk threadOk (run.readAt.getD 0)
        (thread.readAt.getD 0)) ∧
      Reads server (s.settleComposer server composer run thread runOk threadOk
        (run.readAt.getD 0) (thread.readAt.getD 0)) := by
  have hne : composer.run ≠ composer.thread := by
    intro hsame
    rw [← hsame] at hthread
    have heq : run = thread := Option.some.inj (hrun.symm.trans hthread)
    rw [heq, hthreadKey] at hrunKey
    cases hrunKey
  unfold WebView.settleComposer
  simp only
  split
  case isTrue hboth =>
    obtain ⟨hcurrent, hrunOk, hthreadOk⟩ := hboth
    simp only [Bool.and_eq_true] at hcurrent
    subst hrunOk
    subst hthreadOk
    have hrunSome := (h.reads.each _ run hrun).fetched hrunState
    obtain ⟨runTime, hrunTime⟩ := Option.isSome_iff_exists.mp hrunSome
    have hthreadSome := (h.reads.each _ thread hthread).fetched hthreadState
    obtain ⟨threadTime, hthreadTime⟩ := Option.isSome_iff_exists.mp hthreadSome
    rw [hrunTime, hthreadTime]
    have hfirst := h.applyHalf hrun hrunState hcurrent.1 hrunTime
      (hrunPatches (by simp [showsHalf, hcurrent, hrunState, hthreadState]))
    have hpatches := hthreadPatches (by simp [showsHalf, hcurrent, hrunState, hthreadState])
    obtain ⟨f, shown, heq, hshown⟩ := applyHalf_eq h.reads.own server composer.run run runTime
    simp only [Option.getD_some]
    rw [heq] at hfirst ⊢
    have hsecond := hfirst.2.applyHalf (hthread.modify_ne hne) hthreadState hcurrent.2
      hthreadTime (by
        rw [patchesOlder_frame h.reads.own hthreadKey fun channelId => hshown runId channelId hrunKey]
        exact hpatches)
    exact ⟨hfirst.1.trans hsecond.1, hsecond.2⟩
  case isFalse hboth =>
    have hfirst := h.settleHalf hrun hrunState
      (s.isCurrent composer.run run && s.isCurrent composer.thread thread) (by
        intro hcurrent hok hpair
        apply hrunPatches
        have hother : s.isCurrent composer.thread thread = false := by
          simpa [hcurrent] using hpair
        simp [showsHalf, hcurrent, hrunState, hok, hother])
    obtain ⟨f, shown, heq, hshown⟩ := settleHalf_eq h.reads.own server composer.run run runOk
      (s.isCurrent composer.run run && s.isCurrent composer.thread thread) (run.readAt.getD 0)
    rw [heq] at hfirst ⊢
    have hsecond := hfirst.2.settleHalf (hthread.modify_ne hne) hthreadState
      (s.isCurrent composer.run run && s.isCurrent composer.thread thread) (by
        intro hcurrent hok hpair
        rw [patchesOlder_frame h.reads.own hthreadKey fun channelId => hshown runId channelId hrunKey]
        apply hthreadPatches
        have hcurrent' : s.isCurrent composer.thread thread = true := hcurrent
        have hother : s.isCurrent composer.run run = false := by
          simpa [hcurrent'] using hpair
        simp [showsHalf, hcurrent', hthreadState, hok, hother])
    exact ⟨hfirst.1.trans hsecond.1, hsecond.2⟩

theorem settleComposer_eq (hown : s.SelectsOwn) (server : ServerState)
    (composer : ComposerRefresh) (run thread : ProjectionRead) (runOk threadOk : Bool)
    (runTime threadTime : Nat) :
    ∃ reads shown, s.settleComposer server composer run thread runOk threadOk runTime threadTime =
      { s with reads, shown } := by
  unfold settleComposer
  simp only
  split
  · obtain ⟨f, shown, heq, -⟩ := applyHalf_eq hown server composer.run run runTime
    rw [heq]
    obtain ⟨f', shown', heq', -⟩ := applyHalf_eq (s := { s with
      reads := s.reads.modify composer.run f, shown }) { hown with } server composer.thread thread threadTime
    exact ⟨_, shown', heq'⟩
  · obtain ⟨f, shown, heq, -⟩ := settleHalf_eq hown server composer.run run runOk
      (s.isCurrent composer.run run && s.isCurrent composer.thread thread) runTime
    rw [heq]
    obtain ⟨f', shown', heq', -⟩ := settleHalf_eq (s := { s with
      reads := s.reads.modify composer.run f, shown }) { hown with } server composer.thread thread threadOk
      (s.isCurrent composer.run run && s.isCurrent composer.thread thread) threadTime
    exact ⟨_, shown', heq'⟩

end WebView

end Torsor.Web
