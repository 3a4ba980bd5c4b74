import Torsor.Web.RunTimeline

/-! # Windows that span a range

A window of a Run shows a range of its activities and tells whether there are any before it. The
merges of the client put such windows together without a gap.
-/

namespace Torsor.Web

open Torsor.Library Torsor.Kernel

/-! ## Windows that span a range -/

/-- The window shows the range, and tells whether there are activities before it. It is a full
page at least, unless it starts with the first activity. -/
structure Spans (window : ActivityWindow) (log : List RunActivityEventView) (after upTo : Nat) :
    Prop where
  eq : window = windowOf (activityRange log after upTo) (decide (0 < after))
  filled : after = 0 ∨ after + 100 ≤ upTo
  stored : upTo ≤ log.length

section Spans

variable {runId : String} {log log' : List RunActivityEventView} {window window' : ActivityWindow}
  {shown incoming run : RunProjection} {activity previous : ActivityWindow}
  {after upTo after' upTo' last : Nat}

namespace Spans

theorem items (h : Spans window log after upTo) : window.items = activityRange log after upTo := by
  rw [h.eq]
  rfl

theorem hasEarlier (h : Spans window log after upTo) :
    window.hasEarlier = decide (0 < after) := by
  rw [h.eq]
  rfl

theorem le (h : Spans window log after upTo) : after ≤ upTo := by
  have hfilled := h.filled
  omega

theorem earliest (h : Spans window log after upTo) (hlog : ActivityNumbered runId log) :
    window.earliestSequence = if after < upTo then some (after + 1) else none := by
  rw [h.eq]
  exact windowOf_earliest hlog h.stored

theorem latest (h : Spans window log after upTo) (hlog : ActivityNumbered runId log) :
    window.latestSequence.getD 0 = upTo := by
  rw [h.eq]
  by_cases hlt : after < upTo
  · rw [windowOf_latest hlog hlt h.stored]
    rfl
  · have hfilled := h.filled
    have hnone : upTo = 0 := by omega
    have hempty : activityRange log after upTo = [] :=
      numberedRange_empty (Nat.le_of_not_lt hlt)
    rw [hempty, hnone]
    rfl

/-- A window spans one range only. -/
theorem unique (h : Spans window log after upTo) (h' : Spans window log after' upTo')
    (hlog : ActivityNumbered runId log) : after = after' := by
  have hupTo : upTo = upTo' := (h.latest hlog).symm.trans (h'.latest hlog)
  have hearliest := (h.earliest hlog).symm.trans (h'.earliest hlog)
  have hfilled := h.filled
  have hfilled' := h'.filled
  by_cases hlt : after < upTo
  · by_cases hlt' : after' < upTo'
    · simpa [hlt, hlt'] using hearliest
    · simp [hlt, hlt'] at hearliest
  · omega

theorem latestWindow (log : List RunActivityEventView) :
    Spans (latestWindow log 100) log (log.length - 100) log.length where
  eq := by
    rw [Kernel.latestWindow]
    congr 1
    exact decide_eq_decide.mpr (by omega)
  filled := by omega
  stored := Nat.le_refl _

theorem grown (h : Spans window log after upTo) (hlog : ActivityNumbered runId log)
    (hlog' : ActivityNumbered runId log') (hgrown : log <+: log') :
    Spans window log' after upTo where
  eq := by
    rw [h.eq, activityRange, hlog.numbers.range_grown hlog'.numbers hgrown h.stored]
  filled := h.filled
  stored := Nat.le_trans h.stored hgrown.length_le

/-- A window is merged with what begins within it or right after it. -/
theorem merge (h : Spans window log after upTo) (hlog : ActivityNumbered runId log)
    (hle : after ≤ after') (hjoin : after' ≤ upTo) (hupTo' : upTo' ≤ log.length) {flag : Bool}
    (hflag : after = upTo → flag = false) :
    mergeActivity runId [window, windowOf (activityRange log after' upTo') flag] =
      .ok (windowOf (activityRange log after (max upTo upTo')) (decide (0 < after))) := by
  have hfilled := h.filled
  rw [h.eq]
  by_cases hlt : after < upTo
  · exact mergeActivity_join hlog hlt h.stored hle hjoin hupTo'
  · have hzero : after = 0 ∧ upTo = 0 ∧ after' = 0 := by omega
    obtain ⟨rfl, rfl, rfl⟩ := hzero
    have hempty : activityRange log 0 0 = [] := numberedRange_empty (Nat.le_refl 0)
    have hlast : mergeActivity runId
        ([windowOf [] (decide (0 < 0))] ++ [windowOf (activityRange log 0 upTo') flag]) =
          .ok (windowOf (activityRange log 0 upTo') (decide (0 < upTo') && flag)) :=
      mergeActivity_last hlog hupTo' fun w hw => ⟨_, List.mem_singleton.mp hw⟩
    rw [hflag rfl, Bool.and_false] at hlast
    rw [hempty, hflag rfl, Nat.zero_max]
    exact hlast

/-- The window that a merge with what begins within a window makes. -/
theorem joined (h : Spans window log after upTo) (hupTo' : upTo' ≤ log.length) :
    Spans (windowOf (activityRange log after (max upTo upTo')) (decide (0 < after))) log after
      (max upTo upTo') where
  eq := rfl
  filled := by
    have hfilled := h.filled
    omega
  stored := max_le h.stored hupTo'

end Spans

/-! ## Merging Runs -/

theorem mergeRunTimeline_none (hmerge : mergeActivity incoming.run.id [incoming.activity] =
    .ok activity) : mergeRunTimeline none incoming = .ok { incoming with activity } := by
  simp only [mergeRunTimeline, Option.filter_none, Option.toList_none, List.map_nil,
    List.nil_append, hmerge, Option.getD_none]
  rfl

/-- A Run is merged with what is shown of it: the later revision is kept. -/
theorem mergeRunTimeline_some (hid : shown.run.id = incoming.run.id)
    (hmerge : mergeActivity incoming.run.id [shown.activity, incoming.activity] = .ok activity) :
    ∃ merged, mergeRunTimeline (some shown) incoming = .ok merged ∧
      merged.run.id = incoming.run.id ∧ shown.run.revision ≤ merged.run.revision ∧
      merged.activity = activity := by
  have hsame : (some shown).filter (fun current => current.run.id = incoming.run.id) =
      some shown := by
    simp [hid]
  simp only [mergeRunTimeline, hsame, Option.toList_some, List.map_cons, List.map_nil,
    List.singleton_append, hmerge]
  by_cases hlater : incoming.run.revision < shown.run.revision
  · have hkept : (some shown).filter
        (fun previous => incoming.run.revision < previous.run.revision) = some shown := by
      simp [hlater]
    rw [hkept]
    exact ⟨_, rfl, hid, Nat.le_refl _, rfl⟩
  · have hnone : (some shown).filter
        (fun previous => incoming.run.revision < previous.run.revision) = none := by
      simpa using hlater
    rw [hnone]
    exact ⟨_, rfl, rfl, Nat.le_of_not_lt hlater, rfl⟩

/-- What is read anew is merged with what is shown. -/
theorem Spans.mergeRun (hshown : Spans shown.activity log after upTo)
    (hincoming : Spans incoming.activity log after' upTo') (hlog : ActivityNumbered runId log)
    (hid : shown.run.id = runId) (hid' : incoming.run.id = runId) (hle : after ≤ after')
    (hjoin : after' ≤ upTo) :
    ∃ merged, mergeRunTimeline (some shown) incoming = .ok merged ∧ merged.run.id = runId ∧
      shown.run.revision ≤ merged.run.revision ∧
      Spans merged.activity log after (max upTo upTo') := by
  have hmerge : mergeActivity runId [shown.activity,
      windowOf (activityRange log after' upTo') (decide (0 < after'))] = _ :=
    hshown.merge hlog hle hjoin hincoming.stored fun hempty => by
      have hfilled := hshown.filled
      exact decide_eq_false (by omega)
  rw [← hincoming.eq, ← hid'] at hmerge
  obtain ⟨merged, hmerged, hrun, hrevision, hactivity⟩ :=
    mergeRunTimeline_some (hid.trans hid'.symm) hmerge
  refine ⟨merged, hmerged, hrun.trans hid', hrevision, ?_⟩
  rw [hactivity]
  exact hshown.joined hincoming.stored

/-- A single window is merged into itself. -/
theorem Spans.single (h : Spans window log after upTo) (hlog : ActivityNumbered runId log)
    {windows : List ActivityWindow} (hempty : ∀ w ∈ windows, ∃ flag, w = windowOf [] flag) :
    mergeActivity runId (windows ++ [window]) = .ok window := by
  have hfilled := h.filled
  rw [h.eq, mergeActivity_last hlog h.stored hempty]
  have hflag : (decide (after < upTo) && decide (0 < after)) = decide (0 < after) := by
    by_cases hzero : 0 < after
    · have hlt : after < upTo := by omega
      simp [hlt]
    · simp [hzero]
  rw [hflag]

/-- The first read of a Run shows its latest activities. -/
theorem withHistory_first (hlog : ActivityNumbered runId log) (hid : run.run.id = runId)
    (hrun : Spans run.activity log after upTo) :
    withHistory runId none [] run none = .ok run := by
  have hfirst : mergeActivity runId ([windowOf [] false] ++ [run.activity]) = .ok run.activity :=
    hrun.single hlog fun w hw => ⟨_, List.mem_singleton.mp hw⟩
  have hsecond : mergeActivity runId ([] ++ [run.activity]) = .ok run.activity :=
    hrun.single hlog fun w hw => absurd hw List.not_mem_nil
  rw [← hid] at hsecond
  have hmerged := mergeRunTimeline_none hsecond
  rw [List.singleton_append] at hfirst
  simp only [withHistory, historyWindow, Option.elim_none, hfirst]
  exact hmerged

/-- The gap and the latest window make up a range that joins what is shown. -/
theorem mergeActivity_gap (hlog : ActivityNumbered runId log)
    (hrun : Spans run.activity log (last - 100) last)
    (hprevious : Spans previous log after' upTo) (hshown : Spans shown.activity log after upTo)
    (hle : after ≤ after') (hlast : upTo ≤ last) :
    ∃ start flag, mergeActivity runId [windowOf (activityRange log upTo (last - 100))
        previous.hasEarlier, run.activity] = .ok (windowOf (activityRange log start last) flag) ∧
      after ≤ start ∧ start ≤ upTo ∧ (after = upTo → flag = false) := by
  have hfilled := hshown.filled
  have hfilled' := hprevious.filled
  have hstored := hrun.stored
  by_cases hgap : upTo < last - 100
  · have hjoin : mergeActivity runId
        [windowOf (activityRange log upTo (last - 100)) previous.hasEarlier,
          windowOf (activityRange log (last - 100) last) (decide (0 < last - 100))] = _ :=
      mergeActivity_join hlog hgap (by omega) (Nat.le_of_lt hgap) (Nat.le_refl _) hstored
    rw [← hrun.eq, max_eq_right (Nat.sub_le last 100)] at hjoin
    refine ⟨upTo, _, hjoin, hshown.le, Nat.le_refl _, fun hempty => ?_⟩
    rw [hprevious.hasEarlier]
    exact decide_eq_false (by omega)
  · have hempty : activityRange log upTo (last - 100) = [] :=
      numberedRange_empty (Nat.le_of_not_lt hgap)
    have hsingle : mergeActivity runId ([windowOf [] previous.hasEarlier] ++ [run.activity]) =
        .ok run.activity := hrun.single hlog fun w hw => ⟨_, List.mem_singleton.mp hw⟩
    rw [hrun.eq] at hsingle
    rw [hempty, hrun.eq]
    refine ⟨last - 100, _, hsingle, by omega, Nat.le_of_not_lt hgap, fun hnone => ?_⟩
    exact decide_eq_false (by omega)

/-- A read that goes on from what was shown makes up the range from there to the latest
activity it has seen. -/
theorem withHistory_resumed (hlog : ActivityNumbered runId log) (hid : run.run.id = runId)
    (hid' : shown.run.id = runId) (hrun : Spans run.activity log (last - 100) last)
    (hprevious : Spans previous log after' upTo) (hshown : Spans shown.activity log after upTo)
    (hle : after ≤ after') (hlast : upTo ≤ last) :
    ∃ merged, withHistory runId (some previous) (activityRange log upTo (last - 100)) run
        (some shown) = .ok merged ∧ merged.run.id = runId ∧
      shown.run.revision ≤ merged.run.revision ∧ Spans merged.activity log after last := by
  obtain ⟨start, flag, hgap, hstart, hjoin, hflag⟩ :=
    mergeActivity_gap hlog hrun hprevious hshown hle hlast
  have hmerge := hshown.merge hlog hstart hjoin hrun.stored hflag
  rw [← hid] at hmerge
  obtain ⟨merged, hmerged, hof, hrevision, hactivity⟩ :=
    @mergeRunTimeline_some shown
      { run with activity := windowOf (activityRange log start last) flag } _
      (hid'.trans hid.symm) hmerge
  refine ⟨merged, ?_, hof.trans hid, hrevision, ?_⟩
  · simp only [withHistory, historyWindow, Option.elim_some, hgap]
    exact hmerged
  · rw [hactivity]
    have hspans := hshown.joined hrun.stored
    rwa [max_eq_right hlast] at hspans ⊢

end Spans

/-! ## Earlier activities -/

/-- Earlier activities are shown beside what was shown. -/
structure Extends (log : List RunActivityEventView) (window window' : ActivityWindow) : Prop where
  latest : window'.latestSequence.getD 0 = window.latestSequence.getD 0
  spans : ∀ after upTo, Spans window log after upTo →
    ∃ after', Spans window' log after' upTo ∧ after' ≤ after

section Earlier

variable {runId : String} {log log' : List RunActivityEventView} {window : ActivityWindow}
  {history : HistoryRead} {current run : RunProjection} {upTo : Nat}

theorem pageBefore_grown {before : Nat} (hlog : ActivityNumbered runId log)
    (hlog' : ActivityNumbered runId log') (hgrown : log <+: log')
    (hbefore : before - 1 ≤ log.length) :
    pageBefore log' 100 before = pageBefore log 100 before := by
  have hlength := hgrown.length_le
  have hlast : min (before - 1) log'.length = min (before - 1) log.length := by omega
  simp only [pageBefore, hlast]
  rw [activityRange, ← hlog.numbers.range_grown hlog'.numbers hgrown (by omega)]

/-- The page before a window and the window make up a window that starts a page earlier. -/
theorem mergeActivity_earlier (hlog : ActivityNumbered runId log) {before : Nat}
    (hbefore : 1 < before) (hspans : Spans window log (before - 1) upTo) :
    ∃ merged, mergeActivity runId [historyWindow (pageBefore log 100 before), window] =
        .ok merged ∧
      Extends log window { merged with hasEarlier := (pageBefore log 100 before).hasMore } := by
  have hle := hspans.le
  have hstored := hspans.stored
  have hlast : min (before - 1) log.length = before - 1 := by omega
  have hjoin : mergeActivity runId
      [windowOf (activityRange log (before - 1 - 100) (before - 1)) (decide (100 < before - 1)),
        windowOf (activityRange log (before - 1) upTo) (decide (0 < before - 1))] = _ :=
    mergeActivity_join hlog (by omega) (by omega) (by omega) (Nat.le_refl _) hstored
  rw [← hspans.eq, max_eq_right hle] at hjoin
  have hearlier : Spans (windowOf (activityRange log (before - 1 - 100) upTo)
      (decide (100 < before - 1))) log (before - 1 - 100) upTo := by
    refine ⟨?_, by omega, hstored⟩
    congr 1
    exact decide_eq_decide.mpr (by omega)
  have hpage : historyWindow (pageBefore log 100 before) =
      windowOf (activityRange log (before - 1 - 100) (before - 1)) (decide (100 < before - 1)) := by
    simp only [historyWindow, pageBefore, hlast]
  have hflag : (pageBefore log 100 before).hasMore = decide (100 < before - 1) := by
    simp only [pageBefore, hlast]
  rw [hpage]
  refine ⟨_, hjoin, ?_⟩
  rw [hflag]
  refine ⟨(hearlier.latest hlog).trans (hspans.latest hlog).symm, fun after last hother => ?_⟩
  have hsame := hother.unique hspans hlog
  have hupTo : last = upTo := (hother.latest hlog).symm.trans (hspans.latest hlog)
  rw [hupTo]
  exact ⟨_, hearlier, by omega⟩

theorem withEarlier_ok (hlog : ActivityNumbered history.runId log) (hbefore : 1 < history.before)
    (hspans : Spans current.activity log (history.before - 1) upTo)
    (hvalid : validateActivityPage (pageBefore log 100 history.before) history.runId
      history.before none = .ok ()) :
    ∃ run, withEarlier history (pageBefore log 100 history.before) current = .ok run ∧
      run.run = current.run ∧ Extends log current.activity run.activity := by
  obtain ⟨merged, hmerged, hextends⟩ := mergeActivity_earlier hlog hbefore hspans
  refine ⟨{ current with activity :=
    { merged with hasEarlier := (pageBefore log 100 history.before).hasMore } }, ?_, rfl, hextends⟩
  simp only [withEarlier, hvalid, hmerged]
  rfl

theorem withEarlier_eq_ok (hlog : ActivityNumbered history.runId log)
    (hbefore : 1 < history.before)
    (hspans : Spans current.activity log (history.before - 1) upTo)
    (h : withEarlier history (pageBefore log 100 history.before) current = .ok run) :
    run.run = current.run ∧ Extends log current.activity run.activity := by
  cases hvalid : validateActivityPage (pageBefore log 100 history.before) history.runId
      history.before none with
  | error message =>
      simp only [withEarlier, hvalid] at h
      cases h
  | ok u =>
      obtain ⟨run', hok, hrun, hextends⟩ := withEarlier_ok hlog hbefore hspans hvalid
      rw [hok] at h
      cases h
      exact ⟨hrun, hextends⟩

end Earlier

end Torsor.Web
