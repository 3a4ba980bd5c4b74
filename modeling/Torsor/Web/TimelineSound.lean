import Torsor.Web.TimelineReads

/-! # A timeline without gaps

In every order of commands, requests and responses, the window of the selected Run shows a range
of its activities without a gap, which never shrinks while the Run stays selected.
-/

namespace Torsor.Web

open Torsor.Library Torsor.Kernel

/-! ## Reads of earlier activities -/

namespace TimelineView

section Histories

variable {kernel : KernelContext} {s s' : TimelineView} {history : HistoryRead}
  {run : RunProjection} {stage : HistoryStage} {n : Nat}

theorem Inv.loadEarlier (h : s.Inv kernel) (hload : s.loadEarlierRunActivity = some s') :
    s'.Inv kernel := by
  obtain ⟨run, hrun, hload⟩ := Option.bind_eq_some_iff.mp hload
  split at hload
  · rename_i hearlier
    obtain ⟨before, hbefore, rfl⟩ := Option.map_eq_some_iff.mp hload
    obtain ⟨hrunId, after, upTo, hspans⟩ := h.shown run hrun
    rw [Bool.and_eq_true, hspans.hasEarlier, decide_eq_true_eq, Bool.not_eq_true'] at hearlier
    obtain ⟨hafter, hidle⟩ := hearlier
    have hlt : after < upTo := by
      have hfilled := hspans.filled
      omega
    rw [hspans.earliest (h.numbered _), if_pos hlt] at hbefore
    cases hbefore
    have hnone : ∀ history ∈ s.histories, s.Holds history → history.stage = .settled := by
      intro history hhistory hholds
      by_contra hopen
      rw [(h.awaits history hhistory hholds hopen).loading] at hidle
      cases hidle
    refine ⟨h.reachable, h.shown, h.issued, h.distinct, h.fits, fun history hhistory => ?_,
      fun history hhistory hholds hopen => ?_, ?_⟩
    · cases List.mem_append.mp hhistory with
      | inl hold => exact h.asked history hold
      | inr hnew =>
          rw [List.mem_singleton.mp hnew]
          exact ⟨Nat.le_refl _, Nat.le_refl _, fun _ => hrunId⟩
    · cases List.mem_append.mp hhistory with
      | inl hold => exact absurd (hnone history hold hholds) hopen
      | inr hnew =>
          rw [List.mem_singleton.mp hnew]
          exact ⟨rfl, Nat.succ_lt_succ hafter, ⟨run, upTo, hrun, hspans⟩,
            fun page hpage => by cases hpage⟩
    · intro n m history other hhistory hother hheld hheld' hopen hopen'
      obtain hold | ⟨rfl, -⟩ := getElem?_concat_cases hhistory
      · exact absurd (hnone history (List.mem_of_getElem? hold) hheld) hopen
      · obtain hold | ⟨rfl, -⟩ := getElem?_concat_cases hother
        · exact absurd (hnone other (List.mem_of_getElem? hold) hheld') hopen'
        · rfl
  · cases hload

/-- The server answers the request for earlier activities. -/
theorem Inv.answerHistory (h : s.Inv kernel) (hhistory : s.histories[n]? = some history)
    (hstage : history.stage = .requested) {page : ActivityPage}
    (hanswer : answerActivity s.world.db (activityPath history.runId history.before none) =
      .ok page) : (s.setHistoryStage n (.answered page)).Inv kernel := by
  have hpage := (answerActivity_eq_ok (h.numbered history.runId) hanswer).2
  refine ⟨h.reachable, h.shown, h.issued, h.distinct, h.fits, fun x hx => ?_,
    fun x hx hholds hopen => ?_, fun i j x y hx hy hheld hheld' hopen hopen' => ?_⟩
  · obtain hold | ⟨y, hy, rfl⟩ := mem_modify hx
    · exact h.asked x hold
    · exact h.asked y (List.mem_of_getElem? hy)
  · obtain hold | ⟨y, hy, rfl⟩ := mem_modify hx
    · obtain ⟨hloading, hbefore, hshown, hsame⟩ := h.awaits x hold hholds hopen
      exact ⟨hloading, hbefore, hshown, hsame⟩
    · rw [hhistory] at hy
      cases hy
      have hlive : history.stage ≠ .settled := by simp [hstage]
      obtain ⟨hloading, hbefore, hshown, -⟩ :=
        h.awaits history (List.mem_of_getElem? hhistory) hholds hlive
      refine ⟨hloading, hbefore, hshown, fun p hp => ?_⟩
      cases hp
      exact hpage
  · have hlive : ∀ (k : Nat) (z : HistoryRead), (s.histories.modify n fun history =>
        { history with stage := .answered page })[k]? = some z → z.stage ≠ .settled →
          ∃ x, s.histories[k]? = some x ∧ x.stage ≠ .settled ∧ (s.Holds z → s.Holds x) := by
      intro k z hz hzopen
      obtain ⟨rfl, x, hx, rfl⟩ | ⟨-, hx⟩ := getElem?_modify_cases hz
      · rw [hhistory] at hx
        cases hx
        exact ⟨history, hhistory, by simp [hstage], fun hheld => hheld⟩
      · exact ⟨z, hx, hzopen, fun hheld => hheld⟩
    obtain ⟨x', hx', hxopen, hxholds⟩ := hlive i x hx hopen
    obtain ⟨y', hy', hyopen, hyholds⟩ := hlive j y hy hopen'
    exact h.single i j x' y' hx' hy' (hxholds hheld) (hyholds hheld') hxopen hyopen

/-- A read of earlier activities ends that is not the current one. -/
theorem Inv.dropHistory (h : s.Inv kernel) (n : Nat) :
    (s.setHistoryStage n .settled).Inv kernel := by
  refine ⟨h.reachable, h.shown, h.issued, h.distinct, h.fits, fun x hx => ?_,
    fun x hx hholds hopen => ?_, fun i j x y hx hy hheld hheld' hopen hopen' => ?_⟩
  · obtain hold | ⟨y, hy, rfl⟩ := mem_modify hx
    · exact h.asked x hold
    · exact h.asked y (List.mem_of_getElem? hy)
  · obtain hold | ⟨y, hy, rfl⟩ := mem_modify hx
    · obtain ⟨hloading, hbefore, hshown, hsame⟩ := h.awaits x hold hholds hopen
      exact ⟨hloading, hbefore, hshown, hsame⟩
    · exact absurd rfl hopen
  · obtain ⟨-, x', -, rfl⟩ | ⟨-, hx'⟩ := getElem?_modify_cases hx
    · exact absurd rfl hopen
    · obtain ⟨-, y', -, rfl⟩ | ⟨-, hy'⟩ := getElem?_modify_cases hy
      · exact absurd rfl hopen'
      · exact h.single i j x y hx' hy' hheld hheld' hopen hopen'

/-- The current read of earlier activities ends: what is shown is as it was, or earlier
activities beside it. -/
theorem Inv.endHistory (h : s.Inv kernel) (hhistory : s.histories[n]? = some history)
    (hholds : s.Holds history) (hlive : history.stage ≠ .settled) {old : RunProjection}
    (hold : s.run = some old) (hrun : run.run = old.run)
    (hextends : Extends (s.log old.run.id) old.activity run.activity) :
    ({ s with run := some run, loadingRunHistory := false }.setHistoryStage n .settled).Inv
      kernel := by
  obtain ⟨hrunId, after, upTo, hspans⟩ := h.shown old hold
  obtain ⟨after', hspans', -⟩ := hextends.spans after upTo hspans
  have hothers : ∀ (k : Nat) (x : HistoryRead), (s.histories.modify n fun history =>
      { history with stage := .settled })[k]? = some x → s.Holds x → x.stage = .settled := by
    intro k x hx hheld
    obtain ⟨-, y, -, rfl⟩ | ⟨hne, hx⟩ := getElem?_modify_cases hx
    · rfl
    · by_contra hopen
      exact hne (h.single k n x history hx hhistory hheld hholds hopen hlive)
  refine ⟨h.reachable, ?_, h.issued, h.distinct, fun read hread hnewest => ?_, fun x hx => ?_,
    fun x hx hheld hopen => ?_, fun i j x y hx hy hheld hheld' hopen hopen' => ?_⟩
  · rintro _ ⟨⟩
    rw [hrun]
    exact ⟨hrunId, after', upTo, hspans'⟩
  · have hfits := h.fits read hread hnewest
    have hid := (h.shown_of_newest hread hnewest hold).1
    rw [hold, Option.map_some] at hfits
    rw [hid] at hextends
    exact hfits.extended hextends
  · obtain hold | ⟨y, hy, rfl⟩ := mem_modify hx
    · exact h.asked x hold
    · exact h.asked y (List.mem_of_getElem? hy)
  · obtain ⟨k, hk⟩ := List.mem_iff_getElem?.mp hx
    exact absurd (hothers k x hk hheld) hopen
  · exact absurd (hothers i x hx hheld) hopen

end Histories

end TimelineView

/-! ## Steps -/

namespace TimelineView

/-- While the Run stays selected, no activity that is shown goes away, and the revision that is
shown does not fall. -/
structure Keeps (s s' : TimelineView) : Prop where
  session : s.sessionGeneration ≤ s'.sessionGeneration
  selection : s.runSelectionGeneration ≤ s'.runSelectionGeneration
  run : s'.sessionGeneration = s.sessionGeneration →
    s'.runSelectionGeneration = s.runSelectionGeneration → ∀ run, s.run = some run →
      ∃ run', s'.run = some run' ∧ run'.run.id = run.run.id ∧
        run.run.revision ≤ run'.run.revision ∧
          ∀ a ∈ run.activity.items, a ∈ run'.activity.items

section Keeps

variable {kernel : KernelContext} {s s' s'' : TimelineView} {read : TimelineRead}
  {history : HistoryRead} {run : RunProjection} {n : Nat}

theorem Keeps.trans (h : s.Keeps s') (h' : s'.Keeps s'') : s.Keeps s'' where
  session := h.session.trans h'.session
  selection := h.selection.trans h'.selection
  run hsession hselection run hrun := by
    have hsession' := h.session
    have hsession'' := h'.session
    have hselection' := h.selection
    have hselection'' := h'.selection
    obtain ⟨run', hrun', hid, hrevision, hitems⟩ := h.run (by omega) (by omega) run hrun
    obtain ⟨run'', hrun'', hid', hrevision', hitems'⟩ :=
      h'.run (by omega) (by omega) run' hrun'
    exact ⟨run'', hrun'', hid'.trans hid, hrevision.trans hrevision',
      fun a ha => hitems' a (hitems a ha)⟩

/-- What is shown stays as it is. -/
theorem Keeps.of_shown (hsession : s'.sessionGeneration = s.sessionGeneration)
    (hselection : s'.runSelectionGeneration = s.runSelectionGeneration) (hrun : s'.run = s.run) :
    s.Keeps s' where
  session := Nat.le_of_eq hsession.symm
  selection := Nat.le_of_eq hselection.symm
  run _ _ run hsome := ⟨run, hrun.trans hsome, rfl, Nat.le_refl _, fun _ ha => ha⟩

/-- The selection is left. -/
theorem Keeps.of_left (hsession : s.sessionGeneration ≤ s'.sessionGeneration)
    (hselection : s.runSelectionGeneration ≤ s'.runSelectionGeneration)
    (hleft : s.sessionGeneration < s'.sessionGeneration ∨
      s.runSelectionGeneration < s'.runSelectionGeneration) : s.Keeps s' where
  session := hsession
  selection := hselection
  run hsame hsame' := by omega

theorem Keeps.loadRun (s : TimelineView) (runId : String) : s.Keeps (s.loadRun runId) := by
  unfold TimelineView.loadRun
  split
  · exact .of_shown rfl rfl rfl
  · exact .of_left (Nat.le_refl _) (Nat.le_succ _) (.inr (Nat.lt_succ_self _))

/-- More is shown of the Run. -/
theorem Keeps.of_run {old : RunProjection} (hold : s.run = some old)
    (hsession : s'.sessionGeneration = s.sessionGeneration)
    (hselection : s'.runSelectionGeneration = s.runSelectionGeneration)
    (hrun : s'.run = some run) (hid : run.run.id = old.run.id)
    (hrevision : old.run.revision ≤ run.run.revision)
    (hitems : ∀ a ∈ old.activity.items, a ∈ run.activity.items) : s.Keeps s' where
  session := Nat.le_of_eq hsession.symm
  selection := Nat.le_of_eq hselection.symm
  run _ _ x hx := by
    rw [hold] at hx
    cases hx
    exact ⟨run, hrun, hid, hrevision, hitems⟩

theorem Inv.settle (h : s.Inv kernel) (hread : s.reads[n]? = some read) {shows : Bool}
    (hsettle : s.settle n shows read = some s') : s'.Inv kernel ∧ s.Keeps s' := by
  have hover : (s.setStage n .settled).Inv kernel ∧ s.Keeps (s.setStage n .settled) :=
    ⟨h.setStage hread fun _ => .settled, .of_shown rfl rfl rfl⟩
  have hmem := List.mem_of_getElem? hread
  unfold TimelineView.settle at hsettle
  split at hsettle
  · rename_i run hstage
    split at hsettle
    · rename_i hshows
      have hcurrent := (Bool.and_eq_true _ _ ▸ hshows).1
      have hnewest := (h.isCurrent_iff hmem).mp hcurrent
      obtain ⟨shown, hmerged, hid, hspans, hkeeps⟩ := h.merges hmem hnewest hstage
      rw [hmerged] at hsettle
      cases hsettle
      refine ⟨h.show hread hnewest hid hspans fun old hold after upTo hother => ?_, ?_⟩
      · obtain ⟨upTo', hspans', -⟩ := (hkeeps old hold).2 after upTo hother
        exact ⟨upTo', hspans'⟩
      · cases hold : s.run with
        | none =>
            refine ⟨Nat.le_refl _, Nat.le_refl _, fun _ _ old hsome => ?_⟩
            rw [hold] at hsome
            cases hsome
        | some old =>
            obtain ⟨hsame, after, upTo, hother⟩ := h.shown_of_newest hmem hnewest hold
            obtain ⟨hrevision, hgrows⟩ := hkeeps old hold
            obtain ⟨upTo', hspans', hle⟩ := hgrows after upTo hother
            refine .of_run hold rfl rfl rfl (hid.trans hsame.symm) hrevision fun a ha => ?_
            rw [hother.items, mem_numberedRange] at ha
            rw [hspans'.items, mem_numberedRange]
            exact ⟨ha.1, ha.2.1, ha.2.2.trans hle⟩
    · cases hsettle
      exact hover
  · cases hsettle
    exact hover
  · cases hsettle

theorem Inv.settleHistory (h : s.Inv kernel) (hhistory : s.histories[n]? = some history)
    (hlive : history.stage ≠ .settled) (page : Option ActivityPage)
    (hpage : ∀ p ∈ page, history.stage = .answered p) :
    (s.settleHistory n history page).Inv kernel ∧ s.Keeps (s.settleHistory n history page) := by
  unfold TimelineView.settleHistory
  by_cases hcurrent : s.isCurrentHistory history = true
  · have hmem := List.mem_of_getElem? hhistory
    have hholds : s.Holds history := by
      simp only [isCurrentHistory, Bool.and_eq_true, decide_eq_true_eq] at hcurrent
      exact ⟨hcurrent.1.1.2.symm, hcurrent.1.2.symm⟩
    obtain ⟨-, hbefore, ⟨old, upTo, hold, hspans⟩, hanswered⟩ := h.awaits history hmem hholds hlive
    have hid : old.run.id = history.runId := by
      have hsame := (h.shown old hold).1.symm.trans ((h.asked history hmem).2.2 hholds)
      exact Option.some.inj hsame
    -- What is shown is as it was.
    have hsame : ({ s with loadingRunHistory := false }.setHistoryStage n .settled).Inv kernel ∧
        s.Keeps ({ s with loadingRunHistory := false }.setHistoryStage n .settled) := by
      refine ⟨?_, .of_shown rfl rfl rfl⟩
      have hend := h.endHistory hhistory hholds hlive hold rfl
        ⟨rfl, fun after upTo hspans => ⟨after, hspans, Nat.le_refl _⟩⟩
      rwa [← hold] at hend
    rw [if_pos hcurrent]
    cases page with
    | none => exact hsame
    | some page =>
        rw [Option.elim_some, TimelineView.showEarlier, hold, Option.map_some,
          hanswered page (hpage page rfl)]
        split
        · rename_i run hok
          obtain ⟨hrun, hextends⟩ :=
            withEarlier_eq_ok (h.numbered _) hbefore hspans (Option.some.inj hok)
          obtain ⟨after', hspans', hle⟩ := hextends.spans _ _ hspans
          rw [← hid] at hextends
          refine ⟨h.endHistory hhistory hholds hlive hold hrun hextends, ?_⟩
          refine .of_run hold rfl rfl rfl (by rw [hrun]) (by rw [hrun]) fun a ha => ?_
          rw [hspans.items, mem_numberedRange] at ha
          rw [hspans'.items, mem_numberedRange]
          exact ⟨ha.1, lt_of_le_of_lt hle ha.2.1, ha.2.2⟩
        · rw [← hold]
          exact hsame
  · rw [if_neg hcurrent]
    exact ⟨h.dropHistory n, .of_shown rfl rfl rfl⟩

/-- Every event keeps the timeline sound, and what is shown while the Run stays selected. -/
theorem Inv.handle (h : s.Inv kernel) (e : TimelineEvent) (hstep : s.handle kernel e = some s') :
    s'.Inv kernel ∧ s.Keeps s' := by
  cases e with
  | execute call =>
      cases hstep
      exact ⟨h.execute call, .of_shown rfl rfl rfl⟩
  | loadRun runId =>
      cases hstep
      exact ⟨h.loadRun runId, .loadRun s runId⟩
  | refreshRunComposer runId =>
      simp only [TimelineView.handle, TimelineView.refreshRunComposer] at hstep
      split at hstep
      · rename_i hselected
        cases hstep
        have hrunId : s.runId = some runId := by simp_all
        exact ⟨h.issue true hrunId, .of_shown rfl rfl rfl⟩
      · cases hstep
  | clearRun =>
      cases hstep
      exact ⟨h.clearRun, .of_left (Nat.le_refl _) (Nat.le_succ _) (.inr (Nat.lt_succ_self _))⟩
  | bootstrap =>
      cases hstep
      exact ⟨h.bootstrap, .of_left (Nat.le_succ _) (Nat.le_refl _) (.inl (Nat.lt_succ_self _))⟩
  | clearSession =>
      cases hstep
      exact ⟨h.clearSession, .of_left (Nat.le_succ _) (Nat.le_refl _) (.inl (Nat.lt_succ_self _))⟩
  | dispose =>
      cases hstep
      exact ⟨h.dispose, .of_shown rfl rfl rfl⟩
  | serve n =>
      obtain ⟨read, hread, hserve⟩ := Option.bind_eq_some_iff.mp hstep
      obtain ⟨stage, hstage, rfl⟩ := Option.map_eq_some_iff.mp hserve
      exact ⟨h.setStage hread fun hnewest =>
        h.served (List.mem_of_getElem? hread) hnewest hstage, .of_shown rfl rfl rfl⟩
  | fail n =>
      obtain ⟨read, hread, hfail⟩ := Option.bind_eq_some_iff.mp hstep
      have hfailed : (s.setStage n .failed).Inv kernel ∧ s.Keeps (s.setStage n .failed) :=
        ⟨h.setStage hread fun _ => .failed, .of_shown rfl rfl rfl⟩
      split at hfail
      · cases hfail
        exact hfailed
      · cases hfail
        exact hfailed
      · cases hfail
  | advance n =>
      obtain ⟨read, hread, hadvance⟩ := Option.bind_eq_some_iff.mp hstep
      obtain ⟨stage, hstage, rfl⟩ := Option.map_eq_some_iff.mp hadvance
      exact ⟨h.setStage hread fun hnewest =>
        h.advanced (List.mem_of_getElem? hread) hnewest hstage, .of_shown rfl rfl rfl⟩
  | retry n =>
      obtain ⟨read, hread, hretry⟩ := Option.bind_eq_some_iff.mp hstep
      split at hretry
      · split at hretry
        · cases hretry
          exact ⟨h.setStage hread fun _ => .requested, .of_shown rfl rfl rfl⟩
        · cases hretry
      · cases hretry
  | settle n shows =>
      obtain ⟨read, hread, hsettle⟩ := Option.bind_eq_some_iff.mp hstep
      exact h.settle hread hsettle
  | loadEarlierRunActivity =>
      have hinv := h.loadEarlier hstep
      obtain ⟨run, hrun, hload⟩ := Option.bind_eq_some_iff.mp hstep
      split at hload
      · obtain ⟨before, hbefore, rfl⟩ := Option.map_eq_some_iff.mp hload
        exact ⟨hinv, .of_shown rfl rfl rfl⟩
      · cases hload
  | serveHistory n =>
      obtain ⟨history, hhistory, hserve⟩ := Option.bind_eq_some_iff.mp hstep
      split at hserve
      · rename_i hstage
        split at hserve
        · cases hserve
          exact h.settleHistory hhistory (by simp [hstage]) none fun p hp => by cases hp
        · rename_i page hanswer
          cases hserve
          exact ⟨h.answerHistory hhistory hstage hanswer, .of_shown rfl rfl rfl⟩
      · cases hserve
  | receiveHistory n =>
      obtain ⟨history, hhistory, hreceive⟩ := Option.bind_eq_some_iff.mp hstep
      split at hreceive
      · rename_i page hstage
        cases hreceive
        refine h.settleHistory hhistory (by simp [hstage]) (some page) fun p hp => ?_
        cases hp
        exact hstage
      · cases hreceive
  | failHistory n =>
      obtain ⟨history, hhistory, hfail⟩ := Option.bind_eq_some_iff.mp hstep
      split at hfail
      · rename_i hstage
        cases hfail
        exact h.settleHistory hhistory (by simp [hstage]) none fun p hp => by cases hp
      · cases hfail

end Keeps

end TimelineView

/-! ## Runs of the machine -/

section Runs

variable {kernel : KernelContext} {s s' : TimelineView}

/-- Some events lead from one view to another. -/
def TimelineRuns (kernel : KernelContext) : TimelineView → TimelineView → Prop :=
  (timelineMachine kernel).Runs fun _ _ => True

theorem TimelineView.Inv.runs (h : s.Inv kernel) (hruns : TimelineRuns kernel s s') :
    s'.Inv kernel ∧ s.Keeps s' := by
  unfold TimelineRuns at hruns
  induction hruns with
  | refl => exact ⟨h, .of_shown rfl rfl rfl⟩
  | tail e _ _ hstep ih =>
      obtain ⟨hinv, hkeeps⟩ := ih.1.handle e hstep
      exact ⟨hinv, ih.2.trans hkeeps⟩

/-- The newest read goes on with every response of the Kernel. -/
theorem TimelineView.Inv.goesOn (h : s.Inv kernel) (hstored : ActivitiesStored s.world.db)
    {read : TimelineRead} (hread : read ∈ s.reads) (hnewest : s.Newest read) :
    s.advanced read ≠ some .failed := by
  have hlog := h.numbered read.runId
  have hfits := h.fits read hread hnewest
  have hreadOn : ∀ run previous gap, s.readOn read run previous gap ≠ .failed := by
    intro run previous gap
    unfold TimelineView.readOn
    split
    · exact TimelineStage.noConfusion
    · exact TimelineStage.noConfusion
  cases hstage : read.stage with
  | requested => simp [TimelineView.advanced, hstage]
  | failed => simp [TimelineView.advanced, hstage]
  | settled => simp [TimelineView.advanced, hstage]
  | merged run => simp [TimelineView.advanced, hstage]
  | answered run =>
      simp only [TimelineView.advanced, hstage]
      split
      · exact fun hfalse => TimelineStage.noConfusion (Option.some.inj hfalse)
      · exact fun hfalse => hreadOn _ _ _ (Option.some.inj hfalse)
  | paging run shown gap page =>
      rw [hstage] at hfits
      cases page with
      | none => simp [TimelineView.advanced, hstage]
      | some page =>
          cases hfits with
          | paging hid hresumes hle hlt hpage =>
              rw [hpage page rfl] at hstage
              simp only [TimelineView.advanced, hstage]
              split
              · rename_i message hadd
                simp only [ActivityGap.addPage, bind, Except.bind,
                  validate_pageAfter hlog (activityLog_safe hlog hstored) (Nat.succ_pos _)] at hadd
                split at hadd
                · cases hadd
                · cases hadd
              · exact fun hfalse => hreadOn _ _ _ (Option.some.inj hfalse)
              · exact fun hfalse => TimelineStage.noConfusion (Option.some.inj hfalse)
  | paged run shown items =>
      simp only [TimelineView.advanced, hstage]
      rw [hstage] at hfits
      generalize hactivity : s.run.map (·.activity) = window at hfits
      cases hfits with
      | first hid hrun hshown =>
          have hnone : s.run = none := Option.map_eq_none_iff.mp (hactivity.trans hshown)
          rw [hnone, withHistory_first hlog hid hrun]
          exact fun hfalse => TimelineStage.noConfusion (Option.some.inj hfalse)
      | paged hid hresumes =>
          obtain ⟨_, after, after', hshown, hspans, hprevious, hle⟩ := hresumes.shown
          obtain ⟨old, hold, rfl⟩ := Option.map_eq_some_iff.mp (hactivity.trans hshown)
          obtain ⟨merged, hmerged, -⟩ := withHistory_resumed hlog hid
            (h.shown_of_newest hread hnewest hold).1 hresumes.run hprevious hspans hle
            hresumes.le
          rw [hold, hmerged]
          exact fun hfalse => TimelineStage.noConfusion (Option.some.inj hfalse)

end Runs

/-! ## The timeline of the selected Run -/

/-- What a window shows of its Run in every order of commands, requests and responses. -/
structure TimelineSound (kernel : KernelContext) (s : TimelineView) : Prop where
  /-- A range of the activities of the selected Run, without a gap. -/
  shown : ∀ run, s.run = some run → s.runId = some run.run.id ∧ ∃ after upTo,
    run.activity =
      windowOf (activityRange (activityLog s.world.db run.run.id) after upTo) (decide (0 < after)) ∧
    run.activity.items.map (·.sequence) = List.range' (after + 1) (upTo - after) ∧
    upTo ≤ (activityLog s.world.db run.run.id).length
  /-- It never shrinks while the Run stays selected, and the revision never falls. -/
  keeps : ∀ s', TimelineRuns kernel s s' → s'.sessionGeneration = s.sessionGeneration →
    s'.runSelectionGeneration = s.runSelectionGeneration → ∀ run, s.run = some run →
      ∃ run', s'.run = some run' ∧ run'.run.id = run.run.id ∧
        run.run.revision ≤ run'.run.revision ∧
          ∀ a ∈ run.activity.items, a ∈ run'.activity.items
  /-- No response of the Kernel fails a check of the read that may be shown, or a merge. -/
  goesOn : ActivitiesStored s.world.db → ∀ read ∈ s.reads, s.isCurrent read = true →
    s.advanced read ≠ some .failed
  merges : ∀ read ∈ s.reads, s.isCurrent read = true → ∀ run, read.stage = .merged run →
    ∃ shown, mergeRunTimeline s.run run = .ok shown
  earlier : ActivitiesStored s.world.db → ∀ history ∈ s.histories,
    s.isCurrentHistory history = true → ∀ page, history.stage = .answered page →
      ∃ run merged, s.run = some run ∧ withEarlier history page run = .ok merged

/-- However commands, reads, refreshes, reselections and late or failed responses interleave,
the window shows a range of the activities of its Run that only grows. -/
theorem timeline_sound {kernel : KernelContext} {world : World} {s : TimelineView}
    (hreach : Reachable kernel world) (hruns : TimelineRuns kernel (.opened world) s) :
    TimelineSound kernel s := by
  have hinv := ((TimelineView.Inv.opened hreach).runs hruns).1
  constructor
  · intro run hrun
    obtain ⟨hid, after, upTo, hspans⟩ := hinv.shown run hrun
    refine ⟨hid, after, upTo, hspans.eq, ?_, hspans.stored⟩
    rw [hspans.items]
    exact (hinv.numbered _).numbers.range_numbers hspans.stored
  · intro s' hruns'
    exact (hinv.runs hruns').2.run
  · intro hstored read hread hcurrent
    exact hinv.goesOn hstored hread ((hinv.isCurrent_iff hread).mp hcurrent)
  · intro read hread hcurrent run hstage
    obtain ⟨shown, hmerged, -⟩ :=
      hinv.merges hread ((hinv.isCurrent_iff hread).mp hcurrent) hstage
    exact ⟨shown, hmerged⟩
  · intro hstored history hhistory hcurrent page hstage
    have hholds : s.Holds history := by
      simp only [TimelineView.isCurrentHistory, Bool.and_eq_true, decide_eq_true_eq] at hcurrent
      exact ⟨hcurrent.1.1.2.symm, hcurrent.1.2.symm⟩
    obtain ⟨-, hbefore, ⟨run, upTo, hrun, hspans⟩, hpage⟩ :=
      hinv.awaits history hhistory hholds (by simp [hstage])
    have hlog := hinv.numbered history.runId
    have hvalid := validate_pageBefore hlog (activityLog_safe hlog hstored)
      (Nat.lt_trans Nat.zero_lt_one hbefore)
    obtain ⟨merged, hmerged, -⟩ := withEarlier_ok hlog hbefore hspans hvalid
    rw [hpage page hstage]
    exact ⟨run, merged, hrun, hmerged⟩

/-! ## A Run that is shown -/

/-- The Run is selected and read. -/
def showEvents : List TimelineEvent :=
  [.loadRun (issuedId 15), .serve 0, .advance 0, .advance 0, .settle 0 true]

def shownView : TimelineView :=
  (((timelineMachine countingKernel).guarded (fun _ _ => True)).play showEvents
    (.opened reportedWorld)).getD (.opened reportedWorld)

theorem shownView_sound : TimelineSound countingKernel shownView ∧
    shownView.run.map (fun run => run.activity.items.map (·.sequence)) = some [1] := by
  have hplays : (((timelineMachine countingKernel).guarded (fun _ _ => True)).play showEvents
      (.opened reportedWorld)).isSome = true := by decide +kernel
  have hshown : shownView.run.map (fun run => run.activity.items.map (·.sequence)) = some [1] := by
    decide +kernel
  have hreach : Reachable countingKernel reportedWorld := writingWorld_reachable.step _
  unfold shownView at hshown ⊢
  -- Nothing else of the world is to be computed.
  generalize reportedWorld = w at hplays hshown hreach ⊢
  obtain ⟨view, hview⟩ := Option.isSome_iff_exists.mp hplays
  rw [hview, Option.getD_some] at hshown ⊢
  exact ⟨timeline_sound hreach (.of_play showEvents hview), hshown⟩

end Torsor.Web
