import Torsor.Web.TimelineWindows

/-! # Reads of the timeline

Only the newest read of the selection may still be shown. What it has collected joins what is
shown, and whatever else happens before it is shown keeps it so.
-/

namespace Torsor.Web

open Torsor.Library Torsor.Kernel

/-! ## Reads that may be shown -/

/-- The read goes on from a window that what is shown has grown out of. -/
structure Resumes (log : List RunActivityEventView) (shown : Option ActivityWindow)
    (run : RunProjection) (previous : ActivityWindow) (upTo last : Nat) : Prop where
  run : Spans run.activity log (last - 100) last
  shown : ∃ window after after', shown = some window ∧ Spans window log after upTo ∧
    Spans previous log after' upTo ∧ after ≤ after'
  le : upTo ≤ last

/-- What a read has collected, over what is shown. -/
inductive TimelineStage.Fits (log : List RunActivityEventView) (shown : Option ActivityWindow)
    (runId : String) : TimelineStage → Prop where
  | requested : Fits log shown runId .requested
  | answered {run : RunProjection} {last : Nat} (hid : run.run.id = runId)
      (hrun : Spans run.activity log (last - 100) last)
      (hshown : ∀ window ∈ shown, window.latestSequence.getD 0 ≤ last) :
      Fits log shown runId (.answered run)
  | paging {run : RunProjection} {previous : ActivityWindow} {upTo last after : Nat}
      {page : Option ActivityPage} (hid : run.run.id = runId)
      (hresumes : Resumes log shown run previous upTo last) (hle : upTo ≤ after)
      (hlt : after < last - 100)
      (hpage : ∀ p ∈ page, p = pageAfter log 100 after (last - 100 + 1)) :
      Fits log shown runId (.paging run (some previous)
        { runId, after, before := last - 100 + 1, items := activityRange log upTo after } page)
  | first {run : RunProjection} {last : Nat} (hid : run.run.id = runId)
      (hrun : Spans run.activity log (last - 100) last) (hshown : shown = none) :
      Fits log shown runId (.paged run none [])
  | paged {run : RunProjection} {previous : ActivityWindow} {upTo last : Nat}
      (hid : run.run.id = runId) (hresumes : Resumes log shown run previous upTo last) :
      Fits log shown runId (.paged run (some previous) (activityRange log upTo (last - 100)))
  | merged {run : RunProjection} {after upTo : Nat} (hid : run.run.id = runId)
      (hrun : Spans run.activity log after upTo)
      (hshown : ∀ window ∈ shown, ∃ after' upTo', Spans window log after' upTo' ∧
        after' ≤ after ∧ after ≤ upTo') :
      Fits log shown runId (.merged run)
  | failed : Fits log shown runId .failed
  | settled : Fits log shown runId .settled

section Fits

variable {runId : String} {log log' : List RunActivityEventView} {shown : Option ActivityWindow}
  {window window' : ActivityWindow} {run : RunProjection} {previous : ActivityWindow}
  {upTo last : Nat} {stage : TimelineStage}

theorem Resumes.grown (h : Resumes log shown run previous upTo last)
    (hlog : ActivityNumbered runId log) (hlog' : ActivityNumbered runId log')
    (hgrown : log <+: log') : Resumes log' shown run previous upTo last where
  run := h.run.grown hlog hlog' hgrown
  shown := by
    obtain ⟨window, after, after', hshown, hspans, hprevious, hle⟩ := h.shown
    exact ⟨window, after, after', hshown, hspans.grown hlog hlog' hgrown,
      hprevious.grown hlog hlog' hgrown, hle⟩
  le := h.le

/-- What is appended to the log changes nothing for a read. -/
theorem TimelineStage.Fits.grown (h : stage.Fits log shown runId)
    (hlog : ActivityNumbered runId log) (hlog' : ActivityNumbered runId log')
    (hgrown : log <+: log') : stage.Fits log' shown runId := by
  have hrange : ∀ {after upTo}, upTo ≤ log.length →
      activityRange log after upTo = activityRange log' after upTo := fun hupTo =>
    hlog.numbers.range_grown hlog'.numbers hgrown hupTo
  cases h with
  | requested => exact .requested
  | answered hid hrun hshown => exact .answered hid (hrun.grown hlog hlog' hgrown) hshown
  | paging hid hresumes hle hlt hpage =>
      have hstored := hresumes.run.stored
      rw [hrange (by omega)]
      refine .paging hid (hresumes.grown hlog hlog' hgrown) hle hlt fun p hp => ?_
      rw [hpage p hp, pageAfter_grown hlog hlog' hgrown (by omega)]
  | first hid hrun hshown => exact .first hid (hrun.grown hlog hlog' hgrown) hshown
  | paged hid hresumes =>
      have hstored := hresumes.run.stored
      rw [hrange (by omega)]
      exact .paged hid (hresumes.grown hlog hlog' hgrown)
  | merged hid hrun hshown =>
      refine .merged hid (hrun.grown hlog hlog' hgrown) fun window hwindow => ?_
      obtain ⟨after', upTo', hspans, hle, hjoin⟩ := hshown window hwindow
      exact ⟨after', upTo', hspans.grown hlog hlog' hgrown, hle, hjoin⟩
  | failed => exact .failed
  | settled => exact .settled

theorem Resumes.extended (h : Resumes log (some window) run previous upTo last)
    (hextends : Extends log window window') :
    Resumes log (some window') run previous upTo last where
  run := h.run
  shown := by
    obtain ⟨_, after, after', hshown, hspans, hprevious, hle⟩ := h.shown
    cases hshown
    obtain ⟨after₁, hspans₁, hle₁⟩ := hextends.spans after upTo hspans
    exact ⟨window', after₁, after', rfl, hspans₁, hprevious, Nat.le_trans hle₁ hle⟩
  le := h.le

theorem TimelineStage.Fits.extended (h : stage.Fits log (some window) runId)
    (hextends : Extends log window window') : stage.Fits log (some window') runId := by
  cases h with
  | requested => exact .requested
  | answered hid hrun hshown =>
      refine .answered hid hrun fun x hx => ?_
      cases hx
      rw [hextends.latest]
      exact hshown window rfl
  | paging hid hresumes hle hlt hpage =>
      exact .paging hid (hresumes.extended hextends) hle hlt hpage
  | first hid hrun hshown => cases hshown
  | paged hid hresumes => exact .paged hid (hresumes.extended hextends)
  | merged hid hrun hshown =>
      refine .merged hid hrun fun x hx => ?_
      cases hx
      obtain ⟨after', upTo', hspans, hle, hjoin⟩ := hshown window rfl
      obtain ⟨after₁, hspans₁, hle₁⟩ := hextends.spans after' upTo' hspans
      exact ⟨after₁, upTo', hspans₁, Nat.le_trans hle₁ hle, hjoin⟩
  | failed => exact .failed
  | settled => exact .settled

end Fits

/-! ## The timeline of a view -/

namespace TimelineView

def log (s : TimelineView) (runId : String) : List RunActivityEventView :=
  activityLog s.world.db runId

/-- No read was begun after this one, and it may still be shown. -/
def Newest (s : TimelineView) (read : TimelineRead) : Prop :=
  read.sessionGeneration = s.sessionGeneration ∧
    read.requestGeneration = s.runRequestGeneration ∧ (read.composer = true ∨ s.disposed = false)

/-- The selection is still the one the activities are read for. -/
def Holds (s : TimelineView) (history : HistoryRead) : Prop :=
  history.sessionGeneration = s.sessionGeneration ∧
    history.selectionGeneration = s.runSelectionGeneration

/-- What is shown starts where the earlier activities end. -/
structure Awaits (s : TimelineView) (history : HistoryRead) : Prop where
  loading : s.loadingRunHistory = true
  before : 1 < history.before
  shown : ∃ run upTo, s.run = some run ∧
    Spans run.activity (s.log history.runId) (history.before - 1) upTo
  page : ∀ page, history.stage = .answered page →
    page = pageBefore (s.log history.runId) 100 history.before

structure Inv (kernel : KernelContext) (s : TimelineView) : Prop where
  reachable : Reachable kernel s.world
  shown : ∀ run, s.run = some run → s.runId = some run.run.id ∧
    ∃ after upTo, Spans run.activity (s.log run.run.id) after upTo
  issued : ∀ read ∈ s.reads, read.sessionGeneration ≤ s.sessionGeneration ∧
    read.requestGeneration ≤ s.runRequestGeneration ∧ (s.Newest read → s.runId = some read.runId)
  distinct : (s.reads.map (·.requestGeneration)).Nodup
  fits : ∀ read ∈ s.reads, s.Newest read →
    read.stage.Fits (s.log read.runId) (s.run.map (·.activity)) read.runId
  asked : ∀ history ∈ s.histories, history.sessionGeneration ≤ s.sessionGeneration ∧
    history.selectionGeneration ≤ s.runSelectionGeneration ∧
      (s.Holds history → s.runId = some history.runId)
  awaits : ∀ history ∈ s.histories, s.Holds history → history.stage ≠ .settled → s.Awaits history
  single : ∀ (n m : Nat) (history other : HistoryRead), s.histories[n]? = some history →
    s.histories[m]? = some other → s.Holds history → s.Holds other → history.stage ≠ .settled →
      other.stage ≠ .settled → n = m

section Inv

variable {kernel : KernelContext} {s s' : TimelineView} {read : TimelineRead}
  {history : HistoryRead} {stage : TimelineStage} {n : Nat}

theorem Inv.numbered (h : s.Inv kernel) (runId : String) : ActivityNumbered runId (s.log runId) :=
  h.reachable.activityNumbered runId

theorem Inv.opened {world : World} (h : Reachable kernel world) : (opened world).Inv kernel where
  reachable := h
  shown := by rintro run ⟨⟩
  issued := by rintro read ⟨⟩
  distinct := List.nodup_nil
  fits := by rintro read ⟨⟩
  asked := by rintro history ⟨⟩
  awaits := by rintro history ⟨⟩
  single := by
    intro n m history other hhistory
    simp [TimelineView.opened] at hhistory

/-! ### The Kernel goes on -/

theorem Inv.execute (h : s.Inv kernel) (call : KernelCall) :
    ({ s with world := step kernel call s.world } : TimelineView).Inv kernel where
  reachable := h.reachable.step call
  shown run hrun := by
    obtain ⟨hid, after, upTo, hspans⟩ := h.shown run hrun
    have hs : Steps kernel s.world (step kernel call s.world) := .single ⟨call, rfl⟩
    exact ⟨hid, after, upTo, hspans.grown (h.numbered _)
      ((h.reachable.step call).activityNumbered _) (hs.activityLog _)⟩
  issued := h.issued
  distinct := h.distinct
  fits read hread hnewest := by
    have hs : Steps kernel s.world (step kernel call s.world) := .single ⟨call, rfl⟩
    exact (h.fits read hread hnewest).grown (h.numbered _)
      ((h.reachable.step call).activityNumbered _) (hs.activityLog _)
  asked := h.asked
  awaits history hhistory hholds hopen := by
    have hs : Steps kernel s.world (step kernel call s.world) := .single ⟨call, rfl⟩
    have hlog' := (h.reachable.step call).activityNumbered history.runId
    obtain ⟨hloading, hbefore, ⟨run, upTo, hrun, hspans⟩, hpage⟩ :=
      h.awaits history hhistory hholds hopen
    refine ⟨hloading, hbefore, ⟨run, upTo, hrun,
      hspans.grown (h.numbered _) hlog' (hs.activityLog _)⟩, fun page hstage => ?_⟩
    rw [hpage page hstage]
    have hle := hspans.le
    have hstored := hspans.stored
    exact (pageBefore_grown (h.numbered _) hlog' (hs.activityLog _) (by omega)).symm
  single := h.single

end Inv

end TimelineView

/-! ## Reads are begun and left -/

namespace TimelineView

section Reads

variable {kernel : KernelContext} {s s' : TimelineView} {read : TimelineRead}
  {history : HistoryRead} {stage : TimelineStage} {n : Nat} {runId : String}

theorem mem_modify {α : Type} {l : List α} {n : Nat} {f : α → α} {x : α}
    (h : x ∈ l.modify n f) : x ∈ l ∨ ∃ y, l[n]? = some y ∧ x = f y := by
  obtain ⟨m, hm⟩ := List.mem_iff_getElem?.mp h
  obtain ⟨-, y, hy, rfl⟩ | ⟨-, hx⟩ := getElem?_modify_cases hm
  · exact .inr ⟨y, hy, rfl⟩
  · exact .inl (List.mem_of_getElem? hx)

theorem map_modify {α β : Type} {l : List α} {n : Nat} {f : α → α} {g : α → β}
    (h : ∀ x, g (f x) = g x) : (l.modify n f).map g = l.map g := by
  refine List.ext_getElem? fun m => ?_
  rw [List.getElem?_map, List.getElem?_map, List.getElem?_modify]
  cases l[m]? with
  | none => rfl
  | some x =>
      simp only [Option.map_eq_map, Option.map_some, Option.some.injEq]
      split
      · exact h x
      · rfl

theorem setStage_generations (n : Nat) (stage : TimelineStage) (s : TimelineView) :
    (s.setStage n stage).reads.map (·.requestGeneration) = s.reads.map (·.requestGeneration) :=
  map_modify fun _ => rfl

/-- Two reads of one generation are the same. -/
theorem Inv.same_read (h : s.Inv kernel) {m : Nat} {other : TimelineRead}
    (hread : s.reads[n]? = some read) (hother : s.reads[m]? = some other)
    (hsame : read.requestGeneration = other.requestGeneration) : n = m := by
  have hn : (s.reads.map (·.requestGeneration))[n]? = some read.requestGeneration := by
    rw [List.getElem?_map, hread]
    rfl
  have hm : (s.reads.map (·.requestGeneration))[m]? = some read.requestGeneration := by
    rw [List.getElem?_map, hother, hsame]
    rfl
  have hlt : n < (s.reads.map (·.requestGeneration)).length :=
    (List.getElem?_eq_some_iff.mp hn).1
  exact (List.getElem?_inj hlt h.distinct).mp (hn.trans hm.symm)

/-- The selection is left, and nothing is shown. -/
theorem Inv.left (h : s.Inv kernel) (hworld : s'.world = s.world) (hrun : s'.run = none)
    (hreads : s'.reads = s.reads) (hhistories : s'.histories = s.histories)
    (hsession : s.sessionGeneration ≤ s'.sessionGeneration)
    (hrequest : s.runRequestGeneration ≤ s'.runRequestGeneration)
    (hselection : s.runSelectionGeneration ≤ s'.runSelectionGeneration)
    (hstale : s.sessionGeneration < s'.sessionGeneration ∨
      s.runRequestGeneration < s'.runRequestGeneration)
    (hstale' : s.sessionGeneration < s'.sessionGeneration ∨
      s.runSelectionGeneration < s'.runSelectionGeneration) : s'.Inv kernel := by
  have hnewest : ∀ read ∈ s.reads, ¬ s'.Newest read := by
    rintro read hread ⟨hsame, hsame', -⟩
    obtain ⟨hle, hle', -⟩ := h.issued read hread
    omega
  have hholds : ∀ history ∈ s.histories, ¬ s'.Holds history := by
    rintro history hhistory ⟨hsame, hsame'⟩
    obtain ⟨hle, hle', -⟩ := h.asked history hhistory
    omega
  constructor
  · rw [hworld]
    exact h.reachable
  · intro run hsome
    rw [hrun] at hsome
    cases hsome
  · intro read hread
    rw [hreads] at hread
    obtain ⟨hle, hle', -⟩ := h.issued read hread
    exact ⟨hle.trans hsession, hle'.trans hrequest, fun hnew => absurd hnew (hnewest read hread)⟩
  · rw [hreads]
    exact h.distinct
  · intro read hread hnew
    rw [hreads] at hread
    exact absurd hnew (hnewest read hread)
  · intro history hhistory
    rw [hhistories] at hhistory
    obtain ⟨hle, hle', -⟩ := h.asked history hhistory
    exact ⟨hle.trans hsession, hle'.trans hselection,
      fun hheld => absurd hheld (hholds history hhistory)⟩
  · intro history hhistory hheld
    rw [hhistories] at hhistory
    exact absurd hheld (hholds history hhistory)
  · intro n m history other hhistory _ hheld
    rw [hhistories] at hhistory
    exact absurd hheld (hholds history (List.mem_of_getElem? hhistory))

/-- Every read so far is superseded. -/
theorem Inv.supersede (h : s.Inv kernel) :
    ({ s with runRequestGeneration := s.runRequestGeneration + 1 } : TimelineView).Inv kernel := by
  have hnewest : ∀ read ∈ s.reads,
      ¬ ({ s with runRequestGeneration := s.runRequestGeneration + 1 } : TimelineView).Newest
        read := by
    rintro read hread ⟨-, hsame, -⟩
    have hle := (h.issued read hread).2.1
    simp only at hsame
    omega
  refine ⟨h.reachable, h.shown, fun read hread => ?_, h.distinct, fun read hread hnew => ?_,
    h.asked, fun history hhistory hholds hopen => ?_, h.single⟩
  · obtain ⟨hle, hle', -⟩ := h.issued read hread
    exact ⟨hle, Nat.le_succ_of_le hle', fun hnew => absurd hnew (hnewest read hread)⟩
  · exact absurd hnew (hnewest read hread)
  · obtain ⟨hloading, hbefore, hshown, hpage⟩ := h.awaits history hhistory hholds hopen
    exact ⟨hloading, hbefore, hshown, hpage⟩

/-- A read begins. -/
theorem Inv.addRead (h : s.Inv kernel) (composer : Bool) (hrunId : s.runId = some runId)
    (hfresh : ∀ read ∈ s.reads, read.requestGeneration < s.runRequestGeneration) :
    ({ s with
        reads := s.reads ++
          [{ runId, composer, sessionGeneration := s.sessionGeneration
             requestGeneration := s.runRequestGeneration, stage := .requested }] } :
      TimelineView).Inv kernel := by
  refine ⟨h.reachable, h.shown, fun read hread => ?_, ?_, fun read hread hnew => ?_, h.asked,
    fun history hhistory hholds hopen => ?_, h.single⟩
  · cases List.mem_append.mp hread with
    | inl hold => exact h.issued read hold
    | inr hnew =>
        rw [List.mem_singleton.mp hnew]
        exact ⟨Nat.le_refl _, Nat.le_refl _, fun _ => hrunId⟩
  · rw [List.map_append, List.nodup_append]
    refine ⟨h.distinct, by simp, ?_⟩
    rintro a ha b hb rfl
    obtain ⟨read, hread, rfl⟩ := List.mem_map.mp ha
    have hlt := hfresh read hread
    simp only [List.map_cons, List.map_nil, List.mem_singleton] at hb
    omega
  · cases List.mem_append.mp hread with
    | inl hold => exact h.fits read hold hnew
    | inr hlast =>
        rw [List.mem_singleton.mp hlast]
        exact .requested
  · obtain ⟨hloading, hbefore, hshown, hpage⟩ := h.awaits history hhistory hholds hopen
    exact ⟨hloading, hbefore, hshown, hpage⟩

theorem Inv.issue (h : s.Inv kernel) (composer : Bool) (hrunId : s.runId = some runId) :
    (s.issue runId composer).Inv kernel :=
  h.supersede.addRead composer hrunId fun read hread => Nat.lt_succ_of_le (h.issued read hread).2.1

theorem Inv.loadRun (h : s.Inv kernel) (runId : String) : (s.loadRun runId).Inv kernel := by
  unfold TimelineView.loadRun
  split
  · rename_i hrunId
    exact h.issue false hrunId
  · have hleft : ({ s with
        runRequestGeneration := s.runRequestGeneration + 1
        runSelectionGeneration := s.runSelectionGeneration + 1 }.unshow (some runId)).Inv kernel :=
      h.left rfl rfl rfl rfl (Nat.le_refl _) (Nat.le_succ _) (Nat.le_succ _)
        (.inr (Nat.lt_succ_self _)) (.inr (Nat.lt_succ_self _))
    exact hleft.addRead false rfl fun read hread =>
      Nat.lt_succ_of_le (h.issued read hread).2.1

theorem Inv.clearRun (h : s.Inv kernel) : s.clearRun.Inv kernel :=
  h.left rfl rfl rfl rfl (Nat.le_refl _) (Nat.le_succ _) (Nat.le_succ _)
    (.inr (Nat.lt_succ_self _)) (.inr (Nat.lt_succ_self _))

theorem Inv.bootstrap (h : s.Inv kernel) : s.bootstrap.Inv kernel :=
  h.left rfl rfl rfl rfl (Nat.le_succ _) (Nat.le_succ _) (Nat.le_refl _)
    (.inl (Nat.lt_succ_self _)) (.inl (Nat.lt_succ_self _))

theorem Inv.clearSession (h : s.Inv kernel) : s.clearSession.Inv kernel :=
  h.left rfl rfl rfl rfl (Nat.le_succ _) (Nat.le_refl _) (Nat.le_refl _)
    (.inl (Nat.lt_succ_self _)) (.inl (Nat.lt_succ_self _))

theorem Inv.dispose (h : s.Inv kernel) :
    ({ s with disposed := true } : TimelineView).Inv kernel := by
  have hnewest : ∀ read, ({ s with disposed := true } : TimelineView).Newest read →
      s.Newest read := by
    rintro read ⟨hsession, hrequest, hcomposer | hfalse⟩
    · exact ⟨hsession, hrequest, .inl hcomposer⟩
    · cases hfalse
  refine ⟨h.reachable, h.shown, fun read hread => ?_, h.distinct,
    fun read hread hnew => h.fits read hread (hnewest read hnew), h.asked,
    fun history hhistory hholds hopen => ?_, h.single⟩
  · obtain ⟨hle, hle', hrunId⟩ := h.issued read hread
    exact ⟨hle, hle', fun hnew => hrunId (hnewest read hnew)⟩
  · obtain ⟨hloading, hbefore, hshown, hpage⟩ := h.awaits history hhistory hholds hopen
    exact ⟨hloading, hbefore, hshown, hpage⟩

/-! ### Reads go on -/

theorem Inv.setStage (h : s.Inv kernel) (hread : s.reads[n]? = some read)
    (hfits : s.Newest read →
      stage.Fits (s.log read.runId) (s.run.map (·.activity)) read.runId) :
    (s.setStage n stage).Inv kernel := by
  refine ⟨h.reachable, h.shown, fun x hx => ?_, ?_, fun x hx hnew => ?_, h.asked,
    fun history hhistory hholds hopen => ?_, h.single⟩
  · obtain hold | ⟨y, hy, rfl⟩ := mem_modify hx
    · exact h.issued x hold
    · exact h.issued y (List.mem_of_getElem? hy)
  · rw [setStage_generations]
    exact h.distinct
  · obtain hold | ⟨y, hy, rfl⟩ := mem_modify hx
    · exact h.fits x hold hnew
    · rw [hread] at hy
      cases hy
      exact hfits hnew
  · obtain ⟨hloading, hbefore, hshown, hpage⟩ := h.awaits history hhistory hholds hopen
    exact ⟨hloading, hbefore, hshown, hpage⟩

/-- The newest read is shown, and what it shows starts where it started before. -/
theorem Inv.show (h : s.Inv kernel) (hread : s.reads[n]? = some read) (hnewest : s.Newest read)
    {run : RunProjection} (hid : run.run.id = read.runId)
    (hspans : ∃ after upTo, Spans run.activity (s.log read.runId) after upTo)
    (hstart : ∀ old, s.run = some old → ∀ after upTo,
      Spans old.activity (s.log read.runId) after upTo →
        ∃ upTo', Spans run.activity (s.log read.runId) after upTo') :
    ({ s with run := some run }.setStage n .settled).Inv kernel := by
  have hrunId := (h.issued read (List.mem_of_getElem? hread)).2.2 hnewest
  refine ⟨h.reachable, ?_, fun x hx => ?_, ?_, fun x hx hnew => ?_, h.asked,
    fun history hhistory hholds hopen => ?_, h.single⟩
  · rintro _ ⟨⟩
    rw [hid]
    exact ⟨hrunId, hspans⟩
  · obtain hold | ⟨y, hy, rfl⟩ := mem_modify hx
    · exact h.issued x hold
    · exact h.issued y (List.mem_of_getElem? hy)
  · rw [setStage_generations]
    exact h.distinct
  · obtain ⟨m, hm⟩ := List.mem_iff_getElem?.mp hx
    obtain ⟨-, y, hy, rfl⟩ | ⟨hne, hold⟩ := getElem?_modify_cases hm
    · exact .settled
    · exact absurd (h.same_read hold hread (hnew.2.1.trans hnewest.2.1.symm)) hne
  · obtain ⟨hloading, hbefore, ⟨old, upTo, hold, holdSpans⟩, hpage⟩ :=
      h.awaits history hhistory hholds hopen
    have hsame : history.runId = read.runId := by
      have hof := (h.asked history hhistory).2.2 hholds
      exact Option.some.inj (hof.symm.trans hrunId)
    rw [hsame] at holdSpans
    obtain ⟨upTo', hspans'⟩ := hstart old hold _ _ holdSpans
    refine ⟨hloading, hbefore, ⟨run, upTo', rfl, ?_⟩, hpage⟩
    rw [hsame]
    exact hspans'

end Reads

end TimelineView

/-! ## What a read collects -/

theorem ActivityGap.addPage_pageAfter {runId : String} {log : List RunActivityEventView}
    {upTo after last : Nat} {gap' : ActivityGap} {goesOn : Bool}
    (hlog : ActivityNumbered runId log) (hle : upTo ≤ after) (hlt : after < last)
    (hlast : last ≤ log.length)
    (h : ActivityGap.addPage
      { runId, after, before := last + 1, items := activityRange log upTo after }
      (pageAfter log 100 after (last + 1)) = .ok (gap', goesOn)) :
    (goesOn = true ∧ after + 100 < last ∧
        gap' = { runId, after := after + 100, before := last + 1,
                 items := activityRange log upTo (after + 100) }) ∨
      (goesOn = false ∧ gap'.items = activityRange log upTo last) := by
  have hmin : min (last + 1 - 1) log.length = last := by omega
  have hjoin : activityRange log upTo after ++ (pageAfter log 100 after (last + 1)).items =
      activityRange log upTo (min (after + 100) last) := by
    simp only [pageAfter, hmin]
    exact hlog.numbers.range_append hle (by omega) (by omega)
  simp only [ActivityGap.addPage, hjoin, bind, Except.bind] at h
  split at h
  · cases h
  · by_cases hmore : after + 100 < last
    · have hupTo : min (after + 100) last = after + 100 := by omega
      simp only [pageAfter, hmin, hmore, decide_true, if_true, Option.getD_some, hupTo] at h
      cases h
      exact .inl ⟨rfl, hmore, rfl⟩
    · have hupTo : min (after + 100) last = last := by omega
      simp only [pageAfter, hmin, hmore, decide_false, Bool.false_eq_true, if_false, hupTo] at h
      cases h
      exact .inr ⟨rfl, rfl⟩

namespace TimelineView

section Collects

variable {kernel : KernelContext} {s s' : TimelineView} {read : TimelineRead}
  {run : RunProjection} {previous : ActivityWindow} {stage : TimelineStage} {n : Nat}

theorem Inv.selected (h : s.Inv kernel) (hread : read ∈ s.reads) (hnewest : s.Newest read) :
    s.runId = some read.runId :=
  (h.issued read hread).2.2 hnewest

theorem Inv.isCurrent_iff (h : s.Inv kernel) (hread : read ∈ s.reads) :
    s.isCurrent read = true ↔ s.Newest read := by
  simp only [isCurrent, Bool.and_eq_true, Bool.or_eq_true, Bool.not_eq_true', decide_eq_true_eq]
  constructor
  · rintro ⟨⟨⟨halive, hsession⟩, hrequest⟩, -⟩
    exact ⟨hsession.symm, hrequest.symm, halive⟩
  · intro hnewest
    have hselected := h.selected hread hnewest
    obtain ⟨hsession, hrequest, halive⟩ := hnewest
    exact ⟨⟨⟨halive, hsession.symm⟩, hrequest.symm⟩, hselected⟩

/-- The Run that is shown is the one that is read. -/
theorem Inv.shown_of_newest (h : s.Inv kernel) (hread : read ∈ s.reads)
    (hnewest : s.Newest read) (hrun : s.run = some run) : run.run.id = read.runId ∧
      ∃ after upTo, Spans run.activity (s.log read.runId) after upTo := by
  obtain ⟨hid, hspans⟩ := h.shown run hrun
  have hsame : run.run.id = read.runId :=
    Option.some.inj (hid.symm.trans (h.selected hread hnewest))
  rw [hsame] at hspans
  exact ⟨hsame, hspans⟩

theorem Inv.shownActivity (h : s.Inv kernel) (hread : read ∈ s.reads) (hnewest : s.Newest read) :
    s.shownActivity read.runId = s.run.map (·.activity) := by
  cases hrun : s.run with
  | none => simp [TimelineView.shownActivity, hrun]
  | some run =>
      have hid := (h.shown_of_newest hread hnewest hrun).1
      simp [TimelineView.shownActivity, hrun, hid]

/-- The loop goes on, or the gap is read. -/
theorem Inv.readOn (h : s.Inv kernel) (hread : read ∈ s.reads) (hnewest : s.Newest read)
    {upTo last after : Nat} (hid : run.run.id = read.runId)
    (hresumes : Resumes (s.log read.runId) (s.run.map (·.activity)) run previous upTo last)
    (hafter : after = upTo ∨ upTo ≤ after ∧ after ≤ last - 100) :
    (s.readOn read run (some previous)
        { runId := read.runId, after, before := last - 100 + 1
          items := activityRange (s.log read.runId) upTo after }).Fits
      (s.log read.runId) (s.run.map (·.activity)) read.runId := by
  simp only [TimelineView.readOn, (h.isCurrent_iff hread).mpr hnewest, Bool.and_true,
    ActivityGap.isOpen, decide_eq_true_eq]
  split
  · exact .paging hid hresumes (by omega) (by omega) fun p hp => by cases hp
  · have hitems : activityRange (s.log read.runId) upTo after =
        activityRange (s.log read.runId) upTo (last - 100) := by
      obtain hsame | ⟨hle, hlast⟩ := hafter
      · rw [hsame]
        have hempty : ∀ m ≤ upTo, activityRange (s.log read.runId) upTo m = [] :=
          fun _ hm => numberedRange_empty hm
        rw [hempty upTo (Nat.le_refl _), hempty (last - 100) (by omega)]
      · have hsame : after = last - 100 := by omega
        rw [hsame]
    rw [hitems]
    exact .paged hid hresumes

/-- The response to the first request. -/
theorem Inv.answered (h : s.Inv kernel) (hread : read ∈ s.reads) (hnewest : s.Newest read)
    {last : Nat} (hid : run.run.id = read.runId)
    (hrun : Spans run.activity (s.log read.runId) (last - 100) last)
    (hshown : ∀ window ∈ s.run.map (·.activity), window.latestSequence.getD 0 ≤ last)
    (hadvance : s.advanced { read with stage := .answered run } = some stage) :
    stage.Fits (s.log read.runId) (s.run.map (·.activity)) read.runId := by
  have hlog := h.numbered read.runId
  simp only [advanced, h.shownActivity hread hnewest] at hadvance
  cases hsome : s.run with
  | none =>
      simp only [hsome, Option.map_none, activityGap, Option.bind_none, Option.some.injEq]
        at hadvance
      subst hadvance
      exact .first hid hrun rfl
  | some old =>
      obtain ⟨-, after, upTo, hspans⟩ := h.shown_of_newest hread hnewest hsome
      have hupTo := hspans.latest hlog
      rw [hsome] at hshown
      have hle := hshown old.activity rfl
      rw [hupTo] at hle
      have hresumes : Resumes (s.log read.runId) (s.run.map (·.activity)) run old.activity upTo
          last := by
        rw [hsome]
        exact ⟨hrun, ⟨old.activity, after, after, rfl, hspans, hspans, Nat.le_refl _⟩, hle⟩
      have hempty : ∀ m ≤ upTo, activityRange (s.log read.runId) upTo m = [] :=
        fun _ hm => numberedRange_empty hm
      simp only [hsome, Option.map_some, activityGap, Option.bind_some, hrun.earliest hlog,
        hupTo] at hadvance
      by_cases hsome' : last - 100 < last
      · simp only [hsome', if_true, Option.map_some, Option.some.injEq] at hadvance
        subst hadvance
        have hfits := h.readOn hread hnewest hid hresumes (.inl rfl)
        rw [hempty upTo (Nat.le_refl _), hsome] at hfits
        exact hfits
      · simp only [hsome', if_false, Option.map_none, Option.some.injEq] at hadvance
        subst hadvance
        have hfits := TimelineStage.Fits.paged hid hresumes
        rw [hempty (last - 100) (by omega), hsome] at hfits
        exact hfits

end Collects

section Reading

variable {kernel : KernelContext} {s s' : TimelineView} {read : TimelineRead}
  {run : RunProjection} {previous : ActivityWindow} {stage : TimelineStage} {n : Nat}

/-- What the client makes of a response joins what is shown. -/
theorem Inv.advanced (h : s.Inv kernel) (hread : read ∈ s.reads) (hnewest : s.Newest read)
    (hadvance : s.advanced read = some stage) :
    stage.Fits (s.log read.runId) (s.run.map (·.activity)) read.runId := by
  have hlog := h.numbered read.runId
  have hfits := h.fits read hread hnewest
  cases hstage : read.stage with
  | requested => simp [TimelineView.advanced, hstage] at hadvance
  | failed => simp [TimelineView.advanced, hstage] at hadvance
  | settled => simp [TimelineView.advanced, hstage] at hadvance
  | merged run => simp [TimelineView.advanced, hstage] at hadvance
  | answered run =>
      rw [hstage] at hfits
      cases hfits with
      | answered hid hrun hshown =>
          refine h.answered hread hnewest hid hrun hshown ?_
          rw [← hstage]
          exact hadvance
  | paging run shown gap page =>
      rw [hstage] at hfits
      cases page with
      | none => simp [TimelineView.advanced, hstage] at hadvance
      | some page =>
          cases hfits with
          | paging hid hresumes hle hlt hpage =>
              rw [hpage page rfl] at hstage
              simp only [TimelineView.advanced, hstage] at hadvance
              have hstored := hresumes.run.stored
              split at hadvance
              · cases hadvance
                exact .failed
              · rename_i gap' hadd
                cases hadvance
                obtain ⟨-, hmore, rfl⟩ | ⟨hfalse, -⟩ :=
                  ActivityGap.addPage_pageAfter hlog hle hlt (by omega) hadd
                · exact h.readOn hread hnewest hid hresumes (.inr ⟨by omega, by omega⟩)
                · cases hfalse
              · rename_i gap' hadd
                cases hadvance
                obtain ⟨hfalse, -⟩ | ⟨-, hitems⟩ :=
                  ActivityGap.addPage_pageAfter hlog hle hlt (by omega) hadd
                · cases hfalse
                · rw [hitems]
                  exact .paged hid hresumes
  | paged run shown items =>
      rw [hstage] at hfits
      simp only [TimelineView.advanced, hstage] at hadvance
      generalize hactivity : s.run.map (·.activity) = window at hfits ⊢
      cases hfits with
      | first hid hrun hshown =>
          have hnone : s.run = none := Option.map_eq_none_iff.mp (hactivity.trans hshown)
          rw [hnone, withHistory_first hlog hid hrun] at hadvance
          cases hadvance
          exact .merged hid hrun fun w hw => by
            rw [hshown] at hw
            cases hw
      | paged hid hresumes =>
          obtain ⟨_, after, after', hshown, hspans, hprevious, hle⟩ := hresumes.shown
          obtain ⟨old, hold, rfl⟩ := Option.map_eq_some_iff.mp (hactivity.trans hshown)
          obtain ⟨merged, hmerged, hof, -, hmergedSpans⟩ := withHistory_resumed hlog hid
            (h.shown_of_newest hread hnewest hold).1 hresumes.run hprevious hspans hle
            hresumes.le
          rw [hold, hmerged] at hadvance
          cases hadvance
          refine .merged hof hmergedSpans fun w hw => ?_
          rw [hshown] at hw
          cases hw
          exact ⟨_, _, hspans, Nat.le_refl _, hspans.le⟩

/-- What the Kernel answers joins what is shown. -/
theorem Inv.served (h : s.Inv kernel) (hread : read ∈ s.reads) (hnewest : s.Newest read)
    (hserve : s.served read = some stage) :
    stage.Fits (s.log read.runId) (s.run.map (·.activity)) read.runId := by
  have hlog := h.numbered read.runId
  have hfits := h.fits read hread hnewest
  cases hstage : read.stage with
  | requested =>
      simp only [TimelineView.served, hstage] at hserve
      split at hserve
      · cases hserve
        exact .failed
      · rename_i row hrow
        cases hserve
        have hid : row.id = read.runId := of_decide_eq_true (Table.find?_eq_some hrow).2
        have hactivity : (runProjection s.world.db row).activity =
            latestWindow (s.log read.runId) 100 := by
          rw [← hid]
          exact latestActivityWindow_log (h.numbered row.id) 100
        refine .answered hid (hactivity ▸ Spans.latestWindow _) fun window hwindow => ?_
        obtain ⟨old, hold, rfl⟩ := Option.map_eq_some_iff.mp hwindow
        obtain ⟨-, after, upTo, hspans⟩ := h.shown_of_newest hread hnewest hold
        rw [hspans.latest hlog]
        exact hspans.stored
  | paging run shown gap page =>
      rw [hstage] at hfits
      cases page with
      | some page => simp [TimelineView.served, hstage] at hserve
      | none =>
          cases hfits with
          | paging hid hresumes hle hlt hpage =>
              simp only [TimelineView.served, hstage] at hserve
              split at hserve
              · cases hserve
                exact .failed
              · rename_i page hanswer
                cases hserve
                refine .paging hid hresumes hle hlt fun p hp => ?_
                cases hp
                exact (answerActivity_eq_ok hlog hanswer).2
  | answered run => simp [TimelineView.served, hstage] at hserve
  | paged run shown items => simp [TimelineView.served, hstage] at hserve
  | merged run => simp [TimelineView.served, hstage] at hserve
  | failed => simp [TimelineView.served, hstage] at hserve
  | settled => simp [TimelineView.served, hstage] at hserve

/-- The Run that the newest read has merged is merged with what is shown. -/
theorem Inv.merges (h : s.Inv kernel) (hread : read ∈ s.reads) (hnewest : s.Newest read)
    (hstage : read.stage = .merged run) :
    ∃ shown, mergeRunTimeline s.run run = .ok shown ∧ shown.run.id = read.runId ∧
      (∃ after upTo, Spans shown.activity (s.log read.runId) after upTo) ∧
      ∀ old, s.run = some old → old.run.revision ≤ shown.run.revision ∧
        ∀ after upTo, Spans old.activity (s.log read.runId) after upTo →
          ∃ upTo', Spans shown.activity (s.log read.runId) after upTo' ∧ upTo ≤ upTo' := by
  have hlog := h.numbered read.runId
  have hfits := h.fits read hread hnewest
  rw [hstage] at hfits
  cases hfits with
  | merged hid hrun hshown =>
      cases hsome : s.run with
      | none =>
          have hsingle : mergeActivity read.runId ([] ++ [run.activity]) = .ok run.activity :=
            hrun.single hlog fun w hw => absurd hw List.not_mem_nil
          rw [← hid] at hsingle
          refine ⟨run, mergeRunTimeline_none hsingle, hid, ⟨_, _, hrun⟩, fun old hold => ?_⟩
          cases hold
      | some old =>
          rw [hsome] at hshown
          obtain ⟨after', upTo', hspans, hle, hjoin⟩ := hshown old.activity rfl
          obtain ⟨shown, hmerged, hof, hrevision, hspans'⟩ := hspans.mergeRun hrun hlog
            (h.shown_of_newest hread hnewest hsome).1 hid hle hjoin
          refine ⟨shown, hmerged, hof, ⟨_, _, hspans'⟩, fun x hx => ?_⟩
          cases hx
          refine ⟨hrevision, fun after upTo hother => ?_⟩
          have hupTo : upTo = upTo' := (hother.latest hlog).symm.trans (hspans.latest hlog)
          have hafter : after = after' := hother.unique hspans hlog
          rw [hupTo, hafter]
          exact ⟨_, hspans', le_max_left _ _⟩

end Reading

end TimelineView

end Torsor.Web
