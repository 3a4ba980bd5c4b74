import Torsor.Web.InvalidationWork

/-! # No lost invalidation

An event that is no longer pending for a projection has been taken into account by what is
shown of it, unless the projection was left. A list that a refresh of the Run composer patches
can go back to an older read; nothing else that is shown can.
-/

namespace Torsor.Web

open Torsor.Library Torsor.Kernel

namespace WebView

variable {s s' : WebView} {server : ServerState} {key : ProjectionKey} {time n : Nat}
variable {read : ProjectionRead}

/-! ## Events are routed -/

theorem routes_selected (hown : s.SelectsOwn) (event : InvalidatingEvent)
    (hkey : key ∈ s.routes event) : s.isSelected key = true := by
  have halways : ∀ key' : ProjectionKey, key'.family.always = true →
      (∀ other : ProjectionKey, other.family = key'.family → other = key') →
      s.isSelected key' = true := by
    intro key' hfamily honly
    obtain ⟨other, hother⟩ := Option.isSome_iff_exists.mp (hown.always _ hfamily)
    rw [isSelected_iff, hother, honly other (hown.own _ _ hother)]
  have hrun : ∀ key', s.selected .run = some key' → s.isSelected key' = true := by
    intro key' hselected
    rw [isSelected_iff, hown.own _ _ hselected]
    exact hselected
  unfold routes at hkey
  simp only [List.mem_append, Option.mem_toList] at hkey
  rcases hkey with ((((hthreads | hthread) | hroute) | hruns) | hagents) | hbootstrap
  · exact (Option.filter_eq_some_iff.mp hthreads).2
  · exact (Option.filter_eq_some_iff.mp hthread).2
  · split at hroute
    · rename_i key' hfilter
      cases hroute
      exact (Option.filter_eq_some_iff.mp hfilter).2
    · split at hroute
      · exact hrun key hroute
      · cases hroute
  · split at hruns
    · rw [List.mem_singleton.mp hruns]
      apply halways .runs rfl
      intro other hother
      cases other <;> first | rfl | cases hother
    · cases hruns
  · split at hagents
    · rw [List.mem_singleton.mp hagents]
      apply halways .attentionAgents rfl
      intro other hother
      cases other <;> first | rfl | cases hother
    · cases hagents
  · split at hbootstrap
    · rw [List.mem_singleton.mp hbootstrap]
      apply halways .bootstrap rfl
      intro other hother
      cases other <;> first | rfl | cases hother
    · cases hbootstrap

/-! ## Pending events -/

theorem pending_register (key key' : ProjectionKey) (s : WebView) :
    (s.register key).pending key' =
      if key' = key then s.pending key ++ [s.now] else s.pending key' := by
  by_cases hkey : key' = key
  · subst hkey
    cases hpending : s.invalidations key' <;> simp [register, pending, hpending]
  · simp [register, pending, hkey]

theorem Inv.register (h : Inv server s) (hselected : s.isSelected key = true) :
    Advances server s (s.register key) := by
  have hgrows : s.Grows (s.register key) := .with_work s _ _ _ _ _ _
  apply h.rework
  constructor
  case followUps => exact h.work.followUps
  case came =>
    intro key' time htime
    have htime' : time ∈ (s.register key).pending key' := htime
    rw [pending_register] at htime'
    split at htime'
    · rename_i hkey
      subst hkey
      cases List.mem_append.mp htime' with
      | inl hold => exact (h.work.came _ _ hold).mono hgrows
      | inr hnew =>
          rw [List.mem_singleton.mp hnew]
          exact ⟨Nat.le_refl _, .inl hselected⟩
    · exact (h.work.came _ _ htime').mono hgrows
  case works =>
    intro work hwork time htime
    obtain ⟨hcame, hpromised⟩ := h.work.works work hwork time htime
    exact ⟨hcame.mono hgrows, hpromised.mono hgrows (h.reads.reads.left _) rfl⟩
  case routed =>
    intro time key' hrouted
    have hpending : ∀ key', s.pending key' ⊆ (s.register key).pending key' := by
      intro key' time' htime'
      rw [pending_register]
      split
      · rename_i hkey
        subst hkey
        exact List.mem_append_left _ htime'
      · exact htime'
    cases List.mem_append.mp hrouted with
    | inl hold =>
        cases h.work.routed time key' hold with
        | inl hpending' => exact .inl (hpending key' hpending')
        | inr hhandled => exact .inr (hhandled.mono hgrows (h.reads.reads.left key'))
    | inr hnew =>
        cases List.mem_singleton.mp hnew
        left
        have hlast : s.now ∈ (s.register key).pending key := by
          rw [pending_register]
          simp
        exact hlast

theorem Inv.addWork (h : Inv server s) (key : ProjectionKey) (eventIds : List Nat)
    (retryOf : Option Nat) (hcame : ∀ time ∈ eventIds, s.Came key time) :
    Advances server s (addWork key eventIds retryOf (s.coalesce key)) := by
  obtain ⟨hadvances, hpromised⟩ := h.coalesce key
  have hadded : Advances server (s.coalesce key).2
      (WebView.addWork key eventIds retryOf (s.coalesce key)) := by
    apply hadvances.2.rework
    have hgrows := Grows.with_work (s.coalesce key).2 (s.coalesce key).2.refreshes
      (s.coalesce key).2.deferreds (s.coalesce key).2.invalidations
      ((s.coalesce key).2.works ++ [{ key, eventIds, promise := (s.coalesce key).1, retryOf }])
      (s.coalesce key).2.composers (s.coalesce key).2.routed
    constructor
    case followUps => exact hadvances.2.work.followUps
    case came => exact fun key' time htime => (hadvances.2.work.came key' time htime).mono hgrows
    case routed =>
      intro time key' hrouted
      cases hadvances.2.work.routed time key' hrouted with
      | inl hpending => exact .inl hpending
      | inr hhandled => exact .inr (hhandled.mono hgrows (hadvances.2.reads.reads.left key'))
    case works =>
      intro work hwork time htime
      cases List.mem_append.mp hwork with
      | inl hold =>
          obtain ⟨hcame', hpromised'⟩ := hadvances.2.work.works work hold time htime
          exact ⟨hcame'.mono hgrows, hpromised'.mono hgrows (hadvances.2.reads.reads.left _) rfl⟩
      | inr hnew =>
          rw [List.mem_singleton.mp hnew] at htime ⊢
          have hcame' := hcame time htime
          exact ⟨(hcame'.mono hadvances.1).mono hgrows,
            (hpromised time hcame').mono hgrows (hadvances.2.reads.reads.left _) rfl⟩
  exact hadvances.trans hadded

theorem Inv.queue (h : Inv server s) (hselected : s.isSelected key = true) :
    Advances server s (s.queue key) := by
  have hregister := h.register hselected
  unfold WebView.queue
  simp only
  split
  · exact hregister
  · refine hregister.trans (hregister.2.addWork key [s.now] none ?_)
    intro time htime
    rw [List.mem_singleton.mp htime]
    exact ⟨Nat.le_refl _, .inl hselected⟩

/-- A refresh of a key leaves the selections alone. -/
structure SameSelections (s s' : WebView) : Prop where
  now : s'.now = s.now
  selected : s'.selected = s.selected
  leftAt : s'.leftAt = s.leftAt

theorem SameSelections.trans {s'' : WebView} (h : s.SameSelections s')
    (h' : s'.SameSelections s'') : s.SameSelections s'' :=
  ⟨h'.now.trans h.now, h'.selected.trans h.selected, h'.leftAt.trans h.leftAt⟩

theorem startRefresh_selections (key : ProjectionKey) (s : WebView) :
    s.SameSelections (s.startRefresh key).2 := by
  unfold startRefresh
  split
  · rename_i hselected
    simp only [WebView.load, select_of_isSelected hselected]
    exact ⟨rfl, rfl, rfl⟩
  · exact ⟨rfl, rfl, rfl⟩

theorem coalesce_selections (key : ProjectionKey) (s : WebView) :
    s.SameSelections (s.coalesce key).2 := by
  unfold coalesce
  split
  · exact ⟨rfl, rfl, rfl⟩
  · exact ⟨rfl, rfl, rfl⟩
  · exact (startRefresh_selections key s).trans ⟨rfl, rfl, rfl⟩

theorem queue_selections (key : ProjectionKey) (s : WebView) :
    s.SameSelections (s.queue key) := by
  have hregister : s.SameSelections (s.register key) := ⟨rfl, rfl, rfl⟩
  unfold queue
  simp only
  split
  · exact hregister
  · exact (hregister.trans (coalesce_selections key _)).trans ⟨rfl, rfl, rfl⟩

/-- An event comes: its keys are selected, and stay so. -/
theorem Inv.queue_all (h : Inv server s) {keys : List ProjectionKey}
    (hselected : ∀ key ∈ keys, s.isSelected key = true) :
    Advances server s (keys.foldl (fun s key => s.queue key) s) := by
  induction keys generalizing s with
  | nil => exact ⟨.refl s, h⟩
  | cons key keys ih =>
      have hqueue := h.queue (hselected key (List.mem_cons_self ..))
      refine hqueue.trans (ih hqueue.2 ?_)
      intro key' hkey'
      rw [isSelected_iff, (queue_selections key s).selected, ← isSelected_iff]
      exact hselected key' (List.mem_cons_of_mem _ hkey')

theorem Inv.applyEvent (h : Inv server s) (event : InvalidatingEvent) :
    Advances server s (s.applyEvent event) :=
  h.queue_all fun _ hkey => routes_selected h.reads.reads.own event hkey

/-! ## Refreshes end -/

theorem pending_reconcile (key : ProjectionKey) (eventIds : List Nat) (s : WebView)
    (key' : ProjectionKey) :
    (s.reconcile key eventIds).pending key' =
      if key' = key then (s.pending key).filter (· ∉ eventIds) else s.pending key' := by
  unfold reconcile
  cases hinvalidation : s.invalidations key with
  | none =>
      by_cases hkey : key' = key
      · subst hkey
        simp [pending, hinvalidation]
      · simp [hkey]
  | some invalidation =>
      by_cases hkey : key' = key
      · subst hkey
        simp only [pending, hinvalidation, Function.update_self, if_true, Option.elim_some]
        split
        · rename_i hrest
          rw [hrest]
          rfl
        · rfl
      · simp [pending, hkey]

theorem reconcile_eq (key : ProjectionKey) (eventIds : List Nat) (s : WebView) :
    ∃ invalidations, s.reconcile key eventIds = { s with invalidations } := by
  unfold reconcile
  split
  · exact ⟨s.invalidations, rfl⟩
  · exact ⟨_, rfl⟩

/-- Events leave the pending ones once they are handled. -/
theorem Inv.with_invalidations (h : Inv server s)
    (invalidations : ProjectionKey → Option ProjectionInvalidation)
    (hsubset : ∀ key, ({ s with invalidations } : WebView).pending key ⊆ s.pending key)
    (hhandled : ∀ key, ∀ time ∈ s.pending key,
      time ∈ ({ s with invalidations } : WebView).pending key ∨ s.Handled key time) :
    Advances server s { s with invalidations } := by
  have hgrows : s.Grows { s with invalidations } := .with_work s _ _ _ _ _ _
  apply h.rework
  constructor
  case followUps => exact h.work.followUps
  case came =>
    intro key time htime
    exact (h.work.came key time (hsubset key htime)).mono hgrows
  case works =>
    intro work hwork time htime
    obtain ⟨hcame, hpromised⟩ := h.work.works work hwork time htime
    exact ⟨hcame.mono hgrows, hpromised.mono hgrows (h.reads.reads.left _) rfl⟩
  case routed =>
    intro time key hrouted
    cases h.work.routed time key hrouted with
    | inl hpending =>
        cases hhandled key time hpending with
        | inl hstill => exact .inl hstill
        | inr hhandled' => exact .inr (hhandled'.mono hgrows (h.reads.reads.left key))
    | inr hhandled' => exact .inr (hhandled'.mono hgrows (h.reads.reads.left key))

theorem Inv.reconcile (h : Inv server s) (key : ProjectionKey) {eventIds : List Nat}
    (hhandled : ∀ time ∈ eventIds, s.Handled key time) :
    Advances server s (s.reconcile key eventIds) := by
  have hpending := pending_reconcile key eventIds s
  obtain ⟨invalidations, heq⟩ := reconcile_eq key eventIds s
  rw [heq] at hpending ⊢
  apply h.with_invalidations
  · intro key' time htime
    rw [hpending] at htime
    split at htime
    · rename_i hkey
      subst hkey
      exact (List.mem_filter.mp htime).1
    · exact htime
  · intro key' time htime
    rw [hpending]
    split
    · rename_i hkey
      subst hkey
      by_cases hmem : time ∈ eventIds
      · exact .inr (hhandled time hmem)
      · exact .inl (List.mem_filter.mpr ⟨htime, by simpa using hmem⟩)
    · exact .inl htime

/-- A timer is set or cleared. -/
theorem Inv.with_timer (h : Inv server s) {invalidation : ProjectionInvalidation} (timer : Bool)
    (hinvalidation : s.invalidations key = some invalidation) :
    Advances server s
      { s with
        invalidations := Function.update s.invalidations key (some { invalidation with timer }) } := by
  have hsame : ∀ key', ({ s with
      invalidations := Function.update s.invalidations key (some { invalidation with timer })
      } : WebView).pending key' = s.pending key' := by
    intro key'
    by_cases hkey : key' = key
    · subst hkey
      simp [pending, hinvalidation]
    · simp [pending, hkey]
  apply h.with_invalidations
  · intro key' time htime
    rw [hsame] at htime
    exact htime
  · intro key' time htime
    rw [hsame]
    exact .inl htime

theorem Inv.scheduleRetry (h : Inv server s) (key : ProjectionKey) :
    Advances server s (s.scheduleRetry key) := by
  unfold WebView.scheduleRetry
  cases hinvalidation : s.invalidations key with
  | none =>
      have hsame : Function.update s.invalidations key none = s.invalidations := by
        rw [← hinvalidation]
        exact Function.update_eq_self ..
      simp only [Option.map_none, hsame]
      exact ⟨.refl s, h⟩
  | some invalidation => exact h.with_timer true hinvalidation

theorem Inv.retry (h : Inv server s) {invalidation : ProjectionInvalidation}
    (hinvalidation : s.invalidations key = some invalidation) :
    Advances server s (s.retry key invalidation) := by
  have hcleared := h.with_timer false hinvalidation
  refine hcleared.trans (hcleared.2.addWork key invalidation.eventIds (some invalidation.id) ?_)
  intro time htime
  apply hcleared.2.work.came
  simpa [pending] using htime

theorem Inv.workOver (h : Inv server s) {work : InvalidationWork} (succeeded : Bool)
    (hhandled : succeeded = true → ∀ time ∈ work.eventIds, s.Handled work.key time) :
    Advances server s (s.workOver work succeeded) := by
  have hover : Advances server s
      (if succeeded then s.reconcile work.key work.eventIds else s.scheduleRetry work.key) := by
    split
    · rename_i hsucceeded
      exact h.reconcile work.key (hhandled hsucceeded)
    · exact h.scheduleRetry work.key
  unfold WebView.workOver
  split
  · split
    · exact hover
    · exact ⟨.refl s, h⟩
  · exact ⟨.refl s, h⟩
  · exact hover

theorem Inv.eraseWork (h : Inv server s) (w : Nat) :
    Advances server s { s with works := s.works.eraseIdx w } := by
  have hgrows : s.Grows { s with works := s.works.eraseIdx w } := .with_work s _ _ _ _ _ _
  apply h.rework
  constructor
  case followUps => exact h.work.followUps
  case came => exact fun key time htime => (h.work.came key time htime).mono hgrows
  case works =>
    intro work hwork time htime
    obtain ⟨hcame, hpromised⟩ := h.work.works work (List.mem_of_mem_eraseIdx hwork) time htime
    exact ⟨hcame.mono hgrows, hpromised.mono hgrows (h.reads.reads.left _) rfl⟩
  case routed =>
    intro time key hrouted
    cases h.work.routed time key hrouted with
    | inl hpending => exact .inl hpending
    | inr hhandled => exact .inr (hhandled.mono hgrows (h.reads.reads.left key))

/-! ## One event -/

theorem HasRead.addRead (h : s.HasRead n read) (new : ProjectionRead) :
    (s.addRead new).HasRead n read := by
  simp only [HasRead, WebView.addRead]
  rw [List.getElem?_append_left h.lt_length]
  exact h

theorem HasRead.load (h : s.HasRead n read) (hown : s.SelectsOwn) (key : ProjectionKey) :
    (s.load key).HasRead n read := by
  have hselect : (s.select key).HasRead n read := by
    simp only [HasRead, (select_reads hown key).1]
    exact h
  exact HasRead.addRead (s := { s.select key with generation := _ }) hselect _

theorem Inv.refreshRunComposer (h : Inv server s) (runId threadId : String) :
    Advances server s (s.refreshRunComposer runId threadId) := by
  have hreads := h.reads.refreshRunComposer runId threadId
  have hrun : (s.issue (.run runId) .half).HasRead s.reads.length
      { key := .run runId, kind := .half, issuedAt := s.now
        generation := s.generation .run + 1 } := addRead_hasRead _ _
  have hlength : (s.issue (.run runId) .half).reads.length = s.reads.length + 1 :=
    List.length_append
  have hcomposer : (s.refreshRunComposer runId threadId).IsComposer
      ⟨s.reads.length, s.reads.length + 1⟩ := by
    unfold WebView.refreshRunComposer
    by_cases hthread : s.isSelected (.thread threadId) = true
    · simp only [hthread, if_true]
      have hlast := addRead_hasRead
        { s.issue (.run runId) .half with
          generation := Function.update (s.issue (.run runId) .half).generation .thread
            ((s.issue (.run runId) .half).generation .thread + 1) }
        { key := .thread threadId, kind := .half, issuedAt := s.now
          generation := (s.issue (.run runId) .half).generation .thread + 1 }
      rw [← hlength]
      exact ⟨_, _, runId, threadId, hrun.addRead _, rfl, hlast, rfl⟩
    · have hthread' : s.isSelected (.thread threadId) = false := by simpa using hthread
      simp only [hthread', Bool.false_eq_true, if_false]
      rw [← hlength]
      exact ⟨_, _, runId, threadId, hrun.addRead _, rfl, addRead_hasRead _ _, rfl⟩
  have hwork : Work (s.refreshRunComposer runId threadId) := by
    apply h.work.mono h.reads.reads.left hreads.1
    unfold WebView.refreshRunComposer
    simp only
    split <;> exact ⟨rfl, rfl, rfl, rfl, rfl⟩
  refine ⟨hreads.1, hreads.2, hwork, ?_⟩
  intro composer hmem
  have hcomposers : (s.refreshRunComposer runId threadId).composers =
      s.composers ++ [⟨s.reads.length, s.reads.length + 1⟩] := rfl
  rw [hcomposers] at hmem
  cases List.mem_append.mp hmem with
  | inl hold => exact (h.composers composer hold).mono hreads.1
  | inr hnew =>
      rw [List.mem_singleton.mp hnew]
      exact hcomposer

theorem Inv.modify (h : Inv server s) {f : ProjectionRead → ProjectionRead}
    (hreads : s.Grows { s with reads := s.reads.modify n f } ∧
      Reads server { s with reads := s.reads.modify n f }) :
    Advances server s { s with reads := s.reads.modify n f } :=
  h.advance_reads hreads ⟨rfl, rfl, rfl, rfl, rfl⟩ rfl

theorem Inv.replaced (h : Inv server s) (hread : s.HasRead n read)
    (hstate : read.state ≠ .settled true) : Advances server s (s.replaced n read) := by
  have hreads := h.reads.replaced hread hstate
  obtain ⟨f, heq⟩ := replaced_eq n read s
  rw [heq] at hreads ⊢
  exact h.modify hreads

theorem Inv.respond (h : Inv server s) (hread : s.HasRead n read) (hstate : read.state = .reading)
    (hkind : read.kind = .single) (htime : read.readAt = some time) :
    Advances server s
      (if s.isCurrent n read then s.applyRead server n read time else s.replaced n read) := by
  have hne : read.state ≠ .settled true := by simp [hstate]
  split
  · rename_i hcurrent
    have hkind' : read.kind.isBeside = false := by simp [hkind, ReadKind.isBeside]
    exact h.advance_reads (h.reads.applyRead hread hne hkind' hcurrent htime)
      ⟨rfl, rfl, rfl, rfl, rfl⟩ rfl
  · exact h.replaced hread hne

/-- After a `401` to an old token a read is repeated, and answers as its repetition does. -/
theorem Inv.reload (h : Inv server s) (hread : s.HasRead n read) (hstate : read.state = .reading) :
    Advances server s ((s.load read.key).setReadState n (.returning s.reads.length)) := by
  have hload := h.load read.key
  have hread' := hread.load h.reads.reads.own read.key
  refine hload.trans (hload.2.modify ?_)
  apply hload.2.reads.setReadState hread' (by simp [hstate]) (by simp) (by simp)
  intro _ m hm
  have hm' : s.reads.length = m := by simpa using hm
  subst hm'
  obtain ⟨other, hother, hkey, hkind, hissued⟩ := h.reads.load_since read.key
  have hbefore := (h.reads.reads.each n read hread).issued
  exact ⟨other, hother, hkey, hkind, by omega⟩

/-- What a read awaits has settled. -/
theorem Inv.resume (h : Inv server s) (hread : s.HasRead n read) {m : Nat} {value scope : Bool}
    (hstate : read.state = .awaiting m ∨ read.state = .returning m)
    (hvalue : s.readValue m = some value) :
    Advances server s (s.setReadState n (.settled (value && scope))) := by
  have hne : read.state ≠ .settled true := by
    cases hstate with
    | inl hawaits => simp [hawaits]
    | inr hreturns => simp [hreturns]
  apply h.modify
  apply h.reads.setReadState hread hne (by simp)
  · intro hkind hsettled
    have htrue : value = true := by
      simp only [ReadState.settled.injEq, Bool.and_eq_true] at hsettled
      exact hsettled.1
    rw [htrue] at hvalue
    have hsince := (h.reads.reads.each n read hread).follows hkind m hstate
    exact hsince.handled h.reads hvalue
  · simp

theorem Inv.settleComposer (h : Inv server s) {composer : ComposerRefresh}
    {run thread : ProjectionRead} {runOk threadOk : Bool} (hmem : composer ∈ s.composers)
    (hrun : s.HasRead composer.run run) (hthread : s.HasRead composer.thread thread)
    (hrunState : run.state = .fetched runOk) (hthreadState : thread.state = .fetched threadOk)
    (hrunPatches : s.showsHalf composer.run composer.thread run thread = true →
      s.patchesOlder server run = true)
    (hthreadPatches : s.showsHalf composer.thread composer.run thread run = true →
      s.patchesOlder server thread = true) :
    Advances server s (s.settleComposer server composer run thread runOk threadOk
      (run.readAt.getD 0) (thread.readAt.getD 0)) := by
  obtain ⟨run', thread', runId, threadId, hrun', hrunKey, hthread', hthreadKey⟩ :=
    h.composers composer hmem
  have hrunSame : run = run' := Option.some.inj (hrun.symm.trans hrun')
  have hthreadSame : thread = thread' := Option.some.inj (hthread.symm.trans hthread')
  subst hrunSame
  subst hthreadSame
  have hreads := h.reads.settleComposer hrun hthread hrunKey hthreadKey hrunState hthreadState
    hrunPatches hthreadPatches
  obtain ⟨reads, shown, heq⟩ := settleComposer_eq h.reads.reads.own server composer run thread
    runOk threadOk (run.readAt.getD 0) (thread.readAt.getD 0)
  rw [heq] at hreads ⊢
  exact h.advance_reads hreads ⟨rfl, rfl, rfl, rfl, rfl⟩ rfl

end WebView

end Torsor.Web
