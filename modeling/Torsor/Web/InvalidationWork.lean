import Torsor.Web.ComposerSteps

/-! # Work on invalidations

Each event that is pending for a projection is known to some refresh that was begun after the
event came, or will be: what a refresh promises, and that no step breaks a promise.
-/

namespace Torsor.Web

open Torsor.Library Torsor.Kernel

namespace WebView

variable {s s' : WebView} {server : ServerState} {key key' : ProjectionKey} {time n d : Nat}

/-! ## What is promised -/

/-- An event for the key has come, and the selection of the key was not left before. -/
def Came (s : WebView) (key : ProjectionKey) (time : Nat) : Prop :=
  time ≤ s.now ∧ (s.isSelected key = true ∨ time ≤ s.leftAt key)

/-- The refresh takes events up to the time into account. -/
def RefreshSince (s : WebView) (key : ProjectionKey) (time : Nat) : Refreshing → Prop
  | .read n => s.ReadSince key time n
  | .done succeeded => succeeded = true → s.Handled key time

def DeferredSince (s : WebView) (key : ProjectionKey) (time : Nat) : Deferred → Prop
  | .pending => True
  | .follows refreshing => s.RefreshSince key time refreshing
  | .resolved succeeded => succeeded = true → s.Handled key time

def Promised (s : WebView) (key : ProjectionKey) (time : Nat) : RefreshPromise → Prop
  | .refreshing refreshing => s.RefreshSince key time refreshing
  | .deferred d => ∃ value, s.deferreds[d]? = some (key, value) ∧ s.DeferredSince key time value

theorem Came.mono (h : s.Came key time) (hgrows : s.Grows s') : s'.Came key time := by
  obtain ⟨hnow, hselected⟩ := h
  have hsame := hgrows.now
  have hcases := hgrows.leftAt key
  refine ⟨by omega, ?_⟩
  cases hselected with
  | inl hselected =>
      cases hgrows.selected key hselected with
      | inl hselected' => exact .inl hselected'
      | inr hleft' => exact .inr (by omega)
  | inr hleft' => exact .inr (by omega)

theorem RefreshSince.mono {refreshing : Refreshing} (h : s.RefreshSince key time refreshing)
    (hgrows : s.Grows s') (hleft : s.leftAt key ≤ s.now) :
    s'.RefreshSince key time refreshing := by
  cases refreshing with
  | read n => exact ReadSince.mono h hgrows
  | done succeeded => exact fun hsucceeded => (h hsucceeded).mono hgrows hleft

theorem DeferredSince.mono {value : Deferred} (h : s.DeferredSince key time value)
    (hgrows : s.Grows s') (hleft : s.leftAt key ≤ s.now) : s'.DeferredSince key time value := by
  cases value with
  | pending => trivial
  | follows refreshing => exact RefreshSince.mono h hgrows hleft
  | resolved succeeded => exact fun hsucceeded => (h hsucceeded).mono hgrows hleft

theorem Promised.mono {promise : RefreshPromise} (h : s.Promised key time promise)
    (hgrows : s.Grows s') (hleft : s.leftAt key ≤ s.now) (hdeferreds : s'.deferreds = s.deferreds) :
    s'.Promised key time promise := by
  cases promise with
  | refreshing refreshing => exact RefreshSince.mono h hgrows hleft
  | deferred d =>
      obtain ⟨value, hvalue, hsince⟩ := h
      exact ⟨value, by rw [hdeferreds]; exact hvalue, hsince.mono hgrows hleft⟩

/-! ### Promises that come true -/

theorem ReadSince.handled (h : s.ReadSince key time n) (hreads : Reads server s)
    (hvalue : s.readValue n = some true) : s.Handled key time := by
  obtain ⟨read, hread, rfl, hkind, hissued⟩ := h
  have hstate : read.state = .settled true := by
    simp only [HasRead] at hread
    simp only [readValue, hread, Option.bind_some] at hvalue
    split at hvalue
    · rename_i succeeded hsettled
      cases hvalue
      exact hsettled
    · cases hvalue
  exact ((hreads.reads.each n read hread).handled hkind hstate).of_le hissued

theorem RefreshSince.handled {refreshing : Refreshing} (h : s.RefreshSince key time refreshing)
    (hreads : Reads server s) (hvalue : s.refreshingValue refreshing = some true) :
    s.Handled key time := by
  cases refreshing with
  | read n => exact ReadSince.handled h hreads hvalue
  | done succeeded => exact h (Option.some.inj hvalue)

theorem Promised.handled {promise : RefreshPromise} (h : s.Promised key time promise)
    (hreads : Reads server s) (hvalue : s.promiseValue promise = some true) :
    s.Handled key time := by
  cases promise with
  | refreshing refreshing => exact RefreshSince.handled h hreads hvalue
  | deferred d =>
      obtain ⟨value, hdeferred, hsince⟩ := h
      simp only [promiseValue, hdeferred, Option.bind_some] at hvalue
      cases value with
      | pending => cases hvalue
      | follows refreshing => exact RefreshSince.handled hsince hreads hvalue
      | resolved succeeded => exact hsince (Option.some.inj hvalue)

/-! ## The invariant of the work -/

structure Work (s : WebView) : Prop where
  followUps : ∀ key refresh d, s.refreshes key = some refresh → refresh.followUp = some d →
    s.deferreds[d]? = some (key, .pending)
  came : ∀ key time, time ∈ s.pending key → s.Came key time
  works : ∀ work ∈ s.works, ∀ time ∈ work.eventIds,
    s.Came work.key time ∧ s.Promised work.key time work.promise
  routed : ∀ time key, (time, key) ∈ s.routed → time ∈ s.pending key ∨ s.Handled key time

/-- Only reads and what is shown have changed. -/
structure SameWork (s s' : WebView) : Prop where
  refreshes : s'.refreshes = s.refreshes
  deferreds : s'.deferreds = s.deferreds
  invalidations : s'.invalidations = s.invalidations
  works : s'.works = s.works
  routed : s'.routed = s.routed

theorem Work.mono (h : Work s) (hleft : ∀ key, s.leftAt key ≤ s.now) (hgrows : s.Grows s')
    (hsame : s.SameWork s') : Work s' where
  followUps := by
    rw [hsame.refreshes, hsame.deferreds]
    exact h.followUps
  came key time htime := by
    simp only [pending, hsame.invalidations] at htime
    exact (h.came key time htime).mono hgrows
  works work hwork time htime := by
    rw [hsame.works] at hwork
    obtain ⟨hcame, hpromised⟩ := h.works work hwork time htime
    exact ⟨hcame.mono hgrows,
      hpromised.mono hgrows (hleft _) hsame.deferreds⟩
  routed time key hrouted := by
    rw [hsame.routed] at hrouted
    simp only [pending, hsame.invalidations]
    cases h.routed time key hrouted with
    | inl hpending => exact .inl hpending
    | inr hhandled => exact .inr (hhandled.mono hgrows (hleft key))

/-! ### Keys are left -/

/-- A key is left: its events are handled, and so is what waited for its next refresh. -/
theorem Work.abandon (h : Work s) (hleft : ∀ key, s.leftAt key ≤ s.now) (hgrows : s.Grows s')
    (hnow : s'.leftAt key = s.now)
    (hinvalidations : s'.invalidations = Function.update s.invalidations key none)
    (hworks : s'.works = s.works) (hrouted : s'.routed = s.routed)
    (hfollowUps : ∀ key refresh d, s'.refreshes key = some refresh → refresh.followUp = some d →
      s'.deferreds[d]? = some (key, .pending))
    (hdeferreds : ∀ (d : Nat) key' value, s.deferreds[d]? = some (key', value) →
      s'.deferreds[d]? = some (key', value) ∨
        (key' = key ∧ ∃ succeeded, s'.deferreds[d]? = some (key', .resolved succeeded))) :
    Work s' := by
  have hhandled : ∀ time, time ≤ s.now → s'.Handled key time := by
    intro time htime
    exact .inl (by omega)
  constructor
  case followUps => exact hfollowUps
  case came =>
    intro key' time htime
    simp only [pending, hinvalidations] at htime
    by_cases hkey : key' = key
    · subst hkey
      simp at htime
    · rw [Function.update_of_ne hkey] at htime
      exact (h.came key' time htime).mono hgrows
  case works =>
    intro work hwork time htime
    rw [hworks] at hwork
    obtain ⟨hcame, hpromised⟩ := h.works work hwork time htime
    refine ⟨hcame.mono hgrows, ?_⟩
    have hleft' := hleft work.key
    cases hpromise : work.promise with
    | refreshing refreshing =>
        rw [hpromise] at hpromised
        exact RefreshSince.mono hpromised hgrows hleft'
    | deferred d =>
        rw [hpromise] at hpromised
        obtain ⟨value, hvalue, hsince⟩ := hpromised
        cases hdeferreds d work.key value hvalue with
        | inl hsame => exact ⟨value, hsame, hsince.mono hgrows hleft'⟩
        | inr hresolved =>
            obtain ⟨hkey, succeeded, hvalue'⟩ := hresolved
            refine ⟨.resolved succeeded, hvalue', ?_⟩
            intro _
            rw [hkey]
            exact hhandled time hcame.1
  case routed =>
    intro time key' htime
    rw [hrouted] at htime
    simp only [pending, hinvalidations]
    by_cases hkey : key' = key
    · subst hkey
      right
      cases h.routed time key' htime with
      | inl hpending => exact hhandled time (h.came key' time hpending).1
      | inr hhandled' => exact hhandled'.mono hgrows (hleft key')
    · rw [Function.update_of_ne hkey]
      cases h.routed time key' htime with
      | inl hpending => exact .inl hpending
      | inr hhandled' => exact .inr (hhandled'.mono hgrows (hleft key'))

theorem Work.leave (h : Work s) (hleft : ∀ key, s.leftAt key ≤ s.now) (hselected : s.isSelected key = true)
    (next : Option ProjectionKey) :
    Work { s.leave key with selected := Function.update s.selected key.family next } := by
  have hgrows := Grows.leave hselected next
  unfold WebView.leave at hgrows ⊢
  cases hrefresh : s.refreshes key with
  | none =>
      simp only [hrefresh] at hgrows ⊢
      apply h.abandon hleft hgrows (by simp) rfl rfl rfl h.followUps
      exact fun d key' value hvalue => .inl hvalue
  | some refresh =>
      obtain ⟨inFlight, followUp⟩ := refresh
      cases followUp with
      | none =>
          simp only [hrefresh] at hgrows ⊢
          apply h.abandon hleft hgrows (by simp) rfl rfl rfl h.followUps
          exact fun d key' value hvalue => .inl hvalue
      | some d =>
          simp only [hrefresh] at hgrows ⊢
          have hpending := h.followUps key _ d hrefresh rfl
          apply h.abandon hleft hgrows (by simp [setDeferred]) rfl rfl rfl
          · intro key' refresh' d' hrefresh' hfollowUp
            by_cases hkey : key' = key
            · subst hkey
              simp only [setDeferred, Function.update_self, Option.some.injEq] at hrefresh'
              subst hrefresh'
              cases hfollowUp
            · simp only [setDeferred, Function.update_of_ne hkey] at hrefresh' ⊢
              have hpending' := h.followUps key' refresh' d' hrefresh' hfollowUp
              have hne : d ≠ d' := by
                rintro rfl
                rw [hpending] at hpending'
                exact hkey (by simpa using hpending'.symm)
              rw [List.getElem?_modify_ne _ _ hne]
              exact hpending'
          · intro d' key' value hvalue
            by_cases hd : d = d'
            · subst hd
              rw [hpending] at hvalue
              cases hvalue
              right
              refine ⟨rfl, true, ?_⟩
              simp [setDeferred, hpending]
            · left
              simp only [setDeferred]
              rw [List.getElem?_modify_ne _ _ hd]
              exact hvalue

theorem Work.select (h : Work s) (hown : s.SelectsOwn) (hleft : ∀ key, s.leftAt key ≤ s.now)
    (key : ProjectionKey) : Work (s.select key) := by
  cases select_cases hown key with
  | inl hsame =>
      rw [hsame.2]
      exact h
  | inr hchanges =>
      cases hchanges with
      | inl hleaves =>
          obtain ⟨previous, hselected, -, heq⟩ := hleaves
          rw [heq]
          exact h.leave hleft hselected _
      | inr hfirst =>
          rw [hfirst.2]
          exact h.mono hleft (.select_first hfirst.1) ⟨rfl, rfl, rfl, rfl, rfl⟩

theorem Work.deselect (h : Work s) (hreads : ReadsInv server s) (family : ProjectionFamily) :
    Work (s.deselect family) := by
  unfold WebView.deselect
  cases hselected : s.selected family with
  | none => exact h.mono hreads.left (.bump s family) ⟨rfl, rfl, rfl, rfl, rfl⟩
  | some key =>
      have hfamily := hreads.own.own _ _ hselected
      subst hfamily
      have hkey := isSelected_iff.mpr hselected
      have hleave := h.leave hreads.left hkey none
      have hleft := (Grows.leave hkey none).left hreads.left
      have hgeneration : (s.leave key).generation = s.generation := by
        obtain ⟨refreshes, deferreds, heq⟩ := leave_eq key s
        rw [heq]
      have hbump := hleave.mono hleft (.bump _ key.family) ⟨rfl, rfl, rfl, rfl, rfl⟩
      simp only [hgeneration] at hbump
      exact hbump

/-! ## The invariant of the window -/

/-- The halves of a composer refresh read a Run and a Thread. -/
def IsComposer (s : WebView) (composer : ComposerRefresh) : Prop :=
  ∃ run thread runId threadId, s.HasRead composer.run run ∧ run.key = .run runId ∧
    s.HasRead composer.thread thread ∧ thread.key = .thread threadId

structure Inv (server : ServerState) (s : WebView) : Prop where
  reads : Reads server s
  work : Work s
  composers : ∀ composer ∈ s.composers, s.IsComposer composer

theorem IsComposer.mono {composer : ComposerRefresh} (h : s.IsComposer composer)
    (hgrows : s.Grows s') : s'.IsComposer composer := by
  obtain ⟨run, thread, runId, threadId, hrun, hrunKey, hthread, hthreadKey⟩ := h
  obtain ⟨run', hrun', hcontinues⟩ := hgrows.reads _ run hrun
  obtain ⟨thread', hthread', hcontinues'⟩ := hgrows.reads _ thread hthread
  exact ⟨run', thread', runId, threadId, hrun', hcontinues.key.trans hrunKey, hthread',
    hcontinues'.key.trans hthreadKey⟩

/-- The window moves on within one point of time. -/
def Advances (server : ServerState) (s s' : WebView) : Prop := s.Grows s' ∧ Inv server s'

theorem Inv.advance (h : Inv server s) (hreads : s.Grows s' ∧ Reads server s') (hwork : Work s')
    (hcomposers : s'.composers = s.composers) : Advances server s s' := by
  refine ⟨hreads.1, hreads.2, hwork, ?_⟩
  rw [hcomposers]
  exact fun composer hcomposer => (h.composers composer hcomposer).mono hreads.1

theorem Inv.advance_reads (h : Inv server s) (hreads : s.Grows s' ∧ Reads server s')
    (hsame : s.SameWork s') (hcomposers : s'.composers = s.composers) : Advances server s s' :=
  h.advance hreads (h.work.mono h.reads.reads.left hreads.1 hsame) hcomposers

theorem select_composers (hown : s.SelectsOwn) (key : ProjectionKey) :
    (s.select key).composers = s.composers := by
  cases select_cases hown key with
  | inl hsame => rw [hsame.2]
  | inr hchanges =>
      cases hchanges with
      | inl hleaves =>
          obtain ⟨previous, -, -, heq⟩ := hleaves
          obtain ⟨refreshes, deferreds, hleave⟩ := leave_eq previous s
          rw [heq, hleave]
      | inr hfirst => rw [hfirst.2]

theorem deselect_composers (family : ProjectionFamily) (s : WebView) :
    (s.deselect family).composers = s.composers := by
  unfold deselect
  cases s.selected family with
  | none => rfl
  | some key =>
      obtain ⟨refreshes, deferreds, hleave⟩ := leave_eq key s
      simp only [hleave]

theorem Inv.load (h : Inv server s) (key : ProjectionKey) : Advances server s (s.load key) := by
  obtain ⟨hgrows, hselect⟩ := h.reads.reads.select key
  have hwork := h.work.select h.reads.reads.own h.reads.reads.left key
  apply h.advance (h.reads.load key)
  · exact hwork.mono hselect.left (.issue key .single _) ⟨rfl, rfl, rfl, rfl, rfl⟩
  · exact select_composers h.reads.reads.own key

theorem Inv.deselect (h : Inv server s) {family : ProjectionFamily}
    (halways : family.always = false) :
    Advances server s (s.deselect family) :=
  h.advance (h.reads.deselect halways) (h.work.deselect h.reads.reads family)
    (deselect_composers family s)

theorem Advances.trans (h : Advances server s s') {s'' : WebView}
    (h' : Advances server s' s'') : Advances server s s'' :=
  ⟨h.1.trans h'.1, h'.2⟩

/-! ## Coalesced refreshes -/

theorem Inv.startRefresh (h : Inv server s) (key : ProjectionKey) :
    Advances server s (s.startRefresh key).2 ∧
      ∀ time, (s.startRefresh key).2.Came key time →
        (s.startRefresh key).2.RefreshSince key time (s.startRefresh key).1 := by
  unfold WebView.startRefresh
  by_cases hselected : s.isSelected key = true
  · simp only [hselected, if_true]
    refine ⟨h.load key, ?_⟩
    intro time hcame
    obtain ⟨read, hread, hkey, hkind, hissued⟩ := h.reads.load_since key
    have hnow := hcame.1
    have hsame := (h.load key).1.now
    exact ⟨read, hread, hkey, hkind, by omega⟩
  · simp only [hselected, Bool.false_eq_true, if_false]
    refine ⟨⟨.refl s, h⟩, ?_⟩
    intro time hcame _
    cases hcame.2 with
    | inl hstill => exact absurd hstill hselected
    | inr hleft => exact .inl hleft

theorem select_of_isSelected (hselected : s.isSelected key = true) : s.select key = s := by
  unfold select
  rw [isSelected_iff.mp hselected]
  simp

theorem startRefresh_same (s : WebView) (key : ProjectionKey) :
    s.SameWork (s.startRefresh key).2 := by
  unfold startRefresh
  split
  · rename_i hselected
    simp only [WebView.load, select_of_isSelected hselected]
    exact ⟨rfl, rfl, rfl, rfl, rfl⟩
  · exact ⟨rfl, rfl, rfl, rfl, rfl⟩

theorem Inv.rework (h : Inv server s)
    (refreshes : ProjectionKey → Option CoalescedRefresh)
    (deferreds : List (ProjectionKey × Deferred))
    (invalidations : ProjectionKey → Option ProjectionInvalidation)
    (works : List InvalidationWork) (routed : List (Nat × ProjectionKey))
    (hwork : Work { s with refreshes, deferreds, invalidations, works, routed }) :
    Advances server s { s with refreshes, deferreds, invalidations, works, routed } :=
  h.advance ⟨.with_work s _ _ _ _ _ _, h.reads.with_work _ _ _ _ _ _⟩ hwork rfl

/-- Refreshes come and go, and each that was waited for still takes the events into account. -/
theorem Work.with_refreshes (h : Work s) (hleft : ∀ key, s.leftAt key ≤ s.now)
    (refreshes : ProjectionKey → Option CoalescedRefresh)
    (deferreds : List (ProjectionKey × Deferred))
    (hfollowUps : ∀ key refresh d, refreshes key = some refresh → refresh.followUp = some d →
      deferreds[d]? = some (key, .pending))
    (hdeferreds : ∀ (d : Nat) key value, s.deferreds[d]? = some (key, value) →
      ∃ value', deferreds[d]? = some (key, value') ∧
        ∀ time, s.Came key time → s.DeferredSince key time value →
          s.DeferredSince key time value') :
    Work { s with refreshes, deferreds } := by
  have hgrows : s.Grows { s with refreshes, deferreds } := .with_work s _ _ _ _ _ _
  constructor
  case followUps => exact hfollowUps
  case came => exact fun key time htime => (h.came key time htime).mono hgrows
  case routed =>
    intro time key hrouted
    cases h.routed time key hrouted with
    | inl hpending => exact .inl hpending
    | inr hhandled => exact .inr (hhandled.mono hgrows (hleft key))
  case works =>
    intro work hwork time htime
    obtain ⟨hcame, hpromised⟩ := h.works work hwork time htime
    refine ⟨hcame.mono hgrows, ?_⟩
    cases hpromise : work.promise with
    | refreshing refreshing =>
        rw [hpromise] at hpromised
        exact RefreshSince.mono hpromised hgrows (hleft _)
    | deferred d =>
        rw [hpromise] at hpromised
        obtain ⟨value, hvalue, hsince⟩ := hpromised
        obtain ⟨value', hvalue', hkeeps⟩ := hdeferreds d work.key value hvalue
        exact ⟨value', hvalue', (hkeeps time hcame hsince).mono hgrows (hleft _)⟩

/-- A refresh has been started and is the one of its key. -/
theorem Inv.started (h : Inv server s) (key : ProjectionKey) (refreshing : Refreshing) :
    Advances server s
      { s with refreshes := Function.update s.refreshes key (some ⟨refreshing, none⟩) } := by
  apply h.rework
  apply h.work.with_refreshes h.reads.reads.left
  · intro key' refresh d hrefresh hfollowUp
    by_cases hkey : key' = key
    · subst hkey
      rw [Function.update_self] at hrefresh
      cases hrefresh
      cases hfollowUp
    · rw [Function.update_of_ne hkey] at hrefresh
      exact h.work.followUps key' refresh d hrefresh hfollowUp
  · exact fun d key' value hvalue => ⟨value, hvalue, fun _ _ hsince => hsince⟩

theorem Inv.coalesce (h : Inv server s) (key : ProjectionKey) :
    Advances server s (s.coalesce key).2 ∧
      ∀ time, s.Came key time → (s.coalesce key).2.Promised key time (s.coalesce key).1 := by
  unfold WebView.coalesce
  cases hrefresh : s.refreshes key with
  | none =>
      obtain ⟨hadvances, hsince⟩ := h.startRefresh key
      have hstarted := hadvances.2.started key (s.startRefresh key).1
      refine ⟨hadvances.trans hstarted, ?_⟩
      intro time hcame
      exact (hsince time (hcame.mono hadvances.1)).mono hstarted.1
        (hadvances.2.reads.reads.left key)
  | some refresh =>
      obtain ⟨inFlight, followUp⟩ := refresh
      cases followUp with
      | some d =>
          refine ⟨⟨.refl s, h⟩, ?_⟩
          intro time _
          exact ⟨.pending, h.work.followUps key _ d hrefresh rfl, trivial⟩
      | none =>
          have hlast : (s.deferreds ++ [(key, Deferred.pending)])[s.deferreds.length]? =
              some (key, .pending) := List.getElem?_concat_length
          have hold : ∀ (d : Nat) key' value, s.deferreds[d]? = some (key', value) →
              (s.deferreds ++ [(key, Deferred.pending)])[d]? = some (key', value) := by
            intro d key' value hvalue
            rw [List.getElem?_append_left (List.getElem?_eq_some_iff.mp hvalue).1]
            exact hvalue
          refine ⟨?_, fun time _ => ⟨.pending, hlast, trivial⟩⟩
          apply h.rework
          apply h.work.with_refreshes h.reads.reads.left
          · intro key' refresh' d hrefresh' hfollowUp
            by_cases hkey : key' = key
            · subst hkey
              rw [Function.update_self] at hrefresh'
              cases hrefresh'
              cases hfollowUp
              exact hlast
            · rw [Function.update_of_ne hkey] at hrefresh'
              exact hold d key' _ (h.work.followUps key' refresh' d hrefresh' hfollowUp)
          · intro d key' value hvalue
            exact ⟨value, hold d key' value hvalue, fun _ _ hsince => hsince⟩

/-- What waited for the next refresh of a key follows it. -/
theorem Inv.followed (h : Inv server s) {refreshing : Refreshing}
    (hpending : s.deferreds[d]? = some (key, .pending))
    (hsince : ∀ time, s.Came key time → s.RefreshSince key time refreshing) :
    Advances server s
      (({ s with refreshes := Function.update s.refreshes key (some ⟨refreshing, none⟩) }
        ).setDeferred d (.follows refreshing)) := by
  apply h.rework
  apply h.work.with_refreshes h.reads.reads.left
  · intro key' refresh d' hrefresh hfollowUp
    dsimp only at hrefresh ⊢
    by_cases hkey : key' = key
    · subst hkey
      rw [Function.update_self] at hrefresh
      cases hrefresh
      cases hfollowUp
    · rw [Function.update_of_ne hkey] at hrefresh
      have hpending' := h.work.followUps key' refresh d' hrefresh hfollowUp
      have hne : d ≠ d' := by
        rintro rfl
        rw [hpending] at hpending'
        exact hkey (by simpa using hpending'.symm)
      rw [List.getElem?_modify_ne _ _ hne]
      exact hpending'
  · intro d' key' value hvalue
    by_cases hd : d = d'
    · subst hd
      rw [hpending] at hvalue
      cases hvalue
      refine ⟨.follows refreshing, ?_, fun time hcame _ => hsince time hcame⟩
      simp [hpending]
    · refine ⟨value, ?_, fun _ _ hsince' => hsince'⟩
      dsimp only
      rw [List.getElem?_modify_ne _ _ hd]
      exact hvalue

/-- A refresh is over; what waited for the next one waits for it now. -/
theorem Inv.refreshOver (h : Inv server s) {refresh : CoalescedRefresh}
    (hrefresh : s.refreshes key = some refresh) :
    Advances server s (s.refreshOver key refresh.followUp) := by
  unfold WebView.refreshOver
  cases hfollowUp : refresh.followUp with
  | none =>
      apply h.rework
      apply h.work.with_refreshes h.reads.reads.left
      · intro key' refresh' d hrefresh' hfollowUp'
        by_cases hkey : key' = key
        · subst hkey
          rw [Function.update_self] at hrefresh'
          cases hrefresh'
        · rw [Function.update_of_ne hkey] at hrefresh'
          exact h.work.followUps key' refresh' d hrefresh' hfollowUp'
      · exact fun d key' value hvalue => ⟨value, hvalue, fun _ _ hsince => hsince⟩
  | some d =>
      obtain ⟨hadvances, hsince⟩ := h.startRefresh key
      have hsame := startRefresh_same s key
      have hpending : (s.startRefresh key).2.deferreds[d]? = some (key, .pending) := by
        rw [hsame.deferreds]
        exact h.work.followUps key refresh d hrefresh hfollowUp
      exact hadvances.trans (hadvances.2.followed hpending hsince)

end WebView

end Torsor.Web
