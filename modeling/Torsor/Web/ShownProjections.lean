import Torsor.Web.Invalidations

/-! # What is shown of a projection

Over whole sessions: an event that is no longer pending for a projection is reflected by what
is shown of it, as long as no refresh of the Run composer puts an older item in a list. The
code compares revisions there, but a Run changes in ways that leave its revision as it is.
-/

namespace Torsor.Web

open Torsor.Library Torsor.Kernel

namespace WebView

/-- A request for the key, issued at the time or later, has been shown, and what is shown
reflects a read of the server at least as late. -/
def ShownSince (s : WebView) (key : ProjectionKey) (time : Nat) : Prop :=
  ∃ read ∈ s.reads, read.key = key ∧ read.applied = true ∧ time ≤ read.issuedAt ∧
    ∃ readAt, read.readAt = some readAt ∧
      ∃ shown, s.shown key = some shown ∧ shown.reflects readAt

/-- Events that are not pending are handled, and what is shown of a key reflects every request
for it that was issued since its selection was left and has been shown. -/
structure NoLostInvalidation (s : WebView) : Prop where
  handled : ∀ time key, (time, key) ∈ s.routed → time ∉ s.pending key →
    time < s.leftAt key ∨ s.ShownSince key time
  newest : ∀ read ∈ s.reads, read.applied = true → s.leftAt read.key < read.issuedAt →
    ∃ readAt, read.readAt = some readAt ∧
      ∃ shown, s.shown read.key = some shown ∧ shown.reflects readAt

end WebView

open WebView

/-- A composer that settles replaces no item of a list that the server read later. -/
def PatchesNothingNewer (server : ServerState) : WebEvent → WebView → Prop
  | .settleComposer c, s =>
      ∀ p ∈ s.settling c,
        (s.showsHalf p.1.run p.1.thread p.2.1 p.2.2 = true → s.patchesOlder server p.2.1 = true) ∧
        (s.showsHalf p.1.thread p.1.run p.2.2 p.2.1 = true → s.patchesOlder server p.2.2 = true)
  | _, _ => True

instance (server : ServerState) (e : WebEvent) (s : WebView) :
    Decidable (PatchesNothingNewer server e s) := by
  cases e <;> unfold PatchesNothingNewer <;> infer_instance

namespace WebView

variable {s s' : WebView} {server : ServerState} {key : ProjectionKey} {time n : Nat}

/-! ## Every event keeps the invariant -/

theorem Inv.handle (h : Inv server s) (e : WebEvent) (hallowed : PatchesNothingNewer server e s)
    (hstep : s.handle server e = some s') : Advances server s s' := by
  cases e with
  | apply event =>
      cases hstep
      exact h.applyEvent event
  | load key =>
      cases hstep
      exact h.load key
  | clearRun =>
      cases hstep
      exact h.deselect rfl
  | clearThread =>
      cases hstep
      have hthread : Advances server s (s.deselect .thread) := h.deselect rfl
      exact hthread.trans (hthread.2.deselect rfl)
  | refreshRunComposer runId threadId =>
      simp only [WebView.handle] at hstep
      split at hstep
      · cases hstep
        exact h.refreshRunComposer runId threadId
      · cases hstep
  | serve n =>
      obtain ⟨read, hread, hserve⟩ := Option.bind_eq_some_iff.mp hstep
      split at hserve
      · rename_i hguard
        cases hserve
        exact h.modify (h.reads.serve hread hguard.1)
      · cases hserve
  | respond n =>
      obtain ⟨read, hread, hrespond⟩ := Option.bind_eq_some_iff.mp hstep
      split at hrespond
      · rename_i time hkind hstate htime
        have hadvances := h.respond hread hstate hkind htime
        split at hrespond
        · rename_i hcurrent
          cases hrespond
          rwa [if_pos hcurrent] at hadvances
        · rename_i hcurrent
          cases hrespond
          rwa [if_neg hcurrent] at hadvances
      · cases hrespond
  | fail n reauthenticated =>
      obtain ⟨read, hread, hfail⟩ := Option.bind_eq_some_iff.mp hstep
      split at hfail
      · rename_i hkind hstate
        have hne : read.state ≠ .settled true := by simp [hstate]
        split at hfail
        · split at hfail
          · cases hfail
            exact h.reload hread hstate
          · cases hfail
            exact h.modify (h.reads.settleFalse hread hne)
        · cases hfail
          exact h.replaced hread hne
      · cases hfail
  | fetchHalf n ok =>
      obtain ⟨read, hread, hfetch⟩ := Option.bind_eq_some_iff.mp hstep
      split at hfetch
      · rename_i hguard
        cases hfetch
        obtain ⟨-, hstate, hserved⟩ := hguard
        apply h.modify
        apply h.reads.setReadState hread (by simp [hstate]) _ (by simp) (by simp)
        intro hfetched
        exact hserved (by simpa using hfetched)
      · cases hfetch
  | refetchHalf n =>
      obtain ⟨read, hread, hrefetch⟩ := Option.bind_eq_some_iff.mp hstep
      split at hrefetch
      · rename_i hguard
        cases hrefetch
        exact h.modify (h.reads.refetch hread hguard.2.1)
      · cases hrefetch
  | settleComposer c =>
      simp only [WebView.handle, Option.bind_eq_bind, Option.bind_eq_some_iff] at hstep
      obtain ⟨composer, hcomposer, run, hrun, thread, hthread, hsettle⟩ := hstep
      split at hsettle
      · rename_i runOk threadOk hrunState hthreadState
        cases hsettle
        have hsettling : s.settling c = some (composer, run, thread) := by
          simp [settling, hcomposer, hrun, hthread]
        obtain ⟨hrunPatches, hthreadPatches⟩ := hallowed _ hsettling
        exact h.settleComposer (List.mem_of_getElem? hcomposer) hrun hthread hrunState
          hthreadState hrunPatches hthreadPatches
      · cases hsettle
  | resume n =>
      obtain ⟨read, hread, hresume⟩ := Option.bind_eq_some_iff.mp hstep
      split at hresume
      · rename_i m hstate
        obtain ⟨value, hvalue, heq⟩ := Option.map_eq_some_iff.mp hresume
        cases heq
        have hadvances : Advances server s (s.setReadState n (.settled (value && true))) :=
          h.resume hread (.inr hstate) hvalue
        rwa [Bool.and_true] at hadvances
      · rename_i m hstate
        obtain ⟨value, hvalue, heq⟩ := Option.map_eq_some_iff.mp hresume
        cases heq
        exact h.resume hread (.inl hstate) hvalue
      · cases hresume
  | refreshOver key =>
      simp only [WebView.handle, Option.bind_eq_bind, Option.bind_eq_some_iff] at hstep
      obtain ⟨refresh, hrefresh, _, -, hover⟩ := hstep
      cases hover
      exact h.refreshOver hrefresh
  | workOver w =>
      simp only [WebView.handle, Option.bind_eq_bind, Option.bind_eq_some_iff] at hstep
      obtain ⟨work, hwork, succeeded, hvalue, hover⟩ := hstep
      cases hover
      have herase := h.eraseWork w
      refine herase.trans (herase.2.workOver succeeded ?_)
      intro hsucceeded time htime
      subst hsucceeded
      have hpromised := (h.work.works work (List.mem_of_getElem? hwork) time htime).2
      exact (hpromised.handled h.reads hvalue).mono herase.1 (h.reads.reads.left _)
  | retry key =>
      obtain ⟨invalidation, hinvalidation, heq⟩ := Option.map_eq_some_iff.mp hstep
      cases heq
      exact h.retry hinvalidation
  | reconnect runId =>
      simp only [WebView.handle] at hstep
      split at hstep
      · cases hstep
        exact (h.coalesce (.run runId)).1
      · cases hstep

/-! ## Time passes -/

def tick (s : WebView) : WebView := { s with now := s.now + 1 }

theorem ReadOk.tick {read : ProjectionRead} (h : s.ReadOk read) : s.tick.ReadOk read :=
  { h with
    issued := Nat.le_succ_of_le h.issued
    served := fun time htime =>
      ⟨(h.served time htime).1, Nat.le_succ_of_le (h.served time htime).2⟩ }

theorem Promised.tick {promise : RefreshPromise} (h : s.Promised key time promise) :
    s.tick.Promised key time promise := by
  cases promise with
  | refreshing refreshing => cases refreshing <;> exact h
  | deferred d =>
      obtain ⟨value, hvalue, hsince⟩ := h
      refine ⟨value, hvalue, ?_⟩
      cases value with
      | pending => trivial
      | follows refreshing => cases refreshing <;> exact hsince
      | resolved succeeded => exact hsince

theorem Came.tick (h : s.Came key time) : s.tick.Came key time :=
  ⟨Nat.le_succ_of_le h.1, h.2⟩

theorem Inv.tick (h : Inv server s) : Inv server s.tick where
  reads :=
    { reads := { h.reads.reads with
        own := { h.reads.reads.own with }
        left := fun key => Nat.le_succ_of_le (h.reads.reads.left key)
        each := fun n read hread => (h.reads.reads.each n read hread).tick }
      latest := { h.reads.latest with } }
  work :=
    { h.work with
      came := fun key time htime => (h.work.came key time htime).tick
      works := fun work hwork time htime =>
        ⟨(h.work.works work hwork time htime).1.tick,
          (h.work.works work hwork time htime).2.tick⟩ }
  composers := h.composers

theorem Inv.ready (server : ServerState) : Inv server (ready server) where
  reads :=
    { reads :=
        { own :=
            { own := by
                intro family key hselected
                cases family <;> simp [WebView.ready] at hselected <;> subst hselected <;> rfl
              always := by
                intro family hfamily
                cases family <;> first | rfl | cases hfamily }
          left := fun _ => Nat.zero_le _
          each := by simp [HasRead, WebView.ready]
          unique := by simp [HasRead, WebView.ready]
          newest := by simp [HasRead, WebView.ready]
          covers := by simp [HasRead, WebView.ready]
          shownRun := by simp [WebView.ready] }
      latest := { latest := by simp [WebView.ready] } }
  work :=
    { followUps := by simp [WebView.ready]
      came := by simp [WebView.ready, pending]
      works := by simp [WebView.ready]
      routed := by simp [WebView.ready] }
  composers := by simp [WebView.ready]

/-! ### Navigation and events come at different times -/

theorem load_routed (hown : s.SelectsOwn) (key : ProjectionKey) :
    (s.load key).routed = s.routed := by
  have hselect : (s.select key).routed = s.routed := by
    cases select_cases hown key with
    | inl hsame => rw [hsame.2]
    | inr hchanges =>
        cases hchanges with
        | inl hleaves =>
            obtain ⟨previous, -, -, heq⟩ := hleaves
            obtain ⟨refreshes, deferreds, hleave⟩ := leave_eq previous s
            rw [heq, hleave]
        | inr hfirst => rw [hfirst.2]
  exact hselect

theorem deselect_routed (family : ProjectionFamily) (s : WebView) :
    (s.deselect family).routed = s.routed := by
  unfold deselect
  cases s.selected family with
  | none => rfl
  | some key =>
      obtain ⟨refreshes, deferreds, hleave⟩ := leave_eq key s
      simp only [hleave]

theorem coalesce_routed (key : ProjectionKey) (s : WebView) :
    (s.coalesce key).2.routed = s.routed := by
  unfold coalesce
  split
  · rfl
  · rfl
  · exact (startRefresh_same s key).routed

theorem refreshOver_routed (key : ProjectionKey) (followUp : Option Nat) (s : WebView) :
    (s.refreshOver key followUp).routed = s.routed := by
  unfold refreshOver
  split
  · rfl
  · exact (startRefresh_same s key).routed

theorem workOver_routed (work : InvalidationWork) (succeeded : Bool) (s : WebView) :
    (s.workOver work succeeded).routed = s.routed := by
  have hreconcile : (s.reconcile work.key work.eventIds).routed = s.routed := by
    obtain ⟨invalidations, heq⟩ := reconcile_eq work.key work.eventIds s
    rw [heq]
  unfold workOver
  split
  · split
    · split
      · exact hreconcile
      · rfl
    · rfl
  · rfl
  · split
    · exact hreconcile
    · rfl

theorem queue_routed (key : ProjectionKey) (s : WebView) :
    (s.queue key).routed = s.routed ++ [(s.now, key)] := by
  unfold queue
  simp only
  split
  · rfl
  · exact coalesce_routed key (s.register key)

/-- An event is routed to its keys as it comes. -/
theorem queue_all_routed (keys : List ProjectionKey) (s : WebView) :
    s.SameSelections (keys.foldl (fun s key => s.queue key) s) ∧
      ∀ time key, (time, key) ∈ (keys.foldl (fun s key => s.queue key) s).routed →
        (time, key) ∈ s.routed ∨ time = s.now := by
  induction keys generalizing s with
  | nil => exact ⟨⟨rfl, rfl, rfl⟩, fun _ _ hrouted => .inl hrouted⟩
  | cons first keys ih =>
      obtain ⟨hselections, hrouted⟩ := ih (s.queue first)
      have hqueue := queue_selections first s
      refine ⟨hqueue.trans hselections, ?_⟩
      intro time key hmem
      cases hrouted time key hmem with
      | inl hbefore =>
          rw [queue_routed] at hbefore
          cases List.mem_append.mp hbefore with
          | inl hold => exact .inl hold
          | inr hnew =>
              cases List.mem_singleton.mp hnew
              exact .inr rfl
      | inr hnow => exact .inr (hnow.trans hqueue.now)

/-- Events are routed and no key is left, or nothing is routed. -/
theorem handle_routed (h : Inv server s) (e : WebEvent) (hstep : s.handle server e = some s') :
    s'.routed = s.routed ∨
      (s'.leftAt = s.leftAt ∧ ∀ time key, (time, key) ∈ s'.routed →
        (time, key) ∈ s.routed ∨ time = s.now) := by
  have hown := h.reads.reads.own
  cases e with
  | apply event =>
      cases hstep
      obtain ⟨hselections, hrouted⟩ := queue_all_routed (s.routes event) s
      exact .inr ⟨hselections.leftAt, hrouted⟩
  | load key =>
      cases hstep
      exact .inl (load_routed hown key)
  | clearRun =>
      cases hstep
      exact .inl (deselect_routed .run s)
  | clearThread =>
      cases hstep
      exact .inl ((deselect_routed .run _).trans (deselect_routed .thread s))
  | refreshRunComposer runId threadId =>
      simp only [WebView.handle] at hstep
      split at hstep
      · cases hstep
        left
        unfold WebView.refreshRunComposer
        simp only
        split <;> rfl
      · cases hstep
  | serve n =>
      obtain ⟨read, -, hserve⟩ := Option.bind_eq_some_iff.mp hstep
      split at hserve <;> cases hserve
      exact .inl rfl
  | respond n =>
      obtain ⟨read, -, hrespond⟩ := Option.bind_eq_some_iff.mp hstep
      split at hrespond
      · obtain ⟨f, heq⟩ := replaced_eq n read s
        split at hrespond <;> cases hrespond
        · exact .inl rfl
        · rw [heq]
          exact .inl rfl
      · cases hrespond
  | fail n reauthenticated =>
      obtain ⟨read, -, hfail⟩ := Option.bind_eq_some_iff.mp hstep
      split at hfail
      · obtain ⟨f, heq⟩ := replaced_eq n read s
        split at hfail
        · split at hfail <;> cases hfail
          · exact .inl (load_routed hown read.key)
          · exact .inl rfl
        · cases hfail
          rw [heq]
          exact .inl rfl
      · cases hfail
  | fetchHalf n ok =>
      obtain ⟨read, -, hfetch⟩ := Option.bind_eq_some_iff.mp hstep
      split at hfetch <;> cases hfetch
      exact .inl rfl
  | refetchHalf n =>
      obtain ⟨read, -, hrefetch⟩ := Option.bind_eq_some_iff.mp hstep
      split at hrefetch <;> cases hrefetch
      exact .inl rfl
  | settleComposer c =>
      simp only [WebView.handle, Option.bind_eq_bind, Option.bind_eq_some_iff] at hstep
      obtain ⟨composer, -, run, -, thread, -, hsettle⟩ := hstep
      split at hsettle <;> cases hsettle
      rename_i runOk threadOk _ _
      obtain ⟨reads, shown, heq⟩ := settleComposer_eq hown server composer run thread runOk
        threadOk (run.readAt.getD 0) (thread.readAt.getD 0)
      rw [heq]
      exact .inl rfl
  | resume n =>
      obtain ⟨read, -, hresume⟩ := Option.bind_eq_some_iff.mp hstep
      split at hresume
      · obtain ⟨value, -, heq⟩ := Option.map_eq_some_iff.mp hresume
        cases heq
        exact .inl rfl
      · obtain ⟨value, -, heq⟩ := Option.map_eq_some_iff.mp hresume
        cases heq
        exact .inl rfl
      · cases hresume
  | refreshOver key =>
      simp only [WebView.handle, Option.bind_eq_bind, Option.bind_eq_some_iff] at hstep
      obtain ⟨refresh, -, _, -, hover⟩ := hstep
      cases hover
      exact .inl (refreshOver_routed key refresh.followUp s)
  | workOver w =>
      simp only [WebView.handle, Option.bind_eq_bind, Option.bind_eq_some_iff] at hstep
      obtain ⟨work, -, succeeded, -, hover⟩ := hstep
      cases hover
      exact .inl (workOver_routed work succeeded _)
  | retry key =>
      obtain ⟨invalidation, -, heq⟩ := Option.map_eq_some_iff.mp hstep
      cases heq
      exact .inl (coalesce_routed key _)
  | reconnect runId =>
      simp only [WebView.handle] at hstep
      split at hstep
      · cases hstep
        exact .inl (coalesce_routed (.run runId) s)
      · cases hstep

/-- Events have come, and selections were left, at other times each. -/
structure Apart (s : WebView) : Prop where
  left : ∀ key, s.leftAt key < s.now
  routed : ∀ time key, (time, key) ∈ s.routed → time < s.now ∧ time ≠ s.leftAt key

theorem Apart.step (h : Apart s) (hgrows : s.Grows s')
    (hrouted : s'.routed = s.routed ∨
      (s'.leftAt = s.leftAt ∧ ∀ time key, (time, key) ∈ s'.routed →
        (time, key) ∈ s.routed ∨ time = s.now)) : Apart s'.tick where
  left key := by
    have hcases := hgrows.leftAt key
    have hleft := h.left key
    have hnow := hgrows.now
    simp only [tick]
    omega
  routed time key hmem := by
    have hmem' : (time, key) ∈ s'.routed := hmem
    have hnow := hgrows.now
    have hcases := hgrows.leftAt key
    have hleft := h.left key
    simp only [tick]
    cases hrouted with
    | inl hsame =>
        rw [hsame] at hmem'
        have hapart := h.routed time key hmem'
        omega
    | inr hnew =>
        have hleftSame := congrFun hnew.1 key
        cases hnew.2 time key hmem' with
        | inl hold =>
            have hapart := h.routed time key hold
            omega
        | inr htime => omega

theorem Apart.ready (server : ServerState) : Apart (ready server) where
  left _ := Nat.zero_lt_one
  routed := by simp [WebView.ready]

/-! ## Whole sessions -/

theorem Inv.shownSince (h : Inv server s) (hhandled : s.Handled key time)
    (hleft : ¬ time ≤ s.leftAt key) : s.ShownSince key time := by
  cases hhandled with
  | inl hleft' => exact absurd hleft' hleft
  | inr hshown =>
      obtain ⟨n, read, hread, rfl, happlied, hissued⟩ := hshown
      obtain ⟨-, -, hserved⟩ := (h.reads.reads.each n read hread).applied happlied
      obtain ⟨readAt, hreadAt⟩ := Option.isSome_iff_exists.mp hserved
      obtain ⟨shown, hshown, hreflects⟩ :=
        h.reads.reads.covers n read readAt hread happlied (by omega) hreadAt
      exact ⟨read, List.mem_of_getElem? hread, rfl, happlied, hissued, readAt, hreadAt, shown,
        hshown, hreflects⟩

theorem Inv.noLostInvalidation (h : Inv server s) (hapart : Apart s) : s.NoLostInvalidation where
  handled time key hrouted hpending := by
    have hhandled : s.Handled key time := by
      cases h.work.routed time key hrouted with
      | inl hpending' => exact absurd hpending' hpending
      | inr hhandled => exact hhandled
    have hne := (hapart.routed time key hrouted).2
    by_cases hleft : time ≤ s.leftAt key
    · exact .inl (by omega)
    · exact .inr (h.shownSince hhandled hleft)
  newest read hmem happlied hleft := by
    obtain ⟨n, hread⟩ := List.getElem?_of_mem hmem
    obtain ⟨-, -, hserved⟩ := (h.reads.reads.each n read hread).applied happlied
    obtain ⟨readAt, hreadAt⟩ := Option.isSome_iff_exists.mp hserved
    obtain ⟨shown, hshown, hreflects⟩ :=
      h.reads.reads.covers n read readAt hread happlied hleft hreadAt
    exact ⟨readAt, hreadAt, shown, hshown, hreflects⟩

theorem runs_inv (h : (webMachine server).Runs (PatchesNothingNewer server) (ready server) s) :
    Inv server s ∧ Apart s := by
  apply h.invariant ⟨Inv.ready server, Apart.ready server⟩
  intro e t t' hinv hallowed hstep
  obtain ⟨t'', hhandle, rfl⟩ := Option.map_eq_some_iff.mp hstep
  have hadvances := hinv.1.handle e hallowed hhandle
  exact ⟨hadvances.2.tick, hinv.2.step hadvances.1 (handle_routed hinv.1 e hhandle)⟩

end WebView

/-- As long as no composer patches a list with an older item, no invalidation is lost. -/
theorem no_invalidation_lost (server : ServerState) (s : WebView)
    (hrun : (webMachine server).Runs (PatchesNothingNewer server) (ready server) s) :
    s.NoLostInvalidation :=
  (runs_inv hrun).1.noLostInvalidation (runs_inv hrun).2

/-! ## A list goes back -/

def steadyServer : ServerState where
  runs := fun _ => ["r"]
  threads := fun _ _ => []
  revision := fun _ _ => 1
  cursor := fun _ _ => 1
  revision_mono := fun _ _ _ _ => Nat.le_refl _

def attemptEvent : InvalidatingEvent := ⟨none, none, .ProviderAttempt, some "r"⟩

/-- While a Run is read for an event, its composer is refreshed; the server reads the Run before
another event comes, and the composer settles after the list of Runs was read again for it. -/
def staleEvents : List WebEvent :=
  [.load (.run "r"), .serve 0, .respond 0,
    .apply attemptEvent, .refreshRunComposer "r" "t", .serve 3,
    .serve 2, .respond 2, .refreshOver .runs, .workOver 1,
    .apply attemptEvent, .serve 5, .respond 5, .workOver 2,
    .serve 4, .fetchHalf 3 true, .fetchHalf 4 true, .settleComposer 0]

def staleWebView : WebView :=
  ((webMachine steadyServer).play staleEvents (ready steadyServer)).getD (ready steadyServer)

def freshWebView : WebView :=
  (((webMachine steadyServer).guarded (PatchesNothingNewer steadyServer)).play
    staleEvents.dropLast (ready steadyServer)).getD (ready steadyServer)

/-- The second event is no longer pending for the list, which shows the Run as it was before. -/
theorem composer_patches_newer :
    (webMachine steadyServer).play staleEvents (ready steadyServer) = some staleWebView ∧
      ¬ staleWebView.NoLostInvalidation := by
  refine ⟨rfl, ?_⟩
  intro h
  have hshown : staleWebView.shown .runs = some ⟨12, [⟨"r", 1, 6⟩]⟩ := by decide +kernel
  have hreads : ∀ read ∈ staleWebView.reads, read.key = .runs → read.applied = true →
      11 ≤ read.issuedAt → read.readAt = some 12 := by decide +kernel
  have hleft : staleWebView.leftAt .runs = 0 := by decide +kernel
  cases h.handled 11 .runs (by decide +kernel) (by decide +kernel) with
  | inl hnever => omega
  | inr hsince =>
      obtain ⟨read, hread, hkey, happlied, hissued, readAt, hreadAt, shown, hshown', hreflects⟩ :=
        hsince
      rw [hreads read hread hkey happlied hissued] at hreadAt
      cases hreadAt
      rw [hshown] at hshown'
      cases hshown'
      have hitem := hreflects.2 ⟨"r", 1, 6⟩ (List.mem_singleton_self _)
      simp only at hitem
      omega

theorem no_invalidation_lost_before : freshWebView.NoLostInvalidation :=
  no_invalidation_lost steadyServer freshWebView (Machine.Runs.of_play staleEvents.dropLast rfl)

end Torsor.Web
