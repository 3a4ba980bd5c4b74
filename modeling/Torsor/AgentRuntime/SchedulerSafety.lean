import Torsor.AgentRuntime.SchedulerInvariants

/-! # A pass of the scheduler

A pass enqueues Attentions, and its dispatches end, in any order and with any outcome. The
bounds of the scheduler hold throughout, and a pass that drains with nothing deferred has lost
no Attention.
-/

namespace Torsor.AgentRuntime

open Torsor.Library Torsor.Kernel

namespace AttentionScheduler

variable {options : AttentionSchedulerOptions} {s s' : AttentionScheduler}
  {projectId key : String} {queued : QueuedAttention}

/-! ## The end of a dispatch -/

/-- The state in which the pump finds the scheduler after a dispatch. -/
def ended (s : AttentionScheduler) (key : String) (queued : QueuedAttention)
    (result : Option AttentionDispatchResult) : AttentionScheduler :=
  { s with
    dispatched :=
      if result = some AttentionDispatchResult.dispatched then s.dispatched + 1 else s.dispatched
    failed := s.failed || result.isNone
    activeDomains := s.activeDomains.delete key }.settle key queued result

/-- What is counted as deferred after a dispatch. -/
def deferredAfter (s : AttentionScheduler) (key : String)
    (result : Option AttentionDispatchResult) : Int :=
  if result = some .blocked then s.deferred - s.domainDeferred key
  else if result = some .retry ∧ s.domainDeferred key = 0 then s.deferred + 1
  else s.deferred

/-- The domain is not dispatched any more. -/
def release (s : AttentionScheduler) (key : String) : AttentionScheduler :=
  { s with activeDomains := s.activeDomains.delete key }

theorem ended_eq {result : Option AttentionDispatchResult}
    (hqueued : s.queues.get key = some queued) :
    s.ended key queued result =
      { (s.release key).leave key queued.projectId (s.deferredAfter key result) with
        dispatched :=
          if result = some AttentionDispatchResult.dispatched then s.dispatched + 1
          else s.dispatched
        failed := s.failed || result.isNone } := by
  simp only [ended, settle, hqueued, Option.map_some, if_true]
  rfl

theorem Inv.ended {result : Option AttentionDispatchResult} (h : s.Inv options)
    (hactive : s.activeDomains.get key = some queued) :
    (s.ended key queued result).Inv options := by
  have hqueued := h.accounted.active key queued hactive
  have hidle : (s.activeDomains.delete key).get key = none := EntryMap.get_delete_self
  have haccounted : (s.release key).Accounted :=
    { h.accounted with
      active := by
        intro k q hget
        change (s.activeDomains.delete key).get k = some q at hget
        by_cases hk : k = key
        · rw [hk, hidle] at hget
          cases hget
        · rw [EntryMap.get_delete_of_ne hk] at hget
          exact h.accounted.active k q hget }
  have hlimited : (s.release key).Limited options :=
    { h.limited with
      concurrency := by
        have hsize := EntryMap.size_delete hactive
        have hlimit := h.limited.concurrency
        show (s.activeDomains.delete key).size ≤ options.concurrency
        omega }
  have hdeferred : s.deferred - s.domainDeferred key ≤ s.deferredAfter key result := by
    unfold deferredAfter
    split
    · exact le_refl _
    · split <;> omega
  have hleft : ((s.release key).leave key queued.projectId
      (s.deferredAfter key result)).Accounted :=
    haccounted.leave hqueued hidle rfl hdeferred
  have hleft' : ((s.release key).leave key queued.projectId
      (s.deferredAfter key result)).Limited options := hlimited.leave hqueued
  rw [ended_eq hqueued]
  refine ⟨{ hleft with }, ?_, { hleft' with }⟩
  refine ⟨?_, h.scheduled.readyNodup, h.scheduled.readyLists, h.scheduled.projects,
    h.scheduled.projectsNodup, h.scheduled.turns⟩
  intro other k
  show k ∈ s.projectReadyDomainSets other ↔ ∃ q, (s.queues.delete key).get k = some q ∧
    q.projectId = other ∧ (s.activeDomains.delete key).get k = none
  rw [h.scheduled.ready]
  by_cases hk : k = key
  · subst hk
    simp [EntryMap.get_delete_self, hactive]
  · rw [EntryMap.get_delete_of_ne hk, EntryMap.get_delete_of_ne hk]

/-! ## No Attention is lost -/

/-- The Attention was dispatched, or one of its domain was blocked. -/
def Settled (outcomes : List (AttentionView × Option AttentionDispatchResult))
    (attention : AttentionView) : Prop :=
  (attention, some .dispatched) ∈ outcomes ∨ ∃ other, (other, some .blocked) ∈ outcomes ∧
    attentionConflictDomain other = attentionConflictDomain attention

theorem Settled.cons {outcomes : List (AttentionView × Option AttentionDispatchResult)}
    {attention : AttentionView} (h : Settled outcomes attention)
    (outcome : AttentionView × Option AttentionDispatchResult) :
    Settled (outcome :: outcomes) attention := by
  cases h with
  | inl hdispatched => exact .inl (List.mem_cons_of_mem _ hdispatched)
  | inr hblocked =>
      obtain ⟨other, hother, hdomain⟩ := hblocked
      exact .inr ⟨other, List.mem_cons_of_mem _ hother, hdomain⟩

/-- What becomes of an Attention while only domains count as deferred. -/
def Kept (outcomes : List (AttentionView × Option AttentionDispatchResult))
    (s : AttentionScheduler) (attention : AttentionView) : Prop :=
  (∃ key queued, s.queues.get key = some queued ∧ queued.attention = attention) ∨
    s.domainDeferred (attentionConflictDomain attention) ≠ 0 ∨ Settled outcomes attention

def Covered (enqueued : List AttentionView)
    (outcomes : List (AttentionView × Option AttentionDispatchResult))
    (s : AttentionScheduler) : Prop :=
  s.failed = false → s.deferred = s.deferredInDomains →
    ∀ attention ∈ enqueued, Kept outcomes s attention

section Covered

variable {enqueued : List AttentionView} {attention : AttentionView}
  {outcomes : List (AttentionView × Option AttentionDispatchResult)}

theorem Covered.of_same (h : Covered enqueued outcomes s) (hsame : SameQueues s s') :
    Covered enqueued outcomes s' := by
  intro hfailed hdeferred a ha
  have hsum : s'.deferredInDomains = s.deferredInDomains := by
    rw [deferredInDomains, hsame.queues, hsame.domainDeferred]
    rfl
  have hkept := h (hsame.failed ▸ hfailed) (by rw [← hsame.deferred, hdeferred, hsum]) a ha
  unfold Kept
  rw [hsame.queues, hsame.domainDeferred]
  exact hkept

theorem Covered.notify (h : Covered enqueued outcomes s) (hookFails : Bool) :
    Covered enqueued outcomes (s.notifyRetainedChanged hookFails) := by
  intro hfailed hdeferred
  apply h _ hdeferred
  exact (Bool.or_eq_false_iff.mp hfailed).1

/-- More is counted than the domains have: nothing is promised. -/
theorem covered_of_lt (h : (s.deferredInDomains : Int) < s.deferred) :
    Covered enqueued outcomes s := by
  intro _ hdeferred
  omega

theorem Accounted.deferredInDomains_lt_defer (h : s.Accounted) :
    (s.defer.deferredInDomains : Int) < s.defer.deferred := by
  have hle := h.deferred
  show (s.deferredInDomains : Int) < s.deferred + 1
  omega

theorem Accounted.deferredInDomains_lt_evicted {next : AttentionScheduler} (h : s.Accounted)
    (hevicted : Evicted s projectId (true, next)) :
    (next.deferredInDomains : Int) < next.deferred := by
  cases hevicted with
  | some key queued rest hready hqueued hof hidle =>
      have hsum := deferredInDomains_leave (s := s.dropReady projectId rest) projectId
        (s.deferred + 1) hqueued
      have hle := h.deferred
      have hsame : (s.dropReady projectId rest).deferredInDomains = s.deferredInDomains := rfl
      show _ < s.deferred + 1
      omega

theorem Covered.join (h : Covered enqueued outcomes s) (hinv : s.Inv options)
    (hfree : s.queues.get (attentionConflictDomain attention) = none)
    (hidle : s.activeDomains.get (attentionConflictDomain attention) = none) :
    Covered (attention :: enqueued) outcomes (s.join attention) := by
  have heq := join_eq hinv.scheduled hfree hidle
  have hsum := deferredInDomains_join hinv.scheduled hinv.accounted hfree hidle
  have hqueues : (s.join attention).queues = s.queues.set (attentionConflictDomain attention)
      ⟨s.admissions, attention, attention.projectId⟩ := by rw [heq]
  intro hfailed hdeferred a ha
  have hkept : ∀ a ∈ enqueued, Kept outcomes s a := by
    apply h
    · rw [heq] at hfailed
      exact hfailed
    · rw [hsum, heq] at hdeferred
      exact hdeferred
  cases List.mem_cons.mp ha with
  | inl hnew =>
      refine .inl ⟨attentionConflictDomain attention,
        ⟨s.admissions, attention, attention.projectId⟩, ?_, hnew.symm⟩
      rw [hqueues, EntryMap.get_set_self]
  | inr hold =>
      obtain ⟨key, queued, hqueued, hof⟩ | hrest := hkept a hold
      · have hne : key ≠ attentionConflictDomain attention := by
          rintro rfl
          cases hfree.symm.trans hqueued
        refine .inl ⟨key, queued, ?_, hof⟩
        rw [hqueues, EntryMap.get_set_of_ne hne]
        exact hqueued
      · rw [heq]
        exact .inr hrest

theorem Covered.ended {result : Option AttentionDispatchResult} (h : Covered enqueued outcomes s)
    (hinv : s.Inv options) (hactive : s.activeDomains.get key = some queued) :
    Covered enqueued ((queued.attention, result) :: outcomes) (s.ended key queued result) := by
  have hqueued := hinv.accounted.active key queued hactive
  have hdomain := hinv.accounted.domains key queued hqueued
  have hsum := deferredInDomains_leave (s := s.release key) queued.projectId
    (s.deferredAfter key result) hqueued
  have hle := hinv.accounted.deferred
  have hsame : (s.release key).deferredInDomains = s.deferredInDomains := rfl
  rw [ended_eq hqueued]
  intro hfailed hdeferred
  have hfailed := Bool.or_eq_false_iff.mp hfailed
  change s.deferredAfter key result = (((s.release key).leave key queued.projectId
    (s.deferredAfter key result)).deferredInDomains : Int) at hdeferred
  have hdd : (s.release key).domainDeferred key = s.domainDeferred key := rfl
  -- only a blocked dispatch takes deferrals back; after any other one they stay
  obtain ⟨hbefore, hresult⟩ : s.deferred = s.deferredInDomains ∧
      (result = some .blocked ∨ result = some .dispatched ∧ s.domainDeferred key = 0) := by
    cases result with
    | none => cases hfailed.2
    | some result =>
        cases result with
        | dispatched =>
            have hafter : s.deferredAfter key (some .dispatched) = s.deferred := rfl
            exact ⟨by omega, .inr ⟨rfl, by omega⟩⟩
        | blocked =>
            have hafter : s.deferredAfter key (some .blocked) =
              s.deferred - s.domainDeferred key := rfl
            exact ⟨by omega, .inl rfl⟩
        | retry =>
            exfalso
            by_cases hzero : s.domainDeferred key = 0
            · have hafter : s.deferredAfter key (some .retry) = s.deferred + 1 := by
                simp [deferredAfter, hzero]
              omega
            · have hafter : s.deferredAfter key (some .retry) = s.deferred := by
                simp [deferredAfter, hzero]
              omega
  have hsettled : ∀ a, attentionConflictDomain a = key →
      a = queued.attention ∨ s.domainDeferred key ≠ 0 →
        Settled ((queued.attention, result) :: outcomes) a := by
    intro a ha hwhy
    obtain rfl | ⟨rfl, hzero⟩ := hresult
    · exact .inr ⟨queued.attention, List.mem_cons_self, hdomain.symm.trans ha.symm⟩
    · cases hwhy with
      | inl heq => exact .inl (heq ▸ List.mem_cons_self)
      | inr hne => exact absurd hzero hne
  intro a ha
  obtain ⟨k, q, hq, hof⟩ | hdeferredDomain | hdone := h hfailed.1 hbefore a ha
  · by_cases hk : k = key
    · subst hk
      cases hqueued.symm.trans hq
      exact .inr (.inr (hsettled a (by rw [← hof, ← hdomain]) (.inl hof.symm)))
    · exact .inl ⟨k, q, (EntryMap.get_delete_of_ne hk).trans hq, hof⟩
  · by_cases hk : attentionConflictDomain a = key
    · rw [hk] at hdeferredDomain
      exact .inr (.inr (hsettled a hk (.inr hdeferredDomain)))
    · refine .inr (.inl ?_)
      show Function.update s.domainDeferred key 0 (attentionConflictDomain a) ≠ 0
      rw [Function.update_of_ne hk]
      exact hdeferredDomain
  · exact .inr (.inr (hdone.cons _))

end Covered

/-! ## Calls -/

/-- What holds between the calls. -/
structure Pass (options : AttentionSchedulerOptions) (enqueued : List AttentionView)
    (outcomes : List (AttentionView × Option AttentionDispatchResult))
    (s : AttentionScheduler) : Prop where
  inv : s.Inv options
  busy : s.Busy options
  covered : Covered enqueued outcomes s

section Calls

variable {enqueued : List AttentionView} {attention : AttentionView}
  {outcomes : List (AttentionView × Option AttentionDispatchResult)}

theorem Pass.of_pump (hinv : s.Inv options) (hcovered : Covered enqueued outcomes s)
    (hookFails : Bool) :
    Pass options enqueued outcomes ((s.pump options).notifyRetainedChanged hookFails) := by
  obtain ⟨hpumped, hsame, hbusy⟩ := hinv.pump
  exact ⟨⟨{ hpumped.accounted with }, { hpumped.scheduled with }, { hpumped.limited with }⟩, hbusy,
    (hcovered.of_same hsame).notify hookFails⟩

/-- One more Attention of the domain is deferred. -/
def deferDomain (s : AttentionScheduler) (key : String) : AttentionScheduler :=
  { s.defer with
    domainDeferred := Function.update s.domainDeferred key (s.domainDeferred key + 1) }

theorem deferredInDomains_deferDomain (hqueued : s.queues.get key = some queued) :
    (s.deferDomain key).deferredInDomains = s.deferredInDomains + 1 := by
  have hbefore := deferredInDomains_leave "" 0 hqueued
  have hafter := deferredInDomains_leave (s := s.deferDomain key) "" 0 hqueued
  have hsame : ((s.deferDomain key).leave key "" 0).deferredInDomains =
      (s.leave key "" 0).deferredInDomains := by
    have hupdate : Function.update (s.deferDomain key).domainDeferred key 0 =
        Function.update s.domainDeferred key 0 := Function.update_idem _ _ _
    show ((s.queues.delete key).entries.map fun entry =>
      Function.update (s.deferDomain key).domainDeferred key 0 entry.1).sum = _
    rw [hupdate]
    rfl
  have hself : (s.deferDomain key).domainDeferred key = s.domainDeferred key + 1 :=
    Function.update_self _ _ _
  omega

theorem Inv.deferDomain (h : s.Inv options) (hqueued : s.queues.get key = some queued) :
    (s.deferDomain key).Inv options where
  accounted :=
    { h.accounted with
      deferredDomains := by
        intro k hk
        by_cases hkey : k = key
        · rw [hkey]
          show s.queues.get key ≠ none
          rw [hqueued]
          exact Option.some_ne_none _
        · change Function.update s.domainDeferred key _ k ≠ 0 at hk
          rw [Function.update_of_ne hkey] at hk
          exact h.accounted.deferredDomains k hk
      deferred := by
        have hle := h.accounted.deferred
        rw [deferredInDomains_deferDomain hqueued]
        show ((s.deferredInDomains + 1 : Nat) : Int) ≤ s.deferred + 1
        omega }
  scheduled := { h.scheduled with }
  limited := { h.limited with }

theorem Covered.deferDomain (h : Covered enqueued outcomes s)
    (hqueued : s.queues.get (attentionConflictDomain attention) = some queued) :
    Covered (attention :: enqueued) outcomes
      (s.deferDomain (attentionConflictDomain attention)) := by
  intro hfailed hdeferred
  rw [deferredInDomains_deferDomain hqueued] at hdeferred
  change s.deferred + 1 = ((s.deferredInDomains + 1 : Nat) : Int) at hdeferred
  have hbefore : s.deferred = s.deferredInDomains := by omega
  have hgrown : ∀ k, s.domainDeferred k ≠ 0 ∨ k = attentionConflictDomain attention →
      (s.deferDomain (attentionConflictDomain attention)).domainDeferred k ≠ 0 := by
    intro k hk
    show Function.update s.domainDeferred _ _ k ≠ 0
    by_cases hkey : k = attentionConflictDomain attention
    · rw [hkey, Function.update_self]
      exact Nat.succ_ne_zero _
    · rw [Function.update_of_ne hkey]
      exact hk.resolve_right hkey
  intro a ha
  cases List.mem_cons.mp ha with
  | inl hnew => exact .inr (.inl (hgrown _ (.inr (by rw [hnew]))))
  | inr hold =>
      obtain hkept | hdomain | hdone := h hfailed hbefore a hold
      · exact .inl hkept
      · exact .inr (.inl (hgrown _ (.inl hdomain)))
      · exact .inr (.inr hdone)

/-- An eviction puts nothing into the queues. -/
theorem Evicted.free {next : AttentionScheduler} (h : Evicted s projectId (true, next))
    (hfree : s.queues.get key = Option.none) : next.queues.get key = Option.none := by
  cases h with
  | some other queued rest hready hqueued hof hidle =>
      by_cases hkey : key = other
      · rw [hkey]
        exact EntryMap.get_delete_self
      · exact (EntryMap.get_delete_of_ne hkey).trans hfree

theorem Evicted.idle {next : AttentionScheduler} (h : Evicted s projectId (true, next)) :
    next.activeDomains = s.activeDomains := by
  cases h
  rfl

theorem Pass.enqueue (h : Pass options enqueued outcomes s) (attention : AttentionView)
    (hookFails : Bool) :
    Pass options (attention :: enqueued) outcomes (s.enqueue options attention hookFails).2 := by
  unfold AttentionScheduler.enqueue
  by_cases hknown : s.queues.get (attentionConflictDomain attention) ≠ none ∨
      s.activeDomains.get (attentionConflictDomain attention) ≠ none
  · rw [if_pos hknown]
    obtain ⟨queued, hqueued⟩ : ∃ queued,
        s.queues.get (attentionConflictDomain attention) = some queued := by
      cases hknown with
      | inl hqueued => exact Option.ne_none_iff_exists'.mp hqueued
      | inr hactive =>
          obtain ⟨queued, hactive⟩ := Option.ne_none_iff_exists'.mp hactive
          exact ⟨queued, h.inv.accounted.active _ _ hactive⟩
    exact ⟨h.inv.deferDomain hqueued, h.busy, h.covered.deferDomain hqueued⟩
  · rw [if_neg hknown]
    rw [not_or, not_not, not_not] at hknown
    obtain ⟨hfree, hidle⟩ := hknown
    have hcases := makeRoom_cases h.inv attention.projectId
    generalize s.makeRoom options attention.projectId = r at hcases
    cases hcases with
    | refused answer =>
        exact ⟨h.inv.defer, h.busy, covered_of_lt h.inv.accounted.deferredInDomains_lt_defer⟩
    | room hroomy =>
        have hjoined := h.inv.join hroomy hfree hidle
        exact Pass.of_pump hjoined (h.covered.join h.inv hfree hidle) hookFails
    | @evicted other next hevicted hroomy =>
        have hinv : next.Inv options := h.inv.evicted hevicted
        have hcovered : Covered enqueued outcomes next :=
          covered_of_lt (h.inv.accounted.deferredInDomains_lt_evicted hevicted)
        have hfree' := hevicted.free hfree
        have hidle' : next.activeDomains.get (attentionConflictDomain attention) = none := by
          rw [hevicted.idle]
          exact hidle
        have hjoined := hinv.join hroomy hfree' hidle'
        exact Pass.of_pump hjoined (hcovered.join hinv hfree' hidle') hookFails

theorem Pass.finish (h : Pass options enqueued outcomes s)
    (hactive : s.activeDomains.get key = some queued) (result : Option AttentionDispatchResult)
    (hookFails : Bool) :
    Pass options enqueued ((queued.attention, result) :: outcomes)
      (s.finish options key queued result hookFails) :=
  Pass.of_pump (h.inv.ended hactive) (h.covered.ended h.inv hactive) hookFails

end Calls

end AttentionScheduler

/-! ## Runs -/

/-- The scheduler of a pass, with the Attentions that were enqueued and how the dispatches
ended; `none` is an error. -/
structure SchedulerPass where
  scheduler : AttentionScheduler
  enqueued : List AttentionView
  outcomes : List (AttentionView × Option AttentionDispatchResult)

def SchedulerPass.start : SchedulerPass := ⟨AttentionScheduler.start, [], []⟩

inductive SchedulerEvent where
  | enqueue (attention : AttentionView) (hookFails : Bool)
  | finish (key : String) (result : Option AttentionDispatchResult) (hookFails : Bool)

/-- Attentions are enqueued, and whatever is being dispatched ends. -/
def schedulerMachine (options : AttentionSchedulerOptions) : Machine SchedulerEvent SchedulerPass
  | .enqueue attention hookFails, pass =>
      some
        { pass with
          scheduler := (pass.scheduler.enqueue options attention hookFails).2
          enqueued := attention :: pass.enqueued }
  | .finish key result hookFails, pass =>
      (pass.scheduler.activeDomains.get key).map fun queued =>
        { pass with
          scheduler := pass.scheduler.finish options key queued result hookFails
          outcomes := (queued.attention, result) :: pass.outcomes }

/-- The pass may be reached by some order of calls and of ends of dispatches. -/
def SchedulerPass.Reached (options : AttentionSchedulerOptions) (pass : SchedulerPass) : Prop :=
  (schedulerMachine options).Runs (fun _ _ => True) .start pass

theorem SchedulerPass.Reached.pass {options : AttentionSchedulerOptions} {pass : SchedulerPass}
    (h : pass.Reached options) :
    AttentionScheduler.Pass options pass.enqueued pass.outcomes pass.scheduler := by
  refine @Machine.Runs.invariant _ _ _ _ _ _ (fun pass : SchedulerPass =>
    AttentionScheduler.Pass options pass.enqueued pass.outcomes pass.scheduler) h ?_ ?_
  · refine ⟨AttentionScheduler.inv_start options, .inr rfl, ?_⟩
    intro _ _ attention hnone
    cases hnone
  · intro event before after hbefore _ hstep
    cases event with
    | enqueue attention hookFails =>
        cases hstep
        exact hbefore.enqueue attention hookFails
    | finish key result hookFails =>
        obtain ⟨queued, hactive, rfl⟩ := Option.map_eq_some_iff.mp hstep
        exact hbefore.finish hactive result hookFails

/-! ## The pass is safe -/

/-- The counters are right and within their limits, no place for a dispatch stays free while a
domain waits, and a pass that drains with nothing deferred has lost no Attention. -/
structure SchedulerSafe (options : AttentionSchedulerOptions) (pass : SchedulerPass) : Prop where
  buffered : pass.scheduler.buffered = pass.scheduler.queues.size ∧
    pass.scheduler.queues.size ≤ options.bufferLimit
  retained : ∀ projectId,
    pass.scheduler.retainedOf projectId = pass.scheduler.queuedOf projectId ∧
      pass.scheduler.queuedOf projectId ≤ options.projectLimit
  concurrency : pass.scheduler.activeDomains.size ≤ options.concurrency
  domains : (pass.scheduler.activeDomains.entries.map fun entry =>
    (entry.2.attention.targetAgentId, entry.2.attention.threadRootId)).Nodup
  busy : ∀ key, pass.scheduler.queues.get key ≠ none →
    pass.scheduler.activeDomains.get key = none →
      pass.scheduler.activeDomains.size = options.concurrency
  progress : 0 < options.concurrency → pass.scheduler.buffered ≠ 0 →
    pass.scheduler.activeDomains.size ≠ 0
  deferred : 0 ≤ pass.scheduler.deferred
  complete : ∀ dispatched, pass.scheduler.drain = some (dispatched, 0) →
    ∀ attention ∈ pass.enqueued, AttentionScheduler.Settled pass.outcomes attention

def sampleAttention (targetAgentId : String) : AttentionView where
  cursor := 1
  id := targetAgentId
  projectId := "project"
  channelId := "channel"
  threadRootId := "thread"
  messageRevisionId := "revision"
  targetAgentId
  triggerKind := "mention"
  status := .Open
  revision := 1
  handlerLeaseHolderPrincipalId := none
  handlerLeaseExpiresAt := none
  resolutionOutcome := none
  resolvedRunId := none
  createdAt := 0
  resolvedAt := none

def oneAtATime : AttentionSchedulerOptions := ⟨1, 2, 2⟩

def twoEnqueued : SchedulerPass where
  scheduler :=
    ((AttentionScheduler.start.enqueue oneAtATime (sampleAttention "alice") false).2.enqueue
      oneAtATime (sampleAttention "bob") false).2
  enqueued := [sampleAttention "bob", sampleAttention "alice"]
  outcomes := []

theorem twoEnqueued_reached : twoEnqueued.Reached oneAtATime :=
  .tail (.enqueue (sampleAttention "bob") false)
    (.tail (.enqueue (sampleAttention "alice") false) .refl trivial rfl) trivial rfl

example : twoEnqueued.scheduler.buffered = 2 ∧ twoEnqueued.scheduler.activeDomains.size = 1 := by
  decide +kernel

end Torsor.AgentRuntime
