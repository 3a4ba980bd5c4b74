import Torsor.AgentRuntime.AttentionScheduler
import Mathlib.Algebra.GroupWithZero.Nat

/-! # What the scheduler keeps

The counters of the scheduler count its queues, a domain waits in the ready list of its Project
until it is dispatched or given up, and a Project with such a domain has its turn to come.
-/

namespace Torsor.AgentRuntime

open Torsor.Library Torsor.Kernel

namespace AttentionScheduler

variable {options : AttentionSchedulerOptions} {s s' : AttentionScheduler}
  {projectId key : String} {queued : QueuedAttention}

/-! ## The invariant -/

/-- The number of queued domains of the Project. -/
def queuedOf (s : AttentionScheduler) (projectId : String) : Nat :=
  s.queues.entries.countP fun entry => entry.2.projectId = projectId

/-- The deferrals that are taken back when the dispatch of their domain is blocked. -/
def deferredInDomains (s : AttentionScheduler) : Nat :=
  (s.queues.entries.map fun entry => s.domainDeferred entry.1).sum

/-- How the queues, the dispatches and the counters go together. -/
structure Accounted (s : AttentionScheduler) : Prop where
  active : ∀ key queued, s.activeDomains.get key = some queued → s.queues.get key = some queued
  domains : ∀ key queued, s.queues.get key = some queued →
    key = attentionConflictDomain queued.attention
  buffered : s.buffered = s.queues.size
  retained : ∀ projectId, s.retainedOf projectId = s.queuedOf projectId
  deferredDomains : ∀ key, s.domainDeferred key ≠ 0 → s.queues.get key ≠ none
  deferred : (s.deferredInDomains : Int) ≤ s.deferred

/-- The ready lists hold the domains that wait, and every Project with one has its turn. -/
structure Scheduled (s : AttentionScheduler) : Prop where
  ready : ∀ projectId key, key ∈ s.projectReadyDomainSets projectId ↔
    ∃ queued, s.queues.get key = some queued ∧ queued.projectId = projectId ∧
      s.activeDomains.get key = none
  readyNodup : ∀ projectId, (s.projectReadyDomainSets projectId).Nodup
  readyLists : s.projectReadyDomains = s.projectReadyDomainSets
  projects : s.readyProjects = s.readyProjectSet
  projectsNodup : s.readyProjectSet.Nodup
  turns : ∀ projectId, s.projectReadyDomainSets projectId ≠ [] → projectId ∈ s.readyProjectSet

structure Limited (options : AttentionSchedulerOptions) (s : AttentionScheduler) : Prop where
  concurrency : s.activeDomains.size ≤ options.concurrency
  bufferLimit : s.queues.size ≤ options.bufferLimit
  projectLimit : ∀ projectId, s.queuedOf projectId ≤ options.projectLimit

structure Inv (options : AttentionSchedulerOptions) (s : AttentionScheduler) : Prop where
  accounted : s.Accounted
  scheduled : s.Scheduled
  limited : s.Limited options

theorem inv_start (options : AttentionSchedulerOptions) : Inv options start where
  accounted := by
    refine ⟨?_, ?_, rfl, ?_, ?_, le_refl _⟩
    · intro key queued h
      cases h
    · intro key queued h
      cases h
    · intro projectId
      rfl
    · intro key h
      exact absurd rfl h
  scheduled := by
    refine ⟨?_, fun _ => List.nodup_nil, rfl, rfl, List.nodup_nil, ?_⟩
    · intro projectId key
      simp [start, EntryMap.get, EntryMap.empty]
    · intro projectId h
      exact absurd rfl h
  limited := ⟨Nat.zero_le _, Nat.zero_le _, fun _ => Nat.zero_le _⟩

/-! ## Ready domains -/

/-- The first domain of the Project that waits is taken. -/
def dropReady (s : AttentionScheduler) (projectId : String) (rest : List String) :
    AttentionScheduler :=
  { s with
    projectReadyDomains := Function.update s.projectReadyDomains projectId rest
    projectReadyDomainSets := Function.update s.projectReadyDomainSets projectId rest }

theorem takeReadyDomain_nil (hlists : s.projectReadyDomains = s.projectReadyDomainSets)
    (h : s.projectReadyDomainSets projectId = []) : s.takeReadyDomain projectId = (none, s) := by
  have hlist : s.projectReadyDomains projectId = [] := by
    rw [hlists, h]
  have hsets : Function.update s.projectReadyDomainSets projectId [] =
      s.projectReadyDomainSets := by
    rw [← h]
    exact Function.update_eq_self _ _
  have hupdate : Function.update s.projectReadyDomains projectId [] = s.projectReadyDomains := by
    rw [← hlist]
    exact Function.update_eq_self _ _
  simp only [takeReadyDomain, hlist, h, takeFirst, hsets, hupdate]

theorem takeReadyDomain_cons {rest : List String}
    (hlists : s.projectReadyDomains = s.projectReadyDomainSets)
    (h : s.projectReadyDomainSets projectId = key :: rest) :
    s.takeReadyDomain projectId = (some key, s.dropReady projectId rest) := by
  simp [takeReadyDomain, hlists, h, takeFirst, dropReady]

/-! ## A round of the pump -/

theorem activeDomains_size_le (h : s.Accounted) : s.activeDomains.size ≤ s.queues.size := by
  have hsub : s.activeDomains.entries ⊆ s.queues.entries := by
    rintro ⟨key, queued⟩ hmem
    exact EntryMap.mem_entries.mpr (h.active key queued (EntryMap.mem_entries.mp hmem))
  exact (List.subperm_of_subset (List.Nodup.of_map _ s.activeDomains.keys_nodup) hsub).length_le

/-- A Project without a domain that waits loses its turn. -/
def skipTurn (s : AttentionScheduler) (rest : List String) : AttentionScheduler :=
  { s with readyProjects := rest, readyProjectSet := rest }

/-- The first domain that waits is dispatched; with more of them the Project goes to the end. -/
def takeTurn (s : AttentionScheduler) (projectId key : String) (queued : QueuedAttention)
    (domains rest : List String) : AttentionScheduler :=
  { (s.dropReady projectId domains).skipTurn
      (if domains = [] then rest else rest ++ [projectId]) with
    activeDomains := s.activeDomains.set key queued }

theorem pumpProject_nil {rest : List String} (h : s.Scheduled)
    (hturn : s.readyProjects = projectId :: rest)
    (hnone : s.projectReadyDomainSets projectId = []) :
    s.pumpProject projectId rest = s.skipTurn rest := by
  have hset : s.readyProjectSet = projectId :: rest := h.projects.symm.trans hturn
  have htake : takeReadyDomain { s with readyProjects := rest, readyProjectSet := rest }
      projectId = (none, s.skipTurn rest) := takeReadyDomain_nil h.readyLists hnone
  simp only [pumpProject, hset, List.mem_cons_self, not_true_eq_false, if_false,
    List.erase_cons_head, htake, Option.elim_none]
  simp [markProjectReady, skipTurn, hnone]

theorem pumpProject_cons {rest domains : List String} (h : s.Scheduled)
    (hturn : s.readyProjects = projectId :: rest)
    (hsome : s.projectReadyDomainSets projectId = key :: domains)
    (hqueued : s.queues.get key = some queued) :
    s.pumpProject projectId rest = s.takeTurn projectId key queued domains rest := by
  have hset : s.readyProjectSet = projectId :: rest := h.projects.symm.trans hturn
  have hnot : projectId ∉ rest := (List.nodup_cons.mp (hset ▸ h.projectsNodup)).1
  have htake : takeReadyDomain { s with readyProjects := rest, readyProjectSet := rest }
      projectId = (some key, (s.skipTurn rest).dropReady projectId domains) :=
    takeReadyDomain_cons h.readyLists hsome
  simp only [pumpProject, hset, List.mem_cons_self, not_true_eq_false, if_false,
    List.erase_cons_head, htake, Option.elim_some]
  by_cases hdomains : domains = []
  · simp [markProjectReady, skipTurn, dropReady, takeTurn, hdomains, hqueued]
  · simp [markProjectReady, skipTurn, dropReady, takeTurn, hdomains, hqueued, hnot]

theorem Scheduled.skipTurn {rest : List String} (h : s.Scheduled)
    (hturn : s.readyProjects = projectId :: rest)
    (hnone : s.projectReadyDomainSets projectId = []) : (s.skipTurn rest).Scheduled := by
  have hset : s.readyProjectSet = projectId :: rest := h.projects.symm.trans hturn
  refine ⟨h.ready, h.readyNodup, h.readyLists, rfl, ?_, ?_⟩
  · exact (List.nodup_cons.mp (hset ▸ h.projectsNodup)).2
  · intro other hother
    have hmem := h.turns other hother
    rw [hset] at hmem
    cases List.mem_cons.mp hmem with
    | inl heq =>
        rw [heq] at hother
        exact absurd hnone hother
    | inr hrest => exact hrest

theorem Scheduled.takeTurn {rest domains : List String} (h : s.Scheduled)
    (hturn : s.readyProjects = projectId :: rest)
    (hsome : s.projectReadyDomainSets projectId = key :: domains)
    (hqueued : s.queues.get key = some queued) (hof : queued.projectId = projectId) :
    (s.takeTurn projectId key queued domains rest).Scheduled := by
  have hset : s.readyProjectSet = projectId :: rest := h.projects.symm.trans hturn
  have hnodup := List.nodup_cons.mp (hset ▸ h.projectsNodup)
  have hdomains := List.nodup_cons.mp (hsome ▸ h.readyNodup projectId)
  refine ⟨?_, ?_, ?_, rfl, ?_, ?_⟩
  · intro other k
    show k ∈ Function.update s.projectReadyDomainSets projectId domains other ↔
      ∃ q, s.queues.get k = some q ∧ q.projectId = other ∧
        (s.activeDomains.set key queued).get k = none
    by_cases hk : k = key
    · subst hk
      rw [EntryMap.get_set_self]
      simp only [reduceCtorEq, and_false, exists_false, iff_false]
      by_cases hother : other = projectId
      · subst hother
        rw [Function.update_self]
        exact hdomains.1
      · rw [Function.update_of_ne hother, h.ready]
        rintro ⟨q, hq, hqof, -⟩
        cases hqueued.symm.trans hq
        exact hother (hqof.symm.trans hof)
    · rw [EntryMap.get_set_of_ne hk]
      rw [← h.ready]
      by_cases hother : other = projectId
      · subst hother
        rw [Function.update_self, hsome]
        simp [hk]
      · rw [Function.update_of_ne hother]
  · intro other
    show (Function.update s.projectReadyDomainSets projectId domains other).Nodup
    by_cases hother : other = projectId
    · subst hother
      rw [Function.update_self]
      exact hdomains.2
    · rw [Function.update_of_ne hother]
      exact h.readyNodup other
  · show Function.update s.projectReadyDomains projectId domains =
      Function.update s.projectReadyDomainSets projectId domains
    rw [h.readyLists]
  · show (if domains = [] then rest else rest ++ [projectId]).Nodup
    split
    · exact hnodup.2
    · exact (List.perm_append_singleton _ _).nodup_iff.mpr (List.nodup_cons.mpr hnodup)
  · intro other hother
    show other ∈ if domains = [] then rest else rest ++ [projectId]
    change Function.update s.projectReadyDomainSets projectId domains other ≠ [] at hother
    by_cases heq : other = projectId
    · subst heq
      rw [Function.update_self] at hother
      simp [hother]
    · rw [Function.update_of_ne heq] at hother
      have hmem := h.turns other hother
      rw [hset] at hmem
      have hrest : other ∈ rest := by simpa [heq] using hmem
      split
      · exact hrest
      · exact List.mem_append_left _ hrest

/-- Dispatching a queued domain leaves the accounts as they are. -/
theorem Accounted.dispatch {domains rest : List String} (h : s.Accounted)
    (hqueued : s.queues.get key = some queued) :
    (s.takeTurn projectId key queued domains rest).Accounted where
  active k q hactive := by
    change (s.activeDomains.set key queued).get k = some q at hactive
    by_cases hk : k = key
    · subst hk
      rw [EntryMap.get_set_self] at hactive
      exact hactive ▸ hqueued
    · rw [EntryMap.get_set_of_ne hk] at hactive
      exact h.active k q hactive
  domains := h.domains
  buffered := h.buffered
  retained := h.retained
  deferredDomains := h.deferredDomains
  deferred := h.deferred

/-- What the pump leaves as it is. -/
structure SameQueues (s s' : AttentionScheduler) : Prop where
  queues : s'.queues = s.queues
  domainDeferred : s'.domainDeferred = s.domainDeferred
  deferred : s'.deferred = s.deferred
  failed : s'.failed = s.failed
  dispatched : s'.dispatched = s.dispatched

theorem SameQueues.trans {s'' : AttentionScheduler} (h : SameQueues s s')
    (h' : SameQueues s' s'') : SameQueues s s'' where
  queues := h'.queues.trans h.queues
  domainDeferred := h'.domainDeferred.trans h.domainDeferred
  deferred := h'.deferred.trans h.deferred
  failed := h'.failed.trans h.failed
  dispatched := h'.dispatched.trans h.dispatched

/-- A bound on the rounds that are left. -/
def rounds (s : AttentionScheduler) : Nat :=
  s.readyProjects.length + (s.queues.size - s.activeDomains.size)

/-- A round keeps the invariant and is one of the rounds that were left. -/
theorem Inv.pumpProject {rest : List String} (h : s.Inv options)
    (hroom : s.activeDomains.size < options.concurrency)
    (hturn : s.readyProjects = projectId :: rest) :
    (s.pumpProject projectId rest).Inv options ∧ SameQueues s (s.pumpProject projectId rest) ∧
      (s.pumpProject projectId rest).rounds < s.rounds := by
  cases hdomains : s.projectReadyDomainSets projectId with
  | nil =>
      rw [pumpProject_nil h.scheduled hturn hdomains]
      refine ⟨⟨{ h.accounted with }, h.scheduled.skipTurn hturn hdomains, { h.limited with }⟩,
        ⟨rfl, rfl, rfl, rfl, rfl⟩, ?_⟩
      simp only [rounds, skipTurn, hturn, List.length_cons]
      omega
  | cons key domains =>
      obtain ⟨queued, hqueued, hof, hidle⟩ := (h.scheduled.ready projectId key).mp (by
        rw [hdomains]
        exact List.mem_cons_self)
      rw [pumpProject_cons h.scheduled hturn hdomains hqueued]
      have haccounted : (s.takeTurn projectId key queued domains rest).Accounted :=
        h.accounted.dispatch hqueued
      have hsize : (s.takeTurn projectId key queued domains rest).activeDomains.size =
          s.activeDomains.size + 1 := EntryMap.size_set hidle
      refine ⟨⟨haccounted, h.scheduled.takeTurn hturn hdomains hqueued hof, ?_⟩,
        ⟨rfl, rfl, rfl, rfl, rfl⟩, ?_⟩
      · refine ⟨?_, h.limited.bufferLimit, h.limited.projectLimit⟩
        rw [hsize]
        exact hroom
      · have hle := activeDomains_size_le haccounted
        have hqueues : (s.takeTurn projectId key queued domains rest).queues = s.queues := rfl
        have hlength : (s.takeTurn projectId key queued domains rest).readyProjects.length ≤
            rest.length + 1 := by
          simp only [AttentionScheduler.takeTurn, AttentionScheduler.skipTurn]
          split <;> simp
        rw [hqueues, hsize] at hle
        simp only [rounds, hqueues, hsize, hturn, List.length_cons]
        omega

/-- Nothing more can be dispatched. -/
def Busy (options : AttentionSchedulerOptions) (s : AttentionScheduler) : Prop :=
  s.activeDomains.size = options.concurrency ∨ s.readyProjects = []

theorem Inv.pumpRounds (fuel : Nat) (h : s.Inv options) (hfuel : s.rounds ≤ fuel) :
    (AttentionScheduler.pumpRounds options fuel s).Inv options ∧
      SameQueues s (AttentionScheduler.pumpRounds options fuel s) ∧
      (AttentionScheduler.pumpRounds options fuel s).Busy options := by
  induction fuel generalizing s with
  | zero =>
      have hnone : s.readyProjects = [] := by
        apply List.eq_nil_of_length_eq_zero
        unfold rounds at hfuel
        omega
      exact ⟨h, ⟨rfl, rfl, rfl, rfl, rfl⟩, .inr hnone⟩
  | succ fuel ih =>
      unfold AttentionScheduler.pumpRounds
      by_cases hroom : s.activeDomains.size < options.concurrency
      · rw [if_pos hroom]
        cases hturn : s.readyProjects with
        | nil => exact ⟨h, ⟨rfl, rfl, rfl, rfl, rfl⟩, .inr hturn⟩
        | cons projectId rest =>
            obtain ⟨hinv, hsame, hless⟩ := h.pumpProject hroom hturn
            obtain ⟨hinv', hsame', hbusy⟩ := ih hinv (by omega)
            exact ⟨hinv', hsame.trans hsame', hbusy⟩
      · rw [if_neg hroom]
        have hfull := h.limited.concurrency
        exact ⟨h, ⟨rfl, rfl, rfl, rfl, rfl⟩, .inl (by omega)⟩

/-- The pump stops only when nothing more can be dispatched. -/
theorem Inv.pump (h : s.Inv options) : (s.pump options).Inv options ∧
    SameQueues s (s.pump options) ∧ (s.pump options).Busy options := by
  apply h.pumpRounds
  unfold rounds
  omega

/-! ## Leaving the queues -/

theorem retainedOf_change (projectId : String) (delta : Int) (other : String) :
    (s.changeProjectRetained projectId delta).retainedOf other =
      if other = projectId then s.retainedOf projectId + delta else s.retainedOf other := by
  show ((if s.retainedOf projectId + delta = 0 then s.projectRetained.delete projectId
    else s.projectRetained.set projectId (s.retainedOf projectId + delta)).get other).getD 0 = _
  by_cases hnext : s.retainedOf projectId + delta = 0
  · rw [if_pos hnext]
    by_cases hother : other = projectId
    · rw [hother, EntryMap.get_delete_self, if_pos rfl, hnext]
      rfl
    · rw [EntryMap.get_delete_of_ne hother, if_neg hother]
      rfl
  · rw [if_neg hnext]
    by_cases hother : other = projectId
    · rw [hother, EntryMap.get_set_self, if_pos rfl]
      rfl
    · rw [EntryMap.get_set_of_ne hother, if_neg hother]
      rfl

/-- The entry of the key leaves the queues, and `deferred` is what is counted then. -/
def leave (s : AttentionScheduler) (key projectId : String) (deferred : Int) :
    AttentionScheduler :=
  { { s with
      queues := s.queues.delete key
      buffered := s.buffered - 1 }.changeProjectRetained projectId (-1) with
    deferred
    domainDeferred := Function.update s.domainDeferred key 0 }

theorem queuedOf_leave (projectId : String) (deferred : Int)
    (hqueued : s.queues.get key = some queued) (other : String) : s.queuedOf other =
      (s.leave key projectId deferred).queuedOf other +
        if queued.projectId = other then 1 else 0 := by
  have hperm := (EntryMap.delete_perm hqueued).countP_eq
    fun entry => entry.2.projectId = other
  rw [queuedOf, hperm, List.countP_cons]
  simp [leave, queuedOf, changeProjectRetained]

theorem deferredInDomains_leave (projectId : String) (deferred : Int)
    (hqueued : s.queues.get key = some queued) :
    s.deferredInDomains =
      s.domainDeferred key + (s.leave key projectId deferred).deferredInDomains := by
  have hsame : (s.queues.delete key).entries.map (fun entry => s.domainDeferred entry.1) =
      (s.queues.delete key).entries.map fun entry =>
        Function.update s.domainDeferred key 0 entry.1 := by
    apply List.map_congr_left
    intro entry hentry
    have hne : entry.1 ≠ key := by
      have hmem := (List.mem_filter.mp hentry).2
      simpa using hmem
    rw [Function.update_of_ne hne]
  have hperm := ((EntryMap.delete_perm hqueued).map
    fun entry : String × QueuedAttention => s.domainDeferred entry.1).sum_nat
  rw [deferredInDomains, hperm, List.map_cons, List.sum_cons, hsame]
  rfl

theorem Accounted.leave {deferred : Int} (h : s.Accounted)
    (hqueued : s.queues.get key = some queued) (hidle : s.activeDomains.get key = none)
    (hof : queued.projectId = projectId) (hdeferred : s.deferred - s.domainDeferred key ≤ deferred) :
    (s.leave key projectId deferred).Accounted where
  active k q hactive := by
    have hk : k ≠ key := by
      rintro rfl
      cases hidle.symm.trans hactive
    exact (EntryMap.get_delete_of_ne hk).trans (h.active k q hactive)
  domains k q hq := by
    have hk : k ≠ key := by
      rintro rfl
      cases EntryMap.get_delete_self.symm.trans hq
    exact h.domains k q ((EntryMap.get_delete_of_ne hk).symm.trans hq)
  buffered := by
    have hsize := EntryMap.size_delete hqueued
    have hbuffered := h.buffered
    show s.buffered - 1 = ((s.queues.delete key).size : Int)
    omega
  retained other := by
    have hretained := h.retained other
    have hcount := queuedOf_leave projectId deferred hqueued other
    have hchange := retainedOf_change (s := { s with
      queues := s.queues.delete key
      buffered := s.buffered - 1 }) projectId (-1) other
    change (s.leave key projectId deferred).retainedOf other =
      if other = projectId then s.retainedOf projectId + -1 else s.retainedOf other at hchange
    rw [hchange]
    by_cases hother : other = projectId
    · subst hother
      rw [if_pos rfl]
      rw [if_pos hof] at hcount
      omega
    · rw [if_neg hother]
      rw [if_neg fun heq => hother (heq.symm.trans hof)] at hcount
      omega
  deferredDomains k hk := by
    change Function.update s.domainDeferred key 0 k ≠ 0 at hk
    by_cases hkey : k = key
    · rw [hkey, Function.update_self] at hk
      exact absurd rfl hk
    · rw [Function.update_of_ne hkey] at hk
      show (s.queues.delete key).get k ≠ none
      rw [EntryMap.get_delete_of_ne hkey]
      exact h.deferredDomains k hk
  deferred := by
    have hsum := deferredInDomains_leave projectId deferred hqueued
    have hle := h.deferred
    show ((s.leave key projectId deferred).deferredInDomains : Int) ≤ deferred
    omega

theorem Limited.leave {deferred : Int} (h : s.Limited options)
    (hqueued : s.queues.get key = some queued) :
    (s.leave key projectId deferred).Limited options where
  concurrency := h.concurrency
  bufferLimit := by
    have hsize := EntryMap.size_delete hqueued
    have hlimit := h.bufferLimit
    show (s.queues.delete key).size ≤ options.bufferLimit
    omega
  projectLimit other := by
    have hcount := queuedOf_leave projectId deferred hqueued other
    have hlimit := h.projectLimit other
    omega

/-! ## Giving up an Attention that waits -/

/-- A Project gives up an Attention, unless none of its domains waits. -/
inductive Evicted (s : AttentionScheduler) (projectId : String) :
    Bool × AttentionScheduler → Prop where
  | none : Evicted s projectId (false, s)
  | some (key : String) (queued : QueuedAttention) (rest : List String)
      (hready : s.projectReadyDomainSets projectId = key :: rest)
      (hqueued : s.queues.get key = some queued) (hof : queued.projectId = projectId)
      (hidle : s.activeDomains.get key = none) :
      Evicted s projectId
        (true, (s.dropReady projectId rest).leave key projectId (s.deferred + 1))

theorem evictQueuedCandidate_cases (h : s.Scheduled) (projectId : String) :
    Evicted s projectId (s.evictQueuedCandidate projectId) := by
  cases hdomains : s.projectReadyDomainSets projectId with
  | nil =>
      rw [evictQueuedCandidate, takeReadyDomain_nil h.readyLists hdomains]
      exact .none
  | cons key rest =>
      obtain ⟨queued, hqueued, hof, hidle⟩ := (h.ready projectId key).mp (by
        rw [hdomains]
        exact List.mem_cons_self)
      have hqueued' : (s.dropReady projectId rest).queues.get key = some queued := hqueued
      have hidle' : (s.dropReady projectId rest).activeDomains.get key = none := hidle
      rw [evictQueuedCandidate, takeReadyDomain_cons h.readyLists hdomains]
      simp only [Option.elim_some, hqueued', hidle', reduceCtorEq, ne_eq, not_true_eq_false,
        or_self, if_false]
      exact .some key queued rest hdomains hqueued hof hidle

theorem Inv.evicted {r : Bool × AttentionScheduler} (h : s.Inv options)
    (hr : Evicted s projectId r) : r.2.Inv options := by
  cases hr with
  | none => exact h
  | some key queued rest hready hqueued hof hidle =>
      have hdomains := List.nodup_cons.mp (hready ▸ h.scheduled.readyNodup projectId)
      have haccounted : (s.dropReady projectId rest).Accounted := { h.accounted with }
      have hlimited : (s.dropReady projectId rest).Limited options := { h.limited with }
      refine ⟨haccounted.leave hqueued hidle hof ?_, ?_, hlimited.leave hqueued⟩
      · show s.deferred - s.domainDeferred key ≤ s.deferred + 1
        omega
      · refine ⟨?_, ?_, ?_, h.scheduled.projects, h.scheduled.projectsNodup, ?_⟩
        · intro other k
          show k ∈ Function.update s.projectReadyDomainSets projectId rest other ↔
            ∃ q, (s.queues.delete key).get k = some q ∧ q.projectId = other ∧
              s.activeDomains.get k = none
          by_cases hk : k = key
          · subst hk
            rw [EntryMap.get_delete_self]
            simp only [reduceCtorEq, false_and, exists_false, iff_false]
            by_cases hother : other = projectId
            · subst hother
              rw [Function.update_self]
              exact hdomains.1
            · rw [Function.update_of_ne hother, h.scheduled.ready]
              rintro ⟨q, hq, hqof, -⟩
              cases hqueued.symm.trans hq
              exact hother (hqof.symm.trans hof)
          · rw [EntryMap.get_delete_of_ne hk]
            rw [← h.scheduled.ready]
            by_cases hother : other = projectId
            · subst hother
              rw [Function.update_self, hready]
              simp [hk]
            · rw [Function.update_of_ne hother]
        · intro other
          show (Function.update s.projectReadyDomainSets projectId rest other).Nodup
          by_cases hother : other = projectId
          · subst hother
            rw [Function.update_self]
            exact hdomains.2
          · rw [Function.update_of_ne hother]
            exact h.scheduled.readyNodup other
        · show Function.update s.projectReadyDomains projectId rest =
            Function.update s.projectReadyDomainSets projectId rest
          rw [h.scheduled.readyLists]
        · intro other hother
          change Function.update s.projectReadyDomainSets projectId rest other ≠ [] at hother
          apply h.scheduled.turns other
          by_cases heq : other = projectId
          · rw [heq, hready]
            exact List.cons_ne_nil _ _
          · rw [Function.update_of_ne heq] at hother
            exact hother

theorem evictFirst_cases (h : s.Scheduled) (projectIds : List String) :
    ∃ projectId, Evicted s projectId (evictFirst projectIds s) := by
  induction projectIds with
  | nil => exact ⟨"", .none⟩
  | cons projectId rest ih =>
      have hfirst := evictQueuedCandidate_cases h projectId
      unfold evictFirst
      generalize s.evictQueuedCandidate projectId = r at hfirst
      cases hfirst with
      | none => exact ih
      | some key queued domains hready hqueued hof hidle =>
          exact ⟨projectId, .some key queued domains hready hqueued hof hidle⟩

theorem evictForNewProject_cases (h : s.Scheduled) (newProjectId : String) :
    ∃ projectId, Evicted s projectId (s.evictForNewProject newProjectId) := by
  obtain ⟨projectId, hfirst⟩ := evictFirst_cases h (s.evictionCandidates newProjectId)
  unfold evictForNewProject
  generalize evictFirst (s.evictionCandidates newProjectId) s = r at hfirst
  cases hfirst with
  | none => exact ⟨newProjectId, evictQueuedCandidate_cases h newProjectId⟩
  | some key queued domains hready hqueued hof hidle =>
      exact ⟨projectId, .some key queued domains hready hqueued hof hidle⟩

/-- One more Attention of the Project fits. -/
structure Roomy (options : AttentionSchedulerOptions) (s : AttentionScheduler)
    (projectId : String) : Prop where
  bufferLimit : s.queues.size < options.bufferLimit
  projectLimit : s.queuedOf projectId < options.projectLimit

/-- Room is there, or it is made by an eviction, or there is none. -/
inductive RoomMade (options : AttentionSchedulerOptions) (s : AttentionScheduler)
    (projectId : String) : Option AttentionAdmissionResult × AttentionScheduler → Prop where
  | refused (answer : AttentionAdmissionResult) : RoomMade options s projectId (some answer, s.defer)
  | room (hroomy : s.Roomy options projectId) : RoomMade options s projectId (none, s)
  | evicted {other : String} {next : AttentionScheduler} (hevicted : Evicted s other (true, next))
      (hroomy : next.Roomy options projectId) : RoomMade options s projectId (none, next)

/-- An eviction makes the queues shorter by one. -/
theorem Evicted.size {next : AttentionScheduler} (h : Evicted s projectId (true, next)) :
    next.queues.size + 1 = s.queues.size ∧ next.queuedOf projectId + 1 = s.queuedOf projectId ∧
      ∀ other, next.queuedOf other ≤ s.queuedOf other := by
  cases h with
  | some key queued rest hready hqueued hof hidle =>
      have hcount := fun other => queuedOf_leave (s := s.dropReady projectId rest) projectId
        (s.deferred + 1) hqueued other
      refine ⟨EntryMap.size_delete (m := s.queues) hqueued, ?_, ?_⟩
      · have hself := hcount projectId
        rw [if_pos hof] at hself
        exact hself.symm
      · intro other
        exact (hcount other).symm ▸ Nat.le_add_right _ _

theorem makeRoom_cases (h : s.Inv options) (projectId : String) :
    RoomMade options s projectId (s.makeRoom options projectId) := by
  have hretained := h.accounted.retained projectId
  have hprojectLimit := h.limited.projectLimit projectId
  have hbufferLimit := h.limited.bufferLimit
  unfold makeRoom
  by_cases hproject : (options.projectLimit : Int) ≤ s.retainedOf projectId
  · rw [if_pos hproject]
    have hcases := evictQueuedCandidate_cases h.scheduled projectId
    generalize s.evictQueuedCandidate projectId = r at hcases
    obtain ⟨evicted, next⟩ := r
    cases evicted with
    | false =>
        cases hcases
        exact .refused .deferred
    | true =>
        obtain ⟨hsize, hself, -⟩ := hcases.size
        exact .evicted hcases ⟨by omega, by omega⟩
  · rw [if_neg hproject]
    by_cases hbuffer : (options.bufferLimit : Int) ≤ s.buffered
    · rw [if_pos hbuffer]
      obtain ⟨other, hcases⟩ : ∃ other, Evicted s other
          (if s.retainedOf projectId = 0 then s.evictForNewProject projectId
          else s.evictQueuedCandidate projectId) := by
        split
        · exact evictForNewProject_cases h.scheduled projectId
        · exact ⟨projectId, evictQueuedCandidate_cases h.scheduled projectId⟩
      generalize (if s.retainedOf projectId = 0 then s.evictForNewProject projectId
        else s.evictQueuedCandidate projectId) = r at hcases
      obtain ⟨evicted, next⟩ := r
      cases evicted with
      | false =>
          cases hcases
          exact .refused .globalFull
      | true =>
          obtain ⟨hsize, -, hother⟩ := hcases.size
          have hle := hother projectId
          exact .evicted hcases ⟨by omega, by omega⟩
    · rw [if_neg hbuffer]
      have hbuffered := h.accounted.buffered
      exact .room ⟨by omega, by omega⟩

theorem Inv.defer (h : s.Inv options) : s.defer.Inv options where
  accounted :=
    { h.accounted with
      deferred := by
        have hle := h.accounted.deferred
        show (s.deferredInDomains : Int) ≤ s.deferred + 1
        omega }
  scheduled := { h.scheduled with }
  limited := { h.limited with }

/-! ## Joining the queues -/

/-- The state in which the pump finds an Attention that was admitted. -/
def join (s : AttentionScheduler) (attention : AttentionView) : AttentionScheduler :=
  let key := attentionConflictDomain attention
  (({ s with
    queues := s.queues.set key ⟨s.admissions, attention, attention.projectId⟩
    buffered := s.buffered + 1
    admissions := s.admissions + 1 }.changeProjectRetained attention.projectId 1).markReady
      attention.projectId key)

section Join

variable {attention : AttentionView}

theorem join_eq (h : s.Scheduled) (hfree : s.queues.get (attentionConflictDomain attention) = none)
    (hidle : s.activeDomains.get (attentionConflictDomain attention) = none) :
    s.join attention =
      { s with
        queues := s.queues.set (attentionConflictDomain attention)
          ⟨s.admissions, attention, attention.projectId⟩
        buffered := s.buffered + 1
        admissions := s.admissions + 1
        projectRetained :=
          (s.changeProjectRetained attention.projectId 1).projectRetained
        projectReadyDomainSets := Function.update s.projectReadyDomainSets attention.projectId
          (s.projectReadyDomainSets attention.projectId ++ [attentionConflictDomain attention])
        projectReadyDomains := Function.update s.projectReadyDomains attention.projectId
          (s.projectReadyDomains attention.projectId ++ [attentionConflictDomain attention])
        readyProjectSet :=
          if attention.projectId ∈ s.readyProjectSet then s.readyProjectSet
          else s.readyProjectSet ++ [attention.projectId]
        readyProjects :=
          if attention.projectId ∈ s.readyProjectSet then s.readyProjects
          else s.readyProjects ++ [attention.projectId] } := by
  have hnot : attentionConflictDomain attention ∉
      s.projectReadyDomainSets attention.projectId := by
    intro hmem
    obtain ⟨queued, hqueued, -⟩ := (h.ready _ _).mp hmem
    cases hfree.symm.trans hqueued
  by_cases hturn : attention.projectId ∈ s.readyProjectSet
  · simp only [join, markReady, markProjectReady, changeProjectRetained, hidle, hnot, hturn]
    simp [hturn]
    rfl
  · simp only [join, markReady, markProjectReady, changeProjectRetained, hidle, hnot, hturn]
    simp [hturn]
    rfl

theorem queuedOf_join (h : s.Scheduled)
    (hfree : s.queues.get (attentionConflictDomain attention) = none)
    (hidle : s.activeDomains.get (attentionConflictDomain attention) = none) (other : String) :
    (s.join attention).queuedOf other =
      s.queuedOf other + if attention.projectId = other then 1 else 0 := by
  rw [join_eq h hfree hidle, queuedOf, (EntryMap.set_perm hfree).countP_eq, List.countP_cons]
  simp [queuedOf]

theorem deferredInDomains_join (h : s.Scheduled) (hof : s.Accounted)
    (hfree : s.queues.get (attentionConflictDomain attention) = none)
    (hidle : s.activeDomains.get (attentionConflictDomain attention) = none) :
    (s.join attention).deferredInDomains = s.deferredInDomains := by
  have hzero : s.domainDeferred (attentionConflictDomain attention) = 0 := by
    by_contra hne
    exact hof.deferredDomains _ hne hfree
  rw [join_eq h hfree hidle, deferredInDomains]
  show ((s.queues.set (attentionConflictDomain attention) _).entries.map
    fun entry => s.domainDeferred entry.1).sum = _
  rw [((EntryMap.set_perm hfree).map _).sum_nat, List.map_cons, List.sum_cons, hzero, Nat.zero_add]
  rfl

theorem Inv.join (h : s.Inv options) (hroomy : s.Roomy options attention.projectId)
    (hfree : s.queues.get (attentionConflictDomain attention) = none)
    (hidle : s.activeDomains.get (attentionConflictDomain attention) = none) :
    (s.join attention).Inv options := by
  have heq := join_eq h.scheduled hfree hidle
  have hcount := queuedOf_join h.scheduled hfree hidle
  have hsum := deferredInDomains_join h.scheduled h.accounted hfree hidle
  have hqueues : (s.join attention).queues = s.queues.set (attentionConflictDomain attention)
      ⟨s.admissions, attention, attention.projectId⟩ := by rw [heq]
  have hactive : (s.join attention).activeDomains = s.activeDomains := by rw [heq]
  have hsize : (s.join attention).queues.size = s.queues.size + 1 := by
    rw [hqueues]
    exact EntryMap.size_set hfree
  refine ⟨⟨?_, ?_, ?_, ?_, ?_, ?_⟩, ⟨?_, ?_, ?_, ?_, ?_, ?_⟩, ⟨?_, ?_, ?_⟩⟩
  · intro key queued hget
    rw [hactive] at hget
    have hne : key ≠ attentionConflictDomain attention := by
      rintro rfl
      cases hidle.symm.trans hget
    rw [hqueues, EntryMap.get_set_of_ne hne]
    exact h.accounted.active key queued hget
  · intro key queued hget
    rw [hqueues] at hget
    by_cases hkey : key = attentionConflictDomain attention
    · rw [hkey, EntryMap.get_set_self] at hget
      cases hget
      exact hkey
    · rw [EntryMap.get_set_of_ne hkey] at hget
      exact h.accounted.domains key queued hget
  · rw [hsize, heq]
    have hbuffered := h.accounted.buffered
    show s.buffered + 1 = _
    omega
  · intro other
    have hretained := h.accounted.retained other
    have hchange := retainedOf_change (s := s) attention.projectId 1 other
    have hsame : (s.join attention).retainedOf other =
        (s.changeProjectRetained attention.projectId 1).retainedOf other := by
      rw [heq]
      rfl
    rw [hsame, hchange, hcount]
    by_cases hother : other = attention.projectId
    · subst hother
      rw [if_pos rfl, if_pos rfl]
      omega
    · rw [if_neg hother, if_neg fun heq => hother heq.symm]
      omega
  · intro key hne
    rw [hqueues]
    by_cases hkey : key = attentionConflictDomain attention
    · rw [hkey, EntryMap.get_set_self]
      exact Option.some_ne_none _
    · rw [EntryMap.get_set_of_ne hkey]
      rw [heq] at hne
      exact h.accounted.deferredDomains key hne
  · rw [hsum, heq]
    exact h.accounted.deferred
  · intro other key
    rw [hqueues, hactive, heq]
    show key ∈ Function.update s.projectReadyDomainSets attention.projectId _ other ↔ _
    by_cases hkey : key = attentionConflictDomain attention
    · subst hkey
      rw [EntryMap.get_set_self]
      by_cases hother : other = attention.projectId
      · subst hother
        rw [Function.update_self]
        simp [hidle]
      · rw [Function.update_of_ne hother, h.scheduled.ready, hfree]
        simp [Ne.symm hother]
    · rw [EntryMap.get_set_of_ne hkey, ← h.scheduled.ready]
      by_cases hother : other = attention.projectId
      · subst hother
        rw [Function.update_self]
        simp [hkey]
      · rw [Function.update_of_ne hother]
  · intro other
    rw [heq]
    show (Function.update s.projectReadyDomainSets attention.projectId _ other).Nodup
    by_cases hother : other = attention.projectId
    · subst hother
      rw [Function.update_self]
      apply (List.perm_append_singleton _ _).nodup_iff.mpr
      refine List.nodup_cons.mpr ⟨?_, h.scheduled.readyNodup _⟩
      intro hmem
      obtain ⟨queued, hqueued, -⟩ := (h.scheduled.ready _ _).mp hmem
      cases hfree.symm.trans hqueued
    · rw [Function.update_of_ne hother]
      exact h.scheduled.readyNodup other
  · rw [heq]
    simp [h.scheduled.readyLists]
  · rw [heq]
    simp [h.scheduled.projects]
  · rw [heq]
    show List.Nodup (if attention.projectId ∈ s.readyProjectSet then s.readyProjectSet
      else s.readyProjectSet ++ [attention.projectId])
    split
    · exact h.scheduled.projectsNodup
    · rename_i hturn
      apply (List.perm_append_singleton _ _).nodup_iff.mpr
      exact List.nodup_cons.mpr ⟨hturn, h.scheduled.projectsNodup⟩
  · intro other hother
    rw [heq] at hother ⊢
    change Function.update s.projectReadyDomainSets attention.projectId _ other ≠ [] at hother
    show other ∈ if attention.projectId ∈ s.readyProjectSet then _ else _
    by_cases hself : other = attention.projectId
    · rw [hself]
      split
      · assumption
      · exact List.mem_append_right _ (List.mem_singleton_self _)
    · rw [Function.update_of_ne hself] at hother
      have hmem := h.scheduled.turns other hother
      split
      · exact hmem
      · exact List.mem_append_left _ hmem
  · rw [hactive]
    exact h.limited.concurrency
  · rw [hsize]
    exact hroomy.bufferLimit
  · intro other
    rw [hcount]
    by_cases hother : attention.projectId = other
    · subst hother
      rw [if_pos rfl]
      exact hroomy.projectLimit
    · rw [if_neg hother]
      exact h.limited.projectLimit other

end Join

end AttentionScheduler

end Torsor.AgentRuntime
