import Torsor.Kernel.Mappings
import Torsor.Library.EntryMap
import Torsor.Library.Machine

/-! # The scheduler of Attentions

A pass enqueues the Open Attentions it discovers. One Attention of an Agent and Thread is kept
at a time; as many as there may be at once are dispatched, the Projects taking turns. A place is
made for an Attention by giving up another one that waits, which is counted as deferred.
-/

namespace Torsor.AgentRuntime

open Torsor.Library Torsor.Kernel

/-! ## State -/

structure AttentionSchedulerOptions where
  concurrency : Nat
  bufferLimit : Nat
  projectLimit : Nat

inductive AttentionDispatchResult where
  | dispatched | blocked | retry
  deriving DecidableEq, Repr

inductive AttentionAdmissionResult where
  | admitted | deferred | globalFull
  deriving DecidableEq, Repr

/-- An entry of the queues; `admission` tells it from every other one. -/
structure QueuedAttention where
  admission : Nat
  attention : AttentionView
  projectId : String

/-- The maps that are never asked for their size are functions; a key that is absent has the
value the code takes for it. `activeDomains` has the entry each dispatch was started with. -/
structure AttentionScheduler where
  queues : EntryMap String QueuedAttention
  activeDomains : EntryMap String QueuedAttention
  domainDeferred : String → Nat
  projectRetained : EntryMap String Int
  projectReadyDomains : String → List String
  projectReadyDomainSets : String → List String
  readyProjects : List String
  readyProjectSet : List String
  buffered : Int
  dispatched : Nat
  deferred : Int
  /-- `#firstError` is set. -/
  failed : Bool
  admissions : Nat

def attentionConflictDomain (attention : AttentionView) : String :=
  attention.targetAgentId ++ "\x00" ++ attention.threadRootId

namespace AttentionScheduler

def start : AttentionScheduler where
  queues := EntryMap.empty
  activeDomains := EntryMap.empty
  domainDeferred _ := 0
  projectRetained := EntryMap.empty
  projectReadyDomains _ := []
  projectReadyDomainSets _ := []
  readyProjects := []
  readyProjectSet := []
  buffered := 0
  dispatched := 0
  deferred := 0
  failed := false
  admissions := 0

/-! ## Ready domains -/

/-- The first key of the list that is still in the set, with what is left of both. -/
def takeFirst : List String → List String → Option String × List String × List String
  | [], readySet => (none, [], readySet)
  | key :: rest, readySet =>
      if key ∈ readySet then (some key, rest, readySet.erase key) else takeFirst rest readySet

def takeReadyDomain (s : AttentionScheduler) (projectId : String) :
    Option String × AttentionScheduler :=
  let (key, readyDomains, readySet) :=
    takeFirst (s.projectReadyDomains projectId) (s.projectReadyDomainSets projectId)
  (key,
    { s with
      projectReadyDomains := Function.update s.projectReadyDomains projectId readyDomains
      projectReadyDomainSets := Function.update s.projectReadyDomainSets projectId readySet })

def markProjectReady (s : AttentionScheduler) (projectId : String) : AttentionScheduler :=
  if projectId ∈ s.readyProjectSet ∨ s.projectReadyDomainSets projectId = [] then s
  else
    { s with
      readyProjectSet := s.readyProjectSet ++ [projectId]
      readyProjects := s.readyProjects ++ [projectId] }

def markReady (s : AttentionScheduler) (projectId key : String) : AttentionScheduler :=
  if s.activeDomains.get key ≠ none then s
  else
    markProjectReady
      (if key ∈ s.projectReadyDomainSets projectId then s
      else
        { s with
          projectReadyDomainSets := Function.update s.projectReadyDomainSets projectId
            (s.projectReadyDomainSets projectId ++ [key])
          projectReadyDomains := Function.update s.projectReadyDomains projectId
            (s.projectReadyDomains projectId ++ [key]) })
      projectId

def retainedOf (s : AttentionScheduler) (projectId : String) : Int :=
  (s.projectRetained.get projectId).getD 0

def changeProjectRetained (s : AttentionScheduler) (projectId : String) (delta : Int) :
    AttentionScheduler :=
  let next := s.retainedOf projectId + delta
  { s with
    projectRetained :=
      if next = 0 then s.projectRetained.delete projectId else s.projectRetained.set projectId next }

/-! ## The pump -/

/-- One round of the loop, for a Project that has been shifted off the ready ones. -/
def pumpProject (s : AttentionScheduler) (projectId : String) (rest : List String) :
    AttentionScheduler :=
  let shifted := { s with readyProjects := rest }
  if projectId ∉ s.readyProjectSet then shifted
  else
    let (key, taken) := takeReadyDomain
      { shifted with readyProjectSet := s.readyProjectSet.erase projectId } projectId
    let marked := taken.markProjectReady projectId
    key.elim marked fun key =>
      (marked.queues.get key).elim marked fun queued =>
        { marked with activeDomains := marked.activeDomains.set key queued }

/-- The loop, of `fuel` rounds at most. -/
def pumpRounds (options : AttentionSchedulerOptions) :
    Nat → AttentionScheduler → AttentionScheduler
  | 0, s => s
  | fuel + 1, s =>
      if s.activeDomains.size < options.concurrency then
        match s.readyProjects with
        | [] => s
        | projectId :: rest => pumpRounds options fuel (s.pumpProject projectId rest)
      else s

/-- Every round takes a Project that is ready, or a domain that waits. -/
def pump (options : AttentionSchedulerOptions) (s : AttentionScheduler) : AttentionScheduler :=
  pumpRounds options (s.readyProjects.length + s.queues.size) s

/-! ## Giving up an Attention that waits -/

def evictQueuedCandidate (s : AttentionScheduler) (projectId : String) :
    Bool × AttentionScheduler :=
  let (key, taken) := s.takeReadyDomain projectId
  key.elim (false, taken) fun key =>
    if taken.queues.get key = none ∨ taken.activeDomains.get key ≠ none then (false, taken)
    else
      let removed :=
        { taken with
          queues := taken.queues.delete key
          buffered := taken.buffered - 1 }.changeProjectRetained projectId (-1)
      (true,
        { removed with
          deferred := removed.deferred + 1
          domainDeferred := Function.update removed.domainDeferred key 0 })

/-- The first of the Projects that gives up an Attention. -/
def evictFirst : List String → AttentionScheduler → Bool × AttentionScheduler
  | [], s => (false, s)
  | projectId :: rest, s =>
      let (evicted, next) := s.evictQueuedCandidate projectId
      if evicted then (true, next) else evictFirst rest next

/-- The other Projects with more than one Attention, the one with the most first. -/
def evictionCandidates (s : AttentionScheduler) (projectId : String) : List String :=
  ((s.projectRetained.entries.filter fun entry => entry.1 ≠ projectId ∧ 1 < entry.2).insertionSort
    fun left right => right.2 ≤ left.2).map (·.1)

def evictForNewProject (s : AttentionScheduler) (projectId : String) :
    Bool × AttentionScheduler :=
  let (evicted, next) := evictFirst (s.evictionCandidates projectId) s
  if evicted then (true, next) else next.evictQueuedCandidate projectId

/-! ## Calls -/

/-- `hookFails` says whether `onBufferChanged` throws. -/
def notifyRetainedChanged (s : AttentionScheduler) (hookFails : Bool) : AttentionScheduler :=
  { s with failed := s.failed || hookFails }

def defer (s : AttentionScheduler) : AttentionScheduler := { s with deferred := s.deferred + 1 }

def enqueueAdmitted (options : AttentionSchedulerOptions) (s : AttentionScheduler)
    (attention : AttentionView) (hookFails : Bool) : AttentionScheduler :=
  let key := attentionConflictDomain attention
  let queued : QueuedAttention := ⟨s.admissions, attention, attention.projectId⟩
  let added :=
    { s with
      queues := s.queues.set key queued
      buffered := s.buffered + 1
      admissions := s.admissions + 1 }
  ((((added.changeProjectRetained attention.projectId 1).markReady attention.projectId key).pump
    options).notifyRetainedChanged hookFails)

/-- Room for an Attention of the Project, unless it cannot be made; the answer then. -/
def makeRoom (options : AttentionSchedulerOptions) (s : AttentionScheduler) (projectId : String) :
    Option AttentionAdmissionResult × AttentionScheduler :=
  if (options.projectLimit : Int) ≤ s.retainedOf projectId then
    let (evicted, next) := s.evictQueuedCandidate projectId
    if evicted then (none, next) else (some .deferred, next.defer)
  else if (options.bufferLimit : Int) ≤ s.buffered then
    let (madeRoom, next) :=
      if s.retainedOf projectId = 0 then s.evictForNewProject projectId
      else s.evictQueuedCandidate projectId
    if madeRoom then (none, next) else (some .globalFull, next.defer)
  else (none, s)

def enqueue (options : AttentionSchedulerOptions) (s : AttentionScheduler)
    (attention : AttentionView) (hookFails : Bool) :
    AttentionAdmissionResult × AttentionScheduler :=
  let key := attentionConflictDomain attention
  if s.queues.get key ≠ none ∨ s.activeDomains.get key ≠ none then
    (.deferred,
      { s.defer with
        domainDeferred := Function.update s.domainDeferred key (s.domainDeferred key + 1) })
  else
    let (refused, next) := s.makeRoom options attention.projectId
    refused.elim (.admitted, next.enqueueAdmitted options attention hookFails) fun answer =>
      (answer, next)

/-- What a dispatch that ended leaves of its domain; `none` is an error. -/
def settle (s : AttentionScheduler) (key : String) (queued : QueuedAttention)
    (result : Option AttentionDispatchResult) : AttentionScheduler :=
  if (s.queues.get key).map (·.admission) = some queued.admission then
    let removed :=
      { s with
        queues := s.queues.delete key
        buffered := s.buffered - 1 }.changeProjectRetained queued.projectId (-1)
    let domainDeferred := removed.domainDeferred key
    { removed with
      deferred :=
        if result = some .blocked then removed.deferred - domainDeferred
        else if result = some .retry ∧ domainDeferred = 0 then removed.deferred + 1
        else removed.deferred
      domainDeferred := Function.update removed.domainDeferred key 0 }
  else s

/-- The end of `#run`. -/
def finish (options : AttentionSchedulerOptions) (s : AttentionScheduler) (key : String)
    (queued : QueuedAttention) (result : Option AttentionDispatchResult) (hookFails : Bool) :
    AttentionScheduler :=
  let ended :=
    { s with
      dispatched :=
        if result = some AttentionDispatchResult.dispatched then s.dispatched + 1 else s.dispatched
      failed := s.failed || result.isNone
      activeDomains := s.activeDomains.delete key }
  ((ended.settle key queued result).pump options).notifyRetainedChanged hookFails

/-- What `drain` returns, once it does. -/
def drain (s : AttentionScheduler) : Option (Nat × Int) :=
  if s.buffered = 0 ∧ s.failed = false then some (s.dispatched, s.deferred) else none

end AttentionScheduler

end Torsor.AgentRuntime
