import Mathlib.Logic.Function.Basic
import Torsor.Kernel.Schema
import Torsor.Library.Machine

/-! # Refreshing projections

Within one session a window keeps what it shows up to date: an event invalidates projections,
a projection is read again once its running read is over, failed reads are repeated later, and
a read that a later one has superseded takes over its result. Every event below is what runs
between two points where the source awaits something; the count of events is the time.
-/

namespace Torsor.Web

open Torsor.Library Torsor.Kernel

/-! ## Projections -/

inductive ProjectionFamily where
  | threads | thread | run | runs | attentionAgents | bootstrap
  deriving DecidableEq, Repr

/-- The keys `threads:…`, `thread:…`, `run:…`, `runs`, `attention-agents` and `bootstrap`. -/
inductive ProjectionKey where
  | threads (channelId : String)
  | thread (threadId : String)
  | run (runId : String)
  | runs
  | attentionAgents
  | bootstrap
  deriving DecidableEq, Repr

def ProjectionKey.family : ProjectionKey → ProjectionFamily
  | .threads _ => .threads
  | .thread _ => .thread
  | .run _ => .run
  | .runs => .runs
  | .attentionAgents => .attentionAgents
  | .bootstrap => .bootstrap

/-- A Run or a Thread that is shown, with its revision or cursor, as the server had it. -/
structure ShownItem where
  id : String
  revision : Nat
  readAt : Nat
  deriving DecidableEq, Repr

/-- What is shown of a projection, and when the server read it. -/
structure Shown where
  readAt : Nat
  items : List ShownItem
  deriving DecidableEq, Repr

/-- What is shown was read at the time or later. -/
def Shown.reflects (time : Nat) (shown : Shown) : Prop :=
  time ≤ shown.readAt ∧ ∀ item ∈ shown.items, time ≤ item.readAt

/-- The Runs and Threads of the server at each time; revisions of Runs never go down. -/
structure ServerState where
  runs : Nat → List String
  threads : String → Nat → List String
  revision : String → Nat → Nat
  cursor : String → Nat → Nat
  revision_mono : ∀ runId time time', time ≤ time' → revision runId time ≤ revision runId time'

namespace ServerState

variable (server : ServerState)

def run (runId : String) (time : Nat) : ShownItem := ⟨runId, server.revision runId time, time⟩

def thread (threadId : String) (time : Nat) : ShownItem :=
  ⟨threadId, server.cursor threadId time, time⟩

def read (key : ProjectionKey) (time : Nat) : Shown where
  readAt := time
  items :=
    match key with
    | .threads channelId => (server.threads channelId time).map (server.thread · time)
    | .thread threadId => [server.thread threadId time]
    | .run runId => [server.run runId time]
    | .runs => (server.runs time).map (server.run · time)
    | .attentionAgents | .bootstrap => []

end ServerState

/-! ## Reads and promises -/

/-- How a read was begun: by itself, or as one half of a refresh of the Run composer. The
Thread half reads beside the selection where another Thread, or none, is selected. -/
inductive ReadKind where
  | single
  | half
  | beside (threadKey : Option ProjectionKey) (runKey : ProjectionKey)
  deriving DecidableEq, Repr

def ReadKind.isBeside : ReadKind → Bool
  | .beside _ _ => true
  | _ => false

inductive ReadState where
  | reading
  /-- A half waits for the other one. -/
  | fetched (ok : Bool)
  /-- `return this.loadThread(threadId)` after a `401` to an old token. -/
  | returning (m : Nat)
  /-- `#replacementResult` awaits the read that has superseded this one. -/
  | awaiting (m : Nat)
  | settled (succeeded : Bool)
  deriving DecidableEq, Repr

/-- A call of one of the functions that read a projection. -/
structure ProjectionRead where
  key : ProjectionKey
  kind : ReadKind
  issuedAt : Nat
  generation : Nat
  /-- When the server read the projection. -/
  readAt : Option Nat := none
  state : ReadState := .reading
  /-- Its response has been shown. -/
  applied : Bool := false
  deriving DecidableEq, Repr

/-- What a refresh returns: a read, or at once a value. -/
inductive Refreshing where
  | read (n : Nat)
  | done (succeeded : Bool)
  deriving DecidableEq, Repr

/-- A `DeferredBoolean`. -/
inductive Deferred where
  | pending
  | follows (refreshing : Refreshing)
  | resolved (succeeded : Bool)
  deriving DecidableEq, Repr

inductive RefreshPromise where
  | refreshing (refreshing : Refreshing)
  | deferred (d : Nat)
  deriving DecidableEq, Repr

structure CoalescedRefresh where
  inFlight : Refreshing
  followUp : Option Nat
  deriving DecidableEq, Repr

/-- An entry of `#projectionInvalidations`. -/
structure ProjectionInvalidation where
  id : Nat
  eventIds : List Nat
  timer : Bool
  deriving DecidableEq, Repr

/-- Code that awaits a refresh for some events: `#applyEvent`, or a retry of an invalidation. -/
structure InvalidationWork where
  key : ProjectionKey
  eventIds : List Nat
  promise : RefreshPromise
  retryOf : Option Nat
  deriving DecidableEq, Repr

/-- The two halves of a refresh of the Run composer. -/
structure ComposerRefresh where
  run : Nat
  thread : Nat
  deriving DecidableEq, Repr

/-- The fields of a public event that decide which projections it invalidates. -/
structure InvalidatingEvent where
  channelId : Option String
  threadRootId : Option String
  entityType : EntityType
  /-- `eventRunId(event)`. -/
  runId : Option String

/-! ## The window -/

structure WebView where
  now : Nat
  /-- The selected key of each family; the families without a selection have one key. -/
  selected : ProjectionFamily → Option ProjectionKey
  generation : ProjectionFamily → Nat
  reads : List ProjectionRead
  /-- `#latestProjectionRequests`. -/
  latest : ProjectionKey → Option Nat
  /-- `#coalescedRefreshes`. -/
  refreshes : ProjectionKey → Option CoalescedRefresh
  deferreds : List (ProjectionKey × Deferred)
  invalidations : ProjectionKey → Option ProjectionInvalidation
  works : List InvalidationWork
  composers : List ComposerRefresh
  shown : ProjectionKey → Option Shown
  /-- When the selection of a key was last left. -/
  leftAt : ProjectionKey → Nat
  /-- The events so far, by the time they came, and the keys they were routed to. -/
  routed : List (Nat × ProjectionKey)

namespace WebView

/-- The window once the session is ready. -/
def ready (server : ServerState) : WebView where
  now := 1
  selected
    | .runs => some .runs
    | .attentionAgents => some .attentionAgents
    | .bootstrap => some .bootstrap
    | _ => none
  generation := fun _ => 0
  reads := []
  latest := fun _ => none
  refreshes := fun _ => none
  deferreds := []
  invalidations := fun _ => none
  works := []
  composers := []
  shown
    | .runs => some (server.read .runs 0)
    | .attentionAgents => some (server.read .attentionAgents 0)
    | .bootstrap => some (server.read .bootstrap 0)
    | _ => none
  leftAt := fun _ => 0
  routed := []

def isSelected (s : WebView) (key : ProjectionKey) : Bool := s.selected key.family = some key

def pending (s : WebView) (key : ProjectionKey) : List Nat :=
  (s.invalidations key).elim [] (·.eventIds)

/-! ### Values of promises -/

def readValue (s : WebView) (n : Nat) : Option Bool :=
  s.reads[n]?.bind fun read =>
    match read.state with
    | .settled succeeded => some succeeded
    | _ => none

def refreshingValue (s : WebView) : Refreshing → Option Bool
  | .read n => s.readValue n
  | .done succeeded => some succeeded

def promiseValue (s : WebView) : RefreshPromise → Option Bool
  | .refreshing refreshing => s.refreshingValue refreshing
  | .deferred d =>
      s.deferreds[d]?.bind fun deferred =>
        match deferred.2 with
        | .pending => none
        | .follows refreshing => s.refreshingValue refreshing
        | .resolved succeeded => some succeeded

/-! ### Selections -/

def setDeferred (d : Nat) (value : Deferred) (s : WebView) : WebView :=
  { s with deferreds := s.deferreds.modify d fun deferred => (deferred.1, value) }

/-- `#abandonProjectionInvalidation`, and what is shown goes. -/
def leave (key : ProjectionKey) (s : WebView) : WebView :=
  let abandoned :=
    { s with
      invalidations := Function.update s.invalidations key none
      shown := Function.update s.shown key none
      leftAt := Function.update s.leftAt key s.now }
  match s.refreshes key with
  | some ⟨inFlight, some d⟩ =>
      ({ abandoned with
        refreshes := Function.update s.refreshes key (some ⟨inFlight, none⟩) }).setDeferred d
        (.resolved true)
  | _ => abandoned

def select (key : ProjectionKey) (s : WebView) : WebView :=
  match s.selected key.family with
  | some previous =>
      if previous = key then s
      else
        { s.leave previous with
          selected := Function.update s.selected key.family (some key) }
  | none => { s with selected := Function.update s.selected key.family (some key) }

/-- `clearRun`, and the part of `clearThread` about one family. -/
def deselect (family : ProjectionFamily) (s : WebView) : WebView :=
  let cleared :=
    match s.selected family with
    | some key => { s.leave key with selected := Function.update s.selected family none }
    | none => s
  { cleared with
    generation := Function.update s.generation family (s.generation family + 1) }

/-! ### Reads -/

def addRead (read : ProjectionRead) (s : WebView) : WebView :=
  { s with
    reads := s.reads ++ [read]
    latest := Function.update s.latest read.key (some s.reads.length) }

/-- A read that supersedes those before it. -/
def issue (key : ProjectionKey) (kind : ReadKind) (s : WebView) : WebView :=
  let generation := s.generation key.family + 1
  { s with generation := Function.update s.generation key.family generation }.addRead
    { key, kind, issuedAt := s.now, generation }

/-- `loadThreads`, `loadThread`, `loadRun`, `#refreshRuns` and the others, up to the request. -/
def load (key : ProjectionKey) (s : WebView) : WebView := (s.select key).issue key .single

def setReadState (n : Nat) (state : ReadState) (s : WebView) : WebView :=
  { s with reads := s.reads.modify n fun read => { read with state } }

/-- The read has not been superseded, and its selection has not been left. -/
def isCurrent (s : WebView) (n : Nat) (read : ProjectionRead) : Bool :=
  match read.kind with
  | .beside threadKey runKey =>
      s.selected .thread = threadKey && s.selected .run = some runKey && s.latest read.key = some n
  | _ => s.isSelected read.key && s.generation read.key.family = read.generation

/-- `inScope` of `#replacementResult`, which not all families pass. -/
def inScope (s : WebView) (read : ProjectionRead) : Bool :=
  match read.kind with
  | .beside threadKey runKey => s.selected .thread = threadKey && s.selected .run = some runKey
  | _ =>
      match read.key with
      | .thread _ | .run _ => s.isSelected read.key
      | _ => true

/-- `#replacementResult`. -/
def replaced (n : Nat) (read : ProjectionRead) (s : WebView) : WebView :=
  if s.inScope read then
    match s.latest read.key with
    | some m => if m = n then s.setReadState n (.settled false) else s.setReadState n (.awaiting m)
    | none => s.setReadState n (.settled false)
  else s.setReadState n (.settled false)

/-- `mergeRunTimeline` for a Run; other responses take the place of what is shown. -/
def merged (server : ServerState) (key : ProjectionKey) (time : Nat) (s : WebView) : Shown :=
  match key, s.shown key with
  | .run runId, some ⟨readAt, [previous]⟩ =>
      if server.revision runId time < previous.revision then ⟨readAt, [previous]⟩
      else server.read key time
  | _, _ => server.read key time

/-- A response is shown. -/
def applyRead (server : ServerState) (n : Nat) (read : ProjectionRead) (time : Nat)
    (s : WebView) : WebView :=
  { s with
    shown := Function.update s.shown read.key (some (s.merged server read.key time))
    reads := s.reads.modify n fun read => { read with state := .settled true, applied := true } }

/-! ### Coalesced refreshes -/

/-- The closure that refreshes a key: a key whose selection was left needs no refresh. -/
def startRefresh (key : ProjectionKey) (s : WebView) : Refreshing × WebView :=
  if s.isSelected key then (.read s.reads.length, s.load key) else (.done true, s)

/-- `#coalesceProjectionRefresh`. -/
def coalesce (key : ProjectionKey) (s : WebView) : RefreshPromise × WebView :=
  match s.refreshes key with
  | some ⟨_, some d⟩ => (.deferred d, s)
  | some ⟨inFlight, none⟩ =>
      (.deferred s.deferreds.length,
        { s with
          deferreds := s.deferreds ++ [(key, .pending)]
          refreshes :=
            Function.update s.refreshes key (some ⟨inFlight, some s.deferreds.length⟩) })
  | none =>
      let started := s.startRefresh key
      (.refreshing started.1,
        { started.2 with
          refreshes := Function.update started.2.refreshes key (some ⟨started.1, none⟩) })

/-- What `#startCoalescedRefresh` does when its refresh is over. -/
def refreshOver (key : ProjectionKey) (followUp : Option Nat) (s : WebView) : WebView :=
  match followUp with
  | none => { s with refreshes := Function.update s.refreshes key none }
  | some d =>
      let started := s.startRefresh key
      ({ started.2 with
        refreshes := Function.update started.2.refreshes key (some ⟨started.1, none⟩)
      }).setDeferred d (.follows started.1)

/-! ### Invalidations -/

/-- The keys `#applyEvent` routes an event to. -/
def routes (s : WebView) (event : InvalidatingEvent) : List ProjectionKey :=
  let threads := (event.channelId.map ProjectionKey.threads).filter fun key => s.isSelected key
  let thread := (event.threadRootId.map ProjectionKey.thread).filter fun key => s.isSelected key
  let run :=
    match (event.runId.map ProjectionKey.run).filter fun key => s.isSelected key with
    | some key => some key
    | none =>
        if event.entityType ∈ [EntityType.RunInput, .ActivationAttempt, .ProviderAttempt,
            .RunActivityEvent, .Artifact] ∧ event.threadRootId.map ProjectionKey.thread = s.selected .thread then
          s.selected .run
        else none
  threads.toList ++ thread.toList ++ run.toList ++
    (if event.entityType ∈ [EntityType.Run, .RunInput, .ActivationAttempt, .ProviderAttempt,
        .RunActivityEvent, .Artifact] then [.runs] else []) ++
    (if event.entityType ∈ [EntityType.Agent, .Attention, .Run, .ActivationAttempt] then
      [.attentionAgents] else []) ++
    (if event.entityType = .Agent then [.bootstrap] else [])

/-- `#registerProjectionInvalidation` for the event that comes now. -/
def register (key : ProjectionKey) (s : WebView) : WebView :=
  let invalidation := (s.invalidations key).getD ⟨s.now, [], false⟩
  { s with
    invalidations := Function.update s.invalidations key
      (some { invalidation with eventIds := invalidation.eventIds ++ [s.now] })
    routed := s.routed ++ [(s.now, key)] }

def addWork (key : ProjectionKey) (eventIds : List Nat) (retryOf : Option Nat)
    (coalesced : RefreshPromise × WebView) : WebView :=
  { coalesced.2 with
    works := coalesced.2.works ++ [{ key, eventIds, promise := coalesced.1, retryOf }] }

/-- `queue` of `#applyEvent`: while a timer runs, the retry will do. -/
def queue (key : ProjectionKey) (s : WebView) : WebView :=
  let registered := s.register key
  if (registered.invalidations key).any (·.timer) then registered
  else addWork key [s.now] none (registered.coalesce key)

def applyEvent (event : InvalidatingEvent) (s : WebView) : WebView :=
  (s.routes event).foldl (fun s key => s.queue key) s

/-- `#reconcileEventProjection` for some events. -/
def reconcile (key : ProjectionKey) (eventIds : List Nat) (s : WebView) : WebView :=
  match s.invalidations key with
  | none => s
  | some invalidation =>
      let rest := invalidation.eventIds.filter (· ∉ eventIds)
      { s with
        invalidations := Function.update s.invalidations key
          (if rest = [] then none else some { invalidation with eventIds := rest }) }

def scheduleRetry (key : ProjectionKey) (s : WebView) : WebView :=
  { s with
    invalidations := Function.update s.invalidations key
      ((s.invalidations key).map fun invalidation => { invalidation with timer := true }) }

/-- A timer fires, or the event stream is open again. -/
def retry (key : ProjectionKey) (invalidation : ProjectionInvalidation) (s : WebView) : WebView :=
  let cleared :=
    { s with
      invalidations := Function.update s.invalidations key
        (some { invalidation with timer := false }) }
  addWork key invalidation.eventIds (some invalidation.id) (cleared.coalesce key)

/-- The refresh a work awaits has ended. -/
def workOver (work : InvalidationWork) (succeeded : Bool) (s : WebView) : WebView :=
  match work.retryOf, (s.invalidations work.key).map (·.id) with
  | some id, some id' =>
      if id = id' then
        if succeeded then s.reconcile work.key work.eventIds else s.scheduleRetry work.key
      else s
  | some _, none => s
  | none, _ =>
      if succeeded then s.reconcile work.key work.eventIds else s.scheduleRetry work.key

/-! ### The Run composer -/

/-- `refreshRunComposer` up to its requests. -/
def refreshRunComposer (runId threadId : String) (s : WebView) : WebView :=
  let runIssued := s.issue (.run runId) .half
  let bothIssued :=
    if s.isSelected (.thread threadId) then runIssued.issue (.thread threadId) .half
    else
      runIssued.addRead
        { key := .thread threadId
          kind := .beside (s.selected .thread) (.run runId)
          issuedAt := s.now
          generation := s.generation .thread }
  { bothIssued with composers := s.composers ++ [⟨s.reads.length, s.reads.length + 1⟩] }

/-- A list with one item replaced, where the item is not above the one that was read. -/
def patched (item : ShownItem) (shown : Shown) : Shown :=
  { shown with
    items := shown.items.map fun old =>
      if old.id = item.id ∧ old.revision ≤ item.revision then item else old }

/-- The list a half patches, and the item it puts there. -/
def patch (server : ServerState) (read : ProjectionRead) (time : Nat) (s : WebView) :
    Option (ProjectionKey × ShownItem) :=
  match read.key with
  | .run runId => some (.runs, server.run runId time)
  | .thread threadId => (s.selected .threads).map fun key => (key, server.thread threadId time)
  | _ => none

/-- The state a half of a composer refresh sets. -/
def applyHalf (server : ServerState) (n : Nat) (read : ProjectionRead) (time : Nat)
    (s : WebView) : WebView :=
  let applied := if read.kind.isBeside then s.setReadState n (.settled true)
    else s.applyRead server n read time
  match s.patch server read time with
  | some (key, item) =>
      { applied with
        shown := Function.update applied.shown key ((s.shown key).map (patched item)) }
  | none => applied

/-- `#settleComposerProjection`. -/
def settleHalf (server : ServerState) (n : Nat) (read : ProjectionRead) (ok preservePair : Bool)
    (time : Nat) (s : WebView) : WebView :=
  if ¬ s.inScope read then s.setReadState n (.settled false)
  else if ¬ s.isCurrent n read then s.replaced n read
  else if ¬ ok ∨ preservePair then s.setReadState n (.settled false)
  else s.applyHalf server n read time

/-- Both halves have been read. -/
def settleComposer (server : ServerState) (composer : ComposerRefresh)
    (run thread : ProjectionRead) (runOk threadOk : Bool) (runTime threadTime : Nat)
    (s : WebView) : WebView :=
  let bothCurrent := s.isCurrent composer.run run && s.isCurrent composer.thread thread
  if bothCurrent ∧ runOk ∧ threadOk then
    (s.applyHalf server composer.run run runTime).applyHalf server composer.thread thread
      threadTime
  else
    (s.settleHalf server composer.run run runOk bothCurrent runTime).settleHalf server
      composer.thread thread threadOk bothCurrent threadTime

end WebView

/-! ## Events -/

inductive WebEvent where
  /-- An event of the stream or of another window that has not been seen before. -/
  | apply (event : InvalidatingEvent)
  /-- The user, a command, a timer of its own: something loads a projection. -/
  | load (key : ProjectionKey)
  | clearRun
  | clearThread
  | refreshRunComposer (runId threadId : String)
  /-- The server reads a projection for a request. -/
  | serve (n : Nat)
  | respond (n : Nat)
  | fail (n : Nat) (reauthenticated : Bool)
  | fetchHalf (n : Nat) (ok : Bool)
  /-- A half repeats a request after a `401` to an old token. -/
  | refetchHalf (n : Nat)
  | settleComposer (c : Nat)
  | resume (n : Nat)
  | refreshOver (key : ProjectionKey)
  | workOver (w : Nat)
  | retry (key : ProjectionKey)
  /-- The stream is open again and the selected Run is refreshed. -/
  | reconnect (runId : String)

namespace WebView

/-- The families whose loads are repeated after a `401` to an old token. -/
def reloads (read : ProjectionRead) : Bool :=
  read.key.family ∈ [ProjectionFamily.threads, .thread, .run]

def handle (server : ServerState) : WebEvent → WebView → Option WebView
  | .apply event, s => some (s.applyEvent event)
  | .load key, s => some (s.load key)
  | .clearRun, s => some (s.deselect .run)
  | .clearThread, s => some ((s.deselect .thread).deselect .run)
  | .refreshRunComposer runId threadId, s =>
      if s.isSelected (.run runId) ∧ (s.shown (.run runId)).isSome then
        some (s.refreshRunComposer runId threadId)
      else none
  | .serve n, s =>
      s.reads[n]?.bind fun read =>
        if read.state = .reading ∧ read.readAt = none then
          some { s with reads := s.reads.modify n fun read => { read with readAt := some s.now } }
        else none
  | .respond n, s =>
      s.reads[n]?.bind fun read =>
        match read.kind, read.state, read.readAt with
        | .single, .reading, some time =>
            if s.isCurrent n read then some (s.applyRead server n read time)
            else some (s.replaced n read)
        | _, _, _ => none
  | .fail n reauthenticated, s =>
      s.reads[n]?.bind fun read =>
        match read.kind, read.state with
        | .single, .reading =>
            if s.isCurrent n read then
              if reauthenticated ∧ reloads read then
                some ((s.load read.key).setReadState n (.returning s.reads.length))
              else some (s.setReadState n (.settled false))
            else some (s.replaced n read)
        | _, _ => none
  | .fetchHalf n ok, s =>
      s.reads[n]?.bind fun read =>
        if read.kind ≠ .single ∧ read.state = .reading ∧ (ok → read.readAt.isSome) then
          some (s.setReadState n (.fetched ok))
        else none
  | .refetchHalf n, s =>
      s.reads[n]?.bind fun read =>
        if read.kind ≠ .single ∧ read.state = .reading ∧ s.isCurrent n read then
          some { s with reads := s.reads.modify n fun read => { read with readAt := none } }
        else none
  | .settleComposer c, s => do
      let composer ← s.composers[c]?
      let run ← s.reads[composer.run]?
      let thread ← s.reads[composer.thread]?
      match run.state, thread.state with
      | .fetched runOk, .fetched threadOk =>
          some (s.settleComposer server composer run thread runOk threadOk
            (run.readAt.getD 0) (thread.readAt.getD 0))
      | _, _ => none
  | .resume n, s =>
      s.reads[n]?.bind fun read =>
        match read.state with
        | .returning m => (s.readValue m).map fun value => s.setReadState n (.settled value)
        | .awaiting m =>
            (s.readValue m).map fun value =>
              s.setReadState n (.settled (value && s.inScope read))
        | _ => none
  | .refreshOver key, s => do
      let refresh ← s.refreshes key
      let _ ← s.refreshingValue refresh.inFlight
      some (s.refreshOver key refresh.followUp)
  | .workOver w, s => do
      let work ← s.works[w]?
      let succeeded ← s.promiseValue work.promise
      some ({ s with works := s.works.eraseIdx w }.workOver work succeeded)
  | .retry key, s => (s.invalidations key).map fun invalidation => s.retry key invalidation
  | .reconnect runId, s =>
      if s.isSelected (.run runId) then some (s.coalesce (.run runId)).2 else none

end WebView

def webMachine (server : ServerState) : Machine WebEvent WebView := fun e s =>
  (s.handle server e).map fun s => { s with now := s.now + 1 }

end Torsor.Web
