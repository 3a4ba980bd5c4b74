import Torsor.Library.NumberedLog
import Torsor.Kernel.PlainErrors

/-! # The cursors of the Threads

Of the database only the cursors of the Threads, the events that carry one and the places
of the Messages matter here. A command opens a Thread, emits an event of it, or publishes a
Message, which takes a place and emits the event that announces it. Between the statements
of one step the three tables disagree; a command that fails there is rolled back.
-/

namespace Torsor.Kernel

open Torsor.Library Tx

/-! ## The book of the Threads -/

/-- A Message and the place it has in its Thread. -/
structure MessagePlace where
  messageId : String
  threadRootId : Option String
  place : Option Nat

structure ThreadBook where
  log : NumberedLog String
  /-- The places the events announce. -/
  announced : List MessagePlace
  /-- The places the Messages have. -/
  placed : List MessagePlace

namespace ThreadBook

inductive Step (b : ThreadBook) : ThreadBook → Prop
  | openThread (id : String) (hnew : b.log.counter id = none) :
      Step b { b with log := b.log.openStream id }
  | emit {id : String} {n position : Nat} (hcounter : b.log.counter id = some n)
      (hlater : ∀ e ∈ b.log.entries, e.position < position) :
      Step b { b with log := b.log.append id n position }
  | publish {id : String} {n position : Nat} (messageId : String)
      (hcounter : b.log.counter id = some n)
      (hlater : ∀ e ∈ b.log.entries, e.position < position) :
      Step b
        { log := b.log.append id n position
          announced := b.announced ++ [⟨messageId, some id, some (n + 1)⟩]
          placed := b.placed ++ [⟨messageId, some id, some (n + 1)⟩] }

def Steps : ThreadBook → ThreadBook → Prop := Relation.ReflTransGen Step

structure Sound (b : ThreadBook) : Prop where
  log : b.log.Sound
  announced : b.announced = b.placed

theorem Step.sound {b b' : ThreadBook} (h : b.Step b') (hsound : b.Sound) : b'.Sound := by
  cases h with
  | openThread id hnew => exact ⟨hsound.log.openStream hnew, hsound.announced⟩
  | emit hcounter hlater => exact ⟨hsound.log.append hcounter hlater, hsound.announced⟩
  | publish messageId hcounter hlater =>
      refine ⟨hsound.log.append hcounter hlater, ?_⟩
      show b.announced ++ _ = b.placed ++ _
      rw [hsound.announced]

theorem Steps.sound {b b' : ThreadBook} (h : b.Steps b') (hsound : b.Sound) : b'.Sound := by
  induction h with
  | refl => exact hsound
  | tail _ hstep ih => exact hstep.sound ih

end ThreadBook

/-! ## The book of a database -/

/-- The entry of an event that carries a cursor. -/
def PublicEvent.entry? (event : PublicEvent) : Option (LogEntry String) :=
  event.threadRootId.bind fun threadRootId =>
    event.threadCursor.map fun cursor => ⟨threadRootId, cursor, event.sequence⟩

def PublicEvent.announced? (event : PublicEvent) : Option MessagePlace :=
  if event.type = .MessagePublished then
    some ⟨event.entityId, event.threadRootId, event.threadCursor⟩
  else none

def Message.place (message : Message) : MessagePlace :=
  ⟨message.id, some message.threadRootId, some message.threadSequence⟩

def threadBook (db : Database) : ThreadBook where
  log :=
    { counter id := ((db.table Thread).find? fun r => r.rootMessageId = id).map (·.cursor)
      entries := (db.table PublicEvent).rows.filterMap PublicEvent.entry? }
  announced := (db.table PublicEvent).rows.filterMap PublicEvent.announced?
  placed := (db.table Message).rows.map Message.place

def SameThreads (w w' : World) : Prop := threadBook w'.db = threadBook w.db

def ThreadSteps (w w' : World) : Prop := (threadBook w.db).Steps (threadBook w'.db)

instance : IsPreorder World SameThreads where
  refl _ := rfl
  trans _ _ _ h h' := h'.trans h

instance : IsPreorder World ThreadSteps where
  refl _ := Relation.ReflTransGen.refl
  trans _ _ _ h h' := h.trans h'

theorem threadBook_of_tables {db db' : Database}
    (h : ∀ s ∈ [TableName.threads, .publicEvents, .messages], db' s = db s) :
    threadBook db' = threadBook db := by
  simp only [threadBook, Database.table, h .threads (by decide), h .publicEvents (by decide),
    h .messages (by decide)]

/-- A relation that holds whenever the book is the same. -/
class OfSameThreads (R : World → World → Prop) : Prop where
  of_same : ∀ w w', SameThreads w w' → R w w'

instance : OfSameThreads SameThreads := ⟨fun _ _ h => h⟩

instance : OfSameThreads ThreadSteps where
  of_same w w' h := by
    rw [ThreadSteps, h]
    exact Relation.ReflTransGen.refl

instance : ConcernsTables SameThreads [.threads, .publicEvents, .messages] where
  of_tables _ _ htables _ _ _ := threadBook_of_tables htables

instance : ConcernsTables ThreadSteps [.threads, .publicEvents, .messages] where
  of_tables _ _ htables _ _ _ := OfSameThreads.of_same _ _ (threadBook_of_tables htables)

/-! ## Statements that leave the book alone -/

section Statements

set_option synthInstance.maxSize 100000

variable {R : World → World → Prop} [OfSameThreads R]

/-- Events of this type announce no Message. -/
class Unannounced (type : EventType) : Prop where
  ne : type ≠ .MessagePublished

instance : Unannounced .AttentionHandlerLeaseSuperseded := ⟨by decide⟩
instance : Unannounced .AttentionClaimed := ⟨by decide⟩
instance : Unannounced .AttentionOpened := ⟨by decide⟩
instance : Unannounced .AttentionResolved := ⟨by decide⟩
instance : Unannounced .AttentionIgnored := ⟨by decide⟩
instance : Unannounced .RunCreated := ⟨by decide⟩
instance : Unannounced .RunInputAdded := ⟨by decide⟩
instance : Unannounced .RunInputWithdrawn := ⟨by decide⟩
instance : Unannounced .RunActivated := ⟨by decide⟩
instance : Unannounced .RunWaiting := ⟨by decide⟩
instance : Unannounced .RunCompleted := ⟨by decide⟩
instance : Unannounced .ArtifactPublished := ⟨by decide⟩
instance : Unannounced .AgentConfigUpdated := ⟨by decide⟩
instance : Unannounced .RunConfigAdopted := ⟨by decide⟩
instance : Unannounced .ActivationStarted := ⟨by decide⟩
instance : Unannounced .ActivationFinished := ⟨by decide⟩
instance : Unannounced .ProviderAttemptStarted := ⟨by decide⟩
instance : Unannounced .ProviderAttemptAcknowledged := ⟨by decide⟩
instance : Unannounced .ProviderAttemptFinished := ⟨by decide⟩
instance : Unannounced .RunActivityAppended := ⟨by decide⟩
instance : Unannounced .LateOutputRecorded := ⟨by decide⟩
instance : Unannounced .MessageEdited := ⟨by decide⟩
instance : Unannounced .MessageDeleted := ⟨by decide⟩
instance (termination : Termination) : Unannounced termination.event :=
  ⟨by cases termination <;> decide⟩
instance (p : Prop) [Decidable p] (type type' : EventType) [h : Unannounced type]
    [h' : Unannounced type'] : Unannounced (if p then type else type') :=
  ⟨by split <;> [exact h.ne; exact h'.ne]⟩

theorem threadBook_insertEvent {w : World} {event : PublicEvent} {t : Table PublicEvent}
    (h : (w.db.table PublicEvent).insert? event = some t) :
    threadBook (w.store t).db =
      { threadBook w.db with
        log :=
          { (threadBook w.db).log with
            entries := (threadBook w.db).log.entries ++ event.entry?.toList }
        announced := (threadBook w.db).announced ++ event.announced?.toList } := by
  simp only [threadBook, World.store_db, Database.table_set_same, Table.insert?_eq_some h,
    List.filterMap_append, List.filterMap_cons, List.filterMap_nil]
  cases event.entry? <;> cases event.announced? <;> rfl

/-- The book with an event added to the log. -/
def ThreadBook.record (b : ThreadBook) (event : EventInput) (sequence : Nat) : ThreadBook :=
  { b with
    log :=
      { b.log with
        entries := b.log.entries ++ (event.threadRootId.bind fun threadRootId =>
          event.threadCursor.map fun cursor => ⟨threadRootId, cursor, sequence⟩).toList }
    announced := b.announced ++ (if event.type = .MessagePublished then
        some ⟨event.entityId, event.threadRootId, event.threadCursor⟩ else none).toList }

theorem entry_lt_nextSequence {db : Database} {e : LogEntry String}
    (he : e ∈ (threadBook db).log.entries) :
    e.position < nextSequence PublicEvent.sequence (db.table PublicEvent).rows := by
  obtain ⟨event, hevent, hentry⟩ := List.mem_filterMap.mp he
  simp only [PublicEvent.entry?, Option.bind_eq_some_iff, Option.map_eq_some_iff] at hentry
  obtain ⟨_, -, _, -, rfl⟩ := hentry
  show event.sequence < _
  exact lt_nextSequence hevent

variable {kernel : KernelContext} {w w' : World}

theorem threadBook_emitEvent {event : EventInput} {sequence : Nat}
    (h : emitEvent kernel event w = (.ok sequence, w')) :
    (∀ e ∈ (threadBook w.db).log.entries, e.position < sequence) ∧
      threadBook w'.db = (threadBook w.db).record event sequence := by
  simp only [emitEvent, bind_eq_ok, newId_eq_ok, now_eq_ok, selectTable_eq_ok, insertRow_eq_ok,
    pure_eq_ok] at h
  obtain ⟨eventId, _, ⟨-, rfl⟩, occurredAt, _, ⟨-, rfl⟩, _, _, ⟨rfl, rfl⟩, _, _, ⟨t, ht, rfl⟩,
    rfl, rfl⟩ := h
  refine ⟨?_, threadBook_insertEvent ht⟩
  intro e he
  exact entry_lt_nextSequence he

theorem threadBook_emitEvent_error {event : EventInput} {e : Failure}
    (h : emitEvent kernel event w = (.error e, w')) : SameThreads w w' := by
  rw [emitEvent, bind_of_ok (newId_eq_ok.mpr ⟨rfl, rfl⟩), bind_of_ok (now_eq_ok.mpr ⟨rfl, rfl⟩),
    bind_of_ok (selectTable_eq_ok.mpr ⟨rfl, rfl⟩)] at h
  obtain hrefused | ⟨_, _, -, hdone⟩ := bind_eq_error.mp h
  · rw [insertRow_eq_error hrefused]
    rfl
  · cases hdone

/-- An event without a cursor that announces nothing. -/
instance (kernel : KernelContext) (type : EventType) (projectId : String)
    (channelId threadRootId : Option String) (entityType : EntityType)
    (entityId actorPrincipalId : String) (activationId causationId : Option String)
    (correlationId : String) (payload : Json) [htype : Unannounced type] :
    Within R (emitEvent kernel
      { type, projectId, channelId, threadRootId, entityType, entityId, actorPrincipalId,
        activationId, causationId, correlationId, payload }) where
  step w := by
    apply OfSameThreads.of_same
    cases hrun : emitEvent kernel _ w with
    | mk r w' =>
        cases r with
        | error e => exact threadBook_emitEvent_error hrun
        | ok sequence =>
            rw [SameThreads, (threadBook_emitEvent hrun).2]
            cases threadRootId <;> simp [ThreadBook.record, htype.ne]

theorem threadBook_updateCursor {threadRootId : String} {thread : Thread} {cursor : Nat}
    {hkeys : KeepsKeys fun r : Thread => { r with cursor }}
    (hthread : (w.db.table Thread).find? (fun r => r.rootMessageId = threadRootId) =
      some thread) :
    threadBook (w.store ((w.db.table Thread).update (fun r => r.rootMessageId = threadRootId)
        (fun r => { r with cursor }) hkeys)).db =
      { threadBook w.db with
        log :=
          { (threadBook w.db).log with
            counter := Function.update (threadBook w.db).log.counter threadRootId
              (some cursor) } } := by
  have hcounter : ∀ id, (((w.db.table Thread).update (fun r => r.rootMessageId = threadRootId)
      (fun r => { r with cursor }) hkeys).find? fun r => r.rootMessageId = id).map (·.cursor) =
      Function.update (threadBook w.db).log.counter threadRootId (some cursor) id := by
    intro id
    have hfind : ((w.db.table Thread).update (fun r => r.rootMessageId = threadRootId)
        (fun r => { r with cursor }) hkeys).find? (fun r => r.rootMessageId = id) =
        if id = threadRootId then
          ((w.db.table Thread).find? fun r => r.rootMessageId = threadRootId).map
            fun r => { r with cursor }
        else (w.db.table Thread).find? fun r => r.rootMessageId = id :=
      Table.find?_update fun _ => rfl
    rw [hfind]
    by_cases hid : id = threadRootId
    · subst hid
      simp [hthread]
    · simp [hid, threadBook]
  simp only [threadBook, World.store_db, Database.table_set_same] at hcounter ⊢
  simp only [hcounter]
  rfl

/-- The cursor of a Thread moves on and the event carries it. -/
theorem threadBook_emitThreadEvent {threadRootId : String} {event : EventInput} {cursor : Nat}
    (h : emitThreadEvent kernel threadRootId event w = (.ok cursor, w')) :
    ∃ n position, (threadBook w.db).log.counter threadRootId = some n ∧
      (∀ e ∈ (threadBook w.db).log.entries, e.position < position) ∧ cursor = n + 1 ∧
      threadBook w'.db =
        { threadBook w.db with
          log := (threadBook w.db).log.append threadRootId n position
          announced := (threadBook w.db).announced ++ (if event.type = .MessagePublished then
            some ⟨event.entityId, some threadRootId, some (n + 1)⟩ else none).toList } := by
  simp only [emitThreadEvent, threadCursor, requireThread, bind_eq_ok, requireRow_eq_ok,
    pure_eq_ok, updateRows_eq_ok] at h
  obtain ⟨n, _, ⟨thread, _, ⟨hthread, rfl⟩, rfl, rfl⟩, _, _, rfl, position, _, hemit, rfl, rfl⟩ := h
  obtain ⟨hlater, hbook⟩ := threadBook_emitEvent hemit
  have hcounter : (threadBook w.db).log.counter threadRootId = some thread.cursor := by
    simp [threadBook, hthread]
  refine ⟨thread.cursor, position, hcounter, hlater, rfl, ?_⟩
  rw [hbook, threadBook_updateCursor hthread]
  rfl

instance (type : EventType) (eventThread projectId : String)
    (channelId threadRootId : Option String) (entityType : EntityType)
    (entityId actorPrincipalId : String) (activationId causationId : Option String)
    (correlationId : String) (payload : Json) [htype : Unannounced type] :
    Commits ThreadSteps (emitThreadEvent kernel eventThread
      { type, projectId, channelId, threadRootId, entityType, entityId, actorPrincipalId,
        activationId, causationId, correlationId, payload }) :=
  Commits.of_ok fun w cursor w' h => by
    obtain ⟨n, position, hcounter, hlater, -, hbook⟩ := threadBook_emitThreadEvent h
    rw [if_neg htype.ne, Option.toList_none, List.append_nil] at hbook
    rw [ThreadSteps, hbook]
    exact Relation.ReflTransGen.single (.emit hcounter hlater)

theorem sameThreads_updateThreads {p : Thread → Bool} {f : Thread → Thread} {h : KeepsKeys f}
    (hid : ∀ r, (f r).rootMessageId = r.rootMessageId) (hcursor : ∀ r, (f r).cursor = r.cursor) :
    Within R (updateRows p f h) := by
  apply Within.updateRows
  intro w
  apply OfSameThreads.of_same
  have hfind : ∀ id, (((w.db.table Thread).update p f h).find? fun r => r.rootMessageId = id).map
      (·.cursor) = ((w.db.table Thread).find? fun r => r.rootMessageId = id).map (·.cursor) := by
    intro id
    simp only [Table.find?, Table.update]
    induction (w.db.table Thread).rows with
    | nil => rfl
    | cons r rest ih =>
        have hsame : (if p r = true then f r else r).rootMessageId = r.rootMessageId := by
          by_cases hp : p r = true <;> simp [hp, hid]
        have hkept : (if p r = true then f r else r).cursor = r.cursor := by
          by_cases hp : p r = true <;> simp [hp, hcursor]
        simp only [List.map_cons, List.find?_cons, hsame]
        by_cases hr : r.rootMessageId = id
        · simp [hr, hkept]
        · simp only [hr, decide_false]
          exact ih
  simp only [SameThreads, threadBook, World.store_db, Database.table_set_same, hfind]
  rfl

theorem sameThreads_updateMessages {p : Message → Bool} {f : Message → Message} {h : KeepsKeys f}
    (hf : ∀ r, (f r).place = r.place) : Within R (updateRows p f h) := by
  apply Within.updateRows
  intro w
  apply OfSameThreads.of_same
  simp only [SameThreads, threadBook, World.store_db, Database.table_set_same,
    Table.map_view_eq hf]
  rfl

variable [IsPreorder World R] [ConcernsTables R [.threads, .publicEvents, .messages]]

instance (site : MentionSite) (targetAgentId : String) :
    Within R (openAttention kernel site targetAgentId) := by
  unfold openAttention
  infer_instance

instance (site : MentionSite) (suppressed : String → Bool) (targetAgentId : String) :
    Within R (mentionAgent kernel site suppressed targetAgentId) := by
  unfold mentionAgent
  infer_instance

instance (input : NewRevision) : Within R (appendMessageRevision kernel input) := by
  have hlatest : Within R (updateRows (fun r : Message => r.id = input.message.id)
      (fun r => { r with latestRevision := input.revision }) ⟨fun _ => rfl⟩) :=
    sameThreads_updateMessages fun _ => rfl
  unfold appendMessageRevision
  infer_instance

instance (correlationId : String) (eventSequence : Nat) :
    Within R (markImmutableComponents correlationId eventSequence) := by
  have hthreads : ∀ p : Thread → Bool, Within R (updateRows p
      (fun r => { r with
        createdEventSequence := stamp eventSequence r.createdEventSequence }) ⟨fun _ => rfl⟩) :=
    fun p => sameThreads_updateThreads (fun _ => rfl) fun _ => rfl
  have hmessages : ∀ p : Message → Bool, Within R (updateRows p
      (fun r => { r with
        createdEventSequence := stamp eventSequence r.createdEventSequence }) ⟨fun _ => rfl⟩) :=
    fun p => sameThreads_updateMessages fun _ => rfl
  unfold markImmutableComponents
  infer_instance

end Statements

/-! ## Commands -/

section Commands

set_option synthInstance.maxSize 400000

variable (kernel : KernelContext) {w w' : World}

theorem threadBook_insertThread {thread : Thread} {u : Unit}
    (h : insertRow thread w = (.ok u, w')) (hcursor : thread.cursor = 0) :
    (threadBook w.db).log.counter thread.rootMessageId = none ∧
      threadBook w'.db =
        { threadBook w.db with
          log := (threadBook w.db).log.openStream thread.rootMessageId } := by
  obtain ⟨t, ht, rfl⟩ := insertRow_eq_ok.mp h
  have hnew : (w.db.table Thread).find? (fun r => r.rootMessageId = thread.rootMessageId) =
      none := by
    rw [Table.find?_eq_none]
    intro r hr
    refine decide_eq_false fun hid => ?_
    exact Table.not_mem_keys_of_insert? ht hr (k := primaryKey [.text r.rootMessageId])
      (by simp [Keyed.keys]) (by simp [Keyed.keys, hid])
  have hcounter : ∀ id, (t.find? fun r => r.rootMessageId = id).map (·.cursor) =
      Function.update (threadBook w.db).log.counter thread.rootMessageId (some 0) id := by
    intro id
    have hfind : t.find? (fun r => r.rootMessageId = id) =
        if id = thread.rootMessageId then some thread
        else (w.db.table Thread).find? fun r => r.rootMessageId = id :=
      Table.find?_insert? ht hnew
    rw [hfind]
    by_cases hid : id = thread.rootMessageId
    · subst hid
      simp [hcursor]
    · simp [hid, threadBook]
  constructor
  · simp [threadBook, hnew]
  · simp only [threadBook, World.store_db, Database.table_set_same] at hcounter ⊢
    simp only [hcounter]
    rfl

theorem prepareThread_steps {input : NewMessage} {threadRootId : String} {u : Unit}
    (h : prepareThread input threadRootId w = (.ok u, w')) : ThreadSteps w w' := by
  unfold prepareThread at h
  by_cases hnew : ¬ truthy input.threadRootId
  · rw [if_pos hnew] at h
    obtain ⟨hnone, hbook⟩ := threadBook_insertThread h rfl
    rw [ThreadSteps, hbook]
    exact Relation.ReflTransGen.single (.openThread threadRootId hnone)
  · rw [if_neg hnew] at h
    exact Within.of_eq h

theorem threadBook_insertMessage {message : Message} {u : Unit}
    (h : insertRow message w = (.ok u, w')) :
    threadBook w'.db =
      { threadBook w.db with placed := (threadBook w.db).placed ++ [message.place] } := by
  obtain ⟨t, ht, rfl⟩ := insertRow_eq_ok.mp h
  simp only [threadBook, World.store_db, Database.table_set_same, Table.insert?_eq_some ht,
    List.map_append, List.map_cons, List.map_nil]
  rfl

/-- The place of the Message is the cursor of the event that announces it. -/
instance (input : NewMessage) : Commits ThreadSteps (createMessage kernel input) :=
  Commits.of_ok fun w created w' h => by
    simp only [createMessage, threadCursor, requireThread, bind_eq_ok, requireNonEmpty_eq_ok,
      newId_eq_ok, now_eq_ok, requireRow_eq_ok, pure_eq_ok] at h
    obtain ⟨_, _, ⟨-, rfl⟩, _, w₁, hchannel, messageId, _, ⟨-, rfl⟩, revisionId, _, ⟨-, rfl⟩,
      now, _, ⟨-, rfl⟩, _, w₂, hthread, previous, _, ⟨thread, _, ⟨hfound, rfl⟩, rfl, rfl⟩, h⟩ := h
    obtain ⟨_, w₃, hmessage, _, w₄, hrevision, _, w₅, hmentions, cursor, w₆, hemit, _, w₇, henqueue,
      -, rfl⟩ := h
    have hplaced := threadBook_insertMessage hmessage
    have hbetween : SameThreads w₃ w₅ :=
      trans_of SameThreads (Within.of_eq hrevision) (Within.of_eq hmentions)
    have hafter : SameThreads w₆ w₇ := Within.of_eq henqueue
    obtain ⟨n, position, hcounter, hlater, -, hbook⟩ := threadBook_emitThreadEvent hemit
    have hprepared := prepareThread_steps hthread
    have hopened : ThreadSteps w w₂ :=
      trans_of ThreadSteps (Within.of_eq hchannel : ThreadSteps _ w₁) hprepared
    rw [hbetween, hplaced] at hcounter hlater hbook
    have hn : n = thread.cursor := by
      simpa [threadBook, hfound] using hcounter.symm
    subst hn
    have hpublished : ThreadSteps w₂ w₆ := by
      rw [ThreadSteps, hbook]
      exact Relation.ReflTransGen.single (.publish messageId hcounter hlater)
    exact trans_of ThreadSteps hopened
      (trans_of ThreadSteps hpublished (OfSameThreads.of_same _ _ hafter))

/-- What a command does to the Threads is a sequence of steps of their book. -/
instance (command : KernelCommand) (context : PrincipalContext) (principal : Principal)
    (correlationId : String) :
    Commits ThreadSteps (dispatchCommand kernel command context principal correlationId) := by
  unfold dispatchCommand
  cases command with
  | StartThread => unfold startThread; infer_instance
  | ReplyToThread => unfold replyToThread; infer_instance
  | EditMessage => unfold editMessage publishRevision; infer_instance
  | DeleteMessage => unfold deleteMessage publishRevision; infer_instance
  | UpdateAgentConfig => unfold updateAgentConfig; infer_instance
  | AdoptRunConfig => unfold adoptRunConfig; infer_instance
  | SendToRun => unfold sendToRun; infer_instance
  | CancelRun => unfold cancelRun terminateRun; infer_instance
  | WithdrawRunInput => unfold withdrawRunInput; infer_instance
  | ClaimAttention => unfold claimAttention recordSupersededAttention; infer_instance
  | ResolveAttentionWithRun =>
      unfold resolveAttentionWithRun recordAttentionDecision
      infer_instance
  | IgnoreAttention => unfold ignoreAttention recordAttentionDecision; infer_instance
  | ResolveAttentionWithExistingRun =>
      unfold resolveAttentionWithExistingRun recordAttentionDecision
      infer_instance
  | StartActivation =>
      unfold startActivation startRunActivation startAttentionActivation activateRun
        createActivation
      infer_instance
  | FinishActivation => unfold finishActivation; infer_instance
  | StartProviderAttempt => unfold startProviderAttempt; infer_instance
  | FinishProviderAttempt =>
      unfold finishProviderAttempt setProviderAttemptStatus
      infer_instance
  | FailProviderAttempt => unfold failProviderAttempt setProviderAttemptStatus; infer_instance
  | ParkRunAfterProviderAttemptFailure =>
      unfold parkRunAfterProviderAttemptFailure
      infer_instance
  | AppendRunActivity => unfold appendRunActivity; infer_instance
  | PublishRunReply => unfold publishRunReply; infer_instance
  | PublishArtifact => unfold publishArtifact; infer_instance
  | CompleteRun => unfold completeRun publishFinalReply; infer_instance
  | WaitRun => unfold waitRun; infer_instance
  | FailRun => unfold failRun terminateRun; infer_instance
  | RecordLateOutput => unfold recordLateOutput; infer_instance
  | _ => infer_instance

instance (correlationId : String) :
    Within ThreadSteps (recordProjectionVersions correlationId) := by
  unfold recordProjectionVersions recordVersionsAt
  infer_instance

instance (command : KernelCommand) (result : CommandResult) (principal : Principal)
    (context : PrincipalContext) :
    Within ThreadSteps (resolveCachedResult kernel command result principal context) := by
  unfold resolveCachedResult
  split <;> infer_instance

theorem step_threads (call : KernelCall) (w : World) : ThreadSteps w (step kernel call w) :=
  step_within kernel call w fun _ _ _ _ => inferInstance

end Commands

/-! ## The event log of a reachable state -/

section Log

variable {kernel : KernelContext} {w : World}

theorem Opened.threadBook_sound (h : Opened kernel w) : (threadBook w.db).Sound := by
  have hframe : Frame [.threads, .publicEvents, .messages] World.blank w := h.frame
  rw [threadBook_of_tables hframe.tables]
  exact ⟨.of_empty (fun _ => rfl) rfl, rfl⟩

theorem Reachable.threadBook_sound (h : Reachable kernel w) : (threadBook w.db).Sound :=
  h.invariant (fun _ hopen => hopen.threadBook_sound) fun w call hsound =>
    (step_threads kernel call w).sound hsound

/-- The events of a Thread that carry a cursor. -/
def PublicEvent.hasCursorIn (threadRootId : String) (event : PublicEvent) : Bool :=
  event.threadRootId = some threadRootId && event.threadCursor.isSome

theorem filter_entries (rows : List PublicEvent) (threadRootId : String) :
    (rows.filterMap PublicEvent.entry?).filter (fun e => e.stream = threadRootId) =
      (rows.filter (PublicEvent.hasCursorIn threadRootId)).map fun event =>
        ⟨threadRootId, event.threadCursor.getD 0, event.sequence⟩ := by
  induction rows with
  | nil => rfl
  | cons event rest ih =>
      rw [List.filterMap_cons, List.filter_cons]
      cases hthread : event.threadRootId with
      | none => simpa [PublicEvent.entry?, PublicEvent.hasCursorIn, hthread] using ih
      | some id =>
          cases hcursor : event.threadCursor with
          | none => simpa [PublicEvent.entry?, PublicEvent.hasCursorIn, hthread, hcursor] using ih
          | some cursor =>
              by_cases hid : id = threadRootId
              · simp [PublicEvent.entry?, PublicEvent.hasCursorIn, hthread, hcursor, hid, ih]
              · simp [PublicEvent.entry?, PublicEvent.hasCursorIn, hthread, hcursor, hid, ih]

theorem filter_announced (rows : List PublicEvent) (messageId : String) :
    (rows.filterMap PublicEvent.announced?).filter (fun p => p.messageId = messageId) =
      (rows.filter fun event => event.type = .MessagePublished && event.entityId = messageId).map
        fun event => ⟨messageId, event.threadRootId, event.threadCursor⟩ := by
  induction rows with
  | nil => rfl
  | cons event rest ih =>
      rw [List.filterMap_cons, List.filter_cons]
      by_cases htype : event.type = .MessagePublished
      · by_cases hid : event.entityId = messageId
        · simp [PublicEvent.announced?, htype, hid, ih]
        · simp [PublicEvent.announced?, htype, hid, ih]
      · simpa [PublicEvent.announced?, htype] using ih

/-- The cursors of every Thread count its events, and a Message stands where the one event
that publishes it says. -/
structure EventLogOrdered (w : World) : Prop where
  cursors : ∀ thread ∈ w.db.table Thread,
    (orderBy PublicEvent.sequence
      ((w.db.table PublicEvent).filter (PublicEvent.hasCursorIn thread.rootMessageId))).map
        (·.threadCursor) = (List.range' 1 thread.cursor).map some
  messages : ∀ message ∈ w.db.table Message, ∃ event,
    ((w.db.table PublicEvent).filter fun e =>
      e.type = .MessagePublished && e.entityId = message.id) = [event] ∧
    event.threadRootId = some message.threadRootId ∧
    event.threadCursor = some message.threadSequence

theorem event_log_ordered (h : Reachable kernel w) : EventLogOrdered w where
  cursors thread hthread := by
    have hsound := h.threadBook_sound.log
    have hcounter : (threadBook w.db).log.counter thread.rootMessageId = some thread.cursor := by
      have hfound : (w.db.table Thread).find? (fun r => r.rootMessageId = thread.rootMessageId) =
          some thread :=
        Table.find?_of_mem hthread (by simp) fun x hx =>
          ⟨primaryKey [.text x.rootMessageId], by simp [Keyed.keys], by simp_all [Keyed.keys]⟩
      simp [threadBook, hfound]
    have hentries := filter_entries (w.db.table PublicEvent).rows thread.rootMessageId
    have hnumbers := hsound.numbers thread.rootMessageId
    have hordered := hsound.positions.filter fun e => e.stream = thread.rootMessageId
    rw [hcounter, NumberedLog.numbers] at hnumbers
    simp only [threadBook, hentries, List.map_map, List.pairwise_map, Option.getD_some]
      at hnumbers hordered
    have hsorted : orderBy PublicEvent.sequence ((w.db.table PublicEvent).filter
        (PublicEvent.hasCursorIn thread.rootMessageId)) =
        (w.db.table PublicEvent).filter (PublicEvent.hasCursorIn thread.rootMessageId) := by
      apply orderBy_of_pairwise
      exact hordered.imp fun h => Nat.le_of_lt h
    rw [hsorted, ← hnumbers, List.map_map]
    apply List.map_congr_left
    intro event hevent
    obtain ⟨-, hcursor⟩ := Table.mem_filter.mp hevent
    simp only [PublicEvent.hasCursorIn, Bool.and_eq_true, Option.isSome_iff_exists] at hcursor
    obtain ⟨-, cursor, hcursor⟩ := hcursor
    simp [hcursor]
  messages message hmessage := by
    have hplaced := h.threadBook_sound.announced
    have hannounced := filter_announced (w.db.table PublicEvent).rows message.id
    have hown : ((threadBook w.db).placed.filter fun p => p.messageId = message.id) =
        [message.place] := by
      have hone : (w.db.table Message).filter (fun r => r.id = message.id) = [message] :=
        Table.filter_of_mem hmessage (by simp) fun x hx =>
          ⟨primaryKey [.text x.id], by simp [Keyed.keys], by simp_all [Keyed.keys]⟩
      calc ((threadBook w.db).placed.filter fun p => p.messageId = message.id)
          = ((w.db.table Message).filter fun r => r.id = message.id).map Message.place :=
            List.filter_map
        _ = [message.place] := by rw [hone, List.map_singleton]
    rw [← hplaced] at hown
    have hsame := hannounced.symm.trans hown
    obtain ⟨event, hevents, hevent⟩ := List.map_eq_singleton_iff.mp hsame
    refine ⟨event, hevents, ?_⟩
    simpa [Message.place] using hevent

theorem runWorld_event_log_ordered : EventLogOrdered runWorld :=
  event_log_ordered runWorld_reachable

end Log

end Torsor.Kernel
