import Torsor.Kernel.Invariants

/-! # Threads, messages and mentions -/

namespace Torsor.Kernel

open Torsor.Library Tx

/-! ## Mentions -/

/-- The message revision a mention stands in, with who wrote it and where. -/
structure MentionSite where
  projectId : String
  channelId : String
  threadRootId : String
  messageRevisionId : String
  actorPrincipalId : String
  activationId : Option String
  correlationId : String
  at' : Timestamp

/-- Open an Attention for an Agent that is mentioned. -/
def openAttention (kernel : KernelContext) (site : MentionSite) (targetAgentId : String) :
    K Unit := do
  let attentionId ← kernel.newId "attention"
  let table ← selectTable Attention
  insertRow
    ({ sequence := nextSequence Attention.sequence table.rows
       id := attentionId
       projectId := site.projectId
       channelId := site.channelId
       threadRootId := site.threadRootId
       messageRevisionId := site.messageRevisionId
       targetAgentId
       triggerKind := "Mention"
       status := .Open
       revision := 1
       handlerLeaseHolderPrincipalId := none
       handlerLeaseToken := none
       handlerLeaseExpiresAt := none
       resolutionOutcome := none
       resolvedByPrincipalId := none
       resolvedActivationId := none
       resolvedRunId := none
       createdEventSequence := none
       createdAt := site.at'
       resolvedAt := none } : Attention)
  let createdEventSequence ← emitEvent kernel
    { type := .AttentionOpened
      projectId := site.projectId
      channelId := some site.channelId
      threadRootId := some site.threadRootId
      entityType := .Attention
      entityId := attentionId
      actorPrincipalId := site.actorPrincipalId
      activationId := site.activationId
      causationId := some site.messageRevisionId
      correlationId := site.correlationId
      payload := .obj [("targetAgentId", .str targetAgentId), ("triggerKind", .str "Mention")] }
  updateRows (fun r : Attention => r.id = attentionId) fun r =>
    { r with createdEventSequence := some createdEventSequence }
  recordAttentionHistory attentionId createdEventSequence

/-- Record a mention; the Attention is suppressed for some Agents. -/
def mentionAgent (kernel : KernelContext) (site : MentionSite) (suppressed : String → Bool)
    (targetAgentId : String) : K Unit := do
  let agent ← requireAgent targetAgentId
  throwIf (agent.projectId ≠ site.projectId)
    (kernelError .Forbidden "Mentioned Agents must belong to the Message Project.")
  let mentionId ← kernel.newId "mention"
  insertRow
    ({ id := mentionId
       messageRevisionId := site.messageRevisionId
       targetAgentId
       createdEventSequence := none
       createdAt := site.at' } : Mention)
  (if suppressed targetAgentId then pure ()
  else openAttention kernel site targetAgentId : K Unit)

/-! ## Messages -/

structure NewMessage where
  projectId : String
  channelId : String
  threadRootId : Option String := none
  replyToMessageId : Option String := none
  author : Principal
  activationId : Option String
  authorAgentId : Option String := none
  causedByAttentionId : Option String := none
  causedByRunId : Option String := none
  body : String
  targetAgentIds : Option (List String)
  suppressedAttentionAgentIds : List String := []
  correlationId : String

structure CreatedMessage where
  messageId : String
  messageRevisionId : String
  threadCursor : Nat

/-- The Thread a Message belongs to: a new one, or one of the same project and channel. -/
def prepareThread (input : NewMessage) (threadRootId : String) : K Unit :=
  if ¬ truthy input.threadRootId then
    insertRow
      ({ rootMessageId := threadRootId
         projectId := input.projectId
         channelId := input.channelId
         createdEventSequence := none
         cursor := 0 } : Thread)
  else do
    let thread ← requireThread threadRootId
    throwIf (thread.projectId ≠ input.projectId ∨ thread.channelId ≠ input.channelId)
      (kernelError .Forbidden "A Message cannot cross its Thread Channel.")

def createMessage (kernel : KernelContext) (input : NewMessage) : K CreatedMessage := do
  requireNonEmpty input.body "body"
  assertProjectChannel input.projectId input.channelId
  let messageId ← kernel.newId "message"
  let threadRootId := input.threadRootId.getD messageId
  let revisionId ← kernel.newId "message_revision"
  let now ← kernel.now
  prepareThread input threadRootId
  let previousCursor ← threadCursor threadRootId
  insertRow
    ({ id := messageId
       projectId := input.projectId
       channelId := input.channelId
       threadRootId
       replyToMessageId := input.replyToMessageId
       authorPrincipalId := input.author.id
       authorAgentId := input.authorAgentId
       causedByAttentionId := input.causedByAttentionId
       causedByRunId := input.causedByRunId
       threadSequence := previousCursor + 1
       latestRevision := 1
       createdEventSequence := none
       createdAt := now } : Message)
  insertRow
    ({ id := revisionId
       messageId
       revision := 1
       body := trim input.body
       tombstone := false
       createdEventSequence := none
       createdAt := now } : MessageRevision)
  let targetAgentIds := unique (input.targetAgentIds.getD [])
  forEach targetAgentIds (mentionAgent kernel
    { projectId := input.projectId
      channelId := input.channelId
      threadRootId
      messageRevisionId := revisionId
      actorPrincipalId := input.author.id
      activationId := input.activationId
      correlationId := input.correlationId
      at' := now }
    fun targetAgentId => some targetAgentId = input.authorAgentId ||
      input.suppressedAttentionAgentIds.contains targetAgentId)
  let threadCursor ← emitThreadEvent kernel threadRootId
    { type := .MessagePublished
      projectId := input.projectId
      channelId := some input.channelId
      threadRootId := some threadRootId
      entityType := .Message
      entityId := messageId
      actorPrincipalId := input.author.id
      activationId := input.activationId
      causationId := input.causedByRunId.or input.causedByAttentionId
      correlationId := input.correlationId
      payload := .obj [("messageRevisionId", .str revisionId),
        ("targetAgentIds", .texts targetAgentIds),
        ("authorAgentId", .ofText input.authorAgentId)] }
  enqueueOutbox kernel .messagePublished .Message messageId
    (.obj [("messageRevisionId", .str revisionId), ("threadRootId", .str threadRootId)])
  pure { messageId, messageRevisionId := revisionId, threadCursor }

def startThread (kernel : KernelContext) (command : StartThreadCommand)
    (principal : Principal) (correlationId : String) : K CommandResult := do
  requireKind principal .human
  assertProjectChannel command.projectId command.channelId
  let created ← createMessage kernel
    { projectId := command.projectId
      channelId := command.channelId
      author := principal
      activationId := none
      body := command.body
      targetAgentIds := command.targetAgentIds
      correlationId }
  pure
    { commandType := .StartThread
      entityId := created.messageId
      revision := some 1
      threadCursor := some created.threadCursor
      relatedIds := [("messageRevisionId", created.messageRevisionId)] }

def replyToThread (kernel : KernelContext) (command : ReplyToThreadCommand)
    (principal : Principal) (context : PrincipalContext) (correlationId : String) :
    K CommandResult := do
  requireKind principal .human
  let thread ← requireThread command.threadRootId
  checkThreadCursor kernel thread principal context command.expectedThreadCursor
  let created ← createMessage kernel
    { projectId := thread.projectId
      channelId := thread.channelId
      threadRootId := some command.threadRootId
      replyToMessageId := some command.threadRootId
      author := principal
      activationId := none
      body := command.body
      targetAgentIds := command.targetAgentIds
      correlationId }
  pure
    { commandType := .ReplyToThread
      entityId := created.messageId
      revision := some 1
      threadCursor := some created.threadCursor
      relatedIds := [("messageRevisionId", created.messageRevisionId)] }

/-! ## Revisions of a message -/

/-- What a new revision of a Message holds. -/
structure NewRevision where
  message : Message
  revision : Nat
  body : String
  tombstone : Bool
  targetAgentIds : List String
  actor : Principal
  activationId : Option String
  correlationId : String

def appendMessageRevision (kernel : KernelContext) (input : NewRevision) : K String := do
  let revisionId ← kernel.newId "message_revision"
  let now ← kernel.now
  insertRow
    ({ id := revisionId
       messageId := input.message.id
       revision := input.revision
       body := input.body
       tombstone := input.tombstone
       createdEventSequence := none
       createdAt := now } : MessageRevision)
  updateRows (fun r : Message => r.id = input.message.id) fun r =>
    { r with latestRevision := input.revision }
  forEach input.targetAgentIds (mentionAgent kernel
    { projectId := input.message.projectId
      channelId := input.message.channelId
      threadRootId := input.message.threadRootId
      messageRevisionId := revisionId
      actorPrincipalId := input.actor.id
      activationId := input.activationId
      correlationId := input.correlationId
      at' := now }
    fun _ => false)
  pure revisionId

def latestMessageRevision (message : Message) : K MessageRevision :=
  requireRow
    (fun r : MessageRevision => r.messageId = message.id && r.revision = message.latestRevision)
    (.fault (.missingLatestRevision message.id))

def requireOriginalAuthor (message : Message) (principal : Principal) : K Unit :=
  throwIf (message.authorPrincipalId ≠ principal.id)
    (kernelError .Forbidden "Only the original Message author can edit or delete it.")

def requireValidRevision (revision : Int) (field : String) : K Unit :=
  throwIf (revision < 1) (kernelError .InvalidCommand s!"{field} is invalid.")

/-- The distinct targets in the order `sort` puts them. -/
def validateTargetAgentIds (targetAgentIds : Option (List String)) : K (List String) := do
  throwIf ("" ∈ targetAgentIds.getD [])
    (kernelError .InvalidCommand "Mention targets are invalid.")
  pure (orderBy utf16Units (unique (targetAgentIds.getD [])))

/-- The event and the Outbox entry of a revision, and the result of its command. -/
def publishRevision (kernel : KernelContext) (input : NewRevision) (type : EventType)
    (commandType : CommandType) (fields : List (String × Json)) (revisionId : String) :
    K CommandResult := do
  let cursor ← emitThreadEvent kernel input.message.threadRootId
    { type
      projectId := input.message.projectId
      channelId := some input.message.channelId
      threadRootId := some input.message.threadRootId
      entityType := .Message
      entityId := input.message.id
      actorPrincipalId := input.actor.id
      activationId := none
      causationId := some revisionId
      correlationId := input.correlationId
      payload := .obj ([("messageRevisionId", .str revisionId),
        ("revision", .nat input.revision)] ++ fields) }
  enqueueOutbox kernel .messageRevised .Message input.message.id
    (.obj [("messageRevisionId", .str revisionId),
      ("threadRootId", .str input.message.threadRootId), ("tombstone", .bool input.tombstone)])
  pure
    { commandType
      entityId := input.message.id
      revision := some input.revision
      threadCursor := some cursor
      relatedIds := [("messageRevisionId", revisionId)] }

def editMessage (kernel : KernelContext) (command : EditMessageCommand)
    (principal : Principal) (correlationId : String) : K CommandResult := do
  requireKind principal .human
  requireValidRevision command.expectedMessageRevision "expected Message revision"
  let message ← requireMessage command.messageId
  requireOriginalAuthor message principal
  let latest ← latestMessageRevision message
  checkRevision message.latestRevision command.expectedMessageRevision "Message"
  throwIf latest.tombstone
    (kernelError .Conflict "A tombstoned Message cannot be edited.")
  requireNonEmpty command.body "body"
  let targetAgentIds ← validateTargetAgentIds command.targetAgentIds
  let revision : NewRevision :=
    { message
      revision := message.latestRevision + 1
      body := trim command.body
      tombstone := false
      targetAgentIds
      actor := principal
      activationId := none
      correlationId }
  let revisionId ← appendMessageRevision kernel revision
  publishRevision kernel revision .MessageEdited .EditMessage
    [("targetAgentIds", .texts targetAgentIds)] revisionId

def deleteMessage (kernel : KernelContext) (command : DeleteMessageCommand)
    (principal : Principal) (correlationId : String) : K CommandResult := do
  requireKind principal .human
  requireValidRevision command.expectedMessageRevision "expected Message revision"
  let message ← requireMessage command.messageId
  requireOriginalAuthor message principal
  let latest ← latestMessageRevision message
  checkRevision message.latestRevision command.expectedMessageRevision "Message"
  throwIf latest.tombstone
    (kernelError .Conflict "The Message is already tombstoned.")
  let revision : NewRevision :=
    { message
      revision := message.latestRevision + 1
      body := ""
      tombstone := true
      targetAgentIds := []
      actor := principal
      activationId := none
      correlationId }
  let revisionId ← appendMessageRevision kernel revision
  publishRevision kernel revision .MessageDeleted .DeleteMessage [("tombstone", .bool true)]
    revisionId

/-! ## Tables the commands write -/

section Within

set_option synthInstance.maxSize 100000

variable {R : World → World → Prop} {ts : List TableName} [Concerns R ts]
  [IsPreorder World R] (kernel : KernelContext)

instance [NotAmong .attentions ts] [NotAmong .publicEvents ts] [NotAmong .attentionHistory ts]
    (site : MentionSite) (targetAgentId : String) :
    Within R (openAttention kernel site targetAgentId) := by
  unfold openAttention
  infer_instance

instance [NotAmong .attentions ts] [NotAmong .publicEvents ts] [NotAmong .attentionHistory ts]
    [NotAmong .mentions ts] (site : MentionSite) (suppressed : String → Bool)
    (targetAgentId : String) :
    Within R (mentionAgent kernel site suppressed targetAgentId) := by
  unfold mentionAgent
  infer_instance

instance [NotAmong .threads ts] (input : NewMessage) (threadRootId : String) :
    Within R (prepareThread input threadRootId) := by
  unfold prepareThread
  infer_instance

instance [NotAmong .attentions ts] [NotAmong .publicEvents ts] [NotAmong .attentionHistory ts]
    [NotAmong .mentions ts] [NotAmong .threads ts] [NotAmong .messages ts]
    [NotAmong .messageRevisions ts] [Enqueues R kernel] (input : NewMessage) :
    Within R (createMessage kernel input) := by
  unfold createMessage
  infer_instance

instance [NotAmong .attentions ts] [NotAmong .publicEvents ts] [NotAmong .attentionHistory ts]
    [NotAmong .mentions ts] [NotAmong .threads ts] [NotAmong .messages ts]
    [NotAmong .messageRevisions ts] [Enqueues R kernel] (command : StartThreadCommand)
    (principal : Principal) (correlationId : String) :
    Within R (startThread kernel command principal correlationId) := by
  unfold startThread
  infer_instance

instance [NotAmong .attentions ts] [NotAmong .publicEvents ts] [NotAmong .attentionHistory ts]
    [NotAmong .mentions ts] [NotAmong .threads ts] [NotAmong .messages ts]
    [NotAmong .messageRevisions ts] [Enqueues R kernel]
    (command : ReplyToThreadCommand) (principal : Principal) (context : PrincipalContext)
    (correlationId : String) :
    Within R (replyToThread kernel command principal context correlationId) := by
  unfold replyToThread
  infer_instance

instance [NotAmong .attentions ts] [NotAmong .publicEvents ts] [NotAmong .attentionHistory ts]
    [NotAmong .mentions ts] [NotAmong .messages ts] [NotAmong .messageRevisions ts]
    (input : NewRevision) : Within R (appendMessageRevision kernel input) := by
  unfold appendMessageRevision
  infer_instance

instance (message : Message) : Within R (latestMessageRevision message) := by
  unfold latestMessageRevision
  infer_instance

instance (message : Message) (principal : Principal) :
    Within R (requireOriginalAuthor message principal) := by
  unfold requireOriginalAuthor
  infer_instance

instance (revision : Int) (field : String) :
    Within R (requireValidRevision revision field) := by
  unfold requireValidRevision
  infer_instance

instance (targetAgentIds : Option (List String)) :
    Within R (validateTargetAgentIds targetAgentIds) := by
  unfold validateTargetAgentIds
  infer_instance

instance [NotAmong .publicEvents ts] [NotAmong .threads ts] [Enqueues R kernel]
    (input : NewRevision) (type : EventType) (commandType : CommandType)
    (fields : List (String × Json)) (revisionId : String) :
    Within R (publishRevision kernel input type commandType fields revisionId) := by
  unfold publishRevision
  infer_instance

instance [NotAmong .attentions ts] [NotAmong .publicEvents ts] [NotAmong .attentionHistory ts]
    [NotAmong .mentions ts] [NotAmong .threads ts] [NotAmong .messages ts]
    [NotAmong .messageRevisions ts] [Enqueues R kernel] (command : EditMessageCommand)
    (principal : Principal) (correlationId : String) :
    Within R (editMessage kernel command principal correlationId) := by
  unfold editMessage
  infer_instance

instance [NotAmong .attentions ts] [NotAmong .publicEvents ts] [NotAmong .attentionHistory ts]
    [NotAmong .mentions ts] [NotAmong .threads ts] [NotAmong .messages ts]
    [NotAmong .messageRevisions ts] [Enqueues R kernel]
    (command : DeleteMessageCommand) (principal : Principal) (correlationId : String) :
    Within R (deleteMessage kernel command principal correlationId) := by
  unfold deleteMessage
  infer_instance

end Within

end Torsor.Kernel
