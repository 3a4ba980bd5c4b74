import Torsor.Kernel.CausalLimits
import Torsor.Kernel.Collaboration
import Torsor.Kernel.Execution

/-! # Runs and their inputs -/

namespace Torsor.Kernel

open Torsor.Library Tx

/-! ## Inputs -/

/-- The identifier and the sequence of a Run input. -/
structure RunInputPosition where
  id : String
  sequence : Nat

def createRunInput (kernel : KernelContext) (run : Run)
    (messageRevisionId assignedByPrincipalId : String)
    (assignedByActivationId sourceAttentionId : Option String) : K RunInputPosition := do
  let sequence := run.nextInputSequence
  let id ← kernel.newId "run_input"
  let createdAt ← kernel.now
  insertRow
    ({ id, messageRevisionId, assignedByPrincipalId, assignedByActivationId,
       sourceAttentionId, createdAt
       runId := run.id
       runInputSequence := sequence
       createdEventSequence := none
       disposition := .Pending
       dispositionRevision := 1
       dispositionReason := none
       supersededByRunInputId := none } : RunInput)
  pure { id, sequence }

def sendToRun (kernel : KernelContext) (command : SendToRunCommand) (principal : Principal)
    (correlationId : String) : K CommandResult := do
  requireKind principal .human
  throwIf command.expectedRunRevision.isNone
    (kernelError .InvalidCommand "SendToRun requires an expected Run revision.")
  let run ← requireMutableRun command.runId command.expectedRunRevision
  let created ← createMessage kernel
    { projectId := run.projectId
      channelId := run.homeChannelId
      threadRootId := some run.threadRootId
      replyToMessageId := some run.threadRootId
      author := principal
      activationId := none
      body := command.body
      targetAgentIds := command.targetAgentIds
      suppressedAttentionAgentIds := [run.ownerAgentId]
      correlationId }
  let input ← createRunInput kernel run created.messageRevisionId principal.id none none
  let revision := run.revision + 1
  let now ← kernel.now
  updateRows (fun r : Run => r.id = command.runId) fun r =>
    { r with revision, nextInputSequence := input.sequence + 1, updatedAt := now }
  let _ ← emitThreadEvent kernel run.threadRootId
    { type := .RunInputAdded
      projectId := run.projectId
      channelId := some run.homeChannelId
      threadRootId := some run.threadRootId
      entityType := .RunInput
      entityId := input.id
      actorPrincipalId := principal.id
      activationId := none
      causationId := some created.messageRevisionId
      correlationId
      payload := .obj [("runId", .str command.runId), ("sequence", .nat input.sequence)] }
  enqueueOutbox kernel .runInputAvailable .Run command.runId
    (.obj [("runInputId", .str input.id), ("runRevision", .nat revision)])
  let cursor ← threadCursor run.threadRootId
  pure
    { commandType := .SendToRun
      entityId := created.messageId
      revision := some revision
      threadCursor := some cursor
      relatedIds := [("messageRevisionId", created.messageRevisionId),
        ("runInputId", input.id), ("runId", command.runId)] }

/-- Who withdraws an input: a Human, or an Agent under its live Activation of the Run. -/
def withdrawalActivation (kernel : KernelContext) (principal : Principal)
    (context : PrincipalContext) (run : Run) : K (Option String) :=
  if principal.kind = .agent then do
    let activation ← requireRunActivation kernel context principal run
    pure (some activation.id)
  else do
    throwIf (principal.kind ≠ .human)
      (kernelError .Forbidden
        "Only the assigning Human or Agent can withdraw this RunInput.")
    pure none

def withdrawRunInput (kernel : KernelContext) (command : WithdrawRunInputCommand)
    (principal : Principal) (context : PrincipalContext) (correlationId : String) :
    K CommandResult := do
  let input ← requireRunInput command.runInputId
  let run ← requireMutableRun input.runId (some command.expectedRunRevision)
  checkRevision input.dispositionRevision command.expectedDispositionRevision
    "RunInput disposition"
  throwIf (input.disposition ≠ .Pending)
    (kernelError .Conflict "Only a Pending RunInput can be withdrawn.")
  throwIf (input.assignedByPrincipalId ≠ principal.id)
    (kernelError .Forbidden "Only the assigning principal can withdraw this RunInput.")
  let activationId ← withdrawalActivation kernel principal context run
  requireNonEmpty command.reason "reason"
  let runRevision := run.revision + 1
  let dispositionRevision := input.dispositionRevision + 1
  updateRows (fun r : RunInput => r.id = command.runInputId) fun r =>
    { r with
      disposition := .Withdrawn
      dispositionRevision
      dispositionReason := some command.reason
      supersededByRunInputId := none }
  let now ← kernel.now
  updateRows (fun r : Run => r.id = run.id) fun r =>
    { r with revision := runRevision, updatedAt := now }
  let cursor ← emitThreadEvent kernel run.threadRootId
    { type := .RunInputWithdrawn
      projectId := run.projectId
      channelId := some run.homeChannelId
      threadRootId := some run.threadRootId
      entityType := .RunInput
      entityId := command.runInputId
      actorPrincipalId := principal.id
      activationId
      causationId := some command.runInputId
      correlationId
      payload := .obj [("runId", .str run.id), ("runRevision", .nat runRevision),
        ("dispositionRevision", .nat dispositionRevision), ("reason", .str command.reason)] }
  enqueueOutbox kernel .runInputWithdrawn .RunInput command.runInputId
    (.obj [("runId", .str run.id), ("runRevision", .nat runRevision),
      ("dispositionRevision", .nat dispositionRevision)])
  pure
    { commandType := .WithdrawRunInput
      entityId := command.runInputId
      revision := some dispositionRevision
      threadCursor := some cursor
      relatedIds := [("runId", run.id), ("runRevision", toString runRevision)] }

/-! ## Replies -/

/-- A Message an Agent publishes in the Thread of its Run. -/
def runMessage (run : Run) (runId : String) (principal : Principal) (activationId body : String)
    (targetAgentIds : Option (List String)) (correlationId : String) : NewMessage :=
  { projectId := run.projectId
    channelId := run.homeChannelId
    threadRootId := some run.threadRootId
    replyToMessageId := some run.threadRootId
    author := principal
    activationId := some activationId
    authorAgentId := some run.ownerAgentId
    causedByRunId := some runId
    body
    targetAgentIds
    correlationId }

def publishRunReply (kernel : KernelContext) (command : PublishRunReplyCommand)
    (principal : Principal) (context : PrincipalContext) (correlationId : String) :
    K CommandResult := do
  let run ← requireMutableRun command.runId (some command.expectedRunRevision)
  let activation ← requireRunActivation kernel context principal run
  let thread ← requireThread run.threadRootId
  checkThreadCursor kernel thread principal context command.expectedThreadCursor
  let created ← createMessage kernel
    (runMessage run command.runId principal activation.id command.body command.targetAgentIds
      correlationId)
  pure
    { commandType := .PublishRunReply
      entityId := created.messageId
      revision := some run.revision
      threadCursor := some created.threadCursor
      relatedIds := [("messageRevisionId", created.messageRevisionId),
        ("activationId", activation.id)] }

/-! ## Completion -/

/-- Which input supersedes which, an insertion-ordered `Map`. -/
abbrev Supersession : Type := List (String × String)

namespace Supersession

def get (supersession : Supersession) (id : String) : Option String :=
  (supersession.find? fun entry => entry.1 = id).map (·.2)

def delete (supersession : Supersession) (id : String) : Supersession :=
  supersession.filter fun entry => entry.1 ≠ id

def set (supersession : Supersession) (id target : String) : Supersession :=
  (id, target) :: supersession.delete id

/-- Following the map from `current` meets an input twice; every step but the last adds
a key to `visited`, so `fuel` need not exceed the number of keys by more than one. -/
def repeats (supersession : Supersession) (fuel : Nat) (visited : List String)
    (current : String) : Bool :=
  match fuel with
  | 0 => false
  | fuel + 1 =>
      match supersession.get current with
      | none => false
      | some next =>
          current ≠ "" && (visited.contains current ||
            supersession.repeats fuel (current :: visited) next)

def hasCycle (supersession : Supersession) : Bool :=
  supersession.any fun entry => supersession.repeats (supersession.length + 1) [] entry.1

end Supersession

/-- The supersessions the inputs of a Run already record. -/
def recordedSupersession (inputs : List RunInput) : Supersession :=
  inputs.filterMap fun input =>
    if input.disposition = .Superseded ∧ truthy input.supersededByRunInputId then
      some (input.id, input.supersededByRunInputId.getD "")
    else none

/-- Check one completion exception; the supersessions with what it says. -/
def checkCompletionException (inputs : List RunInput) (throughSequence : Int)
    (supersession : Supersession) (exception : CompletionException) : K Supersession := do
  let inputId := exception.runInputId
  let input ← require (inputs.find? fun r => r.id = inputId)
    (kernelError .InvalidCommand s!"RunInput {inputId} does not belong to the Run.")
  throwIf (throughSequence < (input.runInputSequence : Int))
    (kernelError .InvalidCommand
      "A completion exception cannot exceed the incorporated sequence.")
  validateDisposition exception.disposition exception.reason
  (if exception.disposition ≠ .Superseded then do
    throwIf (truthy exception.supersededByRunInputId)
      (kernelError .InvalidCommand
        "Only a Superseded disposition can reference another RunInput.")
    pure (supersession.delete inputId)
  else do
    let targetId := exception.supersededByRunInputId.getD ""
    throwIf (targetId = "" ∨ targetId = inputId ∨ ¬ inputs.any fun r => r.id = targetId)
      (kernelError .InvalidCommand
        "Superseded input must reference a different RunInput in the same Run.")
    pure (supersession.set inputId targetId) : K Supersession)

/-- Give a Pending input the disposition its exception names, or incorporate it. -/
def disposeRunInput (exception : Option CompletionException) (inputId : String) : K Unit :=
  exception.elim
    (updateRows (fun r : RunInput => r.id = inputId) fun r =>
      { r with
        disposition := .Incorporated
        dispositionRevision := r.dispositionRevision + 1
        dispositionReason := none })
    fun exception =>
      updateRows (fun r : RunInput => r.id = inputId) fun r =>
        { r with
          disposition := exception.disposition
          dispositionRevision := r.dispositionRevision + 1
          dispositionReason := some exception.reason
          supersededByRunInputId :=
            if exception.disposition = .Superseded then exception.supersededByRunInputId
            else none }

/-- Dispose of an input the Run is completed through, if it is still Pending. -/
def completeRunInput (exceptions : List CompletionException) (supplied : List String)
    (throughSequence : Int) (input : RunInput) : K Unit :=
  if input.disposition ≠ .Pending ∨ throughSequence < (input.runInputSequence : Int) then pure ()
  else do
    throwIf (input.id ∉ supplied)
      (kernelError .Forbidden
        "The Activation cannot dispose a RunInput it was not supplied."
        (some (.obj [("runInputId", .str input.id),
          ("sequence", .nat input.runInputSequence)])))
    disposeRunInput (exceptions.find? fun exception => exception.runInputId = input.id)
      input.id

/-- Dispose of the inputs of a Run that completes; none may stay Pending. -/
def disposeRunInputs (command : CompleteRunCommand) (activationId : String) : K Unit := do
  throwIf (command.incorporatedThroughInputSequence < 0)
    (kernelError .InvalidCommand "The incorporated input sequence is invalid.")
  let exceptions := command.exceptions.getD []
  throwIf ((unique (exceptions.map (·.runInputId))).length ≠ exceptions.length)
    (kernelError .InvalidCommand "Completion exceptions must be unique.")
  let found ← selectRows fun r : RunInput => r.runId = command.runId
  let inputs := orderBy RunInput.runInputSequence found
  let supplied ← selectRows fun r : ActivationRunInput => r.activationId = activationId
  let supersession ← foldEach (recordedSupersession inputs) exceptions
    (checkCompletionException inputs command.incorporatedThroughInputSequence)
  throwIf supersession.hasCycle
    (kernelError .InvalidCommand "RunInput supersession cannot contain a cycle.")
  forEach inputs (completeRunInput exceptions (supplied.map (·.runInputId))
    command.incorporatedThroughInputSequence)
  let pending ← selectRows fun r : RunInput =>
    r.runId = command.runId && r.disposition = .Pending
  throwIf (0 < pending.length)
    (kernelError .PendingRunInputs "A Run cannot complete while it has Pending RunInput."
      (some (.obj [("pendingCount", .nat pending.length)])))

/-- The final reply of a Run that completes, if the command has one. -/
def publishFinalReply (kernel : KernelContext) (command : CompleteRunCommand) (run : Run)
    (activationId : String) (principal : Principal) (context : PrincipalContext)
    (correlationId : String) : K (Option String) :=
  command.finalReply.elim (pure none) fun finalReply => do
    let thread ← requireThread run.threadRootId
    checkThreadCursor kernel thread principal context finalReply.expectedThreadCursor
    let created ← createMessage kernel
      (runMessage run command.runId principal activationId finalReply.body
        finalReply.targetAgentIds correlationId)
    pure (some created.messageId)

def completeRun (kernel : KernelContext) (command : CompleteRunCommand)
    (principal : Principal) (context : PrincipalContext) (correlationId : String) :
    K CommandResult := do
  let run ← requireMutableRun command.runId (some command.expectedRunRevision)
  let activation ← requireRunActivation kernel context principal run
  disposeRunInputs command activation.id
  let finalMessageId ←
    publishFinalReply kernel command run activation.id principal context correlationId
  let revision := run.revision + 1
  let now ← kernel.now
  updateRows (fun r : Run => r.id = command.runId) fun r =>
    { r with state := .Completed, revision, updatedAt := now, terminalReason := none }
  let revokedAt ← kernel.now
  revokeRunActivations command.runId "run_completed" revokedAt
  let capacity ← causalCapacity run.causalRootId
  let cursor ← emitThreadEvent kernel run.threadRootId
    { type := .RunCompleted
      projectId := run.projectId
      channelId := some run.homeChannelId
      threadRootId := some run.threadRootId
      entityType := .Run
      entityId := command.runId
      actorPrincipalId := principal.id
      activationId := some activation.id
      causationId := some activation.id
      correlationId
      payload := .obj ([("revision", .nat revision),
        ("finalMessageId", .ofText finalMessageId)] ++ capacity.fields) }
  enqueueOutbox kernel .runCompleted .Run command.runId
    (.obj [("revision", .nat revision), ("finalMessageId", .ofText finalMessageId)])
  pure
    { commandType := .CompleteRun
      entityId := command.runId
      revision := some revision
      threadCursor := some cursor
      relatedIds := (finalMessageId.map fun id => ("finalMessageId", id)).toList }

/-! ## Waiting, failure and cancellation -/

def waitRun (kernel : KernelContext) (command : WaitRunCommand) (principal : Principal)
    (context : PrincipalContext) (correlationId : String) : K CommandResult := do
  let run ← requireMutableRun command.runId (some command.expectedRunRevision)
  let activation ← requireRunActivation kernel context principal run
  throwIf (run.state ≠ .Active)
    (kernelError .Conflict "Only an Active Run can enter Waiting.")
  requireNonEmpty command.reason "reason"
  let revision := run.revision + 1
  let now ← kernel.now
  updateRows (fun r : Run => r.id = command.runId) fun r =>
    { r with state := .Waiting, revision, updatedAt := now }
  let revokedAt ← kernel.now
  revokeRunActivations command.runId "run_waiting" revokedAt
  let cursor ← emitThreadEvent kernel run.threadRootId
    { type := .RunWaiting
      projectId := run.projectId
      channelId := some run.homeChannelId
      threadRootId := some run.threadRootId
      entityType := .Run
      entityId := command.runId
      actorPrincipalId := principal.id
      activationId := some activation.id
      causationId := some activation.id
      correlationId
      payload := .obj [("revision", .nat revision), ("reason", .str command.reason)] }
  enqueueOutbox kernel .runWaiting .Run command.runId
    (.obj [("revision", .nat revision), ("reason", .str command.reason)])
  pure
    { commandType := .WaitRun
      entityId := command.runId
      revision := some revision
      threadCursor := some cursor }

/-- The two ways `terminateRun` ends a Run. -/
inductive Termination where
  | Failed | Cancelled
  deriving DecidableEq

namespace Termination

def state : Termination → RunState
  | .Failed => .Failed
  | .Cancelled => .Cancelled

def event : Termination → EventType
  | .Failed => .RunFailed
  | .Cancelled => .RunCancelled

def topic : Termination → OutboxTopic
  | .Failed => .runFailed
  | .Cancelled => .runCancelled

def reason : Termination → String
  | .Failed => "run_failed"
  | .Cancelled => "run_cancelled"

end Termination

def terminateRun (kernel : KernelContext) (run : Run) (termination : Termination)
    (reason : String) (principal : Principal) (activationId : Option String)
    (correlationId : String) (commandType : CommandType) : K CommandResult := do
  requireNonEmpty reason "reason"
  let revision := run.revision + 1
  updateRows (fun r : RunInput => r.runId = run.id && r.disposition = .Pending) fun r =>
    { r with
      disposition := .Abandoned
      dispositionRevision := r.dispositionRevision + 1
      dispositionReason := some termination.reason }
  let now ← kernel.now
  updateRows (fun r : Run => r.id = run.id) fun r =>
    { r with state := termination.state, revision, updatedAt := now, terminalReason := some reason }
  let revokedAt ← kernel.now
  revokeRunActivations run.id termination.reason revokedAt
  let capacity ← causalCapacity run.causalRootId
  let cursor ← emitThreadEvent kernel run.threadRootId
    { type := termination.event
      projectId := run.projectId
      channelId := some run.homeChannelId
      threadRootId := some run.threadRootId
      entityType := .Run
      entityId := run.id
      actorPrincipalId := principal.id
      activationId
      causationId := activationId.or (some run.id)
      correlationId
      payload := .obj ([("revision", .nat revision), ("reason", .str reason)] ++
        capacity.fields) }
  enqueueOutbox kernel termination.topic .Run run.id
    (.obj [("revision", .nat revision), ("reason", .str reason)])
  pure { commandType, entityId := run.id, revision := some revision, threadCursor := some cursor }

def cancelRun (kernel : KernelContext) (command : CancelRunCommand) (principal : Principal)
    (correlationId : String) : K CommandResult := do
  requireKind principal .human
  let run ← requireMutableRun command.runId (some command.expectedRunRevision)
  terminateRun kernel run .Cancelled command.reason principal none correlationId .CancelRun

def failRun (kernel : KernelContext) (command : FailRunCommand) (principal : Principal)
    (context : PrincipalContext) (correlationId : String) : K CommandResult := do
  let run ← requireMutableRun command.runId (some command.expectedRunRevision)
  let activation ← requireRunActivation kernel context principal run
  terminateRun kernel run .Failed command.reason principal (some activation.id) correlationId
    .FailRun

/-! ## Late output -/

def recordLateOutput (kernel : KernelContext) (command : RecordLateOutputCommand)
    (principal : Principal) (context : PrincipalContext) (correlationId : String) :
    K CommandResult := do
  let run ← requireRun command.runId
  let activationId ← validateActivityProvenance kernel command.runId command.activationId
    command.providerAttemptId principal context true
  let activation ← requireActivation activationId
  let current ← (if isTerminalRunState run.state then pure false
    else isCurrentRunActivation kernel activation run : K Bool)
  throwIf current
    (kernelError .Conflict "Output from the current Activation is not late output.")
  let activity ← insertActivity kernel command.runId activationId command.providerAttemptId
    "late_output" command.payload .durable
  let _ ← emitEvent kernel
    { type := .LateOutputRecorded
      projectId := run.projectId
      channelId := some run.homeChannelId
      threadRootId := some run.threadRootId
      entityType := .RunActivityEvent
      entityId := activity.id
      actorPrincipalId := principal.id
      activationId := some activationId
      causationId := command.providerAttemptId.or (some activationId)
      correlationId
      payload := .obj [("runId", .str command.runId), ("sequence", .nat activity.sequence),
        ("runState", .str run.state.text)] }
  pure
    { commandType := .RecordLateOutput
      entityId := activity.id
      revision := some activity.sequence
      relatedIds := [("runId", command.runId)] }

/-! ## Tables the commands write -/

section Within

set_option synthInstance.maxSize 100000

variable {R : World → World → Prop} {ts : List TableName} [Concerns R ts]
  [IsPreorder World R] (kernel : KernelContext)

instance [NotAmong .runInputs ts] (run : Run) (messageRevisionId principalId : String)
    (activationId sourceAttentionId : Option String) :
    Within R (createRunInput kernel run messageRevisionId principalId activationId
      sourceAttentionId) := by
  unfold createRunInput
  infer_instance

instance [NotAmong .attentions ts] [NotAmong .publicEvents ts] [NotAmong .attentionHistory ts]
    [NotAmong .mentions ts] [NotAmong .threads ts] [NotAmong .messages ts]
    [NotAmong .messageRevisions ts] [Enqueues R kernel] [NotAmong .runInputs ts]
    [NotAmong .runs ts] (command : SendToRunCommand) (principal : Principal)
    (correlationId : String) :
    Within R (sendToRun kernel command principal correlationId) := by
  unfold sendToRun
  infer_instance

instance (principal : Principal) (context : PrincipalContext) (run : Run) :
    Within R (withdrawalActivation kernel principal context run) := by
  unfold withdrawalActivation
  infer_instance

instance [NotAmong .publicEvents ts] [NotAmong .threads ts] [Enqueues R kernel]
    [NotAmong .runInputs ts] [NotAmong .runs ts] (command : WithdrawRunInputCommand)
    (principal : Principal) (context : PrincipalContext) (correlationId : String) :
    Within R (withdrawRunInput kernel command principal context correlationId) := by
  unfold withdrawRunInput
  infer_instance

instance [NotAmong .attentions ts] [NotAmong .publicEvents ts] [NotAmong .attentionHistory ts]
    [NotAmong .mentions ts] [NotAmong .threads ts] [NotAmong .messages ts]
    [NotAmong .messageRevisions ts] [Enqueues R kernel]
    (command : PublishRunReplyCommand) (principal : Principal) (context : PrincipalContext)
    (correlationId : String) :
    Within R (publishRunReply kernel command principal context correlationId) := by
  unfold publishRunReply
  infer_instance

instance (inputs : List RunInput) (throughSequence : Int) (supersession : Supersession)
    (exception : CompletionException) :
    Within R (checkCompletionException inputs throughSequence supersession exception) := by
  unfold checkCompletionException
  infer_instance

instance [NotAmong .runInputs ts] (exception : Option CompletionException)
    (inputId : String) : Within R (disposeRunInput exception inputId) := by
  unfold disposeRunInput
  infer_instance

instance [NotAmong .runInputs ts] (exceptions : List CompletionException)
    (supplied : List String) (throughSequence : Int) (input : RunInput) :
    Within R (completeRunInput exceptions supplied throughSequence input) := by
  unfold completeRunInput
  infer_instance

instance [NotAmong .runInputs ts] (command : CompleteRunCommand) (activationId : String) :
    Within R (disposeRunInputs command activationId) := by
  unfold disposeRunInputs
  infer_instance

instance [NotAmong .attentions ts] [NotAmong .publicEvents ts] [NotAmong .attentionHistory ts]
    [NotAmong .mentions ts] [NotAmong .threads ts] [NotAmong .messages ts]
    [NotAmong .messageRevisions ts] [Enqueues R kernel] (command : CompleteRunCommand)
    (run : Run) (activationId : String) (principal : Principal) (context : PrincipalContext)
    (correlationId : String) :
    Within R (publishFinalReply kernel command run activationId principal context
      correlationId) := by
  unfold publishFinalReply
  infer_instance

instance [NotAmong .attentions ts] [NotAmong .publicEvents ts] [NotAmong .attentionHistory ts]
    [NotAmong .mentions ts] [NotAmong .threads ts] [NotAmong .messages ts]
    [NotAmong .messageRevisions ts] [Enqueues R kernel] [NotAmong .runInputs ts]
    [NotAmong .runs ts] [NotAmong .activationAttempts ts] [NotAmong .kernelRuntimeState ts]
    [NotAmong .attentionRecoveryExecutions ts] [NotAmong .projectionActivationChanges ts]
    (command : CompleteRunCommand) (principal : Principal) (context : PrincipalContext)
    (correlationId : String) :
    Within R (completeRun kernel command principal context correlationId) := by
  unfold completeRun
  infer_instance

instance [NotAmong .publicEvents ts] [NotAmong .threads ts] [Enqueues R kernel]
    [NotAmong .runs ts] [NotAmong .activationAttempts ts] [NotAmong .kernelRuntimeState ts]
    [NotAmong .attentionRecoveryExecutions ts] [NotAmong .projectionActivationChanges ts]
    (command : WaitRunCommand) (principal : Principal) (context : PrincipalContext)
    (correlationId : String) :
    Within R (waitRun kernel command principal context correlationId) := by
  unfold waitRun
  infer_instance

instance [NotAmong .publicEvents ts] [NotAmong .threads ts] [Enqueues R kernel]
    [NotAmong .runInputs ts] [NotAmong .runs ts] [NotAmong .activationAttempts ts]
    [NotAmong .kernelRuntimeState ts] [NotAmong .attentionRecoveryExecutions ts]
    [NotAmong .projectionActivationChanges ts] (run : Run) (termination : Termination)
    (reason : String) (principal : Principal) (activationId : Option String)
    (correlationId : String) (commandType : CommandType) :
    Within R (terminateRun kernel run termination reason principal activationId correlationId
      commandType) := by
  unfold terminateRun
  infer_instance

instance [NotAmong .publicEvents ts] [NotAmong .threads ts] [Enqueues R kernel]
    [NotAmong .runInputs ts] [NotAmong .runs ts] [NotAmong .activationAttempts ts]
    [NotAmong .kernelRuntimeState ts] [NotAmong .attentionRecoveryExecutions ts]
    [NotAmong .projectionActivationChanges ts] (command : CancelRunCommand)
    (principal : Principal) (correlationId : String) :
    Within R (cancelRun kernel command principal correlationId) := by
  unfold cancelRun
  infer_instance

instance [NotAmong .publicEvents ts] [NotAmong .threads ts] [Enqueues R kernel]
    [NotAmong .runInputs ts] [NotAmong .runs ts] [NotAmong .activationAttempts ts]
    [NotAmong .kernelRuntimeState ts] [NotAmong .attentionRecoveryExecutions ts]
    [NotAmong .projectionActivationChanges ts] (command : FailRunCommand)
    (principal : Principal) (context : PrincipalContext) (correlationId : String) :
    Within R (failRun kernel command principal context correlationId) := by
  unfold failRun
  infer_instance

instance [NotAmong .runActivityEvents ts] [NotAmong .runs ts] [NotAmong .publicEvents ts]
    (command : RecordLateOutputCommand) (principal : Principal) (context : PrincipalContext)
    (correlationId : String) :
    Within R (recordLateOutput kernel command principal context correlationId) := by
  unfold recordLateOutput
  infer_instance

end Within

end Torsor.Kernel
