import Torsor.Kernel.Commits

/-! # Errors that are rolled back

Only commands about Worktrees raise durable errors. Of every other command an error leaves
no trace, so that what it commits is what a successful run of it did.
-/

namespace Torsor.Kernel

open Torsor.Library Tx

section Plain

set_option synthInstance.maxSize 200000

section Statements

variable {ρ : Type} [Keyed ρ UniqueKey] {t : TableName} [Stored ρ t]

instance (r : ρ) : Plain (insertRowOrIgnore r) := by
  unfold insertRowOrIgnore
  infer_instance

instance (p : ρ → Bool) (f : ρ → ρ) : Plain (updateKeys p f) := by
  unfold updateKeys
  infer_instance

end Statements

variable (kernel : KernelContext)

/-! ## Triggers -/

instance : Plain bumpAttentionRecoveryRevision := by
  unfold bumpAttentionRecoveryRevision
  infer_instance

instance (new : ActivationAttempt) : Plain (attentionRecoveryActivationInsert new) := by
  unfold attentionRecoveryActivationInsert
  infer_instance

instance (old new : ActivationAttempt) : Plain (attentionRecoveryActivationUpdate old new) := by
  unfold attentionRecoveryActivationUpdate
  infer_instance

instance (activation : ActivationAttempt) : Plain (insertActivation activation) := by
  unfold insertActivation
  infer_instance

instance (p : ActivationAttempt → Bool) (f : ActivationAttempt → ActivationAttempt)
    (h : KeepsKeys f) :
    Plain (updateActivations p f h) := by
  unfold updateActivations
  infer_instance

instance (activationId : String) (added removed : Nat) :
    Plain (attentionRecoveryProviderChange activationId added removed) := by
  unfold attentionRecoveryProviderChange
  infer_instance

instance (activationId : String) : Plain (activationAttentionId activationId) := by
  unfold activationAttentionId
  infer_instance

instance (new : ProviderAttempt) : Plain (attentionDomainProviderInsert new) := by
  unfold attentionDomainProviderInsert
  infer_instance

instance (old new : ProviderAttempt) : Plain (attentionDomainProviderUpdate old new) := by
  unfold attentionDomainProviderUpdate
  infer_instance

instance (attempt : ProviderAttempt) : Plain (insertProviderAttempt attempt) := by
  unfold insertProviderAttempt
  infer_instance

instance (old new : ProviderAttempt) : Plain (attentionRecoveryProviderUpdate old new) := by
  unfold attentionRecoveryProviderUpdate
  infer_instance

instance (id : String) (f : ProviderAttempt → ProviderAttempt) (h : KeepsKeys f) :
    Plain (updateProviderAttempt id f h) := by
  unfold updateProviderAttempt
  infer_instance

instance (old new : Attention) : Plain (attentionRecoveryAttentionUpdate old new) := by
  unfold attentionRecoveryAttentionUpdate
  infer_instance

instance (id : String) (f : Attention → Attention) (h : KeepsKeys f) :
    Plain (updateAttention id f h) := by
  unfold updateAttention
  infer_instance

/-! ## Checks and events -/

instance (id : String) : Plain (requirePrincipal id) := by
  unfold requirePrincipal
  infer_instance

instance (id : String) : Plain (requireAgent id) := by
  unfold requireAgent
  infer_instance

instance (id : String) : Plain (requireMessage id) := by
  unfold requireMessage
  infer_instance

instance (id : String) : Plain (requireProject id) := by
  unfold requireProject
  infer_instance

instance (id : String) : Plain (requireAgentForPrincipal id) := by
  unfold requireAgentForPrincipal
  infer_instance

instance (id : String) : Plain (requireThread id) := by
  unfold requireThread
  infer_instance

instance (id : String) : Plain (requireAttention id) := by
  unfold requireAttention
  infer_instance

instance (id : String) : Plain (requireRun id) := by
  unfold requireRun
  infer_instance

instance (id : String) : Plain (requireRunInput id) := by
  unfold requireRunInput
  infer_instance

instance (id : String) : Plain (requireActivation id) := by
  unfold requireActivation
  infer_instance

instance (id : String) : Plain (requireLiveActivation id) := by
  unfold requireLiveActivation
  infer_instance

instance (id : String) : Plain (requireProviderAttempt id) := by
  unfold requireProviderAttempt
  infer_instance

instance (actual : Nat) (expected : Int) (entity : String) :
    Plain (checkRevision actual expected entity) := by
  unfold checkRevision
  infer_instance

instance (runId : String) (expectedRevision : Option Int) :
    Plain (requireMutableRun runId expectedRevision) := by
  unfold requireMutableRun
  infer_instance

instance (projectId channelId : String) : Plain (assertProjectChannel projectId channelId) := by
  unfold assertProjectChannel
  infer_instance

instance (principal : Principal) (projectId : String) :
    Plain (assertProjectAccess principal projectId) := by
  unfold assertProjectAccess
  infer_instance

instance (disposition : RunInputDisposition) (reason : String) :
    Plain (validateDisposition disposition reason) := by
  unfold validateDisposition
  infer_instance

instance (attention : Attention) (leaseToken : String) :
    Plain (isAttentionDomainLeaseCurrent attention leaseToken) := by
  unfold isAttentionDomainLeaseCurrent
  infer_instance

instance (attention : Attention) (leaseToken : Option String) :
    Plain (assertAttentionLease kernel attention leaseToken) := by
  unfold assertAttentionLease
  infer_instance

instance (activationIds : List String) : Plain (markActivationChanges activationIds) := by
  unfold markActivationChanges
  infer_instance

instance (runId reason : String) (revokedAt : Timestamp) :
    Plain (revokeRunActivations runId reason revokedAt) := by
  unfold revokeRunActivations
  infer_instance

instance (existing : AttentionDomainFence) (at' : Timestamp) :
    Plain (supersedeAttention existing at') := by
  unfold supersedeAttention
  infer_instance

instance (attention : Attention) (leaseToken : String) (leaseExpiresAt at' : Timestamp)
    (existing : AttentionDomainFence) :
    Plain (takeOverAttentionDomain attention leaseToken leaseExpiresAt at' existing) := by
  unfold takeOverAttentionDomain
  infer_instance

instance (attention : Attention) (leaseToken : String) (leaseExpiresAt at' : Timestamp) :
    Plain (claimAttentionDomain attention leaseToken leaseExpiresAt at') := by
  unfold claimAttentionDomain
  infer_instance

instance (attentionId : String) : Plain (releaseAttentionDomainLease attentionId) := by
  unfold releaseAttentionDomainLease
  infer_instance

instance (activation : ActivationAttempt) (invalidity : ActivationInvalidity) :
    Plain (raise (activationInvalidityError activation invalidity) : K Unit) := by
  cases invalidity <;> exact Raises.raise rfl

instance (activation : ActivationAttempt) : Plain (loadActivationScopeState activation) := by
  unfold loadActivationScopeState
  infer_instance

instance (activation : ActivationAttempt) :
    Plain (assertActivationScopeCurrent kernel activation) := by
  unfold assertActivationScopeCurrent
  infer_instance

instance (activation : ActivationAttempt) (run : Run) :
    Plain (isCurrentRunActivation kernel activation run) := by
  unfold isCurrentRunActivation
  infer_instance

instance (context : PrincipalContext) (principal : Principal) (run : Run) :
    Plain (requireRunActivation kernel context principal run) := by
  unfold requireRunActivation
  infer_instance

instance (principal : Principal) (context : PrincipalContext) (activation : ActivationAttempt)
    (allowFinished : Bool) :
    Plain (authorizeActivationActor principal context activation allowFinished) := by
  unfold authorizeActivationActor
  infer_instance

instance (activation : ActivationAttempt) : Plain (activationScope activation) := by
  unfold activationScope
  infer_instance

instance (principal : Principal) (context : PrincipalContext) (projectId : String) :
    Plain (resolvePrincipalReadScope kernel principal context projectId) := by
  unfold resolvePrincipalReadScope
  infer_instance

instance (thread : Thread) (principal : Principal) (context : PrincipalContext)
    (expected : Option Int) :
    Plain (checkThreadCursor kernel thread principal context expected) := by
  unfold checkThreadCursor
  infer_instance

instance (threadRootId : String) : Plain (threadCursor threadRootId) := by
  unfold threadCursor
  infer_instance

instance (event : EventInput) : Plain (emitEvent kernel event) := by
  unfold emitEvent
  infer_instance

instance (threadRootId : String) (event : EventInput) :
    Plain (emitThreadEvent kernel threadRootId event) := by
  unfold emitThreadEvent
  infer_instance

instance (attentionId : String) (eventSequence : Nat) :
    Plain (recordAttentionHistory attentionId eventSequence) := by
  unfold recordAttentionHistory
  infer_instance

instance (topic : OutboxTopic) (aggregateType : AggregateType) (aggregateId : String)
    (payload : Json) : Plain (enqueueOutbox kernel topic aggregateType aggregateId payload) := by
  unfold enqueueOutbox
  infer_instance

/-! ## Causal limits -/

instance (causalRootId : String) : Plain (causalCapacity causalRootId) := by
  unfold causalCapacity
  infer_instance

instance (attention : Attention) (source : Message) (authorKind : PrincipalKind) :
    Plain (causalPosition attention source authorKind) := by
  unfold causalPosition
  infer_instance

instance (attention : Attention) : Plain (admitRunFromAttention attention) := by
  unfold admitRunFromAttention
  infer_instance

/-! ## Messages -/

instance (site : MentionSite) (targetAgentId : String) :
    Plain (openAttention kernel site targetAgentId) := by
  unfold openAttention
  infer_instance

instance (site : MentionSite) (suppressed : String → Bool) (targetAgentId : String) :
    Plain (mentionAgent kernel site suppressed targetAgentId) := by
  unfold mentionAgent
  infer_instance

instance (input : NewMessage) (threadRootId : String) :
    Plain (prepareThread input threadRootId) := by
  unfold prepareThread
  infer_instance

instance (input : NewMessage) : Plain (createMessage kernel input) := by
  unfold createMessage
  infer_instance

instance (command : StartThreadCommand) (principal : Principal) (correlationId : String) :
    Plain (startThread kernel command principal correlationId) := by
  unfold startThread
  infer_instance

instance (command : ReplyToThreadCommand) (principal : Principal) (context : PrincipalContext)
    (correlationId : String) :
    Plain (replyToThread kernel command principal context correlationId) := by
  unfold replyToThread
  infer_instance

instance (input : NewRevision) : Plain (appendMessageRevision kernel input) := by
  unfold appendMessageRevision
  infer_instance

instance (message : Message) : Plain (latestMessageRevision message) := by
  unfold latestMessageRevision
  infer_instance

instance (message : Message) (principal : Principal) :
    Plain (requireOriginalAuthor message principal) := by
  unfold requireOriginalAuthor
  infer_instance

instance (revision : Int) (field : String) : Plain (requireValidRevision revision field) := by
  unfold requireValidRevision
  infer_instance

instance (targetAgentIds : Option (List String)) :
    Plain (validateTargetAgentIds targetAgentIds) := by
  unfold validateTargetAgentIds
  infer_instance

instance (input : NewRevision) (type : EventType) (commandType : CommandType)
    (fields : List (String × Json)) (revisionId : String) :
    Plain (publishRevision kernel input type commandType fields revisionId) := by
  unfold publishRevision
  infer_instance

instance (command : EditMessageCommand) (principal : Principal) (correlationId : String) :
    Plain (editMessage kernel command principal correlationId) := by
  unfold editMessage
  infer_instance

instance (command : DeleteMessageCommand) (principal : Principal) (correlationId : String) :
    Plain (deleteMessage kernel command principal correlationId) := by
  unfold deleteMessage
  infer_instance

/-! ## Configuration -/

instance (revision : Int) (field : String) : Plain (requirePositiveRevision revision field) := by
  unfold requirePositiveRevision
  infer_instance

instance (command : UpdateAgentConfigCommand) (principal : Principal) (correlationId : String) :
    Plain (updateAgentConfig kernel command principal correlationId) := by
  unfold updateAgentConfig
  infer_instance

instance (command : AdoptRunConfigCommand) (principal : Principal) (correlationId : String) :
    Plain (adoptRunConfig kernel command principal correlationId) := by
  unfold adoptRunConfig
  infer_instance

/-! ## Artifacts -/

instance (run : Run) (principal : Principal) (context : PrincipalContext) :
    Plain (authorizeRunRead kernel run principal context) := by
  unfold authorizeRunRead
  infer_instance

instance (runId : String) (context : PrincipalContext) :
    Plain (authorizeReport kernel runId context) := by
  unfold authorizeReport
  infer_instance

instance (command : PublishArtifactCommand) (principal : Principal) (context : PrincipalContext)
    (correlationId : String) :
    Plain (publishArtifact kernel command principal context correlationId) := by
  unfold publishArtifact
  infer_instance

/-! ## The Outbox -/

instance (ids : List String) (principalId leaseToken : String) (leaseExpiresAt : Timestamp) :
    Plain (leaseOutboxEvents ids principalId leaseToken leaseExpiresAt) := by
  unfold leaseOutboxEvents
  infer_instance

instance (command : ClaimOutboxEventsCommand) (principal : Principal) :
    Plain (claimOutboxEvents kernel command principal) := by
  unfold claimOutboxEvents
  infer_instance

instance (principal : Principal) (leaseToken : String) (event : OutboxEvent) :
    Plain (checkAcknowledgedEvent kernel principal leaseToken event) := by
  unfold checkAcknowledgedEvent
  infer_instance

instance (command : AcknowledgeOutboxEventsCommand) (principal : Principal)
    (correlationId : String) :
    Plain (acknowledgeOutboxEvents kernel command principal correlationId) := by
  unfold acknowledgeOutboxEvents
  infer_instance

instance (command : OutboxAuthority) (principal : Principal) (runId : String) :
    Plain (requireOutboxDeliveryAuthority kernel command principal runId) := by
  unfold requireOutboxDeliveryAuthority
  infer_instance

instance (command : OutboxAuthority) (principal : Principal) (runId : String) :
    Plain (requireOutboxActivationAuthority kernel command principal runId) := by
  unfold requireOutboxActivationAuthority
  infer_instance

instance (command : OutboxAuthority) (principal : Principal) (runId : String)
    (runInputIds : List String) :
    Plain (requireOutboxProviderAuthority kernel command principal runId runInputIds) := by
  unfold requireOutboxProviderAuthority
  infer_instance

/-! ## Activations and provider attempts -/

instance (new : NewActivation) (principal : Principal) (correlationId : String) :
    Plain (createActivation kernel new principal correlationId) := by
  unfold createActivation
  infer_instance

instance (run : Run) (runId : String) (generation : Nat) (now : Timestamp) (principal : Principal)
    (correlationId : String) :
    Plain (activateRun kernel run runId generation now principal correlationId) := by
  unfold activateRun
  infer_instance

instance (command : StartActivationCommand) (runId : String) (now expiresAt : Timestamp)
    (principal : Principal) (correlationId : String) :
    Plain (startRunActivation kernel command runId now expiresAt principal correlationId) := by
  unfold startRunActivation
  infer_instance

instance (command : StartActivationCommand) (attentionId : String) (now expiresAt : Timestamp)
    (principal : Principal) (correlationId : String) :
    Plain (startAttentionActivation kernel command attentionId now expiresAt principal correlationId) :=
      by
  unfold startAttentionActivation
  infer_instance

instance (command : StartActivationCommand) (principal : Principal) (correlationId : String) :
    Plain (startActivation kernel command principal correlationId) := by
  unfold startActivation
  infer_instance

instance (command : FinishActivationCommand) (principal : Principal) (context : PrincipalContext)
    (correlationId : String) :
    Plain (finishActivation kernel command principal context correlationId) := by
  unfold finishActivation
  infer_instance

instance (command : StartProviderAttemptCommand) (principal : Principal) (runId : Option String)
    (runInputIds : List String) :
    Plain (providerAttemptAuthority kernel command principal runId runInputIds) := by
  unfold providerAttemptAuthority
  infer_instance

instance (activationId : String) (runId : Option String) (inputId : String) :
    Plain (checkProviderInput activationId runId inputId) := by
  unfold checkProviderInput
  infer_instance

instance (command : StartProviderAttemptCommand) (principal : Principal)
    (context : PrincipalContext) (correlationId : String) :
    Plain (startProviderAttempt kernel command principal context correlationId) := by
  unfold startProviderAttempt
  infer_instance

instance (providerAttemptId : String) (status : ProviderAttemptStatus) (detail : Option String)
    (commandType : CommandType) (principal : Principal) (context : PrincipalContext)
    (correlationId : String) :
    Plain (setProviderAttemptStatus kernel providerAttemptId status detail commandType principal context
      correlationId) := by
  unfold setProviderAttemptStatus
  infer_instance

instance (command : FinishProviderAttemptCommand) (principal : Principal)
    (context : PrincipalContext) (correlationId : String) :
    Plain (finishProviderAttempt kernel command principal context correlationId) := by
  unfold finishProviderAttempt
  infer_instance

instance (command : FailProviderAttemptCommand) (principal : Principal)
    (context : PrincipalContext) (correlationId : String) :
    Plain (failProviderAttempt kernel command principal context correlationId) := by
  unfold failProviderAttempt
  infer_instance

instance (runId activationId : String) (providerAttemptId : Option String) (kind : String)
    (payload : Json) (retentionClass : RetentionClass) :
    Plain (insertActivity kernel runId activationId providerAttemptId kind payload retentionClass) := by
  unfold insertActivity
  infer_instance

instance (runId : String) (activationId : Option String) (providerAttemptId : String) :
    Plain (providerActivationId runId activationId providerAttemptId) := by
  unfold providerActivationId
  infer_instance

instance (runId : String) (activationId providerAttemptId : Option String) (principal : Principal)
    (context : PrincipalContext) (allowFinished : Bool) :
    Plain (validateActivityProvenance kernel runId activationId providerAttemptId principal context
      allowFinished) := by
  unfold validateActivityProvenance
  infer_instance

instance (command : AppendRunActivityCommand) (principal : Principal) (context : PrincipalContext)
    (correlationId : String) :
    Plain (appendRunActivity kernel command principal context correlationId) := by
  unfold appendRunActivity
  infer_instance

instance (command : ParkRunAfterProviderAttemptFailureCommand) :
    Plain (requireParkableRun command) := by
  unfold requireParkableRun
  infer_instance

instance (command : ParkRunAfterProviderAttemptFailureCommand) (principal : Principal)
    (correlationId : String) :
    Plain (parkRunAfterProviderAttemptFailure kernel command principal correlationId) := by
  unfold parkRunAfterProviderAttemptFailure
  infer_instance

/-! ## Runs -/

instance (run : Run) (messageRevisionId principalId : String)
    (activationId sourceAttentionId : Option String) :
    Plain (createRunInput kernel run messageRevisionId principalId activationId sourceAttentionId) := by
  unfold createRunInput
  infer_instance

instance (command : SendToRunCommand) (principal : Principal) (correlationId : String) :
    Plain (sendToRun kernel command principal correlationId) := by
  unfold sendToRun
  infer_instance

instance (principal : Principal) (context : PrincipalContext) (run : Run) :
    Plain (withdrawalActivation kernel principal context run) := by
  unfold withdrawalActivation
  infer_instance

instance (command : WithdrawRunInputCommand) (principal : Principal) (context : PrincipalContext)
    (correlationId : String) :
    Plain (withdrawRunInput kernel command principal context correlationId) := by
  unfold withdrawRunInput
  infer_instance

instance (command : PublishRunReplyCommand) (principal : Principal) (context : PrincipalContext)
    (correlationId : String) :
    Plain (publishRunReply kernel command principal context correlationId) := by
  unfold publishRunReply
  infer_instance

instance (inputs : List RunInput) (throughSequence : Int) (supersession : Supersession)
    (exception : CompletionException) :
    Plain (checkCompletionException inputs throughSequence supersession exception) := by
  unfold checkCompletionException
  infer_instance

instance (exception : Option CompletionException) (inputId : String) :
    Plain (disposeRunInput exception inputId) := by
  unfold disposeRunInput
  infer_instance

instance (exceptions : List CompletionException) (supplied : List String) (throughSequence : Int)
    (input : RunInput) :
    Plain (completeRunInput exceptions supplied throughSequence input) := by
  unfold completeRunInput
  infer_instance

instance (command : CompleteRunCommand) (activationId : String) :
    Plain (disposeRunInputs command activationId) := by
  unfold disposeRunInputs
  infer_instance

instance (command : CompleteRunCommand) (run : Run) (activationId : String)
    (principal : Principal) (context : PrincipalContext) (correlationId : String) :
    Plain (publishFinalReply kernel command run activationId principal context correlationId) := by
  unfold publishFinalReply
  infer_instance

instance (command : CompleteRunCommand) (principal : Principal) (context : PrincipalContext)
    (correlationId : String) :
    Plain (completeRun kernel command principal context correlationId) := by
  unfold completeRun
  infer_instance

instance (command : WaitRunCommand) (principal : Principal) (context : PrincipalContext)
    (correlationId : String) :
    Plain (waitRun kernel command principal context correlationId) := by
  unfold waitRun
  infer_instance

instance (run : Run) (termination : Termination) (reason : String) (principal : Principal)
    (activationId : Option String) (correlationId : String) (commandType : CommandType) :
    Plain (terminateRun kernel run termination reason principal activationId correlationId commandType)
      := by
  unfold terminateRun
  infer_instance

instance (command : CancelRunCommand) (principal : Principal) (correlationId : String) :
    Plain (cancelRun kernel command principal correlationId) := by
  unfold cancelRun
  infer_instance

instance (command : FailRunCommand) (principal : Principal) (context : PrincipalContext)
    (correlationId : String) :
    Plain (failRun kernel command principal context correlationId) := by
  unfold failRun
  infer_instance

instance (command : RecordLateOutputCommand) (principal : Principal) (context : PrincipalContext)
    (correlationId : String) :
    Plain (recordLateOutput kernel command principal context correlationId) := by
  unfold recordLateOutput
  infer_instance

/-! ## Attentions -/

instance (superseded : SupersededAttention) (attentionId : String) (principal : Principal)
    (correlationId : String) :
    Plain (recordSupersededAttention kernel superseded attentionId principal correlationId) := by
  unfold recordSupersededAttention
  infer_instance

instance (command : ClaimAttentionCommand) (principal : Principal) (correlationId : String) :
    Plain (claimAttention kernel command principal correlationId) := by
  unfold claimAttention
  infer_instance

instance (command : AttentionDecision) (principal : Principal) (context : PrincipalContext) :
    Plain (requireAttentionDecisionContext kernel command principal context) := by
  unfold requireAttentionDecisionContext
  infer_instance

instance (activationId : String) (now : Timestamp) (reason : String) :
    Plain (finishAttentionActivation activationId now reason) := by
  unfold finishAttentionActivation
  infer_instance

instance (attentionId : String) (outcome : AttentionOutcome) :
    Plain (decideAttention attentionId outcome) := by
  unfold decideAttention
  infer_instance

instance (decision : AttentionDecisionContext) (type : EventType) (attentionId : String)
    (principal : Principal) (correlationId : String) (payload : Json) :
    Plain (recordAttentionDecision kernel decision type attentionId principal correlationId payload) :=
      by
  unfold recordAttentionDecision
  infer_instance

instance (command : ResolveAttentionWithRunCommand) (principal : Principal)
    (context : PrincipalContext) (correlationId : String) :
    Plain (resolveAttentionWithRun kernel command principal context correlationId) := by
  unfold resolveAttentionWithRun
  infer_instance

instance (command : IgnoreAttentionCommand) (principal : Principal) (context : PrincipalContext)
    (correlationId : String) :
    Plain (ignoreAttention kernel command principal context correlationId) := by
  unfold ignoreAttention
  infer_instance

instance (command : ResolveAttentionWithExistingRunCommand) (decision : AttentionDecisionContext) :
    Plain (requireContinuedRun command decision) := by
  unfold requireContinuedRun
  infer_instance

instance (command : ResolveAttentionWithExistingRunCommand) (principal : Principal)
    (context : PrincipalContext) (correlationId : String) :
    Plain (resolveAttentionWithExistingRun kernel command principal context correlationId) := by
  unfold resolveAttentionWithExistingRun
  infer_instance

/-! ## Commands -/

/-- The command is about a Worktree, its lease or an execution in it. -/
def KernelCommand.aboutWorktrees : KernelCommand → Bool
  | .RegisterPhysicalWorktree _ | .StartWorktreeExecution _ | .RecordWorktreeExecution _
  | .RevokeWorktreeExecutionAuthority _ | .RecoverWorktreeExecution _
  | .AcquireWorktreeWriterLease _ | .RenewWorktreeWriterLease _ | .ReleaseWorktreeWriterLease _
  | .QuarantineWorktreeWriterLease _ | .ResolveWorktreeWriterLeaseQuarantine _ => true
  | _ => false

/-- The errors of all other commands are rolled back. -/
theorem dispatchCommand_plain {command : KernelCommand} (h : command.aboutWorktrees = false)
    (context : PrincipalContext) (principal : Principal) (correlationId : String) :
    Plain (dispatchCommand kernel command context principal correlationId) := by
  unfold dispatchCommand
  cases command <;> first | infer_instance | cases h

end Plain

end Torsor.Kernel
