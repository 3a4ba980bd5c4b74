import Torsor.Kernel.Invariants

/-! # Report artifacts -/

namespace Torsor.Kernel

open Torsor.Library Tx

def authorizeRunRead (kernel : KernelContext) (run : Run) (principal : Principal)
    (context : PrincipalContext) : K Unit := do
  assertProjectChannel run.projectId run.homeChannelId
  let scope ← resolvePrincipalReadScope kernel principal context run.projectId
  throwIf ((scope.channelId.isSome ∧ scope.channelId ≠ some run.homeChannelId) ∨
      (scope.threadRootId.isSome ∧ scope.threadRootId ≠ some run.threadRootId) ∨
      (principal.kind = .agent ∧ scope.runId ≠ some run.id))
    (kernelError .Forbidden "The current scope cannot read this Artifact Run.")

def authorizeReport (kernel : KernelContext) (runId : String) (context : PrincipalContext) :
    K ActivationAttempt := do
  let principal ← requirePrincipal context.principalId
  let run ← requireRun runId
  let activation ← requireRunActivation kernel context principal run
  authorizeRunRead kernel run principal context
  pure activation

def artifactScope (kernel : KernelContext) (principal : Principal)
    (context : PrincipalContext) : K (Option PrincipalReadScope) :=
  if principal.kind = .agent then do
    let agent ← requireAgentForPrincipal context.principalId
    let scope ← resolvePrincipalReadScope kernel principal context agent.projectId
    pure (some scope)
  else pure none

def getArtifact (kernel : KernelContext) (artifactId : String) (context : PrincipalContext) :
    K ArtifactView := do
  let principal ← requirePrincipal context.principalId
  let scope ← artifactScope kernel principal context
  requireNonEmpty artifactId "artifactId"
  let rows ← gets fun w => visibleArtifactRows w.db scope { id := some artifactId }
  let row ← require rows.head? (kernelError .NotFound "The Artifact was not found.")
  pure (mapArtifact row)

def publishArtifact (kernel : KernelContext) (command : PublishArtifactCommand)
    (principal : Principal) (context : PrincipalContext) (correlationId : String) :
    K CommandResult := do
  let run ← requireMutableRun command.runId (some command.expectedRunRevision)
  let activation ← authorizeReport kernel command.runId context
  let artifactId ← kernel.newId "artifact"
  let baseRevision := s!"run:{command.runId}@{command.expectedRunRevision}"
  let createdAt ← kernel.now
  insertRow
    ({ id := artifactId
       contentDigest := command.contentDigest
       producerRunId := command.runId
       producerActivationId := activation.id
       producerThreadRootId := run.threadRootId
       baseRevision
       mediaType := "text/plain; charset=utf-8"
       byteLength := command.byteLength
       visibilityChannelId := run.homeChannelId
       metadata := none
       createdEventSequence := none
       createdAt } : Artifact)
  let cursor ← emitThreadEvent kernel run.threadRootId
    { type := .ArtifactPublished
      projectId := run.projectId
      channelId := some run.homeChannelId
      threadRootId := some run.threadRootId
      entityType := .Artifact
      entityId := artifactId
      actorPrincipalId := principal.id
      activationId := some activation.id
      causationId := some command.runId
      correlationId
      payload := .obj [("runId", .str command.runId),
        ("contentDigest", .str command.contentDigest), ("baseRevision", .str baseRevision),
        ("byteLength", .nat command.byteLength)] }
  enqueueOutbox kernel .artifactPublished .Artifact artifactId
    (.obj [("runId", .str command.runId), ("contentDigest", .str command.contentDigest)])
  pure
    { commandType := .PublishArtifact
      entityId := artifactId
      revision := some run.revision
      threadCursor := some cursor
      relatedIds := [("activationId", activation.id), ("runId", command.runId)] }

section Within

set_option synthInstance.maxSize 100000

variable {R : World → World → Prop} {ts : List TableName} [Concerns R ts]
  [IsPreorder World R] (kernel : KernelContext)

instance (run : Run) (principal : Principal) (context : PrincipalContext) :
    Within R (authorizeRunRead kernel run principal context) := by
  unfold authorizeRunRead
  infer_instance

instance (runId : String) (context : PrincipalContext) :
    Within R (authorizeReport kernel runId context) := by
  unfold authorizeReport
  infer_instance

instance (principal : Principal) (context : PrincipalContext) :
    Within R (artifactScope kernel principal context) := by
  unfold artifactScope
  infer_instance

instance (artifactId : String) (context : PrincipalContext) :
    Within R (getArtifact kernel artifactId context) := by
  unfold getArtifact
  infer_instance

instance [NotAmong .artifacts ts] [NotAmong .publicEvents ts] [NotAmong .threads ts]
    [Enqueues R kernel] (command : PublishArtifactCommand) (principal : Principal)
    (context : PrincipalContext) (correlationId : String) :
    Within R (publishArtifact kernel command principal context correlationId) := by
  unfold publishArtifact
  infer_instance

end Within

end Torsor.Kernel
