import Torsor.Kernel.Database

/-! # Which artifacts and events a reader sees -/

namespace Torsor.Kernel

open Torsor.Library

structure PrincipalReadScope where
  projectId : String
  channelId : Option String
  threadRootId : Option String
  runId : Option String

/-- Optional conditions on an artifact; an absent one holds. -/
structure ArtifactFilter where
  id : Option String := none
  threadRootId : Option String := none
  runId : Option String := none
  snapshotEventSequence : Option Nat := none

/-- The clauses of `visibleArtifactRows`, for an artifact and the Run that produced it. -/
def artifactVisible (db : Database) (scope : Option PrincipalReadScope)
    (filter : ArtifactFilter) (artifact : Artifact) (run : Run) : Bool :=
  artifact.visibilityChannelId = run.homeChannelId &&
  artifact.producerThreadRootId = run.threadRootId &&
  (db.table Channel).rows.any (fun channel =>
    channel.id = run.homeChannelId && channel.projectId = run.projectId) &&
  scope.all (fun scope => scope.threadRootId.all fun threadRootId =>
    run.projectId = scope.projectId && some run.homeChannelId = scope.channelId &&
    run.threadRootId = threadRootId && some artifact.producerRunId = scope.runId) &&
  filter.id.all (artifact.id = ·) &&
  filter.threadRootId.all (run.threadRootId = ·) &&
  filter.runId.all (artifact.producerRunId = ·) &&
  filter.snapshotEventSequence.all fun snapshot =>
    artifact.createdEventSequence.any (· ≤ snapshot)

def visibleArtifactRows (db : Database) (scope : Option PrincipalReadScope)
    (filter : ArtifactFilter) : List Artifact :=
  orderByPair (fun artifact => (artifact.createdAt, artifact.id)) <|
    (db.table Artifact).filter fun artifact =>
      (db.table Run).rows.any fun run =>
        run.id = artifact.producerRunId && artifactVisible db scope filter artifact run

def filterVisiblePublicEvents (db : Database) (rows : List PublicEvent)
    (scope : PrincipalReadScope) : List PublicEvent :=
  rows.filter fun row =>
    row.projectId = scope.projectId &&
    scope.channelId.all (fun channelId => row.channelId = some channelId) &&
    scope.threadRootId.all (fun threadRootId => row.threadRootId = some threadRootId) &&
    -- The descriptor tells who sees an artifact, never an event payload.
    if row.entityType = .Artifact || row.type = .ArtifactPublished then
      (visibleArtifactRows db (some scope) { id := some row.entityId }).length = 1
    else true

end Torsor.Kernel
