import Torsor.Kernel.Collaboration

/-! # Agent configuration

A configuration is a `Json` value, so it is one `serializeJsonValue` accepts.
-/

namespace Torsor.Kernel

open Torsor.Library Tx

/-- The check Messages make under the name `requireValidRevision`. -/
def requirePositiveRevision (revision : Int) (field : String) : K Unit :=
  requireValidRevision revision field

def updateAgentConfig (kernel : KernelContext) (command : UpdateAgentConfigCommand)
    (principal : Principal) (correlationId : String) : K CommandResult := do
  requireKind principal .human
  requirePositiveRevision command.expectedAgentConfigRevision "expected Agent config revision"
  let agent ← requireAgent command.agentId
  checkRevision agent.currentConfigRevision command.expectedAgentConfigRevision "Agent config"
  let revision := agent.currentConfigRevision + 1
  let createdAt ← kernel.now
  insertRow
    ({ agentId := command.agentId
       revision
       config := command.config
       createdAt } : AgentConfigRevision)
  updateRows (fun r : Agent => r.id = command.agentId) fun r =>
    { r with currentConfigRevision := revision }
  let _ ← emitEvent kernel
    { type := .AgentConfigUpdated
      projectId := agent.projectId
      channelId := none
      threadRootId := none
      entityType := .Agent
      entityId := command.agentId
      actorPrincipalId := principal.id
      activationId := none
      causationId := none
      correlationId
      payload := .obj [("previousRevision", .num command.expectedAgentConfigRevision),
        ("revision", .nat revision)] }
  pure
    { commandType := .UpdateAgentConfig
      entityId := command.agentId
      revision := some revision
      relatedIds :=
        [("previousAgentConfigRevision", toString command.expectedAgentConfigRevision)] }

def adoptRunConfig (kernel : KernelContext) (command : AdoptRunConfigCommand)
    (principal : Principal) (correlationId : String) : K CommandResult := do
  requireKind principal .human
  requirePositiveRevision command.expectedRunRevision "expected Run revision"
  requirePositiveRevision command.expectedAgentConfigRevision "expected Agent config revision"
  requirePositiveRevision command.targetAgentConfigRevision "target Agent config revision"
  let run ← requireMutableRun command.runId (some command.expectedRunRevision)
  let agent ← requireAgent run.ownerAgentId
  checkRevision agent.currentConfigRevision command.expectedAgentConfigRevision "Agent config"
  throwIf (command.targetAgentConfigRevision ≤ (run.agentConfigRevision : Int) ∨
      command.expectedAgentConfigRevision < command.targetAgentConfigRevision)
    (kernelError .InvalidCommand
      ("The target Agent config revision must be newer than the Run revision and not " ++
        "exceed the expected current Agent revision."))
  let targetRevision := command.targetAgentConfigRevision.toNat
  let target ← selectRow fun r : AgentConfigRevision =>
    r.agentId = agent.id && r.revision = targetRevision
  throwIf target.isNone
    (kernelError .InvalidCommand
      "The target Agent config revision does not exist for the Run owner.")
  let revision := run.revision + 1
  let now ← kernel.now
  updateRows (fun r : Run => r.id = command.runId) fun r =>
    { r with agentConfigRevision := targetRevision, revision, updatedAt := now }
  let _ ← emitEvent kernel
    { type := .RunConfigAdopted
      projectId := run.projectId
      channelId := some run.homeChannelId
      threadRootId := some run.threadRootId
      entityType := .Run
      entityId := command.runId
      actorPrincipalId := principal.id
      activationId := none
      causationId := none
      correlationId
      payload := .obj [("agentId", .str agent.id),
        ("previousAgentConfigRevision", .nat run.agentConfigRevision),
        ("agentConfigRevision", .nat targetRevision), ("runRevision", .nat revision)] }
  pure
    { commandType := .AdoptRunConfig
      entityId := command.runId
      revision := some revision
      relatedIds := [("agentId", agent.id), ("agentConfigRevision", toString targetRevision)] }

section Within

set_option synthInstance.maxSize 100000

variable {R : World → World → Prop} {ts : List TableName} [Concerns R ts]
  [IsPreorder World R] (kernel : KernelContext)

instance (revision : Int) (field : String) :
    Within R (requirePositiveRevision revision field) := by
  unfold requirePositiveRevision
  infer_instance

instance [NotAmong .agentConfigRevisions ts] [NotAmong .agents ts] [NotAmong .publicEvents ts]
    (command : UpdateAgentConfigCommand) (principal : Principal) (correlationId : String) :
    Within R (updateAgentConfig kernel command principal correlationId) := by
  unfold updateAgentConfig
  infer_instance

instance [NotAmong .runs ts] [NotAmong .publicEvents ts] (command : AdoptRunConfigCommand)
    (principal : Principal) (correlationId : String) :
    Within R (adoptRunConfig kernel command principal correlationId) := by
  unfold adoptRunConfig
  infer_instance

end Within

end Torsor.Kernel
