import Torsor.Kernel.Invariants

/-! # Limits on causally related Runs

The overrides `rejectCausalOverrides` looks for are fields no command record has.
-/

namespace Torsor.Kernel

open Torsor.Library Tx

structure CausalCapacity where
  causalRootId : String
  maxDepth : Nat
  maxNonTerminalRunsPerRoot : Nat
  nonTerminalRunCount : Nat

def CausalCapacity.fields (capacity : CausalCapacity) : List (String × Json) :=
  [("causalRootId", .str capacity.causalRootId), ("maxDepth", .nat capacity.maxDepth),
    ("maxNonTerminalRunsPerRoot", .nat capacity.maxNonTerminalRunsPerRoot),
    ("nonTerminalRunCount", .nat capacity.nonTerminalRunCount)]

def causalCapacity (causalRootId : String) : K CausalCapacity := do
  let limits ← requireRow (fun _ : CausalLimits => true)
    (kernelError .Conflict "The database is missing its durable causal limits.")
  let runs ← selectRows fun r : Run =>
    r.causalRootId = causalRootId && !isTerminalRunState r.state
  pure
    { causalRootId
      maxDepth := limits.maxDepth
      maxNonTerminalRunsPerRoot := limits.maxNonTerminalRunsPerRoot
      nonTerminalRunCount := runs.length }

/-- The place of a new Run among its causes, and the capacity it takes a part of. -/
structure CausalAdmission extends CausalCapacity where
  parentAttentionId : String
  parentRunId : Option String
  delegationDepth : Nat

def CausalAdmission.fields (admission : CausalAdmission) : List (String × Json) :=
  admission.toCausalCapacity.fields ++
    [("parentAttentionId", .str admission.parentAttentionId),
      ("parentRunId", .ofText admission.parentRunId),
      ("delegationDepth", .nat admission.delegationDepth)]

/-- The Message an Attention was opened for, with the kind of its author. -/
def attentionSource (db : Database) (attention : Attention) :
    Option (Message × PrincipalKind) := do
  let revision ← (db.table MessageRevision).find? fun r => r.id = attention.messageRevisionId
  let message ← (db.table Message).find? fun r => r.id = revision.messageId
  let principal ← (db.table Principal).find? fun r => r.id = message.authorPrincipalId
  pure (message, principal.kind)

/-- The causal root and the depth of a Run created for a Message. -/
def causalPosition (attention : Attention) (source : Message) (authorKind : PrincipalKind) :
    K (String × Nat) :=
  if authorKind = .human ∧ source.causedByRunId.isNone then pure (source.id, 0)
  else do
    throwIf (authorKind ≠ .agent)
      (kernelError .Conflict "Run creation requires trustworthy Human or Run provenance.")
    let parentRunId ← require source.causedByRunId
      (kernelError .Conflict "Run creation requires trustworthy Human or Run provenance.")
    let parent ← requireRun parentRunId
    throwIf (parent.projectId ≠ attention.projectId ∨
        parent.homeChannelId ≠ attention.channelId ∨
        parent.threadRootId ≠ attention.threadRootId ∨
        some parent.ownerAgentId ≠ source.authorAgentId)
      (kernelError .Conflict "The source Message does not match its parent Run.")
    pure (parent.causalRootId, parent.delegationDepth + 1)

def admitRunFromAttention (attention : Attention) : K CausalAdmission := do
  let found ← gets fun w => attentionSource w.db attention
  let source ← require found
    (kernelError .Conflict "Run creation requires a durable source Message.")
  let position ← causalPosition attention source.1 source.2
  let capacity ← causalCapacity position.1
  let dimension :=
    if capacity.maxDepth < position.2 then some "depth"
    else if capacity.maxNonTerminalRunsPerRoot ≤ capacity.nonTerminalRunCount then
      some "nonTerminalRuns"
    else none
  reject (dimension.map fun dimension =>
    kernelError .CausalLimitExceeded s!"Run creation exceeds the causal {dimension} limit."
      (some (.obj (capacity.fields ++
        [("delegationDepth", .nat position.2), ("dimension", .str dimension)]))))
  pure
    { capacity with
      nonTerminalRunCount := capacity.nonTerminalRunCount + 1
      parentAttentionId := attention.id
      parentRunId := source.1.causedByRunId
      delegationDepth := position.2 }

section Within

set_option synthInstance.maxSize 100000

variable {R : World → World → Prop} {ts : List TableName} [Concerns R ts]
  [IsPreorder World R]

instance (causalRootId : String) : Within R (causalCapacity causalRootId) := by
  unfold causalCapacity
  infer_instance

instance (attention : Attention) (source : Message) (authorKind : PrincipalKind) :
    Within R (causalPosition attention source authorKind) := by
  unfold causalPosition
  infer_instance

instance (attention : Attention) : Within R (admitRunFromAttention attention) := by
  unfold admitRunFromAttention
  infer_instance

end Within

end Torsor.Kernel
