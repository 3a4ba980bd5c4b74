import Mathlib.Logic.Relation
import Torsor.Kernel.Kernel

/-! # The Kernel as a state machine

A database is opened once, with its bootstrap, and then changed by calls: commands, checks
of Worktree authority, the steps of a report, queries that record what they see, and
restarts of the process. A state is reachable when some sequence of calls leads to it.
-/

namespace Torsor.Kernel

open Torsor.Library Tx

/-! ## Opening -/

structure BootstrapAgent where
  id : String
  principalId : String
  projectId : String
  name : String
  configRevision : Nat
  config : Json

structure KernelBootstrap where
  principals : List Principal := []
  projects : List Project := []
  channels : List Channel := []
  agents : List BootstrapAgent := []

def applyBootstrap (kernel : KernelContext) (bootstrap : KernelBootstrap) : K Unit := do
  forEach bootstrap.principals fun principal => insertRowOrIgnore principal
  forEach bootstrap.projects fun project => insertRowOrIgnore project
  forEach bootstrap.channels fun channel => insertRowOrIgnore channel
  forEach bootstrap.agents fun agent => do
    insertRowOrIgnore
      ({ id := agent.id
         principalId := agent.principalId
         projectId := agent.projectId
         name := agent.name
         currentConfigRevision := agent.configRevision } : Agent)
    let createdAt ← kernel.now
    insertRowOrIgnore
      ({ agentId := agent.id
         revision := agent.configRevision
         config := agent.config
         createdAt } : AgentConfigRevision)

def initializeSchema (kernel : KernelContext) (causalLimits : CausalLimits)
    (bootstrap : KernelBootstrap) : K Unit := do
  insertRow ({ attentionRecoveryRevision := 0 } : KernelRuntimeState)
  throwIf (causalLimits.maxNonTerminalRunsPerRoot < 1)
    (kernelError .InvalidCommand
      "Causal limits require a nonnegative safe integer maxDepth and a positive safe integer maxNonTerminalRunsPerRoot.")
  insertRow causalLimits
  applyBootstrap kernel bootstrap

/-- An empty database, before anything is read, issued or drawn. -/
def World.blank : World where
  db := fun _ => Table.empty
  clockReadings := 0
  issuedIds := 0
  randomDraws := 0
  localWorktreeRevocations := []
  localWorktreeExecutions := []

/-- A state in which a new database has just been opened. -/
def Opened (kernel : KernelContext) (w : World) : Prop :=
  ∃ causalLimits bootstrap,
    initializeSchema kernel causalLimits bootstrap World.blank = (.ok (), w)

set_option synthInstance.maxSize 100000 in
/-- Opening a database fills the tables of the bootstrap only. -/
theorem Opened.frame {ts : List TableName} [NotAmong .kernelRuntimeState ts]
    [NotAmong .causalLimits ts] [NotAmong .principals ts] [NotAmong .projects ts]
    [NotAmong .channels ts] [NotAmong .agents ts] [NotAmong .agentConfigRevisions ts]
    {kernel : KernelContext} {w : World} (h : Opened kernel w) : Frame ts World.blank w := by
  obtain ⟨causalLimits, bootstrap, hrun⟩ := h
  have : Within (Frame ts) (initializeSchema kernel causalLimits bootstrap) := by
    unfold initializeSchema applyBootstrap
    infer_instance
  exact Within.of_eq hrun

/-! ## Calls -/

/-- One call on the Kernel, with all the caller supplies. A report is finalized in two
calls, between which its content arrives. -/
inductive KernelCall where
  | execute (command : KernelCommand) (context : PrincipalContext)
      (operationContext : Option KernelOperationContext)
  | admitReport (runId : String) (context : PrincipalContext)
  | publishReport (input : FinalizeReportInput) (content : ReportContent)
      (context : PrincipalContext) (operationContext : Option KernelOperationContext)
  | performWorktreeMutation (authority : WorktreeMutationAuthority)
      (context : PrincipalContext) (effect : Option Failure)
  | checkWorktreeAuthority (authority : WorktreeMutationAuthority) (context : PrincipalContext)
  | checkWorktreePublication (authority : WorktreeMutationAuthority)
      (context : PrincipalContext)
  | revokeLocalWorktreeAuthority (receipt : WorktreeExecutionReceipt)
      (context : PrincipalContext)
  | queryAttentionRecoverySnapshot (context : PrincipalContext)
  | queryRecoverableAttentionExecutions
      (afterCursor : Option RecoverableAttentionExecutionCursor)
      (recoveryRevision limit : Option Int) (context : PrincipalContext)
  | queryWorktreeWriterLease (worktreeId : String) (context : PrincipalContext)
  /-- A query that only reads: it takes clock readings and identifiers. -/
  | read (clockReadings issuedIds : Nat)
  /-- The process ends and another one opens the database. -/
  | restart

/-- The command a call executes, and the contexts it is issued under. -/
structure IssuedCommand where
  command : KernelCommand
  context : PrincipalContext
  operationContext : Option KernelOperationContext

def KernelCall.issued : KernelCall → Option IssuedCommand
  | .execute command context operationContext => some ⟨command, context, operationContext⟩
  | .publishReport input content context operationContext =>
      some ⟨input.command content, context, operationContext⟩
  | _ => none

/-- The sets in memory and the temporary table do not outlive the process. -/
def World.restart (w : World) : World :=
  { w with
    db := w.db.set (Table.empty : Table ProjectionActivationChange)
    localWorktreeRevocations := []
    localWorktreeExecutions := [] }

/-- The state after a call, whether it succeeded or failed. -/
def step (kernel : KernelContext) (call : KernelCall) (w : World) : World :=
  match call with
  | .execute command context operationContext =>
      (execute kernel command context operationContext w).2
  | .admitReport runId context => (admitReport kernel runId context w).2
  | .publishReport input content context operationContext =>
      (publishReport kernel input content context operationContext w).2
  | .performWorktreeMutation authority context effect =>
      (performWorktreeMutation kernel authority context effect w).2
  | .checkWorktreeAuthority authority context =>
      (checkWorktreeAuthority kernel authority context w).2
  | .checkWorktreePublication authority context =>
      (checkWorktreePublication kernel authority context w).2
  | .revokeLocalWorktreeAuthority receipt context =>
      (revokeLocalWorktreeAuthority receipt context w).2
  | .queryAttentionRecoverySnapshot context =>
      (queryAttentionRecoverySnapshot kernel context w).2
  | .queryRecoverableAttentionExecutions afterCursor recoveryRevision limit context =>
      (queryRecoverableAttentionExecutions kernel afterCursor recoveryRevision limit context w).2
  | .queryWorktreeWriterLease worktreeId context =>
      (queryWorktreeWriterLease kernel worktreeId context w).2
  | .read clockReadings issuedIds =>
      { w with
        clockReadings := w.clockReadings + clockReadings
        issuedIds := w.issuedIds + issuedIds }
  | .restart => w.restart

/-- One call leads from `w` to `w'`. -/
def Step (kernel : KernelContext) (w w' : World) : Prop := ∃ call, step kernel call w = w'

/-- Some sequence of calls leads from `w` to `w'`. -/
def Steps (kernel : KernelContext) : World → World → Prop :=
  Relation.ReflTransGen (Step kernel)

def Reachable (kernel : KernelContext) (w : World) : Prop :=
  ∃ w₀, Opened kernel w₀ ∧ Steps kernel w₀ w

section Runs

variable {kernel : KernelContext} {w w' : World}

theorem Opened.reachable (h : Opened kernel w) : Reachable kernel w :=
  ⟨w, h, Relation.ReflTransGen.refl⟩

theorem Reachable.steps (h : Reachable kernel w) (hs : Steps kernel w w') :
    Reachable kernel w' := by
  obtain ⟨w₀, hopen, hrun⟩ := h
  exact ⟨w₀, hopen, hrun.trans hs⟩

theorem Reachable.step (h : Reachable kernel w) (call : KernelCall) :
    Reachable kernel (step kernel call w) :=
  h.steps (Relation.ReflTransGen.single ⟨call, rfl⟩)

/-- What every call preserves is preserved by every run. -/
theorem Steps.invariant {P : World → Prop} (hs : Steps kernel w w') (hinit : P w)
    (hstep : ∀ w call, P w → P (step kernel call w)) : P w' := by
  induction hs with
  | refl => exact hinit
  | tail _ hcall ih =>
      obtain ⟨call, rfl⟩ := hcall
      exact hstep _ call ih

/-- What holds when the database is opened and is preserved by every call holds always. -/
theorem Reachable.invariant {Inv : World → Prop} (h : Reachable kernel w)
    (hinit : ∀ w, Opened kernel w → Inv w)
    (hstep : ∀ w call, Inv w → Inv (Torsor.Kernel.step kernel call w)) : Inv w := by
  obtain ⟨w₀, hopen, hrun⟩ := h
  exact hrun.invariant (hinit w₀ hopen) hstep

/-- A preorder that every call stays within holds of every run. -/
theorem Steps.within {R : World → World → Prop} [IsPreorder World R] (hs : Steps kernel w w')
    (hstep : ∀ w call, R w (step kernel call w)) : R w w' :=
  hs.invariant (refl_of R w) fun w₁ call hrun => trans_of R hrun (hstep w₁ call)

end Runs

/-! ## A small database -/

/-- A Kernel whose clock counts its own readings, one a millisecond, and whose identifiers
grow by one character. -/
def countingKernel : KernelContext where
  clock n := n
  idFactory _ n := String.ofList (List.replicate (n + 1) 'i')
  randomBytes n := String.ofList (List.replicate (n + 1) 'r')
  activationDurationMs := 60000
  hashPayload command := command.idempotencyKey
  relative _ child := child
  isAbsolute _ := false
  sep := "/"
  idFactory_inj _ _ m n h := by
    have hlength := congrArg (fun s => s.toList.length) h
    simpa using hlength
  idFactory_ne_empty _ n h := by
    have hlength := congrArg (fun s => s.toList.length) h
    simp at hlength
  randomBytes_inj m n h := by
    have hlength := congrArg (fun s => s.toList.length) h
    simpa using hlength

/-- One Project with a Channel, a Human, a Runtime and an Agent. -/
def smallBootstrap : KernelBootstrap where
  principals := [⟨"human", .human, "Human"⟩, ⟨"runtime", .runtime, "Runtime"⟩,
    ⟨"agent", .agent, "Agent"⟩]
  projects := [⟨"project", "Project"⟩]
  channels := [⟨"channel", "project", "Channel"⟩]
  agents := [⟨"alice", "agent", "project", "Alice", 1, .obj []⟩]

def smallWorld : World := (initializeSchema countingKernel ⟨4, 10⟩ smallBootstrap World.blank).2

theorem smallWorld_reachable : Reachable countingKernel smallWorld := by
  refine Opened.reachable ⟨⟨4, 10⟩, smallBootstrap, ?_⟩
  rfl

/-- The Human starts a Thread that mentions the Agent. -/
def threadCall : KernelCall :=
  .execute
    (.StartThread
      { idempotencyKey := "thread"
        projectId := "project"
        channelId := "channel"
        body := "Hello"
        targetAgentIds := some ["alice"] })
    { principalId := "human" } none

def threadWorld : World := step countingKernel threadCall smallWorld

theorem threadWorld_reachable : Reachable countingKernel threadWorld :=
  smallWorld_reachable.step threadCall

/-- An identifier the counting Kernel issues. -/
def issuedId (n : Nat) : String := countingKernel.idFactory "" n

/-- The Runtime claims the Attention that was opened. -/
def claimAttentionCall : KernelCall :=
  .execute
    (.ClaimAttention
      { idempotencyKey := "claim"
        attentionId := issuedId 4
        expectedAttentionRevision := 1
        leaseDurationMs := 60000 })
    { principalId := "runtime" } none

/-- It starts the Agent on it. -/
def startHandlerCall : KernelCall :=
  .execute
    (.StartActivation
      { idempotencyKey := "handler"
        attentionId := some (issuedId 4)
        handlerLeaseToken := some (issuedId 9) })
    { principalId := "runtime" } none

/-- The Agent decides to create a Run. -/
def createRunCall : KernelCall :=
  .execute
    (.ResolveAttentionWithRun
      { idempotencyKey := "create"
        attentionId := issuedId 4
        expectedAttentionRevision := 2
        handlerLeaseToken := issuedId 9 })
    { principalId := "agent", activationId := some (issuedId 12) } none

def handledWorld : World :=
  step countingKernel startHandlerCall (step countingKernel claimAttentionCall threadWorld)

theorem handledWorld_reachable : Reachable countingKernel handledWorld :=
  (threadWorld_reachable.step claimAttentionCall).step startHandlerCall

def runWorld : World := step countingKernel createRunCall handledWorld

theorem runWorld_reachable : Reachable countingKernel runWorld :=
  handledWorld_reachable.step createRunCall

example : (runWorld.db.table Run).rows.map (·.state) = [.Active] := by decide +kernel

end Torsor.Kernel
