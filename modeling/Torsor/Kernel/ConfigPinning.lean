import Torsor.Kernel.RunMoves

/-! # Configuration revisions and what is pinned to them

An Agent has numbered configuration revisions, a Run is pinned to one of them and an
Activation records the one it was started with. Four commands change any of these; of every
other one the revisions, the pins and the records stay as they are.
-/

namespace Torsor.Kernel
open Torsor.Library Tx

/-! ## Pins -/

/-- The configuration a Run is pinned to. -/
structure RunPin where
  id : String
  ownerAgentId : String
  agentConfigRevision : Nat

def Run.pin (r : Run) : RunPin := ⟨r.id, r.ownerAgentId, r.agentConfigRevision⟩

/-- What an Activation was started for and with. -/
structure ActivationPin where
  id : String
  agentId : String
  runId : Option String
  attentionId : Option String
  configRevision : Nat

def ActivationAttempt.pin (r : ActivationAttempt) : ActivationPin :=
  ⟨r.id, r.agentId, r.runId, r.attentionId, r.configRevision⟩

def Database.runPins (db : Database) : List RunPin := (db.table Run).rows.map Run.pin

def Database.activationPins (db : Database) : List ActivationPin :=
  (db.table ActivationAttempt).rows.map ActivationAttempt.pin

/-- Nothing about configurations has changed. -/
structure SameConfig (w w' : World) : Prop where
  agents : w'.db.table Agent = w.db.table Agent
  revisions : w'.db.table AgentConfigRevision = w.db.table AgentConfigRevision
  runs : w'.db.runPins = w.db.runPins
  activations : w'.db.activationPins = w.db.activationPins

theorem SameConfig.refl (w : World) : SameConfig w w := ⟨rfl, rfl, rfl, rfl⟩

instance : IsPreorder World SameConfig where
  refl := SameConfig.refl
  trans _ _ _ h h' := ⟨h'.agents.trans h.agents, h'.revisions.trans h.revisions,
    h'.runs.trans h.runs, h'.activations.trans h.activations⟩

instance : ConcernsTables SameConfig
    [.agents, .agentConfigRevisions, .runs, .activationAttempts] where
  of_tables w w' htables _ _ _ := by
    have hruns : w'.db.table Run = w.db.table Run := by
      simp only [Database.table, htables .runs (by decide)]
    have hactivations : w'.db.table ActivationAttempt = w.db.table ActivationAttempt := by
      simp only [Database.table, htables .activationAttempts (by decide)]
    refine ⟨?_, ?_, ?_, ?_⟩
    · simp only [Database.table, htables .agents (by decide)]
    · simp only [Database.table, htables .agentConfigRevisions (by decide)]
    · rw [Database.runPins, hruns, Database.runPins]
    · rw [Database.activationPins, hactivations, Database.activationPins]

/-! ## Statements -/

section Statements

set_option synthInstance.maxSize 400000

/-- The two rows are of one Run with one pin. -/
class SamePin (r r' : Run) : Prop where
  pin : r'.pin = r.pin

instance (r : Run) (projectId homeChannelId threadRootId causalRootId parentAttentionId : String)
    (parentRunId : Option String) (delegationDepth : Nat) (state : RunState)
    (revision activationGeneration nextInputSequence nextActivitySequence : Nat)
    (createdEventSequence : Option Nat) (createdAt updatedAt : Timestamp)
    (terminalReason : Option String) :
    SamePin r
      ⟨r.id, projectId, homeChannelId, threadRootId, r.ownerAgentId, r.agentConfigRevision,
        causalRootId, parentAttentionId, parentRunId, delegationDepth, state, revision,
        activationGeneration, nextInputSequence, nextActivitySequence, createdEventSequence,
        createdAt, updatedAt, terminalReason⟩ := ⟨rfl⟩

instance (p : Run → Bool) (f : Run → Run) (h : KeepsKeys f) [hf : ∀ r, SamePin r (f r)] :
    Within SameConfig (updateRows p f h) := by
  apply Within.updateRows
  intro w
  have hsame : ∀ r, (f r).pin = r.pin := fun r => (hf r).pin
  refine { SameConfig.refl w with runs := ?_ }
  simp [Database.runPins, Table.map_view_eq hsame]

/-- The two rows are of one Activation, started in one way. -/
class SameStart (r r' : ActivationAttempt) : Prop where
  pin : r'.pin = r.pin

instance (r : ActivationAttempt) (attentionLeaseToken : Option String)
    (runActivationGeneration : Option Nat) (cause : ActivationCause)
    (createdEventSequence : Option Nat) (startedAt expiresAt : Timestamp)
    (revokedAt : Option Timestamp) (revocationReason : Option String)
    (finishedAt : Option Timestamp) (outcome : Option ActivationOutcome)
    (detail : Option String) :
    SameStart r
      ⟨r.id, r.agentId, r.runId, r.attentionId, attentionLeaseToken, runActivationGeneration,
        cause, r.configRevision, createdEventSequence, startedAt, expiresAt, revokedAt,
        revocationReason, finishedAt, outcome, detail⟩ := ⟨rfl⟩

instance (revokedAt : Timestamp) (reason : String) (r : ActivationAttempt) :
    SameStart r (ActivationAttempt.revoke revokedAt reason r) := ⟨rfl⟩

instance (now : Timestamp) (reason : String) (r : ActivationAttempt) :
    SameStart r (ActivationAttempt.finishDecision now reason r) := ⟨rfl⟩

instance (p : ActivationAttempt → Bool) (f : ActivationAttempt → ActivationAttempt)
    (h : KeepsKeys f) [hf : ∀ r, SameStart r (f r)] : Within SameConfig (updateRows p f h) := by
  apply Within.updateRows
  intro w
  have hsame : ∀ r, (f r).pin = r.pin := fun r => (hf r).pin
  refine { SameConfig.refl w with activations := ?_ }
  simp [Database.activationPins, Table.map_view_eq hsame]

instance (p : ActivationAttempt → Bool) (f : ActivationAttempt → ActivationAttempt)
    (h : KeepsKeys f) [hf : ∀ r, SameStart r (f r)] :
    Within SameConfig (updateActivations p f h) := by
  unfold updateActivations
  infer_instance

end Statements

/-! ## Commands that leave configurations alone -/

section Commands

set_option synthInstance.maxSize 400000

variable (kernel : KernelContext)

instance (runId reason : String) (revokedAt : Timestamp) :
    Within SameConfig (revokeRunActivations runId reason revokedAt) := by
  unfold revokeRunActivations
  infer_instance

instance (existing : AttentionDomainFence) (at' : Timestamp) :
    Within SameConfig (supersedeAttention existing at') := by
  unfold supersedeAttention
  infer_instance

instance (command : ClaimAttentionCommand) (principal : Principal) (correlationId : String) :
    Within SameConfig (claimAttention kernel command principal correlationId) := by
  unfold claimAttention claimAttentionDomain takeOverAttentionDomain
  infer_instance

instance (activationId : String) (now : Timestamp) (reason : String) :
    Within SameConfig (finishAttentionActivation activationId now reason) := by
  unfold finishAttentionActivation
  infer_instance

instance (run : Run) (termination : Termination) (reason : String) (principal : Principal)
    (activationId : Option String) (correlationId : String) (commandType : CommandType) :
    Within SameConfig (terminateRun kernel run termination reason principal activationId
      correlationId commandType) := by
  unfold terminateRun
  infer_instance

instance (run : Run) (runId : String) (generation : Nat) (now : Timestamp) (principal : Principal)
    (correlationId : String) :
    Within SameConfig (activateRun kernel run runId generation now principal correlationId) := by
  unfold activateRun
  infer_instance

instance (runId activationId : String) (providerAttemptId : Option String) (kind : String)
    (payload : Json) (retentionClass : RetentionClass) :
    Within SameConfig (insertActivity kernel runId activationId providerAttemptId kind payload
      retentionClass) := by
  unfold insertActivity
  infer_instance

instance (correlationId : String) :
    Within SameConfig (recordProjectionVersions correlationId) := by
  unfold recordProjectionVersions recordVersionsAt recordAffectedRun markImmutableComponents
  infer_instance

/-- The commands that may change something about configurations. -/
def KernelCommand.movesConfig : KernelCommand → Bool
  | .UpdateAgentConfig _ | .AdoptRunConfig _ | .ResolveAttentionWithRun _
  | .StartActivation _ => true
  | _ => false

theorem dispatchCommand_sameConfig {command : KernelCommand}
    (h : command.movesConfig = false) (context : PrincipalContext) (principal : Principal)
    (correlationId : String) :
    Within SameConfig (dispatchCommand kernel command context principal correlationId) := by
  unfold dispatchCommand
  cases command with
  | UpdateAgentConfig => cases h
  | AdoptRunConfig => cases h
  | ResolveAttentionWithRun => cases h
  | StartActivation => cases h
  | SendToRun => unfold sendToRun; infer_instance
  | WithdrawRunInput => unfold withdrawRunInput; infer_instance
  | CompleteRun => unfold completeRun; infer_instance
  | WaitRun => unfold waitRun; infer_instance
  | CancelRun => unfold cancelRun; infer_instance
  | FailRun => unfold failRun; infer_instance
  | AppendRunActivity => unfold appendRunActivity; infer_instance
  | RecordLateOutput => unfold recordLateOutput; infer_instance
  | FinishActivation => unfold finishActivation; infer_instance
  | IgnoreAttention => unfold ignoreAttention; infer_instance
  | ResolveAttentionWithExistingRun => unfold resolveAttentionWithExistingRun; infer_instance
  | ParkRunAfterProviderAttemptFailure =>
      unfold parkRunAfterProviderAttemptFailure
      infer_instance
  | _ => infer_instance

instance (command : KernelCommand) (result : CommandResult) (principal : Principal)
    (context : PrincipalContext) :
    Within SameConfig (resolveCachedResult kernel command result principal context) := by
  unfold resolveCachedResult
  split <;> infer_instance

end Commands

/-! ## Commands that change configurations -/

/-- The Activation is of a Run, with the revision the Run is pinned to, or of an Attention,
with the current revision of its target Agent. -/
inductive ActivationPin.StartsWith (db : Database) (pin : ActivationPin) : Prop where
  | run {run : Run} (hrun : run ∈ db.table Run) (hof : pin.runId = some run.id)
      (howner : pin.agentId = run.ownerAgentId)
      (hpinned : pin.configRevision = run.agentConfigRevision)
  | attention {attention : Attention} {agent : Agent}
      (hattention : attention ∈ db.table Attention) (hagent : agent ∈ db.table Agent)
      (hnone : pin.runId = none) (hof : pin.attentionId = some attention.id)
      (htarget : agent.id = attention.targetAgentId) (howner : pin.agentId = agent.id)
      (hcurrent : pin.configRevision = agent.currentConfigRevision)

/-- What a command does to revisions, pins and records. -/
inductive ConfigMove (command : KernelCommand) (db db' : Database) : Prop where
  | updated {agent : Agent} {revision : AgentConfigRevision} (hagent : agent ∈ db.table Agent)
      (hof : revision.agentId = agent.id)
      (hnext : revision.revision = agent.currentConfigRevision + 1)
      (hagents : (db'.table Agent).rows = (db.table Agent).rows.map fun r =>
        if r.id = agent.id then { r with currentConfigRevision := revision.revision } else r)
      (hrevisions : (db'.table AgentConfigRevision).rows =
        (db.table AgentConfigRevision).rows ++ [revision])
      (hruns : db'.runPins = db.runPins) (hactivations : db'.activationPins = db.activationPins)
  | adopted {adoption : AdoptRunConfigCommand} {run : Run} {agent : Agent}
      {target : AgentConfigRevision} (hcommand : command = .AdoptRunConfig adoption)
      (hrun : run ∈ db.table Run) (hid : run.id = adoption.runId)
      (hagent : agent ∈ db.table Agent) (howner : agent.id = run.ownerAgentId)
      (htarget : target ∈ db.table AgentConfigRevision) (hof : target.agentId = agent.id)
      (hnewer : run.agentConfigRevision < target.revision)
      (hcurrent : target.revision ≤ agent.currentConfigRevision)
      (hagents : db'.table Agent = db.table Agent)
      (hrevisions : db'.table AgentConfigRevision = db.table AgentConfigRevision)
      (hruns : db'.runPins = db.runPins.map fun pin =>
        if pin.id = run.id then { pin with agentConfigRevision := target.revision } else pin)
      (hactivations : db'.activationPins = db.activationPins)
  | created {pin : RunPin} {agent : Agent} (hagent : agent ∈ db.table Agent)
      (howner : pin.ownerAgentId = agent.id)
      (hcurrent : pin.agentConfigRevision = agent.currentConfigRevision)
      (hagents : db'.table Agent = db.table Agent)
      (hrevisions : db'.table AgentConfigRevision = db.table AgentConfigRevision)
      (hruns : db'.runPins = db.runPins ++ [pin])
      (hactivations : db'.activationPins = db.activationPins)
  | started {pin : ActivationPin} (hstarts : pin.StartsWith db)
      (hnew : ∀ old ∈ db.activationPins, old.id ≠ pin.id)
      (hagents : db'.table Agent = db.table Agent)
      (hrevisions : db'.table AgentConfigRevision = db.table AgentConfigRevision)
      (hruns : db'.runPins = db.runPins)
      (hactivations : db'.activationPins = db.activationPins ++ [pin])
  | quiet (hagents : db'.table Agent = db.table Agent)
      (hrevisions : db'.table AgentConfigRevision = db.table AgentConfigRevision)
      (hruns : db'.runPins = db.runPins) (hactivations : db'.activationPins = db.activationPins)

section Moves

set_option synthInstance.maxSize 400000

variable {kernel : KernelContext} {principal : Principal} {context : PrincipalContext}
  {correlationId : String} {w w' w₁ w₂ : World} {result : CommandResult} {u : Unit}

theorem runPins_of_tables (h : w'.db.table Run = w.db.table Run) :
    w'.db.runPins = w.db.runPins := by
  rw [Database.runPins, h, Database.runPins]

theorem activationPins_of_tables
    (h : w'.db.table ActivationAttempt = w.db.table ActivationAttempt) :
    w'.db.activationPins = w.db.activationPins := by
  rw [Database.activationPins, h, Database.activationPins]

theorem updateAgentConfig_moves {command : UpdateAgentConfigCommand}
    (h : updateAgentConfig kernel command principal correlationId w = (.ok result, w')) :
    ConfigMove (.UpdateAgentConfig command) w.db w'.db := by
  simp only [updateAgentConfig, requireAgent, bind_eq_ok, requireKind_eq_ok, requireRow_eq_ok,
    now_eq_ok, insertRow_eq_ok, updateRows_eq_ok, pure_eq_ok] at h
  obtain ⟨_, _, ⟨-, rfl⟩, _, w₁, hpositive, agent, _, ⟨hagent, rfl⟩, _, w₂, hrevision, createdAt,
    _, ⟨-, rfl⟩, _, _, ⟨t, ht, rfl⟩, _, _, rfl, _, w₃, hemit, -, rfl⟩ := h
  have hread : SameDatabase w w₁ := Within.of_eq hpositive
  have hread' : SameDatabase w₁ w₂ := Within.of_eq hrevision
  have hdb : w₂.db = w.db := hread'.trans hread
  rw [hread] at hagent
  obtain ⟨hmem, hid⟩ := Table.find?_eq_some hagent
  have hid : agent.id = command.agentId := of_decide_eq_true hid
  have hquiet : SameConfig _ w₃ := Within.of_eq hemit
  obtain ⟨hagents, hrevisions, hruns, hactivations⟩ := hquiet
  rw [World.tick_db, hdb] at ht
  refine @ConfigMove.updated _ _ _ agent ⟨command.agentId, agent.currentConfigRevision + 1,
    command.config, createdAt⟩ hmem hid.symm rfl ?_ ?_ ?_ ?_
  · rw [hagents, hid]
    simp [World.store, Database.table_set_apart, Table.update, hdb]
  · rw [hrevisions]
    simp [World.store, Database.table_set_apart, Table.insert?_eq_some ht]
  · rw [hruns]
    exact runPins_of_tables (by simp [World.store, Database.table_set_apart, hdb])
  · rw [hactivations]
    exact activationPins_of_tables (by simp [World.store, Database.table_set_apart, hdb])

theorem runPins_update {p : Run → Bool} {f : Run → Run} (hkeys : KeepsKeys f)
    {g : RunPin → RunPin} (hpins : ∀ r, (if p r then f r else r).pin = g r.pin) (db : Database) :
    ((db.table Run).update p f hkeys).rows.map Run.pin = db.runPins.map g := by
  simp only [Database.runPins, Table.update, List.map_map]
  refine List.map_congr_left fun r _ => ?_
  exact hpins r

theorem adoptRunConfig_moves {command : AdoptRunConfigCommand}
    (h : adoptRunConfig kernel command principal correlationId w = (.ok result, w')) :
    ConfigMove (.AdoptRunConfig command) w.db w'.db := by
  simp only [adoptRunConfig, requireAgent, bind_eq_ok, requireKind_eq_ok, requireRow_eq_ok,
    checkRevision_eq_ok, throwIf_eq_ok, selectRow_eq_ok, now_eq_ok, updateRows_eq_ok,
    pure_eq_ok] at h
  obtain ⟨_, _, ⟨-, rfl⟩, _, w₁, hfirst, _, w₂, hsecond, _, w₃, hthird, run, _, hrun, agent, _,
    ⟨hagent, rfl⟩, _, _, ⟨hexpected, rfl⟩, _, _, ⟨hrange, rfl⟩, found, _, ⟨hfound, rfl⟩, _, _,
    ⟨hsome, rfl⟩, now, _, ⟨-, rfl⟩, _, _, rfl, _, w₄, hemit, -, rfl⟩ := h
  obtain ⟨hrunFound, -, -, rfl⟩ := requireMutableRun_eq_ok hrun
  have hread : SameDatabase w w₁ := Within.of_eq hfirst
  have hread' : SameDatabase w₁ w₂ := Within.of_eq hsecond
  have hread'' : SameDatabase w₂ w₃ := Within.of_eq hthird
  have hdb : w₃.db = w.db := hread''.trans (hread'.trans hread)
  rw [hdb] at hrunFound hagent hfound
  obtain ⟨hrunMem, hrunId⟩ := Table.find?_eq_some hrunFound
  obtain ⟨hagentMem, hagentId⟩ := Table.find?_eq_some hagent
  have hrunId : run.id = command.runId := of_decide_eq_true hrunId
  have hagentId : agent.id = run.ownerAgentId := of_decide_eq_true hagentId
  obtain ⟨target, rfl⟩ : ∃ target, found = some target :=
    Option.ne_none_iff_exists'.mp (by simpa using hsome)
  obtain ⟨htargetMem, htarget⟩ := Table.find?_eq_some hfound
  obtain ⟨htargetOf, htargetRevision⟩ :
      target.agentId = agent.id ∧ target.revision = command.targetAgentConfigRevision.toNat := by
    simpa using htarget
  obtain ⟨hagents, hrevisions, hruns, hactivations⟩ : SameConfig _ w₄ := Within.of_eq hemit
  refine .adopted rfl hrunMem hrunId hagentMem hagentId htargetMem htargetOf ?_ ?_ ?_ ?_ ?_ ?_
  · omega
  · omega
  · rw [hagents]
    simp [World.store, Database.table_set_apart, hdb]
  · rw [hrevisions]
    simp [World.store, Database.table_set_apart, hdb]
  · rw [hruns, hrunId]
    simp only [World.store, Database.runPins, Database.table_set_same, World.tick_db, hdb]
    refine runPins_update _ (fun r => ?_) w.db
    by_cases hr : r.id = command.runId
    · simp [hr, Run.pin, htargetRevision]
    · simp [hr, Run.pin]
  · rw [hactivations]
    exact activationPins_of_tables (by simp [World.store, Database.table_set_apart, hdb])

theorem decidingAgent_mem {command : AttentionDecision} {decision : AttentionDecisionContext}
    (h : requireAttentionDecisionContext kernel command principal context w =
      (.ok decision, w')) : decision.agent ∈ w.db.table Agent := by
  simp only [requireAttentionDecisionContext, requireAgentForPrincipal, bind_eq_ok,
    requireKind_eq_ok, requireRow_eq_ok, pure_eq_ok] at h
  obtain ⟨_, _, ⟨-, rfl⟩, agent, _, ⟨hagent, rfl⟩, attention, _, -, _, _, -, _, _, -, _, _, -, _, _,
    -, _, _, -, activation, _, -, _, _, -, _, _, -, rfl, -⟩ := h
  exact (Table.find?_eq_some hagent).1

/-- A new Run is pinned to the current revision of the Agent that decided the Attention. -/
theorem resolveAttentionWithRun_moves {command : ResolveAttentionWithRunCommand}
    (h : resolveAttentionWithRun kernel command principal context correlationId w =
      (.ok result, w')) :
    ConfigMove (.ResolveAttentionWithRun command) w.db w'.db := by
  simp only [resolveAttentionWithRun, bind_eq_ok, newId_eq_ok, now_eq_ok, requireRun_eq_ok,
    insertRow_eq_ok, pure_eq_ok] at h
  obtain ⟨decision, w₁, hdecision, admission, w₂, hadmission, runId, _, ⟨-, rfl⟩, now, _,
    ⟨-, rfl⟩, _, _, ⟨t, ht, rfl⟩, run, _, ⟨hrun, rfl⟩, position, w₄, hinput, _, w₅, hfinish, _, w₆,
    hupdate, _, w₇, hdecide, cursor, w₈, hemit, _, w₉, hrecord, _, w₁₀, hwake, -, rfl⟩ := h
  have hread : SameDatabase w w₁ := Within.of_eq hdecision
  have hadmitted : SameDatabase w₁ w₂ := Within.of_eq hadmission
  have hdb : w₂.db = w.db := hadmitted.trans hread
  have hafter : SameConfig _ w₁₀ := trans_of SameConfig (Within.of_eq hinput)
    (trans_of SameConfig (Within.of_eq hfinish) (trans_of SameConfig (Within.of_eq hupdate)
      (trans_of SameConfig (Within.of_eq hdecide) (trans_of SameConfig (Within.of_eq hemit)
        (trans_of SameConfig (Within.of_eq hrecord) (Within.of_eq hwake))))))
  obtain ⟨hagents, hrevisions, hruns, hactivations⟩ := hafter
  simp only [World.tick_db, World.issue_db, hdb] at ht
  refine @ConfigMove.created _ _ _
    ⟨runId, decision.agent.id, decision.agent.currentConfigRevision⟩ decision.agent
    (decidingAgent_mem hdecision) rfl rfl ?_ ?_ ?_ ?_
  · rw [hagents]
    simp [World.store, Database.table_set_apart, hdb]
  · rw [hrevisions]
    simp [World.store, Database.table_set_apart, hdb]
  · rw [hruns]
    simp only [World.store, Database.runPins, Database.table_set_same, Table.insert?_eq_some ht,
      List.map_append, List.map_cons, List.map_nil]
    rfl
  · rw [hactivations]
    exact activationPins_of_tables (by simp [World.store, Database.table_set_apart, hdb])

theorem insertActivation_moves {r : ActivationAttempt} (h : insertActivation r w = (.ok u, w')) :
    (∀ old ∈ w.db.activationPins, old.id ≠ r.id) ∧
      w'.db.table Agent = w.db.table Agent ∧
      w'.db.table AgentConfigRevision = w.db.table AgentConfigRevision ∧
      w'.db.runPins = w.db.runPins ∧
      w'.db.activationPins = w.db.activationPins ++ [r.pin] := by
  simp only [insertActivation, bind_eq_ok, insertRow_eq_ok] at h
  obtain ⟨_, _, ⟨t, ht, rfl⟩, htriggers⟩ := h
  obtain ⟨hagents, hrevisions, hruns, hactivations⟩ : SameConfig _ w' := Within.of_eq htriggers
  refine ⟨fun old hold => ?_, ?_, ?_, ?_, ?_⟩
  · obtain ⟨x, hx, rfl⟩ := List.mem_map.mp hold
    intro hid
    have hid : x.id = r.id := hid
    exact Table.not_mem_keys_of_insert? ht hx (k := primaryKey [.text x.id])
      (by simp [Keyed.keys]) (by simp [Keyed.keys, hid])
  · rw [hagents]
    simp [World.store, Database.table_set_apart]
  · rw [hrevisions]
    simp [World.store, Database.table_set_apart]
  · rw [hruns]
    exact runPins_of_tables (by simp [World.store, Database.table_set_apart])
  · rw [hactivations]
    simp [World.store, Database.activationPins, Database.table_set_same,
      Table.insert?_eq_some ht]

/-- The new Activation is recorded with what was found out about it. -/
theorem createActivation_moves {command : KernelCommand} {new : NewActivation}
    (hbefore : SameConfig w w₁)
    (hstarts : ∀ id, ActivationPin.StartsWith w.db
      ⟨id, new.agentId, new.runId, new.attentionId, new.configRevision⟩)
    (h : createActivation kernel new principal correlationId w₁ = (.ok result, w')) :
    ConfigMove command w.db w'.db := by
  simp only [createActivation, bind_eq_ok, newId_eq_ok, selectRows_eq_ok, pure_eq_ok] at h
  obtain ⟨activationId, _, ⟨-, rfl⟩, _, w₂, hinsert, inputs, _, ⟨-, rfl⟩, _, w₃, hinputs, _, w₄,
    hemit, -, rfl⟩ := h
  obtain ⟨hnew, hagents, hrevisions, hruns, hactivations⟩ := insertActivation_moves hinsert
  have hafter : SameConfig w₂ w₄ := trans_of SameConfig (Within.of_eq hinputs)
    (Within.of_eq hemit)
  have hissue : SameConfig w w₁.issue :=
    ⟨hbefore.agents, hbefore.revisions, hbefore.runs, hbefore.activations⟩
  rw [hissue.activations] at hnew hactivations
  exact .started (hstarts activationId) hnew (hafter.agents.trans (hagents.trans hissue.agents))
    (hafter.revisions.trans (hrevisions.trans hissue.revisions))
    (hafter.runs.trans (hruns.trans hissue.runs)) (hafter.activations.trans hactivations)

theorem startRunActivation_moves {command : StartActivationCommand} {runId : String}
    {now expiresAt : Timestamp}
    (h : startRunActivation kernel command runId now expiresAt principal correlationId w =
      (.ok result, w')) : ConfigMove (.StartActivation command) w.db w'.db := by
  simp only [startRunActivation, requireAgent, bind_eq_ok, throwIf_eq_ok, requireRow_eq_ok] at h
  obtain ⟨_, _, ⟨-, rfl⟩, run, _, hrun, authority, w₁, hauthority, agent, _, ⟨hagent, rfl⟩, _,
    w₂, hrevoke, revision, w₃, hactivate, hcreate⟩ := h
  obtain ⟨hfound, -, -, rfl⟩ := requireMutableRun_eq_ok hrun
  have hbefore : SameConfig w w₃ := trans_of SameConfig (Within.of_eq hauthority)
    (trans_of SameConfig (Within.of_eq hrevoke) (Within.of_eq hactivate))
  obtain ⟨hmem, hid⟩ := Table.find?_eq_some hfound
  have hid : run.id = runId := of_decide_eq_true hid
  have howner : agent.id = run.ownerAgentId :=
    of_decide_eq_true (Table.find?_eq_some hagent).2
  exact createActivation_moves hbefore (fun _ => .run hmem (congrArg some hid.symm) howner rfl)
    hcreate

theorem startAttentionActivation_moves {command : StartActivationCommand} {attentionId : String}
    {now expiresAt : Timestamp}
    (h : startAttentionActivation kernel command attentionId now expiresAt principal correlationId
      w = (.ok result, w')) : ConfigMove (.StartActivation command) w.db w'.db := by
  simp only [startAttentionActivation, requireAttention, bind_eq_ok, requireRow_eq_ok,
    throwIf_eq_ok, require_eq_ok, selectRow_eq_ok] at h
  obtain ⟨attention, _, ⟨hattention, rfl⟩, _, _, ⟨-, rfl⟩, _, w₂, hlease, expiry, _, ⟨-, rfl⟩,
    existing, _, ⟨-, rfl⟩, hend⟩ := h
  have hread : SameDatabase w w₂ := Within.of_eq hlease
  have hbefore : SameConfig w w₂ := Within.of_eq hlease
  cases existing with
  | none =>
      obtain ⟨agent, _, hagent, hcreate⟩ := bind_eq_ok.mp hend
      obtain ⟨hfound, rfl⟩ := requireRow_eq_ok.mp hagent
      rw [hread] at hfound
      obtain ⟨hmem, hid⟩ := Table.find?_eq_some hattention
      obtain ⟨hagentMem, htarget⟩ := Table.find?_eq_some hfound
      have hid : attention.id = attentionId := of_decide_eq_true hid
      have htarget : agent.id = attention.targetAgentId := of_decide_eq_true htarget
      exact createActivation_moves hbefore
        (fun _ => .attention hmem hagentMem rfl (congrArg some hid.symm) htarget rfl rfl) hcreate
  | some existing =>
      obtain ⟨-, rfl⟩ := pure_eq_ok.mp hend
      exact .quiet hbefore.agents hbefore.revisions hbefore.runs hbefore.activations

theorem startActivation_moves {command : StartActivationCommand}
    (h : startActivation kernel command principal correlationId w = (.ok result, w')) :
    ConfigMove (.StartActivation command) w.db w'.db := by
  simp only [startActivation, bind_eq_ok, requireKind_eq_ok, throwIf_eq_ok, readClock_eq_ok] at h
  obtain ⟨_, _, ⟨-, rfl⟩, _, _, ⟨-, rfl⟩, durationMs, w₁, hduration, now, _, ⟨-, rfl⟩, hend⟩ := h
  have hread : SameDatabase w w₁ := Within.of_eq hduration
  split at hend
  · have hmove := startRunActivation_moves hend
    rw [World.tick_db, hread] at hmove
    exact hmove
  · have hmove := startAttentionActivation_moves hend
    rw [World.tick_db, hread] at hmove
    exact hmove

theorem dispatchCommand_moves {command : KernelCommand} (hmoves : command.movesConfig = true)
    (h : dispatchCommand kernel command context principal correlationId w = (.ok result, w')) :
    ConfigMove command w.db w'.db := by
  cases command with
  | UpdateAgentConfig => exact updateAgentConfig_moves h
  | AdoptRunConfig => exact adoptRunConfig_moves h
  | ResolveAttentionWithRun => exact resolveAttentionWithRun_moves h
  | StartActivation => exact startActivation_moves h
  | _ => cases hmoves

theorem KernelCommand.movesConfig_apart {command : KernelCommand}
    (h : command.movesConfig = true) : command.aboutWorktrees = false := by
  cases command <;> first | rfl | cases h

theorem ConfigMove.of_same {command : KernelCommand} (hbefore : SameConfig w w₁)
    (hmove : ConfigMove command w₁.db w'.db)
    (hrun : ∀ r ∈ w₁.db.table Run, r ∈ w.db.table Run)
    (hattention : ∀ r ∈ w₁.db.table Attention, r ∈ w.db.table Attention)
    (hafter : SameConfig w' w₂) : ConfigMove command w.db w₂.db := by
  obtain ⟨hagents, hrevisions, hruns, hactivations⟩ := hbefore
  obtain ⟨hagents', hrevisions', hruns', hactivations'⟩ := hafter
  cases hmove with
  | updated hagent hof hnext ha hr hrn hac =>
      rw [hagents] at hagent
      exact .updated hagent hof hnext (by rw [hagents', ha, hagents])
        (by rw [hrevisions', hr, hrevisions]) (by rw [hruns', hrn, hruns])
        (by rw [hactivations', hac, hactivations])
  | adopted hcommand hmem hid hagent howner htarget hof hnewer hcurrent ha hr hrn hac =>
      rw [hagents] at hagent
      rw [hrevisions] at htarget
      exact .adopted hcommand (hrun _ hmem) hid hagent howner htarget hof hnewer hcurrent
        (by rw [hagents', ha, hagents]) (by rw [hrevisions', hr, hrevisions])
        (by rw [hruns', hrn, hruns]) (by rw [hactivations', hac, hactivations])
  | created hagent howner hcurrent ha hr hrn hac =>
      rw [hagents] at hagent
      exact .created hagent howner hcurrent (by rw [hagents', ha, hagents])
        (by rw [hrevisions', hr, hrevisions]) (by rw [hruns', hrn, hruns])
        (by rw [hactivations', hac, hactivations])
  | started hstarts hnew ha hr hrn hac =>
      rw [hactivations] at hnew
      refine .started ?_ hnew (by rw [hagents', ha, hagents]) (by rw [hrevisions', hr, hrevisions])
        (by rw [hruns', hrn, hruns]) (by rw [hactivations', hac, hactivations])
      cases hstarts with
      | run hmem hof howner hpinned => exact .run (hrun _ hmem) hof howner hpinned
      | attention hmem hagent hnone hof htarget howner hcurrent =>
          rw [hagents] at hagent
          exact .attention (hattention _ hmem) hagent hnone hof htarget howner hcurrent
  | quiet ha hr hrn hac =>
      exact .quiet (by rw [hagents', ha, hagents]) (by rw [hrevisions', hr, hrevisions])
        (by rw [hruns', hrn, hruns]) (by rw [hactivations', hac, hactivations])

/-- A call changes nothing about configurations, or executes a command that makes one move. -/
theorem step_configs (kernel : KernelContext) (call : KernelCall) (w : World) :
    SameConfig w (step kernel call w) ∨
      ∃ issued, call.issued = some issued ∧
        ConfigMove issued.command w.db (step kernel call w).db := by
  by_cases hmoves : ∃ issued, call.issued = some issued ∧ issued.command.movesConfig = true
  · obtain ⟨⟨command, context, operationContext⟩, hissued, hmoves⟩ := hmoves
    have hplain := dispatchCommand_plain kernel (KernelCommand.movesConfig_apart hmoves)
    obtain hsame | ⟨principal, correlationId, dispatched, w₁, w₂, -, hbefore, htables, hdispatch,
      hafter⟩ := step_outcome kernel SameConfig hissued w
    · exact .inl hsame
    · refine .inr ⟨_, hissued, .of_same hbefore (dispatchCommand_moves hmoves hdispatch) ?_ ?_
        hafter⟩
      · rw [htables.table_eq Run (by decide)]
        exact fun r hr => hr
      · rw [htables.table_eq Attention (by decide)]
        exact fun r hr => hr
  · refine .inl (step_within kernel call w fun issued principal hissued _ => ?_)
    have hquiet : issued.command.movesConfig = false :=
      Bool.eq_false_iff.mpr fun h => hmoves ⟨issued, hissued, h⟩
    have hdispatch := dispatchCommand_sameConfig kernel hquiet
    infer_instance

end Moves

end Torsor.Kernel
