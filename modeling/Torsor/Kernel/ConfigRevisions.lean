import Mathlib.Data.List.Range
import Torsor.Kernel.ConfigPinning

/-! # Configuration revisions over a run

The revisions of an Agent start with the one of its bootstrap and grow by one at a time. A
Run is always pinned to one of them that is not above the current one, and an Activation
keeps the revision it was started with.
-/

namespace Torsor.Kernel
open Torsor.Library Tx

/-- The config revisions of an Agent, in the order they were created. -/
def Database.configRevisions (db : Database) (agentId : String) : List Nat :=
  ((db.table AgentConfigRevision).filter fun r => r.agentId = agentId).map (·.revision)

/-- The bootstrap lists the Agent with this config revision only. -/
def KernelBootstrap.Lists (bootstrap : KernelBootstrap) (agentId : String) (revision : Nat) :
    Prop :=
  ∀ entry ∈ bootstrap.agents, entry.id = agentId → entry.configRevision = revision

/-- The revisions of an Agent are those from its bootstrap to the current one, if the
bootstrap lists it with one only. -/
def AgentRevisions (bootstrap : KernelBootstrap) (db : Database) (agent : Agent) : Prop :=
  ∃ entry ∈ bootstrap.agents, entry.id = agent.id ∧
    entry.configRevision ≤ agent.currentConfigRevision ∧
    (bootstrap.Lists agent.id entry.configRevision →
      db.configRevisions agent.id = List.range' entry.configRevision
        (agent.currentConfigRevision + 1 - entry.configRevision))

/-- The Run with this pin has a revision that its owner has. -/
def RunPin.Exists (db : Database) (pin : RunPin) : Prop :=
  ∃ agent ∈ db.table Agent, agent.id = pin.ownerAgentId ∧
    pin.agentConfigRevision ∈ db.configRevisions agent.id ∧
    pin.agentConfigRevision ≤ agent.currentConfigRevision

structure ConfigInv (bootstrap : KernelBootstrap) (db : Database) : Prop where
  revisions : ∀ agent ∈ db.table Agent, AgentRevisions bootstrap db agent
  current : ∀ agent ∈ db.table Agent,
    agent.currentConfigRevision ∈ db.configRevisions agent.id
  pins : ∀ pin ∈ db.runPins, pin.Exists db

/-! ## One move -/

section Moves

variable {bootstrap : KernelBootstrap} {db db' : Database} {command : KernelCommand}

theorem mem_configRevisions {r : AgentConfigRevision} (h : r ∈ db.table AgentConfigRevision) :
    r.revision ∈ db.configRevisions r.agentId :=
  List.mem_map_of_mem (Table.mem_filter.mpr ⟨h, by simp⟩)

theorem configRevisions_append {revision : AgentConfigRevision}
    (h : (db'.table AgentConfigRevision).rows =
      (db.table AgentConfigRevision).rows ++ [revision]) (agentId : String) :
    db'.configRevisions agentId =
      db.configRevisions agentId ++ if revision.agentId = agentId then [revision.revision] else [] := by
  by_cases hof : revision.agentId = agentId
  · simp [Database.configRevisions, Table.filter, h, hof]
  · simp [Database.configRevisions, Table.filter, h, hof]

theorem configRevisions_of_table
    (h : db'.table AgentConfigRevision = db.table AgentConfigRevision) (agentId : String) :
    db'.configRevisions agentId = db.configRevisions agentId := by
  rw [Database.configRevisions, h, Database.configRevisions]

theorem RunPin.Exists.of_tables {pin : RunPin} (hpin : pin.Exists db)
    (hagents : db'.table Agent = db.table Agent)
    (hrevisions : db'.table AgentConfigRevision = db.table AgentConfigRevision) :
    pin.Exists db' := by
  obtain ⟨agent, hagent, howner, hmem, hle⟩ := hpin
  refine ⟨agent, ?_, howner, ?_, hle⟩
  · rw [hagents]
    exact hagent
  · rw [configRevisions_of_table hrevisions]
    exact hmem

/-- While Agents and revisions stay, only the pins have to be looked at. -/
theorem ConfigInv.of_tables (hinv : ConfigInv bootstrap db)
    (hagents : db'.table Agent = db.table Agent)
    (hrevisions : db'.table AgentConfigRevision = db.table AgentConfigRevision)
    (hpins : ∀ pin ∈ db'.runPins, pin.Exists db) : ConfigInv bootstrap db' := by
  refine ⟨fun agent hagent => ?_, fun agent hagent => ?_, fun pin hpin => ?_⟩
  · rw [hagents] at hagent
    obtain ⟨entry, hentry, hid, hle, hrange⟩ := hinv.revisions agent hagent
    refine ⟨entry, hentry, hid, hle, fun hlists => ?_⟩
    rw [configRevisions_of_table hrevisions]
    exact hrange hlists
  · rw [hagents] at hagent
    rw [configRevisions_of_table hrevisions]
    exact hinv.current agent hagent
  · exact (hpins pin hpin).of_tables hagents hrevisions

/-- A new revision extends the range of its Agent by one. -/
theorem AgentRevisions.update {agent : Agent} (h : AgentRevisions bootstrap db agent)
    (hnext : db'.configRevisions agent.id =
      db.configRevisions agent.id ++ [agent.currentConfigRevision + 1]) :
    AgentRevisions bootstrap db'
      { agent with currentConfigRevision := agent.currentConfigRevision + 1 } := by
  obtain ⟨entry, hentry, hid, hle, hrange⟩ := h
  refine ⟨entry, hentry, hid, Nat.le_succ_of_le hle, fun hlists => ?_⟩
  show db'.configRevisions agent.id = _
  have hlength : agent.currentConfigRevision + 1 + 1 - entry.configRevision =
      agent.currentConfigRevision + 1 - entry.configRevision + 1 := by omega
  have hlast : entry.configRevision + (agent.currentConfigRevision + 1 - entry.configRevision) =
      agent.currentConfigRevision + 1 := by omega
  rw [hnext, hrange hlists]
  dsimp only
  rw [hlength, List.range'_1_concat, hlast]

theorem ConfigInv.updated (hinv : ConfigInv bootstrap db) {agent : Agent}
    {revision : AgentConfigRevision} (hagent : agent ∈ db.table Agent)
    (hof : revision.agentId = agent.id)
    (hnext : revision.revision = agent.currentConfigRevision + 1)
    (hagents : (db'.table Agent).rows = (db.table Agent).rows.map fun r =>
      if r.id = agent.id then { r with currentConfigRevision := revision.revision } else r)
    (hrevisions : (db'.table AgentConfigRevision).rows =
      (db.table AgentConfigRevision).rows ++ [revision])
    (hruns : db'.runPins = db.runPins) : ConfigInv bootstrap db' := by
  -- an Agent afterwards is the updated one or an Agent before, and its revisions are known
  have hafter : ∀ r' ∈ db'.table Agent, (r' = { agent with
        currentConfigRevision := agent.currentConfigRevision + 1 } ∧
      db'.configRevisions r'.id =
        db.configRevisions agent.id ++ [agent.currentConfigRevision + 1]) ∨
      (r' ∈ db.table Agent ∧ db'.configRevisions r'.id = db.configRevisions r'.id) := by
    intro r' hr'
    rw [← Table.mem_rows, hagents] at hr'
    obtain ⟨r, hr, rfl⟩ := List.mem_map.mp hr'
    by_cases hid : r.id = agent.id
    · have hsame : r = agent := Table.eq_of_key hr hagent (k := primaryKey [.text r.id])
        (by simp [Keyed.keys]) (by simp [Keyed.keys, hid])
      subst hsame
      refine .inl ⟨by simp [hnext], ?_⟩
      rw [if_pos rfl, configRevisions_append hrevisions, hof, if_pos rfl, hnext]
    · rw [if_neg hid]
      refine .inr ⟨hr, ?_⟩
      rw [configRevisions_append hrevisions, if_neg, List.append_nil]
      rw [hof]
      exact fun h => hid h.symm
  refine ⟨fun r' hr' => ?_, fun r' hr' => ?_, fun pin hpin => ?_⟩
  · obtain ⟨rfl, hrev⟩ | ⟨hr, hrev⟩ := hafter r' hr'
    · exact (hinv.revisions agent hagent).update hrev
    · obtain ⟨entry, hentry, hid, hle, hrange⟩ := hinv.revisions r' hr
      exact ⟨entry, hentry, hid, hle, fun hlists => hrev.trans (hrange hlists)⟩
  · obtain ⟨rfl, hrev⟩ | ⟨hr, hrev⟩ := hafter r' hr'
    · rw [hrev]
      simp
    · rw [hrev]
      exact hinv.current r' hr
  · rw [hruns] at hpin
    obtain ⟨owner, howner, hid, hmem, hle⟩ := hinv.pins pin hpin
    have hstays : ∀ n ∈ db.configRevisions owner.id, n ∈ db'.configRevisions owner.id := by
      intro n hn
      rw [configRevisions_append hrevisions]
      exact List.mem_append_left _ hn
    refine ⟨if owner.id = agent.id then { owner with currentConfigRevision := revision.revision }
      else owner, ?_, ?_⟩
    · rw [← Table.mem_rows, hagents]
      exact List.mem_map_of_mem howner
    · by_cases hsame : owner.id = agent.id
      · have heq : owner = agent := Table.eq_of_key howner hagent
          (k := primaryKey [.text owner.id]) (by simp [Keyed.keys]) (by simp [Keyed.keys, hsame])
        subst heq
        rw [if_pos rfl]
        refine ⟨hid, hstays _ hmem, ?_⟩
        show _ ≤ revision.revision
        omega
      · rw [if_neg hsame]
        exact ⟨hid, hstays _ hmem, hle⟩

/-- The pin with the id of a Run is the pin of that Run. -/
theorem runPin_of_id {run : Run} {pin : RunPin} (hrun : run ∈ db.table Run)
    (hpin : pin ∈ db.runPins) (hid : pin.id = run.id) : pin = run.pin := by
  obtain ⟨r, hr, rfl⟩ := List.mem_map.mp hpin
  have hid : r.id = run.id := hid
  have hsame : r = run := Table.eq_of_key hr hrun (k := primaryKey [.text r.id])
    (by simp [Keyed.keys]) (by simp [Keyed.keys, hid])
  rw [hsame]

/-- Every move keeps the invariant. -/
theorem ConfigMove.inv (hmove : ConfigMove command db db') (hinv : ConfigInv bootstrap db) :
    ConfigInv bootstrap db' := by
  cases hmove with
  | updated hagent hof hnext hagents hrevisions hruns _ =>
      exact hinv.updated hagent hof hnext hagents hrevisions hruns
  | @adopted adoption run agent target _ hrun hid hagent howner htarget hof _ hcurrent hagents
      hrevisions hruns _ =>
      refine hinv.of_tables hagents hrevisions fun pin hpin => ?_
      rw [hruns] at hpin
      obtain ⟨old, hold, rfl⟩ := List.mem_map.mp hpin
      by_cases hsame : old.id = run.id
      · obtain rfl := runPin_of_id hrun hold hsame
        rw [if_pos hsame]
        refine ⟨agent, hagent, howner, ?_, hcurrent⟩
        rw [← hof]
        exact mem_configRevisions htarget
      · rw [if_neg hsame]
        exact hinv.pins old hold
  | @created pin agent hagent howner hcurrent hagents hrevisions hruns _ =>
      refine hinv.of_tables hagents hrevisions fun pin' hpin => ?_
      rw [hruns] at hpin
      obtain hold | hnew := List.mem_append.mp hpin
      · exact hinv.pins pin' hold
      · obtain rfl := List.mem_singleton.mp hnew
        refine ⟨agent, hagent, howner.symm, ?_, hcurrent.le⟩
        rw [hcurrent]
        exact hinv.current agent hagent
  | started _ _ hagents hrevisions hruns _ =>
      refine hinv.of_tables hagents hrevisions fun pin hpin => ?_
      rw [hruns] at hpin
      exact hinv.pins pin hpin
  | quiet hagents hrevisions hruns _ =>
      refine hinv.of_tables hagents hrevisions fun pin hpin => ?_
      rw [hruns] at hpin
      exact hinv.pins pin hpin

theorem ConfigMove.revisions_kept (hmove : ConfigMove command db db')
    {r : AgentConfigRevision} (hr : r ∈ db.table AgentConfigRevision) :
    r ∈ db'.table AgentConfigRevision := by
  cases hmove with
  | updated _ _ _ _ hrevisions _ _ =>
      rw [← Table.mem_rows, hrevisions]
      exact List.mem_append_left _ hr
  | adopted _ _ _ _ _ _ _ _ _ _ hrevisions _ _ => rwa [hrevisions]
  | created _ _ _ _ hrevisions _ _ => rwa [hrevisions]
  | started _ _ _ hrevisions _ _ => rwa [hrevisions]
  | quiet _ hrevisions _ _ => rwa [hrevisions]

theorem ConfigMove.activations_kept (hmove : ConfigMove command db db') {pin : ActivationPin}
    (hpin : pin ∈ db.activationPins) : pin ∈ db'.activationPins := by
  cases hmove with
  | updated _ _ _ _ _ _ hactivations => rwa [hactivations]
  | adopted _ _ _ _ _ _ _ _ _ _ _ _ hactivations => rwa [hactivations]
  | created _ _ _ _ _ _ hactivations => rwa [hactivations]
  | started _ _ _ _ _ hactivations =>
      rw [hactivations]
      exact List.mem_append_left _ hpin
  | quiet _ _ _ hactivations => rwa [hactivations]

/-- An Activation that was not there before was started by this move. -/
theorem ConfigMove.activations_new (hmove : ConfigMove command db db') {pin : ActivationPin}
    (hpin : pin ∈ db'.activationPins) :
    pin ∈ db.activationPins ∨
      (∀ old ∈ db.activationPins, old.id ≠ pin.id) ∧ pin.StartsWith db := by
  cases hmove with
  | updated _ _ _ _ _ _ hactivations => exact .inl (hactivations ▸ hpin)
  | adopted _ _ _ _ _ _ _ _ _ _ _ _ hactivations => exact .inl (hactivations ▸ hpin)
  | created _ _ _ _ _ _ hactivations => exact .inl (hactivations ▸ hpin)
  | started hstarts hnew _ _ _ hactivations =>
      rw [hactivations] at hpin
      obtain hold | hadded := List.mem_append.mp hpin
      · exact .inl hold
      · obtain rfl := List.mem_singleton.mp hadded
        exact .inr ⟨hnew, hstarts⟩
  | quiet _ _ _ hactivations => exact .inl (hactivations ▸ hpin)

/-- `pin'` is the pin a command leaves where `pin` was. -/
structure RunPin.Moves (command : Option KernelCommand) (pin pin' : RunPin) : Prop where
  id : pin'.id = pin.id
  owner : pin'.ownerAgentId = pin.ownerAgentId
  grows : pin.agentConfigRevision ≤ pin'.agentConfigRevision
  adopted : pin'.agentConfigRevision ≠ pin.agentConfigRevision →
    ∃ adoption : AdoptRunConfigCommand,
      command = some (.AdoptRunConfig adoption) ∧ adoption.runId = pin.id

theorem RunPin.Moves.refl (command : Option KernelCommand) (pin : RunPin) :
    pin.Moves command pin := by
  refine ⟨rfl, rfl, le_rfl, fun h => ?_⟩
  exact absurd rfl h

theorem ConfigMove.pins_move (hmove : ConfigMove command db db') {pin : RunPin}
    (hpin : pin ∈ db.runPins) : ∃ pin' ∈ db'.runPins, pin.Moves (some command) pin' := by
  cases hmove with
  | updated _ _ _ _ _ hruns _ => exact ⟨pin, hruns ▸ hpin, .refl _ _⟩
  | @adopted adoption run agent target hcommand hrun hid _ _ _ _ hnewer _ _ _ hruns _ =>
      refine ⟨_, hruns ▸ List.mem_map_of_mem hpin, ?_⟩
      by_cases hsame : pin.id = run.id
      · obtain rfl := runPin_of_id hrun hpin hsame
        rw [if_pos hsame]
        exact ⟨rfl, rfl, hnewer.le, fun _ => ⟨adoption, by rw [hcommand], hid.symm⟩⟩
      · rw [if_neg hsame]
        exact .refl _ _
  | created _ _ _ _ _ hruns _ =>
      refine ⟨pin, ?_, .refl _ _⟩
      rw [hruns]
      exact List.mem_append_left _ hpin
  | started _ _ _ _ hruns _ => exact ⟨pin, hruns ▸ hpin, .refl _ _⟩
  | quiet _ _ hruns _ => exact ⟨pin, hruns ▸ hpin, .refl _ _⟩

end Moves

/-! ## One call -/

section Calls

variable {kernel : KernelContext} {bootstrap : KernelBootstrap} {w w' w₀ : World}

theorem ConfigInv.step (hinv : ConfigInv bootstrap w.db) (call : KernelCall) :
    ConfigInv bootstrap (step kernel call w).db := by
  obtain hsame | ⟨issued, -, hmove⟩ := step_configs kernel call w
  · refine hinv.of_tables hsame.agents hsame.revisions fun pin hpin => ?_
    rw [hsame.runs] at hpin
    exact hinv.pins pin hpin
  · exact hmove.inv hinv

theorem ConfigInv.steps (hinv : ConfigInv bootstrap w.db) (hs : Steps kernel w w') :
    ConfigInv bootstrap w'.db :=
  hs.invariant (P := fun w => ConfigInv bootstrap w.db) hinv fun _ call ih => ih.step call

theorem revisions_kept (hs : Steps kernel w w') {r : AgentConfigRevision}
    (hr : r ∈ w.db.table AgentConfigRevision) : r ∈ w'.db.table AgentConfigRevision := by
  refine hs.invariant (P := fun w => r ∈ w.db.table AgentConfigRevision) hr fun w₁ call ih => ?_
  obtain hsame | ⟨issued, -, hmove⟩ := step_configs kernel call w₁
  · rw [hsame.revisions]
    exact ih
  · exact hmove.revisions_kept ih

theorem activationPins_kept (hs : Steps kernel w w') {pin : ActivationPin}
    (hpin : pin ∈ w.db.activationPins) : pin ∈ w'.db.activationPins := by
  refine hs.invariant (P := fun w => pin ∈ w.db.activationPins) hpin fun w₁ call ih => ?_
  obtain hsame | ⟨issued, -, hmove⟩ := step_configs kernel call w₁
  · rw [hsame.activations]
    exact ih
  · exact hmove.activations_kept ih

theorem runPins_move (call : KernelCall) {pin : RunPin} (hpin : pin ∈ w.db.runPins) :
    ∃ pin' ∈ (step kernel call w).db.runPins,
      pin.Moves (call.issued.map (·.command)) pin' := by
  obtain hsame | ⟨issued, hissued, hmove⟩ := step_configs kernel call w
  · exact ⟨pin, hsame.runs ▸ hpin, .refl _ _⟩
  · rw [hissued]
    exact hmove.pins_move hpin

/-- The Activation was started in some call of the run, with the revision it should have. -/
def StartedIn (kernel : KernelContext) (w₀ w : World) (pin : ActivationPin) : Prop :=
  ∃ w₁ call, Steps kernel w₀ w₁ ∧ Steps kernel (step kernel call w₁) w ∧
    (∀ old ∈ w₁.db.activationPins, old.id ≠ pin.id) ∧
    pin ∈ (step kernel call w₁).db.activationPins ∧ pin.StartsWith w₁.db

theorem activations_started (hopen : w₀.db.activationPins = []) (hs : Steps kernel w₀ w) :
    ∀ pin ∈ w.db.activationPins, StartedIn kernel w₀ w pin := by
  induction hs with
  | refl =>
      rw [hopen]
      simp
  | @tail w₁ _ hrun hcall ih =>
      obtain ⟨call, rfl⟩ := hcall
      intro pin hpin
      have hcases : pin ∈ w₁.db.activationPins ∨
          (∀ old ∈ w₁.db.activationPins, old.id ≠ pin.id) ∧ pin.StartsWith w₁.db := by
        obtain hsame | ⟨issued, -, hmove⟩ := step_configs kernel call w₁
        · rw [hsame.activations] at hpin
          exact .inl hpin
        · exact hmove.activations_new hpin
      cases hcases with
      | inl hold =>
          obtain ⟨w₂, before, hbefore, hafter, hnew, hstarted, hstarts⟩ := ih pin hold
          exact ⟨w₂, before, hbefore, hafter.tail ⟨call, rfl⟩, hnew, hstarted, hstarts⟩
      | inr hstarted =>
          exact ⟨w₁, call, hrun, .refl, hstarted.1, hpin, hstarted.2⟩

end Calls

/-! ## Opening -/

section Opening

variable {kernel : KernelContext} {bootstrap : KernelBootstrap} {w w' w₀ : World}

/-- The revision is one the bootstrap lists. -/
def AgentConfigRevision.From (bootstrap : KernelBootstrap) (r : AgentConfigRevision) : Prop :=
  ∃ entry ∈ bootstrap.agents, r.agentId = entry.id ∧ r.revision = entry.configRevision

/-- The Agent is one the bootstrap lists, and its revision is there. -/
def Agent.From (bootstrap : KernelBootstrap) (db : Database) (agent : Agent) : Prop :=
  ∃ entry ∈ bootstrap.agents, agent.id = entry.id ∧
    agent.currentConfigRevision = entry.configRevision ∧
    entry.configRevision ∈ db.configRevisions entry.id

/-- What listing some of the Agents of the bootstrap leaves. -/
structure Listed (bootstrap : KernelBootstrap) (db : Database) : Prop where
  agents : ∀ agent ∈ db.table Agent, agent.From bootstrap db
  revisions : ∀ r ∈ db.table AgentConfigRevision, r.From bootstrap
  runs : db.runPins = []
  activations : db.activationPins = []

theorem mem_insertOrIgnore {ρ : Type} [Keyed ρ UniqueKey] {t : Table ρ} {r x : ρ}
    (h : x ∈ (t.insert? r).getD t) : x ∈ t ∨ x = r := by
  cases hinsert : t.insert? r with
  | none =>
      rw [hinsert] at h
      exact .inl h
  | some u =>
      rw [hinsert] at h
      exact (Table.mem_insert? hinsert).mp h

theorem mem_insertOrIgnore_old {ρ : Type} [Keyed ρ UniqueKey] {t : Table ρ} {r x : ρ}
    (h : x ∈ t) : x ∈ (t.insert? r).getD t := by
  cases hinsert : t.insert? r with
  | none => exact h
  | some u => exact (Table.mem_insert? hinsert).mpr (.inl h)

/-- A revision that could not be inserted is there already. -/
theorem configRevision_insertOrIgnore {t : Table AgentConfigRevision} (r : AgentConfigRevision) :
    ∃ x ∈ (t.insert? r).getD t, x.agentId = r.agentId ∧ x.revision = r.revision := by
  cases hinsert : t.insert? r with
  | some u => exact ⟨r, (Table.mem_insert? hinsert).mpr (.inr rfl), rfl, rfl⟩
  | none =>
      unfold Table.insert? at hinsert
      split at hinsert
      · cases hinsert
      · rename_i htaken
        by_contra hnone
        apply htaken
        rw [List.flatMap_append, List.nodup_append]
        refine ⟨t.unique, by simp [Keyed.keys], fun k hk k' hk' hsame => hnone ?_⟩
        subst hsame
        obtain ⟨x, hx, hkx⟩ := List.mem_flatMap.mp hk
        simp only [List.flatMap_cons, List.flatMap_nil, List.append_nil, Keyed.keys,
          List.mem_singleton] at hk' hkx
        rw [hk', primaryKey, primaryKey] at hkx
        simp only [UniqueKey.mk.injEq, List.cons.injEq, Cell.text.injEq, Cell.integer.injEq,
          and_true, true_and] at hkx
        exact ⟨x, hx, hkx.1.symm, hkx.2.symm⟩

theorem Listed.of_same (h : Listed bootstrap w.db) (hsame : SameConfig w w') :
    Listed bootstrap w'.db := by
  refine ⟨fun agent hagent => ?_, fun r hr => ?_, hsame.runs.trans h.runs,
    hsame.activations.trans h.activations⟩
  · rw [hsame.agents] at hagent
    obtain ⟨entry, hentry, hid, hcurrent, hmem⟩ := h.agents agent hagent
    refine ⟨entry, hentry, hid, hcurrent, ?_⟩
    rw [configRevisions_of_table hsame.revisions]
    exact hmem
  · rw [hsame.revisions] at hr
    exact h.revisions r hr

/-- Listing one more Agent of the bootstrap. -/
theorem Listed.agent (h : Listed bootstrap w.db) {entry : BootstrapAgent}
    (hentry : entry ∈ bootstrap.agents) {u : Unit}
    (hrun : (do
      insertRowOrIgnore (⟨entry.id, entry.principalId, entry.projectId, entry.name,
        entry.configRevision⟩ : Agent)
      let createdAt ← kernel.now
      insertRowOrIgnore (⟨entry.id, entry.configRevision, entry.config, createdAt⟩ :
        AgentConfigRevision)) w = (.ok u, w')) :
    Listed bootstrap w'.db := by
  simp only [bind_eq_ok, insertRowOrIgnore_eq_ok, now_eq_ok] at hrun
  obtain ⟨_, _, rfl, createdAt, _, ⟨-, rfl⟩, rfl⟩ := hrun
  refine ⟨fun agent hagent => ?_, fun r hr => ?_, ?_, ?_⟩
  · have hagent : agent ∈ ((w.db.table Agent).insert? ⟨entry.id, entry.principalId,
        entry.projectId, entry.name, entry.configRevision⟩).getD (w.db.table Agent) := by
      simpa [World.store, Database.table_set_apart] using hagent
    obtain hold | rfl := mem_insertOrIgnore hagent
    · obtain ⟨listed, hlisted, hid, hcurrent, hmem⟩ := h.agents agent hold
      refine ⟨listed, hlisted, hid, hcurrent, ?_⟩
      obtain ⟨r, hr, hrevision⟩ := List.mem_map.mp hmem
      obtain ⟨hr, hof⟩ := Table.mem_filter.mp hr
      refine List.mem_map.mpr ⟨r, Table.mem_filter.mpr ⟨?_, hof⟩, hrevision⟩
      simpa [World.store, Database.table_set_apart] using mem_insertOrIgnore_old hr
    · obtain ⟨r, hr, hof, hrevision⟩ := configRevision_insertOrIgnore
        (t := w.db.table AgentConfigRevision) ⟨entry.id, entry.configRevision, entry.config,
          createdAt⟩
      refine ⟨entry, hentry, rfl, rfl, List.mem_map.mpr ⟨r, Table.mem_filter.mpr ⟨?_, ?_⟩, hrevision⟩⟩
      · simpa [World.store, Database.table_set_apart] using hr
      · exact decide_eq_true hof
  · have hr : r ∈ ((w.db.table AgentConfigRevision).insert? ⟨entry.id, entry.configRevision,
        entry.config, createdAt⟩).getD (w.db.table AgentConfigRevision) := by
      simpa [World.store, Database.table_set_apart] using hr
    obtain hold | rfl := mem_insertOrIgnore hr
    · exact h.revisions r hold
    · exact ⟨entry, hentry, rfl, rfl⟩
  · rw [runPins_of_tables (w := w) (by simp [World.store, Database.table_set_apart])]
    exact h.runs
  · rw [activationPins_of_tables (w := w) (by simp [World.store, Database.table_set_apart])]
    exact h.activations

theorem Listed.listAgents {entries : List BootstrapAgent} (hentries : entries ⊆ bootstrap.agents)
    (h : Listed bootstrap w.db) {u : Unit}
    (hrun : forEach entries (fun entry => do
      insertRowOrIgnore (⟨entry.id, entry.principalId, entry.projectId, entry.name,
        entry.configRevision⟩ : Agent)
      let createdAt ← kernel.now
      insertRowOrIgnore (⟨entry.id, entry.configRevision, entry.config, createdAt⟩ :
        AgentConfigRevision)) w = (.ok u, w')) :
    Listed bootstrap w'.db := by
  induction entries generalizing w with
  | nil =>
      obtain ⟨-, rfl⟩ := pure_eq_ok.mp hrun
      exact h
  | cons entry rest ih =>
      obtain ⟨_, w₁, hentry, hrest⟩ := bind_eq_ok.mp hrun
      have hfirst := h.agent (hentries List.mem_cons_self) hentry
      exact ih (fun x hx => hentries (List.mem_cons_of_mem _ hx)) hfirst hrest

theorem listed_blank : Listed bootstrap World.blank.db := by
  refine ⟨fun agent hagent => ?_, fun r hr => ?_, rfl, rfl⟩
  · exact absurd hagent (Table.not_mem_empty agent)
  · exact absurd hr (Table.not_mem_empty r)

set_option synthInstance.maxSize 400000 in
theorem initializeSchema_listed {causalLimits : CausalLimits} {u : Unit}
    (h : initializeSchema kernel causalLimits bootstrap World.blank = (.ok u, w₀)) :
    Listed bootstrap w₀.db := by
  simp only [initializeSchema, applyBootstrap] at h
  obtain ⟨_, w₁, hstate, h⟩ := bind_eq_ok.mp h
  obtain ⟨_, w₂, hlimits, h⟩ := bind_eq_ok.mp h
  obtain ⟨_, w₃, hcausal, h⟩ := bind_eq_ok.mp h
  obtain ⟨_, w₄, hprincipals, h⟩ := bind_eq_ok.mp h
  obtain ⟨_, w₅, hprojects, h⟩ := bind_eq_ok.mp h
  obtain ⟨_, w₆, hchannels, hagents⟩ := bind_eq_ok.mp h
  have hbefore : SameConfig World.blank w₆ := trans_of SameConfig (Within.of_eq hstate)
    (trans_of SameConfig (Within.of_eq hlimits) (trans_of SameConfig (Within.of_eq hcausal)
      (trans_of SameConfig (Within.of_eq hprincipals) (trans_of SameConfig
        (Within.of_eq hprojects) (Within.of_eq hchannels)))))
  exact (listed_blank.of_same hbefore).listAgents (List.Subset.refl _) hagents

/-- An Agent that is listed with one revision has that revision only. -/
theorem Listed.configRevisions {db : Database} (h : Listed bootstrap db) {agentId : String}
    {revision : Nat} (hlists : bootstrap.Lists agentId revision)
    (hmem : revision ∈ db.configRevisions agentId) : db.configRevisions agentId = [revision] := by
  obtain ⟨r, hr, rfl⟩ := List.mem_map.mp hmem
  obtain ⟨hr, hof⟩ := Table.mem_filter.mp hr
  have hof : r.agentId = agentId := of_decide_eq_true hof
  have hall : ∀ x ∈ db.table AgentConfigRevision,
      decide (x.agentId = agentId) = decide (x.agentId = agentId ∧ x.revision = r.revision) := by
    intro x hx
    obtain ⟨entry, hentry, hid, hrevision⟩ := h.revisions x hx
    apply decide_eq_decide.mpr
    constructor
    · intro hxof
      exact ⟨hxof, hrevision.trans (hlists entry hentry (hid.symm.trans hxof))⟩
    · exact fun hboth => hboth.1
  have hfilter : (db.table AgentConfigRevision).filter (fun x => x.agentId = agentId) = [r] := by
    calc (db.table AgentConfigRevision).filter (fun x => x.agentId = agentId)
        = (db.table AgentConfigRevision).filter
            (fun x => x.agentId = agentId ∧ x.revision = r.revision) := List.filter_congr hall
      _ = [r] := by
          refine Table.filter_of_mem hr (by simp [hof]) fun x hx => ?_
          obtain ⟨hxof, hrevision⟩ := of_decide_eq_true hx
          exact ⟨primaryKey [.text r.agentId, .integer r.revision],
            by simp [Keyed.keys, hxof, hof, hrevision], by simp [Keyed.keys]⟩
  rw [Database.configRevisions, hfilter]
  rfl

theorem Listed.inv {db : Database} (h : Listed bootstrap db) : ConfigInv bootstrap db := by
  refine ⟨fun agent hagent => ?_, fun agent hagent => ?_, ?_⟩
  · obtain ⟨entry, hentry, hid, hcurrent, hmem⟩ := h.agents agent hagent
    refine ⟨entry, hentry, hid.symm, hcurrent.ge, fun hlists => ?_⟩
    rw [hcurrent, Nat.add_sub_cancel_left, hid, h.configRevisions (hid ▸ hlists) hmem]
    rfl
  · obtain ⟨entry, hentry, hid, hcurrent, hmem⟩ := h.agents agent hagent
    rw [hid, hcurrent]
    exact hmem
  · rw [h.runs]
    simp

end Opening

/-! ## Every reachable state -/

/-- What holds of configurations in a state `w` that is reached from the opening `w₀`. -/
structure ConfigPinned (kernel : KernelContext) (bootstrap : KernelBootstrap) (w₀ w : World) :
    Prop where
  /-- The revisions of every Agent are contiguous from its bootstrap to the current one. -/
  contiguous : ∀ agent ∈ w.db.table Agent, AgentRevisions bootstrap w.db agent
  /-- Existing revisions never change. -/
  unchanged : ∀ w', Steps kernel w w' → ∀ r ∈ w.db.table AgentConfigRevision,
    r ∈ w'.db.table AgentConfigRevision ∧
    ∀ r' ∈ w'.db.table AgentConfigRevision,
      r'.agentId = r.agentId → r'.revision = r.revision → r' = r
  /-- Every Run has an existing revision of its owner, at most the current one. -/
  existing : ∀ run ∈ w.db.table Run, ∃ agent ∈ w.db.table Agent,
    agent.id = run.ownerAgentId ∧ run.agentConfigRevision ∈ w.db.configRevisions agent.id ∧
    run.agentConfigRevision ≤ agent.currentConfigRevision
  /-- It never decreases and changes only when the Run adopts a configuration. -/
  adopted : ∀ call, ∀ run ∈ w.db.table Run, ∃ run' ∈ (step kernel call w).db.table Run,
    run.pin.Moves (call.issued.map (·.command)) run'.pin
  /-- Every Activation was started with the revision it has. -/
  started : ∀ activation ∈ w.db.table ActivationAttempt, StartedIn kernel w₀ w activation.pin
  /-- What an Activation was started with never changes. -/
  kept : ∀ w', Steps kernel w w' → ∀ activation ∈ w.db.table ActivationAttempt,
    ∀ activation' ∈ w'.db.table ActivationAttempt, activation'.id = activation.id →
      activation'.pin = activation.pin

section Pinned

variable {kernel : KernelContext} {bootstrap : KernelBootstrap} {w w' w₀ : World}

theorem revision_unchanged (hs : Steps kernel w w') {r r' : AgentConfigRevision}
    (hr : r ∈ w.db.table AgentConfigRevision) (hr' : r' ∈ w'.db.table AgentConfigRevision)
    (hof : r'.agentId = r.agentId) (hrevision : r'.revision = r.revision) : r' = r :=
  Table.eq_of_key hr' (revisions_kept hs hr)
    (k := primaryKey [.text r.agentId, .integer r.revision])
    (by simp [Keyed.keys, hof, hrevision]) (by simp [Keyed.keys])

theorem activation_unchanged (hs : Steps kernel w w') {activation activation' : ActivationAttempt}
    (hmem : activation ∈ w.db.table ActivationAttempt)
    (hmem' : activation' ∈ w'.db.table ActivationAttempt) (hid : activation'.id = activation.id) :
    activation'.pin = activation.pin := by
  obtain ⟨found, hfound, hpin⟩ := List.mem_map.mp
    (activationPins_kept hs (List.mem_map_of_mem hmem : activation.pin ∈ w.db.activationPins))
  have hfoundId : found.id = activation.id := congrArg ActivationPin.id hpin
  have hsame : activation' = found := Table.eq_of_key hmem' hfound
    (k := primaryKey [.text found.id]) (by simp [Keyed.keys, hid, hfoundId])
    (by simp [Keyed.keys])
  rw [hsame, hpin]

theorem config_pinned (causalLimits : CausalLimits)
    (hopen : initializeSchema kernel causalLimits bootstrap World.blank = (.ok (), w₀))
    (hs : Steps kernel w₀ w) : ConfigPinned kernel bootstrap w₀ w := by
  have hlisted := initializeSchema_listed hopen
  have hinv := hlisted.inv.steps hs
  exact
    { contiguous := hinv.revisions
      unchanged := fun w' hafter r hr =>
        ⟨revisions_kept hafter hr, fun r' hr' => revision_unchanged hafter hr hr'⟩
      existing := fun run hrun => hinv.pins run.pin (List.mem_map_of_mem hrun)
      adopted := fun call run hrun => by
        obtain ⟨pin', hpin', hmoves⟩ := @runPins_move kernel w call _
          (List.mem_map_of_mem hrun : run.pin ∈ w.db.runPins)
        obtain ⟨run', hrun', rfl⟩ := List.mem_map.mp hpin'
        exact ⟨run', hrun', hmoves⟩
      started := fun activation hactivation =>
        activations_started hlisted.activations hs _ (List.mem_map_of_mem hactivation)
      kept := fun w' hafter activation hactivation activation' hactivation' =>
        activation_unchanged hafter hactivation hactivation' }

end Pinned

/-! ### A configuration that is revised and adopted -/

/-- The Human gives the Agent a second configuration, which the Run adopts. -/
def reviseCall : KernelCall :=
  .execute
    (.UpdateAgentConfig
      { idempotencyKey := "revise"
        agentId := "alice"
        expectedAgentConfigRevision := 1
        config := .obj [] })
    { principalId := "human" } none

def adoptCall : KernelCall :=
  .execute
    (.AdoptRunConfig
      { idempotencyKey := "adopt"
        runId := issuedId 15
        expectedRunRevision := 1
        expectedAgentConfigRevision := 2
        targetAgentConfigRevision := 2 })
    { principalId := "human" } none

def revisedWorld : World := step countingKernel reviseCall runWorld

def adoptedWorld : World := step countingKernel adoptCall revisedWorld

theorem smallWorld_opened :
    initializeSchema countingKernel ⟨4, 10⟩ smallBootstrap World.blank =
      (.ok (), smallWorld) := rfl

theorem adoptedWorld_steps : Steps countingKernel smallWorld adoptedWorld := by
  have hthread : Step countingKernel smallWorld threadWorld := ⟨threadCall, rfl⟩
  have hclaim : Step countingKernel threadWorld (step countingKernel claimAttentionCall threadWorld) :=
    ⟨claimAttentionCall, rfl⟩
  have hhandle : Step countingKernel (step countingKernel claimAttentionCall threadWorld)
    handledWorld := ⟨startHandlerCall, rfl⟩
  have hrun : Step countingKernel handledWorld runWorld := ⟨createRunCall, rfl⟩
  have hrevise : Step countingKernel runWorld revisedWorld := ⟨reviseCall, rfl⟩
  have hadopt : Step countingKernel revisedWorld adoptedWorld := ⟨adoptCall, rfl⟩
  exact ((((Relation.ReflTransGen.single hthread).tail hclaim).tail hhandle).tail hrun).tail hrevise
    |>.tail hadopt

theorem adoptedWorld_pinned :
    ConfigPinned countingKernel smallBootstrap smallWorld adoptedWorld :=
  config_pinned ⟨4, 10⟩ smallWorld_opened adoptedWorld_steps

example : (adoptedWorld.db.table Run).rows.map (·.agentConfigRevision) = [2] := by
  decide +kernel

/-! ### An Agent that is listed twice -/

/-- The Agent of the small bootstrap, with the config revisions 3 and 1. -/
def twiceListedBootstrap : KernelBootstrap :=
  { smallBootstrap with
    agents := [⟨"alice", "agent", "project", "Alice", 3, .obj []⟩,
      ⟨"alice", "agent", "project", "Alice", 1, .obj []⟩] }

def twiceListedWorld : World :=
  (initializeSchema countingKernel ⟨4, 10⟩ twiceListedBootstrap World.blank).2

theorem twiceListedWorld_opened : Opened countingKernel twiceListedWorld := by
  refine ⟨⟨4, 10⟩, twiceListedBootstrap, Prod.ext ?_ rfl⟩
  have hok : (initializeSchema countingKernel ⟨4, 10⟩ twiceListedBootstrap
      World.blank).1.isOk = true := by decide +kernel
  cases hresult : (initializeSchema countingKernel ⟨4, 10⟩ twiceListedBootstrap
      World.blank).1 with
  | ok u => rfl
  | error failure =>
      rw [hresult] at hok
      cases hok

/-- Its revisions are 1 and 3, so they are not contiguous up to the current one. -/
theorem twiceListed_gap :
    Reachable countingKernel twiceListedWorld ∧
      ∃ agent ∈ twiceListedWorld.db.table Agent,
        ¬ ∃ first, ∀ n, n ∈ twiceListedWorld.db.configRevisions agent.id ↔
          first ≤ n ∧ n ≤ agent.currentConfigRevision := by
  have hagents : (twiceListedWorld.db.table Agent).rows.map
      (fun agent => (agent.id, agent.currentConfigRevision)) = [("alice", 3)] := by
    decide +kernel
  have hrevisions : twiceListedWorld.db.configRevisions "alice" = [3, 1] := by decide +kernel
  obtain ⟨agent, hagent, hcolumns⟩ := List.mem_map.mp
    (hagents.symm ▸ List.mem_singleton_self ("alice", 3))
  obtain ⟨hid, hcurrent⟩ := Prod.mk.inj hcolumns
  refine ⟨twiceListedWorld_opened.reachable, agent, hagent, ?_⟩
  rw [hid, hcurrent, hrevisions]
  intro hall
  obtain ⟨first, hall⟩ := hall
  have hone := (hall 1).mp (by simp)
  have htwo := (hall 2).mpr (by omega)
  simp at htwo

end Torsor.Kernel
