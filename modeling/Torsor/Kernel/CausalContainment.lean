import Torsor.Library.Ancestry
import Torsor.Kernel.Provenance
import Torsor.Kernel.RunLaws

/-! # Causal containment

A Run is created below the Run that caused it or directly below a Human Message, within the
limits on depth and on nonterminal Runs. Nothing that happens later moves a Run in this tree
or reopens it, so both limits hold in every state.
-/

namespace Torsor.Kernel

open Torsor.Library Tx

/-! ## The tree of Runs -/

/-- The Run that `parent_run_id` names. -/
def parentRun (db : Database) (run : Run) : Option Run :=
  run.parentRunId.bind fun id => (db.table Run).find? fun r => r.id = id

/-- The Runs of a causal root that are not terminal. -/
def nonTerminalRuns (db : Database) (causalRootId : String) : List Run :=
  (db.table Run).filter fun r => r.causalRootId = causalRootId && !isTerminalRunState r.state

/-- The causal root of the Run is the Human Message whose revision its Attention is for. -/
def HumanRoot (db : Database) (run : Run) : Prop :=
  ∃ attention ∈ db.table Attention, ∃ revision ∈ db.table MessageRevision,
    ∃ message ∈ db.table Message, ∃ principal ∈ db.table Principal,
      attention.id = run.parentAttentionId ∧ revision.id = attention.messageRevisionId ∧
      message.id = revision.messageId ∧ principal.id = message.authorPrincipalId ∧
      principal.kind = .human ∧ message.id = run.causalRootId

/-- Where a Run stands: below a Human Message, or one level below its parent. -/
inductive Caused (db : Database) (run : Run) : Prop where
  | root (hdepth : run.delegationDepth = 0) (hparent : run.parentRunId = none)
      (hroot : HumanRoot db run)
  | below {parent : Run} (hmem : parent ∈ db.table Run)
      (hparent : run.parentRunId = some parent.id)
      (hdepth : run.delegationDepth = parent.delegationDepth + 1)
      (hroot : run.causalRootId = parent.causalRootId)

structure Contained (db : Database) : Prop where
  depth : ∀ limits ∈ db.table CausalLimits, ∀ run ∈ db.table Run,
    run.delegationDepth ≤ limits.maxDepth
  capacity : ∀ limits ∈ db.table CausalLimits, ∀ causalRootId,
    (nonTerminalRuns db causalRootId).length ≤ limits.maxNonTerminalRunsPerRoot
  caused : ∀ run ∈ db.table Run, Caused db run

/-! ## Admission -/

section Admission

variable {w w' : World} {attention : Attention} {admission : CausalAdmission}

theorem limits_eq {db : Database} {a b : CausalLimits} (ha : a ∈ db.table CausalLimits)
    (hb : b ∈ db.table CausalLimits) : a = b :=
  Table.eq_of_key ha hb (k := primaryKey []) (by simp [Keyed.keys]) (by simp [Keyed.keys])

theorem attentionSource_eq_some {db : Database} {message : Message} {kind : PrincipalKind}
    (h : attentionSource db attention = some (message, kind)) :
    ∃ revision ∈ db.table MessageRevision, message ∈ db.table Message ∧
      ∃ principal ∈ db.table Principal, revision.id = attention.messageRevisionId ∧
        message.id = revision.messageId ∧ principal.id = message.authorPrincipalId ∧
        principal.kind = kind := by
  simp only [attentionSource, Option.bind_eq_bind, Option.bind_eq_some_iff, Option.pure_def,
    Option.some.injEq, Prod.mk.injEq] at h
  obtain ⟨revision, hrevision, found, hmessage, principal, hprincipal, rfl, rfl⟩ := h
  obtain ⟨hmem, hid⟩ := Table.find?_eq_some hrevision
  obtain ⟨hmem', hid'⟩ := Table.find?_eq_some hmessage
  obtain ⟨hmem'', hid''⟩ := Table.find?_eq_some hprincipal
  exact ⟨revision, hmem, hmem', principal, hmem'', of_decide_eq_true hid, of_decide_eq_true hid',
    of_decide_eq_true hid'', rfl⟩

theorem causalPosition_eq_ok {source : Message} {kind : PrincipalKind} {position : String × Nat}
    (h : causalPosition attention source kind w = (.ok position, w')) : w = w' ∧
      ((kind = .human ∧ source.causedByRunId = none ∧ position = (source.id, 0)) ∨
        ∃ parent ∈ w.db.table Run, source.causedByRunId = some parent.id ∧
          position = (parent.causalRootId, parent.delegationDepth + 1)) := by
  unfold causalPosition at h
  by_cases hhuman : kind = .human ∧ source.causedByRunId.isNone
  · rw [if_pos hhuman] at h
    obtain ⟨rfl, rfl⟩ := pure_eq_ok.mp h
    exact ⟨rfl, .inl ⟨hhuman.1, Option.isNone_iff_eq_none.mp hhuman.2, rfl⟩⟩
  · rw [if_neg hhuman] at h
    simp only [bind_eq_ok, throwIf_eq_ok, require_eq_ok, requireRun, requireRow_eq_ok,
      pure_eq_ok] at h
    obtain ⟨_, _, ⟨-, rfl⟩, parentRunId, _, ⟨hcaused, rfl⟩, parent, _, ⟨hparent, rfl⟩, _, _,
      ⟨-, rfl⟩, rfl, rfl⟩ := h
    obtain ⟨hmem, hid⟩ := Table.find?_eq_some hparent
    refine ⟨rfl, .inr ⟨parent, hmem, ?_, rfl⟩⟩
    rw [hcaused, of_decide_eq_true hid]

theorem causalCapacity_eq_ok {causalRootId : String} {capacity : CausalCapacity}
    (h : causalCapacity causalRootId w = (.ok capacity, w')) : w = w' ∧
      ∃ limits ∈ w.db.table CausalLimits,
        capacity = ⟨causalRootId, limits.maxDepth, limits.maxNonTerminalRunsPerRoot,
          (nonTerminalRuns w.db causalRootId).length⟩ := by
  simp only [causalCapacity, bind_eq_ok, requireRow_eq_ok, selectRows_eq_ok, pure_eq_ok] at h
  obtain ⟨limits, _, ⟨hlimits, rfl⟩, runs, _, ⟨rfl, rfl⟩, rfl, rfl⟩ := h
  exact ⟨rfl, limits, (Table.find?_eq_some hlimits).1, rfl⟩

/-- An admission is within the limits and counts the Run it admits. -/
theorem admitRunFromAttention_eq_ok (h : admitRunFromAttention attention w = (.ok admission, w')) :
    ∃ source kind position, attentionSource w.db attention = some (source, kind) ∧
      causalPosition attention source kind w = (.ok position, w) ∧
      admission.causalRootId = position.1 ∧ admission.delegationDepth = position.2 ∧
      admission.parentRunId = source.causedByRunId ∧
      ∃ limits ∈ w.db.table CausalLimits, position.2 ≤ limits.maxDepth ∧
        (nonTerminalRuns w.db position.1).length < limits.maxNonTerminalRunsPerRoot := by
  simp only [admitRunFromAttention, bind_eq_ok, gets_eq_ok, require_eq_ok, reject_eq_ok,
    pure_eq_ok] at h
  obtain ⟨found, _, ⟨rfl, rfl⟩, ⟨source, kind⟩, _, ⟨hsource, rfl⟩, position, _, hposition, capacity,
    _, hcapacity, _, _, ⟨hlimit, rfl⟩, rfl, rfl⟩ := h
  obtain ⟨rfl, -⟩ := causalPosition_eq_ok hposition
  obtain ⟨rfl, limits, hlimits, rfl⟩ := causalCapacity_eq_ok hcapacity
  refine ⟨source, kind, position, hsource, hposition, rfl, rfl, rfl, limits, hlimits, ?_⟩
  simp only [Option.map_eq_none_iff] at hlimit
  by_cases hdepth : limits.maxDepth < position.2
  · simp [hdepth] at hlimit
  · by_cases hcount : limits.maxNonTerminalRunsPerRoot ≤ (nonTerminalRuns w.db position.1).length
    · simp [hdepth, hcount] at hlimit
    · omega

/-- What a new Run is admitted with. -/
theorem AdmitsRun.caused {run : Run} (h : AdmitsRun w run) :
    Caused w.db run ∧ ∃ limits ∈ w.db.table CausalLimits,
      run.delegationDepth ≤ limits.maxDepth ∧
      (nonTerminalRuns w.db run.causalRootId).length < limits.maxNonTerminalRunsPerRoot := by
  obtain ⟨attention, admission, w₁, w₂, hattention, hsame, hadmission, hroot, hparent, hdepth, -⟩ :=
    h
  obtain ⟨source, kind, position, hsource, hposition, hroot', hdepth', hparent', limits, hlimits,
    hwithin, hcount⟩ := admitRunFromAttention_eq_ok hadmission
  have hruns : w₁.db.table Run = w.db.table Run := hsame.table_eq Run (by decide)
  rw [hsame.table_eq CausalLimits (by decide)] at hlimits
  rw [nonTerminalRuns, hruns] at hcount
  refine ⟨?_, limits, hlimits, ?_, ?_⟩
  · obtain ⟨-, ⟨hhuman, hcaused, hplace⟩ | ⟨parent, hmem, hcaused, hplace⟩⟩ :=
      causalPosition_eq_ok hposition
    · obtain ⟨revision, hrevision, hmessage, principal, hprincipal, hof, hof', hof'', hkind⟩ :=
        attentionSource_eq_some hsource
      rw [hsame.table_eq MessageRevision (by decide)] at hrevision
      rw [hsame.table_eq Message (by decide)] at hmessage
      rw [hsame.table_eq Principal (by decide)] at hprincipal
      obtain ⟨hfound, hid⟩ := Table.find?_eq_some hattention
      refine .root ?_ ?_ ⟨attention, hfound, revision, hrevision, source, hmessage, principal,
        hprincipal, of_decide_eq_true hid, hof, hof', hof'', hkind.trans hhuman, ?_⟩
      · rw [hdepth, hdepth', hplace]
      · rw [hparent, hparent', hcaused]
      · rw [hroot, hroot', hplace]
    · rw [hruns] at hmem
      refine .below hmem ?_ ?_ ?_
      · rw [hparent, hparent', hcaused]
      · rw [hdepth, hdepth', hplace]
      · rw [hroot, hroot', hplace]
  · rw [hdepth, hdepth']
    exact hwithin
  · rw [hroot, hroot']
    exact hcount

end Admission

/-! ## Every step -/

section Steps

variable {kernel : KernelContext} {w w' : World}

theorem HumanRoot.of_grows {run run' : Run} (h : HumanRoot w.db run) (hgrows : Grows w w')
    (hattention : run'.parentAttentionId = run.parentAttentionId)
    (hroot : run'.causalRootId = run.causalRootId) : HumanRoot w'.db run' := by
  obtain ⟨attention, ha, revision, hr, message, hm, principal, hp, hids⟩ := h
  obtain ⟨attention', ha', horigin⟩ := hgrows.attention ha
  obtain ⟨revision', hr', horigin'⟩ := hgrows.messageRevision hr
  obtain ⟨message', hm', horigin''⟩ := hgrows.message hm
  simp only [Attention.origin, Attention.mk.injEq] at horigin
  simp only [MessageRevision.origin, MessageRevision.mk.injEq] at horigin'
  simp only [Message.origin, Message.mk.injEq] at horigin''
  refine ⟨attention', ha', revision', hr', message', hm', principal, ?_, ?_⟩
  · rw [hgrows.principals]
    exact hp
  · simp only [horigin, horigin', horigin'', hattention, hroot]
    exact hids

/-- A Run of a later state is one there was before or one that was admitted. -/
theorem step_run_before (kernel : KernelContext) (call : KernelCall) (w : World) :
    ∃ new, ∀ run' ∈ (step kernel call w).db.table Run,
      (∃ run ∈ w.db.table Run, run.id = run'.id ∧ run.unstamped.Evolves run'.unstamped) ∨
      (run'.id = new ∧ AdmitsRun w run'.unstamped) := by
  have hstep := step_runs kernel call w
  obtain ⟨new, hcreated⟩ := hstep.created
  refine ⟨new, fun run' hrun' => ?_⟩
  have hfile' := runBook_of_mem hrun'
  obtain hbefore | ⟨hnew, -, -, hadmits⟩ := hcreated _ _ hfile'
  · obtain ⟨found, hfound⟩ := Option.isSome_iff_exists.mp hbefore
    obtain ⟨run, hrun, rfl, hid⟩ := mem_of_runBook hfound
    obtain ⟨later, hlater, hevolves⟩ := (hstep.evolves run'.id).run _ hfound
    rw [hfile'] at hlater
    cases hlater
    exact .inl ⟨run, hrun, hid, hevolves⟩
  · exact .inr ⟨hnew, hadmits⟩

theorem Run.Evolves.causes {run run' : Run} (h : run.unstamped.Evolves run'.unstamped) :
    run'.parentAttentionId = run.parentAttentionId ∧ run'.parentRunId = run.parentRunId ∧
      run'.causalRootId = run.causalRootId ∧ run'.delegationDepth = run.delegationDepth := by
  have horigin := h.origin
  simp only [Run.origin, Run.unstamped, Run.mk.injEq] at horigin
  simp only [horigin, and_self]

/-- A Run that is not terminal was not terminal before. -/
theorem Run.Evolves.open_before {run run' : Run} (h : run.unstamped.Evolves run'.unstamped)
    (hopen : isTerminalRunState run'.state = false) : isTerminalRunState run.state = false := by
  by_contra hterminal
  have hsame := h.terminal (Bool.eq_true_of_not_eq_false hterminal)
  rw [(Run.columns_of_withoutActivity hsame).1] at hopen
  exact hterminal hopen

theorem Caused.of_step {run run' : Run} (h : Caused w.db run) (call : KernelCall)
    (hsame : run'.parentAttentionId = run.parentAttentionId ∧ run'.parentRunId = run.parentRunId ∧
      run'.causalRootId = run.causalRootId ∧ run'.delegationDepth = run.delegationDepth) :
    Caused (step kernel call w).db run' := by
  obtain ⟨hattention, hparentId, hrootId, hdepthId⟩ := hsame
  cases h with
  | root hdepth hparent hroot =>
      exact .root (hdepthId.trans hdepth) (hparentId.trans hparent)
        (hroot.of_grows (step_grows kernel call w) hattention hrootId)
  | @below parent hmem hparent hdepth hroot =>
      have hs : Steps kernel w (step kernel call w) := Relation.ReflTransGen.single ⟨call, rfl⟩
      obtain ⟨parent', hmem', hid, hevolves⟩ := hs.run hmem
      obtain ⟨-, -, hroot', hdepth'⟩ := hevolves.causes
      refine .below hmem' ?_ ?_ ?_
      · rw [hparentId, hparent, hid]
      · rw [hdepthId, hdepth, hdepth']
      · rw [hrootId, hroot, hroot']

theorem nodup_nonTerminalRuns (db : Database) (causalRootId : String) :
    ((nonTerminalRuns db causalRootId).map (·.id)).Nodup := by
  have hids : ((db.table Run).rows.map (·.id)).Nodup :=
    Table.nodup_map (k := fun id => primaryKey [.text id]) _ fun r => by simp [Keyed.keys]
  exact hids.sublist (List.filter_sublist.map _)

/-- The nonterminal Runs of a root were there before, but for one that was admitted. -/
theorem nonTerminalRuns_step (kernel : KernelContext) (call : KernelCall) (w : World)
    (causalRootId : String) :
    (nonTerminalRuns (step kernel call w).db causalRootId).length ≤
        (nonTerminalRuns w.db causalRootId).length ∨
      (∃ run, AdmitsRun w run ∧ run.causalRootId = causalRootId) ∧
        (nonTerminalRuns (step kernel call w).db causalRootId).length ≤
          (nonTerminalRuns w.db causalRootId).length + 1 := by
  obtain ⟨new, hbefore⟩ := step_run_before kernel call w
  have hnodup := nodup_nonTerminalRuns (step kernel call w).db causalRootId
  have hold : ∀ run' ∈ nonTerminalRuns (step kernel call w).db causalRootId,
      run'.id ∈ (nonTerminalRuns w.db causalRootId).map (·.id) ∨
        (run'.id = new ∧ AdmitsRun w run'.unstamped) := by
    intro run' hrun'
    obtain ⟨hmem', hopen⟩ := Table.mem_filter.mp hrun'
    simp only [Bool.and_eq_true, decide_eq_true_eq, Bool.not_eq_true'] at hopen
    obtain ⟨run, hmem, hid, hevolves⟩ | hadmitted := hbefore run' hmem'
    · refine .inl (List.mem_map.mpr ⟨run, Table.mem_filter.mpr ⟨hmem, ?_⟩, hid⟩)
      obtain ⟨-, -, hroot, -⟩ := hevolves.causes
      simp [← hroot, hopen.1, hevolves.open_before hopen.2]
    · exact .inr hadmitted
  by_cases hnew : ∃ run' ∈ nonTerminalRuns (step kernel call w).db causalRootId,
      run'.id = new ∧ AdmitsRun w run'.unstamped
  · obtain ⟨run', hrun', -, hadmits⟩ := hnew
    have hroot := (Table.mem_filter.mp hrun').2
    simp only [Bool.and_eq_true, decide_eq_true_eq] at hroot
    refine .inr ⟨⟨_, hadmits, hroot.1⟩, ?_⟩
    have hsub : (nonTerminalRuns (step kernel call w).db causalRootId).map (·.id) ⊆
        new :: (nonTerminalRuns w.db causalRootId).map (·.id) := by
      intro id hid
      obtain ⟨run', hrun', rfl⟩ := List.mem_map.mp hid
      obtain hmem | ⟨rfl, -⟩ := hold run' hrun'
      · exact List.mem_cons_of_mem _ hmem
      · exact List.mem_cons_self
    simpa using (List.subperm_of_subset hnodup hsub).length_le
  · left
    have hsub : (nonTerminalRuns (step kernel call w).db causalRootId).map (·.id) ⊆
        (nonTerminalRuns w.db causalRootId).map (·.id) := by
      intro id hid
      obtain ⟨run', hrun', rfl⟩ := List.mem_map.mp hid
      obtain hmem | hadmitted := hold run' hrun'
      · exact hmem
      · exact absurd ⟨run', hrun', hadmitted⟩ hnew
    simpa using (List.subperm_of_subset hnodup hsub).length_le

theorem Contained.step (h : Contained w.db) (call : KernelCall) :
    Contained (step kernel call w).db := by
  obtain ⟨new, hbefore⟩ := step_run_before kernel call w
  have hlimits := (step_grows kernel call w).limits
  refine ⟨fun limits hlimit run' hrun' => ?_, fun limits hlimit root => ?_, fun run' hrun' => ?_⟩
  · rw [hlimits] at hlimit
    obtain ⟨run, hrun, -, hevolves⟩ | ⟨-, hadmits⟩ := hbefore run' hrun'
    · obtain ⟨-, -, -, hdepth⟩ := hevolves.causes
      rw [hdepth]
      exact h.depth limits hlimit run hrun
    · obtain ⟨-, limits', hlimit', hdepth, -⟩ := hadmits.caused
      rw [limits_eq hlimit hlimit']
      exact hdepth
  · rw [hlimits] at hlimit
    have hcapacity := h.capacity limits hlimit root
    obtain hle | ⟨⟨run, hadmits, hroot⟩, hle⟩ := nonTerminalRuns_step kernel call w root
    · omega
    · obtain ⟨-, limits', hlimit', -, hcount⟩ := hadmits.caused
      rw [hroot, ← limits_eq hlimit hlimit'] at hcount
      omega
  · obtain ⟨run, hrun, -, hevolves⟩ | ⟨-, hadmits⟩ := hbefore run' hrun'
    · exact (h.caused run hrun).of_step call hevolves.causes
    · exact hadmits.caused.1.of_step call ⟨rfl, rfl, rfl, rfl⟩

theorem Opened.contained (h : Opened kernel w) : Contained w.db := by
  have hframe : Frame [.runs] World.blank w := h.frame
  have hnone : w.db.table Run = World.blank.db.table Run := hframe.table_eq Run (by decide)
  have hempty : ∀ run, run ∉ w.db.table Run := by
    intro run hrun
    rw [hnone] at hrun
    cases hrun
  refine ⟨fun _ _ run hrun => absurd hrun (hempty run), fun limits _ root => ?_,
    fun run hrun => absurd hrun (hempty run)⟩
  rw [nonTerminalRuns, hnone]
  exact Nat.zero_le _

theorem Reachable.contained (h : Reachable kernel w) : Contained w.db :=
  h.invariant (fun _ hopen => hopen.contained) fun _ call hcontained => hcontained.step call

end Steps

/-! ## Chains of causes -/

theorem parentRun_of_mem {db : Database} {run parent : Run} (hmem : parent ∈ db.table Run)
    (hparent : run.parentRunId = some parent.id) : parentRun db run = some parent := by
  have hfound : (db.table Run).find? (fun r => r.id = parent.id) = some parent :=
    Table.find?_of_mem hmem (by simp) fun x hx =>
      ⟨primaryKey [.text x.id], by simp [Keyed.keys], by simp_all [Keyed.keys]⟩
  rw [parentRun, hparent]
  exact hfound

theorem Contained.rooted {db : Database} (h : Contained db) :
    Rooted (parentRun db) (· ∈ db.table Run) Run.delegationDepth Run.causalRootId where
  top run hrun hdepth := by
    cases h.caused run hrun with
    | root _ hparent _ => simp [parentRun, hparent]
    | below _ _ hbelow _ => omega
  below run d hrun hdepth := by
    cases h.caused run hrun with
    | root hzero _ _ => omega
    | @below parent hmem hparent hbelow hroot =>
        exact ⟨parent, parentRun_of_mem hmem hparent, hmem, by omega, hroot.symm⟩

/-- The limits hold of the tree of every causal root, and every Run hangs in such a tree at
its depth below the Human Message that is its root. -/
structure CausallyContained (db : Database) : Prop where
  capacity : ∀ limits ∈ db.table CausalLimits, ∀ causalRootId,
    (nonTerminalRuns db causalRootId).length ≤ limits.maxNonTerminalRunsPerRoot
  depth : ∀ limits ∈ db.table CausalLimits, ∀ run ∈ db.table Run,
    run.delegationDepth ≤ limits.maxDepth
  chain : ∀ run ∈ db.table Run, ∀ steps ≤ run.delegationDepth, ∃ above ∈ db.table Run,
    ancestor (parentRun db) steps run = some above ∧
      above.delegationDepth + steps = run.delegationDepth ∧
      above.causalRootId = run.causalRootId
  root : ∀ run ∈ db.table Run, ∃ first ∈ db.table Run,
    ancestor (parentRun db) run.delegationDepth run = some first ∧ first.delegationDepth = 0 ∧
      first.parentRunId = none ∧ first.causalRootId = run.causalRootId ∧ HumanRoot db first

theorem causally_contained {kernel : KernelContext} {w : World} (h : Reachable kernel w) :
    CausallyContained w.db where
  capacity := h.contained.capacity
  depth := h.contained.depth
  chain run hrun steps hsteps := by
    obtain ⟨above, habove, hmem, hdepth, hroot⟩ := h.contained.rooted.ancestor hrun hsteps
    exact ⟨above, hmem, habove, hdepth, hroot⟩
  root run hrun := by
    obtain ⟨first, hfirst, hmem, hdepth, -, hroot⟩ := h.contained.rooted.ancestor_depth hrun
    refine ⟨first, hmem, hfirst, hdepth, ?_⟩
    cases h.contained.caused first hmem with
    | root _ hparent hhuman => exact ⟨hparent, hroot, hhuman⟩
    | below _ _ hbelow _ => omega

theorem runWorld_causally_contained : CausallyContained runWorld.db :=
  causally_contained runWorld_reachable

end Torsor.Kernel
