import Torsor.Kernel.AgentStatus
import Torsor.Kernel.AttentionDomains

/-! # Decisions of Attentions

An Attention is decided once. Its decision, the input of the Run that continues it, the end of
its lease and the end of its Activations are one step, and no later step touches it again, in
whatever order handlers claim the Attentions of a domain from each other.
-/

namespace Torsor.Kernel

open Torsor.Library Tx

/-! ## Rows that belong together -/

/-- The Activation is neither finished nor revoked. -/
def ActivationAttempt.Running (r : ActivationAttempt) : Prop :=
  r.finishedAt = none ∧ r.revokedAt = none

/-- Whose the Activation is, and under which lease. -/
def ActivationAttempt.holder (r : ActivationAttempt) : Option String × Option String :=
  (r.attentionId, r.attentionLeaseToken)

/-- What never changes of a Run. -/
def Run.home (r : Run) : String × String × String × String × String :=
  (r.id, r.ownerAgentId, r.projectId, r.homeChannelId, r.threadRootId)

/-- Which Run an input is of, and where it comes from. -/
def RunInput.source (i : RunInput) : String × Option String := (i.runId, i.sourceAttentionId)

/-- What a decision assigns, and what it is about. -/
def Attention.decision (a : Attention) :
    (String × String × String × String × String) × AttentionStatus × Option String :=
  ((a.id, a.targetAgentId, a.projectId, a.channelId, a.threadRootId), a.status, a.resolvedRunId)

/-- The Attention is continued by the input, in a Run of its target Agent in its Thread. -/
structure Attention.ContinuesAs (a : Attention) (i : RunInput) (run : Run) : Prop where
  sourceAttentionId : i.sourceAttentionId = some a.id
  resolvedRunId : a.resolvedRunId = some run.id
  runId : i.runId = run.id
  ownerAgentId : run.ownerAgentId = a.targetAgentId
  projectId : run.projectId = a.projectId
  homeChannelId : run.homeChannelId = a.channelId
  threadRootId : run.threadRootId = a.threadRootId

/-- The Attention has the lease under which the Activation was started. -/
def Attention.Lends (a : Attention) (r : ActivationAttempt) : Prop :=
  r.attentionId = some a.id ∧ a.handlerLeaseToken.isSome = true ∧
    r.attentionLeaseToken = a.handlerLeaseToken

/-- What Attentions, fences, inputs, Runs and Activations are to each other. -/
structure DecisionsHold (attentions : List Attention) (fences : List AttentionDomainFence)
    (inputs : List RunInput) (runs : List Run) (activations : List ActivationAttempt) :
    Prop where
  busy : ∀ f ∈ fences, f.leaseToken = none → 0 < f.unsettledProviderAttemptCount
  resolved : ∀ a ∈ attentions, a.status = .Resolved →
    ∃ i ∈ inputs, ∃ run ∈ runs, a.ContinuesAs i run
  sourced : ∀ i ∈ inputs, ∀ id, i.sourceAttentionId = some id →
    ∃ a ∈ attentions, a.id = id ∧ a.status = .Resolved
  single : ∀ i ∈ inputs, ∀ j ∈ inputs, i.sourceAttentionId.isSome = true →
    i.sourceAttentionId = j.sourceAttentionId → i = j
  running : ∀ r ∈ activations, r.Running → r.attentionId.isSome = true →
    ∃ a ∈ attentions, a.Lends r

section Rows

variable {attentions : List Attention} {fences fences' : List AttentionDomainFence}
  {inputs : List RunInput} {runs runs' : List Run}
  {activations activations' : List ActivationAttempt} {a a' : Attention} {i i' : RunInput}
  {run run' : Run} {r : ActivationAttempt}

theorem Attention.ContinuesAs.congr (h : a.ContinuesAs i run)
    (hattention : a'.decision = a.decision) (hinput : i'.source = i.source)
    (hrun : run'.home = run.home) : a'.ContinuesAs i' run' := by
  simp only [Attention.decision, RunInput.source, Run.home, Prod.mk.injEq] at *
  obtain ⟨⟨hid, hagent, hproject, hchannel, hthread⟩, -, hresolved⟩ := hattention
  obtain ⟨hrunId, hsource⟩ := hinput
  obtain ⟨hid', hagent', hproject', hchannel', hthread'⟩ := hrun
  constructor
  · rw [hsource, hid, h.sourceAttentionId]
  · rw [hresolved, hid', h.resolvedRunId]
  · rw [hrunId, hid', h.runId]
  · rw [hagent', hagent, h.ownerAgentId]
  · rw [hproject', hproject, h.projectId]
  · rw [hchannel', hchannel, h.homeChannelId]
  · rw [hthread', hthread, h.threadRootId]

theorem DecisionsHold.nil : DecisionsHold [] [] [] [] [] :=
  ⟨by simp, by simp, by simp, by simp, by simp⟩

/-- The Runs stay where they are. -/
theorem DecisionsHold.withRuns (h : DecisionsHold attentions fences inputs runs activations)
    (hruns : ∀ run ∈ runs, ∃ run' ∈ runs', run'.home = run.home) :
    DecisionsHold attentions fences inputs runs' activations :=
  { h with
    resolved := fun a ha hstatus => by
      obtain ⟨i, hi, run, hrun, hcontinues⟩ := h.resolved a ha hstatus
      obtain ⟨run', hrun', hhome⟩ := hruns run hrun
      exact ⟨i, hi, run', hrun', hcontinues.congr rfl rfl hhome⟩ }

/-- The inputs stay in their Runs. -/
theorem DecisionsHold.mapInputs {g : RunInput → RunInput}
    (h : DecisionsHold attentions fences inputs runs activations)
    (hsource : ∀ i, (g i).source = i.source) :
    DecisionsHold attentions fences (inputs.map g) runs activations := by
  have hattention : ∀ i, (g i).sourceAttentionId = i.sourceAttentionId :=
    fun i => congrArg Prod.snd (hsource i)
  refine { h with resolved := ?_, sourced := ?_, single := ?_ }
  · intro a ha hstatus
    obtain ⟨i, hi, run, hrun, hcontinues⟩ := h.resolved a ha hstatus
    exact ⟨g i, List.mem_map_of_mem hi, run, hrun, hcontinues.congr rfl (hsource i) rfl⟩
  · intro i' hi' id hid
    obtain ⟨i, hi, rfl⟩ := List.mem_map.mp hi'
    exact h.sourced i hi id (hattention i ▸ hid)
  · intro i' hi' j' hj' hsome heq
    obtain ⟨i, hi, rfl⟩ := List.mem_map.mp hi'
    obtain ⟨j, hj, rfl⟩ := List.mem_map.mp hj'
    rw [hattention] at hsome heq
    rw [h.single i hi j hj hsome (heq.trans (hattention j))]

/-- An input that comes from no Attention joins the others. -/
theorem DecisionsHold.appendInput (h : DecisionsHold attentions fences inputs runs activations)
    (hnone : i.sourceAttentionId = none) :
    DecisionsHold attentions fences (inputs ++ [i]) runs activations := by
  refine { h with resolved := ?_, sourced := ?_, single := ?_ }
  · intro a ha hstatus
    obtain ⟨j, hj, run, hrun, hcontinues⟩ := h.resolved a ha hstatus
    exact ⟨j, List.mem_append_left _ hj, run, hrun, hcontinues⟩
  · intro j hj id hid
    cases List.mem_append.mp hj with
    | inl hold => exact h.sourced j hold id hid
    | inr hnew =>
        rw [List.mem_singleton.mp hnew, hnone] at hid
        cases hid
  · intro j hj k hk hsome heq
    cases List.mem_append.mp hj with
    | inl hold =>
        cases List.mem_append.mp hk with
        | inl hold' => exact h.single j hold k hold' hsome heq
        | inr hnew =>
            rw [heq, List.mem_singleton.mp hnew, hnone] at hsome
            cases hsome
    | inr hnew =>
        rw [List.mem_singleton.mp hnew, hnone] at hsome
        cases hsome

/-- What runs of an Attention ran under its lease before. -/
theorem DecisionsHold.withActivations
    (h : DecisionsHold attentions fences inputs runs activations)
    (hrunning : ∀ r' ∈ activations', r'.Running → r'.attentionId.isSome = true →
      (∃ a ∈ attentions, a.Lends r') ∨
        ∃ r ∈ activations, r.Running ∧ r.holder = r'.holder) :
    DecisionsHold attentions fences inputs runs activations' :=
  { h with
    running := fun r' hr' hruns hof => by
      obtain hlent | ⟨r, hr, hbefore, hholder⟩ := hrunning r' hr' hruns hof
      · exact hlent
      · simp only [ActivationAttempt.holder, Prod.mk.injEq] at hholder
        obtain ⟨a, ha, hid, hheld, htoken⟩ :=
          h.running r hr hbefore (hholder.1 ▸ hof)
        exact ⟨a, ha, hholder.1 ▸ hid, hheld, hholder.2 ▸ htoken⟩ }

/-- An Open Attention joins the others. -/
theorem DecisionsHold.appendAttention
    (h : DecisionsHold attentions fences inputs runs activations) (hopen : a.status = .Open) :
    DecisionsHold (attentions ++ [a]) fences inputs runs activations := by
  refine { h with resolved := ?_, sourced := ?_, running := ?_ }
  · intro x hx hstatus
    cases List.mem_append.mp hx with
    | inl hold => exact h.resolved x hold hstatus
    | inr hnew =>
        rw [List.mem_singleton.mp hnew, hopen] at hstatus
        cases hstatus
  · intro i hi id hid
    obtain ⟨x, hx, hfound⟩ := h.sourced i hi id hid
    exact ⟨x, List.mem_append_left _ hx, hfound⟩
  · intro r hr hruns hof
    obtain ⟨x, hx, hlends⟩ := h.running r hr hruns hof
    exact ⟨x, List.mem_append_left _ hx, hlends⟩

/-- The decisions stay, and so do the leases of what runs. -/
theorem DecisionsHold.mapAttentions {g : Attention → Attention}
    (h : DecisionsHold attentions fences inputs runs activations)
    (hdecision : ∀ a ∈ attentions, (g a).decision = a.decision)
    (hrunning : ∀ r' ∈ activations', r'.Running → r'.attentionId.isSome = true →
      (∃ r ∈ activations, r.Running ∧ r.holder = r'.holder) ∧
        ∀ a ∈ attentions, r'.attentionId = some a.id →
          (g a).handlerLeaseToken = a.handlerLeaseToken) :
    DecisionsHold (attentions.map g) fences inputs runs activations' := by
  have hid : ∀ a ∈ attentions, (g a).id = a.id :=
    fun a ha => congrArg (·.1.1) (hdecision a ha)
  have hstatus : ∀ a ∈ attentions, (g a).status = a.status :=
    fun a ha => congrArg (·.2.1) (hdecision a ha)
  refine { h with resolved := ?_, sourced := ?_, running := ?_ }
  · intro x hx hresolved
    obtain ⟨a, ha, rfl⟩ := List.mem_map.mp hx
    obtain ⟨i, hi, run, hrun, hcontinues⟩ := h.resolved a ha (hstatus a ha ▸ hresolved)
    exact ⟨i, hi, run, hrun, hcontinues.congr (hdecision a ha) rfl rfl⟩
  · intro i hi id hsource
    obtain ⟨a, ha, hfound, hresolved⟩ := h.sourced i hi id hsource
    exact ⟨g a, List.mem_map_of_mem ha, (hid a ha).trans hfound,
      (hstatus a ha).trans hresolved⟩
  · intro r' hr' hruns hof
    obtain ⟨⟨r, hr, hbefore, hholder⟩, hkept⟩ := hrunning r' hr' hruns hof
    simp only [ActivationAttempt.holder, Prod.mk.injEq] at hholder
    obtain ⟨a, ha, hfound, hheld, htoken⟩ := h.running r hr hbefore (hholder.1 ▸ hof)
    have hof' : r'.attentionId = some a.id := hholder.1 ▸ hfound
    have hsame := hkept a ha hof'
    refine ⟨g a, List.mem_map_of_mem ha, ?_, ?_, ?_⟩
    · rw [hid a ha, hof']
    · rw [hsame, hheld]
    · rw [hsame, ← hholder.2, htoken]

/-- The Attention is decided while nothing else runs for it. -/
structure DecidedAlone (attentions : List Attention)
    (activations activations' : List ActivationAttempt) (a : Attention) : Prop where
  mem : a ∈ attentions
  undecided : a.status = .Open
  sole : ∀ x ∈ attentions, x.id = a.id → x = a
  alone : ∀ r' ∈ activations', r'.Running → r'.attentionId ≠ some a.id ∧
    ∃ r ∈ activations, r.Running ∧ r.holder = r'.holder

/-- A decision, and the input that comes from the Attention exactly if it resolves it. -/
theorem DecisionsHold.decide {outcome : AttentionOutcome} {new : Option RunInput}
    (h : DecisionsHold attentions fences inputs runs activations)
    (hdecided : DecidedAlone attentions activations activations' a)
    (hbusy : ∀ f ∈ fences', f.leaseToken = none → 0 < f.unsettledProviderAttemptCount)
    (hruns : ∀ run ∈ runs, ∃ run' ∈ runs', run'.home = run.home)
    (hnew : ∀ i ∈ new, outcome.status = .Resolved ∧ i.sourceAttentionId = some a.id)
    (hresolved : outcome.status = .Resolved →
      ∃ i ∈ new, ∃ run ∈ runs', (a.decide outcome).ContinuesAs i run) :
    DecisionsHold (attentions.map fun x => if x.id = a.id then x.decide outcome else x) fences'
      (inputs ++ new.toList) runs' activations' := by
  have hself : (if a.id = a.id then a.decide outcome else a) = a.decide outcome := if_pos rfl
  have hother : ∀ x ∈ attentions, x ≠ a →
      (if x.id = a.id then x.decide outcome else x) = x :=
    fun x hx hne => if_neg fun heq => hne (hdecided.sole x hx heq)
  have hfresh : ∀ i ∈ inputs, i.sourceAttentionId ≠ some a.id := by
    intro i hi heq
    obtain ⟨x, hx, hid, hstatus⟩ := h.sourced i hi a.id heq
    rw [hdecided.sole x hx hid, hdecided.undecided] at hstatus
    cases hstatus
  refine ⟨hbusy, ?_, ?_, ?_, ?_⟩
  · intro y hy hstatus
    obtain ⟨x, hx, rfl⟩ := List.mem_map.mp hy
    by_cases hcase : x = a
    · rw [hcase, hself] at hstatus ⊢
      obtain ⟨i, hi, hcontinues⟩ := hresolved hstatus
      exact ⟨i, List.mem_append_right _ (Option.mem_toList.mpr hi), hcontinues⟩
    · rw [hother x hx hcase] at hstatus ⊢
      obtain ⟨i, hi, run, hrun, hcontinues⟩ := h.resolved x hx hstatus
      obtain ⟨run', hrun', hhome⟩ := hruns run hrun
      exact ⟨i, List.mem_append_left _ hi, run', hrun', hcontinues.congr rfl rfl hhome⟩
  · intro i hi id hid
    cases List.mem_append.mp hi with
    | inl hold =>
        obtain ⟨x, hx, hfound, hstatus⟩ := h.sourced i hold id hid
        have hne : x ≠ a := by
          intro heq
          rw [heq, hdecided.undecided] at hstatus
          cases hstatus
        exact ⟨x, List.mem_map.mpr ⟨x, hx, hother x hx hne⟩, hfound, hstatus⟩
    | inr hadded =>
        obtain ⟨hstatus, hsource⟩ := hnew i (Option.mem_toList.mp hadded)
        refine ⟨a.decide outcome, List.mem_map.mpr ⟨a, hdecided.mem, hself⟩, ?_, hstatus⟩
        exact Option.some.inj (hsource.symm.trans hid)
  · intro i hi j hj hsome heq
    cases List.mem_append.mp hi with
    | inl hold =>
        cases List.mem_append.mp hj with
        | inl hold' => exact h.single i hold j hold' hsome heq
        | inr hadded =>
            have hsource := (hnew j (Option.mem_toList.mp hadded)).2
            exact absurd (heq.trans hsource) (hfresh i hold)
    | inr hadded =>
        have hi' := Option.mem_toList.mp hadded
        cases List.mem_append.mp hj with
        | inl hold =>
            have hsource := (hnew i hi').2
            exact absurd (heq.symm.trans hsource) (hfresh j hold)
        | inr hadded' => exact Option.mem_unique hi' (Option.mem_toList.mp hadded')
  · intro r' hr' hrunning hof
    obtain ⟨hapart, r, hr, hbefore, hholder⟩ := hdecided.alone r' hr' hrunning
    simp only [ActivationAttempt.holder, Prod.mk.injEq] at hholder
    obtain ⟨x, hx, hid, hheld, htoken⟩ := h.running r hr hbefore (hholder.1 ▸ hof)
    have hne : x ≠ a := by
      intro heq
      rw [← hholder.1, hid, heq] at hapart
      exact hapart rfl
    exact ⟨x, List.mem_map.mpr ⟨x, hx, hother x hx hne⟩, hholder.1 ▸ hid, hheld,
      hholder.2 ▸ htoken⟩

end Rows

/-! ## Moves -/

/-- The rows of the database hold together. -/
def Database.Decided (db : Database) : Prop :=
  DecisionsHold (db.table Attention).rows (db.table AttentionDomainFence).rows
    (db.table RunInput).rows (db.table Run).rows (db.table ActivationAttempt).rows

/-- What is decided stays as it is. -/
def KeepsDecided (w w' : World) : Prop :=
  ∀ a ∈ w.db.table Attention, a.status ≠ .Open → a ∈ w'.db.table Attention

/-- The rows go on holding together, and what is decided stays as it is. -/
structure DecisionsMove (kernel : KernelContext) (w w' : World) : Prop where
  domains : DomainsMove kernel w w'
  decided : DomainsAgree w.db → w.db.Decided → w'.db.Decided ∧ KeepsDecided w w'

section Moves

variable {kernel : KernelContext} {w w' w'' : World}

theorem DecisionsMove.trans (h : DecisionsMove kernel w w')
    (h' : DecisionsMove kernel w' w'') : DecisionsMove kernel w w'' where
  domains := h.domains.trans h'.domains
  decided hagree hdecided := by
    obtain ⟨hbetween, hkept⟩ := h.decided hagree hdecided
    obtain ⟨hafter, hkept'⟩ := h'.decided (h.domains.agree hagree) hbetween
    exact ⟨hafter, fun a ha hstatus => hkept' a (hkept a ha hstatus) hstatus⟩

instance : IsPreorder World (DecisionsMove kernel) where
  refl w := ⟨refl_of (DomainsMove kernel) w, fun _ hdecided => ⟨hdecided, fun _ ha _ => ha⟩⟩
  trans _ _ _ := DecisionsMove.trans

instance : ConcernsTables (DecisionsMove kernel)
    [.attentions, .attentionDomainFences, .runInputs, .runs, .activationAttempts] where
  of_tables w w' htables _ hids _ := by
    have hattentions : w'.db.table Attention = w.db.table Attention := by
      simp only [Database.table, htables .attentions (by decide)]
    have hfences : w'.db.table AttentionDomainFence = w.db.table AttentionDomainFence := by
      simp only [Database.table, htables .attentionDomainFences (by decide)]
    have hinputs : w'.db.table RunInput = w.db.table RunInput := by
      simp only [Database.table, htables .runInputs (by decide)]
    have hruns : w'.db.table Run = w.db.table Run := by
      simp only [Database.table, htables .runs (by decide)]
    have hactivations : w'.db.table ActivationAttempt = w.db.table ActivationAttempt := by
      simp only [Database.table, htables .activationAttempts (by decide)]
    refine ⟨.of_same hattentions hfences hids, fun _ hdecided => ⟨?_, fun a ha _ => ?_⟩⟩
    · rw [Database.Decided, hattentions, hfences, hinputs, hruns, hactivations]
      exact hdecided
    · rw [hattentions]
      exact ha

/-- The rows that decisions concern stay as they are. -/
abbrev SameRows (w w' : World) : Prop :=
  SameTables [.attentions, .attentionDomainFences, .runInputs, .runs, .activationAttempts] w w'

theorem SameRows.decided (h : SameRows w w') : w'.db.Decided ↔ w.db.Decided := by
  rw [Database.Decided, Database.Decided, h.table_eq Attention (by decide),
    h.table_eq AttentionDomainFence (by decide), h.table_eq RunInput (by decide),
    h.table_eq Run (by decide), h.table_eq ActivationAttempt (by decide)]

end Moves

/-! ## Statements -/

section Statements

set_option synthInstance.maxSize 400000

variable {kernel : KernelContext} {w w' : World}

theorem DecisionsMove.of_runs {u : Table Run}
    (h : ∀ run ∈ w.db.table Run, ∃ run' ∈ u, run'.home = run.home) :
    DecisionsMove kernel w (w.store u) where
  domains := .of_same (by simp [Database.table_set_apart]) (by simp [Database.table_set_apart])
    (Nat.le_refl _)
  decided _ hdecided := by
    refine ⟨?_, fun a ha _ => by simpa [Database.table_set_apart] using ha⟩
    simp only [Database.Decided, World.store_db, Database.table_set_same,
      Database.table_set_apart]
    exact hdecided.withRuns h

theorem DecisionsMove.of_inputs {u : Table RunInput}
    (h : w.db.Decided → DecisionsHold (w.db.table Attention).rows
      (w.db.table AttentionDomainFence).rows u.rows (w.db.table Run).rows
      (w.db.table ActivationAttempt).rows) :
    DecisionsMove kernel w (w.store u) where
  domains := .of_same (by simp [Database.table_set_apart]) (by simp [Database.table_set_apart])
    (Nat.le_refl _)
  decided _ hdecided := by
    refine ⟨?_, fun a ha _ => by simpa [Database.table_set_apart] using ha⟩
    simp only [Database.Decided, World.store_db, Database.table_set_same,
      Database.table_set_apart]
    exact h hdecided

theorem DecisionsMove.of_activations {u : Table ActivationAttempt}
    (h : ∀ r' ∈ u, r'.Running → r'.attentionId.isSome = true →
      ∃ r ∈ w.db.table ActivationAttempt, r.Running ∧ r.holder = r'.holder) :
    DecisionsMove kernel w (w.store u) where
  domains := .of_same (by simp [Database.table_set_apart]) (by simp [Database.table_set_apart])
    (Nat.le_refl _)
  decided _ hdecided := by
    refine ⟨?_, fun a ha _ => by simpa [Database.table_set_apart] using ha⟩
    simp only [Database.Decided, World.store_db, Database.table_set_same,
      Database.table_set_apart]
    exact hdecided.withActivations fun r' hr' hrunning hof => .inr (h r' hr' hrunning hof)

/-- The two rows are of one Run. -/
class KeepsHome (r r' : Run) : Prop where
  same : r'.home = r.home

instance (r : Run) (agentConfigRevision : Nat) (causalRootId parentAttentionId : String)
    (parentRunId : Option String) (delegationDepth : Nat) (state : RunState)
    (revision activationGeneration nextInputSequence nextActivitySequence : Nat)
    (createdEventSequence : Option Nat) (createdAt updatedAt : Timestamp)
    (terminalReason : Option String) :
    KeepsHome r ⟨r.id, r.projectId, r.homeChannelId, r.threadRootId, r.ownerAgentId,
      agentConfigRevision, causalRootId, parentAttentionId, parentRunId, delegationDepth, state,
      revision, activationGeneration, nextInputSequence, nextActivitySequence,
      createdEventSequence, createdAt, updatedAt, terminalReason⟩ := ⟨rfl⟩

instance (p : Run → Bool) (f : Run → Run) (h : KeepsKeys f) [hf : ∀ r, KeepsHome r (f r)] :
    Within (DecisionsMove kernel) (updateRows p f h) := by
  refine Within.updateRows fun w => .of_runs fun run hrun => ?_
  refine ⟨_, Table.mem_update.mpr ⟨run, hrun, rfl⟩, ?_⟩
  split
  · exact (hf run).same
  · rfl

instance (run : Run) : Within (DecisionsMove kernel) (insertRow run) where
  step w := by
    obtain ⟨u, hu, hrun⟩ | hrun := insertRow_cases run w
    · rw [hrun]
      exact .of_runs fun r hr => ⟨r, (Table.mem_insert? hu).mpr (.inl hr), rfl⟩
    · rw [hrun]
      exact refl_of (DecisionsMove kernel) w

/-- The two rows are one input of one Run. -/
class KeepsSource (i i' : RunInput) : Prop where
  same : i'.source = i.source

instance (i : RunInput) (id messageRevisionId : String) (runInputSequence : Nat)
    (assignedByPrincipalId : String) (assignedByActivationId : Option String)
    (createdEventSequence : Option Nat) (createdAt : Timestamp)
    (disposition : RunInputDisposition) (dispositionRevision : Nat)
    (dispositionReason supersededByRunInputId : Option String) :
    KeepsSource i ⟨id, i.runId, messageRevisionId, runInputSequence, assignedByPrincipalId,
      assignedByActivationId, i.sourceAttentionId, createdEventSequence, createdAt, disposition,
      dispositionRevision, dispositionReason, supersededByRunInputId⟩ := ⟨rfl⟩

instance (p : RunInput → Bool) (f : RunInput → RunInput) (h : KeepsKeys f)
    [hf : ∀ r, KeepsSource r (f r)] : Within (DecisionsMove kernel) (updateRows p f h) := by
  refine Within.updateRows fun w => .of_inputs fun hdecided => ?_
  refine hdecided.mapInputs fun i => ?_
  split
  · exact (hf i).same
  · rfl

/-- An input that comes from no Attention. -/
instance (id runId messageRevisionId : String) (runInputSequence : Nat)
    (assignedByPrincipalId : String) (assignedByActivationId : Option String)
    (createdEventSequence : Option Nat) (createdAt : Timestamp)
    (disposition : RunInputDisposition) (dispositionRevision : Nat)
    (dispositionReason supersededByRunInputId : Option String) :
    Within (DecisionsMove kernel) (insertRow (⟨id, runId, messageRevisionId, runInputSequence,
      assignedByPrincipalId, assignedByActivationId, none, createdEventSequence, createdAt,
      disposition, dispositionRevision, dispositionReason, supersededByRunInputId⟩ :
      RunInput)) where
  step w := by
    obtain ⟨u, hu, hrun⟩ | hrun := insertRow_cases (_ : RunInput) w
    · rw [hrun]
      refine .of_inputs fun hdecided => ?_
      rw [Table.insert?_eq_some hu]
      exact hdecided.appendInput rfl
    · rw [hrun]
      exact refl_of (DecisionsMove kernel) w

/-- The two rows are of one Activation, which does not start again. -/
class KeepsHolder (r r' : ActivationAttempt) : Prop where
  holder : r'.holder = r.holder
  running : r'.Running → r.Running

instance (r : ActivationAttempt) (id agentId : String) (runId : Option String)
    (runActivationGeneration : Option Nat) (cause : ActivationCause) (configRevision : Nat)
    (createdEventSequence : Option Nat) (startedAt expiresAt : Timestamp)
    (revocationReason : Option String) (outcome : Option ActivationOutcome)
    (detail : Option String) :
    KeepsHolder r ⟨id, agentId, runId, r.attentionId, r.attentionLeaseToken,
      runActivationGeneration, cause, configRevision, createdEventSequence, startedAt, expiresAt,
      r.revokedAt, revocationReason, r.finishedAt, outcome, detail⟩ := ⟨rfl, fun h => h⟩

instance (r : ActivationAttempt) (id agentId : String) (runId : Option String)
    (runActivationGeneration : Option Nat) (cause : ActivationCause) (configRevision : Nat)
    (createdEventSequence : Option Nat) (startedAt expiresAt finishedAt : Timestamp)
    (revokedAt : Option Timestamp) (revocationReason : Option String)
    (outcome : Option ActivationOutcome) (detail : Option String) :
    KeepsHolder r ⟨id, agentId, runId, r.attentionId, r.attentionLeaseToken,
      runActivationGeneration, cause, configRevision, createdEventSequence, startedAt, expiresAt,
      revokedAt, revocationReason, some finishedAt, outcome, detail⟩ :=
  ⟨rfl, fun h => by cases h.1⟩

theorem revoke_not_running {revokedAt : Timestamp} {reason : String} {r : ActivationAttempt} :
    ¬ (r.revoke revokedAt reason).Running := by
  intro h
  have hnone : r.revokedAt.or (some revokedAt) = none := h.2
  cases hrevoked : r.revokedAt <;> simp [hrevoked] at hnone

instance (revokedAt : Timestamp) (reason : String) (r : ActivationAttempt) :
    KeepsHolder r (r.revoke revokedAt reason) :=
  ⟨rfl, fun h => absurd h revoke_not_running⟩

instance (p : ActivationAttempt → Bool) (f : ActivationAttempt → ActivationAttempt)
    (h : KeepsKeys f) [hf : ∀ r, KeepsHolder r (f r)] :
    Within (DecisionsMove kernel) (updateRows p f h) := by
  refine Within.updateRows fun w => .of_activations fun r' hr' hrunning _ => ?_
  obtain ⟨r, hr, rfl⟩ := Table.mem_update.mp hr'
  split at hrunning
  · rename_i hp
    exact ⟨r, hr, (hf r).running hrunning, by rw [if_pos hp]; exact (hf r).holder.symm⟩
  · rename_i hp
    exact ⟨r, hr, hrunning, by rw [if_neg hp]⟩

instance (p : ActivationAttempt → Bool) (f : ActivationAttempt → ActivationAttempt)
    (h : KeepsKeys f) [hf : ∀ r, KeepsHolder r (f r)] :
    Within (DecisionsMove kernel) (updateActivations p f h) := by
  unfold updateActivations
  infer_instance

/-- An Activation of a Run. -/
instance (id agentId : String) (runId : Option String) (runActivationGeneration : Option Nat)
    (cause : ActivationCause) (configRevision : Nat) (createdEventSequence : Option Nat)
    (startedAt expiresAt : Timestamp) (revokedAt : Option Timestamp)
    (revocationReason : Option String) (finishedAt : Option Timestamp)
    (outcome : Option ActivationOutcome) (detail : Option String) :
    Within (DecisionsMove kernel) (insertRow (⟨id, agentId, runId, none, none,
      runActivationGeneration, cause, configRevision, createdEventSequence, startedAt, expiresAt,
      revokedAt, revocationReason, finishedAt, outcome, detail⟩ : ActivationAttempt)) where
  step w := by
    obtain ⟨u, hu, hrun⟩ | hrun := insertRow_cases (_ : ActivationAttempt) w
    · rw [hrun]
      refine .of_activations fun r' hr' hrunning hof => ?_
      cases (Table.mem_insert? hu).mp hr' with
      | inl hold => exact ⟨r', hold, hrunning, rfl⟩
      | inr hnew =>
          subst hnew
          cases hof
    · rw [hrun]
      exact refl_of (DecisionsMove kernel) w

/-- A change of the fences alone. -/
theorem DecisionsMove.of_fences {u : Table AttentionDomainFence}
    (hmove : DomainsMove kernel w (w.store u))
    (h : (∀ f ∈ w.db.table AttentionDomainFence, f.leaseToken = none →
        0 < f.unsettledProviderAttemptCount) →
      ∀ f ∈ u, f.leaseToken = none → 0 < f.unsettledProviderAttemptCount) :
    DecisionsMove kernel w (w.store u) where
  domains := hmove
  decided _ hdecided := by
    refine ⟨?_, fun a ha _ => by simpa [Database.table_set_apart] using ha⟩
    simp only [Database.Decided, World.store_db, Database.table_set_same,
      Database.table_set_apart]
    exact { hdecided with busy := h hdecided.busy }

instance (attentionId : Option String) : Within (DecisionsMove kernel)
    (updateRows (fun r : AttentionDomainFence => some r.attentionId = attentionId) (fun r =>
      { r with unsettledProviderAttemptCount := r.unsettledProviderAttemptCount + 1 })
        ⟨fun _ => rfl⟩) := by
  have hmove : ∀ w, DomainsMove kernel w (updateRows
      (fun r : AttentionDomainFence => some r.attentionId = attentionId) (fun r =>
        { r with unsettledProviderAttemptCount := r.unsettledProviderAttemptCount + 1 })
          ⟨fun _ => rfl⟩ w).2 := Within.step
  refine Within.updateRows fun w => .of_fences (hmove w) fun hbusy f' hf' hnone => ?_
  obtain ⟨f, hf, rfl⟩ := Table.mem_update.mp hf'
  split
  · exact Nat.succ_pos _
  · rename_i hother
    rw [if_neg hother] at hnone
    exact hbusy f hf hnone

/-- Attempts that end leave no fence behind that nobody holds. -/
instance (old new : ProviderAttempt) :
    Commits (DecisionsMove kernel) (attentionDomainProviderUpdate old new) := by
  apply Commits.of_ok
  intro w u w' hrun
  have hmove : DomainsMove kernel w w' := Within.of_eq hrun
  simp only [attentionDomainProviderUpdate, activationAttentionId, bind_eq_ok,
    selectRow_eq_ok] at hrun
  obtain ⟨execution, _, ⟨-, rfl⟩, hrun⟩ := hrun
  split at hrun
  · simp only [bind_eq_ok, selectRow_eq_ok, throwIf_eq_ok, updateRows_eq_ok,
      deleteRows_eq_ok, pure_eq_ok] at hrun
    obtain ⟨attentionId, _, ⟨activation, _, ⟨-, rfl⟩, -, rfl⟩, fence, _, ⟨-, rfl⟩, _, _, ⟨-, rfl⟩,
      _, _, rfl, rfl⟩ := hrun
    refine ⟨hmove, fun _ hdecided => ⟨?_, fun a ha _ => by simpa [Database.table_set_apart]⟩⟩
    simp only [Database.Decided, World.store_db, Database.table_set_same,
      Database.table_set_apart]
    refine { hdecided with busy := fun f' hf' hnone => ?_ }
    obtain ⟨hf', hkept⟩ := List.mem_filter.mp hf'
    obtain ⟨f, hf, rfl⟩ := Table.mem_update.mp hf'
    by_cases hof : decide (some f.attentionId = attentionId) = true
    · rw [if_pos hof] at hkept hnone ⊢
      have hid : some (f.recount new.status).attentionId = attentionId := of_decide_eq_true hof
      simpa [hid, hnone, Nat.pos_iff_ne_zero] using hkept
    · rw [if_neg hof] at hnone ⊢
      exact hdecided.busy f hf hnone
  · obtain ⟨-, rfl⟩ := pure_eq_ok.mp hrun
    exact refl_of (DecisionsMove kernel) w

/-- A new Attention is Open, and no other row changes. -/
instance (site : MentionSite) (targetAgentId : String) :
    Commits (DecisionsMove kernel) (openAttention kernel site targetAgentId) := by
  apply Commits.of_ok
  intro w u w' hrun
  have hmove : DomainsMove kernel w w' := Within.of_eq hrun
  simp only [openAttention, bind_eq_ok, newId_eq_ok, selectTable_eq_ok, insertRow_eq_ok,
    updateRows_eq_ok] at hrun
  obtain ⟨id, _, ⟨-, rfl⟩, table, _, ⟨-, rfl⟩, _, _, ⟨t, ht, rfl⟩, eventSequence, w₁, hemit, _, _,
    rfl, hhistory⟩ := hrun
  have hemitted : SameRows _ w₁ := Within.of_eq hemit
  have hrecorded : SameRows _ w' := Within.of_eq hhistory
  obtain ⟨row, hinsert, hid, hopen⟩ : ∃ row : Attention,
      (w.db.table Attention).insert? row = some t ∧ row.id = id ∧ row.status = .Open :=
    ⟨_, ht, rfl, rfl⟩
  have hother : ∀ a ∈ w.db.table Attention, a.id ≠ id := by
    intro a ha heq
    refine Table.not_mem_keys_of_insert? hinsert ha (k := ⟨1, [.text a.id]⟩) ?_ ?_
    · simp [Keyed.keys]
    · simp [Keyed.keys, heq, hid]
  refine ⟨hmove, fun _ hdecided => ⟨hrecorded.decided.mpr ?_, fun a ha hstatus => ?_⟩⟩
  · have hopened : w₁.db.Decided := by
      rw [hemitted.decided]
      simp only [Database.Decided, World.store_db, Database.table_set_same,
        Database.table_set_apart, Table.insert?_eq_some hinsert]
      exact hdecided.appendAttention hopen
    simp only [Database.Decided, World.store_db, Database.table_set_same,
      Database.table_set_apart]
    refine hopened.mapAttentions (fun a _ => ?_) fun r' hr' hrunning _ =>
      ⟨⟨r', hr', hrunning, rfl⟩, fun a _ _ => ?_⟩
    all_goals split <;> rfl
  · rw [hrecorded.table_eq Attention (by decide), World.store_db, Database.table_set_same]
    refine Table.mem_update.mpr ⟨a, ?_, if_neg (by simpa using hother a ha)⟩
    rw [hemitted.table_eq Attention (by decide), World.store_db, Database.table_set_same]
    exact (Table.mem_insert? hinsert).mpr (.inl ha)

end Statements

/-! ## Claims -/

section Claims

set_option synthInstance.maxSize 400000

variable {kernel : KernelContext} {w w' : World} {a : Attention} {leaseToken : String}
  {leaseExpiresAt at' : Timestamp}

theorem updateActivations_rows {p : ActivationAttempt → Bool}
    {f : ActivationAttempt → ActivationAttempt} {h : KeepsKeys f} {ids : List String}
    (hrun : updateActivations p f h w = (.ok ids, w')) :
    (w'.db.table ActivationAttempt).rows =
        (w.db.table ActivationAttempt).rows.map (fun r => if p r then f r else r) ∧
      SameTables [.attentions, .attentionDomainFences, .runInputs, .runs] w w' := by
  have hother : SameTables [.attentions, .attentionDomainFences, .runInputs, .runs] w w' :=
    Within.of_eq hrun
  simp only [updateActivations, bind_eq_ok, selectRows_eq_ok, updateRows_eq_ok,
    pure_eq_ok] at hrun
  obtain ⟨changed, _, ⟨-, rfl⟩, _, w₁, rfl, _, w₂, hbump, -, rfl⟩ := hrun
  have hsame : SameRows _ w₂ := Within.of_eq hbump
  refine ⟨?_, hother⟩
  rw [hsame.table_eq ActivationAttempt (by decide), World.store_db, Database.table_set_same]
  rfl

/-- A claim takes the lease of no decided Attention, and what still runs keeps its lease. -/
theorem claimAttentionDomain_decided {superseded : Option SupersededAttention}
    (hagree : DomainsAgree w.db) (hdecided : w.db.Decided)
    (h : claimAttentionDomain a leaseToken leaseExpiresAt at' w = (.ok superseded, w')) :
    ∃ g : Attention → Attention, (∀ x, (g x).decision = x.decision) ∧
      (∀ x ∈ w.db.table Attention, x.status ≠ .Open → g x = x) ∧
      (w'.db.table Attention).rows = (w.db.table Attention).rows.map g ∧
      (∀ r ∈ w'.db.table ActivationAttempt, r.Running → r ∈ w.db.table ActivationAttempt ∧
        ∀ x, r.attentionId = some x.id → g x = x) ∧
      SameTables [.runInputs, .runs] w w' := by
  have hother : SameTables [.runInputs, .runs] w w' := Within.of_eq h
  simp only [claimAttentionDomain, bind_eq_ok, selectRow_eq_ok] at h
  obtain ⟨fence, _, ⟨hfence, rfl⟩, h⟩ := h
  cases fence with
  | none =>
      simp only [Option.elim_none, bind_eq_ok, insertRow_eq_ok, pure_eq_ok] at h
      obtain ⟨_, _, ⟨u, hu, rfl⟩, -, rfl⟩ := h
      refine ⟨id, fun _ => rfl, fun _ _ _ => rfl, ?_, fun r hr _ => ⟨?_, fun _ _ => rfl⟩, hother⟩
      · rw [World.store_db, Database.table_set_apart, List.map_id]
      · rwa [World.store_db, Database.table_set_apart] at hr
  | some existing =>
      obtain ⟨hexisting, hdomain⟩ := Table.find?_eq_some hfence
      simp only [Option.elim_some, takeOverAttentionDomain, bind_eq_ok, throwIf_eq_ok,
        updateKeys_eq_ok, pure_eq_ok] at h
      obtain ⟨_, _, ⟨hfree, rfl⟩, superseded, w₁, hsupersede, _, _, ⟨t, ht, rfl⟩, -, rfl⟩ := h
      rw [World.store_db, Database.table_set_apart, Database.table_set_apart]
      split at hsupersede
      · simp only [supersedeAttention, requireAttention, bind_eq_ok, requireRow_eq_ok,
          throwIf_eq_ok, pure_eq_ok] at hsupersede
        obtain ⟨_, w₂, ⟨previous, _, ⟨hprevious, rfl⟩, _, _, ⟨-, rfl⟩, _, w₃, hupdate,
          activationIds, w₄, hrevoke, _, w₅, hmark, -, rfl⟩, -, rfl⟩ := hsupersede
        obtain ⟨hattentions, -, -⟩ := updateAttention_rows hupdate
        obtain ⟨hactivations, hrevoked⟩ := updateActivations_rows hrevoke
        have hmarked : SameRows w₄ w₅ := Within.of_eq hmark
        obtain ⟨hmem, hid⟩ := Table.find?_eq_some hprevious
        have hid : previous.id = existing.attentionId := by simpa using hid
        have hbefore : SameTables [.activationAttempts] w w₃ := Within.of_eq hupdate
        have hopen : previous.status = .Open := by
          obtain ⟨x, hx, hguards⟩ := hagree.points existing hexisting
          rw [attention_eq hmem hx (hid.trans hguards.attentionId)]
          refine hagree.open' x hx ?_
          rw [← hguards.leaseToken]
          by_contra hnone
          have hcount := hdecided.busy existing hexisting (by simpa using hnone)
          simp [hcount] at hfree
        refine ⟨fun r => if r.id = previous.id then
            { r with
              revision := previous.revision + 1
              handlerLeaseHolderPrincipalId := none
              handlerLeaseToken := none
              handlerLeaseExpiresAt := none } else r, ?_, ?_, ?_, ?_, hother⟩
        · intro x
          dsimp only
          split <;> rfl
        · intro x hx hstatus
          refine if_neg fun heq => hstatus ?_
          rw [attention_eq hx hmem heq, hopen]
        · rw [hmarked.table_eq Attention (by decide), hrevoked.table_eq Attention (by decide),
            hattentions]
        · intro r' hr' hrunning
          rw [hmarked.table_eq ActivationAttempt (by decide), ← Table.mem_rows, hactivations,
            hbefore.table_eq ActivationAttempt (by decide)] at hr'
          obtain ⟨r, hr, rfl⟩ := List.mem_map.mp hr'
          split at hrunning
          · exact absurd hrunning revoke_not_running
          · rename_i hkept
            rw [if_neg hkept]
            refine ⟨hr, fun x hof => if_neg fun heq => hkept ?_⟩
            simp [hof, heq, hrunning.1, hrunning.2]
      · obtain ⟨-, rfl⟩ := pure_eq_ok.mp hsupersede
        exact ⟨id, fun _ => rfl, fun _ _ _ => rfl, (List.map_id _).symm,
          fun r hr _ => ⟨hr, fun _ _ => rfl⟩, hother⟩

instance (command : ClaimAttentionCommand) (principal : Principal) (correlationId : String) :
    Commits (DecisionsMove kernel) (claimAttention kernel command principal correlationId) := by
  apply Commits.of_ok
  intro w result w' hrun
  have hmove : DomainsMove kernel w w' := Commits.of_eq_ok hrun
  have hother : SameTables [.runInputs, .runs] w w' := Within.of_eq hrun
  simp only [claimAttention, requireAttention, bind_eq_ok, requireKind_eq_ok, throwIf_eq_ok,
    requireRow_eq_ok, checkRevision_eq_ok, readClock_eq_ok, newId_eq_ok, pure_eq_ok] at hrun
  obtain ⟨_, _, ⟨-, rfl⟩, _, _, ⟨-, rfl⟩, a, _, ⟨hfound, rfl⟩, _, _, ⟨hopen, rfl⟩, _, _, ⟨-, rfl⟩,
    now, _, ⟨-, rfl⟩, _, _, ⟨-, rfl⟩, leaseToken, _, ⟨-, rfl⟩, superseded, w₁, htake, _, w₂,
    hrecord, changed, w₃, hrevoke, _, w₄, hmark, _, w₅, hclaim, eventSequence, w₆, hevent, _, w₇,
    hhistory, -, rfl⟩ := hrun
  refine ⟨hmove, fun hagree hdecided => ?_⟩
  obtain ⟨ha, hid⟩ := Table.find?_eq_some hfound
  have hid : a.id = command.attentionId := by simpa using hid
  obtain ⟨g, hdecision, hkept, hattentions, hrunning, -⟩ :=
    claimAttentionDomain_decided (w := w.tick.issue) hagree hdecided htake
  obtain ⟨-, n, -, hgranted, -, hfences, -⟩ :=
    claimAttentionDomain_spec (w := w.tick.issue) hagree ha htake
  obtain ⟨hactivations, hrevoked⟩ := updateActivations_rows hrevoke
  obtain ⟨hclaimed, hfence, -⟩ := updateAttention_rows hclaim
  have hrecorded : SameRows w₁ w₂ := Within.of_eq hrecord
  have hmarked : SameRows w₃ w₄ := Within.of_eq hmark
  have hlent : SameTables [.activationAttempts] w₄ w₅ := Within.of_eq hclaim
  have hafter : SameRows w₅ w₇ := trans_of _ (Within.of_eq hevent) (Within.of_eq hhistory)
  have hrows : (w₇.db.table Attention).rows = (w.db.table Attention).rows.map fun x =>
      if (g x).id = a.id then (g x).claim (a.revision + 1) principal.id leaseToken
        (now + command.leaseDurationMs.toNat) else g x := by
    rw [hafter.table_eq Attention (by decide), hclaimed, hmarked.table_eq Attention (by decide),
      hrevoked.table_eq Attention (by decide), hrecorded.table_eq Attention (by decide),
      hattentions, List.map_map, hid]
    rfl
  have hids : ∀ x, (g x).id = x.id := fun x => congrArg (·.1.1) (hdecision x)
  have hself : ∀ x ∈ w.db.table Attention, x.status ≠ .Open → x.id ≠ a.id :=
    fun x hx hstatus heq => hstatus (attention_eq hx ha heq ▸ not_not.mp hopen)
  refine ⟨?_, fun x hx hstatus => ?_⟩
  · rw [Database.Decided, hother.table_eq RunInput (by decide), hother.table_eq Run (by decide),
      hrows]
    refine { hdecided.mapAttentions (fun x _ => ?_) fun r' hr' hrun _ => ?_ with
      busy := fun f hf hnone => ?_ }
    · split
      · exact hdecision x
      · exact hdecision x
    · rw [hafter.table_eq ActivationAttempt (by decide),
        hlent.table_eq ActivationAttempt (by decide),
        hmarked.table_eq ActivationAttempt (by decide), hactivations] at hr'
      obtain ⟨r, hr, rfl⟩ := List.mem_map.mp hr'
      split at hrun
      · exact absurd hrun revoke_not_running
      · rename_i hout
        rw [if_neg hout]
        rw [Table.mem_rows, hrecorded.table_eq ActivationAttempt (by decide)] at hr
        obtain ⟨hbefore, hsame⟩ := hrunning r hr hrun
        refine ⟨⟨r, hbefore, hrun, rfl⟩, fun x _ hof => ?_⟩
        have hne : (g x).id ≠ a.id := by
          intro heq
          rw [hids] at heq
          simp [hof, heq, hid, hrun.2] at hout
        rw [if_neg hne, hsame x hof]
    · rw [hafter.table_eq AttentionDomainFence (by decide), hfence,
        hmarked.table_eq AttentionDomainFence (by decide),
        hrevoked.table_eq AttentionDomainFence (by decide),
        hrecorded.table_eq AttentionDomainFence (by decide)] at hf
      obtain rfl | ⟨hold, -⟩ := (hfences f).mp hf
      · rw [hgranted.leaseToken] at hnone
        cases hnone
      · exact hdecided.busy f hold hnone
  · rw [← Table.mem_rows, hrows]
    refine List.mem_map.mpr ⟨x, hx, ?_⟩
    rw [hkept x hx hstatus, if_neg (hself x hx hstatus)]

end Claims

/-! ## Decisions -/

section Decisions

set_option synthInstance.maxSize 400000

variable {kernel : KernelContext} {w w' : World} {principal : Principal}
  {context : PrincipalContext} {decision : AttentionDecisionContext} {now : Timestamp}
  {reason : String}

/-- The Attention that is decided is Open, and the Activation that decides it runs for it. -/
structure AttentionDecisionContext.Stands (decision : AttentionDecisionContext) (w : World)
    (attentionId : String) : Prop where
  attention : decision.attention ∈ w.db.table Attention
  id : decision.attention.id = attentionId
  undecided : decision.attention.status = .Open
  agent : decision.agent.id = decision.attention.targetAgentId
  activation : decision.activation ∈ w.db.table ActivationAttempt
  attentionId : decision.activation.attentionId = some attentionId
  running : decision.activation.Running

theorem assertActivationScopeCurrent_running {activation : ActivationAttempt} {u : Unit}
    (h : assertActivationScopeCurrent kernel activation w = (.ok u, w')) :
    activation.Running := by
  simp only [assertActivationScopeCurrent, bind_eq_ok, readClock_eq_ok, reject_eq_ok] at h
  obtain ⟨scope, w₁, -, now, _, ⟨-, rfl⟩, hvalid, -⟩ := h
  rw [Option.map_eq_none_iff, activationValidityAt_eq_none] at hvalid
  exact ⟨hvalid.1, hvalid.2.1⟩

theorem requireAttentionDecisionContext_stands {command : AttentionDecision}
    (h : requireAttentionDecisionContext kernel command principal context w =
      (.ok decision, w')) :
    decision.Stands w command.attentionId ∧ SameRows w w' := by
  have hsame : SameRows w w' := Within.of_eq h
  simp only [requireAttentionDecisionContext, requireAttention, requireLiveActivation,
    requireActivation, bind_eq_ok, requireKind_eq_ok, throwIf_eq_ok, requireRow_eq_ok,
    pure_eq_ok] at h
  obtain ⟨_, _, ⟨-, rfl⟩, agent, w₁, hagent, attention, _, ⟨hattention, rfl⟩, _, _, ⟨hagentId, rfl⟩,
    _, _, ⟨hopen, rfl⟩, _, w₂, hrevision, _, w₃, hlease, _, _, ⟨-, rfl⟩, activation, _,
    ⟨_, _, ⟨hactivation, rfl⟩, _, _, ⟨-, rfl⟩, rfl, rfl⟩, _, _, ⟨hof, rfl⟩, _, w₅, hcurrent, rfl,
    rfl⟩ := h
  have hread : SameRows w w₁ := Within.of_eq hagent
  have hread' : SameRows w₁ w₃ := trans_of _ (Within.of_eq hrevision) (Within.of_eq hlease)
  obtain ⟨hmem, hid⟩ := Table.find?_eq_some hattention
  obtain ⟨hmem', -⟩ := Table.find?_eq_some hactivation
  rw [hread.table_eq Attention (by decide)] at hmem
  rw [hread'.table_eq ActivationAttempt (by decide),
    hread.table_eq ActivationAttempt (by decide)] at hmem'
  simp only [not_or, not_not] at hof
  exact ⟨⟨hmem, by simpa using hid, not_not.mp hopen, not_not.mp hagentId, hmem', hof.1,
    assertActivationScopeCurrent_running hcurrent⟩, hsame⟩

/-- No other Activation runs for an Attention than the one that decides it. -/
theorem AttentionDecisionContext.Stands.alone {attentionId : String}
    (h : decision.Stands w attentionId) (hdecided : w.db.Decided) :
    DecidedAlone (w.db.table Attention).rows (w.db.table ActivationAttempt).rows
      ((w.db.table ActivationAttempt).rows.map fun r =>
        if r.id = decision.activation.id then r.finishDecision now reason else r)
      decision.attention where
  mem := h.attention
  undecided := h.undecided
  sole x hx hid := attention_eq hx h.attention hid
  alone r' hr' hrunning := by
    obtain ⟨r, hr, rfl⟩ := List.mem_map.mp hr'
    split at hrunning
    · cases hrunning.1
    · rename_i hother
      rw [if_neg hother]
      refine ⟨fun hof => hother ?_, r, hr, hrunning, rfl⟩
      have hof' : decision.activation.attentionId = some decision.attention.id :=
        h.attentionId.trans (congrArg some h.id.symm)
      have hheld : ∀ x ∈ w.db.table ActivationAttempt, x.Running →
          x.attentionId = some decision.attention.id →
            decision.attention.handlerLeaseToken.isSome = true ∧
              x.attentionLeaseToken = decision.attention.handlerLeaseToken := by
        intro x hx hxrunning hxof
        obtain ⟨a, ha, hlends⟩ := hdecided.running x hx hxrunning (by simp [hxof])
        have hid := Option.some.inj (hxof.symm.trans hlends.1)
        rw [attention_eq h.attention ha hid]
        exact hlends.2
      obtain ⟨hsome, htoken⟩ := hheld r hr hrunning hof
      obtain ⟨-, htoken'⟩ := hheld _ h.activation h.running hof'
      obtain ⟨token, heq⟩ := Option.isSome_iff_exists.mp hsome
      have hsame : r = decision.activation := by
        refine Table.eq_of_key hr h.activation
          (k := ⟨1, [.text decision.attention.id, .text token]⟩) ?_ ?_
        · simp [Keyed.keys, hof, htoken, heq]
        · simp [Keyed.keys, hof', htoken', heq]
      rw [hsame]

theorem finishAttentionActivation_rows {activationId : String} {u : Unit}
    (h : finishAttentionActivation activationId now reason w = (.ok u, w')) :
    (w'.db.table ActivationAttempt).rows = (w.db.table ActivationAttempt).rows.map (fun r =>
      if r.id = activationId then r.finishDecision now reason else r) ∧
      SameTables [.attentions, .attentionDomainFences, .runInputs, .runs] w w' := by
  have hother : SameTables [.attentions, .attentionDomainFences, .runInputs, .runs] w w' :=
    Within.of_eq h
  simp only [finishAttentionActivation, bind_eq_ok] at h
  obtain ⟨changed, w₁, hupdate, hmark⟩ := h
  have hmarked : SameRows w₁ w' := Within.of_eq hmark
  refine ⟨?_, hother⟩
  rw [hmarked.table_eq ActivationAttempt (by decide), (updateActivations_rows hupdate).1]
  simp only [decide_eq_true_eq]

theorem decideAttention_rows {attentionId : String} {outcome : AttentionOutcome} {u : Unit}
    (h : decideAttention attentionId outcome w = (.ok u, w')) :
    (w'.db.table Attention).rows = (w.db.table Attention).rows.map (fun r =>
      if r.id = attentionId then r.decide outcome else r) ∧
      ((∀ f ∈ w.db.table AttentionDomainFence, f.leaseToken = none →
        0 < f.unsettledProviderAttemptCount) →
        ∀ f ∈ w'.db.table AttentionDomainFence, f.leaseToken = none →
          0 < f.unsettledProviderAttemptCount) ∧
      SameTables [.runInputs, .runs, .activationAttempts] w w' := by
  have hother : SameTables [.runInputs, .runs, .activationAttempts] w w' := Within.of_eq h
  simp only [decideAttention, releaseAttentionDomainLease, bind_eq_ok, updateRows_eq_ok,
    deleteRows_eq_ok] at h
  obtain ⟨_, w₁, hdecide, _, w₂, rfl, rfl⟩ := h
  obtain ⟨hattentions, hfences, -⟩ := updateAttention_rows hdecide
  refine ⟨?_, fun hbusy f' hf' hnone => ?_, hother⟩
  · simp only [World.store_db, Database.table_set_apart, hattentions]
  · simp only [World.store_db, Database.table_set_same] at hf'
    obtain ⟨hf', hkept⟩ := List.mem_filter.mp hf'
    obtain ⟨f, hf, rfl⟩ := Table.mem_update.mp hf'
    rw [hfences] at hf
    by_cases hof : decide (f.attentionId = attentionId) = true
    · rw [if_pos hof] at hkept ⊢
      simpa [of_decide_eq_true hof, Nat.pos_iff_ne_zero] using hkept
    · rw [if_neg hof] at hnone ⊢
      exact hbusy f hf hnone

/-- The tables in which a decision ends the Attention, its lease and its Activation. -/
abbrev SameEnds (w w' : World) : Prop :=
  SameTables [.attentions, .attentionDomainFences, .activationAttempts] w w'

/-- The Attention is decided, and its lease and the Activation that decided it are over. -/
structure AttentionDecisionContext.Ends (decision : AttentionDecisionContext)
    (outcome : AttentionOutcome) (now : Timestamp) (reason : String) (w w' : World) : Prop where
  attentions : (w'.db.table Attention).rows = (w.db.table Attention).rows.map fun r =>
    if r.id = decision.attention.id then r.decide outcome else r
  activations : (w'.db.table ActivationAttempt).rows =
    (w.db.table ActivationAttempt).rows.map fun r =>
      if r.id = decision.activation.id then r.finishDecision now reason else r
  busy : (∀ f ∈ w.db.table AttentionDomainFence, f.leaseToken = none →
      0 < f.unsettledProviderAttemptCount) →
    ∀ f ∈ w'.db.table AttentionDomainFence, f.leaseToken = none →
      0 < f.unsettledProviderAttemptCount

theorem AttentionDecisionContext.ends_of {attentionId : String} {outcome : AttentionOutcome}
    {w₁ w₂ w₃ w₄ : World} {u v : Unit} (hid : decision.attention.id = attentionId)
    (hbefore : SameEnds w w₁)
    (hfinish : finishAttentionActivation decision.activation.id now reason w₁ = (.ok u, w₂))
    (hbetween : SameEnds w₂ w₃)
    (hdecide : decideAttention attentionId outcome w₃ = (.ok v, w₄)) (hafter : SameEnds w₄ w') :
    decision.Ends outcome now reason w w' := by
  obtain ⟨hactivations, hfinished⟩ := finishAttentionActivation_rows hfinish
  obtain ⟨hattentions, hbusy, hdecided⟩ := decideAttention_rows hdecide
  constructor
  · rw [hafter.table_eq Attention (by decide), hattentions,
      hbetween.table_eq Attention (by decide), hfinished.table_eq Attention (by decide),
      hbefore.table_eq Attention (by decide), hid]
  · rw [hafter.table_eq ActivationAttempt (by decide),
      hdecided.table_eq ActivationAttempt (by decide),
      hbetween.table_eq ActivationAttempt (by decide), hactivations,
      hbefore.table_eq ActivationAttempt (by decide)]
  · rw [hafter.table_eq AttentionDomainFence (by decide),
      ← hbefore.table_eq AttentionDomainFence (by decide),
      ← hfinished.table_eq AttentionDomainFence (by decide),
      ← hbetween.table_eq AttentionDomainFence (by decide)]
    exact hbusy

/-- A decision with the input it adds, if any. -/
theorem AttentionDecisionContext.Ends.decided {attentionId : String} {outcome : AttentionOutcome}
    (h : decision.Ends outcome now reason w w') (new : Option RunInput)
    (hstands : decision.Stands w attentionId) (hdecided : w.db.Decided)
    (hinputs : (w'.db.table RunInput).rows = (w.db.table RunInput).rows ++ new.toList)
    (hruns : ∀ run ∈ w.db.table Run, ∃ run' ∈ w'.db.table Run, run'.home = run.home)
    (hnew : ∀ i ∈ new, outcome.status = .Resolved ∧ i.sourceAttentionId = some attentionId)
    (hresolved : outcome.status = .Resolved → ∃ i ∈ new, ∃ run ∈ w'.db.table Run,
      (decision.attention.decide outcome).ContinuesAs i run) :
    w'.db.Decided ∧ KeepsDecided w w' := by
  constructor
  · rw [Database.Decided, h.attentions, h.activations, hinputs]
    exact DecisionsHold.decide hdecided (hstands.alone hdecided) (h.busy hdecided.busy) hruns
      (fun i hi => ⟨(hnew i hi).1, (hnew i hi).2.trans (congrArg some hstands.id.symm)⟩) hresolved
  · intro x hx hstatus
    rw [← Table.mem_rows, h.attentions]
    refine List.mem_map.mpr ⟨x, hx, if_neg fun heq => hstatus ?_⟩
    rw [attention_eq hx hstands.attention heq, hstands.undecided]

instance (command : IgnoreAttentionCommand) (principal : Principal) (context : PrincipalContext)
    (correlationId : String) : Commits (DecisionsMove kernel)
      (ignoreAttention kernel command principal context correlationId) := by
  apply Commits.of_ok
  intro w result w' hrun
  have hmove : DomainsMove kernel w w' := by
    unfold ignoreAttention at hrun
    exact Commits.of_eq_ok hrun
  have hother : SameTables [.runInputs, .runs] w w' := Within.of_eq hrun
  simp only [ignoreAttention, bind_eq_ok, pure_eq_ok] at hrun
  obtain ⟨decision, w₁, hcontext, _, w₂, hreason, now, w₃, hnow, _, w₄, hfinish, _, w₅, hdecide,
    _, w₆, hrecord, -, rfl⟩ := hrun
  obtain ⟨hstands, -⟩ := requireAttentionDecisionContext_stands hcontext
  have hbefore : SameEnds w w₃ := trans_of _ (trans_of _ (Within.of_eq hcontext)
    (Within.of_eq hreason)) (Within.of_eq hnow)
  have hends := AttentionDecisionContext.ends_of hstands.id hbefore hfinish
    (refl_of SameEnds w₄) hdecide (Within.of_eq hrecord)
  refine ⟨hmove, fun _ hdecided => hends.decided none hstands hdecided ?_ ?_ ?_ ?_⟩
  · rw [hother.table_eq RunInput (by decide), Option.toList_none, List.append_nil]
  · rw [hother.table_eq Run (by decide)]
    exact fun run hrun => ⟨run, hrun, rfl⟩
  · exact fun i hi => by cases hi
  · exact fun h => by cases h

theorem createRunInput_rows {run : Run} {messageRevisionId assignedByPrincipalId : String}
    {assignedByActivationId sourceAttentionId : Option String} {position : RunInputPosition}
    (h : createRunInput kernel run messageRevisionId assignedByPrincipalId
      assignedByActivationId sourceAttentionId w = (.ok position, w')) :
    ∃ i : RunInput, i.runId = run.id ∧ i.sourceAttentionId = sourceAttentionId ∧
      (w'.db.table RunInput).rows = (w.db.table RunInput).rows ++ [i] ∧
      SameEnds w w' ∧ SameTables [.runs] w w' := by
  have hends : SameEnds w w' := Within.of_eq h
  have hruns : SameTables [.runs] w w' := Within.of_eq h
  simp only [createRunInput, bind_eq_ok, newId_eq_ok, now_eq_ok, insertRow_eq_ok,
    pure_eq_ok] at h
  obtain ⟨id, _, ⟨-, rfl⟩, createdAt, _, ⟨-, rfl⟩, _, _, ⟨t, ht, rfl⟩, -, rfl⟩ := h
  obtain ⟨i, hrows, hrunId, hsource⟩ : ∃ i : RunInput,
      t.rows = (w.db.table RunInput).rows ++ [i] ∧ i.runId = run.id ∧
        i.sourceAttentionId = sourceAttentionId := ⟨_, Table.insert?_eq_some ht, rfl, rfl⟩
  refine ⟨i, hrunId, hsource, ?_, hends, hruns⟩
  rw [World.store_db, Database.table_set_same, hrows]

/-- The Run that is continued is the target Agent's, in the Thread of the Attention. -/
theorem requireContinuedRun_found {command : ResolveAttentionWithExistingRunCommand} {run : Run}
    (h : requireContinuedRun command decision w = (.ok run, w')) :
    run ∈ w.db.table Run ∧ run.home = (command.runId, decision.agent.id,
      decision.attention.projectId, decision.attention.channelId,
      decision.attention.threadRootId) := by
  simp only [requireContinuedRun, bind_eq_ok, requireRun_eq_ok, throwIf_eq_ok] at h
  obtain ⟨found, _, ⟨hfound, rfl⟩, _, _, ⟨howner, rfl⟩, _, _, ⟨hhome, rfl⟩, _, _, ⟨-, rfl⟩, _,
    w₁, -, hrun⟩ := h
  obtain ⟨rfl, -⟩ := pure_eq_ok.mp hrun
  obtain ⟨hmem, hid⟩ := Table.find?_eq_some hfound
  simp only [not_or, not_not] at howner hhome
  refine ⟨hmem, ?_⟩
  simp only [Run.home, Prod.mk.injEq]
  exact ⟨by simpa using hid, howner, hhome.1, hhome.2.1, hhome.2.2⟩

theorem updateRuns_rows {p : Run → Bool} {f : Run → Run} {h : KeepsKeys f} {u : Unit}
    (hrun : updateRows p f h w = (.ok u, w')) (hhome : ∀ r, (f r).home = r.home) :
    (∀ run ∈ w.db.table Run, ∃ run' ∈ w'.db.table Run, run'.home = run.home) ∧
      SameEnds w w' ∧ SameTables [.runInputs] w w' := by
  have hends : SameEnds w w' := Within.of_eq hrun
  have hinputs : SameTables [.runInputs] w w' := Within.of_eq hrun
  refine ⟨fun run hmem => ?_, hends, hinputs⟩
  obtain rfl := updateRows_eq_ok.mp hrun
  rw [World.store_db, Database.table_set_same]
  refine ⟨_, Table.mem_update.mpr ⟨run, hmem, rfl⟩, ?_⟩
  split
  · exact hhome run
  · rfl

theorem insertRun_rows {run : Run} {u : Unit} (hrun : insertRow run w = (.ok u, w')) :
    run ∈ w'.db.table Run ∧ (∀ r ∈ w.db.table Run, r ∈ w'.db.table Run) ∧
      SameEnds w w' ∧ SameTables [.runInputs] w w' := by
  have hends : SameEnds w w' := Within.of_eq hrun
  have hinputs : SameTables [.runInputs] w w' := Within.of_eq hrun
  obtain ⟨t, ht, rfl⟩ := insertRow_eq_ok.mp hrun
  rw [World.store_db, Database.table_set_same]
  exact ⟨(Table.mem_insert? ht).mpr (.inr rfl), fun r hr => (Table.mem_insert? ht).mpr (.inl hr),
    hends, hinputs⟩

theorem run_eq {r r' : Run} (hr : r ∈ w.db.table Run) (hr' : r' ∈ w.db.table Run)
    (hid : r.id = r'.id) : r = r' := by
  refine Table.eq_of_key hr hr' (k := primaryKey [.text r.id]) ?_ ?_
  · simp [Keyed.keys]
  · simp [Keyed.keys, hid]

instance (command : ResolveAttentionWithExistingRunCommand) (principal : Principal)
    (context : PrincipalContext) (correlationId : String) : Commits (DecisionsMove kernel)
      (resolveAttentionWithExistingRun kernel command principal context correlationId) := by
  apply Commits.of_ok
  intro w result w' hrun
  have hmove : DomainsMove kernel w w' := by
    unfold resolveAttentionWithExistingRun at hrun
    exact Commits.of_eq_ok hrun
  simp only [resolveAttentionWithExistingRun, bind_eq_ok, pure_eq_ok] at hrun
  obtain ⟨decision, w₁, hcontext, run, w₂, hcontinued, now, w₃, hnow, input, w₄, hinput, _, w₅,
    hrevise, _, w₆, hfinish, _, w₇, hdecide, cursor, w₈, hemit, _, w₉, hrecord, _, w₁₀, hwake, -,
    rfl⟩ := hrun
  obtain ⟨hstands, hread⟩ := requireAttentionDecisionContext_stands hcontext
  obtain ⟨hmem, hhome⟩ := requireContinuedRun_found hcontinued
  obtain ⟨i, hrunId, hsource, hinputs, hadded, hruns⟩ := createRunInput_rows hinput
  obtain ⟨hhomes, hrevised, hinputs'⟩ := updateRuns_rows hrevise fun _ => rfl
  have hcreated : SameRows w w₃ := trans_of _ (trans_of _ hread (Within.of_eq hcontinued))
    (Within.of_eq hnow)
  have hlast : SameRows w₇ w₁₀ := trans_of _ (trans_of _ (Within.of_eq hemit)
    (Within.of_eq hrecord)) (Within.of_eq hwake)
  have hended : SameTables [.runInputs, .runs] w₅ w₇ :=
    trans_of _ (Within.of_eq hfinish) (Within.of_eq hdecide)
  have hbefore : SameEnds w w₅ := trans_of _ (trans_of _ (trans_of _ (trans_of _
    (Within.of_eq hcontext) (Within.of_eq hcontinued)) (Within.of_eq hnow)) hadded) hrevised
  have hends := AttentionDecisionContext.ends_of hstands.id hbefore hfinish
    (refl_of SameEnds w₆) hdecide (trans_of _ (trans_of _ (Within.of_eq hemit)
      (Within.of_eq hrecord)) (Within.of_eq hwake))
  have hruns' : w₄.db.table Run = w.db.table Run :=
    (hruns.table_eq Run (by decide)).trans (hcreated.table_eq Run (by decide))
  have hlater : w₁₀.db.table Run = w₅.db.table Run :=
    (hlast.table_eq Run (by decide)).trans (hended.table_eq Run (by decide))
  refine ⟨hmove, fun _ hdecided => hends.decided (some i) hstands hdecided ?_ ?_ ?_ ?_⟩
  · rw [hlast.table_eq RunInput (by decide), hended.table_eq RunInput (by decide),
      hinputs'.table_eq RunInput (by decide), hinputs, hcreated.table_eq RunInput (by decide)]
    rfl
  · rw [hlater, ← hruns']
    exact hhomes
  · rintro j ⟨⟩
    exact ⟨rfl, hsource⟩
  · intro _
    rw [hread.table_eq Run (by decide), ← hruns'] at hmem
    obtain ⟨run', hrun', hhome'⟩ := hhomes run hmem
    refine ⟨i, rfl, run', hlater ▸ hrun', ?_⟩
    have hat := hhome'.trans hhome
    simp only [Run.home, Prod.mk.injEq] at hhome' hhome hat
    exact ⟨hsource.trans (congrArg some hstands.id.symm), congrArg some hat.1.symm,
      hrunId.trans hhome'.1.symm, hat.2.1.trans hstands.agent, hat.2.2.1, hat.2.2.2.1,
      hat.2.2.2.2⟩

instance (command : ResolveAttentionWithRunCommand) (principal : Principal)
    (context : PrincipalContext) (correlationId : String) : Commits (DecisionsMove kernel)
      (resolveAttentionWithRun kernel command principal context correlationId) := by
  apply Commits.of_ok
  intro w result w' hrun
  have hmove : DomainsMove kernel w w' := by
    unfold resolveAttentionWithRun at hrun
    exact Commits.of_eq_ok hrun
  simp only [resolveAttentionWithRun, bind_eq_ok, requireRun_eq_ok, pure_eq_ok] at hrun
  obtain ⟨decision, w₁, hcontext, admission, w₂, hadmit, runId, w₃, hissue, now, w₄, hnow, _, w₅,
    hinsert, run, _, ⟨hfound, rfl⟩, input, w₆, hinput, _, w₇, hfinish, _, w₈, hrevise, _, w₉,
    hdecide, cursor, w₁₀, hemit, _, w₁₁, hrecord, _, w₁₂, hwake, -, rfl⟩ := hrun
  obtain ⟨hstands, hread⟩ := requireAttentionDecisionContext_stands hcontext
  obtain ⟨hnew, hold, hinserted, hsameInputs⟩ := insertRun_rows hinsert
  obtain ⟨i, hrunId, hsource, hinputs, hadded, hsameRuns⟩ := createRunInput_rows hinput
  obtain ⟨hhomes, hrevised, hsameInputs'⟩ := updateRuns_rows hrevise fun _ => rfl
  obtain ⟨hmem, hid⟩ := Table.find?_eq_some hfound
  obtain rfl := run_eq hmem hnew (by simpa using hid)
  have hcreated : SameRows w w₄ := trans_of _ (trans_of _ (trans_of _ hread
    (Within.of_eq hadmit)) (Within.of_eq hissue)) (Within.of_eq hnow)
  have hlast : SameRows w₉ w₁₂ := trans_of _ (trans_of _ (Within.of_eq hemit)
    (Within.of_eq hrecord)) (Within.of_eq hwake)
  have hfinished : SameTables [.runInputs, .runs] w₆ w₇ := Within.of_eq hfinish
  have hended : SameTables [.runInputs, .runs] w₈ w₉ := Within.of_eq hdecide
  have hbefore : SameEnds w w₆ := trans_of _ (trans_of _ (trans_of _ (trans_of _ (trans_of _
    (Within.of_eq hcontext) (Within.of_eq hadmit)) (Within.of_eq hissue)) (Within.of_eq hnow))
      hinserted) hadded
  have hends := AttentionDecisionContext.ends_of hstands.id hbefore hfinish hrevised hdecide
    (trans_of _ (trans_of _ (Within.of_eq hemit) (Within.of_eq hrecord)) (Within.of_eq hwake))
  have hlater : w₁₂.db.table Run = w₈.db.table Run :=
    (hlast.table_eq Run (by decide)).trans (hended.table_eq Run (by decide))
  have hruns : w₇.db.table Run = w₅.db.table Run :=
    (hfinished.table_eq Run (by decide)).trans (hsameRuns.table_eq Run (by decide))
  rw [hruns] at hhomes
  refine ⟨hmove, fun _ hdecided => hends.decided (some i) hstands hdecided ?_ ?_ ?_ ?_⟩
  · rw [hlast.table_eq RunInput (by decide), hended.table_eq RunInput (by decide),
      hsameInputs'.table_eq RunInput (by decide), hfinished.table_eq RunInput (by decide),
      hinputs, hsameInputs.table_eq RunInput (by decide), hcreated.table_eq RunInput (by decide)]
    rfl
  · rw [hlater, ← hcreated.table_eq Run (by decide)]
    exact fun run hrun => hhomes run (hold run hrun)
  · rintro j ⟨⟩
    exact ⟨rfl, hsource⟩
  · intro _
    obtain ⟨run', hrun', hhome⟩ := hhomes _ hmem
    refine ⟨i, rfl, run', hlater ▸ hrun', ?_⟩
    simp only [Run.home, Prod.mk.injEq] at hhome
    exact ⟨hsource.trans (congrArg some hstands.id.symm), congrArg some hhome.1.symm,
      hrunId.trans hhome.1.symm, hhome.2.1.trans hstands.agent, hhome.2.2.1, hhome.2.2.2.1,
      hhome.2.2.2.2⟩

end Decisions

/-! ## Commands -/

section Commands

set_option synthInstance.maxSize 400000

variable {kernel : KernelContext} {w w' : World}

theorem createActivation_rows {new : NewActivation} {principal : Principal}
    {correlationId : String} {result : CommandResult}
    (h : createActivation kernel new principal correlationId w = (.ok result, w')) :
    ∀ r ∈ w'.db.table ActivationAttempt, r ∈ w.db.table ActivationAttempt ∨
      r.attentionId = new.attentionId ∧ r.attentionLeaseToken = new.attentionLeaseToken := by
  simp only [createActivation, insertActivation, bind_eq_ok, insertRow_eq_ok, pure_eq_ok] at h
  obtain ⟨id, w₁, hissue, _, w₂, ⟨_, _, ⟨t, ht, rfl⟩, hexecution⟩, inputs, w₃, hselect, _, w₄,
    hinputs, eventSequence, w₅, hemit, -, rfl⟩ := h
  have hafter : SameTables [.activationAttempts] _ w₅ := trans_of _ (trans_of _ (trans_of _
    (Within.of_eq hexecution) (Within.of_eq hselect)) (Within.of_eq hinputs)) (Within.of_eq hemit)
  have hissued : SameTables [.activationAttempts] w w₁ := Within.of_eq hissue
  intro r hr
  rw [hafter.table_eq ActivationAttempt (by decide), World.store_db,
    Database.table_set_same] at hr
  cases (Table.mem_insert? ht).mp hr with
  | inl hold => exact .inl (hissued.table_eq ActivationAttempt (by decide) ▸ hold)
  | inr hnew =>
      subst hnew
      exact .inr ⟨rfl, rfl⟩

/-- An Activation of an Attention starts under its lease. -/
instance (command : StartActivationCommand) (attentionId : String) (now expiresAt : Timestamp)
    (principal : Principal) (correlationId : String) :
    Commits (DecisionsMove kernel) (startAttentionActivation kernel command attentionId now
      expiresAt principal correlationId) := by
  apply Commits.of_ok
  intro w result w' hrun
  have hmove : DomainsMove kernel w w' := Within.of_eq hrun
  have hother : SameTables [.attentions, .attentionDomainFences, .runInputs, .runs] w w' :=
    Within.of_eq hrun
  simp only [startAttentionActivation, requireAttention, bind_eq_ok, requireRow_eq_ok,
    throwIf_eq_ok, require_eq_ok, selectRow_eq_ok] at hrun
  obtain ⟨attention, _, ⟨hattention, rfl⟩, _, _, ⟨-, rfl⟩, _, w₁, hlease, leaseExpiry, _, ⟨-, rfl⟩,
    existing, _, ⟨-, rfl⟩, hstart⟩ := hrun
  obtain ⟨hmem, hid⟩ := Table.find?_eq_some hattention
  have hid : attention.id = attentionId := by simpa using hid
  have hread : SameTables [.activationAttempts] w w₁ := Within.of_eq hlease
  have hheld : truthy command.handlerLeaseToken = true ∧
      attention.handlerLeaseToken = command.handlerLeaseToken := by
    simp only [assertAttentionLease, bind_eq_ok, throwIf_eq_ok] at hlease
    obtain ⟨_, _, ⟨hheld, -⟩, -⟩ := hlease
    simpa only [not_or, not_not] using hheld
  have hrows : ∀ r ∈ w'.db.table ActivationAttempt, r ∈ w.db.table ActivationAttempt ∨
      r.attentionId = some attentionId ∧ r.attentionLeaseToken = command.handlerLeaseToken := by
    intro r hr
    rw [← hread.table_eq ActivationAttempt (by decide)]
    cases existing with
    | some existing =>
        obtain ⟨-, rfl⟩ := pure_eq_ok.mp hstart
        exact .inl hr
    | none =>
        simp only [Option.elim_none, bind_eq_ok] at hstart
        obtain ⟨agent, w₂, hagent, hcreate⟩ := hstart
        have hread' : SameTables [.activationAttempts] w₁ w₂ := Within.of_eq hagent
        rw [← hread'.table_eq ActivationAttempt (by decide)]
        exact createActivation_rows hcreate r hr
  refine ⟨hmove, fun _ hdecided => ⟨?_, fun a ha _ => ?_⟩⟩
  · rw [Database.Decided, hother.table_eq Attention (by decide),
      hother.table_eq AttentionDomainFence (by decide), hother.table_eq RunInput (by decide),
      hother.table_eq Run (by decide)]
    refine hdecided.withActivations fun r hr hrunning _ => ?_
    cases hrows r hr with
    | inl hold => exact .inr ⟨r, hold, hrunning, rfl⟩
    | inr hnew =>
        left
        refine ⟨attention, hmem, hnew.1.trans (congrArg some hid.symm), ?_,
          hnew.2.trans hheld.2.symm⟩
        rw [hheld.2]
        cases htoken : command.handlerLeaseToken with
        | none =>
            rw [htoken] at hheld
            cases hheld.1
        | some _ => rfl
  · rw [hother.table_eq Attention (by decide)]
    exact ha

variable (kernel)

instance (runId reason : String) (revokedAt : Timestamp) :
    Within (DecisionsMove kernel) (revokeRunActivations runId reason revokedAt) := by
  unfold revokeRunActivations
  infer_instance

instance (new : ProviderAttempt) :
    Within (DecisionsMove kernel) (attentionDomainProviderInsert new) := by
  unfold attentionDomainProviderInsert
  infer_instance

instance (attempt : ProviderAttempt) :
    Within (DecisionsMove kernel) (insertProviderAttempt attempt) := by
  unfold insertProviderAttempt
  infer_instance

instance (id : String) (f : ProviderAttempt → ProviderAttempt) (h : KeepsKeys f) :
    Commits (DecisionsMove kernel) (updateProviderAttempt id f h) := by
  unfold updateProviderAttempt
  infer_instance

instance (providerAttemptId : String) (status : ProviderAttemptStatus) (detail : Option String)
    (commandType : CommandType) (principal : Principal) (context : PrincipalContext)
    (correlationId : String) :
    Commits (DecisionsMove kernel) (setProviderAttemptStatus kernel providerAttemptId status detail
      commandType principal context correlationId) := by
  unfold setProviderAttemptStatus
  infer_instance

instance (input : NewRevision) :
    Commits (DecisionsMove kernel) (appendMessageRevision kernel input) := by
  unfold appendMessageRevision mentionAgent
  infer_instance

instance (input : NewMessage) : Commits (DecisionsMove kernel) (createMessage kernel input) := by
  unfold createMessage mentionAgent
  infer_instance

instance (runId activationId : String) (providerAttemptId : Option String) (kind : String)
    (payload : Json) (retentionClass : RetentionClass) :
    Within (DecisionsMove kernel) (insertActivity kernel runId activationId providerAttemptId kind
      payload retentionClass) := by
  unfold insertActivity
  infer_instance

instance (run : Run) (termination : Termination) (reason : String) (principal : Principal)
    (activationId : Option String) (correlationId : String) (commandType : CommandType) :
    Within (DecisionsMove kernel) (terminateRun kernel run termination reason principal
      activationId correlationId commandType) := by
  unfold terminateRun
  infer_instance

instance (run : Run) (runId : String) (generation : Nat) (now : Timestamp) (principal : Principal)
    (correlationId : String) :
    Within (DecisionsMove kernel)
      (activateRun kernel run runId generation now principal correlationId) := by
  unfold activateRun
  infer_instance

/-- The Activation of a Run is of no Attention. -/
instance (command : StartActivationCommand) (runId : String) (now expiresAt : Timestamp)
    (principal : Principal) (correlationId : String) :
    Within (DecisionsMove kernel) (startRunActivation kernel command runId now expiresAt principal
      correlationId) := by
  unfold startRunActivation createActivation insertActivation
  infer_instance

instance (command : KernelCommand) (context : PrincipalContext) (principal : Principal)
    (correlationId : String) :
    Commits (DecisionsMove kernel)
      (dispatchCommand kernel command context principal correlationId) := by
  unfold dispatchCommand
  cases command with
  | StartThread => unfold startThread; infer_instance
  | ReplyToThread => unfold replyToThread; infer_instance
  | EditMessage => unfold editMessage; infer_instance
  | DeleteMessage => unfold deleteMessage; infer_instance
  | AdoptRunConfig => unfold adoptRunConfig; infer_instance
  | SendToRun => unfold sendToRun createRunInput; infer_instance
  | WithdrawRunInput => unfold withdrawRunInput; infer_instance
  | CancelRun => unfold cancelRun; infer_instance
  | StartActivation => unfold startActivation; infer_instance
  | FinishActivation => unfold finishActivation; infer_instance
  | StartProviderAttempt => unfold startProviderAttempt; infer_instance
  | FinishProviderAttempt => unfold finishProviderAttempt; infer_instance
  | FailProviderAttempt => unfold failProviderAttempt; infer_instance
  | ParkRunAfterProviderAttemptFailure =>
      unfold parkRunAfterProviderAttemptFailure
      infer_instance
  | AppendRunActivity => unfold appendRunActivity; infer_instance
  | PublishRunReply => unfold publishRunReply; infer_instance
  | CompleteRun =>
      unfold completeRun publishFinalReply disposeRunInputs completeRunInput disposeRunInput
      infer_instance
  | WaitRun => unfold waitRun; infer_instance
  | FailRun => unfold failRun; infer_instance
  | RecordLateOutput => unfold recordLateOutput; infer_instance
  | _ => infer_instance

instance (correlationId : String) (eventSequence : Nat) :
    Within (DecisionsMove kernel) (markImmutableComponents correlationId eventSequence) := by
  unfold markImmutableComponents
  infer_instance

instance (eventSequence : Nat) (runId : String) :
    Within (DecisionsMove kernel) (recordAffectedRun eventSequence runId) := by
  unfold recordAffectedRun
  infer_instance

instance (correlationId : String) :
    Within (DecisionsMove kernel) (recordProjectionVersions correlationId) := by
  unfold recordProjectionVersions recordVersionsAt
  infer_instance

instance (command : KernelCommand) (result : CommandResult) (principal : Principal)
    (context : PrincipalContext) :
    Within (DecisionsMove kernel)
      (resolveCachedResult kernel command result principal context) := by
  unfold resolveCachedResult
  split <;> infer_instance

theorem step_decisionsMove (call : KernelCall) (w : World) :
    DecisionsMove kernel w (step kernel call w) :=
  step_within kernel call w fun _ _ _ _ => inferInstance

end Commands

/-! ## Runs -/

section Runs

variable {kernel : KernelContext} {w w' : World}

theorem decided_opened (h : Opened kernel w) : w.db.Decided := by
  have hframe : Frame [.attentions, .attentionDomainFences, .runInputs, .runs,
      .activationAttempts] World.blank w := h.frame
  rw [Database.Decided, hframe.table_eq Attention (by decide),
    hframe.table_eq AttentionDomainFence (by decide), hframe.table_eq RunInput (by decide),
    hframe.table_eq Run (by decide), hframe.table_eq ActivationAttempt (by decide)]
  exact .nil

theorem Steps.decisionsMove (hs : Steps kernel w w') : DecisionsMove kernel w w' :=
  hs.within fun w call => step_decisionsMove kernel call w

theorem Reachable.decided (h : Reachable kernel w) : w.db.Decided := by
  obtain ⟨w₀, hopened, hs⟩ := h
  exact (hs.decisionsMove.decided (domainsAgree_opened hopened) (decided_opened hopened)).1

/-- What the decisions of a state are, and stay. -/
structure DecisionsFinal (kernel : KernelContext) (w : World) : Prop where
  /-- An Attention that is not Open never changes again. -/
  final : ∀ w', Steps kernel w w' → ∀ a ∈ w.db.table Attention, a.status ≠ .Open →
    a ∈ w'.db.table Attention
  /-- A Resolved Attention has one input, in the Run it was resolved with. -/
  continued : ∀ a ∈ w.db.table Attention, a.status = .Resolved →
    ∃ i ∈ w.db.table RunInput, (∃ run ∈ w.db.table Run, a.ContinuesAs i run) ∧
      ∀ j ∈ w.db.table RunInput, j.sourceAttentionId = some a.id → j = i
  /-- An Attention that is not Resolved has none. -/
  unresolved : ∀ a ∈ w.db.table Attention, a.status ≠ .Resolved →
    ∀ i ∈ w.db.table RunInput, i.sourceAttentionId ≠ some a.id
  /-- No handler lease and no Activation outlives the decision. -/
  closed : ∀ a ∈ w.db.table Attention, a.status ≠ .Open → a.handlerLeaseToken = none ∧
    ∀ r ∈ w.db.table ActivationAttempt, r.attentionId = some a.id → ¬ r.Running

/-- An Attention is decided at most once, and its decision is all of what it stands for. -/
theorem decisions_final (h : Reachable kernel w) : DecisionsFinal kernel w := by
  have hagree := h.domainsAgree
  have hdecided := h.decided
  constructor
  · intro w' hs
    exact (hs.decisionsMove.decided hagree hdecided).2
  · intro a ha hstatus
    obtain ⟨i, hi, run, hrun, hcontinues⟩ := hdecided.resolved a ha hstatus
    refine ⟨i, hi, ⟨run, hrun, hcontinues⟩, fun j hj hsource => ?_⟩
    exact hdecided.single j hj i hi (by rw [hsource]; rfl)
      (hsource.trans hcontinues.sourceAttentionId.symm)
  · intro a ha hstatus i hi hsource
    obtain ⟨x, hx, hid, hresolved⟩ := hdecided.sourced i hi a.id hsource
    exact hstatus (attention_eq hx ha hid ▸ hresolved)
  · intro a ha hstatus
    have hnone : ¬ a.handlerLeaseToken.isSome = true :=
      fun hsome => hstatus (hagree.open' a ha hsome)
    refine ⟨by simpa using hnone, fun r hr hof hrunning => hnone ?_⟩
    obtain ⟨x, hx, hid, hheld, -⟩ := hdecided.running r hr hrunning (by rw [hof]; rfl)
    rwa [attention_eq ha hx (Option.some.inj (hof.symm.trans hid))]

end Runs

/-- The Attention that is handled is resolved with the Run its Agent creates. -/
theorem runWorld_decided :
    DecisionsFinal countingKernel runWorld ∧
      (runWorld.db.table Attention).rows.map (fun a => (a.id, a.status, a.resolvedRunId)) =
        [(issuedId 4, .Resolved, some (issuedId 15))] := by
  have hresolved : (runWorld.db.table Attention).rows.map
      (fun a => (a.id, a.status, a.resolvedRunId)) =
        [(issuedId 4, .Resolved, some (issuedId 15))] := by decide +kernel
  exact ⟨decisions_final runWorld_reachable, hresolved⟩

end Torsor.Kernel
