import Torsor.Kernel.RunMoves

/-! # The laws of Runs

What holds of the Runs of every reachable state and of every run of the Kernel from there:
at most one Activation of a Run is live, what is terminal stays as it is, every input has
its wake, and the revision counts the changes.
-/

namespace Torsor.Kernel

open Torsor.Library Tx

/-! ## Files of reachable states -/

section Files

variable {kernel : KernelContext} {w w' : World}

/-- When the database is opened there are no Runs. -/
theorem Opened.runBook (h : Opened kernel w) : runBook w.db = fun _ => RunFile.empty := by
  have hframe : Frame [.runs, .runInputs, .runActivityEvents, .activationAttempts, .outboxEvents]
    World.blank w := h.frame
  funext id
  simp only [Kernel.runBook, runFile, hframe.table_eq Run (by decide),
    hframe.table_eq RunInput (by decide), hframe.table_eq RunActivityEvent (by decide),
    hframe.table_eq ActivationAttempt (by decide), hframe.table_eq OutboxEvent (by decide)]
  rfl

def RunsSound (w : World) : Prop := ∀ id, (runBook w.db id).Sound

theorem Reachable.runSound (h : Reachable kernel w) : RunsSound w := by
  refine h.invariant (fun w hopen id => ?_) fun w call hsound id => ?_
  · rw [hopen.runBook]
    exact RunFile.sound_empty
  · exact (step_runs kernel call w).sound (hsound id)

theorem Steps.runEvolves (hs : Steps kernel w w') (id : String) :
    (runBook w.db id).Evolves (runBook w'.db id) :=
  hs.invariant (P := fun w' => (runBook w.db id).Evolves (runBook w'.db id)) (.refl _)
    fun w₁ call ih => ih.trans ((step_runs kernel call w₁).evolves id)

end Files

/-! ## Rows and files -/

section Rows

variable {db : Database} {id : String}

theorem runBook_of_mem {run : Run} (h : run ∈ db.table Run) :
    (runBook db run.id).run = some run.unstamped := by
  have hfound : (db.table Run).find? (fun r => r.id = run.id) = some run :=
    Table.find?_of_mem h (by simp) fun x hx =>
      ⟨primaryKey [.text x.id], by simp [Keyed.keys], by simp_all [Keyed.keys]⟩
  simp [runBook, runFile, hfound]

theorem mem_of_runBook {run : Run} (h : (runBook db id).run = some run) :
    ∃ r ∈ db.table Run, r.unstamped = run ∧ r.id = id := by
  obtain ⟨r, hr, rfl⟩ := Option.map_eq_some_iff.mp h
  obtain ⟨hmem, hid⟩ := Table.find?_eq_some hr
  exact ⟨r, hmem, rfl, of_decide_eq_true hid⟩

theorem mem_runBook_activations {a : ActivationAttempt} :
    a ∈ (runBook db id).activations ↔
      ∃ r ∈ db.table ActivationAttempt, r.runId = some id ∧ r.unstamped = a := by
  simp [runBook, runFile, Table.mem_filter, and_assoc]

theorem mem_runBook_inputs {i : RunInput} :
    i ∈ (runBook db id).inputs ↔ ∃ r ∈ db.table RunInput, r.runId = id ∧ r.unstamped = i := by
  simp [runBook, runFile, Table.mem_filter, and_assoc]

theorem activation_eq_of_id {a a' : ActivationAttempt} (ha : a ∈ db.table ActivationAttempt)
    (ha' : a' ∈ db.table ActivationAttempt) (h : a.id = a'.id) : a = a' :=
  Table.eq_of_key ha ha' (k := primaryKey [.text a.id]) (by simp [Keyed.keys])
    (by simp [Keyed.keys, h])

theorem runInput_eq_of_id {i i' : RunInput} (hi : i ∈ db.table RunInput)
    (hi' : i' ∈ db.table RunInput) (h : i.id = i'.id) : i = i' :=
  Table.eq_of_key hi hi' (k := primaryKey [.text i.id]) (by simp [Keyed.keys])
    (by simp [Keyed.keys, h])

end Rows

theorem RunInput.columns_of_unstamped {i i' : RunInput} (h : i'.unstamped = i.unstamped) :
    i'.id = i.id ∧ i'.disposition = i.disposition ∧
      i'.dispositionRevision = i.dispositionRevision := by
  simp only [RunInput.unstamped, RunInput.mk.injEq] at h
  simp only [h, and_self]

theorem Run.columns_of_withoutActivity {r r' : Run}
    (h : r'.unstamped.withoutActivity = r.unstamped.withoutActivity) :
    r'.state = r.state ∧ r'.revision = r.revision ∧
      r'.agentConfigRevision = r.agentConfigRevision ∧
      r'.activationGeneration = r.activationGeneration ∧ r'.terminalReason = r.terminalReason := by
  simp only [Run.unstamped, Run.withoutActivity, Run.mk.injEq] at h
  simp only [h, and_self]

/-! ## One live Activation -/

/-- The Activation is live at an instant, as one of the Run. -/
def LiveInRun (activation : ActivationAttempt) (run : Run) (at' : Timestamp) : Prop :=
  activation.runId = some run.id ∧ activationValidityAt activation (.Run run) at' = none

/-- The Activation is finished or revoked, or the Run has got a newer one. -/
def ActivationAttempt.OverIn (activation : ActivationAttempt) (run : Run) : Prop :=
  activation.runId = some run.id ∧
    (activation.finishedAt ≠ none ∨ activation.revokedAt ≠ none ∨
      ∃ generation, activation.runActivationGeneration = some generation ∧
        generation < run.activationGeneration)

section Live

variable {activation : ActivationAttempt} {run : Run} {at' : Timestamp}

theorem LiveInRun.not_ended (h : LiveInRun activation run at') : ¬ activation.Ended := by
  have hvalid := h.2
  unfold activationValidityAt at hvalid
  split at hvalid
  · cases hvalid
  · rename_i hfinished
    split at hvalid
    · cases hvalid
    · rename_i hrevoked
      exact not_or.mpr ⟨hfinished, hrevoked⟩

theorem LiveInRun.current (h : LiveInRun activation run at') :
    run.state = .Active ∧ activation.runActivationGeneration = some run.activationGeneration := by
  have hvalid := h.2
  simp only [activationValidityAt, runScopeInvalidity] at hvalid
  repeat' split at hvalid
  all_goals simp_all

end Live

section Laws

variable {kernel : KernelContext} {w : World}

/-- The Activations of a Run have different generations. -/
theorem Reachable.generation_inj (h : Reachable kernel w) {id : String}
    {a a' : ActivationAttempt} (ha : a ∈ w.db.table ActivationAttempt)
    (ha' : a' ∈ w.db.table ActivationAttempt) (hrun : a.runId = some id)
    (hrun' : a'.runId = some id)
    (hsame : a.runActivationGeneration = a'.runActivationGeneration) : a = a' := by
  by_contra hne
  have hexclusive := (h.runSound id).exclusive
  have hmem := mem_runBook_activations.mpr ⟨a, ha, hrun, rfl⟩
  have hmem' := mem_runBook_activations.mpr ⟨a', ha', hrun', rfl⟩
  have hviews : a.unstamped ≠ a'.unstamped := by
    intro heq
    have hid : a.unstamped.id = a'.unstamped.id := by rw [heq]
    exact hne (activation_eq_of_id ha ha' hid)
  have hsymm : Std.Symm fun x y : ActivationAttempt =>
      x.runActivationGeneration ≠ y.runActivationGeneration := ⟨fun _ _ => Ne.symm⟩
  exact hexclusive.distinct.forall hmem hmem' hviews hsame

/-- The row of a Run in a later state. -/
theorem Steps.run {w' : World} (hs : Steps kernel w w') {run : Run} (hrun : run ∈ w.db.table Run) :
    ∃ run' ∈ w'.db.table Run, run'.id = run.id ∧ run.unstamped.Evolves run'.unstamped := by
  obtain ⟨found, hfound, hevolves⟩ := (hs.runEvolves run.id).run _ (runBook_of_mem hrun)
  obtain ⟨run', hmem, rfl, hid⟩ := mem_of_runBook hfound
  exact ⟨run', hmem, hid, hevolves⟩

/-- The row of an input in a later state. -/
theorem Steps.input {w' : World} (hs : Steps kernel w w') {i : RunInput}
    (hi : i ∈ w.db.table RunInput) :
    ∃ i' ∈ w'.db.table RunInput, i'.id = i.id ∧ i.unstamped.Evolves i'.unstamped := by
  obtain ⟨dispose, new, hinputs, hdispose⟩ := (hs.runEvolves i.runId).inputs
  have hmem := mem_runBook_inputs.mpr ⟨i, hi, rfl, rfl⟩
  have hevolves := hdispose _ hmem
  have hlater : dispose i.unstamped ∈ (runBook w'.db i.runId).inputs := by
    rw [hinputs]
    exact List.mem_append_left _ (List.mem_map_of_mem hmem)
  obtain ⟨i', hi', -, hview⟩ := mem_runBook_inputs.mp hlater
  rw [← hview] at hevolves
  refine ⟨i', hi', ?_, hevolves⟩
  obtain hdispose | hsame := hevolves
  · have hid := RunInput.id_of_assignment hdispose.assignment
    exact hid
  · exact (RunInput.columns_of_unstamped hsame).1

/-- What is over in a state is over in its file. -/
theorem over_of_overIn {a : ActivationAttempt} {run : Run}
    (ha : a ∈ w.db.table ActivationAttempt) (hrun : run ∈ w.db.table Run)
    (hover : a.OverIn run) : (runBook w.db run.id).Over a.id := by
  intro a' ha' hid
  obtain ⟨r, hr, hrrun, rfl⟩ := mem_runBook_activations.mp ha'
  obtain rfl := activation_eq_of_id hr ha hid
  obtain ⟨-, hfinished | hrevoked | ⟨generation, hgeneration, hlt⟩⟩ := hover
  · exact .inl (.inl (Option.isSome_iff_ne_none.mpr hfinished))
  · exact .inl (.inr (Option.isSome_iff_ne_none.mpr hrevoked))
  · refine .inr fun found hfound hcurrent => ?_
    rw [runBook_of_mem hrun] at hfound
    cases hfound
    have hcurrent : r.runActivationGeneration = some run.activationGeneration := hcurrent
    rw [hgeneration] at hcurrent
    cases hcurrent
    omega

/-- At any instant a Run has at most one live Activation, the one of its generation, and none
unless the Run is Active; what is over stays over, whatever the Kernel does. -/
structure ActivationsExclusive (kernel : KernelContext) (w : World) : Prop where
  atMostOne : ∀ run ∈ w.db.table Run, ∀ a ∈ w.db.table ActivationAttempt,
    ∀ a' ∈ w.db.table ActivationAttempt, ∀ at',
      LiveInRun a run at' → LiveInRun a' run at' → a = a'
  current : ∀ run ∈ w.db.table Run, ∀ a ∈ w.db.table ActivationAttempt, ∀ at',
    LiveInRun a run at' → a.runActivationGeneration = some run.activationGeneration
  distinct : ∀ run ∈ w.db.table Run, ∀ a ∈ w.db.table ActivationAttempt,
    ∀ a' ∈ w.db.table ActivationAttempt, a.runId = some run.id → a'.runId = some run.id →
      a ≠ a' → a.runActivationGeneration ≠ a'.runActivationGeneration
  inactive : ∀ run ∈ w.db.table Run, run.state = .Waiting ∨ isTerminalRunState run.state = true →
    ∀ a ∈ w.db.table ActivationAttempt, ∀ at', ¬ LiveInRun a run at'
  generation : ∀ w', Steps kernel w w' → ∀ run ∈ w.db.table Run,
    ∃ run' ∈ w'.db.table Run, run'.id = run.id ∧
      run.activationGeneration ≤ run'.activationGeneration
  past : ∀ w', Steps kernel w w' → ∀ run ∈ w.db.table Run, ∀ a ∈ w.db.table ActivationAttempt,
    a.OverIn run → ∀ run' ∈ w'.db.table Run, run'.id = run.id →
      ∀ a' ∈ w'.db.table ActivationAttempt, a'.id = a.id → ∀ at', ¬ LiveInRun a' run' at'

theorem run_activations_exclusive (h : Reachable kernel w) : ActivationsExclusive kernel w where
  atMostOne run _ a ha a' ha' at' hlive hlive' :=
    h.generation_inj ha ha' hlive.1 hlive'.1 (hlive.current.2.trans hlive'.current.2.symm)
  current _ _ _ _ _ hlive := hlive.current.2
  distinct _ _ a ha a' ha' hof hof' hne hsame := hne (h.generation_inj ha ha' hof hof' hsame)
  inactive run _ hinactive a _ at' hlive := by
    rw [hlive.current.1] at hinactive
    obtain hwaiting | hterminal := hinactive
    · cases hwaiting
    · cases hterminal
  generation w' hs run hrun := by
    obtain ⟨run', hrun', hid, hevolves⟩ := hs.run hrun
    exact ⟨run', hrun', hid, hevolves.generation⟩
  past w' hs run hrun a ha hover run' hrun' hid a' ha' hsame at' hlive := by
    have hknown : ∃ b ∈ (runBook w.db run.id).activations, b.id = a.id :=
      ⟨_, mem_runBook_activations.mpr ⟨a, ha, hover.1, rfl⟩, rfl⟩
    have hlater := (hs.runEvolves run.id).over (h.runSound run.id)
      ((h.steps hs).runSound run.id) hknown (over_of_overIn ha hrun hover)
    obtain hended | hstale := hlater a'.unstamped
      (mem_runBook_activations.mpr ⟨a', ha', hid ▸ hlive.1, rfl⟩) hsame
    · exact hlive.not_ended hended
    · have hfile := runBook_of_mem hrun'
      rw [hid] at hfile
      exact hstale _ hfile hlive.current.2

theorem runWorld_activations_exclusive : ActivationsExclusive countingKernel runWorld :=
  run_activations_exclusive runWorld_reachable

/-! ## What is terminal stays -/

/-- A terminal Run has no Pending input and no Activation that could act, and nothing but its
activities changes any more; an input keeps the disposition it was given, and its disposition
revision counts the one change. -/
structure TerminalRunsFrozen (kernel : KernelContext) (w : World) : Prop where
  noPending : ∀ run ∈ w.db.table Run, isTerminalRunState run.state = true →
    ∀ i ∈ w.db.table RunInput, i.runId = run.id → i.disposition ≠ .Pending
  noActivation : ∀ run ∈ w.db.table Run, isTerminalRunState run.state = true →
    ∀ a ∈ w.db.table ActivationAttempt, a.runId = some run.id →
      a.finishedAt ≠ none ∨ a.revokedAt ≠ none
  frozen : ∀ run ∈ w.db.table Run, isTerminalRunState run.state = true →
    ∀ w', Steps kernel w w' →
      (∃ run' ∈ w'.db.table Run, run'.id = run.id ∧ run'.state = run.state ∧
        run'.revision = run.revision ∧ run'.agentConfigRevision = run.agentConfigRevision ∧
        run'.activationGeneration = run.activationGeneration ∧
        run'.terminalReason = run.terminalReason) ∧
      (runFile w'.db run.id).inputs = (runFile w.db run.id).inputs ∧
      ∃ late, (runFile w'.db run.id).activities = (runFile w.db run.id).activities ++ late
  disposed : ∀ w', Steps kernel w w' → ∀ i ∈ w.db.table RunInput, i.disposition ≠ .Pending →
    ∃ i' ∈ w'.db.table RunInput, i'.id = i.id ∧ i'.disposition = i.disposition ∧
      i'.dispositionRevision = i.dispositionRevision
  counted : ∀ call, ∀ i ∈ w.db.table RunInput, ∃ i' ∈ (step kernel call w).db.table RunInput,
    i'.id = i.id ∧ (i'.disposition ≠ i.disposition →
      i'.dispositionRevision = i.dispositionRevision + 1)

theorem terminal_runs_frozen (h : Reachable kernel w) : TerminalRunsFrozen kernel w where
  noPending run hrun hterminal i hi hof := by
    have hsettled := (h.runSound run.id).settled _ (runBook_of_mem hrun) hterminal i.unstamped
      (mem_runBook_inputs.mpr ⟨i, hi, hof, rfl⟩)
    exact hsettled
  noActivation run hrun hterminal a ha hof := by
    have hinactive : run.unstamped.state ≠ .Active := by
      intro hactive
      have hactive : run.state = .Active := hactive
      rw [hactive] at hterminal
      cases hterminal
    have hended := (h.runSound run.id).exclusive.ended _ (runBook_of_mem hrun) hinactive _
      (mem_runBook_activations.mpr ⟨a, ha, hof, rfl⟩)
    exact hended.imp Option.isSome_iff_ne_none.mp Option.isSome_iff_ne_none.mp
  frozen run hrun hterminal w' hs := by
    have hfile := hs.runEvolves run.id
    obtain ⟨run', hrun', hid, hevolves⟩ := hs.run hrun
    exact ⟨⟨run', hrun', hid, Run.columns_of_withoutActivity (hevolves.terminal hterminal)⟩,
      hfile.frozen _ (runBook_of_mem hrun) hterminal, hfile.activities⟩
  disposed w' hs i hi hdisposed := by
    obtain ⟨i', hi', hid, hdispose | hsame⟩ := hs.input hi
    · exact absurd hdispose.pending hdisposed
    · exact ⟨i', hi', hid, (RunInput.columns_of_unstamped hsame).2⟩
  counted call i hi := by
    obtain ⟨i', hi', hid, hevolves⟩ := Steps.input (.single ⟨call, rfl⟩) hi
    refine ⟨i', hi', hid, fun hchanged => ?_⟩
    obtain hdispose | hsame := hevolves
    · exact hdispose.revision
    · exact absurd (RunInput.columns_of_unstamped hsame).2.1 hchanged

theorem runWorld_terminal_runs_frozen : TerminalRunsFrozen countingKernel runWorld :=
  terminal_runs_frozen runWorld_reachable

/-! ## No lost wake -/

theorem announces_unstamped {wake : Wake} {i : RunInput} :
    wake.Announces i.unstamped ↔ wake.Announces i :=
  ⟨fun h => ⟨h.aggregateType, h.aggregateId, h.payload⟩,
    fun h => ⟨h.aggregateType, h.aggregateId, h.payload⟩⟩

theorem Wake.Announces.id_eq {wake : Wake} {i i' : RunInput} (h : wake.Announces i)
    (h' : wake.Announces i') : i.id = i'.id := by
  have hpayload := h.payload.symm.trans h'.payload
  simpa using hpayload

/-- Every input has one event that wakes its Run for it, and every event that wakes a Run does
so for an input; the inputs and the activities of a Run are numbered from 1 without a gap. -/
structure NoLostWake (w : World) : Prop where
  woken : ∀ i ∈ w.db.table RunInput, ∃! e, e ∈ w.db.table OutboxEvent ∧
    e.topic.wakesRun = true ∧ e.wake.Announces i
  caused : ∀ e ∈ w.db.table OutboxEvent, e.topic.wakesRun = true →
    ∃ i ∈ w.db.table RunInput, e.wake.Announces i
  inputs : ∀ run ∈ w.db.table Run, ∃ n,
    ((w.db.table RunInput).filter fun r => r.runId = run.id).map (·.runInputSequence) =
      List.range' 1 n ∧ run.nextInputSequence = n + 1
  activities : ∀ run ∈ w.db.table Run, ∃ m,
    ((w.db.table RunActivityEvent).filter fun r => r.runId = run.id).map (·.sequence) =
      List.range' 1 m ∧ run.nextActivitySequence = m + 1

theorem no_lost_wake (h : Reachable kernel w) : NoLostWake w where
  woken i hi := by
    have hannounced := (h.runSound i.runId).announced
    have hevents := List.forall₂_map_left_iff.mp hannounced.wakes
    have hmem := mem_runBook_inputs.mpr ⟨i, hi, rfl, rfl⟩
    obtain ⟨e, he, hwake⟩ := forall₂_mem_right hevents hmem
    obtain ⟨he, hwakes⟩ := Table.mem_filter.mp he
    have hwakesRun := (Bool.and_eq_true_iff.mp hwakes).1
    refine ⟨e, ⟨he, hwakesRun, announces_unstamped.mp hwake⟩, ?_⟩
    rintro e' ⟨he', hwakes', hwake'⟩
    refine forall₂_mem_unique hevents hannounced.ids (fun _ _ _ => Wake.Announces.id_eq)
      (Table.mem_filter.mpr ⟨he', ?_⟩) (Table.mem_filter.mpr ⟨he, hwakes⟩)
      (announces_unstamped.mpr hwake') hwake
    have haggregate : e'.aggregateId = i.runId := hwake'.aggregateId
    simp [hwakes', haggregate]
  caused e he hwakes := by
    have hevents := List.forall₂_map_left_iff.mp (h.runSound e.aggregateId).announced.wakes
    obtain ⟨i, hi, hwake⟩ := forall₂_mem_left hevents
      (Table.mem_filter.mpr ⟨he, by simp [hwakes]⟩)
    obtain ⟨r, hr, -, rfl⟩ := mem_runBook_inputs.mp hi
    exact ⟨r, hr, announces_unstamped.mp hwake⟩
  inputs run hrun := by
    have hnumbered := (h.runSound run.id).numbered
    have hnext := hnumbered.nextInput
    rw [runBook_of_mem hrun] at hnext
    have hinputs := hnumbered.inputs
    simp only [runBook, runFile, List.map_map] at hinputs
    exact ⟨_, hinputs, hnext⟩
  activities run hrun := by
    have hnumbered := (h.runSound run.id).numbered
    have hnext := hnumbered.nextActivity
    rw [runBook_of_mem hrun] at hnext
    have hactivities := hnumbered.activities
    simp only [runBook, runFile, List.map_map] at hactivities
    exact ⟨_, hactivities, hnext⟩

theorem runWorld_no_lost_wake : NoLostWake runWorld := no_lost_wake runWorld_reachable

/-! ## The revision of a Run -/

/-- The two states have the Run in the same state and configuration, with the same inputs and
the same dispositions of them. -/
structure SameWork (db db' : Database) (run run' : Run) : Prop where
  state : run'.state = run.state
  config : run'.agentConfigRevision = run.agentConfigRevision
  inputs : ∀ inputId disposition,
    (∃ i ∈ db'.table RunInput, i.runId = run'.id ∧ i.id = inputId ∧ i.disposition = disposition) ↔
      ∃ i ∈ db.table RunInput, i.runId = run.id ∧ i.id = inputId ∧ i.disposition = disposition

/-- The call changes what a Run is revised for. -/
def KernelCall.changesRun (kernel : KernelContext) (call : KernelCall) (w : World)
    (runId : String) : Prop :=
  ∃ run ∈ w.db.table Run, ∃ run' ∈ (step kernel call w).db.table Run, run.id = runId ∧
    run'.id = runId ∧ ¬ SameWork w.db (step kernel call w).db run run'

/-- The Run revision a command carries. -/
def KernelCommand.expectedRunRevision : KernelCommand → Option Int
  | .AdoptRunConfig command => some command.expectedRunRevision
  | .SendToRun command => command.expectedRunRevision
  | .CancelRun command => some command.expectedRunRevision
  | .WithdrawRunInput command => some command.expectedRunRevision
  | .ResolveAttentionWithExistingRun command => some command.expectedRunRevision
  | .StartActivation command => command.expectedRunRevision
  | .ParkRunAfterProviderAttemptFailure command => some command.expectedRunRevision
  | .PublishRunReply command => some command.expectedRunRevision
  | .PublishArtifact command => some command.expectedRunRevision
  | .CompleteRun command => some command.expectedRunRevision
  | .WaitRun command => some command.expectedRunRevision
  | .FailRun command => some command.expectedRunRevision
  | _ => none

def KernelCall.expectedRunRevision (call : KernelCall) : Option Int :=
  call.issued.bind fun issued => issued.command.expectedRunRevision

theorem KernelCommand.expects.carried {command : KernelCommand} {b : RunBook} {runId : String}
    {revision : Nat} (h : command.expects b runId revision) :
    command.expectedRunRevision = some (revision : Int) := by
  cases command with
  | WithdrawRunInput => exact congrArg some h.2
  | SendToRun | StartActivation => exact h.2
  | CompleteRun | WaitRun | FailRun | CancelRun | AdoptRunConfig
  | ParkRunAfterProviderAttemptFailure | ResolveAttentionWithExistingRun =>
      exact congrArg some h.2
  | _ => exact h.elim

theorem mem_work_inputs {db : Database} {runId inputId : String}
    {disposition : RunInputDisposition} :
    (inputId, disposition) ∈ (runBook db runId).work.2 ↔
      ∃ i ∈ db.table RunInput, i.runId = runId ∧ i.id = inputId ∧
        i.disposition = disposition := by
  simp only [RunFile.work, List.mem_map, Prod.mk.injEq, mem_runBook_inputs]
  constructor
  · rintro ⟨_, ⟨i, hi, hrun, rfl⟩, hid, hdisposition⟩
    exact ⟨i, hi, hrun, hid, hdisposition⟩
  · rintro ⟨i, hi, hrun, hid, hdisposition⟩
    exact ⟨_, ⟨i, hi, hrun, rfl⟩, hid, hdisposition⟩

/-- Inputs are only added and disposed of: the same ones with the same dispositions are the
same list. -/
theorem RunFile.Evolves.work_inputs {f f' : RunFile} (h : f.Evolves f') (hsound : f.Sound)
    (hsound' : f'.Sound) (hsame : ∀ entry, entry ∈ f'.work.2 ↔ entry ∈ f.work.2) :
    f'.work.2 = f.work.2 := by
  obtain ⟨dispose, new, hinputs, hdispose⟩ := h.inputs
  have hids := hsound'.announced.ids
  have hentries : ∀ i ∈ f'.inputs, ∃ i₀ ∈ f.inputs, i₀.id = i.id ∧
      i₀.disposition = i.disposition := by
    intro i hi
    have hentry := (hsame (i.id, i.disposition)).mp (List.mem_map_of_mem hi)
    obtain ⟨i₀, hi₀, heq⟩ := List.mem_map.mp hentry
    exact ⟨i₀, hi₀, congrArg Prod.fst heq, congrArg Prod.snd heq⟩
  have hkept : ∀ i ∈ f.inputs, (dispose i).id = i.id := by
    intro i hi
    obtain hdisposed | hsame := hdispose i hi
    · exact RunInput.id_of_assignment hdisposed.assignment
    · rw [hsame]
  have hnone : new = [] := by
    rw [List.eq_nil_iff_forall_not_mem]
    intro j hj
    obtain ⟨i, hi, hid, -⟩ := hentries j (hinputs ▸ List.mem_append_right _ hj)
    rw [hinputs, List.map_append, List.nodup_append] at hids
    exact hids.2.2 _ (List.mem_map_of_mem (List.mem_map_of_mem hi)) _ (List.mem_map_of_mem hj)
      ((hkept i hi).trans hid)
  rw [hnone, List.append_nil] at hinputs
  simp only [work, hinputs, List.map_map]
  refine List.map_congr_left fun i hi => Prod.ext (hkept i hi) ?_
  obtain ⟨i₀, hi₀, hid, hdisposition⟩ := hentries (dispose i)
    (hinputs ▸ List.mem_map_of_mem hi)
  rw [hkept i hi] at hid
  obtain rfl : i₀ = i := List.inj_on_of_nodup_map hsound.announced.ids hi₀ hi hid
  exact hdisposition.symm

theorem sameWork_iff {w' : World} (h : Reachable kernel w) (hs : Steps kernel w w')
    {run run' : Run} (hrun : run ∈ w.db.table Run) (hrun' : run' ∈ w'.db.table Run)
    (hid : run'.id = run.id) :
    SameWork w.db w'.db run run' ↔
      (runBook w'.db run.id).work = (runBook w.db run.id).work := by
  have hfile := runBook_of_mem hrun
  have hfile' := runBook_of_mem hrun'
  rw [hid] at hfile'
  constructor
  · intro hwork
    refine Prod.ext ?_ ?_
    · simp only [RunFile.work, hfile, hfile', Option.map_some, Option.some.injEq, Prod.mk.injEq]
      exact ⟨hwork.state, hwork.config⟩
    · refine (hs.runEvolves run.id).work_inputs (h.runSound _) ((h.steps hs).runSound _) ?_
      rintro ⟨inputId, disposition⟩
      have hinputs := hwork.inputs inputId disposition
      rw [hid] at hinputs
      exact mem_work_inputs.trans (hinputs.trans mem_work_inputs.symm)
  · intro hwork
    obtain ⟨hstate, hconfig⟩ := RunFile.work_run hfile hfile' hwork
    refine ⟨hstate, hconfig, fun inputId disposition => ?_⟩
    rw [hid, ← mem_work_inputs, ← mem_work_inputs, hwork]

/-- In one call the revision of a Run advances if the Run is changed, and then the call carries
the revision there was. -/
theorem step_revision (h : Reachable kernel w) (call : KernelCall) {run : Run}
    (hrun : run ∈ w.db.table Run) :
    ∃ run' ∈ (step kernel call w).db.table Run, run'.id = run.id ∧
      (¬ SameWork w.db (step kernel call w).db run run' ∧ run'.revision = run.revision + 1 ∧
          call.expectedRunRevision = some (run.revision : Int) ∨
        SameWork w.db (step kernel call w).db run run' ∧ run'.revision = run.revision) := by
  have hs : Steps kernel w (step kernel call w) := .single ⟨call, rfl⟩
  obtain ⟨run', hrun', hid, -⟩ := hs.run hrun
  have hfile' := runBook_of_mem hrun'
  rw [hid] at hfile'
  refine ⟨run', hrun', hid, ?_⟩
  rw [sameWork_iff h hs hrun hrun' hid]
  obtain ⟨f, e, -, hafter, hmove | rfl⟩ := (step_runs kernel call w).file run.id
  · obtain ⟨found, hfound, hcount⟩ := hmove.revision (runBook_of_mem hrun)
    rw [hafter] at hfile' ⊢
    have hsame : found = run'.unstamped := Option.some.inj (hfound.symm.trans hfile')
    rw [hsame] at hcount
    refine hcount.imp (fun hchanged => ⟨hchanged.1, hchanged.2.1, ?_⟩) fun hkept => hkept
    obtain ⟨issued, hissued, hexpects⟩ := hchanged.2.2
    simp only [KernelCall.expectedRunRevision, hissued, Option.bind_some]
    exact hexpects.carried
  · rw [hafter] at hfile' ⊢
    have hsame : run.unstamped = run'.unstamped :=
      Option.some.inj ((runBook_of_mem hrun).symm.trans hfile')
    have hrevision := congrArg Run.revision hsame
    exact .inr ⟨rfl, hrevision.symm⟩

theorem run_eq_of_id {db : Database} {r r' : Run} (hr : r ∈ db.table Run)
    (hr' : r' ∈ db.table Run) (h : r.id = r'.id) : r = r' :=
  Table.eq_of_key hr hr' (k := primaryKey [.text r.id]) (by simp [Keyed.keys])
    (by simp [Keyed.keys, h])

/-- The revision of a Run counts its changes, one a call; so of the calls that carry one
revision of a Run, at most one changes the Run. -/
structure RevisionCountsChanges (kernel : KernelContext) (w : World) : Prop where
  counted : ∀ call, ∀ run ∈ w.db.table Run, ∃ run' ∈ (step kernel call w).db.table Run,
    run'.id = run.id ∧
    (¬ SameWork w.db (step kernel call w).db run run' → run'.revision = run.revision + 1) ∧
    (SameWork w.db (step kernel call w).db run run' → run'.revision = run.revision)
  atMostOne : ∀ (runId : String) (revision : Int) (call call' : KernelCall) (w' : World),
    Steps kernel (step kernel call w) w' →
    call.changesRun kernel w runId → call'.changesRun kernel w' runId →
    call.expectedRunRevision = some revision → call'.expectedRunRevision ≠ some revision

theorem revision_counts_changes (h : Reachable kernel w) : RevisionCountsChanges kernel w where
  counted call run hrun := by
    obtain ⟨run', hrun', hid, ⟨hchanged, hnext, -⟩ | ⟨hsame, hkept⟩⟩ := step_revision h call hrun
    · exact ⟨run', hrun', hid, fun _ => hnext, fun hsame => absurd hsame hchanged⟩
    · exact ⟨run', hrun', hid, fun hchanged => absurd hsame hchanged, fun _ => hkept⟩
  atMostOne runId revision call call' w' hs hchanges hchanges' hcarried hcarried' := by
    have hreach' := (h.step call).steps hs
    obtain ⟨run, hrun, after, hafter, rfl, hafterId, hchanged⟩ := hchanges
    obtain ⟨run', hrun', after', hafter', hid', hafterId', hchanged'⟩ := hchanges'
    obtain ⟨next, hnext, hnextId, hcount⟩ := step_revision h call hrun
    obtain rfl := run_eq_of_id hafter hnext (hafterId.trans hnextId.symm)
    obtain ⟨next', hnext', hnextId', hcount'⟩ := step_revision hreach' call' hrun'
    obtain rfl := run_eq_of_id hafter' hnext'
      (hafterId'.trans (hid'.symm.trans hnextId'.symm))
    obtain ⟨found, hfound, hfoundId, hevolves⟩ := hs.run hafter
    obtain rfl := run_eq_of_id hfound hrun' (hfoundId.trans (hafterId.trans hid'.symm))
    obtain ⟨-, hrevision, hold⟩ := hcount.resolve_right fun hsame => hchanged hsame.1
    obtain ⟨-, -, hold'⟩ := hcount'.resolve_right fun hsame => hchanged' hsame.1
    have hlater : after.revision ≤ found.revision := hevolves.revision
    rw [hcarried] at hold
    rw [hcarried'] at hold'
    have hsame := Option.some.inj (hold.symm.trans hold')
    omega

theorem runWorld_revision_counts_changes : RevisionCountsChanges countingKernel runWorld :=
  revision_counts_changes runWorld_reachable

end Laws

end Torsor.Kernel
