import Mathlib.Data.List.Forall2
import Mathlib.Logic.Function.Basic
import Torsor.Kernel.Commits

/-! # The file of a Run

What the tables say about one Run is a state machine: the Run with its inputs, its
activities, its Activations and the Outbox events that wake it. Every command that changes
a Run makes one move of one file; at most it ends some Activations besides. The stamps that
say at which event a row was created are not part of a file.
-/

namespace Torsor.Kernel

open Torsor.Library

/-! ## Rows of a file -/

def Run.unstamped (r : Run) : Run := { r with createdEventSequence := none }

def RunInput.unstamped (r : RunInput) : RunInput := { r with createdEventSequence := none }

def RunActivityEvent.unstamped (r : RunActivityEvent) : RunActivityEvent :=
  { r with createdEventSequence := none }

def ActivationAttempt.unstamped (r : ActivationAttempt) : ActivationAttempt :=
  { r with createdEventSequence := none }

/-- What an Outbox event says, without its lease. -/
structure Wake where
  aggregateType : AggregateType
  aggregateId : String
  payload : Json

/-- The topics whose events wake a Run for one of its inputs. -/
def OutboxTopic.wakesRun : OutboxTopic → Bool
  | .runActivationRequested | .runInputAvailable => true
  | _ => false

def OutboxEvent.wake (r : OutboxEvent) : Wake := ⟨r.aggregateType, r.aggregateId, r.payload⟩

/-- The Activation is finished or revoked. -/
def ActivationAttempt.Ended (r : ActivationAttempt) : Prop :=
  r.finishedAt.isSome = true ∨ r.revokedAt.isSome = true

/-- What an Activation was started as. -/
def ActivationAttempt.start (r : ActivationAttempt) : ActivationAttempt :=
  { r with
    revokedAt := none
    revocationReason := none
    finishedAt := none
    outcome := none
    detail := none }

/-- `f` ends some Activations and revives none. -/
structure Ends (f : ActivationAttempt → ActivationAttempt) : Prop where
  start : ∀ r, (f r).start = r.start
  ended : ∀ r, r.Ended → (f r).Ended

theorem Ends.id : Ends fun r => r := ⟨fun _ => rfl, fun _ h => h⟩

theorem Ends.ite {p : ActivationAttempt → Bool} {f : ActivationAttempt → ActivationAttempt}
    (h : Ends f) : Ends fun r => if p r then f r else r := by
  refine ⟨fun r => ?_, fun r hr => ?_⟩
  · split
    · exact h.start r
    · rfl
  · split
    · exact h.ended r hr
    · exact hr

/-- What an input was created as. -/
def RunInput.assignment (r : RunInput) : RunInput :=
  { r with
    disposition := .Pending
    dispositionRevision := 0
    dispositionReason := none
    supersededByRunInputId := none }

/-- A Pending input has got its disposition. -/
structure RunInput.Disposed (old new : RunInput) : Prop where
  assignment : new.assignment = old.assignment
  pending : old.disposition = .Pending
  disposed : new.disposition ≠ .Pending
  revision : new.dispositionRevision = old.dispositionRevision + 1

/-- The next input of a Run. -/
structure RunInput.Follows (r : RunInput) (runId : String) (sequence : Nat) : Prop where
  runId_eq : r.runId = runId
  sequence_eq : r.runInputSequence = sequence
  pending : r.disposition = .Pending

/-- The event wakes the Run of the input for the input. -/
structure Wake.Announces (wake : Wake) (input : RunInput) : Prop where
  aggregateType : wake.aggregateType = .Run
  aggregateId : wake.aggregateId = input.runId
  payload : wake.payload.get? "runInputId" = some (.str input.id)

/-- The Activation that starts the next generation of a Run. -/
structure ActivationAttempt.Starts (r : ActivationAttempt) (run : Run) : Prop where
  runId : r.runId = some run.id
  agentId : r.agentId = run.ownerAgentId
  generation : r.runActivationGeneration = some (run.activationGeneration + 1)
  finishedAt : r.finishedAt = none
  revokedAt : r.revokedAt = none

/-! ## Files -/

@[ext]
structure RunFile where
  run : Option Run
  inputs : List RunInput
  activities : List RunActivityEvent
  activations : List ActivationAttempt
  wakes : List Wake

/-- What a command may create and which revision of a Run it expects. -/
structure RunPermit where
  admits : Run → Prop
  expects : String → Nat → Prop

namespace RunFile

/-- The moves of the file of one Run. -/
inductive Move (permit : RunPermit) (id : String) (f : RunFile) : RunFile → Prop where
  | create {run : Run} {input : RunInput} {wake : Wake} (hnone : f.run = none)
      (hid : run.id = id) (hadmits : permit.admits run) (hstate : run.state = .Active)
      (hgeneration : run.activationGeneration = 0) (hinputs : run.nextInputSequence = 2)
      (hactivities : run.nextActivitySequence = 1) (hinput : input.Follows id 1)
      (hnew : ∀ i ∈ f.inputs, i.id ≠ input.id) (hwake : wake.Announces input) :
      Move permit id f
        { f with
          run := some run
          inputs := f.inputs ++ [input]
          wakes := f.wakes ++ [wake] }
  | addInput {run : Run} {input : RunInput} {wake : Wake} {updatedAt : Timestamp}
      (hrun : f.run = some run) (hmutable : isTerminalRunState run.state = false)
      (hexpects : permit.expects id run.revision)
      (hinput : input.Follows id run.nextInputSequence)
      (hnew : ∀ i ∈ f.inputs, i.id ≠ input.id) (hwake : wake.Announces input) :
      Move permit id f
        { f with
          run := some
            { run with
              revision := run.revision + 1
              nextInputSequence := run.nextInputSequence + 1
              updatedAt }
          inputs := f.inputs ++ [input]
          wakes := f.wakes ++ [wake] }
  | withdraw {run : Run} {input : RunInput} {dispose : RunInput → RunInput}
      {updatedAt : Timestamp} (hrun : f.run = some run)
      (hmutable : isTerminalRunState run.state = false)
      (hexpects : permit.expects id run.revision) (hinput : input ∈ f.inputs)
      (hdisposed : input.Disposed (dispose input))
      (hdispose : ∀ i ∈ f.inputs, i.Disposed (dispose i) ∨ dispose i = i) :
      Move permit id f
        { f with
          run := some { run with revision := run.revision + 1, updatedAt }
          inputs := f.inputs.map dispose }
  | finish {run : Run} {state : RunState} {dispose : RunInput → RunInput}
      {revoke : ActivationAttempt → ActivationAttempt} {updatedAt : Timestamp}
      {terminalReason : Option String} (hrun : f.run = some run)
      (hmutable : isTerminalRunState run.state = false)
      (hexpects : permit.expects id run.revision) (hterminal : isTerminalRunState state = true)
      (hdispose : ∀ i ∈ f.inputs, i.Disposed (dispose i) ∨ dispose i = i)
      (hsettled : ∀ i ∈ f.inputs, (dispose i).disposition ≠ .Pending)
      (hrevoke : Ends revoke) (hrevoked : ∀ a ∈ f.activations, (revoke a).Ended) :
      Move permit id f
        { f with
          run := some { run with
            state, terminalReason, updatedAt, revision := run.revision + 1 }
          inputs := f.inputs.map dispose
          activations := f.activations.map revoke }
  | wait {run : Run} {revoke : ActivationAttempt → ActivationAttempt}
      {activities : List RunActivityEvent} (updatedAt : Timestamp) (hrun : f.run = some run)
      (hactive : run.state = .Active) (hexpects : permit.expects id run.revision)
      (hactivities : activities.map (·.sequence) =
        List.range' run.nextActivitySequence activities.length)
      (hrevoke : Ends revoke) (hrevoked : ∀ a ∈ f.activations, (revoke a).Ended) :
      Move permit id f
        { f with
          run := some
            { run with
              state := .Waiting
              revision := run.revision + 1
              nextActivitySequence := run.nextActivitySequence + activities.length
              updatedAt }
          activities := f.activities ++ activities
          activations := f.activations.map revoke }
  | adopt {run : Run} {agentConfigRevision : Nat} {updatedAt : Timestamp}
      (hrun : f.run = some run) (hmutable : isTerminalRunState run.state = false)
      (hexpects : permit.expects id run.revision)
      (hconfig : run.agentConfigRevision < agentConfigRevision) :
      Move permit id f
        { f with
          run := some
            { run with agentConfigRevision, updatedAt, revision := run.revision + 1 } }
  | activate {run : Run} {activation : ActivationAttempt}
      {revoke : ActivationAttempt → ActivationAttempt} {updatedAt : Timestamp}
      (hrun : f.run = some run) (hmutable : isTerminalRunState run.state = false)
      (hexpects : permit.expects id run.revision) (hstarts : activation.Starts run)
      (hnew : ∀ a ∈ f.activations, a.id ≠ activation.id) (hrevoke : Ends revoke)
      (hrevoked : ∀ a ∈ f.activations, (revoke a).Ended) :
      Move permit id f
        { f with
          run := some
            { run with
              state := .Active
              revision := if run.state = .Waiting then run.revision + 1 else run.revision
              activationGeneration := run.activationGeneration + 1
              updatedAt }
          activations := f.activations.map revoke ++ [activation] }
  | append {run : Run} {activity : RunActivityEvent} (hrun : f.run = some run)
      (hsequence : activity.sequence = run.nextActivitySequence) :
      Move permit id f
        { f with
          run := some { run with nextActivitySequence := run.nextActivitySequence + 1 }
          activities := f.activities ++ [activity] }

def close (f : RunFile) (e : ActivationAttempt → ActivationAttempt) : RunFile :=
  { f with activations := f.activations.map e }

/-- A move under a permit is one under every wider permit. -/
theorem Move.mono {permit permit' : RunPermit} {id : String} {f f' : RunFile}
    (h : f.Move permit id f') (hadmits : ∀ run, permit.admits run → permit'.admits run)
    (hexpects : ∀ id revision, permit.expects id revision → permit'.expects id revision) :
    f.Move permit' id f' := by
  cases h with
  | create hnone hid hrun hstate hgeneration hinputs hactivities hinput hnew hwake =>
      exact .create hnone hid (hadmits _ hrun) hstate hgeneration hinputs hactivities hinput hnew
        hwake
  | addInput hrun hmutable hrevision hinput hnew hwake =>
      exact .addInput hrun hmutable (hexpects _ _ hrevision) hinput hnew hwake
  | withdraw hrun hmutable hrevision hinput hdisposed hdispose =>
      exact .withdraw hrun hmutable (hexpects _ _ hrevision) hinput hdisposed hdispose
  | finish hrun hmutable hrevision hterminal hdispose hsettled hrevoke hrevoked =>
      exact .finish hrun hmutable (hexpects _ _ hrevision) hterminal hdispose hsettled hrevoke
        hrevoked
  | wait updatedAt hrun hactive hrevision hactivities hrevoke hrevoked =>
      exact .wait updatedAt hrun hactive (hexpects _ _ hrevision) hactivities hrevoke hrevoked
  | adopt hrun hmutable hrevision hconfig =>
      exact .adopt hrun hmutable (hexpects _ _ hrevision) hconfig
  | activate hrun hmutable hrevision hstarts hnew hrevoke hrevoked =>
      exact .activate hrun hmutable (hexpects _ _ hrevision) hstarts hnew hrevoke hrevoked
  | append hrun hsequence => exact .append hrun hsequence

end RunFile

/-! ## The book of all Runs -/

abbrev RunBook : Type := String → RunFile

def runFile (db : Database) (id : String) : RunFile where
  run := ((db.table Run).find? fun r => r.id = id).map Run.unstamped
  inputs := ((db.table RunInput).filter fun r => r.runId = id).map RunInput.unstamped
  activities :=
    ((db.table RunActivityEvent).filter fun r => r.runId = id).map RunActivityEvent.unstamped
  activations :=
    ((db.table ActivationAttempt).filter fun r => r.runId = some id).map
      ActivationAttempt.unstamped
  wakes :=
    ((db.table OutboxEvent).filter fun r => r.topic.wakesRun && r.aggregateId = id).map
      OutboxEvent.wake

def runBook (db : Database) : RunBook := runFile db

namespace RunBook

def close (b : RunBook) (e : ActivationAttempt → ActivationAttempt) : RunBook := fun id =>
  (b id).close e

/-- One file makes a move, if any does, and some Activations end. -/
inductive Step (permit : RunPermit) (b : RunBook) : RunBook → Prop where
  | move {id : String} {file : RunFile} {e : ActivationAttempt → ActivationAttempt}
      (hmove : (b id).Move permit id file) (hends : Ends e) :
      Step permit b (close (Function.update b id file) e)
  | close {e : ActivationAttempt → ActivationAttempt} (hends : Ends e) :
      Step permit b (b.close e)

end RunBook

theorem RunBook.Step.mono {permit permit' : RunPermit} {b b' : RunBook} (h : b.Step permit b')
    (hadmits : ∀ run, permit.admits run → permit'.admits run)
    (hexpects : ∀ id revision, permit.expects id revision → permit'.expects id revision) :
    b.Step permit' b' := by
  cases h with
  | move hmove hends => exact .move (hmove.mono hadmits hexpects) hends
  | close hends => exact .close hends

/-! ## What every move keeps -/

theorem ActivationAttempt.id_of_start {a b : ActivationAttempt} (h : a.start = b.start) :
    a.id = b.id := by
  have hcolumn := congrArg ActivationAttempt.id h
  exact hcolumn

theorem ActivationAttempt.generation_of_start {a b : ActivationAttempt} (h : a.start = b.start) :
    a.runActivationGeneration = b.runActivationGeneration := by
  have hcolumn := congrArg ActivationAttempt.runActivationGeneration h
  exact hcolumn

theorem RunInput.id_of_assignment {i j : RunInput} (h : i.assignment = j.assignment) :
    i.id = j.id := by
  have hcolumn := congrArg RunInput.id h
  exact hcolumn

theorem RunInput.sequence_of_assignment {i j : RunInput} (h : i.assignment = j.assignment) :
    i.runInputSequence = j.runInputSequence := by
  have hcolumn := congrArg RunInput.runInputSequence h
  exact hcolumn

namespace RunFile

/-- The inputs and the activities of a Run are numbered from 1, and the Run knows the next
numbers. -/
structure Numbered (f : RunFile) : Prop where
  inputs : f.inputs.map (·.runInputSequence) = List.range' 1 f.inputs.length
  nextInput : f.run.elim 1 (·.nextInputSequence) = f.inputs.length + 1
  activities : f.activities.map (·.sequence) = List.range' 1 f.activities.length
  nextActivity : f.run.elim 1 (·.nextActivitySequence) = f.activities.length + 1

/-- Every input has its wake, in the same order. -/
structure Announced (f : RunFile) : Prop where
  wakes : List.Forall₂ Wake.Announces f.wakes f.inputs
  ids : (f.inputs.map (·.id)).Nodup

/-- The Activations are of different generations up to that of the Run; unless the Run is
Active they have ended. -/
structure Exclusive (f : RunFile) : Prop where
  ids : (f.activations.map (·.id)).Nodup
  distinct : f.activations.Pairwise fun a a' =>
    a.runActivationGeneration ≠ a'.runActivationGeneration
  current : ∀ a ∈ f.activations, ∃ run generation, f.run = some run ∧
    a.runActivationGeneration = some generation ∧ generation ≤ run.activationGeneration
  ended : ∀ run, f.run = some run → run.state ≠ .Active → ∀ a ∈ f.activations, a.Ended

/-- No input of a terminal Run is Pending. -/
def Settled (f : RunFile) : Prop :=
  ∀ run, f.run = some run → isTerminalRunState run.state = true →
    ∀ i ∈ f.inputs, i.disposition ≠ .Pending

section Moves

variable {permit : RunPermit} {id : String} {f f' : RunFile}

theorem assignment_of_dispose {old new : RunInput} (h : old.Disposed new ∨ new = old) :
    new.assignment = old.assignment := by
  cases h with
  | inl h => exact h.assignment
  | inr h => rw [h]

/-- Dispositions leave every other column of the inputs as it is. -/
theorem map_dispose {α : Type} {key : RunInput → α} {inputs : List RunInput}
    {dispose : RunInput → RunInput}
    (h : ∀ i ∈ inputs, i.Disposed (dispose i) ∨ dispose i = i)
    (hkey : ∀ i j : RunInput, i.assignment = j.assignment → key i = key j) :
    (inputs.map dispose).map key = inputs.map key := by
  rw [List.map_map]
  exact List.map_congr_left fun i hi => hkey _ _ (assignment_of_dispose (h i hi))

/-- Revocations leave every other column of the Activations as it is. -/
theorem map_ends {α : Type} {key : ActivationAttempt → α} {activations : List ActivationAttempt}
    {e : ActivationAttempt → ActivationAttempt} (h : Ends e)
    (hkey : ∀ a b : ActivationAttempt, a.start = b.start → key a = key b) :
    (activations.map e).map key = activations.map key := by
  rw [List.map_map]
  exact List.map_congr_left fun a _ => hkey _ _ (h.start a)

/-- One more number at the end. -/
theorem map_range'_concat {α : Type} {key : α → Nat} {xs : List α} {x : α}
    (h : xs.map key = List.range' 1 xs.length) (hx : key x = xs.length + 1) :
    (xs ++ [x]).map key = List.range' 1 (xs ++ [x]).length := by
  rw [List.map_append, h, List.length_append, List.length_singleton, List.range'_concat,
    List.map_singleton, hx, Nat.one_mul, Nat.add_comm 1]

theorem Numbered.move (h : f.Numbered) (hmove : f.Move permit id f') : f'.Numbered := by
  have hinputs := h.inputs
  have hnext := h.nextInput
  have hactivities := h.activities
  have hnextActivity := h.nextActivity
  cases hmove with
  | create hnone hid hadmits hstate hgeneration hnextInputs hnextActivities hinput hnew hwake =>
      rw [hnone] at hnext hnextActivity
      simp only [Option.elim_none] at hnext hnextActivity
      refine ⟨map_range'_concat hinputs (by rw [hinput.sequence_eq]; omega), ?_, hactivities, ?_⟩
      · simp only [Option.elim_some, List.length_append, List.length_singleton]
        omega
      · simp only [Option.elim_some]
        omega
  | addInput hrun hmutable hexpects hinput hnew hwake =>
      rw [hrun] at hnext hnextActivity
      simp only [Option.elim_some] at hnext hnextActivity
      refine ⟨map_range'_concat hinputs (by rw [hinput.sequence_eq]; omega), ?_, hactivities,
        hnextActivity⟩
      simp only [Option.elim_some, List.length_append, List.length_singleton]
      omega
  | withdraw hrun hmutable hexpects hinput hdisposed hdispose =>
      rw [hrun] at hnext hnextActivity
      refine ⟨?_, ?_, hactivities, hnextActivity⟩
      · rw [map_dispose hdispose fun _ _ => RunInput.sequence_of_assignment, List.length_map]
        exact hinputs
      · rw [List.length_map]
        exact hnext
  | finish hrun hmutable hexpects hterminal hdispose hsettled hrevoke hrevoked =>
      rw [hrun] at hnext hnextActivity
      refine ⟨?_, ?_, hactivities, hnextActivity⟩
      · rw [map_dispose hdispose fun _ _ => RunInput.sequence_of_assignment, List.length_map]
        exact hinputs
      · rw [List.length_map]
        exact hnext
  | wait updatedAt hrun hactive hexpects hnumbers hrevoke hrevoked =>
      rw [hrun] at hnext hnextActivity
      simp only [Option.elim_some] at hnext hnextActivity
      refine ⟨hinputs, hnext, ?_, ?_⟩
      · rw [List.map_append, hactivities, hnumbers, hnextActivity, List.length_append,
          Nat.add_comm _ 1, List.range'_append_1]
      · simp only [Option.elim_some, List.length_append]
        omega
  | adopt hrun hmutable hexpects hconfig =>
      rw [hrun] at hnext hnextActivity
      exact ⟨hinputs, hnext, hactivities, hnextActivity⟩
  | activate hrun hmutable hexpects hstarts hnew hrevoke hrevoked =>
      rw [hrun] at hnext hnextActivity
      exact ⟨hinputs, hnext, hactivities, hnextActivity⟩
  | append hrun hsequence =>
      rw [hrun] at hnext hnextActivity
      simp only [Option.elim_some] at hnext hnextActivity
      refine ⟨hinputs, hnext, map_range'_concat hactivities (by omega), ?_⟩
      simp only [Option.elim_some, List.length_append, List.length_singleton]
      omega

theorem announces_assignment {wake : Wake} {input : RunInput} :
    wake.Announces input.assignment ↔ wake.Announces input :=
  ⟨fun h => ⟨h.aggregateType, h.aggregateId, h.payload⟩,
    fun h => ⟨h.aggregateType, h.aggregateId, h.payload⟩⟩

theorem Announced.append {input : RunInput} {wake : Wake} (h : f.Announced)
    (hnew : ∀ i ∈ f.inputs, i.id ≠ input.id) (hwake : wake.Announces input) :
    List.Forall₂ Wake.Announces (f.wakes ++ [wake]) (f.inputs ++ [input]) ∧
      ((f.inputs ++ [input]).map (·.id)).Nodup := by
  refine ⟨List.rel_append h.wakes (.cons hwake .nil), ?_⟩
  rw [List.map_append, List.nodup_append]
  refine ⟨h.ids, List.nodup_singleton _, fun x hx y hy => ?_⟩
  obtain ⟨i, hi, rfl⟩ := List.mem_map.mp hx
  rw [List.mem_singleton.mp hy]
  exact hnew i hi

theorem Announced.dispose {dispose : RunInput → RunInput} (h : f.Announced)
    (hdispose : ∀ i ∈ f.inputs, i.Disposed (dispose i) ∨ dispose i = i) :
    List.Forall₂ Wake.Announces f.wakes (f.inputs.map dispose) ∧
      ((f.inputs.map dispose).map (·.id)).Nodup := by
  have hassignments : ∀ inputs : List RunInput, List.Forall₂ Wake.Announces f.wakes inputs ↔
      List.Forall₂ Wake.Announces f.wakes (inputs.map RunInput.assignment) := by
    intro inputs
    rw [List.forall₂_map_right_iff]
    simp only [announces_assignment]
  refine ⟨?_, ?_⟩
  · rw [hassignments, map_dispose hdispose fun _ _ h => h, ← hassignments]
    exact h.wakes
  · rw [map_dispose hdispose fun _ _ => RunInput.id_of_assignment]
    exact h.ids

theorem Announced.move (h : f.Announced) (hmove : f.Move permit id f') : f'.Announced := by
  cases hmove with
  | create hnone hid hadmits hstate hgeneration hnextInputs hnextActivities hinput hnew hwake =>
      exact ⟨(h.append hnew hwake).1, (h.append hnew hwake).2⟩
  | addInput hrun hmutable hexpects hinput hnew hwake =>
      exact ⟨(h.append hnew hwake).1, (h.append hnew hwake).2⟩
  | withdraw hrun hmutable hexpects hinput hdisposed hdispose =>
      exact ⟨(h.dispose hdispose).1, (h.dispose hdispose).2⟩
  | finish hrun hmutable hexpects hterminal hdispose hsettled hrevoke hrevoked =>
      exact ⟨(h.dispose hdispose).1, (h.dispose hdispose).2⟩
  | wait | adopt | activate | append => exact ⟨h.wakes, h.ids⟩

/-- Revocations keep what is exclusive about the Activations. -/
theorem Exclusive.revoke {e : ActivationAttempt → ActivationAttempt} (h : f.Exclusive)
    (he : Ends e) : ((f.activations.map e).map (·.id)).Nodup ∧
      (f.activations.map e).Pairwise fun a a' =>
        a.runActivationGeneration ≠ a'.runActivationGeneration := by
  refine ⟨?_, ?_⟩
  · rw [map_ends he fun _ _ => ActivationAttempt.id_of_start]
    exact h.ids
  · rw [List.pairwise_map]
    refine h.distinct.imp fun {a a'} hne => ?_
    rwa [ActivationAttempt.generation_of_start (he.start a),
      ActivationAttempt.generation_of_start (he.start a')]

theorem Exclusive.current_revoke {e : ActivationAttempt → ActivationAttempt} (h : f.Exclusive)
    (he : Ends e) {run run' : Run} (hrun : f.run = some run)
    (hle : run.activationGeneration ≤ run'.activationGeneration) :
    ∀ a ∈ f.activations.map e, ∃ found generation, some run' = some found ∧
      a.runActivationGeneration = some generation ∧
        generation ≤ found.activationGeneration := by
  intro a ha
  obtain ⟨b, hb, rfl⟩ := List.mem_map.mp ha
  obtain ⟨found, generation, hfound, hgeneration, hbound⟩ := h.current b hb
  rw [hrun] at hfound
  cases hfound
  exact ⟨run', generation, rfl,
    (ActivationAttempt.generation_of_start (he.start b)).trans hgeneration, hbound.trans hle⟩

/-- A change that leaves the state and the generation of the Run. -/
theorem Exclusive.edit (h : f.Exclusive) {run run' : Run} (hrun : f.run = some run)
    (hrun' : f'.run = some run') (hgeneration : run'.activationGeneration = run.activationGeneration)
    (hstate : run'.state = run.state) (hactivations : f'.activations = f.activations) :
    f'.Exclusive := by
  refine ⟨?_, ?_, fun a ha => ?_, fun found hfound hinactive a ha => ?_⟩
  · rw [hactivations]
    exact h.ids
  · rw [hactivations]
    exact h.distinct
  · rw [hactivations] at ha
    obtain ⟨found, generation, hfound, hcurrent, hle⟩ := h.current a ha
    rw [hrun] at hfound
    cases hfound
    exact ⟨run', generation, hrun', hcurrent, hgeneration ▸ hle⟩
  · rw [hactivations] at ha
    rw [hrun'] at hfound
    cases hfound
    exact h.ended run hrun (hstate ▸ hinactive) a ha

/-- A change that ends every Activation there is. -/
theorem Exclusive.vacate {revoke : ActivationAttempt → ActivationAttempt} (h : f.Exclusive)
    {run run' : Run} (hrun : f.run = some run) (hrun' : f'.run = some run')
    (hgeneration : run'.activationGeneration = run.activationGeneration) (hrevoke : Ends revoke)
    (hrevoked : ∀ a ∈ f.activations, (revoke a).Ended)
    (hactivations : f'.activations = f.activations.map revoke) : f'.Exclusive := by
  refine ⟨?_, ?_, ?_, fun _ _ _ a ha => ?_⟩
  · rw [hactivations]
    exact (h.revoke hrevoke).1
  · rw [hactivations]
    exact (h.revoke hrevoke).2
  · rw [hactivations, hrun']
    exact h.current_revoke hrevoke hrun (Nat.le_of_eq hgeneration.symm)
  · rw [hactivations] at ha
    obtain ⟨b, hb, rfl⟩ := List.mem_map.mp ha
    exact hrevoked b hb

theorem Exclusive.create (h : f.Exclusive) {run : Run} (hnone : f.run = none)
    (hrun : f'.run = some run) (hstate : run.state = .Active)
    (hactivations : f'.activations = f.activations) : f'.Exclusive := by
  refine ⟨hactivations ▸ h.ids, hactivations ▸ h.distinct, fun a ha => ?_,
    fun found hfound hinactive => ?_⟩
  · obtain ⟨_, _, hfound, -⟩ := h.current a (hactivations ▸ ha)
    rw [hnone] at hfound
    cases hfound
  · rw [hrun] at hfound
    cases hfound
    exact absurd hstate hinactive

/-- The new Activation has a generation none of the others has. -/
theorem Exclusive.activate {revoke : ActivationAttempt → ActivationAttempt} (h : f.Exclusive)
    {run run' : Run} {activation : ActivationAttempt} (hrun : f.run = some run)
    (hrun' : f'.run = some run') (hstate : run'.state = .Active)
    (hgeneration : run'.activationGeneration = run.activationGeneration + 1)
    (hstarts : activation.Starts run) (hnew : ∀ a ∈ f.activations, a.id ≠ activation.id)
    (hrevoke : Ends revoke)
    (hactivations : f'.activations = f.activations.map revoke ++ [activation]) :
    f'.Exclusive := by
  obtain ⟨hids, hdistinct⟩ := h.revoke hrevoke
  have hcurrent := h.current_revoke hrevoke hrun (Nat.le_refl run.activationGeneration)
  refine ⟨?_, ?_, fun a ha => ?_, fun found hfound hinactive => ?_⟩
  · rw [hactivations, List.map_append, List.nodup_append]
    refine ⟨hids, List.nodup_singleton _, fun x hx y hy => ?_⟩
    rw [map_ends hrevoke fun _ _ => ActivationAttempt.id_of_start] at hx
    obtain ⟨a, ha, rfl⟩ := List.mem_map.mp hx
    rw [List.mem_singleton.mp hy]
    exact hnew a ha
  · rw [hactivations, List.pairwise_append]
    refine ⟨hdistinct, List.pairwise_singleton _ _, fun a ha a' ha' hsame => ?_⟩
    obtain ⟨found, generation, hfound, hold, hle⟩ := hcurrent a ha
    cases hfound
    rw [List.mem_singleton.mp ha', hstarts.generation, hold] at hsame
    cases hsame
    omega
  · rw [hactivations] at ha
    obtain hold | hnew := List.mem_append.mp ha
    · obtain ⟨found, generation, hfound, hold, hle⟩ := hcurrent a hold
      cases hfound
      exact ⟨run', generation, hrun', hold, by omega⟩
    · rw [List.mem_singleton.mp hnew]
      exact ⟨run', _, hrun', hstarts.generation, by omega⟩
  · rw [hrun'] at hfound
    cases hfound
    exact absurd hstate hinactive

theorem Exclusive.move (h : f.Exclusive) (hmove : f.Move permit id f') : f'.Exclusive := by
  cases hmove with
  | create hnone hid hadmits hstate => exact h.create hnone rfl hstate rfl
  | addInput hrun => exact h.edit hrun rfl rfl rfl rfl
  | withdraw hrun => exact h.edit hrun rfl rfl rfl rfl
  | finish hrun hmutable hexpects hterminal hdispose hsettled hrevoke hrevoked =>
      exact h.vacate hrun rfl rfl hrevoke hrevoked rfl
  | wait updatedAt hrun hactive hexpects hnumbers hrevoke hrevoked =>
      exact h.vacate hrun rfl rfl hrevoke hrevoked rfl
  | adopt hrun => exact h.edit hrun rfl rfl rfl rfl
  | activate hrun hmutable hexpects hstarts hnew hrevoke hrevoked =>
      exact h.activate hrun rfl rfl rfl hstarts hnew hrevoke rfl
  | append hrun => exact h.edit hrun rfl rfl rfl rfl

theorem Settled.move (h : f.Settled) (hmove : f.Move permit id f') : f'.Settled := by
  intro found hfound hterminal
  cases hmove with
  | create hnone hid hadmits hstate =>
      cases hfound
      rw [hstate] at hterminal
      cases hterminal
  | addInput hrun hmutable | withdraw hrun hmutable | adopt hrun hmutable =>
      cases hfound
      exact absurd hterminal (Bool.eq_false_iff.mp hmutable)
  | finish hrun hmutable hexpects hstate hdispose hsettled hrevoke hrevoked =>
      intro i hi
      obtain ⟨j, hj, rfl⟩ := List.mem_map.mp hi
      exact hsettled j hj
  | wait | activate =>
      cases hfound
      cases hterminal
  | append hrun hsequence =>
      cases hfound
      exact h _ hrun hterminal

end Moves

/-- A file no command has left in a state that its Run could not be in. -/
structure Sound (f : RunFile) : Prop where
  numbered : f.Numbered
  announced : f.Announced
  exclusive : f.Exclusive
  settled : f.Settled

/-- The file of a Run that does not exist. -/
def empty : RunFile := ⟨none, [], [], [], []⟩

section Sound

variable {permit : RunPermit} {id : String} {f f' : RunFile}

theorem sound_empty : empty.Sound where
  numbered := ⟨rfl, rfl, rfl, rfl⟩
  announced := ⟨.nil, List.nodup_nil⟩
  exclusive := ⟨List.nodup_nil, .nil, fun _ h => absurd h List.not_mem_nil,
    fun _ h => nomatch h⟩
  settled := fun _ h => nomatch h

theorem Sound.move (h : f.Sound) (hmove : f.Move permit id f') : f'.Sound :=
  ⟨h.numbered.move hmove, h.announced.move hmove, h.exclusive.move hmove,
    h.settled.move hmove⟩

theorem Sound.close {e : ActivationAttempt → ActivationAttempt} (h : f.Sound) (he : Ends e) :
    (f.close e).Sound := by
  refine ⟨⟨h.numbered.inputs, h.numbered.nextInput, h.numbered.activities,
    h.numbered.nextActivity⟩, ⟨h.announced.wakes, h.announced.ids⟩, ?_, h.settled⟩
  refine ⟨(h.exclusive.revoke he).1, (h.exclusive.revoke he).2, fun a ha => ?_,
    fun run hrun hinactive a ha => ?_⟩
  · obtain ⟨b, hb, rfl⟩ := List.mem_map.mp ha
    obtain ⟨run, generation, hrun, hgeneration, hle⟩ := h.exclusive.current b hb
    exact ⟨run, generation, hrun,
      (ActivationAttempt.generation_of_start (he.start b)).trans hgeneration, hle⟩
  · obtain ⟨b, hb, rfl⟩ := List.mem_map.mp ha
    exact he.ended b (h.exclusive.ended run hrun hinactive b hb)

end Sound

/-! ## The revision of a Run -/

/-- What a Run is revised for: its state, its configuration, its inputs and what became of
them. -/
def work (f : RunFile) : Option (RunState × Nat) × List (String × RunInputDisposition) :=
  (f.run.map fun r => (r.state, r.agentConfigRevision),
    f.inputs.map fun i => (i.id, i.disposition))

section Revision

variable {permit : RunPermit} {id : String} {f f' : RunFile}

theorem work_run {run run' : Run} (hrun : f.run = some run) (hrun' : f'.run = some run')
    (h : f'.work = f.work) :
    run'.state = run.state ∧ run'.agentConfigRevision = run.agentConfigRevision := by
  have hcolumns := congrArg Prod.fst h
  simp only [work, hrun, hrun', Option.map_some, Option.some.injEq, Prod.mk.injEq] at hcolumns
  exact hcolumns

/-- A move changes what a Run is revised for exactly when it advances the revision, and then
the command has expected the revision there was. -/
theorem Move.revision {run : Run} (hmove : f.Move permit id f') (hrun : f.run = some run) :
    ∃ run', f'.run = some run' ∧
      (f'.work ≠ f.work ∧ run'.revision = run.revision + 1 ∧ permit.expects id run.revision ∨
        f'.work = f.work ∧ run'.revision = run.revision) := by
  cases hmove with
  | create hnone =>
      rw [hnone] at hrun
      cases hrun
  | addInput hfound hmutable hexpects =>
      rw [hfound] at hrun
      cases hrun
      refine ⟨_, rfl, .inl ⟨fun hsame => ?_, rfl, hexpects⟩⟩
      have hlength := congrArg (fun w => w.2.length) hsame
      simp [work] at hlength
  | withdraw hfound hmutable hexpects hinput hdisposed =>
      rw [hfound] at hrun
      cases hrun
      refine ⟨_, rfl, .inl ⟨fun hsame => ?_, rfl, hexpects⟩⟩
      have hinputs := congrArg Prod.snd hsame
      simp only [work, List.map_map, List.map_inj_left] at hinputs
      have hdisposition := congrArg Prod.snd (hinputs _ hinput)
      exact hdisposed.disposed (hdisposition.trans hdisposed.pending)
  | finish hfound hmutable hexpects hterminal =>
      rw [hfound] at hrun
      cases hrun
      refine ⟨_, rfl, .inl ⟨fun hsame => ?_, rfl, hexpects⟩⟩
      have hstate := (work_run hfound rfl hsame).1
      simp only at hstate
      rw [hstate, hmutable] at hterminal
      cases hterminal
  | wait updatedAt hfound hactive hexpects =>
      rw [hfound] at hrun
      cases hrun
      refine ⟨_, rfl, .inl ⟨fun hsame => ?_, rfl, hexpects⟩⟩
      have hstate := (work_run hfound rfl hsame).1
      rw [hactive] at hstate
      cases hstate
  | adopt hfound hmutable hexpects hconfig =>
      rw [hfound] at hrun
      cases hrun
      refine ⟨_, rfl, .inl ⟨fun hsame => ?_, rfl, hexpects⟩⟩
      exact absurd (work_run hfound rfl hsame).2 (Nat.ne_of_gt hconfig)
  | @activate run _ _ _ hfound hmutable hexpects =>
      rw [hfound] at hrun
      cases hrun
      refine ⟨_, rfl, ?_⟩
      by_cases hwaiting : run.state = .Waiting
      · refine .inl ⟨fun hsame => ?_, if_pos hwaiting, hexpects⟩
        have hstate := (work_run hfound rfl hsame).1
        rw [hwaiting] at hstate
        cases hstate
      · refine .inr ⟨?_, if_neg hwaiting⟩
        have hactive : run.state = .Active := by
          cases hstate : run.state <;> simp_all [isTerminalRunState]
        simp [work, hfound, hactive]
  | append hfound =>
      rw [hfound] at hrun
      cases hrun
      exact ⟨_, rfl, .inr ⟨by simp [work, hfound], rfl⟩⟩

end Revision

end RunFile

/-! ## What becomes of a file -/

/-- What a Run was created as. -/
def Run.origin (r : Run) : Run :=
  { r with
    agentConfigRevision := 0
    state := .Active
    revision := 0
    activationGeneration := 0
    nextInputSequence := 0
    nextActivitySequence := 0
    updatedAt := 0
    terminalReason := none }

/-- A Run but for the number of its next activity. -/
def Run.withoutActivity (r : Run) : Run := { r with nextActivitySequence := 0 }

/-- What may have become of a Run. -/
structure Run.Evolves (old new : Run) : Prop where
  origin : new.origin = old.origin
  revision : old.revision ≤ new.revision
  generation : old.activationGeneration ≤ new.activationGeneration
  terminal : isTerminalRunState old.state = true → new.withoutActivity = old.withoutActivity

/-- What may have become of an input: it has got its disposition, or nothing has. -/
def RunInput.Evolves (old new : RunInput) : Prop := old.Disposed new ∨ new = old

theorem Run.Evolves.refl (r : Run) : r.Evolves r :=
  ⟨rfl, Nat.le_refl _, Nat.le_refl _, fun _ => rfl⟩

theorem Run.state_of_withoutActivity {r r' : Run} (h : r'.withoutActivity = r.withoutActivity) :
    r'.state = r.state := by
  have hcolumn := congrArg Run.state h
  exact hcolumn

theorem Run.Evolves.trans {r r' r'' : Run} (h : r.Evolves r') (h' : r'.Evolves r'') :
    r.Evolves r'' where
  origin := h'.origin.trans h.origin
  revision := h.revision.trans h'.revision
  generation := h.generation.trans h'.generation
  terminal hterminal := by
    have hsame := h.terminal hterminal
    rw [h'.terminal (Run.state_of_withoutActivity hsame ▸ hterminal), hsame]

theorem RunInput.Evolves.refl (i : RunInput) : i.Evolves i := .inr rfl

/-- A disposition is given once. -/
theorem RunInput.Evolves.trans {i j k : RunInput} (h : i.Evolves j) (h' : j.Evolves k) :
    i.Evolves k := by
  obtain h | rfl := h
  · obtain h' | rfl := h'
    · exact absurd h'.pending h.disposed
    · exact .inl h
  · exact h'

/-- Ending Activations twice. -/
theorem Ends.comp {e e' : ActivationAttempt → ActivationAttempt} (h : Ends e) (h' : Ends e') :
    Ends (e' ∘ e) :=
  ⟨fun r => (h'.start _).trans (h.start r), fun r hr => h'.ended _ (h.ended r hr)⟩

/-- What may have become of a file. -/
structure RunFile.Evolves (f f' : RunFile) : Prop where
  run : ∀ run, f.run = some run → ∃ run', f'.run = some run' ∧ run.Evolves run'
  inputs : ∃ dispose new, f'.inputs = f.inputs.map dispose ++ new ∧
    ∀ i ∈ f.inputs, i.Evolves (dispose i)
  activities : ∃ new, f'.activities = f.activities ++ new
  activations : ∃ e new, f'.activations = f.activations.map e ++ new ∧ Ends e
  frozen : ∀ run, f.run = some run → isTerminalRunState run.state = true → f'.inputs = f.inputs

namespace RunFile

section Evolves

variable {permit : RunPermit} {id : String} {f f' f'' : RunFile}

theorem Evolves.refl (f : RunFile) : f.Evolves f where
  run run hrun := ⟨run, hrun, .refl run⟩
  inputs := ⟨fun i => i, [], by simp, fun i _ => .refl i⟩
  activities := ⟨[], (List.append_nil _).symm⟩
  activations := ⟨fun r => r, [], by simp, .id⟩
  frozen _ _ _ := rfl

theorem Evolves.trans (h : f.Evolves f') (h' : f'.Evolves f'') : f.Evolves f'' where
  run run hrun := by
    obtain ⟨run', hrun', hevolves⟩ := h.run run hrun
    obtain ⟨run'', hrun'', hevolves'⟩ := h'.run run' hrun'
    exact ⟨run'', hrun'', hevolves.trans hevolves'⟩
  inputs := by
    obtain ⟨dispose, new, hinputs, hdispose⟩ := h.inputs
    obtain ⟨dispose', new', hinputs', hdispose'⟩ := h'.inputs
    refine ⟨dispose' ∘ dispose, new.map dispose' ++ new', ?_, fun i hi => ?_⟩
    · rw [hinputs', hinputs, List.map_append, List.map_map, List.append_assoc]
    · exact (hdispose i hi).trans
        (hdispose' _ (hinputs ▸ List.mem_append_left _ (List.mem_map_of_mem hi)))
  activities := by
    obtain ⟨new, hactivities⟩ := h.activities
    obtain ⟨new', hactivities'⟩ := h'.activities
    exact ⟨new ++ new', by rw [hactivities', hactivities, List.append_assoc]⟩
  activations := by
    obtain ⟨e, new, hactivations, he⟩ := h.activations
    obtain ⟨e', new', hactivations', he'⟩ := h'.activations
    refine ⟨e' ∘ e, new.map e' ++ new', ?_, he.comp he'⟩
    rw [hactivations', hactivations, List.map_append, List.map_map, List.append_assoc]
  frozen run hrun hterminal := by
    obtain ⟨run', hrun', hevolves⟩ := h.run run hrun
    have hstate := Run.state_of_withoutActivity (hevolves.terminal hterminal)
    rw [h'.frozen run' hrun' (hstate ▸ hterminal), h.frozen run hrun hterminal]

theorem Evolves.close {e : ActivationAttempt → ActivationAttempt} (he : Ends e) :
    f.Evolves (f.close e) where
  run run hrun := ⟨run, hrun, .refl run⟩
  inputs := ⟨fun i => i, [], by simp [RunFile.close], fun i _ => .refl i⟩
  activities := ⟨[], (List.append_nil _).symm⟩
  activations := ⟨e, [], by simp [RunFile.close], he⟩
  frozen _ _ _ := rfl

/-- A change of a Run that is not terminal. -/
theorem Evolves.of_mutable {run run' : Run} (hrun : f.run = some run)
    (hmutable : isTerminalRunState run.state = false) (hrun' : f'.run = some run')
    (horigin : run'.origin = run.origin) (hrevision : run.revision ≤ run'.revision)
    (hgeneration : run.activationGeneration ≤ run'.activationGeneration)
    (hinputs : ∃ dispose new, f'.inputs = f.inputs.map dispose ++ new ∧
      ∀ i ∈ f.inputs, i.Evolves (dispose i))
    (hactivities : ∃ new, f'.activities = f.activities ++ new)
    (hactivations : ∃ e new, f'.activations = f.activations.map e ++ new ∧ Ends e) :
    f.Evolves f' := by
  have hnot : ∀ {found}, f.run = some found → isTerminalRunState found.state ≠ true := by
    intro found hfound
    rw [hrun] at hfound
    cases hfound
    rw [hmutable]
    exact Bool.false_ne_true
  refine ⟨fun found hfound => ?_, hinputs, hactivities, hactivations,
    fun found hfound hterminal => absurd hterminal (hnot hfound)⟩
  refine ⟨run', hrun', ?_⟩
  have hterminal := hnot hfound
  rw [hrun] at hfound
  cases hfound
  exact ⟨horigin, hrevision, hgeneration, fun h => absurd h hterminal⟩

theorem Move.evolves (hmove : f.Move permit id f') : f.Evolves f' := by
  have hsameInputs : ∀ new, ∃ dispose new', f.inputs ++ new = f.inputs.map dispose ++ new' ∧
      ∀ i ∈ f.inputs, i.Evolves (dispose i) :=
    fun new => ⟨fun i => i, new, by simp, fun i _ => .refl i⟩
  have hsameActivities : ∃ new, f.activities = f.activities ++ new :=
    ⟨[], (List.append_nil _).symm⟩
  have hsameActivations : ∃ e new, f.activations = f.activations.map e ++ new ∧ Ends e :=
    ⟨fun r => r, [], by simp, .id⟩
  have hactive : ∀ {state : RunState}, state = .Active → isTerminalRunState state = false := by
    rintro _ rfl
    rfl
  cases hmove with
  | create hnone =>
      refine ⟨fun run hrun => ?_, hsameInputs _, hsameActivities, hsameActivations,
        fun run hrun => ?_⟩ <;>
        · rw [hnone] at hrun
          cases hrun
  | addInput hrun hmutable =>
      exact .of_mutable hrun hmutable rfl rfl (Nat.le_succ _) (Nat.le_refl _) (hsameInputs _)
        hsameActivities hsameActivations
  | withdraw hrun hmutable hexpects hinput hdisposed hdispose =>
      exact .of_mutable hrun hmutable rfl rfl (Nat.le_succ _) (Nat.le_refl _)
        ⟨_, [], (List.append_nil _).symm, hdispose⟩ hsameActivities hsameActivations
  | finish hrun hmutable hexpects hterminal hdispose hsettled hrevoke =>
      exact .of_mutable hrun hmutable rfl rfl (Nat.le_succ _) (Nat.le_refl _)
        ⟨_, [], (List.append_nil _).symm, hdispose⟩ hsameActivities
        ⟨_, [], (List.append_nil _).symm, hrevoke⟩
  | wait updatedAt hrun hstate hexpects hnumbers hrevoke =>
      exact .of_mutable hrun (hactive hstate) rfl rfl (Nat.le_succ _) (Nat.le_refl _)
        (by simpa using hsameInputs []) ⟨_, rfl⟩ ⟨_, [], (List.append_nil _).symm, hrevoke⟩
  | adopt hrun hmutable =>
      exact .of_mutable hrun hmutable rfl rfl (Nat.le_succ _) (Nat.le_refl _)
        (by simpa using hsameInputs []) hsameActivities hsameActivations
  | activate hrun hmutable hexpects hstarts hnew hrevoke =>
      refine .of_mutable hrun hmutable rfl rfl ?_ (Nat.le_succ _)
        (by simpa using hsameInputs []) hsameActivities ⟨_, _, rfl, hrevoke⟩
      split
      · exact Nat.le_succ _
      · exact Nat.le_refl _
  | append hrun =>
      refine ⟨fun found hfound => ?_, by simpa using hsameInputs [], ⟨_, rfl⟩, hsameActivations,
        fun _ _ _ => rfl⟩
      rw [hrun] at hfound
      cases hfound
      exact ⟨_, rfl, rfl, Nat.le_refl _, Nat.le_refl _, fun _ => rfl⟩

end Evolves

/-- The Activation cannot become live any more: it has ended, or the Run has a newer
generation. -/
def Over (f : RunFile) (activationId : String) : Prop :=
  ∀ a ∈ f.activations, a.id = activationId → a.Ended ∨
    ∀ run, f.run = some run → a.runActivationGeneration ≠ some run.activationGeneration

/-- What is over stays over. -/
theorem Evolves.over {f f' : RunFile} (h : f.Evolves f') (hsound : f.Sound) (hsound' : f'.Sound)
    {activationId : String} (hknown : ∃ a ∈ f.activations, a.id = activationId)
    (hover : f.Over activationId) : f'.Over activationId := by
  obtain ⟨a, ha, rfl⟩ := hknown
  obtain ⟨e, new, hactivations, he⟩ := h.activations
  have hmem : e a ∈ f'.activations := by
    rw [hactivations]
    exact List.mem_append_left _ (List.mem_map_of_mem ha)
  intro a' ha' hid
  have hsame : a' = e a := List.inj_on_of_nodup_map hsound'.exclusive.ids ha' hmem
    (hid.trans (ActivationAttempt.id_of_start (he.start a)).symm)
  rw [hsame]
  refine (hover a ha rfl).imp (he.ended a) fun hstale run' hrun' hcurrent => ?_
  obtain ⟨run, generation, hrun, hgeneration, hle⟩ := hsound.exclusive.current a ha
  obtain ⟨found, hfound, hevolves⟩ := h.run run hrun
  rw [hrun'] at hfound
  cases hfound
  rw [ActivationAttempt.generation_of_start (he.start a), hgeneration] at hcurrent
  have hne := hstale run hrun
  rw [hgeneration] at hne
  have hlater := hevolves.generation
  cases hcurrent
  exact hne (congrArg some (Nat.le_antisymm hle hlater))

end RunFile

/-! ## What becomes of the book -/

namespace RunBook

section Steps

variable {permit : RunPermit} {b b' : RunBook}

/-- In a step, a file makes its move or none, and some of its Activations may end. -/
theorem Step.file (h : b.Step permit b') (id : String) :
    ∃ f e, Ends e ∧ b' id = f.close e ∧ ((b id).Move permit id f ∨ f = b id) := by
  cases h with
  | @move moved file e hmove hends =>
      by_cases hid : id = moved
      · subst hid
        exact ⟨file, e, hends, by simp [RunBook.close], .inl hmove⟩
      · exact ⟨b id, e, hends, by simp [RunBook.close, hid], .inr rfl⟩
  | close hends => exact ⟨b id, _, hends, rfl, .inr rfl⟩

/-- Only an admitted Run can be in a file that had none, and only in one file. -/
theorem Step.created (h : b.Step permit b') :
    ∃ new, ∀ id run, (b' id).run = some run →
      (b id).run.isSome = true ∨ (id = new ∧ run.id = id ∧ permit.admits run) := by
  cases h with
  | @move moved file e hmove hends =>
      refine ⟨moved, fun id run hrun => ?_⟩
      by_cases hid : id = moved
      · subst hid
        cases hfile : (b id).run with
        | some old => exact .inl rfl
        | none =>
            simp only [RunBook.close, Function.update_self, RunFile.close] at hrun
            cases hmove with
            | create hnone hid hadmits =>
                cases hrun
                exact .inr ⟨rfl, hid, hadmits⟩
            | _ => simp_all
      · simp only [RunBook.close, Function.update_of_ne hid, RunFile.close] at hrun
        exact .inl (by rw [hrun]; rfl)
  | close hends =>
      refine ⟨"", fun id run hrun => .inl ?_⟩
      simp only [RunBook.close, RunFile.close] at hrun
      rw [hrun]
      rfl

theorem Step.sound (h : b.Step permit b') {id : String} (hsound : (b id).Sound) :
    (b' id).Sound := by
  obtain ⟨f, e, hends, hfile, hmove | rfl⟩ := h.file id
  · rw [hfile]
    exact (hsound.move hmove).close hends
  · rw [hfile]
    exact hsound.close hends

theorem Step.evolves (h : b.Step permit b') (id : String) : (b id).Evolves (b' id) := by
  obtain ⟨f, e, hends, hfile, hmove | rfl⟩ := h.file id
  · rw [hfile]
    exact hmove.evolves.trans (.close hends)
  · rw [hfile]
    exact .close hends

end Steps

end RunBook

end Torsor.Kernel
