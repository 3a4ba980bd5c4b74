import Torsor.Kernel.Idempotency
import Torsor.Kernel.Failures
import Torsor.Kernel.RunMoves

/-! # Rows of published reports

The row of an Artifact says the digest and the length of its content. Only the last step of
`finalizeReport` adds one, at most once for each principal, Run and report key.
-/

namespace Torsor.Kernel
open Torsor.Library Tx

/-- What the row of an Artifact says about its content. -/
structure ArtifactFacts where
  id : String
  contentDigest : String
  byteLength : Nat

def Artifact.facts (r : Artifact) : ArtifactFacts := ⟨r.id, r.contentDigest, r.byteLength⟩

def Database.artifactFacts (db : Database) : List ArtifactFacts :=
  (db.table Artifact).rows.map Artifact.facts

def SameArtifacts (w w' : World) : Prop := w'.db.artifactFacts = w.db.artifactFacts

instance : IsPreorder World SameArtifacts where
  refl _ := rfl
  trans _ _ _ h h' := Eq.trans h' h

theorem artifactFacts_of_table {db db' : Database} (h : db'.table Artifact = db.table Artifact) :
    db'.artifactFacts = db.artifactFacts := by
  rw [Database.artifactFacts, h, Database.artifactFacts]

instance : ConcernsTables SameArtifacts [.artifacts] where
  of_tables w w' htables _ _ _ := by
    apply artifactFacts_of_table
    simp only [Database.table, htables .artifacts (by decide)]

section Commands

set_option synthInstance.maxSize 400000

variable (kernel : KernelContext)

theorem sameArtifacts_updateRows {p : Artifact → Bool} {f : Artifact → Artifact}
    {h : KeepsKeys f} (hf : ∀ r, (f r).facts = r.facts) :
    Within SameArtifacts (updateRows p f h) := by
  apply Within.updateRows
  intro w
  show Database.artifactFacts _ = _
  simp [Database.artifactFacts, Table.map_view_eq hf]

instance (correlationId : String) (eventSequence : Nat) :
    Within SameArtifacts (markImmutableComponents correlationId eventSequence) := by
  have hstamp : ∀ p : Artifact → Bool, Within SameArtifacts (updateRows p
      (fun r => { r with
        createdEventSequence := stamp eventSequence r.createdEventSequence }) ⟨fun _ => rfl⟩) :=
    fun p => sameArtifacts_updateRows fun _ => rfl
  unfold markImmutableComponents
  infer_instance

instance (correlationId : String) :
    Within SameArtifacts (recordProjectionVersions correlationId) := by
  unfold recordProjectionVersions recordVersionsAt
  infer_instance

theorem dispatchCommand_sameArtifacts {command : KernelCommand}
    (h : command.type ≠ .PublishArtifact) (context : PrincipalContext) (principal : Principal)
    (correlationId : String) :
    Within SameArtifacts (dispatchCommand kernel command context principal correlationId) := by
  unfold dispatchCommand
  cases command with
  | PublishArtifact => exact absurd rfl h
  | _ => infer_instance

instance (command : KernelCommand) (result : CommandResult) (principal : Principal)
    (context : PrincipalContext) :
    Within SameArtifacts (resolveCachedResult kernel command result principal context) := by
  unfold resolveCachedResult
  split <;> infer_instance

end Commands

/-! ## The last step of a report -/

section Publish

set_option synthInstance.maxSize 400000

variable {kernel : KernelContext} {principal : Principal} {context : PrincipalContext}
  {operationContext : Option KernelOperationContext} {correlationId : String}
  {w w' : World} {result : CommandResult}

theorem publishArtifact_adds {command : PublishArtifactCommand}
    (h : publishArtifact kernel command principal context correlationId w = (.ok result, w')) :
    ∃ id, w'.db.artifactFacts =
      w.db.artifactFacts ++ [⟨id, command.contentDigest, command.byteLength⟩] := by
  simp only [publishArtifact, bind_eq_ok, newId_eq_ok, now_eq_ok, insertRow_eq_ok,
    pure_eq_ok] at h
  obtain ⟨run, w₁, hrun, activation, w₂, hactivation, id, _, ⟨-, rfl⟩, createdAt, _, ⟨-, rfl⟩, _, _,
    ⟨t, ht, rfl⟩, cursor, w₃, hemit, _, w₄, henqueue, -, rfl⟩ := h
  have hbefore : SameArtifacts w w₂ := trans_of SameArtifacts (Within.of_eq hrun)
    (Within.of_eq hactivation)
  have hafter : SameArtifacts _ w₄ := trans_of SameArtifacts (Within.of_eq hemit)
    (Within.of_eq henqueue)
  refine ⟨id, hafter.trans ?_⟩
  rw [← hbefore]
  simp [World.store, Database.artifactFacts, Database.table_set_same, Table.insert?_eq_some ht,
    Artifact.facts]

/-- A report adds no row, or it is published for the first time under its key. -/
structure PublishesRow (kernel : KernelContext) (input : FinalizeReportInput)
    (content : ReportContent) (context : PrincipalContext) (w w' : World) : Prop where
  fresh : ¬ Recorded context.principalId (input.command content) w
  recorded : Recorded context.principalId (input.command content) w'
  added : ∃ id, w'.db.artifactFacts =
    w.db.artifactFacts ++ [⟨id, content.contentDigest, content.byteLength⟩]

theorem sameArtifacts_of_failed {command : KernelCommand} {e : Failure}
    (h : executeTransaction kernel command context operationContext w = (.error e, w')) :
    SameArtifacts w w' := by
  have hfailed := executeTransaction_failed kernel command context operationContext h
  split at hfailed
  · apply artifactFacts_of_table
    simp only [Database.table, hfailed.tables_eq .artifacts (by decide)]
  · exact congrArg Database.artifactFacts hfailed

theorem publishReport_outcome (kernel : KernelContext) (input : FinalizeReportInput)
    (content : ReportContent) (context : PrincipalContext)
    (operationContext : Option KernelOperationContext) (w : World) :
    SameArtifacts w (publishReport kernel input content context operationContext w).2 ∨
      PublishesRow kernel input content context w
        (publishReport kernel input content context operationContext w).2 := by
  cases hrun : publishReport kernel input content context operationContext w with
  | mk r w' =>
      cases r with
      | error e => exact .inl (sameArtifacts_of_failed hrun)
      | ok result =>
          obtain ⟨principal, w₁, hprincipal, hfence, ⟨cached, hcached, hreplay⟩ | ⟨hnone, hperform⟩⟩ :=
            executeTransaction_eq_ok hrun
          all_goals
            have hid : principal.id = context.principalId := by
              simpa using (Table.find?_eq_some hprincipal).2
            have hfenced : SameTables TableName.butLeases w w₁ := Within.of_eq hfence
            have hbefore : SameArtifacts w w₁ :=
              artifactFacts_of_table (hfenced.table_eq Artifact (by decide))
          · obtain ⟨w₂, w₃, hchecked, -, hresolve, hstore⟩ := replayCommand_eq_ok hreplay
            have hread : SameArtifacts w₁ w₂ :=
              artifactFacts_of_table (hchecked.table_eq Artifact (by decide))
            exact .inl (trans_of SameArtifacts hbefore (trans_of SameArtifacts hread
              (trans_of SameArtifacts (Within.of_eq hresolve) (Within.of_eq hstore))))
          · refine .inr ⟨?_, ?_, ?_⟩
            · intro hrecorded
              obtain ⟨record, hrecord⟩ := hrecorded
              rw [hid, hfenced.table_eq IdempotencyRecord (by decide), hrecord] at hnone
              cases hnone
            · obtain ⟨_, _, _, _, record, -, -, hrecord, hof, -, -⟩ := performCommand_eq_ok hperform
              rw [hid] at hof
              exact ⟨record, Recorded.of_mem hrecord hof⟩
            · simp only [performCommand, bind_eq_ok, pure_eq_ok] at hperform
              obtain ⟨correlationId, w₂, hcorrelation, dispatched, w₃, hdispatch, _, w₄, hrecord,
                createdAt, w₅, hnow, _, w₆, hinsert, -, rfl⟩ := hperform
              obtain ⟨id, hadded⟩ := publishArtifact_adds hdispatch
              have hstart : SameArtifacts w w₂ := trans_of SameArtifacts hbefore
                (Within.of_eq hcorrelation)
              have hafter : SameArtifacts w₃ w₆ := trans_of SameArtifacts (Within.of_eq hrecord)
                (trans_of SameArtifacts (Within.of_eq hnow) (Within.of_eq hinsert))
              refine ⟨id, hafter.trans ?_⟩
              rw [hadded, hstart]

end Publish

/-! ## One row for a key -/

section Once

variable {kernel : KernelContext} {w w' : World}

/-- A descriptor that does not come from a report is refused. -/
theorem execute_publish_refused {command : KernelCommand} (context : PrincipalContext)
    (operationContext : Option KernelOperationContext) (h : command.type = .PublishArtifact)
    (w : World) : (execute kernel command context operationContext w).2 = w := by
  have hrefused : (throwIf (command.type = .PublishArtifact) (kernelError .Forbidden
      "Artifact descriptors require trusted byte finalization.") : K Unit) w =
        (.error (kernelError .Forbidden
          "Artifact descriptors require trusted byte finalization."), w) := by
    rw [throwIf, if_pos h]
    rfl
  rw [execute, bind_of_error hrefused]

set_option synthInstance.maxSize 400000 in
/-- Only the last step of a report adds a row. -/
theorem step_artifacts (kernel : KernelContext) (call : KernelCall) (w : World) :
    SameArtifacts w (step kernel call w) ∨
      ∃ input content context operationContext,
        call = .publishReport input content context operationContext ∧
        PublishesRow kernel input content context w (step kernel call w) := by
  by_cases hissues : ∃ issued, call.issued = some issued ∧ issued.command.type = .PublishArtifact
  · obtain ⟨issued, hissued, htype⟩ := hissues
    cases call with
    | publishReport input content context operationContext =>
        obtain hsame | hadded :=
          publishReport_outcome kernel input content context operationContext w
        · exact .inl hsame
        · exact .inr ⟨input, content, context, operationContext, rfl, hadded⟩
    | execute command context operationContext =>
        cases hissued
        refine .inl ?_
        show SameArtifacts w (execute kernel command context operationContext w).2
        rw [execute_publish_refused context operationContext htype]
        exact refl_of SameArtifacts w
    | _ => cases hissued
  · refine .inl (step_within kernel call w fun issued principal hissued _ => ?_)
    have hother : issued.command.type ≠ .PublishArtifact :=
      fun h => hissues ⟨issued, hissued, h⟩
    have hdispatch := dispatchCommand_sameArtifacts kernel hother
    infer_instance

theorem Recorded.steps {principalId : String} {command : KernelCommand}
    (h : Recorded principalId command w) (hs : Steps kernel w w') :
    Recorded principalId command w' := by
  obtain ⟨record, hrecord⟩ := h
  obtain ⟨hmem, hof⟩ := Table.find?_eq_some hrecord
  obtain ⟨record', hmem', hrequest, -⟩ := hs.keepsRecords record hmem
  have hsame := congrArg (IdempotencyRecord.isOf principalId command) hrequest
  have hof' : record'.isOf principalId command = true := hsame.trans hof
  exact ⟨record', Recorded.of_mem hmem' hof'⟩

/-- The reports of a Run under one key share their record. -/
theorem Recorded.sameReport {principalId : String} {input input' : FinalizeReportInput}
    {content content' : ReportContent} (hrun : input'.runId = input.runId)
    (hkey : input'.idempotencyKey = input.idempotencyKey)
    (h : Recorded principalId (input.command content) w) :
    Recorded principalId (input'.command content') w := by
  obtain ⟨record, hrecord⟩ := h
  obtain ⟨hmem, hof⟩ := Table.find?_eq_some hrecord
  refine ⟨record, Recorded.of_mem hmem ?_⟩
  have hcommand : (input'.command content').idempotencyKey =
      (input.command content).idempotencyKey := by
    show reportKey input'.runId input'.idempotencyKey = reportKey input.runId input.idempotencyKey
    rw [hrun, hkey]
  simp only [IdempotencyRecord.isOf, hcommand] at hof ⊢
  exact hof

end Once

end Torsor.Kernel
