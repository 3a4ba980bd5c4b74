import Torsor.Library.Following
import Torsor.Kernel.Idempotency
import Torsor.Kernel.RunLaws

/-! # The inputs of a completed Run

A Run that completes disposes of each Pending input as its exception says, or incorporates it.
The exceptions may say that one input supersedes another; the references so recorded stay
inside the Run and have no cycle.
-/

namespace Torsor.Kernel
open Torsor.Library Tx

/-! ## The check for cycles -/

namespace Supersession

variable {m : Supersession} {id target x : String}

/-- What the walk of the check follows from an input. -/
def next (m : Supersession) (id : String) : Option String :=
  if id = "" then none else m.get id

theorem repeats_eq (fuel : Nat) (visited : List String) (current : String) :
    m.repeats fuel visited current = meetsAgain m.next fuel visited current := by
  induction fuel generalizing visited current with
  | zero => rfl
  | succ fuel ih =>
      by_cases hempty : current = ""
      · subst hempty
        simp only [repeats, meetsAgain, next, if_true]
        cases m.get "" with
        | none => rfl
        | some b => rfl
      · simp only [repeats, meetsAgain, next, hempty, if_false]
        cases m.get current with
        | none => rfl
        | some b => simp [hempty, ih]

theorem get_ne_none (h : m.get x ≠ none) : x ∈ m.map (·.1) := by
  rw [get, ne_eq, Option.map_eq_none_iff, List.find?_eq_none] at h
  simp only [decide_eq_true_eq, not_forall, not_not] at h
  obtain ⟨entry, hmem, rfl⟩ := h
  exact List.mem_map_of_mem hmem

theorem next_ne_none (x : String) (h : m.next x ≠ none) : x ∈ m.map (·.1) := by
  rw [next] at h
  split at h
  · exact absurd rfl h
  · exact get_ne_none h

theorem hasCycle_iff : m.hasCycle = true ↔ ∃ c, Relation.TransGen (Leads m.next) c c := by
  have hlength : (m.map (·.1)).length < m.length + 1 := by simp
  rw [← meetsAgain_iff next_ne_none hlength]
  simp only [hasCycle, List.any_eq_true, repeats_eq, List.mem_map]
  constructor
  · rintro ⟨entry, hmem, hmeets⟩
    exact ⟨_, ⟨entry, hmem, rfl⟩, hmeets⟩
  · rintro ⟨_, ⟨entry, hmem, rfl⟩, hmeets⟩
    exact ⟨entry, hmem, hmeets⟩

/-- The walk of the check ends from every input, and the check knows how. -/
theorem repeats_walks (start : String) :
    Walks m.next [] start (m.repeats (m.length + 1) [] start) := by
  rw [repeats_eq]
  exact walks_from_start next_ne_none (by simp)

theorem get_delete : (m.delete id).get x = if x = id then none else m.get x := by
  by_cases hx : x = id
  · subst hx
    simp [get, delete]
  · simp only [get, delete, hx, if_false, List.find?_filter]
    congr 2
    funext entry
    by_cases hentry : entry.1 = x
    · simp [hentry, hx]
    · simp [hentry]

theorem get_set : (m.set id target).get x = if x = id then some target else m.get x := by
  by_cases hx : x = id
  · subst hx
    simp [get, set]
  · have hne : id ≠ x := fun h => hx h.symm
    rw [if_neg hx, ← if_neg (c := x = id) (t := none) (e := m.get x) hx, ← get_delete]
    simp [get, set, hne]

end Supersession

/-! ## What the exceptions say -/

/-- A completion exception that passes its checks, among the inputs of its Run. -/
structure CompletionException.Valid (inputs : List RunInput) (throughSequence : Int)
    (e : CompletionException) : Prop where
  input : ∃ i ∈ inputs, i.id = e.runInputId ∧ (i.runInputSequence : Int) ≤ throughSequence
  disposition : e.disposition ≠ .Pending ∧ e.disposition ≠ .Incorporated ∧
    e.disposition ≠ .Withdrawn
  reason : trim e.reason ≠ ""
  target : e.disposition = .Superseded → ∃ target, e.supersededByRunInputId = some target ∧
    target ≠ "" ∧ target ≠ e.runInputId ∧ ∃ i ∈ inputs, i.id = target
  noTarget : e.disposition ≠ .Superseded → truthy e.supersededByRunInputId = false

/-- The input that supersedes the one an exception names. -/
def CompletionException.supersession (e : CompletionException) : Option String :=
  if e.disposition = .Superseded then e.supersededByRunInputId else none

section Exceptions

variable {inputs : List RunInput} {throughSequence : Int} {m m' : Supersession}
  {e : CompletionException} {exceptions : List CompletionException} {w w' : World}

theorem checkCompletionException_eq_ok
    (h : checkCompletionException inputs throughSequence m e w = (.ok m', w')) :
    e.Valid inputs throughSequence ∧
      ∀ x, m'.get x = if x = e.runInputId then e.supersession else m.get x := by
  simp only [checkCompletionException, bind_eq_ok, require_eq_ok, throwIf_eq_ok,
    validateDisposition, requireNonEmpty_eq_ok] at h
  obtain ⟨input, _, ⟨hfound, rfl⟩, _, _, ⟨hthrough, rfl⟩, _, w₁, ⟨_, _, ⟨hdisposition, rfl⟩,
    hreason, rfl⟩, h⟩ := h
  have hid : input.id = e.runInputId := by simpa using List.find?_some hfound
  have hinput : ∃ i ∈ inputs, i.id = e.runInputId ∧
      (i.runInputSequence : Int) ≤ throughSequence :=
    ⟨input, List.mem_of_find?_eq_some hfound, hid, not_lt.mp hthrough⟩
  have hvalid : e.disposition ≠ .Pending ∧ e.disposition ≠ .Incorporated ∧
      e.disposition ≠ .Withdrawn := by
    simpa using hdisposition
  by_cases hsuperseded : e.disposition = .Superseded
  · simp only [hsuperseded, ne_eq, not_true_eq_false, if_false, bind_eq_ok, throwIf_eq_ok,
      pure_eq_ok, not_or, not_not] at h
    obtain ⟨_, _, ⟨⟨hempty, hself, htarget⟩, rfl⟩, rfl, rfl⟩ := h
    have htext : e.supersededByRunInputId = some (e.supersededByRunInputId.getD "") := by
      cases htarget : e.supersededByRunInputId with
      | none =>
          rw [htarget] at hempty
          exact absurd rfl hempty
      | some target => rfl
    refine ⟨⟨hinput, hvalid, hreason, fun _ => ⟨_, htext, hempty, hself, ?_⟩,
      fun hnot => absurd hsuperseded hnot⟩, fun x => ?_⟩
    · simpa using htarget
    · rw [Supersession.get_set, CompletionException.supersession, if_pos hsuperseded, ← htext]
  · simp only [hsuperseded, ne_eq, not_false_eq_true, if_true, bind_eq_ok, throwIf_eq_ok,
      pure_eq_ok] at h
    obtain ⟨_, _, ⟨hnone, rfl⟩, rfl, rfl⟩ := h
    refine ⟨⟨hinput, hvalid, hreason, fun hyes => absurd hyes hsuperseded,
      fun _ => Bool.eq_false_iff.mpr hnone⟩, fun x => ?_⟩
    rw [Supersession.get_delete, CompletionException.supersession, if_neg hsuperseded]

/-- After all exceptions an input is superseded as its exception says, if it has one. -/
theorem checkCompletionExceptions_eq_ok (hnodup : (exceptions.map (·.runInputId)).Nodup)
    (h : foldEach m exceptions (checkCompletionException inputs throughSequence) w =
      (.ok m', w')) :
    (∀ e ∈ exceptions, e.Valid inputs throughSequence) ∧
      ∀ x, m'.get x = (exceptions.find? fun e => e.runInputId = x).elim (m.get x)
        CompletionException.supersession := by
  induction exceptions generalizing m w with
  | nil =>
      obtain ⟨rfl, rfl⟩ := pure_eq_ok.mp h
      exact ⟨by simp, fun _ => rfl⟩
  | cons e rest ih =>
      simp only [foldEach, bind_eq_ok] at h
      obtain ⟨m₁, w₁, hfirst, hrest⟩ := h
      obtain ⟨hnot, hnodup⟩ := List.nodup_cons.mp hnodup
      obtain ⟨hvalid, hget⟩ := checkCompletionException_eq_ok hfirst
      obtain ⟨hvalids, hgets⟩ := ih hnodup hrest
      refine ⟨?_, fun x => ?_⟩
      · intro e' he'
        cases he' with
        | head => exact hvalid
        | tail _ he' => exact hvalids e' he'
      · rw [hgets x]
        by_cases hx : e.runInputId = x
        · have hnone : rest.find? (fun e => e.runInputId = x) = none := by
            rw [List.find?_eq_none]
            intro e' he'
            simp only [decide_eq_true_eq]
            intro hsame
            exact hnot (List.mem_map.mpr ⟨e', he', hsame.trans hx.symm⟩)
          rw [hnone, List.find?_cons_of_pos (by simpa using hx), Option.elim_none, hget, if_pos
            hx.symm, Option.elim_some]
        · rw [List.find?_cons_of_neg (by simpa using hx)]
          cases rest.find? fun e => e.runInputId = x with
          | none => rw [Option.elim_none, Option.elim_none, hget, if_neg (fun h => hx h.symm)]
          | some e' => rfl

end Exceptions

/-! ## Proposed references -/

/-- The exceptions propose that `target` supersedes `id`. -/
def Proposes (exceptions : List CompletionException) (id target : String) : Prop :=
  ∃ e ∈ exceptions, e.runInputId = id ∧ e.disposition = .Superseded ∧
    e.supersededByRunInputId = some target

def Acyclic (r : String → String → Prop) : Prop := ∀ id, ¬ Relation.TransGen r id id

theorem proposes_of_find {exceptions : List CompletionException} {m recorded : Supersession}
    (hnodup : (exceptions.map (·.runInputId)).Nodup)
    (hget : ∀ x, m.get x = (exceptions.find? fun e => e.runInputId = x).elim (recorded.get x)
      CompletionException.supersession) {id target : String}
    (h : Proposes exceptions id target) : m.get id = some target := by
  obtain ⟨e, he, rfl, hsuperseded, htarget⟩ := h
  have hfind : exceptions.find? (fun e' => e'.runInputId = e.runInputId) = some e := by
    cases hfound : exceptions.find? fun e' => e'.runInputId = e.runInputId with
    | none => simpa using List.find?_eq_none.mp hfound e he
    | some e' =>
        have hsame : e'.runInputId = e.runInputId := by simpa using List.find?_some hfound
        exact congrArg some (List.inj_on_of_nodup_map hnodup (List.mem_of_find?_eq_some hfound) he
          hsame)
  rw [hget, hfind, Option.elim_some, CompletionException.supersession, if_pos hsuperseded, htarget]

/-- References that are found in a map without a cycle have none themselves. -/
theorem acyclic_of_hasCycle {m : Supersession} {r : String → String → Prop}
    (hcycle : m.hasCycle = false) (hr : ∀ id target, r id target → m.get id = some target)
    (hempty : ∀ id target, r id target → target ≠ "") : Acyclic r := by
  have hleads : ∀ id target, id ≠ "" → Relation.TransGen r id target →
      Relation.TransGen (Leads m.next) id target := by
    intro id target hid h
    induction h using Relation.TransGen.head_induction_on with
    | single h =>
        refine .single ?_
        rw [Leads, Supersession.next, if_neg hid]
        exact hr _ _ h
    | head h _ ih =>
        refine .head ?_ (ih (hempty _ _ h))
        rw [Leads, Supersession.next, if_neg hid]
        exact hr _ _ h
  intro id h
  have hid : id ≠ "" := by
    obtain ⟨_, _, hlast⟩ := Relation.TransGen.tail'_iff.mp h
    exact hempty _ _ hlast
  have hyes := Supersession.hasCycle_iff.mpr ⟨id, hleads id id hid h⟩
  rw [hcycle] at hyes
  cases hyes

/-! ## What becomes of the inputs -/

def RunInput.due (throughSequence : Int) (r : RunInput) : Bool :=
  r.disposition = .Pending ∧ (r.runInputSequence : Int) ≤ throughSequence

/-- An input with the disposition its exception names, or else incorporated. -/
def RunInput.complete (exceptions : List CompletionException) (r : RunInput) : RunInput :=
  (exceptions.find? fun e => e.runInputId = r.id).elim
    { r with
      disposition := .Incorporated
      dispositionRevision := r.dispositionRevision + 1
      dispositionReason := none }
    fun e =>
      { r with
        disposition := e.disposition
        dispositionRevision := r.dispositionRevision + 1
        dispositionReason := some e.reason
        supersededByRunInputId := e.supersession }

theorem RunInput.complete_id {exceptions : List CompletionException} (r : RunInput) :
    (r.complete exceptions).id = r.id := by
  unfold complete
  cases exceptions.find? fun e => e.runInputId = r.id with
  | none => rfl
  | some e => rfl

/-- What becomes of an input of a Run that completes. -/
def RunInput.completed (exceptions : List CompletionException) (r : RunInput) : RunInput :=
  if r.disposition = .Pending then r.complete exceptions else r

/-- The inputs of a Run. -/
def Database.inputsOf (db : Database) (runId : String) : List RunInput :=
  (db.table RunInput).filter fun r => r.runId = runId

/-- What the inputs of a Run, the exceptions and the Activation must be for it to complete. -/
structure CompletionAccepted (db : Database) (command : CompleteRunCommand)
    (activationId : String) : Prop where
  pending : ∀ i ∈ db.inputsOf command.runId, i.disposition = .Pending →
    (i.runInputSequence : Int) ≤ command.incorporatedThroughInputSequence ∧
      ∃ r ∈ db.table ActivationRunInput, r.activationId = activationId ∧ r.runInputId = i.id
  distinct : ((command.exceptions.getD []).map (·.runInputId)).Nodup
  exceptions : ∀ e ∈ command.exceptions.getD [],
    e.Valid (db.inputsOf command.runId) command.incorporatedThroughInputSequence
  acyclic : Acyclic (Proposes (command.exceptions.getD []))

theorem nodup_of_unique_length {xs : List String} (h : (unique xs).length = xs.length) :
    xs.Nodup := by
  rw [← (unique_sublist xs).eq_of_length h]
  exact unique_nodup xs

section Rows

variable {exceptions : List CompletionException} {supplied : List String} {throughSequence : Int}
  {w w' : World} {u : Unit}

theorem disposeRunInput_rows {inputId : String}
    (h : disposeRunInput (exceptions.find? fun e => e.runInputId = inputId) inputId w =
      (.ok u, w')) :
    (w'.db.table RunInput).rows = (w.db.table RunInput).rows.map fun r =>
      if r.id = inputId then r.complete exceptions else r := by
  cases hfound : exceptions.find? fun e => e.runInputId = inputId with
  | none =>
      rw [hfound] at h
      obtain rfl := updateRows_eq_ok.mp h
      rw [World.store, Database.table_set_same]
      simp only [Table.update, decide_eq_true_eq]
      apply List.map_congr_left
      intro r _
      by_cases hr : r.id = inputId
      · rw [if_pos hr, if_pos hr, RunInput.complete, hr, hfound]
        rfl
      · rw [if_neg hr, if_neg hr]
  | some e =>
      rw [hfound] at h
      obtain rfl := updateRows_eq_ok.mp h
      rw [World.store, Database.table_set_same]
      simp only [Table.update, decide_eq_true_eq]
      apply List.map_congr_left
      intro r _
      by_cases hr : r.id = inputId
      · rw [if_pos hr, if_pos hr, RunInput.complete, hr, hfound]
        rfl
      · rw [if_neg hr, if_neg hr]

/-- The loop completes the inputs that are due, all of which were supplied. -/
theorem completeRunInputs_rows {xs : List RunInput} (hnodup : (xs.map (·.id)).Nodup)
    (h : forEach xs (completeRunInput exceptions supplied throughSequence) w = (.ok u, w')) :
    (w'.db.table RunInput).rows = ((w.db.table RunInput).rows.map fun r =>
      if xs.any fun x => x.id = r.id ∧ x.due throughSequence then r.complete exceptions
      else r) ∧
    ∀ x ∈ xs, x.due throughSequence → x.id ∈ supplied := by
  induction xs generalizing w with
  | nil =>
      obtain ⟨-, rfl⟩ := pure_eq_ok.mp h
      simp
  | cons x rest ih =>
      obtain ⟨hx, hnodup⟩ := List.nodup_cons.mp hnodup
      simp only [forEach, bind_eq_ok] at h
      obtain ⟨_, w₁, hfirst, hrest⟩ := h
      obtain ⟨hrows, hsupplied⟩ := ih hnodup hrest
      have hstep : (w₁.db.table RunInput).rows = ((w.db.table RunInput).rows.map fun r =>
          if x.id = r.id ∧ x.due throughSequence then r.complete exceptions else r) ∧
          (x.due throughSequence → x.id ∈ supplied) := by
        unfold completeRunInput at hfirst
        split at hfirst
        · rename_i hidle
          obtain ⟨-, rfl⟩ := pure_eq_ok.mp hfirst
          have hnot : x.due throughSequence = false := by
            simp only [RunInput.due, Bool.decide_and, Bool.and_eq_false_iff,
              decide_eq_false_iff_not, not_le]
            exact hidle
          simp [hnot]
        · rename_i hbusy
          simp only [bind_eq_ok, throwIf_eq_ok, not_not] at hfirst
          obtain ⟨_, _, ⟨hmem, rfl⟩, hdispose⟩ := hfirst
          have hdue : x.due throughSequence = true := by
            simp only [RunInput.due, Bool.decide_and, Bool.and_eq_true, decide_eq_true_eq]
            obtain ⟨hpending, hthrough⟩ := not_or.mp hbusy
            exact ⟨not_not.mp hpending, not_lt.mp hthrough⟩
          refine ⟨?_, fun _ => hmem⟩
          rw [disposeRunInput_rows hdispose]
          apply List.map_congr_left
          intro r _
          simp only [hdue, and_true]
          by_cases hr : r.id = x.id
          · rw [if_pos hr, if_pos hr.symm]
          · rw [if_neg hr, if_neg (fun h => hr h.symm)]
      refine ⟨?_, ?_⟩
      · rw [hrows, hstep.1, List.map_map]
        apply List.map_congr_left
        intro r _
        simp only [Function.comp_apply, List.any_cons]
        by_cases hr : x.id = r.id ∧ x.due throughSequence
        · have hid : (r.complete exceptions).id = r.id := r.complete_id
          have hnot : (rest.any fun y => y.id = r.id ∧ y.due throughSequence) = false := by
            rw [List.any_eq_false]
            intro y hy hyes
            have hsame : y.id = r.id := (of_decide_eq_true hyes).1
            exact hx (List.mem_map.mpr ⟨y, hy, hsame.trans hr.1.symm⟩)
          simp only [if_pos hr, hid, hnot, Bool.false_eq_true, if_false]
          rw [if_pos]
          simp [hr]
        · rw [if_neg hr]
          simp only [hr, decide_false, Bool.false_or]
      · intro y hy hdue
        cases hy with
        | head => exact hstep.2 hdue
        | tail _ hy => exact hsupplied y hy hdue

theorem mem_inputsOf {db : Database} {runId : String} {r : RunInput} :
    r ∈ db.inputsOf runId ↔ r ∈ db.table RunInput ∧ r.runId = runId := by
  simp [Database.inputsOf, Table.mem_filter]

theorem nodup_inputsOf {runId : String} :
    ((orderBy RunInput.runInputSequence (w.db.inputsOf runId)).map (·.id)).Nodup := by
  rw [List.Perm.nodup_iff ((orderBy_perm RunInput.runInputSequence _).map _)]
  exact (Table.nodup_map (w.db.table RunInput) (k := fun id => primaryKey [.text id])
    (by simp [Keyed.keys])).sublist (List.filter_sublist.map _)

/-- The whole disposal: what it has checked, and the rows it leaves. -/
theorem disposeRunInputs_rows {command : CompleteRunCommand} {activationId : String}
    (h : disposeRunInputs command activationId w = (.ok u, w')) :
    CompletionAccepted w.db command activationId ∧
      (w'.db.table RunInput).rows = (w.db.table RunInput).rows.map fun r =>
        if r.runId = command.runId then r.completed (command.exceptions.getD []) else r := by
  simp only [disposeRunInputs, bind_eq_ok, throwIf_eq_ok, selectRows_eq_ok] at h
  obtain ⟨_, _, ⟨-, rfl⟩, _, _, ⟨hunique, rfl⟩, _, _, ⟨rfl, rfl⟩, _, _, ⟨rfl, rfl⟩,
    supersession, w₁, hcheck, _, _, ⟨hcycle, rfl⟩, _, w₂, hloop, _, _, ⟨rfl, rfl⟩, hnone, rfl⟩ := h
  have hread : SameDatabase w w₁ := Within.of_eq hcheck
  have hnodup : ((command.exceptions.getD []).map (·.runInputId)).Nodup := by
    apply nodup_of_unique_length
    rw [List.length_map]
    exact not_not.mp hunique
  obtain ⟨hvalid, hget⟩ := checkCompletionExceptions_eq_ok hnodup hcheck
  have hvalid : ∀ e ∈ command.exceptions.getD [],
      e.Valid (w.db.inputsOf command.runId) command.incorporatedThroughInputSequence := by
    intro e he
    obtain ⟨⟨i, hi, hinput⟩, hdisposition, hreason, htarget, hnoTarget⟩ := hvalid e he
    refine ⟨⟨i, mem_orderBy.mp hi, hinput⟩, hdisposition, hreason, fun hsuperseded => ?_, hnoTarget⟩
    obtain ⟨target, htext, hempty, hself, j, hj, hid⟩ := htarget hsuperseded
    exact ⟨target, htext, hempty, hself, j, mem_orderBy.mp hj, hid⟩
  obtain ⟨hrows, hsupplied⟩ := completeRunInputs_rows nodup_inputsOf hloop
  rw [hread] at hrows
  -- the loop has reached every Pending input, as none is left
  have hreached : ∀ r ∈ w.db.inputsOf command.runId, r.disposition = .Pending →
      (r.runInputSequence : Int) ≤ command.incorporatedThroughInputSequence := by
    intro r hr hpending
    by_contra hlate
    obtain ⟨hmem, hrun⟩ := mem_inputsOf.mp hr
    have hidle : (orderBy RunInput.runInputSequence (w.db.inputsOf command.runId)).any (fun x =>
        x.id = r.id ∧ x.due command.incorporatedThroughInputSequence) = false := by
      rw [List.any_eq_false]
      intro x hx hyes
      obtain ⟨hid, hdue⟩ := of_decide_eq_true hyes
      obtain ⟨hxmem, _⟩ := mem_inputsOf.mp (mem_orderBy.mp hx)
      obtain rfl := runInput_eq_of_id hxmem hmem hid
      simp only [RunInput.due, Bool.decide_and, Bool.and_eq_true, decide_eq_true_eq] at hdue
      exact hlate hdue.2
    have hstill : r ∈ (w₂.db.table RunInput).rows := by
      rw [hrows]
      refine List.mem_map.mpr ⟨r, hmem, ?_⟩
      rw [if_neg (Bool.eq_false_iff.mp hidle)]
    apply hnone
    exact List.length_pos_of_mem (Table.mem_filter.mpr ⟨hstill, by simp [hrun, hpending]⟩)
  refine ⟨⟨?_, hnodup, hvalid, ?_⟩, ?_⟩
  · intro i hi hpending
    have hdue : i.due command.incorporatedThroughInputSequence = true := by
      simp only [RunInput.due, Bool.decide_and, Bool.and_eq_true, decide_eq_true_eq]
      exact ⟨hpending, hreached i hi hpending⟩
    refine ⟨hreached i hi hpending, ?_⟩
    obtain ⟨r, hr, hid⟩ := List.mem_map.mp (hsupplied i (mem_orderBy.mpr hi) hdue)
    obtain ⟨hr, hactivation⟩ := Table.mem_filter.mp hr
    exact ⟨r, hr, of_decide_eq_true hactivation, hid⟩
  · refine acyclic_of_hasCycle (Bool.eq_false_iff.mpr hcycle)
      (fun id target => proposes_of_find hnodup hget) ?_
    rintro id target ⟨e, he, -, hsuperseded, htarget⟩
    obtain ⟨target', htarget', hempty, _⟩ := (hvalid e he).target hsuperseded
    obtain rfl := Option.some.inj (htarget.symm.trans htarget')
    exact hempty
  · rw [hrows]
    apply List.map_congr_left
    intro r hr
    by_cases hrun : r.runId = command.runId
    · have hinput : r ∈ w.db.inputsOf command.runId := mem_inputsOf.mpr ⟨hr, hrun⟩
      rw [if_pos hrun, RunInput.completed]
      by_cases hpending : r.disposition = .Pending
      · rw [if_pos hpending, if_pos]
        refine List.any_eq_true.mpr ⟨r, mem_orderBy.mpr hinput, decide_eq_true ⟨rfl, ?_⟩⟩
        simp only [RunInput.due, Bool.decide_and, Bool.and_eq_true, decide_eq_true_eq]
        exact ⟨hpending, hreached r hinput hpending⟩
      · rw [if_neg hpending, if_neg]
        intro hyes
        obtain ⟨x, hx, hsame⟩ := List.any_eq_true.mp hyes
        obtain ⟨hid, hdue⟩ := of_decide_eq_true hsame
        obtain rfl := runInput_eq_of_id (mem_inputsOf.mp (mem_orderBy.mp hx)).1 hr hid
        simp only [RunInput.due, Bool.decide_and, Bool.and_eq_true, decide_eq_true_eq] at hdue
        exact hpending hdue.1
    · rw [if_neg hrun, if_neg]
      intro hyes
      obtain ⟨x, hx, hsame⟩ := List.any_eq_true.mp hyes
      obtain ⟨hid, _⟩ := of_decide_eq_true hsame
      obtain ⟨hxmem, hxrun⟩ := mem_inputsOf.mp (mem_orderBy.mp hx)
      obtain rfl := runInput_eq_of_id hxmem hr hid
      exact hrun hxrun

end Rows

/-! ## The command -/

section Command

set_option synthInstance.maxSize 400000

variable {kernel : KernelContext} {command : CompleteRunCommand} {principal : Principal}
  {context : PrincipalContext} {correlationId : String} {w w' : World} {result : CommandResult}

theorem requireRunActivation_eq_ok {run : Run} {activation : ActivationAttempt}
    (h : requireRunActivation kernel context principal run w = (.ok activation, w')) :
    principal.kind = .agent ∧ context.activationId = some activation.id := by
  simp only [requireRunActivation, requireLiveActivation, requireActivation, bind_eq_ok,
    requireKind_eq_ok, throwIf_eq_ok, requireRow_eq_ok, pure_eq_ok, not_not] at h
  obtain ⟨_, _, ⟨hkind, rfl⟩, _, _, ⟨htruthy, rfl⟩, _, _, ⟨found, _, ⟨hfound, rfl⟩, _, _,
    ⟨-, rfl⟩, rfl, rfl⟩, _, _, ⟨-, rfl⟩, _, _, -, _, _, ⟨-, rfl⟩, _, _, -, rfl, -⟩ := h
  have hid : found.id = context.activationId.getD "" :=
    of_decide_eq_true (Table.find?_eq_some hfound).2
  refine ⟨hkind, ?_⟩
  rw [hid]
  exact truthy_getD htruthy

theorem RunInput.completed_runId {exceptions : List CompletionException} (r : RunInput) :
    (r.completed exceptions).runId = r.runId := by
  unfold RunInput.completed
  split
  · unfold RunInput.complete
    cases exceptions.find? fun e => e.runInputId = r.id with
    | none => rfl
    | some e => rfl
  · rfl

/-- The inputs of each Run after the disposal. -/
theorem runBook_inputs_of_rows {runId : String} {f : RunInput → RunInput}
    (hf : ∀ r, (f r).runId = r.runId)
    (hrows : (w'.db.table RunInput).rows = (w.db.table RunInput).rows.map fun r =>
      if r.runId = runId then f r else r) (id : String) :
    (runBook w'.db id).inputs = (w.db.inputsOf id).map fun r =>
      (if id = runId then f r else r).unstamped := by
  show ((w'.db.table RunInput).rows.filter fun r => r.runId = id).map RunInput.unstamped = _
  rw [hrows, List.filter_map, List.map_map]
  have hfilter : ((fun r : RunInput => decide (r.runId = id)) ∘ fun r =>
      if r.runId = runId then f r else r) = fun r => decide (r.runId = id) := by
    funext r
    simp only [Function.comp_apply]
    split
    · rw [hf]
    · rfl
  rw [hfilter]
  apply List.map_congr_left
  intro r hr
  have hid : r.runId = id := of_decide_eq_true (List.mem_filter.mp hr).2
  rw [Function.comp_apply, hid]

/-- What a successful CompleteRun has checked and what it leaves. -/
structure CompletesRun (command : CompleteRunCommand) (context : PrincipalContext)
    (db db' : Database) : Prop where
  accepted : ∃ activationId, context.activationId = some activationId ∧
    CompletionAccepted db command activationId
  mutable : ∃ run, (runBook db command.runId).run = some run ∧
    isTerminalRunState run.state = false
  terminal : ∃ run, (runBook db' command.runId).run = some run ∧
    isTerminalRunState run.state = true
  inputs : ∀ id, (runBook db' id).inputs = (db.inputsOf id).map fun r =>
    (if id = command.runId then r.completed (command.exceptions.getD []) else r).unstamped

theorem completeRun_eq_ok
    (h : completeRun kernel command principal context correlationId w = (.ok result, w')) :
    principal.kind = .agent ∧ CompletesRun command context w.db w'.db := by
  simp only [completeRun, bind_eq_ok, now_eq_ok, pure_eq_ok] at h
  obtain ⟨run, _, hrun, activation, w₁, hactivation, _, w₂, hdispose, finalMessageId, w₃, hreply,
    updatedAt, _, ⟨-, rfl⟩, _, w₄, hupdate, revokedAt, _, ⟨-, rfl⟩, _, w₅, hrevoke, capacity, w₆,
    hcapacity, cursor, w₇, hemit, _, w₈, henqueue, -, rfl⟩ := h
  obtain ⟨hfound, hmutable, -, rfl⟩ := requireMutableRun_eq_ok hrun
  obtain ⟨hfile, -⟩ := runBook_run hfound
  have hread : SameDatabase w w₁ := Within.of_eq hactivation
  obtain ⟨hkind, hcontext⟩ := requireRunActivation_eq_ok hactivation
  have hreplied : SameRuns w₂ w₃ := Within.of_eq hreply
  have hafter : SameRuns w₅ w₈ := trans_of SameRuns (Within.of_eq hcapacity)
    (trans_of SameRuns (Within.of_eq hemit) (Within.of_eq henqueue))
  have hdisposed : SameTables [.runs] w₁ w₂ := Within.of_eq hdispose
  obtain ⟨haccepted, hrows⟩ := disposeRunInputs_rows hdispose
  rw [hread] at haccepted hrows
  have hinputs := runBook_inputs_of_rows RunInput.completed_runId hrows
  have hupdated := runBook_updateRun hupdate (fun _ => rfl) fun _ => rfl
  rw [World.tick_db, hreplied] at hupdated
  obtain ⟨revoke, -, -, hrevoked⟩ := revokeRunActivations_eq_ok hrevoke
  rw [World.tick_db, hupdated, RunBook.edit_edit, ← hafter] at hrevoked
  have hrunAfter : (runBook w₂.db command.runId).run = some run.unstamped := by
    rw [← hfile]
    show ((w₂.db.table Run).find? _).map _ = ((w.db.table Run).find? _).map _
    rw [hdisposed.table_eq Run (by decide), hread]
  refine ⟨hkind, ⟨_, hcontext, haccepted⟩, ⟨_, hfile, hmutable⟩, ?_, ?_⟩
  · rw [hrevoked, RunBook.edit_self]
    simp only [hrunAfter, Option.map_some]
    exact ⟨_, rfl, rfl⟩
  · intro id
    rw [← hinputs id, hrevoked]
    by_cases hid : id = command.runId
    · subst hid
      rw [RunBook.edit_self]
    · rw [RunBook.edit, Function.update_of_ne hid]

end Command

/-! ## Where references come from -/

/-- An input that is superseded was already, by the same input. -/
def NoNewReference (w w' : World) : Prop :=
  ∀ r' ∈ w'.db.table RunInput, r'.supersededByRunInputId ≠ none →
    ∃ r ∈ w.db.table RunInput, r.id = r'.id ∧ r.runId = r'.runId ∧
      r.supersededByRunInputId = r'.supersededByRunInputId

instance : IsPreorder World NoNewReference where
  refl _ r hr _ := ⟨r, hr, rfl, rfl, rfl⟩
  trans _ _ _ h h' r'' hr'' hsome := by
    obtain ⟨r', hr', hid', hrun', hsame'⟩ := h' r'' hr'' hsome
    obtain ⟨r, hr, hid, hrun, hsame⟩ := h r' hr' (hsame' ▸ hsome)
    exact ⟨r, hr, hid.trans hid', hrun.trans hrun', hsame.trans hsame'⟩

instance : ConcernsTables NoNewReference [.runInputs] where
  of_tables w w' htables _ _ _ := by
    have hsame : w'.db.table RunInput = w.db.table RunInput := by
      simp only [Database.table, htables .runInputs (by decide)]
    intro r hr _
    rw [hsame] at hr
    exact ⟨r, hr, rfl, rfl, rfl⟩

section References

set_option synthInstance.maxSize 400000

variable (kernel : KernelContext)

theorem noNewReference_insertRow {input : RunInput} (h : input.supersededByRunInputId = none) :
    Within NoNewReference (insertRow input) where
  step w := by
    obtain ⟨u, hu, hrun⟩ | hrun := insertRow_cases input w
    · rw [hrun]
      intro r hr hsome
      rw [World.store, Database.table_set_same, Table.mem_insert? hu] at hr
      obtain hr | rfl := hr
      · exact ⟨r, hr, rfl, rfl, rfl⟩
      · exact absurd h hsome
    · rw [hrun]
      exact refl_of NoNewReference w

theorem noNewReference_updateRows {p : RunInput → Bool} {f : RunInput → RunInput}
    {h : KeepsKeys f} (hf : ∀ r, (f r).id = r.id ∧ (f r).runId = r.runId)
    (hreference : ∀ r, (f r).supersededByRunInputId = none ∨
      (f r).supersededByRunInputId = r.supersededByRunInputId) :
    Within NoNewReference (updateRows p f h) := by
  apply Within.updateRows
  intro w r' hr' hsome
  rw [World.store, Database.table_set_same, Table.mem_update] at hr'
  obtain ⟨r, hr, rfl⟩ := hr'
  refine ⟨r, hr, ?_⟩
  by_cases hp : p r = true
  · rw [if_pos hp] at hsome ⊢
    obtain hnone | hsame := hreference r
    · exact absurd hnone hsome
    · exact ⟨(hf r).1.symm, (hf r).2.symm, hsame.symm⟩
  · rw [if_neg hp]
    exact ⟨rfl, rfl, rfl⟩

instance (run : Run) (messageRevisionId principalId : String)
    (activationId sourceAttentionId : Option String) :
    Within NoNewReference
      (createRunInput kernel run messageRevisionId principalId activationId sourceAttentionId) := by
  have hinsert : ∀ (id : String) (createdAt : Timestamp), Within NoNewReference (insertRow
      ({ id, messageRevisionId, createdAt, sourceAttentionId
         assignedByPrincipalId := principalId
         assignedByActivationId := activationId
         runId := run.id
         runInputSequence := run.nextInputSequence
         createdEventSequence := none
         disposition := .Pending
         dispositionRevision := 1
         dispositionReason := none
         supersededByRunInputId := none } : RunInput)) :=
    fun _ _ => noNewReference_insertRow rfl
  unfold createRunInput
  infer_instance

instance (command : WithdrawRunInputCommand) (principal : Principal) (context : PrincipalContext)
    (correlationId : String) :
    Within NoNewReference (withdrawRunInput kernel command principal context correlationId) := by
  have hupdate : ∀ (f : RunInput → RunInput) (hkeys : KeepsKeys f),
      (∀ r, (f r).id = r.id ∧ (f r).runId = r.runId ∧ (f r).supersededByRunInputId = none) →
      Within NoNewReference (updateRows (fun r : RunInput => r.id = command.runInputId) f hkeys) :=
    fun f hkeys hf => noNewReference_updateRows (fun r => ⟨(hf r).1, (hf r).2.1⟩)
      fun r => .inl (hf r).2.2
  have hwithdraw := fun revision : Nat => hupdate
    (fun r => { r with
      disposition := .Withdrawn
      dispositionRevision := revision
      dispositionReason := some command.reason
      supersededByRunInputId := none }) ⟨fun _ => rfl⟩ fun _ => ⟨rfl, rfl, rfl⟩
  unfold withdrawRunInput
  infer_instance

instance (run : Run) (termination : Termination) (reason : String) (principal : Principal)
    (activationId : Option String) (correlationId : String) (commandType : CommandType) :
    Within NoNewReference (terminateRun kernel run termination reason principal activationId
      correlationId commandType) := by
  have habandon : Within NoNewReference (updateRows
      (fun r : RunInput => r.runId = run.id && r.disposition = .Pending)
      (fun r => { r with
        disposition := .Abandoned
        dispositionRevision := r.dispositionRevision + 1
        dispositionReason := some termination.reason }) ⟨fun _ => rfl⟩) :=
    noNewReference_updateRows (fun _ => ⟨rfl, rfl⟩) fun _ => .inr rfl
  unfold terminateRun
  infer_instance

theorem noNewReference_stamp (p : RunInput → Bool) (eventSequence : Nat) :
    Within NoNewReference (updateRows p (fun r => { r with
      createdEventSequence := stamp eventSequence r.createdEventSequence }) ⟨fun _ => rfl⟩) :=
  noNewReference_updateRows (fun _ => ⟨rfl, rfl⟩) fun _ => .inr rfl

instance (correlationId : String) (eventSequence : Nat) :
    Within NoNewReference (markImmutableComponents correlationId eventSequence) := by
  have hinputs := fun p => noNewReference_stamp p eventSequence
  unfold markImmutableComponents
  infer_instance

instance (correlationId : String) :
    Within NoNewReference (recordProjectionVersions correlationId) := by
  have hinputs := noNewReference_stamp
  unfold recordProjectionVersions recordVersionsAt recordAffectedRun
  infer_instance

theorem dispatchCommand_noNewReference {command : KernelCommand}
    (h : ∀ completion, command ≠ .CompleteRun completion) (context : PrincipalContext)
    (principal : Principal) (correlationId : String) :
    Within NoNewReference
      (dispatchCommand kernel command context principal correlationId) := by
  unfold dispatchCommand
  cases command with
  | CompleteRun completion => exact absurd rfl (h completion)
  | SendToRun => unfold sendToRun; infer_instance
  | CancelRun => unfold cancelRun; infer_instance
  | FailRun => unfold failRun; infer_instance
  | ResolveAttentionWithRun => unfold resolveAttentionWithRun; infer_instance
  | ResolveAttentionWithExistingRun => unfold resolveAttentionWithExistingRun; infer_instance
  | _ => infer_instance

instance (command : KernelCommand) (result : CommandResult) (principal : Principal)
    (context : PrincipalContext) :
    Within NoNewReference (resolveCachedResult kernel command result principal context) := by
  unfold resolveCachedResult
  split <;> infer_instance

end References

/-! ## References of reachable states -/

/-- The stored reference from an input to the one that supersedes it. -/
def Database.Supersedes (db : Database) (id target : String) : Prop :=
  ∃ r ∈ db.table RunInput, r.id = id ∧ r.supersededByRunInputId = some target

/-- References are made by Runs that have completed, inside the Run and without a cycle. -/
structure ReferencesSound (db : Database) : Prop where
  terminal : ∀ r ∈ db.table RunInput, r.supersededByRunInputId ≠ none →
    ∃ run, (runBook db r.runId).run = some run ∧ isTerminalRunState run.state = true
  inside : ∀ r ∈ db.table RunInput, ∀ target, r.supersededByRunInputId = some target →
    ∃ r' ∈ db.table RunInput, r'.id = target ∧ r'.runId = r.runId
  acyclic : Acyclic db.Supersedes

section Sound

variable {kernel : KernelContext} {command : CompleteRunCommand} {context : PrincipalContext}
  {w w' : World} {db db' : Database}

theorem RunInput.Evolves.runId {i i' : RunInput} (h : i.unstamped.Evolves i'.unstamped) :
    i'.runId = i.runId := by
  obtain hdisposed | hsame := h
  · have hassignment := congrArg RunInput.runId hdisposed.assignment
    exact hassignment
  · have hrunId := congrArg RunInput.runId hsame
    exact hrunId

theorem RunFile.Evolves.terminal {f f' : RunFile} (h : f.Evolves f')
    (hterminal : ∃ run, f.run = some run ∧ isTerminalRunState run.state = true) :
    ∃ run, f'.run = some run ∧ isTerminalRunState run.state = true := by
  obtain ⟨run, hrun, hterminal⟩ := hterminal
  obtain ⟨run', hrun', hevolves⟩ := h.run run hrun
  refine ⟨run', hrun', ?_⟩
  rw [Run.state_of_withoutActivity (hevolves.terminal hterminal)]
  exact hterminal

theorem ReferencesSound.of_noNewReference (hi : ReferencesSound w.db) (hs : Steps kernel w w')
    (h : NoNewReference w w') : ReferencesSound w'.db where
  terminal := by
    intro r' hr' hsome
    obtain ⟨r, hr, -, hrun, hsame⟩ := h r' hr' hsome
    rw [← hrun]
    exact (hs.runEvolves r.runId).terminal (hi.terminal r hr (hsame ▸ hsome))
  inside := by
    intro r' hr' target htarget
    obtain ⟨r, hr, -, hrun, hsame⟩ := h r' hr' (by simp [htarget])
    obtain ⟨i, hmem, hid, hirun⟩ := hi.inside r hr target (hsame.trans htarget)
    obtain ⟨i', hmem', hid', hevolves⟩ := hs.input hmem
    exact ⟨i', hmem', hid'.trans hid, by rw [hevolves.runId, hirun, hrun]⟩
  acyclic := by
    intro id hcycle
    have hold : ∀ a b, w'.db.Supersedes a b → w.db.Supersedes a b := by
      rintro a b ⟨r', hr', rfl, htarget⟩
      obtain ⟨r, hr, hid, -, hsame⟩ := h r' hr' (by simp [htarget])
      exact ⟨r, hr, hid, hsame.trans htarget⟩
    exact hi.acyclic id (Relation.TransGen.mono hold id id hcycle)

/-- A row of the later state and the row it was. -/
theorem CompletesRun.row (h : CompletesRun command context db db') {r' : RunInput}
    (hr' : r' ∈ db'.table RunInput) : ∃ r ∈ db.table RunInput, r.runId = r'.runId ∧
      r'.unstamped = (if r'.runId = command.runId then
        r.completed (command.exceptions.getD []) else r).unstamped := by
  have hmem := mem_runBook_inputs.mpr ⟨r', hr', rfl, rfl⟩
  rw [h.inputs] at hmem
  obtain ⟨r, hr, hsame⟩ := List.mem_map.mp hmem
  obtain ⟨hr, hrun⟩ := Table.mem_filter.mp hr
  exact ⟨r, hr, of_decide_eq_true hrun, hsame.symm⟩

theorem RunInput.completed_id {exceptions : List CompletionException} (r : RunInput) :
    (r.completed exceptions).id = r.id := by
  unfold RunInput.completed
  split
  · exact r.complete_id
  · rfl

theorem CompletesRun.kept (h : CompletesRun command context db db') {r : RunInput}
    (hr : r ∈ db.table RunInput) :
    ∃ r' ∈ db'.table RunInput, r'.id = r.id ∧ r'.runId = r.runId := by
  have hmem : (if r.runId = command.runId then r.completed (command.exceptions.getD [])
      else r).unstamped ∈ (runBook db' r.runId).inputs := by
    rw [h.inputs]
    exact List.mem_map.mpr ⟨r, Table.mem_filter.mpr ⟨hr, by simp⟩, rfl⟩
  obtain ⟨r', hr', hrun, hsame⟩ := mem_runBook_inputs.mp hmem
  refine ⟨r', hr', ?_, hrun⟩
  have hid := congrArg RunInput.id hsame
  refine Eq.trans hid ?_
  split
  · exact r.completed_id
  · rfl

/-- The references after a Run completes: its own are the proposed ones. -/
theorem CompletesRun.reference (h : CompletesRun command context db db')
    (hi : ReferencesSound db) {r' : RunInput} (hr' : r' ∈ db'.table RunInput) {target : String}
    (htarget : r'.supersededByRunInputId = some target) :
    (if r'.runId = command.runId then Proposes (command.exceptions.getD [])
      else db.Supersedes) r'.id target := by
  obtain ⟨r, hr, hrun, hsame⟩ := h.row hr'
  have hid := congrArg RunInput.id hsame
  have hreference := congrArg RunInput.supersededByRunInputId hsame
  by_cases hown : r'.runId = command.runId
  · rw [if_pos hown] at hid hreference ⊢
    -- a Run that may complete has made no reference before
    have hnone : r.supersededByRunInputId = none := by
      by_contra hsome
      obtain ⟨run, hfile, hterminal⟩ := hi.terminal r hr hsome
      obtain ⟨run', hfile', hmutable⟩ := h.mutable
      rw [hrun, hown, hfile'] at hfile
      cases hfile
      rw [hmutable] at hterminal
      cases hterminal
    have hreference : r'.supersededByRunInputId =
        (r.completed (command.exceptions.getD [])).supersededByRunInputId := hreference
    have hid : r'.id = (r.completed (command.exceptions.getD [])).id := hid
    rw [htarget, RunInput.completed] at hreference
    rw [r.completed_id] at hid
    by_cases hpending : r.disposition = .Pending
    · rw [if_pos hpending, RunInput.complete] at hreference
      cases hfound : (command.exceptions.getD []).find? fun e => e.runInputId = r.id with
      | none =>
          rw [hfound] at hreference
          have hreference : some target = r.supersededByRunInputId := hreference
          rw [hnone] at hreference
          cases hreference
      | some e =>
          rw [hfound] at hreference
          have hreference : some target = e.supersession := hreference
          have hnamed : e.runInputId = r.id := by simpa using List.find?_some hfound
          rw [CompletionException.supersession] at hreference
          split at hreference
          · rename_i hsuperseded
            exact ⟨e, List.mem_of_find?_eq_some hfound, hnamed.trans hid.symm, hsuperseded,
              hreference.symm⟩
          · cases hreference
    · rw [if_neg hpending, hnone] at hreference
      cases hreference
  · rw [if_neg hown] at hid hreference ⊢
    have hreference : r'.supersededByRunInputId = r.supersededByRunInputId := hreference
    exact ⟨r, hr, Eq.symm hid, hreference.symm.trans htarget⟩

theorem CompletesRun.sound (h : CompletesRun command context db db') (hi : ReferencesSound db)
    (hevolves : ∀ id, (runBook db id).Evolves (runBook db' id)) : ReferencesSound db' := by
  obtain ⟨activationId, -, haccepted⟩ := h.accepted
  have hinside : ∀ r ∈ db'.table RunInput, ∀ target, r.supersededByRunInputId = some target →
      ∃ r' ∈ db'.table RunInput, r'.id = target ∧ r'.runId = r.runId := by
    intro r' hr' target htarget
    have hreference := h.reference hi hr' htarget
    by_cases hown : r'.runId = command.runId
    · rw [if_pos hown] at hreference
      obtain ⟨e, he, -, hsuperseded, hnamed⟩ := hreference
      obtain ⟨target', hnamed', -, -, i, hmem, hid⟩ :=
        (haccepted.exceptions e he).target hsuperseded
      obtain rfl := Option.some.inj (hnamed.symm.trans hnamed')
      obtain ⟨himem, hirun⟩ := mem_inputsOf.mp hmem
      obtain ⟨i', hmem', hid', hrun'⟩ := h.kept himem
      exact ⟨i', hmem', hid'.trans hid, by rw [hrun', hirun, hown]⟩
    · rw [if_neg hown] at hreference
      obtain ⟨r, hr, hid, hold⟩ := hreference
      obtain ⟨r₀, hr₀, hrun₀, hsame⟩ := h.row hr'
      rw [if_neg hown] at hsame
      have hid₀ := congrArg RunInput.id hsame
      obtain rfl := runInput_eq_of_id hr hr₀ (hid.trans hid₀)
      obtain ⟨i, hmem, hid, hirun⟩ := hi.inside r hr target hold
      obtain ⟨i', hmem', hid', hrun'⟩ := h.kept hmem
      exact ⟨i', hmem', hid'.trans hid, by rw [hrun', hirun, hrun₀]⟩
  refine ⟨?_, hinside, ?_⟩
  · intro r' hr' hsome
    by_cases hown : r'.runId = command.runId
    · rw [hown]
      exact h.terminal
    · obtain ⟨target, htarget⟩ := Option.ne_none_iff_exists'.mp hsome
      obtain ⟨r, hr, hrun, hsame⟩ := h.row hr'
      rw [if_neg hown] at hsame
      have hreference := congrArg RunInput.supersededByRunInputId hsame
      have hreference : r'.supersededByRunInputId = r.supersededByRunInputId := hreference
      rw [← hrun]
      exact (hevolves r.runId).terminal (hi.terminal r hr (hreference ▸ hsome))
  · -- a chain of references stays in one Run, where all of them are proposed or all are old
    have hchain : ∀ a b, Relation.TransGen db'.Supersedes a b → ∀ r ∈ db'.table RunInput,
        r.id = a → Relation.TransGen (if r.runId = command.runId then
          Proposes (command.exceptions.getD []) else db.Supersedes) a b ∧
        ∃ r' ∈ db'.table RunInput, r'.id = b ∧ r'.runId = r.runId := by
      intro a b hab r hr hid
      induction hab with
      | single hedge =>
          obtain ⟨r₁, hr₁, hid₁, htarget⟩ := hedge
          obtain rfl := runInput_eq_of_id hr₁ hr (hid₁.trans hid.symm)
          exact ⟨.single (hid₁ ▸ h.reference hi hr₁ htarget), hinside r₁ hr₁ _ htarget⟩
      | tail _ hedge ih =>
          obtain ⟨hpath, r₂, hr₂, hid₂, hrun₂⟩ := ih
          obtain ⟨r₁, hr₁, hid₁, htarget⟩ := hedge
          obtain rfl := runInput_eq_of_id hr₁ hr₂ (hid₁.trans hid₂.symm)
          have hreference := h.reference hi hr₁ htarget
          rw [hrun₂, hid₁] at hreference
          obtain ⟨r₃, hr₃, hid₃, hrun₃⟩ := hinside r₁ hr₁ _ htarget
          exact ⟨hpath.tail hreference, r₃, hr₃, hid₃, hrun₃.trans hrun₂⟩
    intro id hcycle
    obtain ⟨_, ⟨r, hr, hid, -⟩, -⟩ := Relation.TransGen.head'_iff.mp hcycle
    obtain ⟨hpath, -⟩ := hchain id id hcycle r hr hid
    split at hpath
    · exact haccepted.acyclic id hpath
    · exact hi.acyclic id hpath

end Sound

/-! ## Every reachable state -/

section Reachable

set_option synthInstance.maxSize 400000

variable {kernel : KernelContext} {w w' : World} {call : KernelCall}

theorem referencesSound_opened (h : Opened kernel w) : ReferencesSound w.db := by
  have hframe : Frame [.runInputs] World.blank w := h.frame
  have hempty : ∀ r, r ∉ w.db.table RunInput := by
    intro r hr
    rw [hframe.table_eq RunInput (by decide)] at hr
    exact Table.not_mem_empty r hr
  refine ⟨fun r hr => absurd hr (hempty r), fun r hr => absurd hr (hempty r), ?_⟩
  intro id hcycle
  obtain ⟨_, ⟨r, hr, -⟩, -⟩ := Relation.TransGen.head'_iff.mp hcycle
  exact hempty r hr

/-- What is read and written around the command leaves its effect as it is. -/
theorem CompletesRun.around {command : CompleteRunCommand} {context : PrincipalContext}
    {w₁ w₂ : World} (h : CompletesRun command context w₁.db w₂.db)
    (hbefore : SameTables TableName.butLeases w w₁) (hafter : SameRuns w₂ w') :
    CompletesRun command context w.db w'.db := by
  have hinputs := hbefore.table_eq RunInput (by decide)
  have hsupplied := hbefore.table_eq ActivationRunInput (by decide)
  have hruns := hbefore.table_eq Run (by decide)
  have hof : ∀ id, w₁.db.inputsOf id = w.db.inputsOf id := by
    intro id
    rw [Database.inputsOf, hinputs, Database.inputsOf]
  have hfile : ∀ id, (runBook w₁.db id).run = (runBook w.db id).run := by
    intro id
    show ((w₁.db.table Run).find? _).map _ = ((w.db.table Run).find? _).map _
    rw [hruns]
  obtain ⟨⟨activationId, hactivation, haccepted⟩, hmutable, hterminal, hleft⟩ := h
  refine ⟨⟨activationId, hactivation, ?_⟩, hfile _ ▸ hmutable, hafter ▸ hterminal, ?_⟩
  · obtain ⟨hpending, hdistinct, hvalid, hacyclic⟩ := haccepted
    rw [hof, hsupplied] at hpending
    rw [hof] at hvalid
    exact ⟨hpending, hdistinct, hvalid, hacyclic⟩
  · intro id
    rw [hafter, ← hof]
    exact hleft id

theorem step_referencesSound (hi : ReferencesSound w.db) (call : KernelCall) :
    ReferencesSound (step kernel call w).db := by
  have hs : Steps kernel w (step kernel call w) := .single ⟨call, rfl⟩
  by_cases hcompletes : ∃ issued command, call.issued = some issued ∧
      issued.command = .CompleteRun command
  · obtain ⟨⟨_, context, operationContext⟩, command, hissued, rfl⟩ := hcompletes
    have hplain := @dispatchCommand_plain kernel (.CompleteRun command) rfl
    obtain hsame | ⟨principal, correlationId, dispatched, w₁, w₂, -, -, htables, hdispatch,
      hafter⟩ := step_outcome kernel SameRuns hissued w
    · refine hi.of_noNewReference hs fun r' hr' hsome => ?_
      have hmem := mem_runBook_inputs.mpr ⟨r', hr', rfl, rfl⟩
      rw [hsame] at hmem
      obtain ⟨r, hr, hrun, hview⟩ := mem_runBook_inputs.mp hmem
      have hid := congrArg RunInput.id hview
      have hreference := congrArg RunInput.supersededByRunInputId hview
      exact ⟨r, hr, hid, hrun, hreference⟩
    · obtain ⟨-, hspec⟩ := completeRun_eq_ok hdispatch
      exact (hspec.around htables hafter).sound hi hs.runEvolves
  · refine hi.of_noNewReference hs
      (step_within kernel call w fun issued principal hissued _ => ?_)
    have hdispatch := @dispatchCommand_noNewReference kernel issued.command fun completion h =>
      hcompletes ⟨issued, completion, hissued, h⟩
    infer_instance

theorem Reachable.referencesSound (h : Reachable kernel w) : ReferencesSound w.db :=
  h.invariant (fun _ => referencesSound_opened) fun _ call hi => step_referencesSound hi call

/-- A CompleteRun that is executed and succeeds. -/
theorem Executes.completes {issued : IssuedCommand} {command : CompleteRunCommand}
    {result : CommandResult} (h : Executes kernel call issued w result)
    (hcommand : issued.command = .CompleteRun command) :
    CompletesRun command issued.context w.db (step kernel call w).db := by
  obtain ⟨w₁, hrun, hend⟩ := answer_eq_ok h.issues h.succeeds
  obtain ⟨principal, w₂, hprincipal, hfence, ⟨cached, hcached, -⟩ | ⟨-, hperform⟩⟩ :=
    executeTransaction_eq_ok hrun
  · have hid : principal.id = issued.context.principalId := by
      simpa using (Table.find?_eq_some hprincipal).2
    have hsame : SameTables TableName.butLeases w w₂ := Within.of_eq hfence
    rw [hid, hsame.table_eq IdempotencyRecord (by decide)] at hcached
    exact absurd ⟨cached, hcached⟩ h.fresh
  · simp only [performCommand, bind_eq_ok] at hperform
    obtain ⟨correlationId, w₃, hcorrelation, dispatched, w₄, hdispatch, _, w₅, hversions,
      createdAt, w₆, hclock, _, w₇, hrecord, hresult⟩ := hperform
    have hread : SameTables TableName.butLeases w₂ w₃ := by
      cases hoperation : issued.operationContext with
      | none =>
          rw [hoperation] at hcorrelation
          exact Within.of_eq hcorrelation
      | some operation =>
          rw [hoperation] at hcorrelation
          exact Within.of_eq hcorrelation
    have hbefore : SameTables TableName.butLeases w w₃ :=
      trans_of _ (Within.of_eq hfence) hread
    have hstored : SameRuns w₄ w₇ := trans_of SameRuns (Within.of_eq hversions)
      (trans_of SameRuns (Within.of_eq hclock) (Within.of_eq hrecord))
    obtain ⟨-, rfl⟩ := pure_eq_ok.mp hresult
    have hlast : SameRuns w₇ (step kernel call w) := by
      have hsame : ∀ t, (step kernel call w).db t = w₇.db t :=
        fun t => hend.tables t (TableName.mem_all t)
      exact congrArg runBook (funext hsame)
    rw [hcommand] at hdispatch
    obtain ⟨hkind, hspec⟩ := completeRun_eq_ok hdispatch
    have hcontext : effectiveContext principal issued.context = issued.context := by
      rw [effectiveContext, if_neg]
      rw [hkind]
      decide
    rw [hcontext] at hspec
    exact hspec.around hbefore (trans_of SameRuns hstored hlast)

/-- What CompleteRun does with inputs, and what their references are. -/
structure CompletesExactly (kernel : KernelContext) (w : World) : Prop where
  /-- A success means that the inputs and the exceptions were as they must be. -/
  accepted : ∀ call issued command result, Executes kernel call issued w result →
    issued.command = .CompleteRun command → ∃ activationId,
      issued.context.activationId = some activationId ∧
      CompletionAccepted w.db command activationId
  /-- The Pending inputs of the Run are disposed of; all other inputs stay as they are. -/
  disposed : ∀ call issued command result, Executes kernel call issued w result →
    issued.command = .CompleteRun command → ∀ id,
      ((step kernel call w).db.inputsOf id).map RunInput.unstamped =
        (w.db.inputsOf id).map fun r => (if id = command.runId then
          r.completed (command.exceptions.getD []) else r).unstamped
  inside : ∀ r ∈ w.db.table RunInput, ∀ target, r.supersededByRunInputId = some target →
    ∃ r' ∈ w.db.table RunInput, r'.id = target ∧ r'.runId = r.runId
  acyclic : Acyclic w.db.Supersedes
  /-- The walk of the check ends, from every input of every map. -/
  terminates : ∀ (supersession : Supersession) (start : String), Walks supersession.next [] start
    (supersession.repeats (supersession.length + 1) [] start)
  /-- The check refuses just the maps with a cycle. -/
  exact : ∀ supersession : Supersession, supersession.hasCycle = true ↔
    ∃ id, Relation.TransGen (Leads supersession.next) id id

theorem complete_run_exact (h : Reachable kernel w) : CompletesExactly kernel w where
  accepted _ _ _ _ hexecutes hcommand := (hexecutes.completes hcommand).accepted
  disposed _ _ _ _ hexecutes hcommand := (hexecutes.completes hcommand).inputs
  inside := h.referencesSound.inside
  acyclic := h.referencesSound.acyclic
  terminates _ start := Supersession.repeats_walks start
  exact _ := Supersession.hasCycle_iff

theorem runWorld_complete_run_exact : CompletesExactly countingKernel runWorld :=
  complete_run_exact runWorld_reachable

end Reachable

end Torsor.Kernel
