import Mathlib.Data.List.Perm.Subperm
import Mathlib.Logic.Relation

/-! # Following references

Every element refers to at most one next one. A walk follows the references and remembers
where it has been; it ends where there is no next element, or where it has been before. Over
finitely many references it always ends, and it ends in the second way from some start if and
only if the references have a cycle.
-/

namespace Torsor.Library

variable {α : Type} {next : α → Option α}

def Leads (next : α → Option α) (a b : α) : Prop := next a = some b

/-- What the walk from `a` ends with, having visited some elements before. -/
inductive Walks (next : α → Option α) : List α → α → Bool → Prop where
  | ended {visited : List α} {a : α} (h : next a = none) : Walks next visited a false
  | met {visited : List α} {a b : α} (h : next a = some b) (hmem : a ∈ visited) :
      Walks next visited a true
  | on {visited : List α} {a b : α} {result : Bool} (h : next a = some b) (hnot : a ∉ visited)
      (hrest : Walks next (a :: visited) b result) : Walks next visited a result

/-! ## Cycles -/

theorem Walks.cycle {visited : List α} {a : α} {result : Bool}
    (h : Walks next visited a result) (hresult : result = true)
    (hvisited : ∀ v ∈ visited, Relation.TransGen (Leads next) v a) :
    ∃ c, Relation.TransGen (Leads next) c c := by
  induction h with
  | ended h => cases hresult
  | met h hmem => exact ⟨_, hvisited _ hmem⟩
  | @on visited a b result h hnot hrest ih =>
      apply ih hresult
      intro v hv
      cases hv with
      | head => exact .single h
      | tail _ hv => exact (hvisited v hv).tail h

theorem Leads.on_cycle {a : α} (h : Relation.TransGen (Leads next) a a) :
    ∃ b, next a = some b ∧ Relation.TransGen (Leads next) b b := by
  obtain ⟨b, hb, hback⟩ := Relation.TransGen.head'_iff.mp h
  exact ⟨b, hb, Relation.TransGen.tail' hback hb⟩

theorem Walks.no_cycle {visited : List α} {a : α} {result : Bool}
    (h : Walks next visited a result) (hcycle : Relation.TransGen (Leads next) a a) :
    result = true := by
  induction h with
  | ended h =>
      obtain ⟨b, hb, _⟩ := Leads.on_cycle hcycle
      rw [h] at hb
      cases hb
  | met h hmem => rfl
  | on h hnot hrest ih =>
      obtain ⟨b, hb, hcycle⟩ := Leads.on_cycle hcycle
      rw [h, Option.some.injEq] at hb
      subst hb
      exact ih hcycle

/-! ## The walk as a function -/

variable [DecidableEq α]

/-- The walk with a bound on its steps. -/
def meetsAgain (next : α → Option α) : Nat → List α → α → Bool
  | 0, _, _ => false
  | fuel + 1, visited, a =>
      match next a with
      | none => false
      | some b => visited.contains a || meetsAgain next fuel (a :: visited) b

/-- A bound above the number of references is never reached. -/
theorem walks_meetsAgain {keys visited : List α} {fuel : Nat} {a : α}
    (hkeys : ∀ a, next a ≠ none → a ∈ keys) (hsub : visited ⊆ keys) (hnodup : visited.Nodup)
    (hfuel : keys.length < visited.length + fuel) :
    Walks next visited a (meetsAgain next fuel visited a) := by
  induction fuel generalizing visited a with
  | zero =>
      have hle := (hnodup.subperm hsub).length_le
      omega
  | succ fuel ih =>
      rw [meetsAgain]
      cases hnext : next a with
      | none => exact .ended hnext
      | some b =>
          by_cases hmem : a ∈ visited
          · simp only [List.contains_eq_mem, hmem, decide_true, Bool.true_or]
            exact .met hnext hmem
          · simp only [List.contains_eq_mem, hmem, decide_false, Bool.false_or]
            refine .on hnext hmem (ih ?_ (List.nodup_cons.mpr ⟨hmem, hnodup⟩) ?_)
            · intro v hv
              cases hv with
              | head => exact hkeys a (by simp [hnext])
              | tail _ hv => exact hsub hv
            · rw [List.length_cons]
              omega

theorem walks_from_start {keys : List α} {fuel : Nat} {a : α}
    (hkeys : ∀ a, next a ≠ none → a ∈ keys) (hfuel : keys.length < fuel) :
    Walks next [] a (meetsAgain next fuel [] a) :=
  walks_meetsAgain hkeys (List.nil_subset _) List.nodup_nil (by simpa using hfuel)

/-- Some walk meets an element again if and only if there is a cycle. -/
theorem meetsAgain_iff {keys : List α} {fuel : Nat} (hkeys : ∀ a, next a ≠ none → a ∈ keys)
    (hfuel : keys.length < fuel) :
    (∃ a ∈ keys, meetsAgain next fuel [] a = true) ↔
      ∃ c, Relation.TransGen (Leads next) c c := by
  constructor
  · rintro ⟨a, _, hmeets⟩
    exact (walks_from_start hkeys hfuel).cycle hmeets (by simp)
  · rintro ⟨c, hcycle⟩
    obtain ⟨b, hb, _⟩ := Leads.on_cycle hcycle
    exact ⟨c, hkeys c (by simp [hb]), (walks_from_start hkeys hfuel).no_cycle hcycle⟩

end Torsor.Library
