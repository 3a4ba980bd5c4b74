import Torsor.Library.Table

/-! # Versions of rows

The columns of a row that change are kept a second time, as versions stamped with the
sequence of the event that made the change. A row as of a sequence is the row with the
columns of its latest version up to there. It is the row itself as long as its latest
version is unchanged, and versions stamped later do not alter it.
-/

namespace Torsor.Library

/-- How versions `η` record the changing columns of rows `ρ` with identifiers `ι`. -/
structure Versioning (ι ρ η : Type) where
  id : ρ → ι
  versionId : η → ι
  sequence : η → Nat
  version : Nat → ρ → η
  /-- The row with the recorded columns. -/
  restore : η → ρ → ρ
  /-- The recorded columns are those of the row. -/
  unchanged : η → ρ → Bool
  versionId_version : ∀ n r, versionId (version n r) = id r
  sequence_version : ∀ n r, sequence (version n r) = n
  unchanged_version : ∀ n r, unchanged (version n r) r = true
  restore_of_unchanged : ∀ h r, unchanged h r = true → restore h r = r

namespace Versioning

variable {ι ρ η : Type} [DecidableEq ι] (v : Versioning ι ρ η)

/-- The latest version of the row `i`. -/
def latest (history : List η) (i : ι) : Option η :=
  latestBy v.sequence (history.filter fun h => v.versionId h = i)

/-- The latest version of the row `i` up to the sequence `q`. -/
def latestUpTo (history : List η) (q : Nat) (i : ι) : Option η :=
  latestBy v.sequence (history.filter fun h => v.versionId h = i && v.sequence h ≤ q)

/-- The row as of the sequence `q`, if it has a version by then. -/
def asOf (history : List η) (q : Nat) (r : ρ) : Option ρ :=
  (v.latestUpTo history q (v.id r)).map (v.restore · r)

/-- The latest version of the row has its columns. -/
def InSync (history : List η) (r : ρ) : Prop :=
  ∃ h, v.latest history (v.id r) = some h ∧ v.unchanged h r = true

variable {v} {history later : List η} {q : Nat} {r : ρ} {i : ι}

theorem latestUpTo_of_le (hq : ∀ h ∈ history, v.sequence h ≤ q) :
    v.latestUpTo history q i = v.latest history i := by
  have hfilter : history.filter (fun h => v.versionId h = i && v.sequence h ≤ q) =
      history.filter (fun h => v.versionId h = i) := by
    apply List.filter_congr
    intro h hh
    simp [hq h hh]
  rw [latestUpTo, latest, hfilter]

/-- With every version stamped by `q`, a row in sync is its own version as of `q`. -/
theorem asOf_eq_self (hq : ∀ h ∈ history, v.sequence h ≤ q) (hr : v.InSync history r) :
    v.asOf history q r = some r := by
  obtain ⟨h, hlatest, hsame⟩ := hr
  rw [asOf, latestUpTo_of_le hq, hlatest, Option.map_some, v.restore_of_unchanged h r hsame]

/-- Versions stamped after `q` are invisible as of `q`. -/
theorem latestUpTo_append (hlater : ∀ h ∈ later, q < v.sequence h) :
    v.latestUpTo (history ++ later) q i = v.latestUpTo history q i := by
  have hnone : later.filter (fun h => v.versionId h = i && v.sequence h ≤ q) = [] := by
    rw [List.filter_eq_nil_iff]
    intro h hh
    have := hlater h hh
    simp
    omega
  rw [latestUpTo, latestUpTo, List.filter_append, hnone, List.append_nil]

end Versioning

end Torsor.Library
