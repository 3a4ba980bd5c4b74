import Mathlib.Data.Option.Basic

/-! # Following parents

A node names its parent or has none. Where every node knows its depth, and a parent is one
level above and has the same root, the chain of parents ends after exactly as many steps as
the depth says, and never leaves the tree of its root.
-/

namespace Torsor.Library

section Ancestry

variable {α β : Type} {parent : α → Option α} {S : α → Prop} {depth : α → Nat} {root : α → β}

/-- The node some steps above a node, if the chain of parents is that long. -/
def ancestor (parent : α → Option α) : Nat → α → Option α
  | 0, x => some x
  | steps + 1, x => (parent x).bind (ancestor parent steps)

/-- The nodes of `S` have their parents in `S`, one level above and in the same tree. -/
structure Rooted (parent : α → Option α) (S : α → Prop) (depth : α → Nat) (root : α → β) :
    Prop where
  top : ∀ x, S x → depth x = 0 → parent x = none
  below : ∀ x d, S x → depth x = d + 1 →
    ∃ y, parent x = some y ∧ S y ∧ depth y = d ∧ root y = root x

theorem Rooted.ancestor (h : Rooted parent S depth root) {steps : Nat} {x : α} (hx : S x)
    (hsteps : steps ≤ depth x) :
    ∃ y, Library.ancestor parent steps x = some y ∧ S y ∧ depth y + steps = depth x ∧
      root y = root x := by
  induction steps generalizing x with
  | zero => exact ⟨x, rfl, hx, rfl, rfl⟩
  | succ steps ih =>
      obtain ⟨d, hd⟩ : ∃ d, depth x = d + 1 := ⟨depth x - 1, by omega⟩
      obtain ⟨y, hparent, hy, hdepth, hroot⟩ := h.below x d hx hd
      obtain ⟨z, hz, hmem, hsum, hsame⟩ := ih hy (by omega)
      refine ⟨z, ?_, hmem, by omega, hsame.trans hroot⟩
      rw [Library.ancestor, hparent]
      exact hz

/-- The chain of parents ends at a node of depth zero. -/
theorem Rooted.ancestor_depth (h : Rooted parent S depth root) {x : α} (hx : S x) :
    ∃ y, Library.ancestor parent (depth x) x = some y ∧ S y ∧ depth y = 0 ∧ parent y = none ∧
      root y = root x := by
  obtain ⟨y, hy, hmem, hsum, hroot⟩ := h.ancestor hx (Nat.le_refl _)
  have hdepth : depth y = 0 := by omega
  exact ⟨y, hy, hmem, hdepth, h.top y hmem hdepth, hroot⟩

end Ancestry

end Torsor.Library
