import Mathlib.Control.Monad.Basic

/-! # Two runs side by side

Two stateful computations are coupled by a relation on their states if, begun in related states,
they return one answer and end in related states again.
-/

namespace Torsor.Library

variable {σ τ α β : Type} {R : σ → τ → Prop}

def Coupled (R : σ → τ → Prop) (x : StateM σ α) (y : StateM τ α) : Prop :=
  ∀ s t, R s t → (x.run s).1 = (y.run t).1 ∧ R (x.run s).2 (y.run t).2

namespace Coupled

theorem pure (a : α) : Coupled R (pure a) (pure a) := fun _ _ h => ⟨rfl, h⟩

theorem bind {x : StateM σ α} {y : StateM τ α} {f : α → StateM σ β} {g : α → StateM τ β}
    (hx : Coupled R x y) (hf : ∀ a, Coupled R (f a) (g a)) : Coupled R (x >>= f) (y >>= g) := by
  intro s t h
  obtain ⟨hanswer, hstate⟩ := hx s t h
  show ((f (x.run s).1).run (x.run s).2).1 = ((g (y.run t).1).run (y.run t).2).1 ∧
    R ((f (x.run s).1).run (x.run s).2).2 ((g (y.run t).1).run (y.run t).2).2
  rw [← hanswer]
  exact hf _ _ _ hstate

theorem map {x : StateM σ α} {y : StateM τ α} (f : α → β) (hx : Coupled R x y) :
    Coupled R (f <$> x) (f <$> y) := by
  intro s t h
  obtain ⟨hanswer, hstate⟩ := hx s t h
  exact ⟨congrArg f hanswer, hstate⟩

/-- What is done with a value that may be absent. -/
theorem mapM {γ δ : Type} {x : γ → StateM σ α} {y : δ → StateM τ α} {f : γ → δ} (o : Option γ)
    (h : ∀ c ∈ o, Coupled R (x c) (y (f c))) : Coupled R (o.mapM x) ((o.map f).mapM y) := by
  cases o with
  | none => exact pure none
  | some c => exact map some (h c rfl)

end Coupled

end Torsor.Library
