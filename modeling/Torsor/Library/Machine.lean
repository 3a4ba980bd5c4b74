import Mathlib.Logic.Relation

/-! # Machines and their runs

A machine answers an event with a next state, unless the event cannot happen there. A run is
a sequence of events, each of which can; what holds at the beginning and is kept by every
event holds in every state of every run, and where only some events keep it, in every run
that has none of the others.
-/

namespace Torsor.Library

/-- A transition function over events `ι` and states `σ`. -/
abbrev Machine (ι σ : Type) : Type := ι → σ → Option σ

namespace Machine

variable {ι σ : Type} (m : Machine ι σ)

/-- The state after a list of events, if all of them can happen. -/
def play : List ι → σ → Option σ
  | [], s => some s
  | e :: rest, s => (m e s).bind (play rest)

/-- Some sequence of events, each allowed where it happens, leads from `s` to `s'`. -/
inductive Runs (allowed : ι → σ → Prop) (s : σ) : σ → Prop where
  | refl : Runs allowed s s
  | tail {s' s'' : σ} (e : ι) (hrun : Runs allowed s s') (hallowed : allowed e s')
      (hstep : m e s' = some s'') : Runs allowed s s''

variable {m} {allowed : ι → σ → Prop} {s s' s'' : σ}

theorem Runs.trans (h : m.Runs allowed s s') (h' : m.Runs allowed s' s'') :
    m.Runs allowed s s'' := by
  induction h' with
  | refl => exact h
  | tail e _ hallowed hstep ih => exact .tail e ih hallowed hstep

/-- What the allowed events keep holds in every state of a run. -/
theorem Runs.invariant {Inv : σ → Prop} (h : m.Runs allowed s s') (hs : Inv s)
    (hstep : ∀ e t t', Inv t → allowed e t → m e t = some t' → Inv t') : Inv s' := by
  induction h with
  | refl => exact hs
  | tail e _ hallowed hmove ih => exact hstep e _ _ ih hallowed hmove

/-- The machine with only the allowed events left. -/
def guarded (m : Machine ι σ) (allowed : ι → σ → Prop) [∀ e s, Decidable (allowed e s)] :
    Machine ι σ := fun e s => if allowed e s then m e s else none

theorem Runs.of_play [∀ e s, Decidable (allowed e s)] (events : List ι)
    (h : (m.guarded allowed).play events s = some s') : m.Runs allowed s s' := by
  induction events generalizing s with
  | nil =>
      cases h
      exact .refl
  | cons e rest ih =>
      obtain ⟨t, ht, hrest⟩ := Option.bind_eq_some_iff.mp h
      have hfirst : m.Runs allowed s t := by
        unfold guarded at ht
        split at ht
        · rename_i hallowed
          exact .tail e .refl hallowed ht
        · cases ht
      exact hfirst.trans (ih hrest)

end Machine

end Torsor.Library
