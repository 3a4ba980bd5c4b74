import Mathlib.Data.List.Range
import Mathlib.Logic.Function.Basic

/-! # Logs that count the entries of their streams

One log holds the entries of many streams, in the order of their positions. Every stream
numbers its own entries from one on and keeps the number of the last. A stream is opened
once and then only grows, so the numbers of its entries are always `1, 2, …` up to its
counter.
-/

namespace Torsor.Library

/-- An entry: its stream, its number there and its position in the whole log. -/
structure LogEntry (κ : Type) where
  stream : κ
  number : Nat
  position : Nat

structure NumberedLog (κ : Type) where
  /-- The number of the last entry of a stream that is open. -/
  counter : κ → Option Nat
  entries : List (LogEntry κ)

namespace NumberedLog

variable {κ : Type} [DecidableEq κ] {l : NumberedLog κ} {k : κ} {n position : Nat}

def openStream (l : NumberedLog κ) (k : κ) : NumberedLog κ :=
  { l with counter := Function.update l.counter k (some 0) }

/-- The log with one more entry of a stream whose counter is `n`. -/
def append (l : NumberedLog κ) (k : κ) (n position : Nat) : NumberedLog κ where
  counter := Function.update l.counter k (some (n + 1))
  entries := l.entries ++ [⟨k, n + 1, position⟩]

def numbers (l : NumberedLog κ) (k : κ) : List Nat :=
  (l.entries.filter fun e => e.stream = k).map (·.number)

theorem numbers_append (k' : κ) :
    (l.append k n position).numbers k' =
      if k = k' then l.numbers k' ++ [n + 1] else l.numbers k' := by
  by_cases hk : k = k' <;> simp [numbers, append, List.filter_append, hk]

/-- The entries of every stream are numbered without a gap, and the log is in order. -/
structure Sound (l : NumberedLog κ) : Prop where
  numbers : ∀ k, l.numbers k = List.range' 1 ((l.counter k).getD 0)
  positions : l.entries.Pairwise fun a b => a.position < b.position

theorem Sound.of_empty (hcounter : ∀ k, l.counter k = none) (hentries : l.entries = []) :
    l.Sound where
  numbers k := by simp [NumberedLog.numbers, hentries, hcounter]
  positions := by simp [hentries]

theorem Sound.openStream (h : l.Sound) (hnew : l.counter k = none) : (l.openStream k).Sound where
  numbers k' := by
    show l.numbers k' = _
    by_cases hk : k' = k
    · subst hk
      simp [h.numbers, NumberedLog.openStream, hnew]
    · simp [h.numbers, NumberedLog.openStream, hk]
  positions := h.positions

theorem Sound.append (h : l.Sound) (hcounter : l.counter k = some n)
    (hlater : ∀ e ∈ l.entries, e.position < position) : (l.append k n position).Sound where
  numbers k' := by
    rw [numbers_append]
    by_cases hk : k = k'
    · subst hk
      simp only [if_true, h.numbers, hcounter, NumberedLog.append, Function.update_self,
        Option.getD_some]
      rw [List.range'_1_concat, Nat.add_comm]
    · have hother : k' ≠ k := fun heq => hk heq.symm
      simp [hk, hother, h.numbers, NumberedLog.append]
  positions := by
    simp only [NumberedLog.append, List.pairwise_append, List.pairwise_singleton,
      List.mem_singleton, true_and]
    refine ⟨h.positions, ?_⟩
    intro e he _ hlast
    rw [hlast]
    exact hlater e he

end NumberedLog

end Torsor.Library
