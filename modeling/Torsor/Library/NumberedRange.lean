import Torsor.Library.KeysetPages

/-! # Ranges of a numbered list

The entries of a list are numbered from one on, without a gap. A range of it holds the entries
after one number and up to another one; it has no gap either, ranges that follow each other make
up a range, and a list that grows keeps its ranges.
-/

namespace Torsor.Library

variable {α : Type} {number : α → Nat} {log log' items : List α} {a b : α}
  {after upTo upTo' : Nat}

def IsNumbered (number : α → Nat) (log : List α) : Prop :=
  log.map number = List.range' 1 log.length

/-- The entries after one number and up to another one. -/
def numberedRange (number : α → Nat) (log : List α) (after upTo : Nat) : List α :=
  log.filter fun a => after < number a && number a ≤ upTo

theorem mem_numberedRange :
    a ∈ numberedRange number log after upTo ↔ a ∈ log ∧ after < number a ∧ number a ≤ upTo := by
  simp [numberedRange]

theorem numberedRange_empty (hle : upTo ≤ after) : numberedRange number log after upTo = [] := by
  rw [numberedRange, List.filter_eq_nil_iff]
  intro a _
  simp only [Bool.and_eq_true, decide_eq_true_eq]
  omega

namespace IsNumbered

theorem strict (h : IsNumbered number log) : log.Pairwise fun a b => number a < number b := by
  have hsorted : (log.map number).Pairwise (· < ·) := by
    rw [h]
    exact List.pairwise_lt_range'
  exact List.pairwise_map.mp hsorted

theorem exists_iff (h : IsNumbered number log) {n : Nat} :
    (∃ a ∈ log, number a = n) ↔ 0 < n ∧ n ≤ log.length := by
  have hmem : n ∈ log.map number ↔ 0 < n ∧ n ≤ log.length := by
    rw [h, List.mem_range'_1]
    omega
  rw [← hmem, List.mem_map]

theorem le_length (h : IsNumbered number log) (ha : a ∈ log) :
    0 < number a ∧ number a ≤ log.length :=
  h.exists_iff.mp ⟨a, ha, rfl⟩

theorem eq_of_number (h : IsNumbered number log) (ha : a ∈ log) (hb : b ∈ log)
    (hnumber : number a = number b) : a = b := by
  have hnodup : (log.map number).Nodup := by
    rw [h]
    exact List.nodup_range'
  exact List.inj_on_of_nodup_map hnodup ha hb hnumber

theorem range_strict (h : IsNumbered number log) (after upTo : Nat) :
    (numberedRange number log after upTo).Pairwise fun a b => number a < number b :=
  h.strict.filter _

/-- The numbers of a range have no gap. -/
theorem range_numbers (h : IsNumbered number log) (hupTo : upTo ≤ log.length) :
    (numberedRange number log after upTo).map number = List.range' (after + 1) (upTo - after) := by
  have hsorted : ((numberedRange number log after upTo).map number).Pairwise (· < ·) :=
    List.pairwise_map.mpr (h.range_strict after upTo)
  refine @eq_of_strict _ _ _ id _ _ hsorted List.pairwise_lt_range' fun n => ?_
  rw [List.mem_range'_1, List.mem_map]
  constructor
  · rintro ⟨a, ha, rfl⟩
    obtain ⟨-, hafter, hle⟩ := mem_numberedRange.mp ha
    omega
  · intro hn
    have hstored : ∃ a ∈ log, number a = n := h.exists_iff.mpr ⟨by omega, by omega⟩
    obtain ⟨a, ha, rfl⟩ := hstored
    exact ⟨a, mem_numberedRange.mpr ⟨ha, by omega, by omega⟩, rfl⟩

theorem range_length (h : IsNumbered number log) (hupTo : upTo ≤ log.length) :
    (numberedRange number log after upTo).length = upTo - after := by
  rw [← List.length_map number, h.range_numbers hupTo, List.length_range']

theorem range_head (h : IsNumbered number log) (hlt : after < upTo) (hupTo : upTo ≤ log.length) :
    (numberedRange number log after upTo).head?.map number = some (after + 1) := by
  rw [← List.head?_map, h.range_numbers hupTo, List.head?_range']
  have hne : upTo - after ≠ 0 := by omega
  simp [hne]

theorem range_last (h : IsNumbered number log) (hlt : after < upTo) (hupTo : upTo ≤ log.length) :
    (numberedRange number log after upTo).getLast?.map number = some upTo := by
  rw [← List.getLast?_map, h.range_numbers hupTo, List.getLast?_range']
  have hne : upTo - after ≠ 0 := by omega
  simp only [hne, if_false, Option.some.injEq]
  omega

/-- Entries with the numbers of a range are that range. -/
theorem eq_range (h : IsNumbered number log) (hlog : ∀ a ∈ items, a ∈ log)
    (hnumbers : items.map number = List.range' (after + 1) (upTo - after)) :
    items = numberedRange number log after upTo := by
  have hsorted : (items.map number).Pairwise (· < ·) := by
    rw [hnumbers]
    exact List.pairwise_lt_range'
  refine eq_of_strict (List.pairwise_map.mp hsorted) (h.range_strict after upTo) fun a => ?_
  rw [mem_numberedRange]
  constructor
  · intro ha
    have hmem : number a ∈ items.map number := List.mem_map_of_mem ha
    rw [hnumbers, List.mem_range'_1] at hmem
    exact ⟨hlog a ha, by omega, by omega⟩
  · rintro ⟨ha, hafter, hle⟩
    have hmem : number a ∈ items.map number := by
      rw [hnumbers, List.mem_range'_1]
      omega
    obtain ⟨b, hb, hsame⟩ := List.mem_map.mp hmem
    rwa [← h.eq_of_number (hlog b hb) ha hsame]

theorem take_range (h : IsNumbered number log) (hupTo : upTo ≤ log.length) (n : Nat) :
    (numberedRange number log after upTo).take n =
      numberedRange number log after (min (after + n) upTo) := by
  refine h.eq_range (fun a ha => ?_) ?_
  · exact (mem_numberedRange.mp (List.mem_of_mem_take ha)).1
  · rw [List.map_take, h.range_numbers hupTo]
    by_cases hn : n ≤ upTo - after
    · rw [List.take_range'_of_length_ge hn]
      congr 1
      omega
    · rw [List.take_range'_of_length_le (by omega)]
      congr 1
      omega

theorem drop_range (h : IsNumbered number log) (hupTo : upTo ≤ log.length) (n : Nat) :
    (numberedRange number log after upTo).drop n = numberedRange number log (after + n) upTo := by
  refine h.eq_range (fun a ha => ?_) ?_
  · exact (mem_numberedRange.mp (List.mem_of_mem_drop ha)).1
  · rw [List.map_drop, h.range_numbers hupTo, List.drop_range']
    congr 1
    · omega
    · omega

theorem range_all (h : IsNumbered number log) : numberedRange number log 0 log.length = log := by
  refine (h.eq_range (fun _ ha => ha) ?_).symm
  rw [h]
  rfl

/-- Two ranges that follow each other. -/
theorem range_append (h : IsNumbered number log) (hle : after ≤ upTo) (hle' : upTo ≤ upTo')
    (hupTo : upTo' ≤ log.length) :
    numberedRange number log after upTo ++ numberedRange number log upTo upTo' =
      numberedRange number log after upTo' := by
  refine h.eq_range (fun a ha => ?_) ?_
  · cases List.mem_append.mp ha with
    | inl hleft => exact (mem_numberedRange.mp hleft).1
    | inr hright => exact (mem_numberedRange.mp hright).1
  · rw [List.map_append, h.range_numbers (by omega), h.range_numbers hupTo]
    have hcount : upTo' - after = (upTo - after) + (upTo' - upTo) := by omega
    have hstart : upTo + 1 = after + 1 + 1 * (upTo - after) := by omega
    rw [hcount, hstart, List.range'_append]

/-- What is added to the list is in no range of it. -/
theorem range_grown (h : IsNumbered number log) (h' : IsNumbered number log')
    (hgrown : log <+: log') (hupTo : upTo ≤ log.length) :
    numberedRange number log after upTo = numberedRange number log' after upTo := by
  refine h'.eq_range (fun a ha => ?_) (h.range_numbers hupTo)
  exact hgrown.subset (mem_numberedRange.mp ha).1

end IsNumbered

end Torsor.Library
