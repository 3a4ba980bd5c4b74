import Mathlib.Data.List.Nodup

/-! # Maps that keep the order of insertion

A map is the list of its entries, no two with one key. A key that is set again keeps its place;
one that is deleted and set again comes last.
-/

namespace Torsor.Library

structure EntryMap (κ ν : Type) where
  entries : List (κ × ν)
  keys_nodup : (entries.map Prod.fst).Nodup

namespace EntryMap

variable {κ ν : Type} [DecidableEq κ] {m : EntryMap κ ν} {k k' : κ} {v v' : ν}

/-! ## Operations -/

def empty : EntryMap κ ν := ⟨[], List.nodup_nil⟩

def get (m : EntryMap κ ν) (k : κ) : Option ν :=
  (m.entries.find? fun entry => entry.1 = k).map Prod.snd

def size (m : EntryMap κ ν) : Nat := m.entries.length

theorem mem_entries : (k, v) ∈ m.entries ↔ m.get k = some v := by
  have hinj : ∀ e ∈ m.entries, ∀ e' ∈ m.entries, e.1 = e'.1 → e = e' := by
    intro e he e' he' hkey
    exact List.inj_on_of_nodup_map m.keys_nodup he he' hkey
  constructor
  · intro hmem
    cases hfind : m.entries.find? fun entry => entry.1 = k with
    | none => simpa using List.find?_eq_none.mp hfind _ hmem
    | some e =>
        have he : e.1 = k := by simpa using List.find?_some hfind
        have heq := hinj e (List.mem_of_find?_eq_some hfind) _ hmem he
        simp [get, hfind, heq]
  · intro hget
    obtain ⟨e, hfind, rfl⟩ := Option.map_eq_some_iff.mp hget
    have he : e.1 = k := by simpa using List.find?_some hfind
    subst he
    exact List.mem_of_find?_eq_some hfind

theorem mem_keys : k ∈ m.entries.map Prod.fst ↔ m.get k ≠ none := by
  rw [Option.ne_none_iff_exists']
  constructor
  · intro hmem
    obtain ⟨⟨_, v⟩, he, rfl⟩ := List.mem_map.mp hmem
    exact ⟨v, mem_entries.mp he⟩
  · rintro ⟨v, hv⟩
    exact List.mem_map_of_mem (mem_entries.mpr hv)

def delete (m : EntryMap κ ν) (k : κ) : EntryMap κ ν where
  entries := m.entries.filter fun entry => entry.1 ≠ k
  keys_nodup := (List.filter_sublist.map Prod.fst).nodup m.keys_nodup

def set (m : EntryMap κ ν) (k : κ) (v : ν) : EntryMap κ ν where
  entries :=
    if m.get k = none then m.entries ++ [(k, v)]
    else m.entries.map fun entry => if entry.1 = k then (k, v) else entry
  keys_nodup := by
    split
    · rename_i hnone
      have hnot : k ∉ m.entries.map Prod.fst := fun hmem => mem_keys.mp hmem hnone
      rw [List.map_append, List.nodup_append]
      refine ⟨m.keys_nodup, List.nodup_singleton _, ?_⟩
      intro a ha b hb hab
      rw [hab, List.mem_singleton.mp hb] at ha
      exact hnot ha
    · have hkeys : (m.entries.map fun entry => if entry.1 = k then (k, v) else entry).map
          Prod.fst = m.entries.map Prod.fst := by
        rw [List.map_map]
        apply List.map_congr_left
        intro e _
        by_cases he : e.1 = k
        · simp [he]
        · simp [he]
      rw [hkeys]
      exact m.keys_nodup

/-- Every entry keeps its key and its place. -/
def mapValues (m : EntryMap κ ν) (f : κ → ν → ν) : EntryMap κ ν where
  entries := m.entries.map fun entry => (entry.1, f entry.1 entry.2)
  keys_nodup := by
    rw [List.map_map]
    exact m.keys_nodup

/-! ## What is found -/

theorem get_empty : (empty : EntryMap κ ν).get k = none := rfl

theorem get_mapValues {f : κ → ν → ν} : (m.mapValues f).get k = (m.get k).map (f k) := by
  apply Option.ext
  intro v
  rw [← mem_entries, Option.map_eq_some_iff]
  simp only [mapValues, List.mem_map, ← mem_entries]
  constructor
  · rintro ⟨⟨k', v'⟩, hmem, heq⟩
    cases heq
    exact ⟨v', hmem, rfl⟩
  · rintro ⟨v', hmem, rfl⟩
    exact ⟨(k, v'), hmem, rfl⟩

theorem get_delete_self : (m.delete k).get k = none := by
  cases h : (m.delete k).get k with
  | none => rfl
  | some v =>
      have hmem := mem_entries.mpr h
      simp [delete] at hmem

theorem get_delete_of_ne (h : k' ≠ k) : (m.delete k).get k' = m.get k' := by
  apply Option.ext
  intro v
  rw [← mem_entries, ← mem_entries]
  simp [delete, h]

theorem get_set_self : (m.set k v).get k = some v := by
  rw [← mem_entries]
  by_cases hnone : m.get k = none
  · simp [set, hnone]
  · obtain ⟨v', hv'⟩ := Option.ne_none_iff_exists'.mp hnone
    have hmem := mem_entries.mpr hv'
    simp only [set, hnone, if_false, List.mem_map]
    exact ⟨(k, v'), hmem, by simp⟩

theorem get_set_of_ne (h : k' ≠ k) : (m.set k v).get k' = m.get k' := by
  apply Option.ext
  intro v'
  rw [← mem_entries, ← mem_entries]
  by_cases hnone : m.get k = none
  · simp [set, hnone, h]
  · simp only [set, hnone, if_false, List.mem_map]
    constructor
    · rintro ⟨e, he, heq⟩
      split at heq
      · cases heq
        exact absurd rfl h
      · rw [← heq]
        exact he
    · intro hmem
      exact ⟨(k', v'), hmem, by simp [h]⟩

/-! ## The entries as a whole -/

theorem set_entries (h : m.get k = none) : (m.set k v).entries = m.entries ++ [(k, v)] := by
  simp [set, h]

/-- A key that is set again keeps its place. -/
theorem set_entries_of_get (h : m.get k ≠ none) :
    (m.set k v).entries = m.entries.map fun entry => if entry.1 = k then (k, v) else entry := by
  simp [set, h]

theorem set_perm (h : m.get k = none) : (m.set k v).entries.Perm ((k, v) :: m.entries) := by
  rw [set_entries h]
  exact List.perm_append_singleton _ _

theorem delete_perm (h : m.get k = some v) : m.entries.Perm ((k, v) :: (m.delete k).entries) := by
  have hnodup : m.entries.Nodup := m.keys_nodup.of_map _
  have hnot : (k, v) ∉ (m.delete k).entries := by simp [delete]
  have hnodup' : ((k, v) :: (m.delete k).entries).Nodup :=
    List.nodup_cons.mpr ⟨hnot, hnodup.filter _⟩
  apply (List.perm_ext_iff_of_nodup hnodup hnodup').mpr
  rintro ⟨k', v'⟩
  rw [List.mem_cons, mem_entries, mem_entries]
  by_cases hk : k' = k
  · subst hk
    rw [h, get_delete_self]
    simp [eq_comm]
  · rw [get_delete_of_ne hk]
    simp [hk]

theorem size_set (h : m.get k = none) : (m.set k v).size = m.size + 1 := by
  rw [size, set_entries h, List.length_append]
  rfl

theorem size_delete (h : m.get k = some v) : (m.delete k).size + 1 = m.size := by
  have hlength := (delete_perm h).length_eq
  rw [List.length_cons] at hlength
  exact hlength.symm

/-! ## Two spellings of one map -/

section
variable {δ κ' : Type} {f : δ → κ} {g : δ → κ'} {m' : EntryMap κ' ν}

/-- The maps have the same entries in the same order, with their keys spelled differently. -/
def Mirrors (f : δ → κ) (g : δ → κ') (m : EntryMap κ ν) (m' : EntryMap κ' ν) : Prop :=
  ∃ l : List (δ × ν), m.entries = l.map (Prod.map f id) ∧ m'.entries = l.map (Prod.map g id)

omit [DecidableEq κ] in
theorem Mirrors.empty : Mirrors f g (empty : EntryMap κ ν) (EntryMap.empty : EntryMap κ' ν) :=
  ⟨[], rfl, rfl⟩

theorem get_of_entries [DecidableEq δ] {l : List (δ × ν)}
    (h : m.entries = l.map (Prod.map f id)) (hf : f.Injective) (d : δ) :
    m.get (f d) = (l.find? fun entry => entry.1 = d).map Prod.snd := by
  have hkey : ((fun entry : κ × ν => decide (entry.1 = f d)) ∘ Prod.map f id) =
      fun entry => decide (entry.1 = d) := by
    funext entry
    simp [hf.eq_iff]
  rw [get, h, List.find?_map, hkey, Option.map_map]
  rfl

theorem Mirrors.get [DecidableEq κ'] (h : Mirrors f g m m') (hf : f.Injective) (hg : g.Injective)
    (d : δ) : m.get (f d) = m'.get (g d) := by
  classical
  obtain ⟨l, hl, hl'⟩ := h
  rw [get_of_entries hl hf, get_of_entries hl' hg]

omit [DecidableEq κ] in
theorem Mirrors.size (h : Mirrors f g m m') : m.size = m'.size := by
  obtain ⟨l, hl, hl'⟩ := h
  simp [EntryMap.size, hl, hl']

theorem Mirrors.set [DecidableEq κ'] (h : Mirrors f g m m') {d : δ}
    (hnone : m.get (f d) = none) (hnone' : m'.get (g d) = none) (v : ν) :
    Mirrors f g (m.set (f d) v) (m'.set (g d) v) := by
  obtain ⟨l, hl, hl'⟩ := h
  refine ⟨l ++ [(d, v)], ?_, ?_⟩
  · rw [set_entries hnone, hl, List.map_append]
    rfl
  · rw [set_entries hnone', hl', List.map_append]
    rfl

end

end EntryMap

end Torsor.Library
