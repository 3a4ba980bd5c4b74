import Mathlib.Data.List.Forall2
import Mathlib.Data.List.Nodup
import Mathlib.Data.List.Flatten
import Mathlib.Data.List.MinMax
import Mathlib.Data.List.Pairwise
import Mathlib.Data.List.Sort
import Mathlib.Data.Prod.Lex
import Mathlib.Data.String.Basic

/-! # Tables with unique keys

A table is a list of rows in insertion order. Every row carries the keys that a
primary key or a `UNIQUE` constraint forbids two rows to share; a table carries the
proof that no key occurs twice, so that a row is determined by any one of its keys
and no later result has to assume it. An insertion or an update that would repeat a
key has no result.
-/

namespace Torsor.Library

/-- The keys, of type `κ`, of a row of type `ρ` that no other row of its table may have. -/
class Keyed (ρ : Type) (κ : outParam Type) where
  keys : ρ → List κ

/-- `f` leaves the keys of every row as they are. -/
structure KeepsKeys {ρ κ : Type} [Keyed ρ κ] (f : ρ → ρ) : Prop where
  keys_eq : ∀ r, Keyed.keys (f r) = Keyed.keys r

/-- Rows in insertion order, no key of which occurs twice. -/
structure Table (ρ : Type) {κ : Type} [Keyed ρ κ] where
  rows : List ρ
  unique : (rows.flatMap Keyed.keys).Nodup

namespace Table

variable {ρ κ : Type} [Keyed ρ κ]

instance : Membership ρ (Table ρ) := ⟨fun t r => r ∈ t.rows⟩

theorem mem_rows {t : Table ρ} {r : ρ} : r ∈ t.rows ↔ r ∈ t := Iff.rfl

def empty : Table ρ := ⟨[], List.nodup_nil⟩

/-- The table with a row added at the end, unless one of its keys is taken. -/
def insert? [DecidableEq κ] (t : Table ρ) (r : ρ) : Option (Table ρ) :=
  if h : ((t.rows ++ [r]).flatMap Keyed.keys).Nodup then some ⟨t.rows ++ [r], h⟩ else none

/-- The table with `f` applied to every row, unless that repeats a key. -/
def map? [DecidableEq κ] (t : Table ρ) (f : ρ → ρ) : Option (Table ρ) :=
  if h : ((t.rows.map f).flatMap Keyed.keys).Nodup then some ⟨t.rows.map f, h⟩ else none

/-- `UPDATE t SET f WHERE p`, where `f` assigns no column of a key. -/
def update (t : Table ρ) (p : ρ → Bool) (f : ρ → ρ)
    (h : KeepsKeys f) : Table ρ where
  rows := t.rows.map fun r => if p r then f r else r
  unique := by
    rw [List.flatMap_map]
    have hkeys : (fun r => Keyed.keys (if p r = true then f r else r)) = Keyed.keys := by
      funext r
      split
      · exact h.keys_eq r
      · rfl
    rw [hkeys]
    exact t.unique

/-- `DELETE FROM t WHERE p`. -/
def delete (t : Table ρ) (p : ρ → Bool) : Table ρ where
  rows := t.rows.filter fun r => !p r
  unique := t.unique.sublist (List.filter_sublist.flatMap _)

def find? (t : Table ρ) (p : ρ → Bool) : Option ρ := t.rows.find? p

def filter (t : Table ρ) (p : ρ → Bool) : List ρ := t.rows.filter p

/-! ## Rows of a changed table -/

@[simp] theorem not_mem_empty (r : ρ) : r ∉ (empty : Table ρ) := by
  intro h
  cases h

theorem insert?_eq_some [DecidableEq κ] {t u : Table ρ} {r : ρ} (h : t.insert? r = some u) :
    u.rows = t.rows ++ [r] := by
  unfold insert? at h
  split at h
  · cases h
    rfl
  · cases h

theorem mem_insert? [DecidableEq κ] {t u : Table ρ} {r x : ρ} (h : t.insert? r = some u) :
    x ∈ u ↔ x ∈ t ∨ x = r := by
  rw [← mem_rows, insert?_eq_some h]
  simp [mem_rows]

theorem map?_eq_some [DecidableEq κ] {t u : Table ρ} {f : ρ → ρ} (h : t.map? f = some u) :
    u.rows = t.rows.map f := by
  unfold map? at h
  split at h
  · cases h
    rfl
  · cases h

theorem mem_map? [DecidableEq κ] {t u : Table ρ} {f : ρ → ρ} {x : ρ} (h : t.map? f = some u) :
    x ∈ u ↔ ∃ r ∈ t, f r = x := by
  rw [← mem_rows, map?_eq_some h]
  simp [mem_rows]

theorem mem_update {t : Table ρ} {p : ρ → Bool} {f : ρ → ρ}
    {h : KeepsKeys f} {x : ρ} :
    x ∈ t.update p f h ↔ ∃ r ∈ t, (if p r then f r else r) = x := by
  rw [← mem_rows]
  simp [update, mem_rows]

@[simp] theorem mem_delete {t : Table ρ} {p : ρ → Bool} {x : ρ} :
    x ∈ t.delete p ↔ x ∈ t ∧ p x = false := by
  rw [← mem_rows]
  simp [delete, mem_rows]

@[simp] theorem mem_filter {t : Table ρ} {p : ρ → Bool} {x : ρ} :
    x ∈ t.filter p ↔ x ∈ t ∧ p x = true := by
  simp [filter, mem_rows]

/-- An update seen through a view of the rows. -/
theorem map_view_update {σ : Type} {t : Table ρ} {p : ρ → Bool} {f : ρ → ρ} {h : KeepsKeys f}
    {v : ρ → σ} {g : σ → σ} (hg : ∀ r, v (if p r then f r else r) = g (v r)) :
    (t.update p f h).rows.map v = (t.rows.map v).map g := by
  simp only [update, List.map_map]
  exact List.map_congr_left fun r _ => hg r

/-- A view that an update does not show in. -/
theorem map_view_eq {σ : Type} {t : Table ρ} {p : ρ → Bool} {f : ρ → ρ} {h : KeepsKeys f}
    {v : ρ → σ} (hf : ∀ r, v (f r) = v r) : (t.update p f h).rows.map v = t.rows.map v := by
  refine (map_view_update (g := fun x => x) fun r => ?_).trans (List.map_id' _)
  split
  · exact hf r
  · rfl

/-- An update that selects none of the rows leaves them as they are. -/
theorem map_ite_eq_self {rows : List ρ} {p : ρ → Prop} [DecidablePred p] {f : ρ → ρ}
    (h : ∀ r ∈ rows, ¬ p r) : rows.map (fun r => if p r then f r else r) = rows := by
  calc rows.map (fun r => if p r then f r else r)
      = rows.map id := List.map_congr_left fun r hr => if_neg (h r hr)
    _ = rows := List.map_id rows

/-- An update that selects all of the rows. -/
theorem map_ite_eq_map {rows : List ρ} {p : ρ → Prop} [DecidablePred p] {f : ρ → ρ}
    (h : ∀ r ∈ rows, p r) : rows.map (fun r => if p r then f r else r) = rows.map f :=
  List.map_congr_left fun r hr => if_pos (h r hr)

/-! ## A key determines its row -/

theorem eq_of_key {t : Table ρ} {a b : ρ} (ha : a ∈ t) (hb : b ∈ t) {k : κ}
    (hka : k ∈ Keyed.keys a) (hkb : k ∈ Keyed.keys b) : a = b := by
  have hpair : t.rows.Pairwise fun x y => List.Disjoint (Keyed.keys x) (Keyed.keys y) :=
    (List.nodup_flatMap.mp t.unique).2
  have hsymm : Std.Symm fun x y : ρ => List.Disjoint (Keyed.keys x) (Keyed.keys y) :=
    ⟨fun _ _ h _ hx hy => h hy hx⟩
  by_contra hne
  exact hpair.forall ha hb hne hka hkb

/-- The rows do not repeat a column that determines a key. -/
theorem nodup_map {α : Type} (t : Table ρ) {column : ρ → α} {k : α → κ}
    (hk : ∀ r, k (column r) ∈ Keyed.keys r) : (t.rows.map column).Nodup := by
  have hpair : t.rows.Pairwise fun x y => List.Disjoint (Keyed.keys x) (Keyed.keys y) :=
    (List.nodup_flatMap.mp t.unique).2
  rw [List.Nodup, List.pairwise_map]
  refine hpair.imp fun {x y} hdisjoint hsame => ?_
  have hkey := hk y
  rw [← hsame] at hkey
  exact hdisjoint (hk x) hkey

/-- A row that can be inserted has none of the keys there are. -/
theorem not_mem_keys_of_insert? [DecidableEq κ] {t u : Table ρ} {r x : ρ} {k : κ}
    (h : t.insert? r = some u) (hx : x ∈ t) (hk : k ∈ Keyed.keys x) : k ∉ Keyed.keys r := by
  intro hkr
  have hunique := u.unique
  rw [insert?_eq_some h, List.flatMap_append, List.nodup_append] at hunique
  exact hunique.2.2 k (List.mem_flatMap.mpr ⟨x, hx, hk⟩) k
    (List.mem_flatMap.mpr ⟨r, List.mem_singleton_self r, hkr⟩) rfl

theorem find?_eq_some {t : Table ρ} {p : ρ → Bool} {r : ρ} (h : t.find? p = some r) :
    r ∈ t ∧ p r = true :=
  ⟨List.mem_of_find?_eq_some h, List.find?_some h⟩

theorem find?_eq_none {t : Table ρ} {p : ρ → Bool} :
    t.find? p = none ↔ ∀ r ∈ t, p r = false := by
  simp [find?, mem_rows]

/-- A search for a key finds the row that has it. -/
theorem find?_of_mem {t : Table ρ} {p : ρ → Bool} {r : ρ} (hr : r ∈ t) (hp : p r = true)
    (huniq : ∀ x, p x = true → ∃ k : κ, k ∈ Keyed.keys x ∧ k ∈ Keyed.keys r) :
    t.find? p = some r := by
  cases h : t.find? p with
  | none => simp [find?_eq_none.mp h r hr] at hp
  | some x =>
      obtain ⟨hx, hpx⟩ := find?_eq_some h
      obtain ⟨k, hkx, hkr⟩ := huniq x hpx
      rw [eq_of_key hx hr hkx hkr]

/-- The rows with a key are the one row that has it. -/
theorem filter_of_mem {t : Table ρ} {p : ρ → Bool} {r : ρ} (hr : r ∈ t) (hp : p r = true)
    (huniq : ∀ x, p x = true → ∃ k : κ, k ∈ Keyed.keys x ∧ k ∈ Keyed.keys r) :
    t.filter p = [r] := by
  have hall : ∀ x ∈ t.filter p, x = r := by
    intro x hx
    obtain ⟨hmem, hpx⟩ := mem_filter.mp hx
    obtain ⟨k, hkx, hkr⟩ := huniq x hpx
    exact eq_of_key hmem hr hkx hkr
  have hpair : (t.filter p).Pairwise fun x y => List.Disjoint (Keyed.keys x) (Keyed.keys y) :=
    (List.nodup_flatMap.mp t.unique).2.filter p
  obtain ⟨k, hk, -⟩ := huniq r hp
  cases h : t.filter p with
  | nil =>
      have hmem : r ∈ t.filter p := mem_filter.mpr ⟨hr, hp⟩
      rw [h] at hmem
      cases hmem
  | cons x rest =>
      rw [h] at hall hpair
      have hx := hall x List.mem_cons_self
      subst hx
      cases rest with
      | nil => rfl
      | cons y rest =>
          have hy := hall y (List.mem_cons_of_mem _ List.mem_cons_self)
          subst hy
          exact absurd hk ((List.pairwise_cons.mp hpair).1 _ List.mem_cons_self hk)

/-! ## Looking a row up by a column -/

section Lookup

variable {α : Type} [DecidableEq α] {key : ρ → α} {k k' : α}

/-- An update of the rows with one key, seen from another lookup of that key. -/
theorem find?_map_ite {rows : List ρ} {f : ρ → ρ} (hf : ∀ r, key (f r) = key r) :
    (rows.map fun r => if key r = k then f r else r).find? (fun r => key r = k') =
      if k' = k then (rows.find? fun r => key r = k).map f
      else rows.find? fun r => key r = k' := by
  induction rows with
  | nil => split <;> rfl
  | cons x rest ih =>
      simp only [List.map_cons, List.find?_cons]
      by_cases hx : key x = k
      · by_cases hk : k' = k
        · simp [hx, hk, hf]
        · simp only [hx, if_true, hf, hk, if_false] at ih ⊢
          rw [decide_eq_false (Ne.symm hk)]
          exact ih
      · by_cases hk : k' = k
        · subst hk
          simp only [hx, if_false, if_true, decide_false] at ih ⊢
          exact ih
        · simp only [hx, hk, if_false] at ih ⊢
          cases decide (key x = k') with
          | true => rfl
          | false => exact ih

theorem find?_update {t : Table ρ} {f : ρ → ρ} {h : KeepsKeys f} (hf : ∀ r, key (f r) = key r) :
    (t.update (fun r => key r = k) f h).find? (fun r => key r = k') =
      if k' = k then (t.find? fun r => key r = k).map f else t.find? fun r => key r = k' := by
  simp only [find?, update, decide_eq_true_eq]
  exact find?_map_ite hf

/-- A row whose key is new is found under its key. -/
theorem find?_insert? [DecidableEq κ] {t u : Table ρ} {r : ρ} (h : t.insert? r = some u)
    (hnew : t.find? (fun x => key x = key r) = none) :
    u.find? (fun x => key x = k') =
      if k' = key r then some r else t.find? fun x => key x = k' := by
  rw [find?, insert?_eq_some h, List.find?_append]
  by_cases hk : k' = key r
  · subst hk
    rw [find?] at hnew
    simp [hnew]
  · simp [hk, Ne.symm hk, find?]

end Lookup

end Table

/-! ## Rows in the order of a column, or of two -/

section OrderBy

variable {ρ α β : Type} [LinearOrder α] [LinearOrder β]

/-- `ORDER BY` the two columns of `key`, the first before the second. -/
def orderByPair (key : ρ → α × β) (rows : List ρ) : List ρ :=
  rows.insertionSort fun a b => toLex (key a) ≤ toLex (key b)

/-- `ORDER BY key`. -/
def orderBy (key : ρ → α) (rows : List ρ) : List ρ :=
  rows.insertionSort fun a b => key a ≤ key b

@[simp] theorem mem_orderBy {key : ρ → α} {rows : List ρ} {r : ρ} :
    r ∈ orderBy key rows ↔ r ∈ rows :=
  List.mem_insertionSort _

theorem orderBy_perm (key : ρ → α) (rows : List ρ) : (orderBy key rows).Perm rows :=
  List.perm_insertionSort _ rows

theorem orderBy_of_pairwise {key : ρ → α} {rows : List ρ}
    (h : rows.Pairwise fun a b => key a ≤ key b) : orderBy key rows = rows :=
  h.insertionSort_eq

@[simp] theorem mem_orderByPair {key : ρ → α × β} {rows : List ρ} {r : ρ} :
    r ∈ orderByPair key rows ↔ r ∈ rows :=
  List.mem_insertionSort _

theorem orderByPair_perm (key : ρ → α × β) (rows : List ρ) :
    (orderByPair key rows).Perm rows :=
  List.perm_insertionSort _ rows

end OrderBy

/-! ## Counting columns -/

section Counting

variable {ρ : Type} {key : ρ → Nat} {rows : List ρ} {r : ρ}

/-- The value `AUTOINCREMENT` gives the column `key` of the next row; rows of such a table
are never deleted. -/
def nextSequence (key : ρ → Nat) (rows : List ρ) : Nat :=
  (rows.map key).foldr max 0 + 1

theorem lt_nextSequence (h : r ∈ rows) : key r < nextSequence key rows := by
  induction rows with
  | nil => cases h
  | cons x rest ih =>
      simp only [nextSequence, List.map_cons, List.foldr_cons] at ih ⊢
      cases List.mem_cons.mp h with
      | inl heq =>
          subst heq
          omega
      | inr hrest =>
          have := ih hrest
          omega

/-- `ORDER BY key DESC LIMIT 1`. -/
def latestBy (key : ρ → Nat) (rows : List ρ) : Option ρ := rows.argmax key

@[simp] theorem latestBy_eq_none : latestBy key rows = none ↔ rows = [] :=
  List.argmax_eq_none

end Counting

/-! ## Lists related in order -/

theorem forall₂_mem_left {α β : Type} {A : α → β → Prop} {xs : List α} {ys : List β}
    (h : List.Forall₂ A xs ys) {x : α} (hx : x ∈ xs) : ∃ y ∈ ys, A x y := by
  induction h with
  | nil => cases hx
  | @cons x₀ y₀ xs ys hfirst _ ih =>
      obtain rfl | hmem := List.mem_cons.mp hx
      · exact ⟨y₀, List.mem_cons_self, hfirst⟩
      · obtain ⟨y, hy, hrel⟩ := ih hmem
        exact ⟨y, List.mem_cons_of_mem _ hy, hrel⟩

theorem forall₂_mem_right {α β : Type} {A : α → β → Prop} {xs : List α} {ys : List β}
    (h : List.Forall₂ A xs ys) {y : β} (hy : y ∈ ys) : ∃ x ∈ xs, A x y :=
  forall₂_mem_left h.flip hy

/-- Lists that are related in order: what relates to one entry of the second list stands at
one place of the first. -/
theorem forall₂_mem_unique {α β κ : Type} {A : α → β → Prop} {key : β → κ} {xs : List α}
    {ys : List β} (h : List.Forall₂ A xs ys) (hnodup : (ys.map key).Nodup)
    (hkey : ∀ x y y', A x y → A x y' → key y = key y') {x x' : α} {y : β} (hx : x ∈ xs)
    (hx' : x' ∈ xs) (hy : A x y) (hy' : A x' y) : x = x' := by
  induction h with
  | nil => cases hx
  | @cons x₀ y₀ xs ys hfirst hrest ih =>
      obtain ⟨hfresh, hnodup⟩ := List.nodup_cons.mp hnodup
      have hapart : ∀ z ∈ xs, A x₀ y → ¬ A z y := by
        intro z hz hfirst' hz'
        obtain ⟨y₁, hy₁, hrel⟩ := forall₂_mem_left hrest hz
        have hsame : key y₁ = key y₀ :=
          (hkey z y₁ y hrel hz').trans (hkey x₀ y y₀ hfirst' hfirst)
        exact hfresh (hsame ▸ List.mem_map_of_mem hy₁)
      obtain rfl | hmem := List.mem_cons.mp hx
      · obtain rfl | hmem' := List.mem_cons.mp hx'
        · rfl
        · exact absurd hy' (hapart x' hmem' hy)
      · obtain rfl | hmem' := List.mem_cons.mp hx'
        · exact absurd hy (hapart x hmem hy')
        · exact ih hnodup hmem hmem'

end Torsor.Library
