import Torsor.Library.Table

/-! # Pages by key

Rows in the order of a key are read page by page: a page holds the first rows after a cursor,
one row more is looked for to tell whether there is another page, and the key of the last row
is the cursor of that page. Following the cursors reads every row once.
-/

namespace Torsor.Library

/-- A page; `next` is the cursor of the following page when there is `more`. -/
structure Page (α κ : Type) where
  items : List α
  more : Bool
  next : Option κ

/-- The first page of the rows that are left. -/
def pageOf {α κ : Type} (key : α → κ) (limit : Nat) (rows : List α) : Page α κ where
  items := rows.take limit
  more := limit < rows.length
  next := if limit < rows.length then (rows.take limit).getLast?.map key else none

/-- The pages that are read until there are no more. There is no answer when a request fails, when
a page has no cursor for the rest, or when `fuel` pages are not enough. -/
def follow {α κ : Type} (request : Option κ → Option (Page α κ)) :
    Nat → Option κ → Option (List (List α))
  | 0, _ => none
  | fuel + 1, cursor =>
      (request cursor).bind fun page =>
        if page.more then
          page.next.bind fun next => (follow request fuel (some next)).map (page.items :: ·)
        else some [page.items]

/-- Rows in the order of a column that does not repeat. -/
theorem orderBy_strict {ρ α : Type} [LinearOrder α] {column : ρ → α} {rows : List ρ}
    (hnodup : (rows.map column).Nodup) :
    (orderBy column rows).Pairwise fun a b => column a < column b := by
  have htotal : Std.Total fun a b : ρ => column a ≤ column b :=
    ⟨fun a b => le_total (column a) (column b)⟩
  have htrans : IsTrans ρ fun a b : ρ => column a ≤ column b := ⟨fun _ _ _ => le_trans⟩
  have hle : (orderBy column rows).Pairwise fun a b => column a ≤ column b :=
    List.pairwise_insertionSort _ _
  have hne : (orderBy column rows).Pairwise fun a b => column a ≠ column b := by
    have hperm := (orderBy_perm column rows).map column
    exact List.pairwise_map.mp (hperm.nodup_iff.mpr hnodup)
  exact (hle.and hne).imp fun h => lt_of_le_of_ne h.1 h.2

/-- Rows in strict order are determined by which they are. -/
theorem eq_of_strict {ρ α : Type} [LinearOrder α] {column : ρ → α} {xs ys : List ρ}
    (hxs : xs.Pairwise fun a b => column a < column b)
    (hys : ys.Pairwise fun a b => column a < column b) (h : ∀ r, r ∈ xs ↔ r ∈ ys) : xs = ys := by
  have hnodup : ∀ zs : List ρ, (zs.Pairwise fun a b => column a < column b) → zs.Nodup := by
    intro zs hzs
    refine hzs.imp fun {a b} hlt heq => ?_
    rw [heq] at hlt
    exact lt_irrefl _ hlt
  have hperm : xs.Perm ys := (List.perm_ext_iff_of_nodup (hnodup xs hxs) (hnodup ys hys)).mpr h
  refine @List.Perm.eq_of_pairwise _ (fun a b => column a < column b) _ _ ?_ hxs hys hperm
  intro a b _ _ hab hba
  exact absurd hba (lt_asymm hab)

/-- What becomes of the items of a page matters to no cursor. -/
theorem follow_map {α κ : Type} (request : Option κ → Option (Page α κ)) (f : List α → List α)
    (fuel : Nat) : ∀ cursor, follow (fun cursor => (request cursor).map fun page =>
      { page with items := f page.items }) fuel cursor =
        (follow request fuel cursor).map fun pages => pages.map f := by
  induction fuel with
  | zero => exact fun _ => rfl
  | succ fuel ih =>
      intro cursor
      cases hpage : request cursor with
      | none => simp [follow, hpage]
      | some page =>
          cases hmore : page.more with
          | false => simp [follow, hpage, hmore]
          | true =>
              cases hnext : page.next with
              | none => simp [follow, hpage, hmore, hnext]
              | some next => simp [follow, hpage, hmore, hnext, ih, Function.comp_def]

section Pages

variable {α κ : Type} {lt : κ → κ → Prop} [DecidableRel lt] [Std.Asymm lt] {key : α → κ}
  {limit : Nat} {rows : List α}

/-- The rows after the last row of a prefix are the rest. -/
theorem filter_after {xs zs : List α} {r : α}
    (h : (xs ++ r :: zs).Pairwise fun a b => lt (key a) (key b)) :
    (xs ++ r :: zs).filter (fun x => lt (key r) (key x)) = zs := by
  rw [List.pairwise_append, List.pairwise_cons] at h
  obtain ⟨-, ⟨hafter, -⟩, hbefore⟩ := h
  have hxs : xs.filter (fun x => lt (key r) (key x)) = [] := by
    apply List.filter_eq_nil_iff.mpr
    intro x hx
    simpa using asymm_of lt (hbefore x hx r List.mem_cons_self)
  have hzs : zs.filter (fun x => lt (key r) (key x)) = zs := by
    apply List.filter_eq_self.mpr
    intro x hx
    simpa using hafter x hx
  have hr : ¬ lt (key r) (key r) := fun hr => asymm_of lt hr hr
  simp [hxs, hzs, hr]

/-- The cursor of a page that is not the last one is that of its last row. -/
theorem pageOf_next (key : α → κ) (hlimit : 0 < limit) (hmore : limit < rows.length) :
    ∃ xs r, rows.take limit = xs ++ [r] ∧ (pageOf key limit rows).next = some (key r) := by
  have hne : rows.take limit ≠ [] := by
    apply List.ne_nil_of_length_pos
    rw [List.length_take]
    omega
  refine ⟨(rows.take limit).dropLast, (rows.take limit).getLast hne, ?_, ?_⟩
  · exact (List.dropLast_append_getLast hne).symm
  · simp only [pageOf, hmore, if_true, List.getLast?_eq_some_getLast hne, Option.map_some]

/-- Following the cursors from a page of the last rows reads just these. -/
theorem follow_flatten (lt : κ → κ → Prop) [DecidableRel lt] [Std.Asymm lt] (key : α → κ)
    {request : Option κ → Option (Page α κ)} (hlimit : 0 < limit)
    (hsorted : rows.Pairwise fun a b => lt (key a) (key b))
    (hrequest : ∀ r ∈ rows, request (some (key r)) =
      some (pageOf key limit (rows.filter fun x => lt (key r) (key x)))) (fuel : Nat) :
    ∀ (before after : List α) (cursor : Option κ), rows = before ++ after →
      request cursor = some (pageOf key limit after) → after.length < fuel →
      ∃ pages, follow request fuel cursor = some pages ∧ pages.flatten = after := by
  induction fuel with
  | zero =>
      intro before after cursor _ _ hfuel
      exact absurd hfuel (Nat.not_lt_zero _)
  | succ fuel ih =>
      intro before after cursor hrows hpage hfuel
      by_cases hmore : limit < after.length
      · obtain ⟨xs, r, htake, hnext⟩ := pageOf_next key hlimit hmore
        have hafter : after = xs ++ r :: after.drop limit := by
          calc
            after = after.take limit ++ after.drop limit := (List.take_append_drop _ _).symm
            _ = xs ++ r :: after.drop limit := by
              rw [htake]
              simp
        have hsplit : rows = (before ++ xs) ++ r :: after.drop limit := by
          rw [List.append_assoc, ← hafter]
          exact hrows
        have hmem : r ∈ rows := by
          rw [hsplit]
          simp
        have hrest : request (some (key r)) = some (pageOf key limit (after.drop limit)) := by
          rw [hrequest r hmem]
          rw [hsplit] at hsorted ⊢
          rw [filter_after hsorted]
        have hlast : rows = (before ++ xs ++ [r]) ++ after.drop limit := by
          rw [hsplit]
          simp
        have hless : (after.drop limit).length < fuel := by
          rw [List.length_drop]
          omega
        obtain ⟨pages, hpages, hflatten⟩ := ih _ _ _ hlast hrest hless
        refine ⟨after.take limit :: pages, ?_, ?_⟩
        · have hmore' : (pageOf key limit after).more = true := by simp [pageOf, hmore]
          rw [follow, hpage, Option.bind_some, if_pos hmore', hnext, Option.bind_some, hpages]
          rfl
        · rw [List.flatten_cons, hflatten, List.take_append_drop]
      · have hmore' : ¬ (pageOf key limit after).more = true := by simp [pageOf, hmore]
        refine ⟨[after.take limit], ?_, ?_⟩
        · rw [follow, hpage, Option.bind_some, if_neg hmore']
          rfl
        · rw [List.flatten_singleton]
          exact List.take_of_length_le (Nat.le_of_not_lt hmore)

end Pages

end Torsor.Library
