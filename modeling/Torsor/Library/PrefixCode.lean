import Mathlib.Data.List.Basic

/-! # Prefix codes

A code is a prefix code if what follows a codeword never makes it read as another. Texts that
are put together from such codewords can be taken apart again.
-/

namespace Torsor.Library

variable {α β χ : Type} {code : α → List χ} {code' : β → List χ}

def PrefixCode (code : α → List χ) : Prop :=
  ∀ ⦃a b r r'⦄, code a ++ r = code b ++ r' → a = b ∧ r = r'

namespace PrefixCode

/-- A reader that takes one codeword off whatever begins with it. -/
theorem of_reader {read : List χ → Option (α × List χ)}
    (h : ∀ a r, read (code a ++ r) = some (a, r)) : PrefixCode code := by
  intro a b r r' heq
  have hread := h a r
  rw [heq, h b r', Option.some.injEq, Prod.mk.injEq] at hread
  exact ⟨hread.1.symm, hread.2.symm⟩

theorem enclosed (h : PrefixCode code) (before after : List χ) :
    PrefixCode fun a => before ++ code a ++ after := by
  intro a b r r' heq
  simp only [List.append_assoc, List.append_cancel_left_eq] at heq
  obtain ⟨rfl, hrest⟩ := h heq
  exact ⟨rfl, List.append_cancel_left hrest⟩

/-- Codewords one after the other, up to a symbol with which none of them begins. -/
theorem terminated (h : PrefixCode code) {stop : χ}
    (hstop : ∀ a, ∃ c w, code a = c :: w ∧ c ≠ stop) :
    PrefixCode fun xs : List α => xs.flatMap code ++ [stop] := by
  have hne : ∀ a w r, code a ++ w ≠ stop :: r := by
    intro a w r heq
    obtain ⟨c, v, hcode, hc⟩ := hstop a
    rw [hcode, List.cons_append, List.cons.injEq] at heq
    exact hc heq.1
  intro xs
  induction xs with
  | nil =>
      intro ys r r' heq
      cases ys with
      | nil => exact ⟨rfl, by simpa using heq⟩
      | cons y ys =>
          simp only [List.flatMap_nil, List.flatMap_cons, List.append_assoc] at heq
          exact absurd heq.symm (hne y _ _)
  | cons x xs ih =>
      intro ys r r' heq
      cases ys with
      | nil =>
          simp only [List.flatMap_nil, List.flatMap_cons, List.append_assoc] at heq
          exact absurd heq (hne x _ _)
      | cons y ys =>
          simp only [List.flatMap_cons, List.append_assoc] at heq
          obtain ⟨rfl, hrest⟩ := h heq
          rw [← List.append_assoc, ← List.append_assoc] at hrest
          obtain ⟨rfl, rfl⟩ := ih hrest
          exact ⟨rfl, rfl⟩

/-- Codewords one after the other, up to the end. -/
theorem flatMap_injective (h : PrefixCode code) (hne : ∀ a, code a ≠ []) :
    Function.Injective fun xs : List α => xs.flatMap code := by
  intro xs
  induction xs with
  | nil =>
      intro ys heq
      cases ys with
      | nil => rfl
      | cons y ys =>
          simp only [List.flatMap_nil, List.flatMap_cons] at heq
          exact absurd (List.append_eq_nil_iff.mp heq.symm).1 (hne y)
  | cons x xs ih =>
      intro ys heq
      cases ys with
      | nil =>
          simp only [List.flatMap_nil, List.flatMap_cons] at heq
          exact absurd (List.append_eq_nil_iff.mp heq).1 (hne x)
      | cons y ys =>
          simp only [List.flatMap_cons] at heq
          obtain ⟨rfl, hrest⟩ := h heq
          rw [ih hrest]

end PrefixCode

/-! ## Delimiters -/

/-- Texts without delimiters end at the first delimiter. -/
theorem append_eq_of_stops {stops : χ → Prop} {xs ys r r' : List χ} (hxs : ∀ c ∈ xs, ¬ stops c)
    (hys : ∀ c ∈ ys, ¬ stops c) (hr : ∀ c ∈ r.head?, stops c) (hr' : ∀ c ∈ r'.head?, stops c)
    (h : xs ++ r = ys ++ r') : xs = ys ∧ r = r' := by
  induction xs generalizing ys with
  | nil =>
      cases ys with
      | nil => exact ⟨rfl, h⟩
      | cons y ys =>
          rw [List.nil_append] at h
          subst h
          exact absurd (hr y rfl) (hys y (List.mem_cons_self ..))
  | cons x xs ih =>
      cases ys with
      | nil =>
          rw [List.nil_append] at h
          subst h
          exact absurd (hr' x rfl) (hxs x (List.mem_cons_self ..))
      | cons y ys =>
          rw [List.cons_append, List.cons_append, List.cons.injEq] at h
          obtain ⟨rfl, hrest⟩ := h
          obtain ⟨rfl, rfl⟩ := ih (fun c hc => hxs c (List.mem_cons_of_mem _ hc))
            (fun c hc => hys c (List.mem_cons_of_mem _ hc)) hrest
          exact ⟨rfl, rfl⟩

/-- Texts one after the other, with a separator between them. -/
def joined (separator : List χ) : List (List χ) → List χ
  | [] => []
  | first :: rest => first ++ rest.flatMap (separator ++ ·)

section Joined

variable {stops : χ → Prop} {separator close : χ} {R : α → β → Prop} {xs : List α} {ys : List β}
  {r r' : List χ}

/-- What the codewords of two lists have to do to be read one by one. -/
structure Separates (stops : χ → Prop) (close : χ) (code : α → List χ) (code' : β → List χ)
    (R : α → β → Prop) (xs : List α) (ys : List β) : Prop where
  read : ∀ x ∈ xs, ∀ y ∈ ys, ∀ r r', (∀ c ∈ r.head?, stops c) → (∀ c ∈ r'.head?, stops c) →
    code x ++ r = code' y ++ r' → R x y ∧ r = r'
  left : ∀ x ∈ xs, ∀ w r, code x ++ w ≠ close :: r
  right : ∀ y ∈ ys, ∀ w r, code' y ++ w ≠ close :: r

theorem Separates.tail {x : α} {y : β}
    (h : Separates stops close code code' R (x :: xs) (y :: ys)) :
    Separates stops close code code' R xs ys where
  read a ha b hb := h.read a (List.mem_cons_of_mem _ ha) b (List.mem_cons_of_mem _ hb)
  left a ha := h.left a (List.mem_cons_of_mem _ ha)
  right b hb := h.right b (List.mem_cons_of_mem _ hb)

theorem head_rest (hseparator : stops separator) (hclose : stops close) (code : α → List χ)
    (xs : List α) (r : List χ) :
    ∀ c ∈ (xs.flatMap (fun x => separator :: code x) ++ close :: r).head?, stops c := by
  cases xs with
  | nil =>
      rintro _ ⟨⟩
      exact hclose
  | cons x xs =>
      rintro _ ⟨⟩
      exact hseparator

theorem rest_unique (hne : separator ≠ close) (hseparator : stops separator)
    (hclose : stops close) (h : Separates stops close code code' R xs ys)
    (heq : xs.flatMap (fun x => separator :: code x) ++ close :: r =
      ys.flatMap (fun y => separator :: code' y) ++ close :: r') :
    List.Forall₂ R xs ys ∧ r = r' := by
  induction xs generalizing ys with
  | nil =>
      cases ys with
      | nil => exact ⟨.nil, List.tail_eq_of_cons_eq heq⟩
      | cons y ys => exact absurd (List.head_eq_of_cons_eq heq).symm hne
  | cons x xs ih =>
      cases ys with
      | nil => exact absurd (List.head_eq_of_cons_eq heq) hne
      | cons y ys =>
          simp only [List.flatMap_cons, List.cons_append, List.append_assoc, List.cons.injEq,
            true_and] at heq
          obtain ⟨hfirst, hrest⟩ := h.read x (List.mem_cons_self ..) y (List.mem_cons_self ..) _ _
            (head_rest hseparator hclose _ _ _) (head_rest hseparator hclose _ _ _) heq
          obtain ⟨hothers, hr⟩ := ih h.tail hrest
          exact ⟨.cons hfirst hothers, hr⟩

theorem joined_unique (hne : separator ≠ close) (hseparator : stops separator)
    (hclose : stops close) (h : Separates stops close code code' R xs ys)
    (heq : joined [separator] (xs.map code) ++ close :: r =
      joined [separator] (ys.map code') ++ close :: r') : List.Forall₂ R xs ys ∧ r = r' := by
  cases xs with
  | nil =>
      cases ys with
      | nil => exact ⟨.nil, List.tail_eq_of_cons_eq heq⟩
      | cons y ys =>
          simp only [List.map_cons, joined, List.append_assoc] at heq
          exact absurd heq.symm (h.right y (List.mem_cons_self ..) _ _)
  | cons x xs =>
      cases ys with
      | nil =>
          simp only [List.map_cons, joined, List.append_assoc] at heq
          exact absurd heq (h.left x (List.mem_cons_self ..) _ _)
      | cons y ys =>
          simp only [List.map_cons, joined, List.append_assoc, List.flatMap_map,
            List.cons_append, List.nil_append] at heq
          obtain ⟨hfirst, hrest⟩ := h.read x (List.mem_cons_self ..) y (List.mem_cons_self ..) _ _
            (head_rest hseparator hclose _ _ _) (head_rest hseparator hclose _ _ _) heq
          obtain ⟨hothers, hr⟩ := rest_unique hne hseparator hclose h.tail hrest
          exact ⟨.cons hfirst hothers, hr⟩

end Joined

end Torsor.Library
