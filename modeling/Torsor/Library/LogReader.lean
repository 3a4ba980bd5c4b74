import Mathlib.Data.List.Infix

/-! # Reading a growing log in pages

A log only grows, at its end, and the positions of its entries increase. A reader is sent
the visible entries of one page after another, and is told now and then how far the log has
been scanned, so that it need not start again before entries that were not for it. What it
has been sent is given by where it stands: it is exactly what is visible between there and
where it began, however the pages were cut and wherever it broke off and went on.
-/

namespace Torsor.Library

namespace LogReader

variable {ε : Type} (position : ε → Nat)

/-- The entries stand in the order of their positions. -/
def Ordered (log : List ε) : Prop := log.Pairwise fun a b => position a < position b

/-- The entries after `p`. -/
def after (log : List ε) (p : Nat) : List ε := log.filter fun e => p < position e

/-- The entries after `p` up to `q`. -/
def between (log : List ε) (p q : Nat) : List ε :=
  log.filter fun e => p < position e && position e ≤ q

/-- A position no later entry can come before: the beginning, or that of an entry. -/
def Settled (log : List ε) (q : Nat) : Prop := q = 0 ∨ ∃ e ∈ log, position e = q

variable {position} {log new rows rest : List ε} {p q r : Nat}

/-! ## Ranges -/

section Ranges

@[simp] theorem mem_between {e : ε} :
    e ∈ between position log p q ↔ e ∈ log ∧ p < position e ∧ position e ≤ q := by
  simp [between]

@[simp] theorem mem_after {e : ε} : e ∈ after position log p ↔ e ∈ log ∧ p < position e := by
  simp [after]

@[simp] theorem between_self : between position log p p = [] := by
  apply List.filter_eq_nil_iff.mpr
  intro e _ h
  simp only [Bool.and_eq_true, decide_eq_true_eq] at h
  omega

theorem between_eq_filter :
    between position log p q = (after position log p).filter fun e => position e ≤ q := by
  simp [between, after, List.filter_filter, Bool.and_comm]

theorem after_ordered (h : Ordered position log) : Ordered position (after position log p) :=
  List.Pairwise.filter _ h

theorem between_cons_of_le {x : ε} (h : position x ≤ p) :
    between position (x :: log) p q = between position log p q := by
  have hnot : ¬ p < position x := Nat.not_lt.mpr h
  simp [between, hnot]

theorem after_cons_of_le {x : ε} (h : position x ≤ p) :
    after position (x :: log) p = after position log p := by
  have hnot : ¬ p < position x := Nat.not_lt.mpr h
  simp [after, hnot]

theorem between_eq_nil (h : ∀ e ∈ log, q < position e) : between position log p q = [] := by
  apply List.filter_eq_nil_iff.mpr
  intro e he hin
  have hlater := h e he
  simp only [Bool.and_eq_true, decide_eq_true_eq] at hin
  omega

theorem after_eq_self (h : ∀ e ∈ log, p < position e) : after position log p = log := by
  apply List.filter_eq_self.mpr
  intro e he
  simp [h e he]

theorem between_append_after (h : Ordered position log) (hpq : p ≤ q) :
    between position log p q ++ after position log q = after position log p := by
  induction log with
  | nil => rfl
  | cons x log ih =>
      obtain ⟨hx, hlog⟩ := List.pairwise_cons.mp h
      by_cases hp : position x ≤ p
      · rw [between_cons_of_le hp, after_cons_of_le hp, after_cons_of_le (Nat.le_trans hp hpq)]
        exact ih hlog
      · have hlater : ∀ e ∈ x :: log, p < position e := by
          intro e he
          cases List.mem_cons.mp he with
          | inl heq => subst heq; omega
          | inr hmem => have := hx e hmem; omega
        by_cases hq : position x ≤ q
        · have hrest := ih hlog
          have hlt : p < position x := Nat.not_le.mp hp
          rw [after_cons_of_le hq]
          simp only [between, after, List.filter_cons, hlt, hq, decide_true, Bool.and_self,
            if_true, List.cons_append] at hrest ⊢
          rw [hrest]
        · have hbeyond : ∀ e ∈ x :: log, q < position e := by
            intro e he
            cases List.mem_cons.mp he with
            | inl heq => subst heq; omega
            | inr hmem => have := hx e hmem; omega
          rw [between_eq_nil hbeyond, after_eq_self hbeyond, after_eq_self hlater, List.nil_append]

theorem between_append_between (h : Ordered position log) (hpq : p ≤ q) (hqr : q ≤ r) :
    between position log p q ++ between position log q r = between position log p r := by
  rw [between_eq_filter (p := q), between_eq_filter (p := p) (q := r),
    ← between_append_after h hpq, List.filter_append]
  congr 1
  apply Eq.symm
  apply List.filter_eq_self.mpr
  intro e he
  have hle := (mem_between.mp he).2.2
  exact decide_eq_true (Nat.le_trans hle hqr)

/-- The first entries after `p` are those up to the last of them. -/
theorem between_of_after (hafter : after position log p = rows ++ rest)
    (hrows : ∀ e ∈ rows, position e ≤ q) (hrest : ∀ e ∈ rest, q < position e) :
    between position log p q = rows := by
  rw [between_eq_filter, hafter, List.filter_append]
  have hkept : rows.filter (fun e => position e ≤ q) = rows := by
    apply List.filter_eq_self.mpr
    intro e he
    exact decide_eq_true (hrows e he)
  have hdropped : rest.filter (fun e => position e ≤ q) = [] := by
    apply List.filter_eq_nil_iff.mpr
    intro e he
    have := hrest e he
    simp only [decide_eq_true_eq]
    omega
  rw [hkept, hdropped, List.append_nil]

/-- A range whose end is settled stays as it is when the log grows. -/
theorem between_extend (h : Ordered position (log ++ new)) (hq : Settled position log q) :
    between position (log ++ new) p q = between position log p q := by
  have hcross := (List.pairwise_append.mp h).2.2
  have hnew : between position new p q = [] := by
    apply List.filter_eq_nil_iff.mpr
    intro e he hin
    simp only [Bool.and_eq_true, decide_eq_true_eq] at hin
    cases hq with
    | inl hzero => omega
    | inr hentry =>
        obtain ⟨x, hx, hposition⟩ := hentry
        have := hcross x hx e he
        omega
  rw [between, List.filter_append]
  exact (congrArg (between position log p q ++ ·) hnew).trans (List.append_nil _)

theorem Settled.extend (h : Settled position log q) : Settled position (log ++ new) q := by
  cases h with
  | inl hzero => exact .inl hzero
  | inr hentry =>
      obtain ⟨e, he, hposition⟩ := hentry
      exact .inr ⟨e, List.mem_append_left _ he, hposition⟩

end Ranges

/-! ## Blocks -/

/-- What a reader is sent at once: where it stands then, if that changes, and the entries. -/
structure Block (ε : Type) where
  reached : Option Nat
  entries : List ε

/-- The block leads from `p` to `q` and carries what is visible in between. -/
structure Block.Leads (position : ε → Nat) (log : List ε) (visible : ε → Bool) (b : Block ε)
    (p q : Nat) : Prop where
  target : q = b.reached.getD p
  forward : p ≤ q
  entries : b.entries = (between position log p q).filter visible

/-- One block after the other leads from `p` to `q`. -/
inductive Chain (position : ε → Nat) (log : List ε) (visible : ε → Bool) :
    Nat → List (Block ε) → Nat → Prop where
  | nil (p : Nat) : Chain position log visible p [] p
  | cons {p q r : Nat} {b : Block ε} {blocks : List (Block ε)}
      (hfirst : b.Leads position log visible p q) (hrest : Chain position log visible q blocks r) :
      Chain position log visible p (b :: blocks) r

section Chains

variable {visible visible' : ε → Bool} {blocks blocks' : List (Block ε)}

theorem Chain.le (h : Chain position log visible p blocks q) : p ≤ q := by
  induction h with
  | nil p => exact Nat.le_refl p
  | cons hfirst _ ih => exact Nat.le_trans hfirst.forward ih

theorem Chain.append (h : Chain position log visible p blocks q)
    (h' : Chain position log visible q blocks' r) :
    Chain position log visible p (blocks ++ blocks') r := by
  induction h with
  | nil p => exact h'
  | cons hfirst _ ih => exact .cons hfirst (ih h')

theorem Chain.split (h : Chain position log visible p (blocks ++ blocks') r) :
    ∃ q, Chain position log visible p blocks q ∧ Chain position log visible q blocks' r := by
  induction blocks generalizing p with
  | nil => exact ⟨p, .nil p, h⟩
  | cons b blocks ih =>
      cases h with
      | cons hfirst hrest =>
          obtain ⟨q, hblocks, hblocks'⟩ := ih hrest
          exact ⟨q, .cons hfirst hblocks, hblocks'⟩

/-- What a chain of blocks carries is what is visible between its ends. -/
theorem Chain.entries (hlog : Ordered position log)
    (h : Chain position log visible p blocks q) :
    blocks.flatMap Block.entries = (between position log p q).filter visible := by
  induction h with
  | nil p => simp
  | cons hfirst hrest ih =>
      rw [List.flatMap_cons, ih, hfirst.entries, ← List.filter_append,
        between_append_between hlog hfirst.forward hrest.le]

/-- A chain stays one when the log grows, if what it has passed is judged as before. -/
theorem Chain.extend (hlog : Ordered position (log ++ new)) (hq : Settled position log q)
    (hvisible : ∀ e ∈ log, visible' e = visible e)
    (hsettled : ∀ b ∈ blocks, ∀ n, b.reached = some n → Settled position log n)
    (hp : Settled position log p)
    (h : Chain position log visible p blocks q) :
    Chain position (log ++ new) visible' p blocks q := by
  induction h with
  | nil p => exact .nil p
  | @cons p m r b blocks hfirst hrest ih =>
      have hm : Settled position log m := by
        rw [hfirst.target]
        cases hreached : b.reached with
        | none => exact hp
        | some n => exact hsettled b List.mem_cons_self n hreached
      refine .cons ⟨hfirst.target, hfirst.forward, ?_⟩
        (ih hq (fun b hb => hsettled b (List.mem_cons_of_mem _ hb)) hm)
      rw [between_extend hlog hm, hfirst.entries]
      apply List.filter_congr
      intro e he
      exact (hvisible e (mem_between.mp he).1).symm

/-- Where nothing is visible a chain may begin earlier. -/
theorem Chain.from_earlier (hlog : Ordered position log) (hpq : p ≤ q)
    (hnone : (between position log p q).filter visible = [])
    (h : Chain position log visible q blocks r) :
    ∃ r', Chain position log visible p blocks r' ∧ (r' = p ∨ r' = r) ∧ r' ≤ r ∧
      (between position log r' r).filter visible = [] := by
  induction h generalizing p with
  | nil q => exact ⟨p, .nil p, .inl rfl, hpq, hnone⟩
  | @cons q m r b blocks hfirst hrest ih =>
      cases hreached : b.reached with
      | none =>
          have hm : m = q := by rw [hfirst.target, hreached, Option.getD_none]
          subst hm
          obtain ⟨r', hchain, hends, hle, hlast⟩ := ih hpq hnone
          refine ⟨r', .cons ⟨?_, Nat.le_refl p, ?_⟩ hchain, hends, hle, hlast⟩
          · rw [hreached, Option.getD_none]
          · rw [hfirst.entries, between_self, between_self]
      | some n =>
          have hm : m = n := by rw [hfirst.target, hreached, Option.getD_some]
          refine ⟨r, .cons ⟨?_, Nat.le_trans hpq hfirst.forward, ?_⟩ hrest, .inr rfl,
            Nat.le_refl r, by simp⟩
          · rw [hreached, Option.getD_some, hm]
          · rw [hfirst.entries, ← between_append_between hlog hpq hfirst.forward,
              List.filter_append, hnone, List.nil_append]

/-- The visible entries of a page, one block each, lead to its last visible entry. -/
theorem chain_page (hlog : Ordered position log) (hpq : p ≤ q)
    (hrows : between position log p q = rows) :
    ∃ p', Chain position log visible p
        ((rows.filter visible).map fun e => ⟨some (position e), [e]⟩) p' ∧
      p' ≤ q ∧ (between position log p' q).filter visible = [] := by
  induction rows generalizing p with
  | nil => exact ⟨p, .nil p, hpq, by simp [hrows]⟩
  | cons x rows ih =>
      have hx : x ∈ between position log p q := by rw [hrows]; exact List.mem_cons_self
      obtain ⟨-, hlt, hle⟩ := mem_between.mp hx
      have hordered : Ordered position (x :: rows) := hrows ▸ List.Pairwise.filter _ hlog
      have hlater : ∀ e ∈ rows, position x < position e := (List.pairwise_cons.mp hordered).1
      have hparts := between_append_between hlog (Nat.le_of_lt hlt) hle
      have hfirst : between position log p (position x) = [x] := by
        have hfilter : between position log p (position x) =
            (between position log p q).filter fun e => position e ≤ position x := by
          rw [← hparts, List.filter_append]
          have hkept : (between position log p (position x)).filter
              (fun e => position e ≤ position x) = between position log p (position x) := by
            apply List.filter_eq_self.mpr
            intro e he
            exact decide_eq_true (mem_between.mp he).2.2
          have hdropped : (between position log (position x) q).filter
              (fun e => position e ≤ position x) = [] := by
            apply List.filter_eq_nil_iff.mpr
            intro e he
            have := (mem_between.mp he).2.1
            simp only [decide_eq_true_eq]
            omega
          rw [hkept, hdropped, List.append_nil]
        have hnone : rows.filter (fun e => position e ≤ position x) = [] := by
          apply List.filter_eq_nil_iff.mpr
          intro e he
          have := hlater e he
          simp only [decide_eq_true_eq]
          omega
        rw [hfilter, hrows, List.filter_cons, if_pos (decide_eq_true (Nat.le_refl _)), hnone]
      have hsecond : between position log (position x) q = rows := by
        rw [hfirst, hrows, List.singleton_append] at hparts
        exact (List.cons.inj hparts).2
      obtain ⟨p', hchain, hp', hlast⟩ := ih hle hsecond
      cases hvisible : visible x with
      | true =>
          refine ⟨p', ?_, hp', hlast⟩
          rw [List.filter_cons, hvisible, if_pos rfl, List.map_cons]
          refine .cons ⟨rfl, Nat.le_of_lt hlt, ?_⟩ hchain
          simp [hfirst, hvisible]
      | false =>
          have hnone : (between position log p (position x)).filter visible = [] := by
            simp [hfirst, hvisible]
          obtain ⟨r, hearlier, -, hr, hskipped⟩ :=
            hchain.from_earlier hlog (Nat.le_of_lt hlt) hnone
          refine ⟨r, ?_, Nat.le_trans hr hp', ?_⟩
          · rw [List.filter_cons, hvisible]
            exact hearlier
          · rw [← between_append_between hlog hr hp', List.filter_append, hskipped, hlast,
              List.nil_append]

end Chains

end LogReader

end Torsor.Library
