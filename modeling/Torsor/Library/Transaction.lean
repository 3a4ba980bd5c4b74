import Mathlib.Data.List.Forall2
import Mathlib.Order.Defs.Unbundled

/-! # Transactions over an explicit state

A transaction reads and writes a state and either returns a value or raises an
error. An error keeps the writes made before it: whether they are committed or
rolled back is decided by the caller, as it is with a database. Three kinds of
statement are made about a transaction: what its steps may do to the state,
whatever the outcome (`Within`), which errors it may raise (`Raises`), and what a
successful run says about its guards (the `_eq_ok` equations).
-/

namespace Torsor.Library

/-- A computation on a state `σ` that returns an `α` or raises an `ε`. -/
def Tx (σ ε α : Type) : Type := σ → Except ε α × σ

namespace Tx

variable {σ ε α β : Type}

instance : Monad (Tx σ ε) where
  pure a := fun s => (.ok a, s)
  bind m f := fun s =>
    match m s with
    | (.ok a, s') => f a s'
    | (.error e, s') => (.error e, s')

/-- Raise `e`, keeping the state as it is. -/
def raise (e : ε) : Tx σ ε α := fun s => (.error e, s)

/-- Run `m`; on an error, run the handler on the state `m` left behind. -/
def orElse (m : Tx σ ε α) (handler : ε → Tx σ ε α) : Tx σ ε α := fun s =>
  match m s with
  | (.ok a, s') => (.ok a, s')
  | (.error e, s') => handler e s'

def get : Tx σ ε σ := fun s => (.ok s, s)

def gets (f : σ → α) : Tx σ ε α := fun s => (.ok (f s), s)

def modify (f : σ → σ) : Tx σ ε Unit := fun s => (.ok (), f s)

/-- The value of an option, or the error that stands for its absence. -/
def require (o : Option α) (e : ε) : Tx σ ε α :=
  match o with
  | some a => pure a
  | none => raise e

/-- The statement `if (c) throw e`. -/
def throwIf (c : Prop) [Decidable c] (e : ε) : Tx σ ε Unit :=
  if c then raise e else pure ()

/-- Raise the error there is, if there is one. -/
def reject (o : Option ε) : Tx σ ε Unit :=
  match o with
  | some e => raise e
  | none => pure ()

/-- Run `f` on every element, from the first to the last. -/
def forEach (xs : List α) (f : α → Tx σ ε Unit) : Tx σ ε Unit :=
  match xs with
  | [] => pure ()
  | x :: rest => do
      f x
      forEach rest f

/-- Run `f` on every element and collect the results. -/
def mapEach (xs : List α) (f : α → Tx σ ε β) : Tx σ ε (List β) :=
  match xs with
  | [] => pure []
  | x :: rest => do
      let y ← f x
      let ys ← mapEach rest f
      pure (y :: ys)

/-- Run `f` on every element, each time on the result of the one before. -/
def foldEach (init : β) (xs : List α) (f : β → α → Tx σ ε β) : Tx σ ε β :=
  match xs with
  | [] => pure init
  | x :: rest => do
      let next ← f init x
      foldEach next rest f

/-! ## Successful runs -/

section Equations

variable {s s' : σ} {a c : α} {b : β} {e : ε} {m : Tx σ ε α} {f : α → Tx σ ε β}

@[simp] theorem pure_apply (a : α) (s : σ) : (pure a : Tx σ ε α) s = (.ok a, s) := rfl

theorem bind_apply (m : Tx σ ε α) (f : α → Tx σ ε β) (s : σ) :
    (m >>= f) s = match m s with
      | (.ok a, s') => f a s'
      | (.error e, s') => (.error e, s') := rfl

theorem bind_of_ok {s₁ : σ} (h : m s = (.ok a, s₁)) : (m >>= f) s = f a s₁ := by
  rw [bind_apply, h]

theorem bind_of_error {s₁ : σ} (h : m s = (.error e, s₁)) :
    (m >>= f) s = (.error e, s₁) := by
  rw [bind_apply, h]

@[simp] theorem pure_eq_ok : (pure a : Tx σ ε α) s = (.ok c, s') ↔ a = c ∧ s = s' := by
  simp [pure_apply]

@[simp] theorem bind_eq_ok :
    (m >>= f) s = (.ok b, s') ↔ ∃ a s₁, m s = (.ok a, s₁) ∧ f a s₁ = (.ok b, s') := by
  rw [bind_apply]
  constructor
  · intro h
    split at h
    · rename_i a s₁ hm
      exact ⟨a, s₁, hm, h⟩
    · cases h
  · rintro ⟨a, s₁, hm, hf⟩
    rw [hm]
    exact hf

/-- An error of a composite comes from its first part or from its second one. -/
theorem bind_eq_error :
    (m >>= f) s = (.error e, s') ↔
      m s = (.error e, s') ∨ ∃ a s₁, m s = (.ok a, s₁) ∧ f a s₁ = (.error e, s') := by
  rw [bind_apply]
  constructor
  · intro h
    split at h
    · rename_i a s₁ hm
      exact .inr ⟨a, s₁, hm, h⟩
    · rename_i e' s₁ hm
      cases h
      exact .inl hm
  · rintro (hm | ⟨a, s₁, hm, hf⟩)
    · rw [hm]
    · rw [hm]
      exact hf

@[simp] theorem raise_eq_ok : (raise e : Tx σ ε α) s = (.ok a, s') ↔ False := by
  simp [raise]

@[simp] theorem raise_apply : (raise e : Tx σ ε α) s = (.error e, s) := rfl

@[simp] theorem get_eq_ok {t : σ} : (get : Tx σ ε σ) s = (.ok t, s') ↔ s = t ∧ s = s' := by
  simp [get]

@[simp] theorem gets_eq_ok {g : σ → α} :
    (gets g : Tx σ ε α) s = (.ok a, s') ↔ g s = a ∧ s = s' := by
  simp [gets]

@[simp] theorem modify_eq_ok {g : σ → σ} {u : Unit} :
    (modify g : Tx σ ε Unit) s = (.ok u, s') ↔ g s = s' := by
  simp [modify]

@[simp] theorem require_eq_ok {o : Option α} :
    (require o e : Tx σ ε α) s = (.ok a, s') ↔ o = some a ∧ s = s' := by
  cases o <;> simp [require]

@[simp] theorem throwIf_eq_ok {p : Prop} [Decidable p] {u : Unit} :
    (throwIf p e : Tx σ ε Unit) s = (.ok u, s') ↔ ¬ p ∧ s = s' := by
  by_cases hp : p <;> simp [throwIf, hp]

@[simp] theorem reject_eq_ok {o : Option ε} {u : Unit} :
    (reject o : Tx σ ε Unit) s = (.ok u, s') ↔ o = none ∧ s = s' := by
  cases o <;> simp [reject]

/-- A loop whose iterations only read collects what they find. -/
theorem mapEach_eq_ok {xs : List α} {ys : List β} {P : α → β → Prop}
    (hf : ∀ x y s', f x s = (.ok y, s') → s = s' ∧ P x y)
    (h : mapEach xs f s = (.ok ys, s')) : s = s' ∧ List.Forall₂ P xs ys := by
  induction xs generalizing ys with
  | nil =>
      obtain ⟨rfl, hs⟩ := pure_eq_ok.mp h
      exact ⟨hs, .nil⟩
  | cons x rest ih =>
      simp only [mapEach, bind_eq_ok, pure_eq_ok] at h
      obtain ⟨y, s₁, hy, zs, s₂, hrest, rfl, rfl⟩ := h
      obtain ⟨rfl, hP⟩ := hf x y s₁ hy
      obtain ⟨rfl, hall⟩ := ih hrest
      exact ⟨rfl, .cons hP hall⟩

/-- A loop whose iterations all succeed and only read. -/
theorem mapEach_of_reads {g : α → β} (xs : List α) (hf : ∀ x, f x s = (.ok (g x), s)) :
    mapEach xs f s = (.ok (xs.map g), s) := by
  induction xs with
  | nil => rfl
  | cons x rest ih =>
      simp only [mapEach, List.map_cons]
      rw [bind_of_ok (hf x), bind_of_ok ih]
      rfl

end Equations

/-! ## What the steps of a transaction may do

`Within R m` holds of every outcome, an error included, so it survives whatever
the surrounding code does with that error. The instances follow the shape of the
program: instance search proves `Within R m` from the operations `m` is made of.
-/

/-- Whatever `m` returns or raises, `R` relates the state before and after. -/
class Within (R : σ → σ → Prop) (m : Tx σ ε α) : Prop where
  step : ∀ s, R s (m s).2

section Within

variable {R : σ → σ → Prop}

theorem Within.of_eq {m : Tx σ ε α} [h : Within R m] {s s' : σ} {r : Except ε α}
    (heq : m s = (r, s')) : R s s' := by
  have := h.step s
  rwa [heq] at this

theorem Within.mono {S : σ → σ → Prop} {m : Tx σ ε α} (h : Within R m)
    (hRS : ∀ s s', R s s' → S s s') : Within S m :=
  ⟨fun s => hRS _ _ (h.step s)⟩

theorem Within.modify {f : σ → σ} (h : ∀ s, R s (f s)) :
    Within R (Tx.modify f : Tx σ ε Unit) := ⟨h⟩

variable [IsPreorder σ R]

instance (a : α) : Within R (pure a : Tx σ ε α) := ⟨fun s => refl_of R s⟩

instance (e : ε) : Within R (raise e : Tx σ ε α) := ⟨fun s => refl_of R s⟩

instance : Within R (get : Tx σ ε σ) := ⟨fun s => refl_of R s⟩

instance (f : σ → α) : Within R (gets f : Tx σ ε α) := ⟨fun s => refl_of R s⟩

instance (o : Option α) (e : ε) : Within R (require o e : Tx σ ε α) :=
  ⟨fun s => by cases o <;> exact refl_of R s⟩

instance (o : Option ε) : Within R (reject o : Tx σ ε Unit) :=
  ⟨fun s => by cases o <;> exact refl_of R s⟩

instance (p : Prop) [Decidable p] (e : ε) : Within R (throwIf p e : Tx σ ε Unit) :=
  ⟨fun s => by unfold throwIf; split <;> exact refl_of R s⟩

instance (m : Tx σ ε α) (f : α → Tx σ ε β) [hm : Within R m] [hf : ∀ a, Within R (f a)] :
    Within R (m >>= f) where
  step s := by
    rw [bind_apply]
    have hs := hm.step s
    split
    · rename_i a s₁ heq
      rw [heq] at hs
      exact trans_of R hs ((hf a).step s₁)
    · rename_i e s₁ heq
      rw [heq] at hs
      exact hs

instance (p : Prop) [Decidable p] (m n : Tx σ ε α) [hm : Within R m] [hn : Within R n] :
    Within R (if p then m else n) := by
  split
  · exact hm
  · exact hn

instance (o : Option α) (m : Tx σ ε β) (f : α → Tx σ ε β) [hm : Within R m]
    [hf : ∀ a, Within R (f a)] : Within R (o.elim m f) := by
  cases o with
  | none => exact hm
  | some a => exact hf a

instance (m : Tx σ ε α) (handler : ε → Tx σ ε α) [hm : Within R m]
    [hh : ∀ e, Within R (handler e)] : Within R (orElse m handler) where
  step s := by
    unfold orElse
    have hs := hm.step s
    split
    · rename_i a s₁ heq
      rw [heq] at hs
      exact hs
    · rename_i e s₁ heq
      rw [heq] at hs
      exact trans_of R hs ((hh e).step s₁)

instance (xs : List α) (f : α → Tx σ ε Unit) [hf : ∀ a, Within R (f a)] :
    Within R (forEach xs f) := by
  induction xs with
  | nil => exact inferInstanceAs (Within R (pure ()))
  | cons x rest ih => exact inferInstanceAs (Within R (f x >>= fun _ => forEach rest f))

instance (xs : List α) (f : α → Tx σ ε β) [hf : ∀ a, Within R (f a)] :
    Within R (mapEach xs f) := by
  induction xs with
  | nil => exact inferInstanceAs (Within R (pure []))
  | cons x rest ih =>
      exact inferInstanceAs
        (Within R (f x >>= fun y => mapEach rest f >>= fun ys => pure (y :: ys)))

instance (init : β) (xs : List α) (f : β → α → Tx σ ε β) [hf : ∀ b a, Within R (f b a)] :
    Within R (foldEach init xs f) := by
  induction xs generalizing init with
  | nil => exact inferInstanceAs (Within R (pure init))
  | cons x rest ih =>
      exact inferInstanceAs (Within R (f init x >>= fun next => foldEach next rest f))

end Within

/-! ## Which errors a transaction may raise -/

/-- Every error `m` raises satisfies `E`. -/
class Raises (E : ε → Prop) (m : Tx σ ε α) : Prop where
  raised : ∀ s e, (m s).1 = .error e → E e

section Raises

variable {E : ε → Prop}

theorem Raises.raise {e : ε} (h : E e) : Raises E (Tx.raise e : Tx σ ε α) :=
  ⟨fun _ _ heq => by cases heq; exact h⟩

instance (a : α) : Raises E (pure a : Tx σ ε α) := ⟨fun _ _ h => nomatch h⟩

instance : Raises E (get : Tx σ ε σ) := ⟨fun _ _ h => nomatch h⟩

instance (f : σ → α) : Raises E (gets f : Tx σ ε α) := ⟨fun _ _ h => nomatch h⟩

instance (f : σ → σ) : Raises E (modify f : Tx σ ε Unit) := ⟨fun _ _ h => nomatch h⟩

instance (o : Option α) (e : ε) [h : Raises E (raise e : Tx σ ε α)] :
    Raises E (require o e : Tx σ ε α) := by
  cases o with
  | none => exact h
  | some a => exact inferInstanceAs (Raises E (pure a))

instance (o : Option α) (f : α → ε) [h : ∀ a, Raises E (raise (f a) : Tx σ ε Unit)] :
    Raises E (reject (o.map f) : Tx σ ε Unit) := by
  cases o with
  | none => exact inferInstanceAs (Raises E (pure ()))
  | some a => exact h a

instance (p : Prop) [Decidable p] (e : ε) [h : Raises E (raise e : Tx σ ε Unit)] :
    Raises E (throwIf p e : Tx σ ε Unit) := by
  unfold throwIf
  split
  · exact h
  · infer_instance

instance (m : Tx σ ε α) (f : α → Tx σ ε β) [hm : Raises E m] [hf : ∀ a, Raises E (f a)] :
    Raises E (m >>= f) where
  raised s e he := by
    rw [bind_apply] at he
    split at he
    · rename_i a s₁ heq
      exact (hf a).raised s₁ e he
    · rename_i s₁ heq
      cases he
      exact hm.raised s e (by rw [heq])

instance (p : Prop) [Decidable p] (m n : Tx σ ε α) [hm : Raises E m] [hn : Raises E n] :
    Raises E (if p then m else n) := by
  split
  · exact hm
  · exact hn

instance (xs : List α) (f : α → Tx σ ε Unit) [hf : ∀ a, Raises E (f a)] :
    Raises E (forEach xs f) := by
  induction xs with
  | nil => exact inferInstanceAs (Raises E (pure ()))
  | cons x rest ih => exact inferInstanceAs (Raises E (f x >>= fun _ => forEach rest f))

instance (xs : List α) (f : α → Tx σ ε β) [hf : ∀ a, Raises E (f a)] :
    Raises E (mapEach xs f) := by
  induction xs with
  | nil => exact inferInstanceAs (Raises E (pure []))
  | cons x rest ih =>
      exact inferInstanceAs
        (Raises E (f x >>= fun y => mapEach rest f >>= fun ys => pure (y :: ys)))

instance (o : Option α) (m : Tx σ ε β) (f : α → Tx σ ε β) [hm : Raises E m]
    [hf : ∀ a, Raises E (f a)] : Raises E (o.elim m f) := by
  cases o with
  | none => exact hm
  | some a => exact hf a

instance (init : β) (xs : List α) (f : β → α → Tx σ ε β) [hf : ∀ b a, Raises E (f b a)] :
    Raises E (foldEach init xs f) := by
  induction xs generalizing init with
  | nil => exact inferInstanceAs (Raises E (pure init))
  | cons x rest ih =>
      exact inferInstanceAs (Raises E (f init x >>= fun next => foldEach next rest f))

end Raises

end Tx

end Torsor.Library
