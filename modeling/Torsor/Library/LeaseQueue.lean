import Mathlib.Data.List.Pairwise
import Mathlib.Logic.Relation
import Mathlib.Order.Monotone.Defs
import Mathlib.Order.Nat

/-! # Queues whose oldest entries are leased and acknowledged

Entries are appended at the end and acknowledged from the front. Before that a batch of
the oldest entries that wait is leased, and only the holder of a live lease on the whole
batch acknowledges it. A step sees the clock at some moments; nothing is assumed about
their order, except where the exclusiveness of leases is at stake.
-/

namespace Torsor.Library

variable {α H T R : Type}

/-- The lease on an entry; an entry that was never leased has none of the three. -/
structure Lease (H T : Type) where
  holder : Option H
  token : Option T
  expiresAt : Option Nat

namespace Lease

def free : Lease H T := ⟨none, none, none⟩

def grant (holder : H) (token : T) (expiresAt : Nat) : Lease H T :=
  ⟨some holder, some token, some expiresAt⟩

/-- A lease that expires has a holder and a token. -/
def Complete (lease : Lease H T) : Prop :=
  ∀ e, lease.expiresAt = some e → ∃ holder token, lease = grant holder token e

/-- The lease has not expired at `t`. -/
def Live (t : Nat) (lease : Lease H T) : Prop := ∃ e, lease.expiresAt = some e ∧ t < e

/-- Both leases were granted to one holder under one token. -/
def Same (a b : Lease H T) : Prop := a.holder = b.holder ∧ a.token = b.token

theorem not_live_free (t : Nat) : ¬ Live t (free : Lease H T) := by
  rintro ⟨e, he, -⟩
  cases he

theorem complete_free : Complete (free : Lease H T) := fun _ he => nomatch he

theorem complete_grant (holder : H) (token : T) (expiresAt : Nat) :
    Complete (grant holder token expiresAt) := fun e he => by
  cases he
  exact ⟨holder, token, rfl⟩

theorem Live.anti {lease : Lease H T} {s t : Nat} (h : Live t lease) (hst : s ≤ t) :
    Live s lease := by
  obtain ⟨e, he, hlt⟩ := h
  exact ⟨e, he, Nat.lt_of_le_of_lt hst hlt⟩

theorem Same.symm {a b : Lease H T} (h : Same a b) : Same b a := ⟨h.1.symm, h.2.symm⟩

end Lease

structure Entry (α H T R : Type) where
  item : α
  lease : Lease H T
  receipt : Option R

namespace Entry

/-- The entry is not acknowledged yet. -/
def Waiting (e : Entry α H T R) : Prop := e.receipt = none

def withLease (lease : Lease H T) (e : Entry α H T R) : Entry α H T R := { e with lease }

/-- The acknowledged entry, which no longer has a lease. -/
def acknowledge (receipt : R) (e : Entry α H T R) : Entry α H T R :=
  { e with lease := .free, receipt := some receipt }

end Entry

/-! ## Steps -/

/-- One step of a queue that sees the clock at the moments `moment` and acknowledges what
`admits` allows: a holder, its token, the items and the receipt. -/
inductive QueueStep (moment : Nat → Prop) (admits : H → T → List α → R → Prop) :
    List (Entry α H T R) → List (Entry α H T R) → Prop
  | enqueue (q : List (Entry α H T R)) (item : α) :
      QueueStep moment admits q (q ++ [⟨item, .free, none⟩])
  | lease (done batch rest : List (Entry α H T R)) (holder : H) (token : T)
      (expiresAt now : Nat)
      (hnow : moment now) (hdone : ∀ e ∈ done, ¬ e.Waiting)
      (hbatch : ∀ e ∈ batch, e.Waiting ∧ ¬ e.lease.Live now) :
      QueueStep moment admits (done ++ batch ++ rest)
        (done ++ batch.map (Entry.withLease (.grant holder token expiresAt)) ++ rest)
  | acknowledge (done batch rest : List (Entry α H T R)) (holder : H) (token : T)
      (receipt : R) (hnonempty : batch ≠ []) (hdone : ∀ e ∈ done, ¬ e.Waiting)
      (hbatch : ∀ e ∈ batch, e.Waiting ∧ e.lease.holder = some holder ∧
        e.lease.token = some token ∧ ∃ now, moment now ∧ e.lease.Live now)
      (hrest : ∀ e ∈ rest, e.Waiting → e.lease.holder = some holder →
        e.lease.token ≠ some token)
      (hadmits : admits holder token (batch.map Entry.item) receipt) :
      QueueStep moment admits (done ++ batch ++ rest)
        (done ++ batch.map (Entry.acknowledge receipt) ++ rest)

variable {moment : Nat → Prop} {admits : H → T → List α → R → Prop}
  {q q' : List (Entry α H T R)}

theorem QueueStep.mono {admits' : H → T → List α → R → Prop}
    (h : QueueStep moment admits q q')
    (hadmits : ∀ holder token items receipt, admits holder token items receipt →
      admits' holder token items receipt) : QueueStep moment admits' q q' := by
  cases h with
  | enqueue => exact .enqueue q _
  | lease done batch rest holder token expiresAt now hnow hdone hbatch =>
      exact .lease done batch rest holder token expiresAt now hnow hdone hbatch
  | acknowledge done batch rest holder token receipt hnonempty hdone hbatch hrest h =>
      exact .acknowledge done batch rest holder token receipt hnonempty hdone hbatch hrest
        (hadmits _ _ _ _ h)

/-! ## Acknowledged entries are a prefix -/

/-- No acknowledged entry comes after one that waits. -/
def AckPrefix (q : List (Entry α H T R)) : Prop :=
  q.Pairwise fun a b => a.Waiting → b.Waiting

theorem ackPrefix_iff_split :
    AckPrefix q ↔ ∃ done pending, q = done ++ pending ∧ (∀ e ∈ done, ¬ e.Waiting) ∧
      ∀ e ∈ pending, e.Waiting := by
  constructor
  · intro h
    induction q with
    | nil => exact ⟨[], [], rfl, by simp, by simp⟩
    | cons e rest ih =>
        obtain ⟨hhead, hrest⟩ := List.pairwise_cons.mp h
        by_cases he : e.Waiting
        · refine ⟨[], e :: rest, rfl, by simp, ?_⟩
          intro x hx
          cases List.mem_cons.mp hx with
          | inl heq => rwa [heq]
          | inr hmem => exact hhead x hmem he
        · obtain ⟨done, pending, heq, hdone, hpending⟩ := ih hrest
          refine ⟨e :: done, pending, by rw [heq, List.cons_append], ?_, hpending⟩
          intro x hx
          cases List.mem_cons.mp hx with
          | inl hxe => rwa [hxe]
          | inr hmem => exact hdone x hmem
  · rintro ⟨done, pending, rfl, hdone, hpending⟩
    refine List.pairwise_append.mpr ⟨?_, ?_, ?_⟩
    · exact List.Pairwise.imp_of_mem (fun ha _ _ hwaiting => absurd hwaiting (hdone _ ha))
        (List.pairwise_of_forall fun _ _ => trivial : done.Pairwise fun _ _ => True)
    · exact List.Pairwise.imp_of_mem (fun _ hb _ _ => hpending _ hb)
        (List.pairwise_of_forall fun _ _ => trivial : pending.Pairwise fun _ _ => True)
    · intro a ha b _ hwaiting
      exact absurd hwaiting (hdone a ha)

theorem QueueStep.ackPrefix (h : QueueStep moment admits q q') (hq : AckPrefix q) :
    AckPrefix q' := by
  cases h with
  | enqueue item =>
      refine List.pairwise_append.mpr ⟨hq, List.pairwise_singleton _ _, ?_⟩
      intro a _ b hb _
      rw [List.mem_singleton.mp hb]
      rfl
  | lease done batch rest holder token expiresAt now hnow hdone hbatch =>
      unfold AckPrefix at hq ⊢
      rw [List.pairwise_append, List.pairwise_append] at hq ⊢
      obtain ⟨⟨hd, hb, hdb⟩, hr, hbr⟩ := hq
      refine ⟨⟨hd, List.pairwise_map.mpr hb, ?_⟩, hr, ?_⟩
      · intro a ha b hb' hwaiting
        exact absurd hwaiting (hdone a ha)
      · intro a ha b hb' hwaiting
        cases List.mem_append.mp ha with
        | inl hmem => exact absurd hwaiting (hdone a hmem)
        | inr hmem =>
            obtain ⟨e, he, rfl⟩ := List.mem_map.mp hmem
            exact hbr e (List.mem_append_right _ he) b hb' hwaiting
  | acknowledge done batch rest holder token receipt hnonempty hdone hbatch hrest hadmits =>
      rw [ackPrefix_iff_split]
      refine ⟨done ++ batch.map (Entry.acknowledge receipt), rest, rfl, ?_, ?_⟩
      · intro e he
        cases List.mem_append.mp he with
        | inl hmem => exact hdone e hmem
        | inr hmem =>
            obtain ⟨x, -, rfl⟩ := List.mem_map.mp hmem
            intro hwaiting
            cases hwaiting
      · intro e he
        obtain ⟨first, hfirst⟩ := List.exists_mem_of_ne_nil batch hnonempty
        have hcross := (List.pairwise_append.mp hq).2.2
        exact hcross first (List.mem_append_right _ hfirst) e he (hbatch first hfirst).1

/-! ## Nothing is lost, reordered or acknowledged again -/

/-- `e'` is `e` later on: the same item, with the receipt it already has. -/
def Entry.Later (e e' : Entry α H T R) : Prop :=
  e'.item = e.item ∧ ∀ r, e.receipt = some r → e'.receipt = some r

theorem Entry.Later.refl (e : Entry α H T R) : e.Later e := ⟨rfl, fun _ h => h⟩

theorem Entry.Later.trans {a b c : Entry α H T R} (h : a.Later b) (h' : b.Later c) :
    a.Later c :=
  ⟨h'.1.trans h.1, fun r hr => h'.2 r (h.2 r hr)⟩

/-- The second queue has the entries of the first one in their places, then others. -/
inductive Extends : List (Entry α H T R) → List (Entry α H T R) → Prop
  | nil (new : List (Entry α H T R)) : Extends [] new
  | cons {e e' : Entry α H T R} {q q' : List (Entry α H T R)} (h : e.Later e')
      (hrest : Extends q q') : Extends (e :: q) (e' :: q')

namespace Extends

theorem refl (q : List (Entry α H T R)) : Extends q q := by
  induction q with
  | nil => exact .nil []
  | cons e rest ih => exact .cons (Entry.Later.refl e) ih

theorem trans {q'' : List (Entry α H T R)} (h : Extends q q') (h' : Extends q' q'') :
    Extends q q'' := by
  induction h generalizing q'' with
  | nil => exact .nil q''
  | cons he _ ih =>
      cases h' with
      | cons he' hrest' => exact .cons (he.trans he') (ih hrest')

theorem append_right (q new : List (Entry α H T R)) : Extends q (q ++ new) := by
  induction q with
  | nil => exact .nil new
  | cons e rest ih => exact .cons (Entry.Later.refl e) ih

theorem append_left (front : List (Entry α H T R)) (h : Extends q q') :
    Extends (front ++ q) (front ++ q') := by
  induction front with
  | nil => exact h
  | cons e rest ih => exact .cons (Entry.Later.refl e) ih

/-- Entries that are replaced by later forms of themselves. -/
theorem map_append {f : Entry α H T R → Entry α H T R} {batch : List (Entry α H T R)}
    (h : ∀ e ∈ batch, e.Later (f e)) (rest : List (Entry α H T R)) :
    Extends (batch ++ rest) (batch.map f ++ rest) := by
  induction batch with
  | nil => exact refl rest
  | cons e tail ih =>
      exact .cons (h e List.mem_cons_self) (ih fun x hx => h x (List.mem_cons_of_mem e hx))

end Extends

theorem QueueStep.extends (h : QueueStep moment admits q q') : Extends q q' := by
  cases h with
  | enqueue => exact Extends.append_right q _
  | lease done batch rest holder token expiresAt now hnow hdone hbatch =>
      rw [List.append_assoc, List.append_assoc]
      refine Extends.append_left done (Extends.map_append ?_ rest)
      intro e _
      exact ⟨rfl, fun _ h => h⟩
  | acknowledge done batch rest holder token receipt hnonempty hdone hbatch hrest hadmits =>
      rw [List.append_assoc, List.append_assoc]
      refine Extends.append_left done (Extends.map_append ?_ rest)
      intro e he
      refine ⟨rfl, fun r hr => ?_⟩
      have hwaiting : e.receipt = none := (hbatch e he).1
      rw [hwaiting] at hr
      cases hr

/-- A step that may not acknowledge anything gives no entry a receipt. -/
theorem QueueStep.receipt_of_not_admits (h : QueueStep moment admits q q')
    (hadmits : ∀ holder token items receipt, ¬ admits holder token items receipt)
    {e' : Entry α H T R} (he' : e' ∈ q') {r : R} (hr : e'.receipt = some r) :
    ∃ e ∈ q, e.item = e'.item ∧ e.receipt = some r := by
  cases h with
  | enqueue item =>
      cases List.mem_append.mp he' with
      | inl hmem => exact ⟨e', hmem, rfl, hr⟩
      | inr hmem =>
          rw [List.mem_singleton.mp hmem] at hr
          cases hr
  | lease done batch rest holder token expiresAt now hnow hdone hbatch =>
      simp only [List.mem_append, List.mem_map] at he' ⊢
      obtain (hmem | ⟨e, hmem, rfl⟩) | hmem := he'
      · exact ⟨e', .inl (.inl hmem), rfl, hr⟩
      · exact ⟨e, .inl (.inr hmem), rfl, hr⟩
      · exact ⟨e', .inr hmem, rfl, hr⟩
  | acknowledge done batch rest holder token receipt hnonempty hdone hbatch hrest h =>
      exact absurd h (hadmits _ _ _ _)

/-! ## Leases have a holder and a token -/

theorem QueueStep.complete (h : QueueStep moment admits q q')
    (hq : ∀ e ∈ q, e.lease.Complete) : ∀ e ∈ q', e.lease.Complete := by
  intro e he
  cases h with
  | enqueue item =>
      cases List.mem_append.mp he with
      | inl hmem => exact hq e hmem
      | inr hmem =>
          rw [List.mem_singleton.mp hmem]
          exact Lease.complete_free
  | lease done batch rest holder token expiresAt now hnow hdone hbatch =>
      simp only [List.mem_append, List.mem_map] at he
      obtain (hmem | ⟨x, -, rfl⟩) | hmem := he
      · exact hq e (by simp [hmem])
      · exact Lease.complete_grant holder token expiresAt
      · exact hq e (by simp [hmem])
  | acknowledge done batch rest holder token receipt hnonempty hdone hbatch hrest hadmits =>
      simp only [List.mem_append, List.mem_map] at he
      obtain (hmem | ⟨x, -, rfl⟩) | hmem := he
      · exact hq e (by simp [hmem])
      · exact Lease.complete_free
      · exact hq e (by simp [hmem])

/-! ## Live leases are exclusive -/

/-- At `t`, a waiting entry with a live lease comes after such entries only, and they all
carry the same lease. -/
def Exclusive (t : Nat) (q : List (Entry α H T R)) : Prop :=
  q.Pairwise fun a b => a.Waiting → b.Waiting → b.lease.Live t →
    a.lease.Live t ∧ a.lease.Same b.lease

/-- The leases of an exclusive queue, of any two entries. -/
theorem Exclusive.same {t : Nat} (h : Exclusive t q) {a b : Entry α H T R} (ha : a ∈ q)
    (hb : b ∈ q) (hwa : a.Waiting) (hwb : b.Waiting) (hla : a.lease.Live t)
    (hlb : b.lease.Live t) : a.lease.Same b.lease := by
  have hsymm : Std.Symm fun a b : Entry α H T R => a.Waiting → b.Waiting →
      a.lease.Live t → b.lease.Live t → a.lease.Same b.lease :=
    ⟨fun _ _ hab hb ha hlb hla => (hab ha hb hla hlb).symm⟩
  have hpair : q.Pairwise fun a b => a.Waiting → b.Waiting → a.lease.Live t →
      b.lease.Live t → a.lease.Same b.lease :=
    h.imp fun hab hwa hwb _ hlb => (hab hwa hwb hlb).2
  by_cases heq : a = b
  · rw [heq]
    exact ⟨rfl, rfl⟩
  · exact hpair.forall ha hb heq hwa hwb hla hlb

/-- If the first waiting entry has no live lease, no waiting entry has one. -/
theorem Exclusive.none_live {t : Nat} {a : Entry α H T R} {rest : List (Entry α H T R)}
    (h : Exclusive t (a :: rest)) (ha : a.Waiting) (hlive : ¬ a.lease.Live t) :
    ∀ b ∈ rest, b.Waiting → ¬ b.lease.Live t := by
  intro b hb hwb hlb
  exact hlive ((List.pairwise_cons.mp h).1 b hb ha hwb hlb).1

/-- The entries with a live lease come first. -/
theorem Exclusive.live_prefix {t : Nat} (h : Exclusive t q) (hwaiting : ∀ e ∈ q, e.Waiting) :
    ∃ live rest, q = live ++ rest ∧ (∀ e ∈ live, e.lease.Live t) ∧
      ∀ e ∈ rest, ¬ e.lease.Live t := by
  induction q with
  | nil => exact ⟨[], [], rfl, by simp, by simp⟩
  | cons e tail ih =>
      by_cases he : e.lease.Live t
      · obtain ⟨live, rest, heq, hlive, hrest⟩ := ih (List.pairwise_cons.mp h).2
          fun x hx => hwaiting x (List.mem_cons_of_mem e hx)
        refine ⟨e :: live, rest, by rw [heq, List.cons_append], ?_, hrest⟩
        intro x hx
        cases List.mem_cons.mp hx with
        | inl hxe => rwa [hxe]
        | inr hmem => exact hlive x hmem
      · refine ⟨[], e :: tail, rfl, by simp, fun x hx => ?_⟩
        cases List.mem_cons.mp hx with
        | inl hxe => rwa [hxe]
        | inr hmem =>
            exact h.none_live (hwaiting e List.mem_cons_self) he x hmem
              (hwaiting x (List.mem_cons_of_mem e hmem))

/-- A queue that is exclusive whenever a step sees the clock and at a later moment `t` is
exclusive at `t` after the step, too. -/
theorem QueueStep.exclusive {t : Nat} (h : QueueStep moment admits q q')
    (hmoment : ∀ s, moment s → Exclusive s q) (ht : Exclusive t q)
    (hafter : ∀ s, moment s → s ≤ t) : Exclusive t q' := by
  cases h with
  | enqueue item =>
      refine List.pairwise_append.mpr ⟨ht, List.pairwise_singleton _ _, ?_⟩
      intro a _ b hb _ _ hlive
      rw [List.mem_singleton.mp hb] at hlive
      exact absurd hlive (Lease.not_live_free t)
  | lease done batch rest holder token expiresAt now hnow hdone hbatch =>
      have hold : Exclusive t (batch ++ rest) :=
        (List.pairwise_append.mp (List.append_assoc done batch rest ▸ ht)).2.1
      rw [List.append_assoc]
      refine List.pairwise_append.mpr ⟨?_, ?_, ?_⟩
      · exact List.Pairwise.imp_of_mem (fun ha _ _ hwa => absurd hwa (hdone _ ha))
          (List.pairwise_of_forall fun _ _ => trivial : done.Pairwise fun _ _ => True)
      · cases batch with
        | nil => exact hold
        | cons first others =>
            obtain ⟨hwaiting, hdead⟩ := hbatch first List.mem_cons_self
            have hnone : ∀ b ∈ others ++ rest, b.Waiting → ¬ b.lease.Live t := by
              intro b hb hwb hlb
              have hnowq := hmoment now hnow
              rw [List.append_assoc] at hnowq
              exact Exclusive.none_live (List.pairwise_append.mp hnowq).2.1 hwaiting hdead b hb
                hwb (hlb.anti (hafter now hnow))
            refine List.pairwise_append.mpr ⟨?_, (List.pairwise_append.mp hold).2.1, ?_⟩
            · refine List.pairwise_map.mpr (List.pairwise_of_forall ?_)
              intro a b _ _ hlive
              exact ⟨hlive, rfl, rfl⟩
            · intro a _ b hb _ hwb hlb
              exact absurd hlb (hnone b (List.mem_append_right others hb) hwb)
      · intro a ha b _ hwa
        exact absurd hwa (hdone a ha)
  | acknowledge done batch rest holder token receipt hnonempty hdone hbatch hrest hadmits =>
      have hdead : ∀ b ∈ rest, b.Waiting → ¬ b.lease.Live t := by
        intro b hb hwb hlb
        obtain ⟨first, hfirst⟩ := List.exists_mem_of_ne_nil batch hnonempty
        obtain ⟨hwaiting, hholder, htoken, now, hnow, hlive⟩ := hbatch first hfirst
        have hsame := (hmoment now hnow).same
          (List.mem_append_left rest (List.mem_append_right done hfirst))
          (List.mem_append_right (done ++ batch) hb) hwaiting hwb hlive
          (hlb.anti (hafter now hnow))
        exact hrest b hb hwb (hsame.1.symm.trans hholder) (hsame.2.symm.trans htoken)
      have hacknowledged : ∀ a ∈ done ++ batch.map (Entry.acknowledge receipt),
          ¬ a.Waiting := by
        intro a ha
        cases List.mem_append.mp ha with
        | inl hmem => exact hdone a hmem
        | inr hmem =>
            obtain ⟨x, -, rfl⟩ := List.mem_map.mp hmem
            intro hwaiting
            cases hwaiting
      refine List.pairwise_append.mpr ⟨?_, ?_, ?_⟩
      · exact List.Pairwise.imp_of_mem (fun ha _ _ hwa => absurd hwa (hacknowledged _ ha))
          (List.pairwise_of_forall fun _ _ => trivial :
            (done ++ batch.map (Entry.acknowledge receipt)).Pairwise fun _ _ => True)
      · exact List.Pairwise.imp_of_mem (fun _ hb _ _ hwb hlb => absurd hlb (hdead _ hb hwb))
          (List.pairwise_of_forall fun _ _ => trivial : rest.Pairwise fun _ _ => True)
      · intro a ha b _ hwa
        exact absurd hwa (hacknowledged a ha)

/-! ## Runs that read a clock -/

/-- A step that takes the readings of the clock from the first counter to the second. -/
def ReadingStep (clock : Nat → Nat) (admits : H → T → List α → R → Prop)
    (s s' : List (Entry α H T R) × Nat) : Prop :=
  s.2 ≤ s'.2 ∧ (s'.1 = s.1 ∨
    QueueStep (fun t => ∃ k, s.2 ≤ k ∧ k < s'.2 ∧ clock k = t) admits s.1 s'.1)

/-- A run of such steps, each with its own readings. -/
def ReadingSteps (clock : Nat → Nat) (admits : H → T → List α → R → Prop) :
    List (Entry α H T R) × Nat → List (Entry α H T R) × Nat → Prop :=
  Relation.ReflTransGen (ReadingStep clock admits)

namespace ReadingSteps

variable {clock : Nat → Nat} {s s' : List (Entry α H T R) × Nat}

theorem mono {admits' : H → T → List α → R → Prop} (h : ReadingSteps clock admits s s')
    (hadmits : ∀ holder token items receipt, admits holder token items receipt →
      admits' holder token items receipt) : ReadingSteps clock admits' s s' := by
  induction h with
  | refl => exact Relation.ReflTransGen.refl
  | tail _ hstep ih =>
      exact ih.tail ⟨hstep.1, hstep.2.imp id fun hqueue => hqueue.mono hadmits⟩

/-- Where nothing may be acknowledged, every receipt was there before. -/
theorem receipt_of_not_admits (h : ReadingSteps clock admits s s')
    (hadmits : ∀ holder token items receipt, ¬ admits holder token items receipt)
    {e' : Entry α H T R} (he' : e' ∈ s'.1) {r : R} (hr : e'.receipt = some r) :
    ∃ e ∈ s.1, e.item = e'.item ∧ e.receipt = some r := by
  induction h generalizing e' with
  | refl => exact ⟨e', he', rfl, hr⟩
  | tail _ hstep ih =>
      cases hstep.2 with
      | inl heq => exact ih (heq ▸ he') hr
      | inr hqueue =>
          obtain ⟨e, he, hitem, hreceipt⟩ := hqueue.receipt_of_not_admits hadmits he' hr
          obtain ⟨e₀, he₀, hitem₀, hreceipt₀⟩ := ih he hreceipt
          exact ⟨e₀, he₀, hitem₀.trans hitem, hreceipt₀⟩

theorem complete (h : ReadingSteps clock admits s s')
    (hs : ∀ e ∈ s.1, e.lease.Complete) : ∀ e ∈ s'.1, e.lease.Complete := by
  induction h with
  | refl => exact hs
  | tail _ hstep ih =>
      cases hstep.2 with
      | inl heq => rwa [heq]
      | inr hqueue => exact hqueue.complete ih

theorem extends_start (h : ReadingSteps clock admits s s') : Extends s.1 s'.1 := by
  induction h with
  | refl => exact Extends.refl _
  | tail _ hstep ih =>
      cases hstep.2 with
      | inl heq => rwa [heq]
      | inr hqueue => exact ih.trans hqueue.extends

/-- With a clock that never goes back, leases are exclusive at every moment not before
the readings taken so far. -/
theorem exclusive (h : ReadingSteps clock admits s s') (hclock : Monotone clock)
    (hs : ∀ t, (∀ k < s.2, clock k ≤ t) → Exclusive t s.1) :
    ∀ t, (∀ k < s'.2, clock k ≤ t) → Exclusive t s'.1 := by
  induction h with
  | refl => exact hs
  | @tail s₁ s₂ _ hstep ih =>
      intro t ht
      have hbefore : Exclusive t s₁.1 :=
        ih t fun k hk => ht k (Nat.lt_of_lt_of_le hk hstep.1)
      cases hstep.2 with
      | inl heq => rwa [heq]
      | inr hqueue =>
          refine hqueue.exclusive ?_ hbefore ?_
          · rintro _ ⟨n, hn, -, rfl⟩
            exact ih (clock n) fun k hk => hclock (Nat.le_of_lt (Nat.lt_of_lt_of_le hk hn))
          · rintro _ ⟨n, -, hn, rfl⟩
            exact ht n hn

end ReadingSteps

end Torsor.Library
