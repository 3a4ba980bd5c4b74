import Torsor.Kernel.AttentionOrder

/-! # Leases of execution domains

An Attention that has a handler lease owns the fence of its Agent, Project, Channel and
Thread, and a fence has the lease of the Attention it points to. So no two Attentions of one
domain have a lease at a time, and a lease token that an Attention has lost is never accepted
again.
-/

namespace Torsor.Kernel

open Torsor.Library Tx

/-! ## Agreement -/

/-- The fence is that of the domain of the Attention, and has its lease. -/
structure AttentionDomainFence.Guards (f : AttentionDomainFence) (a : Attention) : Prop where
  attentionId : f.attentionId = a.id
  domain : f.fencesDomainOf a = true
  leaseToken : f.leaseToken = a.handlerLeaseToken
  leaseExpiresAt : f.leaseExpiresAt = a.handlerLeaseExpiresAt

/-- The handler leases of the Attentions are those of the fences of their domains. -/
structure FencesAgree (attentions : List Attention) (fences : List AttentionDomainFence) :
    Prop where
  owns : ∀ a ∈ attentions, a.handlerLeaseToken.isSome = true → ∃ f ∈ fences, f.Guards a
  points : ∀ f ∈ fences, ∃ a ∈ attentions, f.Guards a
  open' : ∀ a ∈ attentions, a.handlerLeaseToken.isSome = true → a.status = .Open
  expires : ∀ a ∈ attentions, a.handlerLeaseToken.isSome = a.handlerLeaseExpiresAt.isSome

/-- What an Attention is to the fence of its domain. -/
def Attention.leaseFacts (a : Attention) :
    (String × String × String × String × String) × AttentionStatus × Option String ×
      Option Timestamp :=
  ((a.id, a.targetAgentId, a.projectId, a.channelId, a.threadRootId), a.status,
    a.handlerLeaseToken, a.handlerLeaseExpiresAt)

section Agreement

variable {attentions : List Attention} {fences : List AttentionDomainFence} {a a' : Attention}
  {f f' : AttentionDomainFence}

theorem AttentionDomainFence.Guards.congr (h : f.Guards a)
    (hfacts : a'.leaseFacts = a.leaseFacts) : f.Guards a' := by
  simp only [Attention.leaseFacts, Prod.mk.injEq] at hfacts
  obtain ⟨⟨hid, hagent, hproject, hchannel, hthread⟩, -, htoken, hexpires⟩ := hfacts
  have hdomain := h.domain
  simp only [AttentionDomainFence.fencesDomainOf] at hdomain
  refine ⟨h.attentionId.trans hid.symm, ?_, h.leaseToken.trans htoken.symm,
    h.leaseExpiresAt.trans hexpires.symm⟩
  rw [AttentionDomainFence.fencesDomainOf, hagent, hproject, hchannel, hthread]
  exact hdomain

theorem FencesAgree.nil : FencesAgree [] [] := ⟨by simp, by simp, by simp, by simp⟩

/-- An Attention without a lease joins the others. -/
theorem FencesAgree.append (h : FencesAgree attentions fences)
    (htoken : a.handlerLeaseToken = none) (hexpires : a.handlerLeaseExpiresAt = none) :
    FencesAgree (attentions ++ [a]) fences where
  owns x hx hsome := by
    cases List.mem_append.mp hx with
    | inl hold => exact h.owns x hold hsome
    | inr hnew => simp [List.mem_singleton.mp hnew, htoken] at hsome
  points f hf := by
    obtain ⟨x, hx, hguards⟩ := h.points f hf
    exact ⟨x, List.mem_append_left _ hx, hguards⟩
  open' x hx hsome := by
    cases List.mem_append.mp hx with
    | inl hold => exact h.open' x hold hsome
    | inr hnew => simp [List.mem_singleton.mp hnew, htoken] at hsome
  expires x hx := by
    cases List.mem_append.mp hx with
    | inl hold => exact h.expires x hold
    | inr hnew => simp [List.mem_singleton.mp hnew, htoken, hexpires]

/-- A change that is none to the fences. -/
theorem FencesAgree.mapAttentions {g : Attention → Attention} (h : FencesAgree attentions fences)
    (hfacts : ∀ a, (g a).leaseFacts = a.leaseFacts) :
    FencesAgree (attentions.map g) fences := by
  have htoken : ∀ a, (g a).handlerLeaseToken = a.handlerLeaseToken :=
    fun a => congrArg (·.2.2.1) (hfacts a)
  have hstatus : ∀ a, (g a).status = a.status := fun a => congrArg (·.2.1) (hfacts a)
  have hexpires : ∀ a, (g a).handlerLeaseExpiresAt = a.handlerLeaseExpiresAt :=
    fun a => congrArg (·.2.2.2) (hfacts a)
  constructor
  · intro x hx hsome
    obtain ⟨a, ha, rfl⟩ := List.mem_map.mp hx
    obtain ⟨f, hf, hguards⟩ := h.owns a ha (htoken a ▸ hsome)
    exact ⟨f, hf, hguards.congr (hfacts a)⟩
  · intro f hf
    obtain ⟨a, ha, hguards⟩ := h.points f hf
    exact ⟨g a, List.mem_map_of_mem ha, hguards.congr (hfacts a)⟩
  · intro x hx hsome
    obtain ⟨a, ha, rfl⟩ := List.mem_map.mp hx
    rw [hstatus]
    exact h.open' a ha (htoken a ▸ hsome)
  · intro x hx
    obtain ⟨a, ha, rfl⟩ := List.mem_map.mp hx
    rw [htoken, hexpires]
    exact h.expires a ha

/-- Fences are recounted. -/
theorem FencesAgree.recount {g : AttentionDomainFence → AttentionDomainFence}
    (h : FencesAgree attentions fences)
    (hcount : ∀ f, g f = { f with unsettledProviderAttemptCount :=
      (g f).unsettledProviderAttemptCount }) : FencesAgree attentions (fences.map g) := by
  have hguards : ∀ {f : AttentionDomainFence} {a : Attention}, f.Guards a → (g f).Guards a := by
    intro f a hguards
    rw [hcount f]
    exact ⟨hguards.attentionId, hguards.domain, hguards.leaseToken, hguards.leaseExpiresAt⟩
  refine ⟨?_, ?_, h.open', h.expires⟩
  · intro a ha hsome
    obtain ⟨f, hf, hown⟩ := h.owns a ha hsome
    exact ⟨g f, List.mem_map_of_mem hf, hguards hown⟩
  · intro f hf
    obtain ⟨x, hx, rfl⟩ := List.mem_map.mp hf
    obtain ⟨a, ha, hpoints⟩ := h.points x hx
    exact ⟨a, ha, hguards hpoints⟩

/-- Fences without a lease go. -/
theorem FencesAgree.filter {p : AttentionDomainFence → Bool} (h : FencesAgree attentions fences)
    (hkept : ∀ f, p f = false → f.leaseToken = none) :
    FencesAgree attentions (fences.filter p) := by
  refine ⟨?_, ?_, h.open', h.expires⟩
  · intro a ha hsome
    obtain ⟨f, hf, hguards⟩ := h.owns a ha hsome
    refine ⟨f, List.mem_filter.mpr ⟨hf, ?_⟩, hguards⟩
    by_contra hgone
    rw [← hguards.leaseToken, hkept f (by simpa using hgone)] at hsome
    cases hsome
  · exact fun f hf => h.points f (List.mem_filter.mp hf).1

/-- A decision takes the lease from the Attention and from its fence, which may go. -/
theorem FencesAgree.decide {g : Attention → Attention} {p : AttentionDomainFence → Bool}
    (h : FencesAgree attentions fences) (id : String)
    (hid : ∀ a, (g a).id = a.id)
    (hdomain : ∀ (f : AttentionDomainFence) a, f.fencesDomainOf (g a) = f.fencesDomainOf a)
    (hnone : ∀ a, (g a).handlerLeaseToken = none ∧ (g a).handlerLeaseExpiresAt = none)
    (hkept : ∀ f, p f = false → f.attentionId = id) :
    FencesAgree (attentions.map fun a => if a.id = id then g a else a)
      ((fences.map fun f => if f.attentionId = id then
        { f with leaseToken := none, leaseExpiresAt := none } else f).filter p) := by
  constructor
  · intro y hy hsome
    obtain ⟨x, hx, rfl⟩ := List.mem_map.mp hy
    by_cases hdecided : x.id = id
    · rw [if_pos hdecided, (hnone x).1] at hsome
      cases hsome
    · rw [if_neg hdecided] at hsome ⊢
      obtain ⟨f, hf, hguards⟩ := h.owns x hx hsome
      have hother : f.attentionId ≠ id := fun heq => hdecided (hguards.attentionId ▸ heq)
      refine ⟨f, List.mem_filter.mpr ⟨List.mem_map.mpr ⟨f, hf, if_neg hother⟩, ?_⟩, hguards⟩
      by_contra hgone
      exact hother (hkept f (by simpa using hgone))
  · intro f' hf'
    obtain ⟨f, hf, rfl⟩ := List.mem_map.mp (List.mem_filter.mp hf').1
    obtain ⟨x, hx, hguards⟩ := h.points f hf
    refine ⟨_, List.mem_map_of_mem hx, ?_⟩
    by_cases hdecided : x.id = id
    · rw [if_pos hdecided, if_pos (hguards.attentionId.trans hdecided)]
      exact ⟨hguards.attentionId.trans (hid x).symm, (hdomain f x).trans hguards.domain,
        (hnone x).1.symm, (hnone x).2.symm⟩
    · rw [if_neg hdecided, if_neg fun heq => hdecided (hguards.attentionId ▸ heq)]
      exact hguards
  · intro y hy hsome
    obtain ⟨x, hx, rfl⟩ := List.mem_map.mp hy
    by_cases hdecided : x.id = id
    · rw [if_pos hdecided, (hnone x).1] at hsome
      cases hsome
    · rw [if_neg hdecided] at hsome ⊢
      exact h.open' x hx hsome
  · intro y hy
    obtain ⟨x, hx, rfl⟩ := List.mem_map.mp hy
    by_cases hdecided : x.id = id
    · rw [if_pos hdecided, (hnone x).1, (hnone x).2]
      rfl
    · rw [if_neg hdecided]
      exact h.expires x hx

/-- What a claim does to an Attention: it gets the lease of the fence `n`, those whose fence
was in its domain lose theirs, and the others are left alone. -/
structure ClaimsDomain (attentions : List Attention) (fences : List AttentionDomainFence)
    (a : Attention) (g : Attention → Attention) (n : AttentionDomainFence) : Prop where
  guards : n.Guards (g a)
  open' : (g a).status = .Open
  expires : (g a).handlerLeaseToken.isSome = (g a).handlerLeaseExpiresAt.isSome
  lost : ∀ x ∈ attentions, x ≠ a → ∀ f ∈ fences, f.fencesDomainOf a = true → f.Guards x →
    (g x).handlerLeaseToken = none ∧ (g x).handlerLeaseExpiresAt = none
  other : ∀ x ∈ attentions, x ≠ a → (∀ f ∈ fences, f.fencesDomainOf a = true → ¬ f.Guards x) →
    (g x).leaseFacts = x.leaseFacts

/-- Two fences of one Attention are of one domain. -/
theorem AttentionDomainFence.Guards.sameDomain {x : Attention} (h : f.Guards x)
    (h' : f'.Guards x) (hdomain : f'.fencesDomainOf a = true) : f.fencesDomainOf a = true := by
  have hf := h.domain
  have hf' := h'.domain
  simp only [AttentionDomainFence.fencesDomainOf, Bool.and_eq_true, decide_eq_true_eq] at *
  grind

theorem FencesAgree.claim {g : Attention → Attention} {n : AttentionDomainFence}
    {fences' : List AttentionDomainFence} (h : FencesAgree attentions fences)
    (ha : a ∈ attentions) (hclaim : ClaimsDomain attentions fences a g n)
    (hfences : ∀ f, f ∈ fences' ↔ f = n ∨ f ∈ fences ∧ f.fencesDomainOf a = false) :
    FencesAgree (attentions.map g) fences' := by
  have hcases : ∀ x ∈ attentions, x = a ∨
      ((g x).handlerLeaseToken = none ∧ (g x).handlerLeaseExpiresAt = none) ∨
        (g x).leaseFacts = x.leaseFacts ∧
          ∀ f ∈ fences, f.fencesDomainOf a = true → ¬ f.Guards x := by
    intro x hx
    by_cases hself : x = a
    · exact .inl hself
    · by_cases hlost : ∃ f ∈ fences, f.fencesDomainOf a = true ∧ f.Guards x
      · obtain ⟨f, hf, hdomain, hguards⟩ := hlost
        exact .inr (.inl (hclaim.lost x hx hself f hf hdomain hguards))
      · have hnone : ∀ f ∈ fences, f.fencesDomainOf a = true → ¬ f.Guards x :=
          fun f hf hdomain hguards => hlost ⟨f, hf, hdomain, hguards⟩
        exact .inr (.inr ⟨hclaim.other x hx hself hnone, hnone⟩)
  have hnew : n ∈ fences' := (hfences n).mpr (.inl rfl)
  constructor
  · intro y hy hsome
    obtain ⟨x, hx, rfl⟩ := List.mem_map.mp hy
    obtain rfl | ⟨hnone, -⟩ | ⟨hfacts, houtside⟩ := hcases x hx
    · exact ⟨n, hnew, hclaim.guards⟩
    · rw [hnone] at hsome
      cases hsome
    · have htoken : (g x).handlerLeaseToken = x.handlerLeaseToken := congrArg (·.2.2.1) hfacts
      obtain ⟨f, hf, hguards⟩ := h.owns x hx (htoken ▸ hsome)
      refine ⟨f, (hfences f).mpr (.inr ⟨hf, ?_⟩), hguards.congr hfacts⟩
      by_contra hdomain
      exact houtside f hf (by simpa using hdomain) hguards
  · intro f hf
    obtain rfl | ⟨hold, hdomain⟩ := (hfences f).mp hf
    · exact ⟨g a, List.mem_map_of_mem ha, hclaim.guards⟩
    · obtain ⟨x, hx, hguards⟩ := h.points f hold
      have hne : x ≠ a := by
        intro heq
        rw [← heq, hguards.domain] at hdomain
        cases hdomain
      have houtside : ∀ f' ∈ fences, f'.fencesDomainOf a = true → ¬ f'.Guards x := by
        intro f' _ hin hguards'
        rw [hguards.sameDomain hguards' hin] at hdomain
        cases hdomain
      exact ⟨g x, List.mem_map_of_mem hx, hguards.congr (hclaim.other x hx hne houtside)⟩
  · intro y hy hsome
    obtain ⟨x, hx, rfl⟩ := List.mem_map.mp hy
    obtain rfl | ⟨hnone, -⟩ | ⟨hfacts, -⟩ := hcases x hx
    · exact hclaim.open'
    · rw [hnone] at hsome
      cases hsome
    · have htoken : (g x).handlerLeaseToken = x.handlerLeaseToken := congrArg (·.2.2.1) hfacts
      have hstatus : (g x).status = x.status := congrArg (·.2.1) hfacts
      rw [hstatus]
      exact h.open' x hx (htoken ▸ hsome)
  · intro y hy
    obtain ⟨x, hx, rfl⟩ := List.mem_map.mp hy
    obtain rfl | ⟨hnone, hno⟩ | ⟨hfacts, -⟩ := hcases x hx
    · exact hclaim.expires
    · rw [hnone, hno]
      rfl
    · have htoken : (g x).handlerLeaseToken = x.handlerLeaseToken := congrArg (·.2.2.1) hfacts
      have hexpires : (g x).handlerLeaseExpiresAt = x.handlerLeaseExpiresAt :=
        congrArg (·.2.2.2) hfacts
      rw [htoken, hexpires]
      exact h.expires x hx

end Agreement

/-! ## Moves -/

/-- The Attentions and the fences of the database agree. -/
def DomainsAgree (db : Database) : Prop :=
  FencesAgree (db.table Attention).rows (db.table AttentionDomainFence).rows

/-- The leases go on agreeing, and a lease token an Attention has is one it had, or is new. -/
structure DomainsMove (kernel : KernelContext) (w w' : World) : Prop where
  agree : DomainsAgree w.db → DomainsAgree w'.db
  issued : w.issuedIds ≤ w'.issuedIds
  tokens : DomainsAgree w.db → ∀ a' ∈ w'.db.table Attention, ∀ token,
    a'.handlerLeaseToken = some token →
    (∃ a ∈ w.db.table Attention, a.id = a'.id ∧ a.handlerLeaseToken = some token) ∨
      ∃ n, w.issuedIds ≤ n ∧ n < w'.issuedIds ∧ kernel.idFactory "lease" n = token

section Moves

variable {kernel : KernelContext} {w w' w'' : World}

theorem DomainsMove.of_same (hattentions : w'.db.table Attention = w.db.table Attention)
    (hfences : w'.db.table AttentionDomainFence = w.db.table AttentionDomainFence)
    (hissued : w.issuedIds ≤ w'.issuedIds) : DomainsMove kernel w w' where
  agree h := by
    rw [DomainsAgree, hattentions, hfences]
    exact h
  issued := hissued
  tokens _ a ha token htoken := .inl ⟨a, hattentions ▸ ha, rfl, htoken⟩

theorem DomainsMove.trans (h : DomainsMove kernel w w') (h' : DomainsMove kernel w' w'') :
    DomainsMove kernel w w'' where
  agree hagree := h'.agree (h.agree hagree)
  issued := Nat.le_trans h.issued h'.issued
  tokens hagree a'' ha'' token htoken := by
    obtain ⟨a', ha', hid', htoken'⟩ | ⟨n, hle, hlt, hnew⟩ :=
      h'.tokens (h.agree hagree) a'' ha'' token htoken
    · obtain ⟨a, ha, hid, hbefore⟩ | ⟨n, hle, hlt, hnew⟩ := h.tokens hagree a' ha' token htoken'
      · exact .inl ⟨a, ha, hid.trans hid', hbefore⟩
      · exact .inr ⟨n, hle, Nat.lt_of_lt_of_le hlt h'.issued, hnew⟩
    · exact .inr ⟨n, Nat.le_trans h.issued hle, hlt, hnew⟩

instance : IsPreorder World (DomainsMove kernel) where
  refl _ := .of_same rfl rfl (Nat.le_refl _)
  trans _ _ _ := DomainsMove.trans

instance : ConcernsTables (DomainsMove kernel) [.attentions, .attentionDomainFences] where
  of_tables w w' htables _ hids _ :=
    .of_same (by simp only [Database.table, htables .attentions (by decide)])
      (by simp only [Database.table, htables .attentionDomainFences (by decide)]) hids

end Moves

/-! ## Statements -/

section Statements

set_option synthInstance.maxSize 400000

variable (kernel : KernelContext) {w w' : World}

/-- An update of Attentions that is none to the fences. -/
theorem domainsMove_updateRows {p : Attention → Bool} {f : Attention → Attention}
    {h : KeepsKeys f} (hfacts : ∀ r, (f r).leaseFacts = r.leaseFacts) :
    Within (DomainsMove kernel) (updateRows p f h) := by
  have hif : ∀ r, (if p r = true then f r else r).leaseFacts = r.leaseFacts := by
    intro r
    split
    · exact hfacts r
    · rfl
  refine Within.updateRows fun w => ⟨fun hagree => ?_, Nat.le_refl _, ?_⟩
  · rw [DomainsAgree, World.store_db, Database.table_set_same, Database.table_set_apart]
    exact hagree.mapAttentions hif
  · intro _ a' ha' token htoken
    rw [World.store_db, Database.table_set_same] at ha'
    obtain ⟨a, ha, rfl⟩ := Table.mem_update.mp ha'
    have hid := congrArg (·.1.1) (hif a)
    exact .inl ⟨a, ha, hid.symm, (congrArg (·.2.2.1) (hif a)).symm.trans htoken⟩

/-- A new Attention has no handler lease. -/
instance (sequence : Nat) (id projectId channelId threadRootId messageRevisionId targetAgentId
    triggerKind : String) (status : AttentionStatus) (revision : Nat)
    (handlerLeaseHolderPrincipalId : Option String)
    (resolutionOutcome : Option AttentionResolutionOutcome)
    (resolvedByPrincipalId resolvedActivationId resolvedRunId : Option String)
    (createdEventSequence : Option Nat) (createdAt : Timestamp) (resolvedAt : Option Timestamp) :
    Within (DomainsMove kernel) (insertRow (⟨sequence, id, projectId, channelId, threadRootId,
      messageRevisionId, targetAgentId, triggerKind, status, revision,
      handlerLeaseHolderPrincipalId, none, none, resolutionOutcome, resolvedByPrincipalId,
      resolvedActivationId, resolvedRunId, createdEventSequence, createdAt, resolvedAt⟩ :
      Attention)) where
  step w := by
    obtain ⟨u, hu, hrun⟩ | hrun := insertRow_cases (_ : Attention) w
    · rw [hrun]
      refine ⟨fun hagree => ?_, Nat.le_refl _, ?_⟩
      · rw [DomainsAgree, World.store_db, Database.table_set_same, Database.table_set_apart,
          Table.insert?_eq_some hu]
        exact hagree.append rfl rfl
      · intro _ a ha token htoken
        rw [World.store_db, Database.table_set_same] at ha
        cases (Table.mem_insert? hu).mp ha with
        | inl hold => exact .inl ⟨a, hold, rfl, htoken⟩
        | inr hnew => simp [hnew] at htoken
    · rw [hrun]
      exact refl_of (DomainsMove kernel) w

/-- A change of the fences alone. -/
theorem DomainsMove.of_fences {u : Table AttentionDomainFence}
    (h : DomainsAgree w.db → FencesAgree (w.db.table Attention).rows u.rows) :
    DomainsMove kernel w (w.store u) where
  agree hagree := by
    rw [DomainsAgree, World.store_db, Database.table_set_same, Database.table_set_apart]
    exact h hagree
  issued := Nat.le_refl _
  tokens _ a ha token htoken := by
    rw [World.store_db, Database.table_set_apart] at ha
    exact .inl ⟨a, ha, rfl, htoken⟩

instance (attentionId : Option String) : Within (DomainsMove kernel)
    (updateRows (fun r : AttentionDomainFence => some r.attentionId = attentionId) (fun r =>
      { r with unsettledProviderAttemptCount := r.unsettledProviderAttemptCount + 1 })
        ⟨fun _ => rfl⟩) := by
  refine Within.updateRows fun w => DomainsMove.of_fences kernel fun hagree => ?_
  refine hagree.recount (g := fun r => if decide (some r.attentionId = attentionId) = true then
    { r with unsettledProviderAttemptCount := r.unsettledProviderAttemptCount + 1 } else r) ?_
  intro f
  split <;> rfl

instance (attentionId : Option String) (status : ProviderAttemptStatus) :
    Within (DomainsMove kernel)
      (updateRows (fun r : AttentionDomainFence => some r.attentionId = attentionId)
        (·.recount status) ⟨fun _ => rfl⟩) := by
  refine Within.updateRows fun w => DomainsMove.of_fences kernel fun hagree => ?_
  refine hagree.recount (g := fun r => if decide (some r.attentionId = attentionId) = true then
    r.recount status else r) ?_
  intro f
  split <;> rfl

instance (attentionId : Option String) : Within (DomainsMove kernel)
    (deleteRows fun r : AttentionDomainFence =>
      some r.attentionId = attentionId && r.leaseToken.isNone &&
        r.unsettledProviderAttemptCount = 0) where
  step w := by
    have hmove := DomainsMove.of_fences kernel (w := w)
      (u := (w.db.table AttentionDomainFence).delete fun r =>
        some r.attentionId = attentionId && r.leaseToken.isNone &&
          r.unsettledProviderAttemptCount = 0)
      fun hagree => hagree.filter fun f hgone => by
        simp only [Bool.not_eq_false', Bool.and_eq_true, Option.isNone_iff_eq_none] at hgone
        exact hgone.1.2
    exact hmove

end Statements

/-! ## Decisions and claims -/

section Decisions

set_option synthInstance.maxSize 400000

variable {kernel : KernelContext} {w w' : World} {u : Unit}

theorem updateAttention_rows {id : String} {f : Attention → Attention} {h : KeepsKeys f}
    (hrun : updateAttention id f h w = (.ok u, w')) :
    (w'.db.table Attention).rows =
        (w.db.table Attention).rows.map (fun r => if r.id = id then f r else r) ∧
      w'.db.table AttentionDomainFence = w.db.table AttentionDomainFence ∧
      w.issuedIds ≤ w'.issuedIds := by
  simp only [updateAttention, bind_eq_ok, selectRows_eq_ok, updateRows_eq_ok] at hrun
  obtain ⟨changed, _, ⟨-, rfl⟩, _, w₁, rfl, hbump⟩ := hrun
  have hsame : SameTables [.attentions, .attentionDomainFences] _ w' := Within.of_eq hbump
  refine ⟨?_, ?_, hsame.issuedIds⟩
  · rw [hsame.table_eq Attention (by decide), World.store_db, Database.table_set_same]
    simp [Table.update]
  · rw [hsame.table_eq AttentionDomainFence (by decide), World.store_db,
      Database.table_set_apart]

instance (attentionId : String) (outcome : AttentionOutcome) :
    Commits (DomainsMove kernel) (decideAttention attentionId outcome) := by
  apply Commits.of_ok
  intro w result w' hrun
  simp only [decideAttention, releaseAttentionDomainLease, bind_eq_ok, updateRows_eq_ok,
    deleteRows_eq_ok] at hrun
  obtain ⟨_, w₁, hdecide, _, w₂, rfl, rfl⟩ := hrun
  obtain ⟨hattentions, hfences, hissued⟩ := updateAttention_rows hdecide
  refine ⟨fun hagree => ?_, hissued, ?_⟩
  · have hdecided := hagree.decide (g := Attention.decide outcome)
      (p := fun r => !(decide (r.attentionId = attentionId) &&
        decide (r.unsettledProviderAttemptCount = 0))) attentionId (fun _ => rfl)
      (fun _ _ => rfl) (fun _ => ⟨rfl, rfl⟩) fun f hgone => by
        simp only [Bool.not_eq_false', Bool.and_eq_true, decide_eq_true_eq] at hgone
        exact hgone.1
    simp only [DomainsAgree, World.store_db, Database.table_set_same, Database.table_set_apart,
      Table.delete, Table.update, hattentions, hfences, decide_eq_true_eq]
    exact hdecided
  · intro _ a' ha' token htoken
    simp only [World.store_db, Database.table_set_apart] at ha'
    rw [← Table.mem_rows, hattentions] at ha'
    obtain ⟨a, ha, rfl⟩ := List.mem_map.mp ha'
    split at htoken
    · cases htoken
    · rename_i hother
      exact .inl ⟨a, ha, by rw [if_neg hother], htoken⟩

/-- What claiming a domain for `a` does to the Attentions. -/
structure TakesDomain (attentions : List Attention) (fences : List AttentionDomainFence)
    (a : Attention) (g : Attention → Attention) : Prop where
  id : ∀ x, (g x).id = x.id
  self : g a = a
  lost : ∀ x ∈ attentions, x ≠ a → ∀ f ∈ fences, f.fencesDomainOf a = true → f.Guards x →
    (g x).handlerLeaseToken = none ∧ (g x).handlerLeaseExpiresAt = none
  other : ∀ x ∈ attentions, (∀ f ∈ fences, f.fencesDomainOf a = true → ¬ f.Guards x) → g x = x
  token : ∀ x, (g x).handlerLeaseToken = x.handlerLeaseToken ∨ (g x).handlerLeaseToken = none

/-- The fence a claim leaves. -/
structure AttentionDomainFence.Granted (n : AttentionDomainFence) (a : Attention)
    (leaseToken : String) (leaseExpiresAt : Timestamp) : Prop where
  attentionId : n.attentionId = a.id
  domain : n.fencesDomainOf a = true
  leaseToken : n.leaseToken = some leaseToken
  leaseExpiresAt : n.leaseExpiresAt = some leaseExpiresAt

section Claims

variable {a : Attention} {leaseToken : String} {leaseExpiresAt at' : Timestamp}

theorem fence_eq {f f' : AttentionDomainFence} (hf : f ∈ w.db.table AttentionDomainFence)
    (hf' : f' ∈ w.db.table AttentionDomainFence) (hdomain : f.fencesDomainOf a = true)
    (hdomain' : f'.fencesDomainOf a = true) : f = f' := by
  simp only [AttentionDomainFence.fencesDomainOf, Bool.and_eq_true, decide_eq_true_eq] at *
  refine Table.eq_of_key hf hf' (k := primaryKey [.text a.targetAgentId, .text a.projectId,
    .text a.channelId, .text a.threadRootId]) ?_ ?_
  · simp [Keyed.keys, hdomain]
  · simp [Keyed.keys, hdomain']

theorem attention_eq {a' : Attention} (ha : a ∈ w.db.table Attention)
    (ha' : a' ∈ w.db.table Attention) (hid : a.id = a'.id) : a = a' := by
  refine Table.eq_of_key ha ha' (k := ⟨1, [.text a.id]⟩) ?_ ?_
  · simp [Keyed.keys]
  · simp [Keyed.keys, hid]

/-- A claim that succeeds takes the domain over from whoever had it. -/
theorem claimAttentionDomain_spec {superseded : Option SupersededAttention}
    (hagree : DomainsAgree w.db) (ha : a ∈ w.db.table Attention)
    (h : claimAttentionDomain a leaseToken leaseExpiresAt at' w = (.ok superseded, w')) :
    ∃ g n, TakesDomain (w.db.table Attention).rows (w.db.table AttentionDomainFence).rows a g ∧
      n.Granted a leaseToken leaseExpiresAt ∧
      (w'.db.table Attention).rows = (w.db.table Attention).rows.map g ∧
      (∀ f, f ∈ (w'.db.table AttentionDomainFence).rows ↔
        f = n ∨ f ∈ (w.db.table AttentionDomainFence).rows ∧ f.fencesDomainOf a = false) ∧
      w.issuedIds ≤ w'.issuedIds := by
  simp only [claimAttentionDomain, bind_eq_ok, selectRow_eq_ok] at h
  obtain ⟨fence, _, ⟨hfence, rfl⟩, h⟩ := h
  cases fence with
  | none =>
      have houtside : ∀ f ∈ w.db.table AttentionDomainFence, f.fencesDomainOf a = false :=
        fun f hf => by simpa using Table.find?_eq_none.mp hfence f hf
      simp only [Option.elim_none, bind_eq_ok, insertRow_eq_ok, pure_eq_ok] at h
      obtain ⟨_, _, ⟨u, hu, rfl⟩, -, rfl⟩ := h
      refine ⟨id,
        { agentId := a.targetAgentId
          projectId := a.projectId
          channelId := a.channelId
          threadRootId := a.threadRootId
          attentionId := a.id
          leaseToken := some leaseToken
          leaseExpiresAt := some leaseExpiresAt
          unsettledProviderAttemptCount := 0 },
        ⟨fun _ => rfl, rfl, ?_, fun _ _ _ => rfl, fun _ => .inl rfl⟩, ⟨rfl, ?_, rfl, rfl⟩, ?_, ?_,
        Nat.le_refl _⟩
      · intro x _ _ f hf hdomain
        rw [houtside f hf] at hdomain
        cases hdomain
      · simp [AttentionDomainFence.fencesDomainOf]
      · rw [World.store_db, Database.table_set_apart, List.map_id]
      · intro f
        rw [World.store_db, Database.table_set_same, Table.insert?_eq_some hu, List.mem_append,
          List.mem_singleton, or_comm]
        exact or_congr_right ⟨fun hf => ⟨hf, houtside f hf⟩, And.left⟩
  | some existing =>
      obtain ⟨hexisting, hdomain⟩ := Table.find?_eq_some hfence
      simp only [Option.elim_some, takeOverAttentionDomain, bind_eq_ok, throwIf_eq_ok,
        updateKeys_eq_ok, pure_eq_ok] at h
      obtain ⟨_, _, ⟨-, rfl⟩, superseded, w₁, hsupersede, _, _, ⟨t, ht, rfl⟩, -, rfl⟩ := h
      have hsole : ∀ f ∈ w.db.table AttentionDomainFence, f.fencesDomainOf a = true →
          f = existing := fun f hf hin => fence_eq hf hexisting hin hdomain
      have hfences : w₁.db.table AttentionDomainFence = w.db.table AttentionDomainFence →
          ∀ f, f ∈ t.rows ↔
            f = { existing with
              attentionId := a.id
              leaseToken := some leaseToken
              leaseExpiresAt := some leaseExpiresAt
              unsettledProviderAttemptCount := 0 } ∨
            f ∈ (w.db.table AttentionDomainFence).rows ∧ f.fencesDomainOf a = false := by
        intro hsame f
        rw [hsame] at ht
        rw [Table.mem_rows, Table.mem_map? ht]
        constructor
        · rintro ⟨x, hx, rfl⟩
          by_cases hin : x.fencesDomainOf a = true
          · rw [if_pos hin, hsole x hx hin]
            exact .inl rfl
          · rw [if_neg hin]
            exact .inr ⟨hx, by simpa using hin⟩
        · rintro (rfl | ⟨hf, hout⟩)
          · exact ⟨existing, hexisting, if_pos hdomain⟩
          · exact ⟨f, hf, by simp [hout]⟩
      have hgranted : AttentionDomainFence.Granted
          { existing with
            attentionId := a.id
            leaseToken := some leaseToken
            leaseExpiresAt := some leaseExpiresAt
            unsettledProviderAttemptCount := 0 } a leaseToken leaseExpiresAt :=
        ⟨rfl, hdomain, rfl, rfl⟩
      rw [World.store_db, Database.table_set_same, Database.table_set_apart]
      split at hsupersede
      · rename_i hother
        simp only [supersedeAttention, requireAttention, bind_eq_ok, requireRow_eq_ok,
          throwIf_eq_ok, pure_eq_ok] at hsupersede
        obtain ⟨_, w₂, ⟨previous, _, ⟨hprevious, rfl⟩, _, _, ⟨-, rfl⟩, _, w₃, hupdate,
          activationIds, w₄, hrevoke, _, w₅, hmark, -, rfl⟩, -, rfl⟩ := hsupersede
        obtain ⟨hattentions, hkept, hissued⟩ := updateAttention_rows hupdate
        have hafter : SameTables [.attentions, .attentionDomainFences] w₃ w₅ :=
          trans_of _ (Within.of_eq hrevoke) (Within.of_eq hmark)
        obtain ⟨-, hid⟩ := Table.find?_eq_some hprevious
        have hid : previous.id = existing.attentionId := by simpa using hid
        refine ⟨fun r => if r.id = previous.id then
            { r with
              revision := previous.revision + 1
              handlerLeaseHolderPrincipalId := none
              handlerLeaseToken := none
              handlerLeaseExpiresAt := none } else r, _, ⟨?_, ?_, ?_, ?_, ?_⟩, hgranted, ?_, ?_,
          Nat.le_trans hissued hafter.issuedIds⟩
        · intro x
          split <;> rfl
        · exact if_neg fun heq => hother (heq.trans hid).symm
        · intro x _ _ f hf hin hguards
          rw [hsole f hf hin] at hguards
          rw [if_pos (hguards.attentionId.symm.trans hid.symm)]
          exact ⟨rfl, rfl⟩
        · intro x hx hnone
          refine if_neg fun heq => ?_
          obtain ⟨y, hy, hguards⟩ := hagree.points existing hexisting
          have hsame : y = x :=
            attention_eq hy hx (hguards.attentionId.symm.trans (hid.symm.trans heq.symm))
          exact hnone existing hexisting hdomain (hsame ▸ hguards)
        · intro x
          split
          · exact .inr rfl
          · exact .inl rfl
        · rw [hafter.table_eq Attention (by decide), hattentions]
        · exact hfences ((hafter.table_eq AttentionDomainFence (by decide)).trans hkept)
      · rename_i hsame
        obtain ⟨-, rfl⟩ := pure_eq_ok.mp hsupersede
        refine ⟨id, _, ⟨fun _ => rfl, rfl, ?_, fun _ _ _ => rfl, fun _ => .inl rfl⟩, hgranted,
          (List.map_id _).symm, hfences rfl, Nat.le_refl _⟩
        intro x hx hne f hf hin hguards
        rw [hsole f hf hin] at hguards
        exact absurd (attention_eq hx ha (hguards.attentionId.symm.trans (not_not.mp hsame))) hne

/-- The Attentions after a claim: the others of the domain have lost their lease. -/
theorem TakesDomain.claims {attentions : List Attention} {fences : List AttentionDomainFence}
    {g : Attention → Attention} {n : AttentionDomainFence} {revision : Nat} {principalId : String}
    (h : TakesDomain attentions fences a g)
    (hids : ∀ x ∈ attentions, x.id = a.id → x = a) (hopen : a.status = .Open)
    (hn : n.Granted a leaseToken leaseExpiresAt) :
    ClaimsDomain attentions fences a (fun x => if (g x).id = a.id then
      Attention.claim revision principalId leaseToken leaseExpiresAt (g x) else g x) n := by
  have hself : (if (g a).id = a.id then
      Attention.claim revision principalId leaseToken leaseExpiresAt (g a) else g a) =
        Attention.claim revision principalId leaseToken leaseExpiresAt a := by
    rw [h.self, if_pos rfl]
  have hrest : ∀ x ∈ attentions, x ≠ a → (if (g x).id = a.id then
      Attention.claim revision principalId leaseToken leaseExpiresAt (g x) else g x) = g x := by
    intro x hx hne
    exact if_neg fun heq => hne (hids x hx ((h.id x).symm.trans heq))
  constructor
  · rw [hself]
    exact ⟨hn.attentionId, hn.domain, hn.leaseToken, hn.leaseExpiresAt⟩
  · rw [hself]
    exact hopen
  · rw [hself]
    rfl
  · intro x hx hne f hf hin hguards
    rw [hrest x hx hne]
    exact h.lost x hx hne f hf hin hguards
  · intro x hx hne hnone
    rw [hrest x hx hne, h.other x hx hnone]

instance (command : ClaimAttentionCommand) (principal : Principal) (correlationId : String) :
    Commits (DomainsMove kernel) (claimAttention kernel command principal correlationId) := by
  apply Commits.of_ok
  intro w result w' hrun
  simp only [claimAttention, requireAttention, bind_eq_ok, requireKind_eq_ok, throwIf_eq_ok,
    requireRow_eq_ok, checkRevision_eq_ok, readClock_eq_ok, newId_eq_ok, pure_eq_ok] at hrun
  obtain ⟨_, _, ⟨-, rfl⟩, _, _, ⟨-, rfl⟩, a, _, ⟨hfound, rfl⟩, _, _, ⟨hopen, rfl⟩, _, _, ⟨-, rfl⟩,
    now, _, ⟨-, rfl⟩, _, _, ⟨-, rfl⟩, leaseToken, _, ⟨htoken, rfl⟩, superseded, w₁, htake, _, w₂,
    hrecord, changed, w₃, hrevoke, _, w₄, hmark, _, w₅, hclaim, eventSequence, w₆, hevent, _, w₇,
    hhistory, -, rfl⟩ := hrun
  obtain ⟨ha, hid⟩ := Table.find?_eq_some hfound
  have hid : a.id = command.attentionId := by simpa using hid
  have hbetween : SameTables [.attentions, .attentionDomainFences] w₁ w₄ := trans_of _
    (trans_of _ (Within.of_eq hrecord) (Within.of_eq hrevoke)) (Within.of_eq hmark)
  have hafter : SameTables [.attentions, .attentionDomainFences] w₅ w₇ :=
    trans_of _ (Within.of_eq hevent) (Within.of_eq hhistory)
  obtain ⟨hclaimed, hkept, hissued⟩ := updateAttention_rows hclaim
  have hdomain : SameTables [] w.tick.issue w₁ := Within.of_eq htake
  have hlast : w.issuedIds < w₇.issuedIds := by
    have hstart : w.tick.issue.issuedIds = w.issuedIds + 1 := rfl
    have h₁ := hdomain.issuedIds
    have h₂ := hbetween.issuedIds
    have h₃ := hafter.issuedIds
    omega
  have hrows : DomainsAgree w.db → ∃ g n,
      TakesDomain (w.db.table Attention).rows (w.db.table AttentionDomainFence).rows a g ∧
        n.Granted a leaseToken (now + command.leaseDurationMs.toNat) ∧
        (w₇.db.table Attention).rows = (w.db.table Attention).rows.map (fun x =>
          if (g x).id = a.id then Attention.claim (a.revision + 1) principal.id leaseToken
            (now + command.leaseDurationMs.toNat) (g x) else g x) ∧
        ∀ f, f ∈ (w₇.db.table AttentionDomainFence).rows ↔
          f = n ∨ f ∈ (w.db.table AttentionDomainFence).rows ∧ f.fencesDomainOf a = false := by
    intro hagree
    obtain ⟨g, n, htakes, hgranted, hattentions, hfences, -⟩ :=
      claimAttentionDomain_spec (w := w.tick.issue) hagree ha htake
    refine ⟨g, n, htakes, hgranted, ?_, ?_⟩
    · rw [hafter.table_eq Attention (by decide), hclaimed, hbetween.table_eq Attention (by decide),
        hattentions, List.map_map, hid]
      rfl
    · rw [hafter.table_eq AttentionDomainFence (by decide), hkept,
        hbetween.table_eq AttentionDomainFence (by decide)]
      exact hfences
  refine ⟨fun hagree => ?_, Nat.le_of_lt hlast, fun hagree a' ha' token htoken' => ?_⟩
  · obtain ⟨g, n, htakes, hgranted, hattentions, hfences⟩ := hrows hagree
    rw [DomainsAgree, hattentions]
    exact hagree.claim ha (htakes.claims (fun x hx heq => attention_eq hx ha heq)
      (not_not.mp hopen) hgranted) hfences
  · obtain ⟨g, n, htakes, -, hattentions, -⟩ := hrows hagree
    rw [← Table.mem_rows, hattentions] at ha'
    obtain ⟨x, hx, rfl⟩ := List.mem_map.mp ha'
    split at htoken'
    · right
      refine ⟨w.issuedIds, Nat.le_refl _, hlast, ?_⟩
      rw [← Option.some.inj htoken', ← htoken]
      rfl
    · rename_i hother
      left
      refine ⟨x, hx, ?_, ?_⟩
      · rw [if_neg hother, htakes.id]
      · obtain hsame | hnone := htakes.token x
        · exact hsame.symm.trans htoken'
        · rw [hnone] at htoken'
          cases htoken'

end Claims

end Decisions

/-! ## Commands -/

section Commands

set_option synthInstance.maxSize 400000

variable (kernel : KernelContext)

instance (new : ProviderAttempt) :
    Within (DomainsMove kernel) (attentionDomainProviderInsert new) := by
  unfold attentionDomainProviderInsert
  infer_instance

instance (old new : ProviderAttempt) :
    Within (DomainsMove kernel) (attentionDomainProviderUpdate old new) := by
  unfold attentionDomainProviderUpdate
  infer_instance

instance (attempt : ProviderAttempt) :
    Within (DomainsMove kernel) (insertProviderAttempt attempt) := by
  unfold insertProviderAttempt
  infer_instance

instance (id : String) (f : ProviderAttempt → ProviderAttempt) (h : KeepsKeys f) :
    Within (DomainsMove kernel) (updateProviderAttempt id f h) := by
  unfold updateProviderAttempt
  infer_instance

instance (providerAttemptId : String) (status : ProviderAttemptStatus) (detail : Option String)
    (commandType : CommandType) (principal : Principal) (context : PrincipalContext)
    (correlationId : String) :
    Within (DomainsMove kernel) (setProviderAttemptStatus kernel providerAttemptId status detail
      commandType principal context correlationId) := by
  unfold setProviderAttemptStatus
  infer_instance

instance (site : MentionSite) (targetAgentId : String) :
    Within (DomainsMove kernel) (openAttention kernel site targetAgentId) := by
  have hcreated : ∀ (id : String) (eventSequence : Nat), Within (DomainsMove kernel)
      (updateRows (fun r : Attention => r.id = id)
        (fun r => { r with createdEventSequence := some eventSequence }) ⟨fun _ => rfl⟩) :=
    fun _ _ => domainsMove_updateRows kernel fun _ => rfl
  unfold openAttention
  infer_instance

instance (input : NewRevision) :
    Within (DomainsMove kernel) (appendMessageRevision kernel input) := by
  unfold appendMessageRevision mentionAgent
  infer_instance

instance (input : NewMessage) : Within (DomainsMove kernel) (createMessage kernel input) := by
  unfold createMessage mentionAgent
  infer_instance

instance (command : KernelCommand) (context : PrincipalContext) (principal : Principal)
    (correlationId : String) :
    Commits (DomainsMove kernel)
      (dispatchCommand kernel command context principal correlationId) := by
  unfold dispatchCommand
  cases command with
  | StartThread => unfold startThread; infer_instance
  | ReplyToThread => unfold replyToThread; infer_instance
  | EditMessage => unfold editMessage; infer_instance
  | DeleteMessage => unfold deleteMessage; infer_instance
  | SendToRun => unfold sendToRun; infer_instance
  | PublishRunReply => unfold publishRunReply; infer_instance
  | CompleteRun => unfold completeRun publishFinalReply; infer_instance
  | ResolveAttentionWithRun => unfold resolveAttentionWithRun; infer_instance
  | IgnoreAttention => unfold ignoreAttention; infer_instance
  | ResolveAttentionWithExistingRun => unfold resolveAttentionWithExistingRun; infer_instance
  | StartProviderAttempt => unfold startProviderAttempt; infer_instance
  | FinishProviderAttempt => unfold finishProviderAttempt; infer_instance
  | FailProviderAttempt => unfold failProviderAttempt; infer_instance
  | ParkRunAfterProviderAttemptFailure =>
      unfold parkRunAfterProviderAttemptFailure
      infer_instance
  | _ => infer_instance

instance (correlationId : String) :
    Within (DomainsMove kernel) (recordProjectionVersions correlationId) := by
  unfold recordProjectionVersions recordVersionsAt
  infer_instance

instance (command : KernelCommand) (result : CommandResult) (principal : Principal)
    (context : PrincipalContext) :
    Within (DomainsMove kernel)
      (resolveCachedResult kernel command result principal context) := by
  unfold resolveCachedResult
  split <;> infer_instance

theorem step_domainsMove (call : KernelCall) (w : World) :
    DomainsMove kernel w (step kernel call w) :=
  step_within kernel call w fun _ _ _ _ => inferInstance

end Commands

/-! ## Runs -/

section Runs

variable {kernel : KernelContext} {w w' : World}

theorem domainsAgree_opened (h : Opened kernel w) : DomainsAgree w.db := by
  have hframe : Frame [.attentions, .attentionDomainFences] World.blank w := h.frame
  rw [DomainsAgree, hframe.table_eq Attention (by decide),
    hframe.table_eq AttentionDomainFence (by decide)]
  exact FencesAgree.nil

theorem Reachable.domainsAgree (h : Reachable kernel w) : DomainsAgree w.db :=
  @Reachable.invariant kernel w (fun w => DomainsAgree w.db) h (fun _ => domainsAgree_opened)
    fun w call => (step_domainsMove kernel call w).agree

theorem Steps.domainsMove (hs : Steps kernel w w') : DomainsMove kernel w w' :=
  hs.within fun w call => step_domainsMove kernel call w

theorem fence_of_guards {a : Attention} {f : AttentionDomainFence}
    (hf : f ∈ w.db.table AttentionDomainFence) (hguards : f.Guards a) :
    (w.db.table AttentionDomainFence).find? (fun r => r.attentionId = a.id) = some f := by
  refine Table.find?_of_mem hf (by simpa using hguards.attentionId) ?_
  intro x hx
  refine ⟨⟨1, [.text a.id]⟩, ?_, ?_⟩
  · simp [Keyed.keys, of_decide_eq_true hx]
  · simp [Keyed.keys, hguards.attentionId]

/-- The fence of an Attention matches it. -/
theorem AttentionDomainFence.Guards.matches' {a : Attention} {f : AttentionDomainFence}
    (h : f.Guards a) : attentionDomainFenceMatches a (some f) f.leaseToken = true := by
  have hdomain := h.domain
  simp only [AttentionDomainFence.fencesDomainOf, Bool.and_eq_true, decide_eq_true_eq] at hdomain
  simp [attentionDomainFenceMatches, hdomain, h.leaseToken, h.leaseExpiresAt, h.attentionId]

/-- A lease that an Attention has owns its domain: only its end can fail it. -/
theorem assertAttentionLease_ok (hagree : DomainsAgree w.db) {a : Attention}
    (ha : a ∈ w.db.table Attention) (token : Option String) :
    (assertAttentionLease kernel a token w).1 = .ok () ↔
      truthy token = true ∧ a.handlerLeaseToken = token ∧
        ∃ expiresAt, a.handlerLeaseExpiresAt = some expiresAt ∧
          kernel.clock w.clockReadings < expiresAt := by
  constructor
  · intro h
    have hrun : assertAttentionLease kernel a token w =
        (.ok (), (assertAttentionLease kernel a token w).2) := Prod.ext h rfl
    simp only [assertAttentionLease, bind_eq_ok, throwIf_eq_ok, require_eq_ok,
      readClock_eq_ok] at hrun
    obtain ⟨_, _, ⟨hheld, rfl⟩, expiresAt, _, ⟨hexpires, rfl⟩, now, _, ⟨rfl, rfl⟩, _, _,
      ⟨hlive, rfl⟩, -⟩ := hrun
    simp only [not_or, not_not] at hheld
    exact ⟨hheld.1, hheld.2, expiresAt, hexpires, by simpa using hlive⟩
  · rintro ⟨htruthy, htoken, expiresAt, hexpires, hlive⟩
    have hsome : a.handlerLeaseToken.isSome = true := by
      rw [htoken]
      cases token with
      | none => cases htruthy
      | some _ => rfl
    obtain ⟨f, hf, hguards⟩ := hagree.owns a ha hsome
    have hmatches := hguards.matches'
    rw [hguards.leaseToken, htoken] at hmatches
    have hcurrent : isAttentionDomainLeaseCurrent a (token.getD "") w.tick =
        (.ok true, w.tick) := by
      rw [isAttentionDomainLeaseCurrent, bind_of_ok (selectRow_eq_ok.mpr ⟨rfl, rfl⟩),
        World.tick_db, fence_of_guards hf hguards, hexpires]
      cases token with
      | none => cases htruthy
      | some token => rw [Option.getD_some, hmatches]; rfl
    rw [assertAttentionLease,
      bind_of_ok ((throwIf_eq_ok (u := ())).mpr ⟨by simp [htruthy, htoken], rfl⟩),
      bind_of_ok (require_eq_ok.mpr ⟨hexpires, rfl⟩),
      bind_of_ok (readClock_eq_ok.mpr ⟨rfl, rfl⟩),
      bind_of_ok ((throwIf_eq_ok (u := ())).mpr ⟨by simpa using hlive, rfl⟩), bind_of_ok hcurrent]
    rfl

/-- What the domains are to their fences and to the Attentions that have a handler lease. -/
structure DomainsFenced (kernel : KernelContext) (w : World) : Prop where
  /-- An Attention with a handler lease is Open and has the fence of its domain. -/
  owned : ∀ a ∈ w.db.table Attention, a.handlerLeaseToken.isSome = true →
    a.status = .Open ∧ ∃ f ∈ w.db.table AttentionDomainFence, f.Guards a ∧
      f.leaseExpiresAt.isSome = true
  /-- A fence has the lease of the Attention it points to, which is Open if there is one. -/
  pointed : ∀ f ∈ w.db.table AttentionDomainFence, ∃ a ∈ w.db.table Attention, f.Guards a ∧
    (f.leaseToken.isSome = true → a.status = .Open)
  /-- One Attention of a domain has a handler lease at most. -/
  single : ∀ a ∈ w.db.table Attention, ∀ b ∈ w.db.table Attention,
    a.handlerLeaseToken.isSome = true → b.handlerLeaseToken.isSome = true →
      a.targetAgentId = b.targetAgentId → a.projectId = b.projectId →
        a.channelId = b.channelId → a.threadRootId = b.threadRootId → a = b
  /-- The Attention a fence points to never mismatches it. -/
  matched : ∀ f ∈ w.db.table AttentionDomainFence, ∀ a ∈ w.db.table Attention,
    a.id = f.attentionId → attentionDomainFenceMatches a (some f) f.leaseToken = true
  /-- A handler lease passes as long as it has not ended. -/
  accepted : ∀ a ∈ w.db.table Attention, ∀ token,
    (assertAttentionLease kernel a token w).1 = .ok () ↔
      truthy token = true ∧ a.handlerLeaseToken = token ∧
        ∃ expiresAt, a.handlerLeaseExpiresAt = some expiresAt ∧
          kernel.clock w.clockReadings < expiresAt

/-- In every reachable state the handler leases of Attentions are fenced by their domains. -/
theorem domains_fenced (h : Reachable kernel w) : DomainsFenced kernel w := by
  have hagree := h.domainsAgree
  refine ⟨?_, ?_, ?_, ?_, fun a ha => assertAttentionLease_ok hagree ha⟩
  · intro a ha hsome
    obtain ⟨f, hf, hguards⟩ := hagree.owns a ha hsome
    refine ⟨hagree.open' a ha hsome, f, hf, hguards, ?_⟩
    rw [hguards.leaseExpiresAt, ← hagree.expires a ha, hsome]
  · intro f hf
    obtain ⟨a, ha, hguards⟩ := hagree.points f hf
    exact ⟨a, ha, hguards, fun hsome => hagree.open' a ha (hguards.leaseToken ▸ hsome)⟩
  · intro a ha b hb hsomeA hsomeB hagent hproject hchannel hthread
    obtain ⟨f, hf, hguardsA⟩ := hagree.owns a ha hsomeA
    obtain ⟨f', hf', hguardsB⟩ := hagree.owns b hb hsomeB
    have hdomain : f'.fencesDomainOf a = true := by
      rw [AttentionDomainFence.fencesDomainOf, hagent, hproject, hchannel, hthread]
      exact hguardsB.domain
    have hsame : f = f' := fence_eq hf hf' hguardsA.domain hdomain
    exact attention_eq ha hb
      (hguardsA.attentionId.symm.trans (hsame ▸ hguardsB.attentionId))
  · intro f hf a ha hid
    obtain ⟨x, hx, hguards⟩ := hagree.points f hf
    rw [attention_eq ha hx (hid.trans hguards.attentionId)]
    exact hguards.matches'

end Runs

/-- The Attention that is handled has the one fence of its domain. -/
theorem handledWorld_fenced :
    DomainsFenced countingKernel handledWorld ∧
      (handledWorld.db.table AttentionDomainFence).rows.map (fun f =>
        (f.attentionId, f.leaseToken)) = [(issuedId 4, some (issuedId 9))] :=
  ⟨domains_fenced handledWorld_reachable, by decide +kernel⟩

end Torsor.Kernel
