import Torsor.Kernel.AttentionOrder

/-! # Dispatch of Attentions

Hosts list the Attentions that are Open, in whatever pages, and dispatch what they have
listed, in whatever order. A dispatch looks for an earlier Attention of its Agent and Thread,
and claims its own some time later.
-/

namespace Torsor.AgentRuntime

open Torsor.Library Torsor.Kernel Tx

/-! ## The check -/

def hasEarlierOpenAttention (kernel : KernelContext) (runtimeContext : PrincipalContext)
    (attention : AttentionView) : K Bool := do
  let projection ← queryThreadProjection kernel attention.threadRootId runtimeContext
  pure (projection.attentions.any fun candidate =>
    candidate.targetAgentId = attention.targetAgentId && candidate.status = .Open &&
      candidate.cursor < attention.cursor)

/-! ## Hosts -/

/-- Where `#dispatchAttention` awaits: before its check, or between the check and the claim. -/
inductive DispatchPhase where
  | correlating | claiming
  deriving DecidableEq, Repr

structure AttentionDispatch where
  attention : AttentionView
  phase : DispatchPhase

/-- One Kernel, and what all the hosts on it have listed and are dispatching. -/
structure DispatchSystem where
  world : World
  discovered : List AttentionView
  dispatches : List AttentionDispatch

namespace DispatchSystem

inductive Step (kernel : KernelContext) (s : DispatchSystem) : DispatchSystem → Prop where
  /-- Anyone calls the Kernel, but only a dispatch claims an Attention. -/
  | call (call : KernelCall) (hclaims : call.claims = none) :
      Step kernel s { s with world := step kernel call s.world }
  | discover (query : AttentionQuery) (context : PrincipalContext) (page : AttentionPage)
      (world : World) (hpage : queryOpenAttentions query context s.world = (.ok page, world)) :
      Step kernel s { s with world, discovered := s.discovered ++ page.items }
  | dispatch (attention : AttentionView) (hdiscovered : attention ∈ s.discovered) :
      Step kernel s { s with dispatches := ⟨attention, .correlating⟩ :: s.dispatches }
  | check (n : Nat) (attention : AttentionView)
      (hdispatch : s.dispatches[n]? = some ⟨attention, .correlating⟩)
      (context : PrincipalContext) (blocked : Bool) (world : World)
      (hcheck : hasEarlierOpenAttention kernel context attention s.world = (.ok blocked, world)) :
      Step kernel s { s with
        world
        dispatches :=
          if blocked then s.dispatches.eraseIdx n
          else s.dispatches.set n ⟨attention, .claiming⟩ }
  | claim (n : Nat) (attention : AttentionView)
      (hdispatch : s.dispatches[n]? = some ⟨attention, .claiming⟩) (idempotencyKey : String)
      (leaseDurationMs : Int) (context : PrincipalContext)
      (operationContext : Option KernelOperationContext) :
      Step kernel s { s with
        world := step kernel
          (.execute
            (.ClaimAttention
              { idempotencyKey
                attentionId := attention.id
                expectedAttentionRevision := attention.revision
                leaseDurationMs })
            context operationContext)
          s.world
        dispatches := s.dispatches.eraseIdx n }
  /-- A dispatch fails, or its host ends. -/
  | stop (n : Nat) : Step kernel s { s with dispatches := s.dispatches.eraseIdx n }

/-- The states of the hosts on a Kernel that has just been opened, and all later ones. -/
inductive Reachable (kernel : KernelContext) : DispatchSystem → Prop where
  | opened {w : World} (hopened : Opened kernel w) : Reachable kernel ⟨w, [], []⟩
  | step {s s' : DispatchSystem} (hreached : Reachable kernel s) (hstep : Step kernel s s') :
      Reachable kernel s'

end DispatchSystem

/-! ## What the queries show -/

/-- The view shows an Attention of the database, at its place in the order. -/
def Shows (db : Database) (attention : AttentionView) : Prop :=
  ∃ r ∈ db.table Attention, r.id = attention.id ∧ r.sequence = attention.cursor ∧
    r.targetAgentId = attention.targetAgentId ∧ r.threadRootId = attention.threadRootId

/-- Nothing earlier than the view is Open for its Agent in its Thread. -/
def ComesFirst (db : Database) (attention : AttentionView) : Prop :=
  NoneEarlier db attention.targetAgentId attention.threadRootId attention.cursor

section Queries

variable {R : World → World → Prop} [IsPreorder World R] [ConcernsTables R [.attentions]]

instance (query : AttentionQuery) (principal : Principal) :
    Within R (agentAttentionQuery query principal) := by
  unfold agentAttentionQuery
  infer_instance

instance (query : AttentionQuery) (principal : Principal) :
    Within R (otherAttentionQuery query principal) := by
  unfold otherAttentionQuery
  infer_instance

end Queries

section Views

variable {kernel : KernelContext} {context : PrincipalContext} {attention : AttentionView}
  {claimed : Option String} {w w' : World}

theorem Shows.moves (h : Shows w.db attention) (hmove : AttentionsMove claimed w w') :
    Shows w'.db attention := by
  obtain ⟨r, hr, hid, hsequence, hagent, hthread⟩ := h
  obtain ⟨r', hr', horigin⟩ := hmove.kept r hr
  obtain ⟨hagent', hthread'⟩ := Attention.origin_domain horigin
  exact ⟨r', hr', (Attention.origin_id horigin).trans hid,
    (Attention.origin_sequence horigin).trans hsequence, hagent'.trans hagent,
    hthread'.trans hthread⟩

theorem ComesFirst.moves (h : ComesFirst w.db attention) (hshows : Shows w.db attention)
    (hmove : AttentionsMove claimed w w') : ComesFirst w'.db attention := by
  obtain ⟨r, hr, -, hsequence, hagent, hthread⟩ := hshows
  unfold ComesFirst at h ⊢
  rw [← hsequence, ← hagent, ← hthread] at h ⊢
  exact hmove.noneEarlier hr h

/-- A page lists Attentions of the database. -/
theorem listOpenAttentions_shows {db : Database} {projectId targetAgentId : Option String}
    {afterCursor : Int} {snapshotEventSequence : Nat} {snapshotEventId : Option String}
    {limit : Nat}
    (hlisted : attention ∈ (listOpenAttentions db projectId targetAgentId afterCursor
      snapshotEventSequence snapshotEventId limit).items) : Shows db attention := by
  obtain ⟨r, hr, rfl⟩ := List.mem_map.mp hlisted
  have hrow := List.mem_of_mem_take (List.mem_of_mem_take hr)
  simp only [openAttentionRows, mem_orderBy, List.mem_filter, rowsAt, List.mem_filterMap] at hrow
  obtain ⟨⟨stored, hstored, hversion⟩, -⟩ := hrow
  obtain ⟨version, -, rfl⟩ := Option.map_eq_some_iff.mp hversion
  exact ⟨stored, (Table.mem_filter.mp hstored).1, rfl, rfl, rfl, rfl⟩

theorem queryOpenAttentions_shows {query : AttentionQuery} {page : AttentionPage}
    (hpage : queryOpenAttentions query context w = (.ok page, w'))
    (hlisted : attention ∈ page.items) : Shows w.db attention := by
  have hrun := queryTransaction_eq_ok hpage
  simp only [bind_eq_ok, requirePrincipal_eq_ok, boundedLimit_eq_ok, gets_eq_ok] at hrun
  obtain ⟨principal, _, ⟨-, rfl⟩, found, w₁, hfound, limit, _, ⟨-, -, rfl⟩, rfl, rfl⟩ := hrun
  have hread : SameDatabase w w₁ := Within.of_eq hfound
  exact hread ▸ listOpenAttentions_shows hlisted

/-- The check finds nothing earlier only where nothing earlier is Open. -/
theorem hasEarlierOpenAttention_comesFirst
    (hcheck : hasEarlierOpenAttention kernel context attention w = (.ok false, w')) :
    ComesFirst w.db attention := by
  simp only [hasEarlierOpenAttention, bind_eq_ok, pure_eq_ok] at hcheck
  obtain ⟨projection, w₁, hprojection, hnone, -⟩ := hcheck
  have hrun := queryTransaction_eq_ok hprojection
  simp only [bind_eq_ok, requirePrincipal_eq_ok, requireThread, requireRow_eq_ok,
    getThreadProjection, gets_eq_ok] at hrun
  obtain ⟨principal, _, ⟨-, rfl⟩, thread, _, ⟨-, rfl⟩, _, w₂, haccess, scope, w₃, hscope,
    thread', _, ⟨hthread, rfl⟩, rfl, rfl⟩ := hrun
  have hread : SameDatabase w w₃ :=
    trans_of SameDatabase (Within.of_eq haccess) (Within.of_eq hscope)
  obtain ⟨-, hroot⟩ := Table.find?_eq_some hthread
  intro a ha hagent hthreadRoot hopen
  by_contra hearlier
  have hlisted : mapAttention a ∈ (threadProjection w₃.db thread' scope).attentions := by
    simp only [threadProjection, List.mem_map, mem_orderByPair, Table.mem_filter]
    refine ⟨a, ⟨hread ▸ ha, ?_⟩, rfl⟩
    exact decide_eq_true (hthreadRoot.trans (of_decide_eq_true hroot).symm)
  rw [List.any_eq_false] at hnone
  apply hnone _ hlisted
  simp [mapAttention, hagent, hopen]
  omega

end Views

/-! ## Order of the claims -/

namespace DispatchSystem

/-- What every dispatch is about exists, and what a dispatch is about to claim comes first. -/
structure Inv (s : DispatchSystem) : Prop where
  order : AttentionsInOrder s.world.db
  discovered : ∀ attention ∈ s.discovered, Shows s.world.db attention
  dispatched : ∀ d ∈ s.dispatches, Shows s.world.db d.attention
  claiming : ∀ d ∈ s.dispatches, d.phase = .claiming → ComesFirst s.world.db d.attention

variable {kernel : KernelContext} {s s' : DispatchSystem}

theorem Inv.opened {w : World} (hopened : Opened kernel w) : Inv ⟨w, [], []⟩ where
  order := by
    have hframe : Frame [.attentions] World.blank w := hopened.frame
    have hnone : w.db.table Attention = World.blank.db.table Attention :=
      hframe.table_eq Attention (by decide)
    intro a ha
    have hblank : a ∈ World.blank.db.table Attention := hnone ▸ ha
    cases hblank
  discovered := by simp
  dispatched := by simp
  claiming := by simp

/-- The Kernel moves under the hosts. -/
theorem Inv.moves {claimed : Option String} {world : World} (hi : Inv s)
    (hmove : AttentionsMove claimed s.world world)
    (hclaimed : ∀ id, claimed = some id → ∃ r ∈ s.world.db.table Attention, r.id = id ∧
      NoneEarlier s.world.db r.targetAgentId r.threadRootId r.sequence) :
    Inv { s with world } where
  order := hmove.inOrder hi.order hclaimed
  discovered attention hmem := (hi.discovered attention hmem).moves hmove
  dispatched d hmem := (hi.dispatched d hmem).moves hmove
  claiming d hmem hphase := (hi.claiming d hmem hphase).moves (hi.dispatched d hmem) hmove

theorem Inv.erase (n : Nat) (hi : Inv s) : Inv { s with dispatches := s.dispatches.eraseIdx n } :=
  { hi with
    dispatched := fun d hmem => hi.dispatched d (List.mem_of_mem_eraseIdx hmem)
    claiming := fun d hmem => hi.claiming d (List.mem_of_mem_eraseIdx hmem) }

theorem Inv.step (hi : Inv s) (hstep : Step kernel s s') : Inv s' := by
  cases hstep with
  | call call hclaims =>
      have hmove := step_attentionsMove kernel call s.world
      rw [hclaims] at hmove
      exact hi.moves hmove (by simp)
  | discover query context page world hpage =>
      have hmove : AttentionsMove none s.world world := by
        have hwithin : Within (AttentionsMove none) (queryOpenAttentions query context) := by
          unfold queryOpenAttentions
          infer_instance
        exact Within.of_eq hpage
      have hmoved := hi.moves hmove (by simp)
      refine { hmoved with discovered := ?_ }
      intro attention hmem
      cases List.mem_append.mp hmem with
      | inl hbefore => exact hmoved.discovered attention hbefore
      | inr hlisted => exact (queryOpenAttentions_shows hpage hlisted).moves hmove
  | dispatch attention hdiscovered =>
      refine { hi with dispatched := ?_, claiming := ?_ }
      · intro d hmem
        cases List.mem_cons.mp hmem with
        | inl hfirst =>
            subst hfirst
            exact hi.discovered attention hdiscovered
        | inr hrest => exact hi.dispatched d hrest
      · intro d hmem hphase
        cases List.mem_cons.mp hmem with
        | inl hfirst =>
            rw [hfirst] at hphase
            cases hphase
        | inr hrest => exact hi.claiming d hrest hphase
  | check n attention hdispatch context blocked world hcheck =>
      have hmove : AttentionsMove none s.world world := by
        have hwithin : Within (AttentionsMove none)
            (hasEarlierOpenAttention kernel context attention) := by
          unfold hasEarlierOpenAttention queryThreadProjection
          infer_instance
        exact Within.of_eq hcheck
      have hmoved := hi.moves hmove (by simp)
      have hmem : ⟨attention, .correlating⟩ ∈ s.dispatches := List.mem_of_getElem? hdispatch
      have hshows : Shows s.world.db attention := hi.dispatched _ hmem
      cases blocked with
      | true => exact hmoved.erase n
      | false =>
          have hfirst := (hasEarlierOpenAttention_comesFirst hcheck).moves hshows hmove
          refine { hmoved with dispatched := ?_, claiming := ?_ }
          · intro d hd
            cases List.mem_or_eq_of_mem_set hd with
            | inl hrest => exact hmoved.dispatched d hrest
            | inr hnew =>
                subst hnew
                exact hshows.moves hmove
          · intro d hd hphase
            cases List.mem_or_eq_of_mem_set hd with
            | inl hrest => exact hmoved.claiming d hrest hphase
            | inr hnew =>
                subst hnew
                exact hfirst
  | claim n attention hdispatch idempotencyKey leaseDurationMs context operationContext =>
      have hmem : ⟨attention, .claiming⟩ ∈ s.dispatches := List.mem_of_getElem? hdispatch
      obtain ⟨r, hr, hid, hsequence, hagent, hthread⟩ := hi.dispatched _ hmem
      have hfirst := hi.claiming _ hmem rfl
      have hmove := step_attentionsMove kernel (.execute (.ClaimAttention
        { idempotencyKey
          attentionId := attention.id
          expectedAttentionRevision := attention.revision
          leaseDurationMs }) context operationContext) s.world
      refine (hi.moves hmove ?_).erase n
      intro id hclaims
      obtain rfl : attention.id = id := Option.some.inj hclaims
      refine ⟨r, hr, hid, ?_⟩
      rw [hsequence, hagent, hthread]
      exact hfirst
  | stop n => exact hi.erase n

theorem Reachable.inv (h : Reachable kernel s) : Inv s := by
  induction h with
  | opened hopened => exact Inv.opened hopened
  | step _ hstep ih => exact ih.step hstep

end DispatchSystem

/-- Whenever a dispatch claims an Attention, no earlier one of its Agent and Thread is Open;
and what has a handler lease or is decided has only decided ones before it. -/
structure ClaimsInOrder (kernel : KernelContext) : Prop where
  claims : ∀ s, DispatchSystem.Reachable kernel s → ∀ d ∈ s.dispatches, d.phase = .claiming →
    ∀ a ∈ s.world.db.table Attention, a.targetAgentId = d.attention.targetAgentId →
      a.threadRootId = d.attention.threadRootId → a.status = .Open →
      d.attention.cursor ≤ a.sequence
  decisions : ∀ s, DispatchSystem.Reachable kernel s →
    ∀ a ∈ s.world.db.table Attention, ∀ b ∈ s.world.db.table Attention,
      a.targetAgentId = b.targetAgentId → a.threadRootId = b.threadRootId →
      a.sequence < b.sequence → b.handlerLeaseToken.isSome = true ∨ b.status ≠ .Open →
      a.status ≠ .Open

/-- Attentions are claimed and decided in order, whatever the hosts list and dispatch. -/
theorem attentions_claimed_in_order (kernel : KernelContext) : ClaimsInOrder kernel where
  claims s hreached d hd hphase a ha hagent hthread hopen :=
    hreached.inv.claiming d hd hphase a ha hagent hthread hopen
  decisions s hreached a ha b hb hagent hthread hlt hhandled := by
    apply hreached.inv.order a ha b hb hagent hthread hlt
    cases hhandled with
    | inl hleased => simp [Attention.handled, hleased]
    | inr hdecided => simp [Attention.handled, hdecided]

end Torsor.AgentRuntime
