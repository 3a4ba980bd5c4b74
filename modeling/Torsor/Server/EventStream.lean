import Torsor.Kernel.EventPages

/-! # The event stream of the server

The server writes the events of one page after another to an open response, and a checkpoint
when a page was scanned beyond the last event it shows. The connection may be cut after any
block; the client then asks again, with the last identifier it has received.
-/

namespace Torsor.Server

open Torsor.Library Torsor.Kernel LogReader

/-! ## Blocks -/

/-- What is written to the response at once. -/
inductive StreamBlock where
  | torsor (event : PublicEventEnvelope)
  | checkpoint (cursor : String)
  | heartbeat

/-- The `id:` line of the block. -/
def StreamBlock.id? : StreamBlock → Option String
  | .torsor event => some event.eventId
  | .checkpoint cursor => some cursor
  | .heartbeat => none

def StreamBlock.event? : StreamBlock → Option PublicEventEnvelope
  | .torsor event => some event
  | _ => none

/-- `cursor && cursor !== previousCursor && page.events.at(-1)?.eventId !== cursor`. -/
def needsCheckpoint (previousCursor : Option String) (page : AuthorizedPublicEventPage) : Bool :=
  truthy page.scannedThroughEventId && page.scannedThroughEventId ≠ previousCursor &&
    page.events.getLast?.map (·.eventId) ≠ page.scannedThroughEventId

/-- The blocks one page is written in. -/
def pageBlocks (previousCursor : Option String) (page : AuthorizedPublicEventPage) :
    List StreamBlock :=
  page.events.map .torsor ++
    if needsCheckpoint previousCursor page then
      [.checkpoint (page.scannedThroughEventId.getD "")]
    else []

/-! ## Connections -/

/-- The query of the URL and the authenticated context. -/
structure StreamRequest where
  projectId : String
  cursor : Option String
  batchSize : Int
  context : PrincipalContext

def StreamRequest.query (request : StreamRequest) (afterEventId : Option String) :
    PublicEventsQuery where
  projectId := request.projectId
  afterEventId
  limit := some request.batchSize

/-- An open response: the loop's cursor, the blocks of its page that are still to be written
and those that are on their way. -/
structure EventStream where
  cursor : Option String
  /-- `page.events.length === 0 && !page.hasMore`. -/
  idle : Bool
  pending : List StreamBlock
  sent : List StreamBlock

/-- The loop takes up a page: the cursor moves before the page is written. -/
def EventStream.take (sent : List StreamBlock) (previousCursor : Option String)
    (page : AuthorizedPublicEventPage) : EventStream where
  cursor := page.scannedThroughEventId
  idle := page.events.isEmpty && !page.hasMore
  pending := pageBlocks previousCursor page
  sent

/-- The Kernel, the connection if there is one, and what the client has. -/
structure Subscription where
  world : World
  stream : Option EventStream
  received : List PublicEventEnvelope
  lastEventId : Option String

namespace Subscription

/-- `headerCursor ?? explicitCursor ?? null`. -/
def cursor (request : StreamRequest) (s : Subscription) : Option String :=
  s.lastEventId.or request.cursor

def receive (s : Subscription) (block : StreamBlock) : Subscription :=
  { s with
    received := s.received ++ block.event?.toList
    lastEventId := block.id?.or s.lastEventId }

/-- Steps of the Kernel, the server, the network and the client. An expired session, an error
of the Kernel or a client that goes away cut the connection; a request that is refused, by
the check of its Project or by its first page, opens none. -/
inductive Step (kernel : KernelContext) (request : StreamRequest) (scope : PrincipalReadScope)
    (s : Subscription) : Subscription → Prop where
  | call (call : KernelCall) :
      Step kernel request scope s { s with world := Kernel.step kernel call s.world }
  | connect {page : AuthorizedPublicEventPage} {w : World} (hclosed : s.stream = none)
      (hpage : ReadsPage kernel (request.query (s.cursor request)) request.context scope s.world
        page w) :
      Step kernel request scope s
        { s with world := w, stream := some (.take [] (s.cursor request) page) }
  | write {stream : EventStream} {block : StreamBlock} {rest : List StreamBlock}
      (hopen : s.stream = some stream) (hpending : stream.pending = block :: rest) :
      Step kernel request scope s
        { s with
          stream := some { stream with pending := rest, sent := stream.sent ++ [block] } }
  | heartbeat {stream : EventStream} (hopen : s.stream = some stream)
      (hpending : stream.pending = []) (hidle : stream.idle = true) :
      Step kernel request scope s
        { s with stream := some { stream with sent := stream.sent ++ [.heartbeat] } }
  | poll {stream : EventStream} {page : AuthorizedPublicEventPage} {w : World}
      (hopen : s.stream = some stream) (hpending : stream.pending = [])
      (hpage : ReadsPage kernel (request.query stream.cursor) request.context scope s.world
        page w) :
      Step kernel request scope s
        { s with world := w, stream := some (.take stream.sent stream.cursor page) }
  | receive {stream : EventStream} {block : StreamBlock} {rest : List StreamBlock}
      (hopen : s.stream = some stream) (hsent : stream.sent = block :: rest) :
      Step kernel request scope s
        { s.receive block with stream := some { stream with sent := rest } }
  | cut : Step kernel request scope s { s with stream := none }

/-- Some sequence of steps leads from a state of the Kernel, before anything is received, to
`s`. -/
def Reachable (kernel : KernelContext) (request : StreamRequest) (scope : PrincipalReadScope)
    (s : Subscription) : Prop :=
  ∃ w, Kernel.Reachable kernel w ∧
    Relation.ReflTransGen (Step kernel request scope) ⟨w, none, [], none⟩ s

end Subscription

/-! ## What blocks carry -/

/-- A block on the wire, and what it means for a reader of the Project's log. -/
inductive Carries (db : Database) (projectId : String) : StreamBlock → Block PublicEvent → Prop
  | torsor {e : PublicEvent} (he : e ∈ projectLog db projectId) :
      Carries db projectId (.torsor (mapPublicEvent e)) ⟨some e.sequence, [e]⟩
  | checkpoint {e : PublicEvent} (he : e ∈ projectLog db projectId) :
      Carries db projectId (.checkpoint e.eventId) ⟨some e.sequence, []⟩
  | heartbeat : Carries db projectId .heartbeat ⟨none, []⟩

/-- From `p` on, the blocks of the connection carry all that is visible up to its cursor. -/
structure OnItsWay (db : Database) (projectId : String) (scope : PrincipalReadScope) (p : Nat)
    (stream : EventStream) : Prop where
  leads : ∃ blocks r q, List.Forall₂ (Carries db projectId) (stream.sent ++ stream.pending) blocks ∧
    Chain PublicEvent.sequence (projectLog db projectId) (PublicEvent.visibleIn db scope)
      p blocks r ∧
    r ≤ q ∧ Settled PublicEvent.sequence (projectLog db projectId) r ∧
    cursorSequence db projectId stream.cursor = some q ∧
    visibleBetween db projectId scope r q = []

section Carries

variable {db : Database} {w w' : World} {projectId : String} {scope : PrincipalReadScope}
  {block : StreamBlock} {meaning : Block PublicEvent} {p q r : Nat}

theorem Carries.grows (h : Carries w.db projectId block meaning) (hgrows : LogGrows w w') :
    Carries w'.db projectId block meaning := by
  obtain ⟨new, hnew⟩ := hgrows.projectLog projectId
  have hmem : ∀ e ∈ projectLog w.db projectId, e ∈ projectLog w'.db projectId := by
    intro e he
    rw [hnew]
    exact List.mem_append_left _ he
  cases h with
  | torsor he => exact .torsor (hmem _ he)
  | checkpoint he => exact .checkpoint (hmem _ he)
  | heartbeat => exact .heartbeat

theorem Carries.settled (h : Carries db projectId block meaning) {n : Nat}
    (hn : meaning.reached = some n) :
    Settled PublicEvent.sequence (projectLog db projectId) n := by
  cases h with
  | torsor he => exact .inr ⟨_, he, Option.some.inj hn⟩
  | checkpoint he => exact .inr ⟨_, he, Option.some.inj hn⟩
  | heartbeat => cases hn

theorem visibleBetween_eq :
    visibleBetween db projectId scope p q =
      (between PublicEvent.sequence (projectLog db projectId) p q).filter
        (PublicEvent.visibleIn db scope) :=
  filterVisiblePublicEvents_eq db _ scope

/-- The blocks of a page carry what is visible in its span. -/
theorem pageBlocks_carry {cursor : Option String} {page : AuthorizedPublicEventPage}
    (hs : LogSound db) (hspan : PageSpan db projectId scope p q page)
    (hcursor : cursorSequence db projectId cursor = some p) :
    ∃ blocks r, List.Forall₂ (Carries db projectId) (pageBlocks cursor page) blocks ∧
      Chain PublicEvent.sequence (projectLog db projectId) (PublicEvent.visibleIn db scope)
        p blocks r ∧
      r ≤ q ∧ Settled PublicEvent.sequence (projectLog db projectId) r ∧
      visibleBetween db projectId scope r q = [] := by
  have hordered := hs.projectLog_ordered projectId
  obtain ⟨r, hchain, hle, hnone⟩ : ∃ r, Chain PublicEvent.sequence (projectLog db projectId)
      (PublicEvent.visibleIn db scope) p
      (((between PublicEvent.sequence (projectLog db projectId) p q).filter
        (PublicEvent.visibleIn db scope)).map fun e => ⟨some e.sequence, [e]⟩) r ∧ r ≤ q ∧
      (between PublicEvent.sequence (projectLog db projectId) r q).filter
        (PublicEvent.visibleIn db scope) = [] := chain_page hordered hspan.forward rfl
  rw [← visibleBetween_eq] at hchain hnone
  have hmem : ∀ e ∈ visibleBetween db projectId scope p q, e ∈ projectLog db projectId := by
    intro e he
    rw [visibleBetween_eq] at he
    exact (mem_between.mp (List.mem_of_mem_filter he)).1
  have hevents : List.Forall₂ (Carries db projectId) (page.events.map .torsor)
      ((visibleBetween db projectId scope p q).map fun e => ⟨some e.sequence, [e]⟩) := by
    rw [hspan.events, List.map_map]
    apply List.forall₂_map_left_iff.mpr
    apply List.forall₂_map_right_iff.mpr
    apply List.forall₂_same.mpr
    intro e he
    exact .torsor (hmem e he)
  have hsettled : Settled PublicEvent.sequence (projectLog db projectId) r := by
    cases hlast : (visibleBetween db projectId scope p q).getLast? with
    | none =>
        rw [List.getLast?_eq_none_iff.mp hlast] at hchain
        cases hchain
        exact cursorSequence_settled hcursor
    | some last =>
        obtain ⟨before, hbefore⟩ := List.getLast?_eq_some_iff.mp hlast
        rw [hbefore, List.map_append] at hchain
        obtain ⟨m, -, hend⟩ := hchain.split
        cases hend with
        | cons hfirst hrest =>
            cases hrest
            rw [hfirst.target]
            exact .inr ⟨last, hmem last (hbefore ▸ by simp), rfl⟩
  unfold pageBlocks
  cases hcheckpoint : needsCheckpoint cursor page with
  | false =>
      refine ⟨_, r, ?_, hchain, hle, hsettled, hnone⟩
      rw [if_neg Bool.false_ne_true, List.append_nil]
      exact hevents
  | true =>
      simp only [needsCheckpoint, Bool.and_eq_true] at hcheckpoint
      obtain ⟨⟨hname, -⟩, -⟩ := hcheckpoint
      have hscanned := hspan.cursor
      rw [cursorSequence, if_pos hname] at hscanned
      obtain ⟨e, hfound, rfl⟩ := Option.map_eq_some_iff.mp hscanned
      obtain ⟨hin, hmatch⟩ := Table.find?_eq_some hfound
      simp only [Bool.and_eq_true, decide_eq_true_eq] at hmatch
      have he : e ∈ projectLog db projectId := mem_projectLog.mpr ⟨hin, hmatch.1⟩
      have hleads : Block.Leads PublicEvent.sequence (projectLog db projectId)
          (PublicEvent.visibleIn db scope) ⟨some e.sequence, []⟩ r e.sequence :=
        ⟨rfl, hle, by rw [← visibleBetween_eq, hnone]⟩
      have hcarries : Carries db projectId (.checkpoint (page.scannedThroughEventId.getD ""))
          ⟨some e.sequence, []⟩ := by
        rw [← hmatch.2]
        exact .checkpoint he
      rw [if_pos rfl]
      exact ⟨_, e.sequence, List.rel_append hevents (.cons hcarries .nil),
        hchain.append (.cons hleads (.nil _)), Nat.le_refl _, .inr ⟨e, he, rfl⟩, by simp⟩

theorem OnItsWay.grows {stream : EventStream} (h : OnItsWay w.db projectId scope p stream)
    (hgrows : LogGrows w w') (hs : LogSound w.db)
    (hp : Settled PublicEvent.sequence (projectLog w.db projectId) p) :
    OnItsWay w'.db projectId scope p stream := by
  obtain ⟨blocks, r, q, hcarries, hchain, hle, hr, hcursor, hnone⟩ := h.leads
  obtain ⟨new, hnew⟩ := hgrows.projectLog projectId
  have hordered := (hgrows.sound hs).projectLog_ordered projectId
  refine ⟨blocks, r, q, hcarries.imp fun _ _ hblock => hblock.grows hgrows, ?_, hle, ?_,
    hgrows.cursorSequence hcursor, ?_⟩
  · rw [hnew] at hordered ⊢
    apply Chain.extend hordered hr ?_ ?_ hp hchain
    · intro e he
      exact hgrows.visibleIn hs (mem_projectLog.mp he).1 scope
    · intro b hb n hn
      obtain ⟨block, -, hblock⟩ := forall₂_mem_right hcarries hb
      exact hblock.settled hn
  · rw [hnew]
    exact hr.extend
  · rw [hgrows.visibleBetween hs (cursorSequence_settled hcursor)]
    exact hnone

/-- Nothing is on its way once the blocks are received: what is visible has been delivered. -/
theorem OnItsWay.drained {stream : EventStream} (h : OnItsWay db projectId scope p stream)
    (hsent : stream.sent = []) (hpending : stream.pending = []) :
    ∃ q, cursorSequence db projectId stream.cursor = some q ∧ p ≤ q ∧
      visibleBetween db projectId scope p q = [] := by
  obtain ⟨blocks, r, q, hcarries, hchain, hle, -, hcursor, hnone⟩ := h.leads
  rw [hsent, hpending] at hcarries
  cases hcarries
  cases hchain
  exact ⟨q, hcursor, hle, hnone⟩

theorem OnItsWay.take {stream : EventStream} {page : AuthorizedPublicEventPage}
    (hs : LogSound db) (h : OnItsWay db projectId scope p stream) (hpending : stream.pending = [])
    (hcursor : cursorSequence db projectId stream.cursor = some q)
    (hspan : PageSpan db projectId scope q r page) :
    OnItsWay db projectId scope p (.take stream.sent stream.cursor page) := by
  obtain ⟨blocks, m, q', hcarries, hchain, hle, hm, hcursor', hnone⟩ := h.leads
  obtain rfl : q = q' := Option.some.inj (hcursor.symm.trans hcursor')
  obtain ⟨later, n, hlater, hlaterChain, hend, hn, hrest⟩ := pageBlocks_carry hs hspan hcursor
  rw [hpending, List.append_nil] at hcarries
  rw [visibleBetween_eq] at hnone
  obtain ⟨n', hearlier, hends, hn', hskipped⟩ :=
    hlaterChain.from_earlier (hs.projectLog_ordered projectId) hle hnone
  rw [← visibleBetween_eq] at hskipped
  have hsettled : Settled PublicEvent.sequence (projectLog db projectId) n' := by
    cases hends with
    | inl heq => exact heq ▸ hm
    | inr heq => exact heq ▸ hn
  refine ⟨blocks ++ later, n', r, List.rel_append hcarries hlater, hchain.append hearlier,
    Nat.le_trans hn' hend, hsettled, hspan.cursor, ?_⟩
  rw [← visibleBetween_append hs hn' hend, hskipped, hrest, List.nil_append]

/-- The first block takes the reader on, with what it carries. -/
theorem OnItsWay.receive {stream : EventStream} {rest : List StreamBlock}
    {cursor : Option String} (hs : LogSound db) (h : OnItsWay db projectId scope p stream)
    (hsent : stream.sent = block :: rest) (hcursor : cursorSequence db projectId cursor = some p) :
    ∃ p', p ≤ p' ∧
      block.event?.toList = (visibleBetween db projectId scope p p').map mapPublicEvent ∧
      cursorSequence db projectId (block.id?.or cursor) = some p' ∧
      OnItsWay db projectId scope p' { stream with sent := rest } := by
  obtain ⟨blocks, r, q, hcarries, hchain, hle, hr, hend, hnone⟩ := h.leads
  rw [hsent, List.cons_append] at hcarries
  cases hcarries with
  | @cons _ meaning _ later hblock hlater =>
      cases hchain with
      | @cons _ p' _ _ _ hleads hrest =>
          have hway : OnItsWay db projectId scope p' { stream with sent := rest } :=
            ⟨later, r, q, hlater, hrest, hle, hr, hend, hnone⟩
          have hentries := hleads.entries
          rw [← visibleBetween_eq] at hentries
          refine ⟨p', hleads.forward, ?_, ?_, hway⟩
          · rw [← hentries]
            cases hblock <;> rfl
          · rw [hleads.target]
            cases hblock with
            | torsor he => exact cursorSequence_of_mem hs he
            | checkpoint he => exact cursorSequence_of_mem hs he
            | heartbeat => exact hcursor

end Carries

/-! ## Subscriptions -/

namespace Subscription

variable {kernel : KernelContext} {request : StreamRequest} {scope : PrincipalReadScope}
  {s s' : Subscription}

/-- The client has what is visible up to where it stands, and the connection, if there is
one, goes on from there. -/
structure Inv (request : StreamRequest) (scope : PrincipalReadScope) (s : Subscription) :
    Prop where
  sound : LogSound s.world.db
  given : GivenInOrder s.world.db request.projectId scope request.cursor (s.cursor request)
    s.received
  onItsWay : ∀ stream, s.stream = some stream → ∃ p,
    cursorSequence s.world.db request.projectId (s.cursor request) = some p ∧
      OnItsWay s.world.db request.projectId scope p stream

theorem Inv.grows {w : World} (h : Inv request scope s) (hgrows : LogGrows s.world w) :
    Inv request scope { s with world := w } where
  sound := hgrows.sound h.sound
  given := h.given.grows hgrows h.sound
  onItsWay stream hopen := by
    obtain ⟨p, hp, hway⟩ := h.onItsWay stream hopen
    exact ⟨p, hgrows.cursorSequence hp, hway.grows hgrows h.sound (cursorSequence_settled hp)⟩

theorem Step.inv (h : Step kernel request scope s s') (hi : Inv request scope s) :
    Inv request scope s' := by
  cases h with
  | call call => exact hi.grows (step_logGrows kernel call s.world)
  | @connect page w hclosed hpage =>
      have hdb := hpage.page_eq.1
      obtain ⟨p, q, hp, hspan⟩ := hpage.span hi.sound
      obtain ⟨blocks, r, hcarries, hchain, hle, hr, hnone⟩ := pageBlocks_carry hi.sound hspan hp
      refine ⟨hdb ▸ hi.sound, hdb ▸ hi.given, ?_⟩
      intro stream hopen
      cases hopen
      refine ⟨p, hdb ▸ hp, ⟨blocks, r, q, ?_⟩⟩
      rw [hdb]
      exact ⟨hcarries, hchain, hle, hr, hspan.cursor, hnone⟩
  | @write stream block rest hopen hpending =>
      obtain ⟨p, hp, hway⟩ := hi.onItsWay stream hopen
      refine ⟨hi.sound, hi.given, ?_⟩
      intro stream' hopen'
      cases hopen'
      obtain ⟨blocks, r, q, hcarries, hrest⟩ := hway.leads
      refine ⟨p, hp, ⟨blocks, r, q, ?_, hrest⟩⟩
      rw [hpending] at hcarries
      simpa using hcarries
  | @heartbeat stream hopen hpending hidle =>
      obtain ⟨p, hp, hway⟩ := hi.onItsWay stream hopen
      refine ⟨hi.sound, hi.given, ?_⟩
      intro stream' hopen'
      cases hopen'
      obtain ⟨blocks, r, q, hcarries, hchain, hrest⟩ := hway.leads
      rw [hpending, List.append_nil] at hcarries
      have hbeat : Block.Leads PublicEvent.sequence
          (projectLog s.world.db request.projectId) (PublicEvent.visibleIn s.world.db scope)
          ⟨none, []⟩ r r := ⟨rfl, Nat.le_refl r, by simp⟩
      refine ⟨p, hp, ⟨blocks ++ [⟨none, []⟩], r, q, ?_, ?_, hrest⟩⟩
      · rw [hpending, List.append_nil]
        exact List.rel_append hcarries (.cons .heartbeat .nil)
      · exact hchain.append (.cons hbeat (.nil r))
  | @poll stream page w hopen hpending hpage =>
      have hdb := hpage.page_eq.1
      obtain ⟨p, hp, hway⟩ := hi.onItsWay stream hopen
      obtain ⟨q, r, hq, hspan⟩ := hpage.span hi.sound
      refine ⟨hdb ▸ hi.sound, hdb ▸ hi.given, ?_⟩
      intro stream' hopen'
      cases hopen'
      refine ⟨p, hdb ▸ hp, ?_⟩
      rw [hdb]
      exact hway.take hi.sound hpending hq hspan
  | @receive stream block rest hopen hsent =>
      obtain ⟨p, hp, hway⟩ := hi.onItsWay stream hopen
      obtain ⟨p', hle, hevents, hcursor, hrest⟩ := hway.receive hi.sound hsent hp
      have hstands : (s.receive block).cursor request = block.id?.or (s.cursor request) :=
        Option.or_assoc
      refine ⟨hi.sound, ?_, ?_⟩
      · constructor
        · intro hnone
          rw [(hi.given.unresolved hnone).2] at hp
          cases hp.symm.trans hnone
        · intro start hstart
          obtain ⟨q, hq, hfrom, hreceived⟩ := hi.given.given start hstart
          obtain rfl : p = q := Option.some.inj (hp.symm.trans hq)
          refine ⟨p', (congrArg _ hstands).trans hcursor, Nat.le_trans hfrom hle, ?_⟩
          show s.received ++ block.event?.toList =
            (visibleBetween s.world.db request.projectId scope start p').map mapPublicEvent
          rw [hreceived, hevents, ← List.map_append, visibleBetween_append hi.sound hfrom hle]
      · intro stream' hopen'
        cases hopen'
        exact ⟨p', (congrArg _ hstands).trans hcursor, hrest⟩
  | cut => exact ⟨hi.sound, hi.given, fun _ hopen => nomatch hopen⟩

theorem Reachable.inv (h : Reachable kernel request scope s) : Inv request scope s := by
  obtain ⟨w, hw, hrun⟩ := h
  induction hrun with
  | refl => exact ⟨hw.logSound, .start w.db, fun _ hopen => nomatch hopen⟩
  | tail _ hstep ih => exact hstep.inv ih

/-- What the client of the stream has received: the visible events of the Project after its
first cursor up to where it stands, and all of them once the stream has caught up. -/
structure InOrder (kernel : KernelContext) (request : StreamRequest)
    (scope : PrincipalReadScope) (s : Subscription) : Prop where
  given : GivenInOrder s.world.db request.projectId scope request.cursor (s.cursor request)
    s.received
  caughtUp : ∀ start stream page w,
    cursorSequence s.world.db request.projectId request.cursor = some start →
    s.stream = some stream → stream.sent = [] → stream.pending = [] →
    ReadsPage kernel (request.query stream.cursor) request.context scope s.world page w →
    page.events = [] → page.hasMore = false →
    s.received =
      (visibleAfter s.world.db request.projectId scope start).map mapPublicEvent

theorem Inv.inOrder (h : Inv request scope s) : InOrder kernel request scope s where
  given := h.given
  caughtUp start stream page w hstart hopen hsent hpending hpage hempty hlast := by
    obtain ⟨p, hp, hway⟩ := h.onItsWay stream hopen
    obtain ⟨q, hq, hle, hdelivered⟩ := hway.drained hsent hpending
    obtain ⟨q', r, hq', hspan⟩ := hpage.span h.sound
    obtain rfl : q = q' := Option.some.inj (hq.symm.trans hq')
    obtain ⟨p', hp', hfrom, hreceived⟩ := h.given.given start hstart
    obtain rfl : p = p' := Option.some.inj (hp.symm.trans hp')
    have hnone : visibleBetween s.world.db request.projectId scope q r = [] := by
      have hevents := hspan.events
      rw [hempty] at hevents
      exact List.map_eq_nil_iff.mp hevents.symm
    have hend : visibleAfter s.world.db request.projectId scope r = [] := hspan.last hlast
    have hrest : visibleAfter s.world.db request.projectId scope p = [] := by
      rw [← visibleBetween_append_after h.sound hle, hdelivered,
        ← visibleBetween_append_after h.sound hspan.forward, hnone, hend]
      rfl
    rw [hreceived, ← visibleBetween_append_after h.sound hfrom, hrest, List.append_nil]

end Subscription

/-! ## Delivery -/

/-- Public events are delivered exactly once, in order, by the pages and by the stream. -/
structure ExactlyOnce (kernel : KernelContext) : Prop where
  pages : ∀ {context projectId scope w cursor events w' cursor'}, Kernel.Reachable kernel w →
    Follows kernel context projectId scope w cursor events w' cursor' →
    GivenInOrder w'.db projectId scope cursor cursor' events
  lastPage : ∀ {context projectId scope w cursor events w' cursor' limit page w'' start},
    Kernel.Reachable kernel w →
    Follows kernel context projectId scope w cursor events w' cursor' →
    ReadsPage kernel ⟨projectId, cursor', limit⟩ context scope w' page w'' →
    page.hasMore = false → cursorSequence w'.db projectId cursor = some start →
    events ++ page.events = (visibleAfter w''.db projectId scope start).map mapPublicEvent
  stream : ∀ {request scope s}, Subscription.Reachable kernel request scope s →
    s.InOrder kernel request scope

end Torsor.Server
