import Torsor.Kernel.EventLog

/-! # Pages of public events

A page is scanned from a cursor on, and names the event the next page starts after, seen or
not. Whoever follows the pages is given the visible events of the Project after the first
cursor, each once and in order, whatever commits in the meantime.
-/

namespace Torsor.Kernel

open Torsor.Library Tx LogReader

/-! ## Cursors -/

/-- The events of a Project. -/
def projectLog (db : Database) (projectId : String) : List PublicEvent :=
  (db.table PublicEvent).filter fun r => r.projectId = projectId

/-- The sequence a cursor stands for, if it names an event of the Project. -/
def cursorSequence (db : Database) (projectId : String) (cursor : Option String) : Option Nat :=
  if truthy cursor then
    ((db.table PublicEvent).find? fun r =>
      r.projectId = projectId && r.eventId = cursor.getD "").map (·.sequence)
  else some 0

/-- The events of the Project after one sequence, up to another, that the scope shows. -/
def visibleBetween (db : Database) (projectId : String) (scope : PrincipalReadScope)
    (p q : Nat) : List PublicEvent :=
  filterVisiblePublicEvents db (between PublicEvent.sequence (projectLog db projectId) p q) scope

/-- All the events of the Project after a sequence that the scope shows. -/
def visibleAfter (db : Database) (projectId : String) (scope : PrincipalReadScope) (p : Nat) :
    List PublicEvent :=
  filterVisiblePublicEvents db (after PublicEvent.sequence (projectLog db projectId) p) scope

section Cursors

variable {db : Database} {w w' : World} {projectId : String} {scope : PrincipalReadScope}
  {cursor : Option String} {e : PublicEvent} {p q n : Nat}

theorem mem_projectLog :
    e ∈ projectLog db projectId ↔ e ∈ db.table PublicEvent ∧ e.projectId = projectId := by
  simp [projectLog, Table.mem_filter]

theorem LogSound.projectLog_ordered (h : LogSound db) (projectId : String) :
    Ordered PublicEvent.sequence (projectLog db projectId) :=
  List.Pairwise.filter _ h.ordered

theorem cursorSequence_of_mem (h : LogSound db) (he : e ∈ projectLog db projectId) :
    cursorSequence db projectId (some e.eventId) = some e.sequence := by
  obtain ⟨hmem, hproject⟩ := mem_projectLog.mp he
  have hname : truthy (some e.eventId) = true := by simp [truthy, (h.issued e hmem).2]
  have hfound : (db.table PublicEvent).find?
      (fun r => r.projectId = projectId && r.eventId = e.eventId) = some e := by
    apply Table.find?_of_mem hmem
    · simp [hproject]
    · intro x hx
      simp only [Bool.and_eq_true, decide_eq_true_eq] at hx
      exact ⟨⟨1, [.text x.eventId]⟩, by simp [Keyed.keys], by simp [Keyed.keys, hx.2]⟩
  rw [cursorSequence, if_pos hname, Option.getD_some, hfound, Option.map_some]

theorem cursorSequence_settled (h : cursorSequence db projectId cursor = some q) :
    Settled PublicEvent.sequence (projectLog db projectId) q := by
  unfold cursorSequence at h
  by_cases hname : truthy cursor
  · rw [if_pos hname] at h
    obtain ⟨e, hfound, rfl⟩ := Option.map_eq_some_iff.mp h
    obtain ⟨hmem, hmatch⟩ := Table.find?_eq_some hfound
    simp only [Bool.and_eq_true, decide_eq_true_eq] at hmatch
    exact .inr ⟨e, mem_projectLog.mpr ⟨hmem, hmatch.1⟩, rfl⟩
  · rw [if_neg hname] at h
    exact .inl (Option.some.inj h).symm

theorem afterEventSequence_eq_ok :
    afterEventSequence projectId cursor w = (.ok n, w') ↔
      cursorSequence w.db projectId cursor = some n ∧ w = w' := by
  unfold afterEventSequence cursorSequence projectEventSequence
  split
  · simp only [bind_eq_ok, requireRow_eq_ok, pure_eq_ok, Option.map_eq_some_iff]
    constructor
    · rintro ⟨e, _, ⟨hfound, rfl⟩, rfl, rfl⟩
      exact ⟨⟨e, hfound, rfl⟩, rfl⟩
    · rintro ⟨⟨e, hfound, rfl⟩, rfl⟩
      exact ⟨e, w, ⟨hfound, rfl⟩, rfl, rfl⟩
  · simp

/-! ### Growth -/

theorem LogGrows.projectLog (h : LogGrows w w') (projectId : String) :
    ∃ new, projectLog w'.db projectId = Kernel.projectLog w.db projectId ++ new := by
  obtain ⟨new, hnew⟩ := h.events
  refine ⟨new.filter fun r => r.projectId = projectId, ?_⟩
  unfold Kernel.projectLog Table.filter
  rw [hnew.rows, List.filter_append]

theorem LogGrows.cursorSequence (h : LogGrows w w')
    (hcursor : cursorSequence w.db projectId cursor = some n) :
    Kernel.cursorSequence w'.db projectId cursor = some n := by
  unfold Kernel.cursorSequence at hcursor ⊢
  by_cases hname : truthy cursor
  · rw [if_pos hname] at hcursor ⊢
    obtain ⟨e, hfound, rfl⟩ := Option.map_eq_some_iff.mp hcursor
    obtain ⟨new, hnew⟩ := h.events
    have hlater : (w'.db.table PublicEvent).find? (fun r =>
        r.projectId = projectId && r.eventId = cursor.getD "") = some e := by
      unfold Table.find? at hfound ⊢
      rw [hnew.rows, List.find?_append, hfound, Option.some_or]
    rw [hlater, Option.map_some]
  · rw [if_neg hname] at hcursor ⊢
    exact hcursor

/-- What is visible up to a cursor stays as it is. -/
theorem LogGrows.visibleBetween (h : LogGrows w w') (hs : LogSound w.db)
    (hq : Settled PublicEvent.sequence (Kernel.projectLog w.db projectId) q) :
    visibleBetween w'.db projectId scope p q = Kernel.visibleBetween w.db projectId scope p q := by
  obtain ⟨new, hnew⟩ := h.projectLog projectId
  have hordered := (h.sound hs).projectLog_ordered projectId
  unfold Kernel.visibleBetween
  rw [hnew] at hordered ⊢
  rw [between_extend hordered hq, filterVisiblePublicEvents_eq, filterVisiblePublicEvents_eq]
  apply List.filter_congr
  intro e he
  exact h.visibleIn hs (mem_projectLog.mp (mem_between.mp he).1).1 scope

theorem visibleBetween_append {r : Nat} (hs : LogSound db) (hpq : p ≤ q) (hqr : q ≤ r) :
    visibleBetween db projectId scope p q ++ visibleBetween db projectId scope q r =
      visibleBetween db projectId scope p r := by
  unfold visibleBetween
  rw [filterVisiblePublicEvents_eq, filterVisiblePublicEvents_eq, filterVisiblePublicEvents_eq,
    ← List.filter_append, between_append_between (hs.projectLog_ordered projectId) hpq hqr]

theorem visibleBetween_append_after (hs : LogSound db) (hpq : p ≤ q) :
    visibleBetween db projectId scope p q ++ visibleAfter db projectId scope q =
      visibleAfter db projectId scope p := by
  unfold visibleBetween visibleAfter
  rw [filterVisiblePublicEvents_eq, filterVisiblePublicEvents_eq, filterVisiblePublicEvents_eq,
    ← List.filter_append, between_append_after (hs.projectLog_ordered projectId) hpq]

@[simp] theorem visibleBetween_self : visibleBetween db projectId scope p p = [] := by
  rw [visibleBetween, between_self]
  rfl

end Cursors

/-! ## One page -/

/-- The principal, acting in the context, reads the Project in this scope. -/
def ReadsIn (kernel : KernelContext) (context : PrincipalContext) (projectId : String)
    (scope : PrincipalReadScope) (w : World) : Prop :=
  ∃ principal w',
    (w.db.table Principal).find? (fun r => r.id = context.principalId) = some principal ∧
      resolvePrincipalReadScope kernel principal context projectId w = (.ok scope, w')

/-- The query succeeds with this page, read in this scope. -/
structure ReadsPage (kernel : KernelContext) (query : PublicEventsQuery)
    (context : PrincipalContext) (scope : PrincipalReadScope) (w : World)
    (page : AuthorizedPublicEventPage) (w' : World) : Prop where
  reads : queryPublicEvents kernel query context w = (.ok page, w')
  reader : ReadsIn kernel context query.projectId scope w

/-- A page that starts after `p` and is scanned up to `q`. -/
structure PageSpan (db : Database) (projectId : String) (scope : PrincipalReadScope)
    (p q : Nat) (page : AuthorizedPublicEventPage) : Prop where
  forward : p ≤ q
  cursor : cursorSequence db projectId page.scannedThroughEventId = some q
  events : page.events = (visibleBetween db projectId scope p q).map mapPublicEvent
  last : page.hasMore = false → visibleAfter db projectId scope q = []
  advances : after PublicEvent.sequence (projectLog db projectId) p ≠ [] → p < q

section Pages

variable {kernel : KernelContext} {context : PrincipalContext} {query : PublicEventsQuery}
  {scope : PrincipalReadScope} {w w' : World} {page : AuthorizedPublicEventPage}

/-- What a page is made of. -/
theorem ReadsPage.page_eq (h : ReadsPage kernel query context scope w page w') :
    w'.db = w.db ∧ ∃ n limit,
      cursorSequence w.db query.projectId query.afterEventId = some n ∧ 1 ≤ limit ∧
        page = readAuthorizedPublicEvents w.db query.projectId query.afterEventId n limit
          scope := by
  obtain ⟨principal, w₁, hprincipal, hscope⟩ := h.reader
  have hreads := h.reads
  unfold queryPublicEvents queryTransaction at hreads
  split at hreads
  · rename_i found w₂ hrun
    obtain ⟨rfl, rfl⟩ : found = page ∧ w₂ = w' := by
      simpa using hreads
    simp only [bind_eq_ok, requirePrincipal_eq_ok, afterEventSequence_eq_ok, boundedLimit_eq_ok,
      gets_eq_ok] at hrun
    obtain ⟨found', _, ⟨hfound', rfl⟩, scope', w₃, hscope', n, _, ⟨hn, rfl⟩, limit, _,
      ⟨hlimit, hnat, rfl⟩, hpage, rfl⟩ := hrun
    obtain rfl : principal = found' := Option.some.inj (hprincipal.symm.trans hfound')
    rw [hscope] at hscope'
    obtain ⟨rfl, rfl⟩ : scope = scope' ∧ w₁ = w₃ := by simpa using hscope'
    have hdb : SameDatabase w w₁ := Within.of_eq hscope
    rw [hdb] at hn hpage
    exact ⟨hdb, n, limit, hn, by omega, hpage.symm⟩
  · cases hreads

/-- A page covers the events between its cursors. -/
theorem readAuthorizedPublicEvents_span {db : Database} {projectId : String}
    {cursor : Option String} {p limit : Nat} (hs : LogSound db)
    (hcursor : cursorSequence db projectId cursor = some p) (hlimit : 1 ≤ limit) :
    ∃ q, PageSpan db projectId scope p q
      (readAuthorizedPublicEvents db projectId cursor p limit scope) := by
  have hordered := hs.projectLog_ordered projectId
  have hrows : publicEventRows db projectId p limit =
      (after PublicEvent.sequence (projectLog db projectId) p).take (limit + 1) := by
    have hfilter : ((db.table PublicEvent).filter fun r =>
        r.projectId = projectId && p < r.sequence) =
        after PublicEvent.sequence (projectLog db projectId) p := by
      simp [after, projectLog, Table.filter, List.filter_filter, Bool.and_comm]
    rw [publicEventRows, hfilter, orderBy_of_pairwise]
    exact (after_ordered hordered).imp Nat.le_of_lt
  obtain ⟨rows, hall⟩ : ∃ rows, rows =
    after PublicEvent.sequence (projectLog db projectId) p := ⟨_, rfl⟩
  rw [← hall] at hrows
  have hrowsOrdered : Ordered PublicEvent.sequence rows := hall ▸ after_ordered hordered
  have hscanned : (publicEventRows db projectId p limit).take limit = rows.take limit := by
    rw [hrows, List.take_take, Nat.min_eq_left (Nat.le_succ limit)]
  simp only [readAuthorizedPublicEvents, hscanned]
  have hsplit := List.take_append_drop limit rows
  cases hlast : (rows.take limit).getLast? with
  | none =>
      have hempty : rows = [] := by
        have htake : rows.take limit = [] := List.getLast?_eq_none_iff.mp hlast
        cases rows with
        | nil => rfl
        | cons x rest =>
            obtain ⟨n, rfl⟩ : ∃ n, limit = n + 1 := ⟨limit - 1, by omega⟩
            simp at htake
      refine ⟨p, Nat.le_refl p, ?_, ?_, ?_, ?_⟩
      · rw [Option.map_none, Option.none_or]
        exact hcursor
      · simp [hempty, filterVisiblePublicEvents_eq]
      · intro _
        rw [visibleAfter, ← hall, hempty]
        rfl
      · intro hsome
        exact absurd (hall.symm.trans hempty) hsome
  | some last =>
      have hmem : last ∈ rows.take limit := List.mem_of_getLast? hlast
      have hin : last ∈ projectLog db projectId := by
        have hafter : last ∈ after PublicEvent.sequence (projectLog db projectId) p :=
          hall ▸ List.mem_of_mem_take hmem
        exact (mem_after.mp hafter).1
      have hlater : p < last.sequence := by
        have hafter : last ∈ after PublicEvent.sequence (projectLog db projectId) p :=
          hall ▸ List.mem_of_mem_take hmem
        exact (mem_after.mp hafter).2
      obtain ⟨before, hbefore⟩ : ∃ before, rows.take limit = before ++ [last] :=
        List.getLast?_eq_some_iff.mp hlast
      rw [Ordered, ← hsplit, List.pairwise_append] at hrowsOrdered
      obtain ⟨htake, -, hcross⟩ := hrowsOrdered
      have hupTo : ∀ e ∈ rows.take limit, e.sequence ≤ last.sequence := by
        intro e he
        rw [hbefore, List.pairwise_append] at htake
        rw [hbefore] at he
        cases List.mem_append.mp he with
        | inl hearlier =>
            exact Nat.le_of_lt (htake.2.2 e hearlier last (List.mem_singleton_self last))
        | inr hsame => rw [List.mem_singleton.mp hsame]
      have hbeyond : ∀ e ∈ rows.drop limit, last.sequence < e.sequence :=
        fun e he => hcross last hmem e he
      have hbetween : between PublicEvent.sequence (projectLog db projectId) p last.sequence =
          rows.take limit :=
        between_of_after (hall.symm.trans hsplit.symm) hupTo hbeyond
      refine ⟨last.sequence, Nat.le_of_lt hlater, ?_, ?_, ?_, fun _ => hlater⟩
      · exact cursorSequence_of_mem hs hin
      · rw [visibleBetween, hbetween]
      · intro hmore
        have hshort : rows.length ≤ limit := by
          have hnot := of_decide_eq_false hmore
          rw [hrows, List.length_take] at hnot
          omega
        have hrest : after PublicEvent.sequence (projectLog db projectId) last.sequence = [] := by
          have hparts := between_append_after hordered (Nat.le_of_lt hlater)
          rw [hbetween, ← hall, List.take_of_length_le hshort] at hparts
          exact List.append_cancel_left (hparts.trans (List.append_nil rows).symm)
        rw [visibleAfter, hrest]
        rfl

/-- A page that is read covers the events after its cursor. -/
theorem ReadsPage.span (h : ReadsPage kernel query context scope w page w')
    (hs : LogSound w.db) :
    ∃ p q, cursorSequence w.db query.projectId query.afterEventId = some p ∧
      PageSpan w.db query.projectId scope p q page := by
  obtain ⟨-, p, limit, hcursor, hlimit, rfl⟩ := h.page_eq
  obtain ⟨q, hspan⟩ := readAuthorizedPublicEvents_span hs hcursor hlimit
  exact ⟨p, q, hcursor, hspan⟩

end Pages

/-! ## One page after the other -/

/-- From the state `w` and the cursor, pages are read in one scope while calls are made: the
events they bring, and the state and the cursor at the end. -/
inductive Follows (kernel : KernelContext) (context : PrincipalContext) (projectId : String)
    (scope : PrincipalReadScope) (w : World) (cursor : Option String) :
    List PublicEventEnvelope → World → Option String → Prop where
  | start : Follows kernel context projectId scope w cursor [] w cursor
  | call {events : List PublicEventEnvelope} {w' : World} {cursor' : Option String}
      (hrun : Follows kernel context projectId scope w cursor events w' cursor')
      (call : KernelCall) :
      Follows kernel context projectId scope w cursor events (step kernel call w') cursor'
  | page {events : List PublicEventEnvelope} {w' w'' : World} {cursor' : Option String}
      {page : AuthorizedPublicEventPage}
      (hrun : Follows kernel context projectId scope w cursor events w' cursor')
      (limit : Option Int)
      (hpage : ReadsPage kernel ⟨projectId, cursor', limit⟩ context scope w' page w'') :
      Follows kernel context projectId scope w cursor (events ++ page.events) w''
        page.scannedThroughEventId

/-- What a reader who started at a cursor and stands at another has been given. -/
structure GivenInOrder (db : Database) (projectId : String) (scope : PrincipalReadScope)
    (cursor cursor' : Option String) (events : List PublicEventEnvelope) : Prop where
  /-- Nothing is read from a cursor that names no event. -/
  unresolved : cursorSequence db projectId cursor = none → events = [] ∧ cursor' = cursor
  given : ∀ p, cursorSequence db projectId cursor = some p →
    ∃ q, cursorSequence db projectId cursor' = some q ∧ p ≤ q ∧
      events = (visibleBetween db projectId scope p q).map mapPublicEvent

section Follows

variable {kernel : KernelContext} {context : PrincipalContext} {projectId : String}
  {scope : PrincipalReadScope} {w w' : World} {cursor cursor' : Option String}
  {events : List PublicEventEnvelope} {page : AuthorizedPublicEventPage}

theorem GivenInOrder.start (db : Database) :
    GivenInOrder db projectId scope cursor cursor [] where
  unresolved _ := ⟨rfl, rfl⟩
  given p hp := ⟨p, hp, Nat.le_refl p, by simp⟩

theorem GivenInOrder.grows (h : GivenInOrder w.db projectId scope cursor cursor' events)
    (hgrows : LogGrows w w') (hs : LogSound w.db) :
    GivenInOrder w'.db projectId scope cursor cursor' events := by
  cases hcursor : cursorSequence w.db projectId cursor with
  | none =>
      obtain ⟨rfl, rfl⟩ := h.unresolved hcursor
      exact .start w'.db
  | some p =>
      obtain ⟨q, hq, hle, hevents⟩ := h.given p hcursor
      have hlater := hgrows.cursorSequence hcursor
      constructor
      · intro hnone
        rw [hlater] at hnone
        cases hnone
      · intro p' hp'
        obtain rfl : p = p' := Option.some.inj (hlater.symm.trans hp')
        refine ⟨q, hgrows.cursorSequence hq, hle, ?_⟩
        rw [hgrows.visibleBetween hs (cursorSequence_settled hq)]
        exact hevents

theorem GivenInOrder.read {query : PublicEventsQuery} {w'' : World}
    (h : GivenInOrder w.db query.projectId scope cursor query.afterEventId events)
    (hs : LogSound w.db) (hpage : ReadsPage kernel query context scope w page w'') :
    GivenInOrder w.db query.projectId scope cursor page.scannedThroughEventId
      (events ++ page.events) := by
  obtain ⟨q, r, hq, hspan⟩ := hpage.span hs
  constructor
  · intro hnone
    have hsame := (h.unresolved hnone).2
    rw [hsame, hnone] at hq
    cases hq
  · intro p hp
    obtain ⟨q', hq', hle, hevents⟩ := h.given p hp
    obtain rfl : q = q' := Option.some.inj (hq.symm.trans hq')
    refine ⟨r, hspan.cursor, Nat.le_trans hle hspan.forward, ?_⟩
    rw [hevents, hspan.events, ← List.map_append, visibleBetween_append hs hle hspan.forward]

theorem Follows.given (h : Follows kernel context projectId scope w cursor events w' cursor')
    (hs : LogSound w.db) :
    LogSound w'.db ∧ GivenInOrder w'.db projectId scope cursor cursor' events := by
  induction h with
  | start => exact ⟨hs, .start w.db⟩
  | @call events w' cursor' hrun call ih =>
      obtain ⟨hsound, hgiven⟩ := ih
      have hgrows := step_logGrows kernel call w'
      exact ⟨hgrows.sound hsound, hgiven.grows hgrows hsound⟩
  | page hrun limit hpage ih =>
      obtain ⟨hsound, hgiven⟩ := ih
      have hdb := hpage.page_eq.1
      rw [hdb]
      exact ⟨hsound, hgiven.read hsound hpage⟩

end Follows

end Torsor.Kernel
