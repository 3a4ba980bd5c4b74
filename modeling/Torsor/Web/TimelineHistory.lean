import Torsor.Library.EntryMap
import Torsor.Kernel.ActivityLog
import Torsor.Kernel.WriterFencing

/-! # The activity of a Run in a window

A window of the client shows a range of the activity of a Run. It is put together from the
latest activities, from pages before them and from pages that fill the gap to what was shown
before; every one of these is a range of the same activity log.
-/

namespace Torsor.Web

open Torsor.Library Torsor.Kernel

/-! ## Windows and pages -/

/-- What is asked for at the path of the activity of a Run. -/
structure ActivityRequest where
  runId : String
  beforeSequence : Nat
  afterSequence : Option Nat
  limit : Nat
deriving DecidableEq

def activityPath (runId : String) (beforeSequence : Nat) (afterSequence : Option Nat) :
    ActivityRequest where
  runId
  beforeSequence
  afterSequence
  limit := 100

/-- What `mergeActivity` has collected from the windows it has seen. -/
structure ActivityMerge where
  byId : EntryMap String RunActivityEventView
  bySequence : EntryMap Nat String
  earliest : Option ActivityWindow

/-- The window starts before the earliest one so far. -/
def startsBefore (window : ActivityWindow) (earliest : Option ActivityWindow) : Bool :=
  window.earliestSequence.any fun sequence =>
    earliest.all fun earliest => sequence < earliest.earliestSequence.getD 0

namespace ActivityMerge

def empty : ActivityMerge := ⟨.empty, .empty, none⟩

def addItem (runId : String) (m : ActivityMerge) (item : RunActivityEventView) :
    Except String ActivityMerge :=
  if item.runId ≠ runId ∨ (m.byId.get item.id).any (·.sequence ≠ item.sequence) ∨
      (m.bySequence.get item.sequence).any (· ≠ item.id) then
    .error "Inconsistent Run activity identity."
  else
    .ok
      { m with
        byId := m.byId.set item.id item
        bySequence := m.bySequence.set item.sequence item.id }

def addWindow (runId : String) (m : ActivityMerge) (window : ActivityWindow) :
    Except String ActivityMerge :=
  window.items.foldlM (addItem runId)
    (if startsBefore window m.earliest then { m with earliest := some window } else m)

end ActivityMerge

def mergeActivity (runId : String) (windows : List ActivityWindow) :
    Except String ActivityWindow := do
  let merged ← windows.foldlM (ActivityMerge.addWindow runId) .empty
  pure (windowOf (orderBy (·.sequence) (merged.byId.entries.map Prod.snd))
    (merged.earliest.elim false (·.hasEarlier)))

def historyWindow (page : ActivityPage) : ActivityWindow := windowOf page.items page.hasMore

def mergeRunTimeline (current : Option RunProjection) (incoming : RunProjection) :
    Except String RunProjection := do
  let previous := current.filter fun current => current.run.id = incoming.run.id
  let activity ←
    mergeActivity incoming.run.id (previous.toList.map (·.activity) ++ [incoming.activity])
  pure
    { (previous.filter fun previous => incoming.run.revision < previous.run.revision).getD
        incoming with activity }

/-- The items are of the Run, and their sequences grow from `previous` on below `before`. -/
def activityInBounds (runId : String) (before : Nat) : Nat → List RunActivityEventView → Bool
  | _, [] => true
  | previous, item :: rest =>
      item.runId = runId && isSafeInteger item.sequence && previous < item.sequence &&
        item.sequence < before && activityInBounds runId before item.sequence rest

def validateActivityPage (page : ActivityPage) (runId : String) (before : Nat)
    (after : Option Nat) : Except String Unit :=
  if 100 < page.items.length then
    .error "Activity page exceeded its requested limit."
  else if ¬ activityInBounds runId before (after.getD 0) page.items then
    .error "Activity page has invalid sequence bounds."
  else
    let cursor := (if after.isNone then page.items.head? else page.items.getLast?).map (·.sequence)
    if page.hasMore ∧ (cursor = none ∨ page.nextCursor ≠ cursor) then
      .error "Activity page did not advance its cursor."
    else .ok ()

/-! ## Reading a gap -/

/-- The activities between what was shown and what was read, as far as they are read. -/
structure ActivityGap where
  runId : String
  after : Nat
  before : Nat
  items : List RunActivityEventView

namespace ActivityGap

/-- There may be activities left to read. -/
def isOpen (gap : ActivityGap) : Bool := gap.after + 1 < gap.before

def request (gap : ActivityGap) : ActivityRequest :=
  activityPath gap.runId gap.before (some gap.after)

/-- What a page adds, and whether there is more. -/
def addPage (gap : ActivityGap) (page : ActivityPage) : Except String (ActivityGap × Bool) := do
  validateActivityPage page gap.runId gap.before (some gap.after)
  let items := gap.items ++ page.items
  if page.hasMore then pure ({ gap with items, after := page.nextCursor.getD gap.after }, true)
  else pure ({ gap with items }, false)

end ActivityGap

/-- The gap between the window `previous` and the window `next`. -/
def activityGap (runId : String) (previous : Option ActivityWindow) (next : ActivityWindow) :
    Option ActivityGap :=
  previous.bind fun previous => next.earliestSequence.map fun before =>
    { runId, before, after := previous.latestSequence.getD 0, items := [] }

/-- The loop of `readActivityGap`. The request number `n` is answered by `read n`, and it is only
made if `isCurrent n`. -/
def readPages (read : Nat → ActivityRequest → Except String ActivityPage) (isCurrent : Nat → Bool) :
    Nat → Nat → ActivityGap → Option (Except String (List RunActivityEventView))
  | 0, _, _ => none
  | fuel + 1, n, gap =>
      if gap.isOpen && isCurrent n then
        match read n gap.request >>= gap.addPage with
        | .error message => some (.error message)
        | .ok (gap, true) => readPages read isCurrent fuel (n + 1) gap
        | .ok (gap, false) => some (.ok gap.items)
      else some (.ok gap.items)

/-- There is no answer when `fuel` requests are not enough. -/
def readActivityGap (runId : String) (previous : Option ActivityWindow) (next : ActivityWindow)
    (read : Nat → ActivityRequest → Except String ActivityPage) (isCurrent : Nat → Bool)
    (fuel : Nat) : Option (Except String (List RunActivityEventView)) :=
  match activityGap runId previous next with
  | none => some (.ok [])
  | some gap => readPages read isCurrent fuel 0 gap

/-! ## Merging windows -/

/-- What was seen of the activities is collected, and nothing else. -/
structure ActivityMerge.Collects (m : ActivityMerge) (log : List RunActivityEventView)
    (seen : RunActivityEventView → Prop) : Prop where
  byId : ∀ id x, m.byId.get id = some x → x ∈ log ∧ x.id = id
  bySequence : ∀ n id, m.bySequence.get n = some id → ∃ x ∈ log, x.sequence = n ∧ x.id = id
  seen : ∀ x, m.byId.get x.id = some x ↔ seen x

/-- The window that starts first, and of those the first one. -/
def earliestWindow (earliest : Option ActivityWindow) (windows : List ActivityWindow) :
    Option ActivityWindow :=
  windows.foldl
    (fun earliest window => if startsBefore window earliest then some window else earliest) earliest

section Merging

variable {runId : String} {log items : List RunActivityEventView} {m : ActivityMerge}
  {seen : RunActivityEventView → Prop} {windows : List ActivityWindow} {x : RunActivityEventView}

theorem ActivityMerge.collects_empty :
    ActivityMerge.empty.Collects log fun _ => False where
  byId id x h := by
    rw [ActivityMerge.empty, EntryMap.get_empty] at h
    cases h
  bySequence n id h := by
    rw [ActivityMerge.empty, EntryMap.get_empty] at h
    cases h
  seen x := by simp [ActivityMerge.empty, EntryMap.get_empty]

theorem ActivityMerge.Collects.addItem (h : m.Collects log seen)
    (hlog : ActivityNumbered runId log) (hx : x ∈ log) :
    ∃ m', m.addItem runId x = .ok m' ∧ m'.Collects log (fun y => seen y ∨ y = x) ∧
      m'.earliest = m.earliest := by
  have hid : (m.byId.get x.id).any (·.sequence ≠ x.sequence) = false := by
    cases hget : m.byId.get x.id with
    | none => rfl
    | some y =>
        obtain ⟨hy, hsame⟩ := h.byId x.id y hget
        simp [hlog.ids _ hy _ hx hsame]
  have hsequence : (m.bySequence.get x.sequence).any (· ≠ x.id) = false := by
    cases hget : m.bySequence.get x.sequence with
    | none => rfl
    | some id =>
        obtain ⟨y, hy, hsame, hof⟩ := h.bySequence x.sequence id hget
        simp [← hof, hlog.numbers.eq_of_number hy hx hsame]
  have hcheck : ¬ (x.runId ≠ runId ∨ (m.byId.get x.id).any (·.sequence ≠ x.sequence) = true ∨
      (m.bySequence.get x.sequence).any (· ≠ x.id) = true) := by
    rw [hid, hsequence]
    simp [hlog.ofRun x hx]
  refine ⟨_, if_neg hcheck, ⟨?_, ?_, ?_⟩, rfl⟩
  · intro id y hget
    by_cases hsame : id = x.id
    · subst hsame
      rw [EntryMap.get_set_self] at hget
      cases hget
      exact ⟨hx, rfl⟩
    · rw [EntryMap.get_set_of_ne hsame] at hget
      exact h.byId id y hget
  · intro n id hget
    by_cases hsame : n = x.sequence
    · subst hsame
      rw [EntryMap.get_set_self] at hget
      cases hget
      exact ⟨x, hx, rfl, rfl⟩
    · rw [EntryMap.get_set_of_ne hsame] at hget
      exact h.bySequence n id hget
  · intro y
    by_cases hsame : y.id = x.id
    · rw [hsame, EntryMap.get_set_self]
      constructor
      · intro heq
        exact .inr (Option.some.inj heq).symm
      · rintro (hseen | rfl)
        · have hy := (h.byId y.id y ((h.seen y).mpr hseen)).1
          rw [hlog.ids _ hy _ hx hsame]
        · rfl
    · rw [EntryMap.get_set_of_ne hsame, h.seen y]
      constructor
      · exact .inl
      · rintro (hseen | rfl)
        · exact hseen
        · exact absurd rfl hsame

theorem ActivityMerge.Collects.addItems (h : m.Collects log seen)
    (hlog : ActivityNumbered runId log) (hitems : ∀ x ∈ items, x ∈ log) :
    ∃ m', items.foldlM (ActivityMerge.addItem runId) m = .ok m' ∧
      m'.Collects log (fun y => seen y ∨ y ∈ items) ∧ m'.earliest = m.earliest := by
  induction items generalizing m seen with
  | nil => exact ⟨m, rfl, by simpa using h, rfl⟩
  | cons x rest ih =>
      obtain ⟨m₁, hadd, hcollects, hearliest⟩ := h.addItem hlog (hitems x (by simp))
      obtain ⟨m₂, hrest, hcollects', hearliest'⟩ :=
        ih hcollects fun y hy => hitems y (by simp [hy])
      refine ⟨m₂, ?_, ?_, hearliest'.trans hearliest⟩
      · rw [List.foldlM_cons, hadd]
        exact hrest
      · simpa only [List.mem_cons, or_assoc] using hcollects'

theorem ActivityMerge.Collects.addWindows (h : m.Collects log seen)
    (hlog : ActivityNumbered runId log) (hitems : ∀ w ∈ windows, ∀ x ∈ w.items, x ∈ log) :
    ∃ m', windows.foldlM (ActivityMerge.addWindow runId) m = .ok m' ∧
      m'.Collects log (fun y => seen y ∨ ∃ w ∈ windows, y ∈ w.items) ∧
      m'.earliest = earliestWindow m.earliest windows := by
  induction windows generalizing m seen with
  | nil => exact ⟨m, rfl, by simpa using h, rfl⟩
  | cons window rest ih =>
      have hstart : (if startsBefore window m.earliest then { m with earliest := some window }
          else m).Collects log seen := by
        split
        · exact ⟨h.byId, h.bySequence, h.seen⟩
        · exact h
      obtain ⟨m₁, hadd, hcollects, hearliest⟩ := hstart.addItems hlog (hitems window (by simp))
      obtain ⟨m₂, hrest, hcollects', hearliest'⟩ :=
        ih hcollects fun w hw => hitems w (by simp [hw])
      refine ⟨m₂, ?_, ?_, ?_⟩
      · rw [List.foldlM_cons, ActivityMerge.addWindow, hadd]
        exact hrest
      · simpa only [List.mem_cons, exists_eq_or_imp, or_assoc] using hcollects'
      · rw [hearliest', hearliest, earliestWindow, earliestWindow, List.foldl_cons]
        congr 1
        split <;> rfl

/-- Windows of one Run that make up a range of its activities merge into that range. -/
theorem mergeActivity_range {after upTo : Nat} (hlog : ActivityNumbered runId log)
    (hitems : ∀ x, (∃ w ∈ windows, x ∈ w.items) ↔ x ∈ activityRange log after upTo) :
    mergeActivity runId windows = .ok (windowOf (activityRange log after upTo)
      ((earliestWindow none windows).elim false (·.hasEarlier))) := by
  have hstored : ∀ w ∈ windows, ∀ x ∈ w.items, x ∈ log := fun w hw x hx =>
    (mem_numberedRange.mp ((hitems x).mp ⟨w, hw, hx⟩)).1
  obtain ⟨m, hfold, hcollects, hearliest⟩ :=
    ActivityMerge.collects_empty.addWindows hlog hstored
  have hmem : ∀ x, x ∈ m.byId.entries.map Prod.snd ↔ x ∈ activityRange log after upTo := by
    intro x
    rw [← hitems x, List.mem_map]
    constructor
    · rintro ⟨⟨id, y⟩, hentry, rfl⟩
      have hget := EntryMap.mem_entries.mp hentry
      rw [← (hcollects.byId id y hget).2] at hget
      simpa using (hcollects.seen y).mp hget
    · intro hseen
      exact ⟨(x.id, x), EntryMap.mem_entries.mpr ((hcollects.seen x).mpr (.inr hseen)), rfl⟩
  have hids : (m.byId.entries.map Prod.snd).map (·.id) = m.byId.entries.map Prod.fst := by
    rw [List.map_map]
    refine List.map_congr_left fun entry hentry => ?_
    exact (hcollects.byId entry.1 entry.2 (EntryMap.mem_entries.mp hentry)).2
  have hnodup : (m.byId.entries.map Prod.snd).Nodup := by
    have hkeys := m.byId.keys_nodup
    rw [← hids] at hkeys
    exact hkeys.of_map _
  have hsequences : ((m.byId.entries.map Prod.snd).map (·.sequence)).Nodup := by
    refine hnodup.map_on fun x hx y hy heq => ?_
    exact hlog.numbers.eq_of_number (mem_numberedRange.mp ((hmem x).mp hx)).1
      (mem_numberedRange.mp ((hmem y).mp hy)).1 heq
  have hrange : orderBy (·.sequence) (m.byId.entries.map Prod.snd) =
      activityRange log after upTo := by
    have hstrict := hlog.numbers.range_strict after upTo
    refine eq_of_strict (orderBy_strict hsequences) hstrict fun x => ?_
    rw [mem_orderBy, hmem]
  rw [mergeActivity, hfold]
  show Except.ok _ = _
  rw [hrange, hearliest]
  rfl

end Merging



/-! ## Windows of ranges -/

section Windows

variable {runId : String} {log : List RunActivityEventView} {after upTo after' upTo' : Nat}
  {flag flag' : Bool}

theorem windowOf_earliest (hlog : ActivityNumbered runId log) (hupTo : upTo ≤ log.length) :
    (windowOf (activityRange log after upTo) flag).earliestSequence =
      if after < upTo then some (after + 1) else none := by
  split
  · rename_i hlt
    exact hlog.numbers.range_head hlt hupTo
  · rename_i hle
    simp [windowOf, numberedRange_empty (Nat.le_of_not_lt hle)]

theorem windowOf_latest (hlog : ActivityNumbered runId log) (hlt : after < upTo)
    (hupTo : upTo ≤ log.length) :
    (windowOf (activityRange log after upTo) flag).latestSequence = some upTo :=
  hlog.numbers.range_last hlt hupTo

/-- The range that a window and one that begins within it or right after it make up. -/
theorem mergeActivity_join (hlog : ActivityNumbered runId log) (hlt : after < upTo)
    (hupTo : upTo ≤ log.length) (hle : after ≤ after') (hjoin : after' ≤ upTo)
    (hupTo' : upTo' ≤ log.length) :
    mergeActivity runId [windowOf (activityRange log after upTo) flag,
        windowOf (activityRange log after' upTo') flag'] =
      .ok (windowOf (activityRange log after (max upTo upTo')) flag) := by
  have hitems : ∀ x, (∃ w ∈ [windowOf (activityRange log after upTo) flag,
      windowOf (activityRange log after' upTo') flag'], x ∈ w.items) ↔
        x ∈ activityRange log after (max upTo upTo') := by
    intro x
    simp only [List.mem_cons, List.not_mem_nil, or_false, exists_eq_or_imp, exists_eq_left,
      windowOf, mem_numberedRange]
    constructor
    · rintro (⟨hx, hafter, hlast⟩ | ⟨hx, hafter, hlast⟩)
      · exact ⟨hx, hafter, by omega⟩
      · exact ⟨hx, by omega, by omega⟩
    · rintro ⟨hx, hafter, hlast⟩
      by_cases hin : x.sequence ≤ upTo
      · exact .inl ⟨hx, hafter, hin⟩
      · exact .inr ⟨hx, by omega, by omega⟩
  have hfirst : startsBefore (windowOf (activityRange log after upTo) flag) none = true := by
    rw [startsBefore, windowOf_earliest hlog hupTo, if_pos hlt]
    rfl
  have hsecond : startsBefore (windowOf (activityRange log after' upTo') flag')
      (some (windowOf (activityRange log after upTo) flag)) = false := by
    simp only [startsBefore, windowOf_earliest hlog hupTo, windowOf_earliest hlog hupTo', hlt,
      if_true, Option.all_some, Option.getD_some]
    split
    · simp only [Option.any_some, decide_eq_false_iff_not]
      omega
    · rfl
  rw [mergeActivity_range hlog hitems, earliestWindow, List.foldl_cons, List.foldl_cons, hfirst,
    if_pos rfl, hsecond, if_neg Bool.false_ne_true]
  rfl

theorem earliestWindow_empty {windows : List ActivityWindow}
    (hempty : ∀ window ∈ windows, window.earliestSequence = none)
    (earliest : Option ActivityWindow) : earliestWindow earliest windows = earliest := by
  induction windows with
  | nil => rfl
  | cons window rest ih =>
      have hskips : startsBefore window earliest = false := by
        simp [startsBefore, hempty window (by simp)]
      rw [earliestWindow, List.foldl_cons, hskips, if_neg Bool.false_ne_true]
      exact ih fun w hw => hempty w (by simp [hw])

theorem earliestWindow_append (earliest : Option ActivityWindow)
    (windows more : List ActivityWindow) : earliestWindow earliest (windows ++ more) =
      earliestWindow (earliestWindow earliest windows) more :=
  List.foldl_append

/-- Windows that show nothing add nothing. -/
theorem mergeActivity_last (hlog : ActivityNumbered runId log) (hupTo : upTo ≤ log.length)
    {windows : List ActivityWindow}
    (hempty : ∀ window ∈ windows, ∃ flag, window = windowOf [] flag) :
    mergeActivity runId (windows ++ [windowOf (activityRange log after upTo) flag]) =
      .ok (windowOf (activityRange log after upTo) (decide (after < upTo) && flag)) := by
  have hitems : ∀ x, (∃ w ∈ windows ++ [windowOf (activityRange log after upTo) flag],
      x ∈ w.items) ↔ x ∈ activityRange log after upTo := by
    intro x
    simp only [List.mem_append, List.mem_singleton]
    constructor
    · rintro ⟨w, hw | rfl, hx⟩
      · obtain ⟨_, rfl⟩ := hempty w hw
        cases hx
      · exact hx
    · intro hx
      exact ⟨_, .inr rfl, hx⟩
  have hnone : earliestWindow none windows = none := by
    refine earliestWindow_empty (fun window hwindow => ?_) none
    obtain ⟨_, rfl⟩ := hempty window hwindow
    rfl
  have hlast : startsBefore (windowOf (activityRange log after upTo) flag) none =
      decide (after < upTo) := by
    rw [startsBefore, windowOf_earliest hlog hupTo]
    split
    · rename_i hlt
      rw [decide_eq_true hlt]
      rfl
    · rename_i hle
      rw [decide_eq_false hle]
      rfl
  rw [mergeActivity_range hlog hitems, earliestWindow_append, hnone, earliestWindow,
    List.foldl_cons, hlast]
  cases decide (after < upTo) with
  | false => rfl
  | true => rfl

end Windows

/-! ## Valid pages -/

section Validation

variable {runId : String} {log items more : List RunActivityEventView} {page : ActivityPage}
  {before after previous : Nat} {gap gap' : ActivityGap}

/-- Activities of one Run between two sequences, in their order. -/
structure InBounds (runId : String) (after before : Nat) (items : List RunActivityEventView) :
    Prop where
  ofRun : ∀ a ∈ items, a.runId = runId
  safe : ∀ a ∈ items, isSafeInteger a.sequence = true
  bounds : ∀ a ∈ items, after < a.sequence ∧ a.sequence < before
  sorted : items.Pairwise fun a b => a.sequence < b.sequence

theorem activityInBounds_iff :
    activityInBounds runId before previous items = true ↔ InBounds runId previous before items := by
  induction items generalizing previous with
  | nil => exact ⟨fun _ => ⟨by simp, by simp, by simp, .nil⟩, fun _ => rfl⟩
  | cons item rest ih =>
      simp only [activityInBounds, Bool.and_eq_true, decide_eq_true_eq, ih]
      constructor
      · rintro ⟨⟨⟨⟨hof, hsafe⟩, hafter⟩, hbefore⟩, hrest⟩
        have hlater : ∀ a ∈ rest, item.sequence < a.sequence := fun a ha => (hrest.bounds a ha).1
        refine ⟨?_, ?_, ?_, .cons hlater hrest.sorted⟩
        · exact List.forall_mem_cons.mpr ⟨hof, hrest.ofRun⟩
        · exact List.forall_mem_cons.mpr ⟨hsafe, hrest.safe⟩
        · refine List.forall_mem_cons.mpr ⟨⟨hafter, hbefore⟩, fun a ha => ?_⟩
          exact ⟨lt_trans hafter (hlater a ha), (hrest.bounds a ha).2⟩
      · intro h
        obtain ⟨hafter, hbefore⟩ := h.bounds item (by simp)
        have hsorted := List.pairwise_cons.mp h.sorted
        refine ⟨⟨⟨⟨h.ofRun item (by simp), h.safe item (by simp)⟩, hafter⟩, hbefore⟩, ?_⟩
        refine ⟨fun a ha => h.ofRun a (by simp [ha]), fun a ha => h.safe a (by simp [ha]),
          fun a ha => ⟨hsorted.1 a ha, (h.bounds a (by simp [ha])).2⟩, hsorted.2⟩

theorem InBounds.append (h : InBounds runId after before items)
    (hmore : InBounds runId after before more)
    (hlater : ∀ a ∈ items, ∀ b ∈ more, a.sequence < b.sequence) :
    InBounds runId after before (items ++ more) where
  ofRun a ha := (List.mem_append.mp ha).elim (h.ofRun a) (hmore.ofRun a)
  safe a ha := (List.mem_append.mp ha).elim (h.safe a) (hmore.safe a)
  bounds a ha := (List.mem_append.mp ha).elim (h.bounds a) (hmore.bounds a)
  sorted := List.pairwise_append.mpr ⟨h.sorted, hmore.sorted, hlater⟩

/-- What a page of a gap that is valid holds. -/
theorem validateActivityPage_eq_ok
    (h : validateActivityPage page runId before (some after) = .ok ()) :
    InBounds runId after before page.items ∧
      (page.hasMore = true → ∃ last ∈ page.items, page.nextCursor = some last.sequence ∧
        ∀ a ∈ page.items, a.sequence ≤ last.sequence) := by
  simp only [validateActivityPage, Option.getD_some, Option.isNone_some, Bool.false_eq_true,
    if_false] at h
  split at h
  · cases h
  · split at h
    · cases h
    · rename_i hbounds
      have hbounds := activityInBounds_iff.mp (not_not.mp hbounds)
      refine ⟨hbounds, fun hmore => ?_⟩
      split at h
      · cases h
      · rename_i hcursor
        simp only [hmore, true_and, not_or, not_not, Option.map_eq_none_iff] at hcursor
        obtain ⟨last, hlast⟩ := Option.ne_none_iff_exists'.mp hcursor.1
        refine ⟨last, List.mem_of_getLast? hlast, by rw [hcursor.2, hlast]; rfl, fun a ha => ?_⟩
        obtain ⟨init, hinit⟩ := List.getLast?_eq_some_iff.mp hlast
        rw [hinit] at ha
        cases List.mem_append.mp ha with
        | inl hbefore =>
            have hsorted := hbounds.sorted
            rw [hinit] at hsorted
            exact Nat.le_of_lt ((List.pairwise_append.mp hsorted).2.2 a hbefore last (by simp))
        | inr hsame =>
            rw [List.mem_singleton.mp hsame]

end Validation

/-! ## Reading the gap -/

section Gaps

variable {runId : String} {log items : List RunActivityEventView} {page : ActivityPage}
  {gap gap' : ActivityGap} {read : Nat → ActivityRequest → Except String ActivityPage}
  {isCurrent : Nat → Bool} {fuel n start : Nat}

/-- What is read of a gap from `start` on. -/
structure ActivityGap.ReadFrom (gap : ActivityGap) (start : Nat) : Prop where
  bounds : InBounds gap.runId start gap.before gap.items
  read : ∀ a ∈ gap.items, a.sequence ≤ gap.after
  start : start ≤ gap.after

/-- A page leaves less of the gap, or is the last one. -/
theorem ActivityGap.addPage_eq_ok {goesOn : Bool} (h : gap.addPage page = .ok (gap', goesOn)) :
    gap'.runId = gap.runId ∧ gap'.before = gap.before ∧
      (goesOn = true → gap.after < gap'.after ∧ gap'.after < gap.before) ∧
      ∀ start, gap.ReadFrom start → InBounds gap.runId start gap.before gap'.items ∧
        (goesOn = true → gap'.ReadFrom start) := by
  simp only [ActivityGap.addPage, bind, Except.bind] at h
  split at h
  · cases h
  · rename_i hvalid
    obtain ⟨hbounds, hcursor⟩ := validateActivityPage_eq_ok hvalid
    have hitems : ∀ start, gap.ReadFrom start →
        InBounds gap.runId start gap.before (gap.items ++ page.items) := by
      intro start hread
      refine hread.bounds.append ⟨hbounds.ofRun, hbounds.safe, fun a ha => ?_, hbounds.sorted⟩
        fun a ha b hb => ?_
      · exact ⟨lt_of_le_of_lt hread.start (hbounds.bounds a ha).1, (hbounds.bounds a ha).2⟩
      · exact lt_of_le_of_lt (hread.read a ha) (hbounds.bounds b hb).1
    split at h
    · rename_i hmore
      cases h
      obtain ⟨last, hlast, hnext, hle⟩ := hcursor hmore
      have hafter := hbounds.bounds last hlast
      simp only [hnext, Option.getD_some]
      refine ⟨trivial, trivial, fun _ => hafter,
        fun start hread => ⟨hitems start hread, fun _ => ?_⟩⟩
      refine ⟨hitems start hread, fun a ha => ?_, ?_⟩
      · cases List.mem_append.mp ha with
        | inl hold => exact Nat.le_trans (hread.read a hold) (Nat.le_of_lt hafter.1)
        | inr hnew => exact hle a hnew
      · exact Nat.le_trans hread.start (Nat.le_of_lt hafter.1)
    · cases h
      exact ⟨rfl, rfl, fun hfalse => absurd hfalse Bool.false_ne_true,
        fun start hread => ⟨hitems start hread, fun hfalse => absurd hfalse Bool.false_ne_true⟩⟩

theorem readPage_eq_ok {next : ActivityGap × Bool} :
    (read n gap.request >>= gap.addPage) = .ok next ↔
      ∃ page, read n gap.request = .ok page ∧ gap.addPage page = .ok next := by
  cases read n gap.request <;> simp [bind, Except.bind]

/-- Every page that is not the last one moves the lower bound towards the upper one. -/
theorem readPages_ends (hfuel : gap.before - gap.after < fuel) :
    readPages read isCurrent fuel n gap ≠ none := by
  induction fuel generalizing n gap with
  | zero => exact absurd hfuel (Nat.not_lt_zero _)
  | succ fuel ih =>
      rw [readPages]
      split
      · cases hpage : read n gap.request >>= gap.addPage with
        | error message => exact Option.some_ne_none _
        | ok next =>
            obtain ⟨gap', goesOn⟩ := next
            cases goesOn with
            | false => exact Option.some_ne_none _
            | true =>
                obtain ⟨page, -, hadd⟩ := readPage_eq_ok.mp hpage
                obtain ⟨-, hbefore, hafter, -⟩ := ActivityGap.addPage_eq_ok hadd
                have hafter := hafter rfl
                exact ih (by omega)
      · exact Option.some_ne_none _

/-- Whatever the server answers, what is read lies in the gap. -/
theorem readPages_inBounds (hread : gap.ReadFrom start)
    (h : readPages read isCurrent fuel n gap = some (.ok items)) :
    InBounds gap.runId start gap.before items := by
  induction fuel generalizing n gap with
  | zero => cases h
  | succ fuel ih =>
      rw [readPages] at h
      split at h
      · cases hpage : read n gap.request >>= gap.addPage with
        | error message =>
            rw [hpage] at h
            cases h
        | ok next =>
            obtain ⟨gap', goesOn⟩ := next
            obtain ⟨page, -, hadd⟩ := readPage_eq_ok.mp hpage
            obtain ⟨hrunId, hbefore, -, hitems⟩ := ActivityGap.addPage_eq_ok hadd
            obtain ⟨hbounds, hnext⟩ := hitems start hread
            rw [hpage] at h
            cases goesOn with
            | false =>
                cases h
                exact hbounds
            | true =>
                have hrest := ih (hnext rfl) h
                rwa [hrunId, hbefore] at hrest
      · cases h
        exact hread.bounds

theorem activityGap_eq_some {previous : Option ActivityWindow} {next : ActivityWindow} :
    activityGap runId previous next = some gap ↔ ∃ shown before, previous = some shown ∧
      next.earliestSequence = some before ∧
      gap = { runId, before, after := shown.latestSequence.getD 0, items := [] } := by
  simp only [activityGap, Option.bind_eq_some_iff, Option.map_eq_some_iff]
  constructor
  · rintro ⟨shown, rfl, before, hbefore, rfl⟩
    exact ⟨shown, before, rfl, hbefore, rfl⟩
  · rintro ⟨shown, before, rfl, hbefore, rfl⟩
    exact ⟨shown, rfl, before, hbefore, rfl⟩

theorem ActivityGap.readFrom_nil (runId : String) (before after : Nat) :
    ActivityGap.ReadFrom { runId, before, after, items := [] } after where
  bounds := ⟨by simp, by simp, by simp, .nil⟩
  read := by simp
  start := Nat.le_refl _

end Gaps

/-! ## The pages of the Kernel -/

section Kernel

variable {kernel : KernelContext} {w : World} {runId : String}
  {log log' : List RunActivityEventView} {after before upTo start : Nat}
  {gap : ActivityGap} {read : Nat → ActivityRequest → Except String ActivityPage} {fuel n : Nat}

theorem inBounds_range (hlog : ActivityNumbered runId log)
    (hsafe : (log.length : Int) ≤ maxSafeInteger) (hle : start ≤ after) (hupTo : upTo < before) :
    InBounds runId start before (activityRange log after upTo) where
  ofRun a ha := hlog.ofRun a (mem_numberedRange.mp ha).1
  safe a ha := by
    have hlength := (hlog.numbers.le_length (mem_numberedRange.mp ha).1).2
    exact isSafeInteger_of_stored (by omega)
  bounds a ha := by
    obtain ⟨-, hafter, hlast⟩ := mem_numberedRange.mp ha
    exact ⟨by omega, by omega⟩
  sorted := hlog.numbers.range_strict after upTo

theorem validate_pageAfter (hlog : ActivityNumbered runId log)
    (hsafe : (log.length : Int) ≤ maxSafeInteger) (hbefore : 0 < before) :
    validateActivityPage (pageAfter log 100 after before) runId before (some after) = .ok () := by
  have hlength : ¬ 100 < (pageAfter log 100 after before).items.length := by
    rw [pageAfter, hlog.numbers.range_length (by omega)]
    omega
  have hbounds : activityInBounds runId before after (pageAfter log 100 after before).items =
      true :=
    activityInBounds_iff.mpr (inBounds_range hlog hsafe (Nat.le_refl _) (by omega))
  have hcursor : ¬ ((pageAfter log 100 after before).hasMore = true ∧
      ((pageAfter log 100 after before).items.getLast?.map (·.sequence) = none ∨
        (pageAfter log 100 after before).nextCursor ≠
          (pageAfter log 100 after before).items.getLast?.map (·.sequence))) := by
    rintro ⟨hmore, hnone⟩
    have hmore : after + 100 < min (before - 1) log.length := of_decide_eq_true hmore
    have hlast : (activityRange log after (after + 100)).getLast?.map (·.sequence) =
        some (after + 100) := hlog.numbers.range_last (by omega) (by omega)
    have hupTo : min (after + 100) (min (before - 1) log.length) = after + 100 := by omega
    simp only [pageAfter, hmore, if_true, hupTo] at hnone
    rw [hlast] at hnone
    simp at hnone
  simp only [validateActivityPage, hlength, if_false, Option.getD_some, hbounds, not_true,
    Option.isNone_some, Bool.false_eq_true, hcursor]

theorem validate_pageBefore (hlog : ActivityNumbered runId log)
    (hsafe : (log.length : Int) ≤ maxSafeInteger) (hbefore : 0 < before) :
    validateActivityPage (pageBefore log 100 before) runId before none = .ok () := by
  have hlength : ¬ 100 < (pageBefore log 100 before).items.length := by
    rw [pageBefore, hlog.numbers.range_length (by omega)]
    omega
  have hbounds : activityInBounds runId before 0 (pageBefore log 100 before).items = true :=
    activityInBounds_iff.mpr (inBounds_range hlog hsafe (Nat.zero_le _) (by omega))
  have hcursor : ¬ ((pageBefore log 100 before).hasMore = true ∧
      ((pageBefore log 100 before).items.head?.map (·.sequence) = none ∨
        (pageBefore log 100 before).nextCursor ≠
          (pageBefore log 100 before).items.head?.map (·.sequence))) := by
    rintro ⟨hmore, hnone⟩
    have hmore : 100 < min (before - 1) log.length := of_decide_eq_true hmore
    have hhead : (activityRange log (min (before - 1) log.length - 100)
        (min (before - 1) log.length)).head?.map (·.sequence) =
          some (min (before - 1) log.length - 100 + 1) :=
      hlog.numbers.range_head (by omega) (by omega)
    simp only [pageBefore, hmore, if_true] at hnone
    rw [hhead] at hnone
    simp at hnone
  simp only [validateActivityPage, hlength, if_false, Option.getD_none, hbounds, not_true,
    Option.isNone_none, if_true, hcursor]

/-- What is added to the log changes no page before it. -/
theorem pageAfter_grown (hlog : ActivityNumbered runId log) (hlog' : ActivityNumbered runId log')
    (hgrown : log <+: log') (hbefore : before ≤ log.length) :
    pageAfter log' 100 after before = pageAfter log 100 after before := by
  have hlength := hgrown.length_le
  have hlast : min (before - 1) log'.length = min (before - 1) log.length := by omega
  simp only [pageAfter, hlast]
  rw [activityRange, ← hlog.numbers.range_grown hlog'.numbers hgrown (by omega)]

/-- The pages of the log fill the gap. -/
theorem readPages_filled (hlog : ActivityNumbered runId log)
    (hsafe : (log.length : Int) ≤ maxSafeInteger) (hbefore : before ≤ log.length)
    (hread : ∀ n after, after + 1 < before → read n (activityPath runId before (some after)) =
      .ok (pageAfter log 100 after before))
    (hfuel : before - after < fuel) (hstart : start ≤ after) (hafter : after < before) :
    readPages read (fun _ => true) fuel n
        { runId, after, before, items := activityRange log start after } =
      some (.ok (activityRange log start (before - 1))) := by
  induction fuel generalizing n after with
  | zero => exact absurd hfuel (Nat.not_lt_zero _)
  | succ fuel ih =>
      rw [readPages]
      by_cases hopen : after + 1 < before
      · have hlast : min (before - 1) log.length = before - 1 := by omega
        have hjoin : ∀ upTo, after ≤ upTo → upTo ≤ before - 1 →
            activityRange log start after ++ activityRange log after upTo =
              activityRange log start upTo := fun upTo hle hupTo =>
          hlog.numbers.range_append hstart hle (by omega)
        have hitems : activityRange log start after ++ (pageAfter log 100 after before).items =
            activityRange log start (min (after + 100) (before - 1)) := by
          rw [pageAfter, hlast]
          exact hjoin _ (by omega) (by omega)
        simp only [ActivityGap.isOpen, hopen, decide_true, Bool.and_true, if_true,
          ActivityGap.request, hread n after hopen, ActivityGap.addPage, bind, Except.bind,
          validate_pageAfter hlog hsafe (Nat.lt_of_le_of_lt (Nat.zero_le _) hafter), hitems]
        by_cases hmore : after + 100 < before - 1
        · have hupTo : min (after + 100) (before - 1) = after + 100 := by omega
          simp only [pageAfter, hlast, hmore, decide_true, if_true, Option.getD_some, hupTo]
          exact ih (by omega) (by omega) (by omega)
        · have hupTo : min (after + 100) (before - 1) = before - 1 := by omega
          simp only [pageAfter, hlast, hmore, decide_false, Bool.false_eq_true, if_false, hupTo]
          rfl
      · have hdone : after = before - 1 := by omega
        simp [ActivityGap.isOpen, hopen, ← hdone]

theorem latestWindow_earliest (hlog : ActivityNumbered runId log) :
    (latestWindow log 100).earliestSequence =
      if 0 < log.length then some (log.length - 100 + 1) else none := by
  rw [latestWindow, windowOf_earliest hlog (Nat.le_refl _)]
  have hiff : log.length - 100 < log.length ↔ 0 < log.length := by omega
  simp only [hiff]

/-- Between a window and the latest one. -/
theorem readActivityGap_filled (hlog : ActivityNumbered runId log)
    (hsafe : (log.length : Int) ≤ maxSafeInteger)
    (hread : ∀ n before after, before ≤ log.length → after < before →
      read n (activityPath runId before (some after)) = .ok (pageAfter log 100 after before))
    (previous : ActivityWindow) (hfuel : log.length < fuel) :
    readActivityGap runId (some previous) (latestWindow log 100) read (fun _ => true) fuel =
      some (.ok (activityRange log (previous.latestSequence.getD 0) (log.length - 100))) := by
  have hnil : ∀ upTo, upTo ≤ previous.latestSequence.getD 0 →
      activityRange log (previous.latestSequence.getD 0) upTo = [] :=
    fun _ hle => numberedRange_empty hle
  simp only [readActivityGap, activityGap, Option.bind_some, latestWindow_earliest hlog]
  by_cases hnone : 0 < log.length
  · simp only [hnone, if_true, Option.map_some, ← hnil _ (Nat.le_refl _)]
    by_cases hopen : previous.latestSequence.getD 0 < log.length - 100 + 1
    · refine readPages_filled hlog hsafe (by omega) (fun n after hafter => ?_) (by omega)
        (Nat.le_refl _) hopen
      exact hread n _ after (by omega) (by omega)
    · have hclosed : ¬ previous.latestSequence.getD 0 + 1 < log.length - 100 + 1 := by omega
      obtain ⟨fuel, rfl⟩ : ∃ n, fuel = n + 1 := ⟨fuel - 1, by omega⟩
      simp only [readPages, ActivityGap.isOpen, hclosed, decide_false, Bool.false_and,
        Bool.false_eq_true, if_false]
      rw [hnil _ (Nat.le_refl _), hnil (log.length - 100) (by omega)]
  · simp only [hnone, if_false, Option.map_none]
    rw [hnil (log.length - 100) (by omega)]

theorem activityLog_safe (hlog : ActivityNumbered runId (activityLog w.db runId))
    (hstored : ActivitiesStored w.db) :
    ((activityLog w.db runId).length : Int) ≤ maxSafeInteger := by
  by_cases hempty : (activityLog w.db runId).length = 0
  · rw [hempty]
    decide
  · have hlast : ∃ a ∈ activityLog w.db runId, a.sequence = (activityLog w.db runId).length :=
      hlog.numbers.exists_iff.mpr ⟨Nat.pos_of_ne_zero hempty, Nat.le_refl _⟩
    obtain ⟨a, ha, hsequence⟩ := hlast
    obtain ⟨r, hr, -, rfl⟩ := mem_activityLog.mp ha
    rw [← hsequence]
    exact (hstored r hr).2

end Kernel

/-! ## The gap is filled -/

/-- The Kernel answers a request for activities from one state of its database. -/
def answerActivity (db : Database) (request : ActivityRequest) : Except Failure ActivityPage :=
  listActivity db request.runId (request.afterSequence.map Int.ofNat) request.limit
    (some (request.beforeSequence : Int))

/-- What the client reads of the activities of a Run. -/
structure TimelineReads (kernel : KernelContext) (w : World) (runId : String) : Prop where
  /-- Every page of the Kernel passes the checks of the request it answers. -/
  valid : ∀ before after page, answerActivity w.db (activityPath runId before after) = .ok page →
    validateActivityPage page runId before after = .ok ()
  /-- Whatever a server answers, reading ends, and what is read lies in the gap. -/
  ends : ∀ previous next read isCurrent fuel, next.earliestSequence.getD 0 < fuel →
    readActivityGap runId previous next read isCurrent fuel ≠ none
  inBounds : ∀ previous next read isCurrent fuel items,
    readActivityGap runId previous next read isCurrent fuel = some (.ok items) →
      InBounds runId ((previous.bind (·.latestSequence)).getD 0)
        (next.earliestSequence.getD 0) items
  /-- Whatever the Kernel does in the meantime, the gap to the latest window is filled. -/
  filled : ∀ (worlds : Nat → World), (∀ n, Steps kernel w (worlds n)) →
    ∀ (read : Nat → ActivityRequest → Except String ActivityPage),
      (∀ n request page, answerActivity (worlds n).db request = .ok page →
        read n request = .ok page) →
      ∀ (previous : ActivityWindow) (fuel : Nat), (activityLog w.db runId).length < fuel →
        readActivityGap runId (some previous) (latestActivityWindow w.db runId 100) read
            (fun _ => true) fuel =
          some (.ok (activityRange (activityLog w.db runId) (previous.latestSequence.getD 0)
            ((activityLog w.db runId).length - 100)))

section Reads

variable {kernel : KernelContext} {w : World} {runId : String}

theorem answerActivity_after (hlog : ActivityNumbered runId (activityLog w.db runId))
    {before after : Nat}
    (hvalid : activityBoundsValid (some (after : Int)) (some (before : Int)) = true) :
    answerActivity w.db (activityPath runId before (some after)) =
      .ok (pageAfter (activityLog w.db runId) 100 after before) :=
  listActivity_after hlog (show 0 < 100 by decide) hvalid

theorem answerActivity_before (hlog : ActivityNumbered runId (activityLog w.db runId))
    {before : Nat} (hvalid : activityBoundsValid none (some (before : Int)) = true) :
    answerActivity w.db (activityPath runId before none) =
      .ok (pageBefore (activityLog w.db runId) 100 before) :=
  listActivity_before hlog (show 0 < 100 by decide) hvalid

/-- The page that is answered to a request. -/
theorem answerActivity_eq_ok (hlog : ActivityNumbered runId (activityLog w.db runId)) {before : Nat}
    {after : Option Nat} {page : ActivityPage}
    (h : answerActivity w.db (activityPath runId before after) = .ok page) :
    0 < before ∧ page = after.elim (pageBefore (activityLog w.db runId) 100 before)
      fun after => pageAfter (activityLog w.db runId) 100 after before := by
  have hvalid : activityBoundsValid (after.map Int.ofNat) (some (before : Int)) = true := by
    by_contra hinvalid
    have hanswer : answerActivity w.db (activityPath runId before after) = _ := if_neg hinvalid
    rw [hanswer] at h
    cases h
  have hbefore : 0 < before := by
    have hpositive := hvalid
    simp only [activityBoundsValid, Option.all_some, Bool.and_eq_true, decide_eq_true_eq]
      at hpositive
    omega
  refine ⟨hbefore, ?_⟩
  cases after with
  | none =>
      rw [answerActivity_before hlog hvalid] at h
      exact (Except.ok.inj h).symm
  | some after =>
      rw [answerActivity_after hlog hvalid] at h
      exact (Except.ok.inj h).symm

theorem answerActivity_valid (hlog : ActivityNumbered runId (activityLog w.db runId))
    (hsafe : ((activityLog w.db runId).length : Int) ≤ maxSafeInteger) {before : Nat}
    {after : Option Nat} {page : ActivityPage}
    (h : answerActivity w.db (activityPath runId before after) = .ok page) :
    validateActivityPage page runId before after = .ok () := by
  obtain ⟨hbefore, rfl⟩ := answerActivity_eq_ok hlog h
  cases after with
  | none => exact validate_pageBefore hlog hsafe hbefore
  | some after => exact validate_pageAfter hlog hsafe hbefore

theorem activityBoundsValid_of_le {log : List RunActivityEventView} {before after : Nat}
    (hsafe : (log.length : Int) ≤ maxSafeInteger) (hbefore : before ≤ log.length)
    (hafter : after < before) :
    activityBoundsValid (some (after : Int)) (some (before : Int)) = true := by
  have hsafeAfter : isSafeInteger (after : Int) = true := isSafeInteger_of_stored (by omega)
  have hsafeBefore : isSafeInteger (before : Int) = true := isSafeInteger_of_stored (by omega)
  simp only [activityBoundsValid, Option.all_some, hsafeAfter, hsafeBefore, Bool.true_and,
    Bool.and_eq_true, decide_eq_true_eq]
  omega

end Reads

/-! ## A reported activity -/

/-- The Activation has reported on its work. -/
def reportedWorld : World := step countingKernel appendActivityCall writingWorld

end Torsor.Web
