import Torsor.Library.KeysetPages
import Torsor.Kernel.PhysicalWorktrees
import Torsor.Kernel.Projections

/-! # Pages of the activity of a Run

The activity of a Run is read forwards from a lower bound, or backwards from an upper bound when
no lower bound is given. Either way a page looks for one activity more than it shows, and its
cursor is the sequence of the activity that is read last.
-/

namespace Torsor.Kernel

open Torsor.Library

/-! ## A page -/

structure ActivityPage where
  items : List RunActivityEventView
  nextCursor : Option Nat
  hasMore : Bool

/-- `Number.isSafeInteger`. -/
def isSafeInteger (n : Int) : Bool := -maxSafeInteger ≤ n && n ≤ maxSafeInteger

/-- The bounds a page may be asked for with. -/
def activityBoundsValid (afterSequence beforeSequence : Option Int) : Bool :=
  afterSequence.all (fun after => isSafeInteger after && 0 ≤ after) &&
    beforeSequence.all (fun before => isSafeInteger before && 1 ≤ before) &&
    afterSequence.all fun after => beforeSequence.all fun before => after < before

/-- `WHERE run_id = ? AND sequence > ? AND sequence < ?`, in the order of the sequence. -/
def activitiesBetween (db : Database) (runId : String) (afterSequence : Int)
    (beforeSequence : Option Int) : List RunActivityEvent :=
  orderBy RunActivityEvent.sequence
    ((db.table RunActivityEvent).filter fun r =>
      r.runId = runId && afterSequence < r.sequence &&
        beforeSequence.all fun before => (r.sequence : Int) < before)

def listActivity (db : Database) (runId : String) (afterSequence : Option Int) (limit : Nat)
    (beforeSequence : Option Int) : Except Failure ActivityPage :=
  if activityBoundsValid afterSequence beforeSequence then
    let backwards := beforeSequence.isSome && afterSequence.isNone
    let found := activitiesBetween db runId (afterSequence.getD 0) beforeSequence
    let rows := (if backwards then found.reverse else found).take (limit + 1)
    let hasMore : Bool := limit < rows.length
    let items := (rows.take limit).map mapActivity
    .ok
      { items := if backwards then items.reverse else items
        nextCursor := if hasMore then items.getLast?.map (·.sequence) else none
        hasMore }
  else
    .error (kernelError .InvalidCommand
      ("Activity sequence bounds must be ordered nonnegative safe integers; " ++
        "beforeSequence must be positive."))

/-! ## Following the cursors -/

def ActivityPage.toPage (page : ActivityPage) : Page RunActivityEventView Int where
  items := page.items
  more := page.hasMore
  next := page.nextCursor.map Int.ofNat

/-- The pages a client reads that gives every cursor back as `afterSequence`. -/
def followForwards (db : Database) (runId : String) (limit : Nat) (beforeSequence : Option Int)
    (fuel : Nat) (afterSequence : Option Int) : Option (List (List RunActivityEventView)) :=
  follow (fun after =>
    (listActivity db runId after limit beforeSequence).toOption.map ActivityPage.toPage)
    fuel afterSequence

/-- The pages a client reads that gives every cursor back as `beforeSequence`. -/
def followBackwards (db : Database) (runId : String) (limit : Nat) (fuel : Nat)
    (beforeSequence : Int) : Option (List (List RunActivityEventView)) :=
  follow (fun before =>
    (listActivity db runId none limit before).toOption.map ActivityPage.toPage)
    fuel (some beforeSequence)

/-- The number of the activity of a stored row is positive, by a check of its table, and safe. -/
def ActivitiesStored (db : Database) : Prop :=
  ∀ r ∈ db.table RunActivityEvent, 0 < r.sequence ∧ (r.sequence : Int) ≤ maxSafeInteger

section Between

variable {db : Database} {runId : String} {after : Int} {before : Option Int}
  {r : RunActivityEvent}

theorem mem_activitiesBetween : r ∈ activitiesBetween db runId after before ↔
    r ∈ db.table RunActivityEvent ∧ r.runId = runId ∧ after < r.sequence ∧
      ∀ b ∈ before, (r.sequence : Int) < b := by
  simp only [activitiesBetween, mem_orderBy, Table.mem_filter]
  cases before <;> simp [and_assoc]

theorem activitiesBetween_sorted :
    (activitiesBetween db runId after before).Pairwise fun a b => a.sequence < b.sequence := by
  apply orderBy_strict
  have hpair : (db.table RunActivityEvent).rows.Pairwise fun a b =>
      List.Disjoint (Keyed.keys a) (Keyed.keys b) :=
    (List.nodup_flatMap.mp (db.table RunActivityEvent).unique).2
  rw [List.Nodup, List.pairwise_map]
  refine (hpair.filter _).imp_of_mem fun {x y} hx hy hdisjoint hsame => ?_
  have hofx : x.runId = runId := by
    have hx := (List.mem_filter.mp hx).2
    simp_all
  have hofy : y.runId = runId := by
    have hy := (List.mem_filter.mp hy).2
    simp_all
  apply hdisjoint (a := ⟨1, [.text runId, .integer x.sequence]⟩)
  · simp [Keyed.keys, hofx]
  · simp [Keyed.keys, hofy, hsame]

/-- Moving a bound keeps the activities that are within it. -/
theorem activitiesBetween_filter {after' : Int} {before' : Option Int}
    {p : RunActivityEvent → Bool}
    (h : ∀ r : RunActivityEvent, (after' < r.sequence ∧ ∀ b ∈ before', (r.sequence : Int) < b) ↔
      (after < r.sequence ∧ ∀ b ∈ before, (r.sequence : Int) < b) ∧ p r = true) :
    (activitiesBetween db runId after before).filter p =
      activitiesBetween db runId after' before' := by
  apply eq_of_strict (activitiesBetween_sorted.filter _) activitiesBetween_sorted
  intro r
  rw [List.mem_filter, mem_activitiesBetween, mem_activitiesBetween, h r]
  tauto

end Between

/-! ## Pages -/

section Pages

variable {db : Database} {runId : String} {limit : Nat} {after before : Option Int}

/-- The sequence an activity is shown with, as the number a client gives back. -/
def RunActivityEventView.cursor (activity : RunActivityEventView) : Int := activity.sequence

theorem lookAhead_iff (rows : List RunActivityEvent) :
    limit < (rows.take (limit + 1)).length ↔ limit < rows.length := by
  rw [List.length_take]
  omega

theorem take_lookAhead (rows : List RunActivityEvent) :
    (rows.take (limit + 1)).take limit = rows.take limit := by
  rw [List.take_take]
  congr 1
  omega

theorem cursor_map (items : List RunActivityEventView) (more : Prop) [Decidable more] :
    (if decide more = true then items.getLast?.map (·.sequence) else none).map Int.ofNat =
      if more then items.getLast?.map RunActivityEventView.cursor else none := by
  by_cases hmore : more
  · simp only [hmore, decide_true, if_true, Option.map_map]
    rfl
  · simp [hmore]

/-- A page forwards shows the first activities within the bounds. -/
theorem listActivity_forwards (hvalid : activityBoundsValid after before = true)
    (hforwards : after.isSome ∨ before = none) :
    (listActivity db runId after limit before).toOption.map ActivityPage.toPage =
      some (pageOf RunActivityEventView.cursor limit
        ((activitiesBetween db runId (after.getD 0) before).map mapActivity)) := by
  have hbackwards : (before.isSome && after.isNone) = false := by
    cases hforwards with
    | inl hafter => simp [Option.isNone_eq_false_iff.mpr hafter]
    | inr hbefore => simp [hbefore]
  simp only [listActivity, hvalid, hbackwards, if_true, Bool.false_eq_true, if_false,
    Except.toOption, Option.map_some, ActivityPage.toPage, pageOf, take_lookAhead, lookAhead_iff,
    List.length_map, List.map_take, cursor_map]

/-- A page backwards shows the last activities before its bound, still in their order. -/
theorem listActivity_backwards (hvalid : activityBoundsValid none before = true)
    (hbackwards : before.isSome) :
    (listActivity db runId none limit before).toOption.map ActivityPage.toPage =
      (some (pageOf RunActivityEventView.cursor limit
        ((activitiesBetween db runId 0 before).reverse.map mapActivity))).map fun page =>
          { page with items := page.items.reverse } := by
  simp only [listActivity, hvalid, hbackwards, if_true, Option.isNone_none, Bool.and_true,
    Except.toOption, Option.map_some, ActivityPage.toPage, pageOf, take_lookAhead, lookAhead_iff,
    List.length_map, List.map_take, Option.getD_none, cursor_map]

end Pages

/-! ## Traversals -/

section Traversals

variable {db : Database} {runId : String} {limit : Nat} {after before : Option Int}

theorem isSafeInteger_of_stored {n : Nat} (h : (n : Int) ≤ maxSafeInteger) :
    isSafeInteger n = true := by
  have hlow : -maxSafeInteger ≤ (n : Int) := by
    simp only [maxSafeInteger]
    omega
  simp [isSafeInteger, hlow, h]

/-- An activity that is listed may be the cursor of the next page. -/
theorem activityBoundsValid_after (hstored : ActivitiesStored db)
    (hvalid : activityBoundsValid after before = true) {r : RunActivityEvent}
    (hr : r ∈ activitiesBetween db runId (after.getD 0) before) :
    activityBoundsValid (some (r.sequence : Int)) before = true := by
  obtain ⟨hmem, -, -, hbefore⟩ := mem_activitiesBetween.mp hr
  have hsafe := isSafeInteger_of_stored (hstored r hmem).2
  cases before with
  | none => simp [activityBoundsValid, hsafe]
  | some b =>
      have hb := hbefore b rfl
      simp_all [activityBoundsValid]

theorem activityBoundsValid_before (hstored : ActivitiesStored db) {r : RunActivityEvent}
    (hr : r ∈ db.table RunActivityEvent) :
    activityBoundsValid none (some (r.sequence : Int)) = true := by
  obtain ⟨hpositive, hsafe⟩ := hstored r hr
  simp [activityBoundsValid, isSafeInteger_of_stored hsafe]
  omega

theorem followForwards_flatten (hstored : ActivitiesStored db) (hlimit : 0 < limit)
    (hvalid : activityBoundsValid after before = true) (hforwards : after.isSome ∨ before = none)
    {fuel : Nat} (hfuel : (activitiesBetween db runId (after.getD 0) before).length < fuel) :
    ∃ pages, followForwards db runId limit before fuel after = some pages ∧
      pages.flatten = (activitiesBetween db runId (after.getD 0) before).map mapActivity := by
  apply follow_flatten (fun a b : Int => a < b) RunActivityEventView.cursor hlimit
    _ _ fuel [] _ after (List.nil_append _).symm (listActivity_forwards hvalid hforwards)
  · rw [List.length_map]
    exact hfuel
  · rw [List.pairwise_map]
    exact activitiesBetween_sorted.imp fun h => Int.ofNat_lt.mpr h
  · intro v hv
    obtain ⟨r, hr, rfl⟩ := List.mem_map.mp hv
    have hafter := (mem_activitiesBetween.mp hr).2.2.1
    have hnext := activityBoundsValid_after hstored hvalid hr
    refine (listActivity_forwards hnext (.inl rfl)).trans ?_
    rw [List.filter_map, activitiesBetween_filter]
    intro x
    simp only [Function.comp_apply, decide_eq_true_eq]
    constructor
    · rintro ⟨hlater, hb⟩
      exact ⟨⟨lt_trans hafter hlater, hb⟩, hlater⟩
    · rintro ⟨⟨-, hb⟩, hlater⟩
      exact ⟨hlater, hb⟩

theorem followBackwards_flatten (hstored : ActivitiesStored db) (hlimit : 0 < limit) {b : Int}
    (hvalid : activityBoundsValid none (some b) = true)
    {fuel : Nat} (hfuel : (activitiesBetween db runId 0 (some b)).length < fuel) :
    ∃ pages, followBackwards db runId limit fuel b = some pages ∧
      pages.reverse.flatten = (activitiesBetween db runId 0 (some b)).map mapActivity := by
  -- the pages with their items as they are read, from the last activity down
  let read : Option Int → Option (Page RunActivityEventView Int) := fun before =>
    ((listActivity db runId none limit before).toOption.map ActivityPage.toPage).map fun page =>
      { page with items := page.items.reverse }
  have hread : ∀ b, activityBoundsValid none (some b) = true → read (some b) =
      some (pageOf RunActivityEventView.cursor limit
        ((activitiesBetween db runId 0 (some b)).reverse.map mapActivity)) := by
    intro b hvalid
    simp only [read, listActivity_backwards hvalid rfl, Option.map_some, List.reverse_reverse]
  have hpages : followBackwards db runId limit fuel b =
      (follow read fuel (some b)).map fun pages => pages.map List.reverse := by
    rw [← follow_map read List.reverse fuel (some b)]
    simp [followBackwards, read, Function.comp_def]
  obtain ⟨pages, hfollow, hflatten⟩ : ∃ pages, follow read fuel (some b) = some pages ∧
      pages.flatten = (activitiesBetween db runId 0 (some b)).reverse.map mapActivity := by
    apply follow_flatten (fun a b : Int => b < a) RunActivityEventView.cursor hlimit
      _ _ fuel [] _ (some b) (List.nil_append _).symm (hread b hvalid)
    · rw [List.length_map, List.length_reverse]
      exact hfuel
    · rw [List.pairwise_map, List.pairwise_reverse]
      exact activitiesBetween_sorted.imp fun h => Int.ofNat_lt.mpr h
    · intro v hv
      obtain ⟨r, hr, rfl⟩ := List.mem_map.mp hv
      obtain ⟨hmem, -, -, hbefore⟩ := mem_activitiesBetween.mp (List.mem_reverse.mp hr)
      refine (hread _ (activityBoundsValid_before hstored hmem)).trans ?_
      rw [List.filter_map, List.filter_reverse, activitiesBetween_filter]
      intro x
      simp only [Function.comp_apply, decide_eq_true_eq, Option.mem_some_iff, forall_eq']
      have hr := hbefore b rfl
      constructor
      · rintro ⟨hpositive, hearlier⟩
        exact ⟨⟨hpositive, lt_trans hearlier hr⟩, hearlier⟩
      · rintro ⟨⟨hpositive, -⟩, hearlier⟩
        exact ⟨hpositive, hearlier⟩
  refine ⟨pages.map List.reverse, ?_, ?_⟩
  · rw [hpages, hfollow]
    rfl
  · rw [← List.reverse_flatten, hflatten, List.map_reverse, List.reverse_reverse]

end Traversals

/-! ## Every activity once -/

/-- However the activity of the Run is paged through, the pages hold the activities within the
bounds, each once and in order. -/
structure ActivityPagesLossless (db : Database) (runId : String) (limit : Nat) : Prop where
  /-- What is within the bounds. -/
  range : ∀ after before, let activities := (activitiesBetween db runId after before).map mapActivity
    (activities.Pairwise fun a b => a.sequence < b.sequence) ∧
      ∀ activity, activity ∈ activities ↔ ∃ r ∈ db.table RunActivityEvent,
        r.runId = runId ∧ after < r.sequence ∧ (∀ b ∈ before, (r.sequence : Int) < b) ∧
          mapActivity r = activity
  forwards : ∀ after before, activityBoundsValid after before = true →
    (after.isSome ∨ before = none) →
      ∀ fuel, (db.table RunActivityEvent).rows.length < fuel →
        ∃ pages, followForwards db runId limit before fuel after = some pages ∧
          pages.flatten = (activitiesBetween db runId (after.getD 0) before).map mapActivity
  backwards : ∀ b, activityBoundsValid none (some b) = true →
    ∀ fuel, (db.table RunActivityEvent).rows.length < fuel →
      ∃ pages, followBackwards db runId limit fuel b = some pages ∧
        pages.reverse.flatten = (activitiesBetween db runId 0 (some b)).map mapActivity
  /-- Forwards through an interval and backwards from its upper bound down to the lower one. -/
  agree : ∀ a b, activityBoundsValid (some a) (some b) = true →
    ∀ fuel, (db.table RunActivityEvent).rows.length < fuel →
      ∃ forwards backwards, followForwards db runId limit (some b) fuel (some a) = some forwards ∧
        followBackwards db runId limit fuel b = some backwards ∧
        forwards.flatten = backwards.reverse.flatten.filter fun activity => a < activity.sequence

/-- Paging through the activity of a Run loses nothing and repeats nothing. -/
theorem activity_pages_lossless {db : Database} (hstored : ActivitiesStored db) (runId : String)
    {limit : Nat} (hlimit : 0 < limit) : ActivityPagesLossless db runId limit := by
  have hlength : ∀ after before fuel, (db.table RunActivityEvent).rows.length < fuel →
      (activitiesBetween db runId after before).length < fuel := by
    intro after before fuel hfuel
    have hperm := (orderBy_perm RunActivityEvent.sequence
      ((db.table RunActivityEvent).filter fun r => r.runId = runId && after < r.sequence &&
        before.all fun before => (r.sequence : Int) < before)).length_eq
    rw [activitiesBetween, hperm]
    exact lt_of_le_of_lt (List.length_filter_le _ _) hfuel
  have hbackwards : ∀ b, activityBoundsValid none (some b) = true →
      ∀ fuel, (db.table RunActivityEvent).rows.length < fuel →
        ∃ pages, followBackwards db runId limit fuel b = some pages ∧
          pages.reverse.flatten = (activitiesBetween db runId 0 (some b)).map mapActivity := by
    intro b hvalid fuel hfuel
    exact followBackwards_flatten hstored hlimit hvalid (hlength 0 (some b) fuel hfuel)
  refine ⟨?_, ?_, hbackwards, ?_⟩
  · intro after before
    refine ⟨List.pairwise_map.mpr activitiesBetween_sorted, ?_⟩
    intro activity
    simp only [List.mem_map, mem_activitiesBetween, and_assoc]
  · intro after before hvalid hforwards fuel hfuel
    exact followForwards_flatten hstored hlimit hvalid hforwards (hlength _ _ fuel hfuel)
  · intro a b hvalid fuel hfuel
    have hb : activityBoundsValid none (some b) = true := by
      simp_all [activityBoundsValid]
    have ha : 0 ≤ a := by
      simp_all [activityBoundsValid]
    obtain ⟨forwards, hforwards, hlist⟩ := followForwards_flatten hstored hlimit hvalid (.inl rfl)
      (hlength a (some b) fuel hfuel)
    obtain ⟨backwards, hpages, hreverse⟩ := hbackwards b hb fuel hfuel
    refine ⟨forwards, backwards, hforwards, hpages, ?_⟩
    have hinterval : (activitiesBetween db runId 0 (some b)).filter
        (fun r => a < (mapActivity r).sequence) = activitiesBetween db runId a (some b) := by
      apply activitiesBetween_filter
      intro r
      constructor
      · rintro ⟨hafter, hbefore⟩
        exact ⟨⟨lt_of_le_of_lt ha hafter, hbefore⟩, decide_eq_true hafter⟩
      · rintro ⟨⟨-, hbefore⟩, hafter⟩
        exact ⟨of_decide_eq_true hafter, hbefore⟩
    rw [hlist, hreverse, List.filter_map]
    exact congrArg (List.map mapActivity) hinterval.symm

/-! ## Three activities -/

def numberedActivity (sequence : Nat) : RunActivityEvent where
  id := toString sequence
  runId := "run"
  activationId := some "activation"
  providerAttemptId := none
  sequence
  kind := "message"
  payload := .null
  retentionClass := .durable
  createdEventSequence := none
  createdAt := 0

def emptyDatabase : Database := fun _ => Table.empty

def threeActivities : Database :=
  emptyDatabase.set
    (⟨[numberedActivity 1, numberedActivity 2, numberedActivity 3], by decide⟩ :
      Table RunActivityEvent)

theorem threeActivities_stored : ActivitiesStored threeActivities := by
  have hrows : (threeActivities.table RunActivityEvent).rows =
      [numberedActivity 1, numberedActivity 2, numberedActivity 3] := by
    rw [threeActivities, Database.table_set_same]
  intro r hr
  rw [← Table.mem_rows, hrows] at hr
  simp only [List.mem_cons, List.not_mem_nil, or_false] at hr
  obtain rfl | rfl | rfl := hr <;> decide

theorem threeActivities_pages_lossless : ActivityPagesLossless threeActivities "run" 2 :=
  activity_pages_lossless threeActivities_stored "run" (by decide)

example : (followBackwards threeActivities "run" 2 4 4).map
    (fun pages => pages.map fun page => page.map (·.sequence)) = some [[2, 3], [1]] := by
  decide +kernel

end Torsor.Kernel
