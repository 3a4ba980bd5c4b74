import Torsor.Library.NumberedRange
import Torsor.Kernel.ActivityPages
import Torsor.Kernel.RunLaws

/-! # The activity log of a Run

The activities of a Run are numbered from one on and are never taken back. A page of them and
the window of the latest ones are ranges of this log.
-/

namespace Torsor.Kernel

open Torsor.Library

/-- The activities of a Run, in the order in which they were appended. -/
def activityLog (db : Database) (runId : String) : List RunActivityEventView :=
  ((db.table RunActivityEvent).filter fun r => r.runId = runId).map mapActivity

/-- The activities of one Run, numbered from one on. -/
structure ActivityNumbered (runId : String) (log : List RunActivityEventView) : Prop where
  numbers : IsNumbered RunActivityEventView.sequence log
  ofRun : ∀ a ∈ log, a.runId = runId
  ids : ∀ a ∈ log, ∀ b ∈ log, a.id = b.id → a = b

/-- The activities after one sequence and up to another one. -/
abbrev activityRange (log : List RunActivityEventView) (after upTo : Nat) :
    List RunActivityEventView :=
  numberedRange RunActivityEventView.sequence log after upTo

/-- The window of some activities in the order of their sequence. -/
def windowOf (items : List RunActivityEventView) (hasEarlier : Bool) : ActivityWindow where
  items
  hasEarlier
  earliestSequence := items.head?.map (·.sequence)
  latestSequence := items.getLast?.map (·.sequence)

/-! ## The log of a reachable state -/

section Reachable

variable {kernel : KernelContext} {w w' : World} {runId : String}

theorem activityLog_eq (db : Database) (runId : String) :
    activityLog db runId = (runBook db runId).activities.map mapActivity := by
  simp only [activityLog, runBook, runFile, List.map_map]
  rfl

theorem mem_activityLog {db : Database} {a : RunActivityEventView} :
    a ∈ activityLog db runId ↔
      ∃ r ∈ db.table RunActivityEvent, r.runId = runId ∧ mapActivity r = a := by
  simp [activityLog, and_assoc]

theorem Reachable.activityNumbered (h : Reachable kernel w) (runId : String) :
    ActivityNumbered runId (activityLog w.db runId) where
  numbers := by
    have hactivities := (h.runSound runId).numbered.activities
    rw [IsNumbered, activityLog_eq, List.length_map, List.map_map]
    exact hactivities
  ofRun a ha := by
    obtain ⟨r, -, hof, rfl⟩ := mem_activityLog.mp ha
    exact hof
  ids a ha b hb hid := by
    obtain ⟨r, hr, -, rfl⟩ := mem_activityLog.mp ha
    obtain ⟨r', hr', -, rfl⟩ := mem_activityLog.mp hb
    have hid : r.id = r'.id := hid
    have hsame : r = r' := Table.eq_of_key hr hr'
      (k := primaryKey [.text r.id]) (by simp [Keyed.keys]) (by simp [Keyed.keys, hid])
    rw [hsame]

/-- What was appended stays where it is. -/
theorem Steps.activityLog (hs : Steps kernel w w') (runId : String) :
    activityLog w.db runId <+: activityLog w'.db runId := by
  obtain ⟨new, hactivities⟩ := (hs.runEvolves runId).activities
  rw [activityLog_eq, activityLog_eq, hactivities, List.map_append]
  exact List.prefix_append _ _

end Reachable

/-! ## Pages and windows of the log -/

/-- The page after one sequence and before another one. -/
def pageAfter (log : List RunActivityEventView) (limit after before : Nat) : ActivityPage :=
  let last := min (before - 1) log.length
  { items := activityRange log after (min (after + limit) last)
    nextCursor := if after + limit < last then some (after + limit) else none
    hasMore := after + limit < last }

/-- The last page before a sequence. -/
def pageBefore (log : List RunActivityEventView) (limit before : Nat) : ActivityPage :=
  let last := min (before - 1) log.length
  { items := activityRange log (last - limit) last
    nextCursor := if limit < last then some (last - limit + 1) else none
    hasMore := limit < last }

/-- The window of the latest activities. -/
def latestWindow (log : List RunActivityEventView) (limit : Nat) : ActivityWindow :=
  windowOf (activityRange log (log.length - limit) log.length) (decide (limit < log.length))

section Pages

variable {db : Database} {runId : String} {limit after before : Nat}

theorem activitiesBetween_log (hlog : ActivityNumbered runId (activityLog db runId))
    (hbefore : 0 < before) :
    (activitiesBetween db runId after (some (before : Int))).map mapActivity =
      activityRange (activityLog db runId) after
        (min (before - 1) (activityLog db runId).length) := by
  refine @eq_of_strict _ _ _ RunActivityEventView.sequence _ _
    (List.pairwise_map.mpr activitiesBetween_sorted) (hlog.numbers.range_strict _ _) fun a => ?_
  rw [mem_numberedRange, List.mem_map]
  constructor
  · rintro ⟨r, hr, rfl⟩
    obtain ⟨hstored, hof, hafter, hlast⟩ := mem_activitiesBetween.mp hr
    have hlast := hlast _ rfl
    have hmem : mapActivity r ∈ activityLog db runId := mem_activityLog.mpr ⟨r, hstored, hof, rfl⟩
    have hle := (hlog.numbers.le_length hmem).2
    have hsequence : (mapActivity r).sequence = r.sequence := rfl
    exact ⟨hmem, by omega, by omega⟩
  · rintro ⟨ha, hafter, hlast⟩
    obtain ⟨r, hr, hof, rfl⟩ := mem_activityLog.mp ha
    have hsequence : (mapActivity r).sequence = r.sequence := rfl
    refine ⟨r, mem_activitiesBetween.mpr ⟨hr, hof, by omega, ?_⟩, rfl⟩
    intro b hb
    cases hb
    omega

/-- A page forwards is the range after its lower bound. -/
theorem listActivity_after (hlog : ActivityNumbered runId (activityLog db runId))
    (hlimit : 0 < limit)
    (hvalid : activityBoundsValid (some (after : Int)) (some (before : Int)) = true) :
    listActivity db runId (some (after : Int)) limit (some (before : Int)) =
      .ok (pageAfter (activityLog db runId) limit after before) := by
  have hbefore : 0 < before := by
    simp only [activityBoundsValid, Option.all_some, Bool.and_eq_true, decide_eq_true_eq] at hvalid
    omega
  have hfound := @activitiesBetween_log _ _ after _ hlog hbefore
  have hlength := congrArg List.length hfound
  rw [List.length_map, hlog.numbers.range_length (min_le_right _ _)] at hlength
  have hmore : limit < (activitiesBetween db runId after (some (before : Int))).length ↔
      after + limit < min (before - 1) (activityLog db runId).length := by omega
  simp only [listActivity, hvalid, if_true, Option.isSome_some, Option.isNone_some, Bool.and_false,
    Bool.false_eq_true, if_false, Option.getD_some, take_lookAhead, lookAhead_iff, List.map_take,
    hfound, hlog.numbers.take_range (min_le_right _ _), hmore, decide_eq_true_eq, pageAfter]
  congr 2
  split
  · rename_i hnext
    have hupTo : min (after + limit) (min (before - 1) (activityLog db runId).length) =
      after + limit := min_eq_left (Nat.le_of_lt hnext)
    rw [hupTo]
    exact hlog.numbers.range_last (by omega) (by omega)
  · rfl

/-- A page backwards is the range that ends before its upper bound. -/
theorem listActivity_before (hlog : ActivityNumbered runId (activityLog db runId))
    (hlimit : 0 < limit)
    (hvalid : activityBoundsValid none (some (before : Int)) = true) :
    listActivity db runId none limit (some (before : Int)) =
      .ok (pageBefore (activityLog db runId) limit before) := by
  have hbefore : 0 < before := by
    simp only [activityBoundsValid, Option.all_some, Option.all_none, Bool.and_eq_true,
      decide_eq_true_eq] at hvalid
    omega
  have hfound : (activitiesBetween db runId 0 (some (before : Int))).map mapActivity =
      activityRange (activityLog db runId) 0 (min (before - 1) (activityLog db runId).length) :=
    @activitiesBetween_log _ _ 0 _ hlog hbefore
  have hlength := congrArg List.length hfound
  rw [List.length_map, hlog.numbers.range_length (min_le_right _ _), Nat.sub_zero] at hlength
  have hitems : ((activitiesBetween db runId 0 (some (before : Int))).reverse.take limit).map
      mapActivity = (activityRange (activityLog db runId)
        (min (before - 1) (activityLog db runId).length - limit)
        (min (before - 1) (activityLog db runId).length)).reverse := by
    rw [List.take_reverse, List.map_reverse, List.map_drop, hfound,
      hlog.numbers.drop_range (min_le_right _ _), hlength, Nat.zero_add]
  simp only [listActivity, hvalid, if_true, Option.isSome_some, Option.isNone_none, Bool.and_true,
    Option.getD_none, take_lookAhead, lookAhead_iff, List.length_reverse, hitems,
    List.reverse_reverse, hlength, decide_eq_true_eq, pageBefore, List.getLast?_reverse]
  congr 2
  split
  · exact hlog.numbers.range_head (by omega) (min_le_right _ _)
  · rfl

/-- The latest window is the range that ends with the last activity. -/
theorem latestActivityWindow_log (hlog : ActivityNumbered runId (activityLog db runId))
    (limit : Nat) :
    latestActivityWindow db runId limit = latestWindow (activityLog db runId) limit := by
  have hsorted : orderBy RunActivityEvent.sequence
      ((db.table RunActivityEvent).filter fun r => r.runId = runId) =
        (db.table RunActivityEvent).filter fun r => r.runId = runId := by
    refine orderBy_of_pairwise ?_
    have hstrict := hlog.numbers.strict
    rw [activityLog, List.pairwise_map] at hstrict
    exact hstrict.imp fun hlt => Nat.le_of_lt hlt
  have hlength : ((db.table RunActivityEvent).filter fun r => r.runId = runId).length =
      (activityLog db runId).length := by
    rw [activityLog, List.length_map]
  have hitems : (((db.table RunActivityEvent).filter fun r => r.runId = runId).reverse.take
      limit).reverse.map mapActivity = activityRange (activityLog db runId)
        ((activityLog db runId).length - limit) (activityLog db runId).length := by
    rw [List.take_reverse, List.reverse_reverse, List.map_drop, hlength]
    have hall := hlog.numbers.range_all
    have hdrop := @IsNumbered.drop_range _ _ _ 0 _ hlog.numbers (Nat.le_refl _)
      ((activityLog db runId).length - limit)
    rw [hall, Nat.zero_add] at hdrop
    exact hdrop
  simp only [latestActivityWindow, activityWindow, hsorted, take_lookAhead, hitems, latestWindow,
    windowOf, lookAhead_iff, List.length_reverse, hlength]

end Pages

end Torsor.Kernel
