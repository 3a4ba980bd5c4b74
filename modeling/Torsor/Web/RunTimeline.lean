import Torsor.Web.ReadInvariants
import Torsor.Web.TimelineHistory

/-! # The timeline of the selected Run

A window reads its Run again when it is selected, when its composer is refreshed and when an
event invalidates it, and it reads pages of earlier activities beside that. The reads overlap,
and every response may come late: only the newest read of the selection is shown, and what is
shown is merged with what was shown when the response came.
-/

namespace Torsor.Web

open Torsor.Library Torsor.Kernel

/-! ## State -/

/-- How far a read of the Run is. -/
inductive TimelineStage where
  | requested
  /-- The server has answered with the Run. -/
  | answered (run : RunProjection)
  /-- A page of the gap to what was shown is asked for, and answered if there is a page. -/
  | paging (run : RunProjection) (previous : Option ActivityWindow) (gap : ActivityGap)
      (page : Option ActivityPage)
  | paged (run : RunProjection) (previous : Option ActivityWindow)
      (items : List RunActivityEventView)
  /-- The Run with its history, as it is to be shown. -/
  | merged (run : RunProjection)
  | failed
  | settled

structure TimelineRead where
  runId : String
  sessionGeneration : Nat
  requestGeneration : Nat
  /-- The read is one of `refreshRunComposer`. -/
  composer : Bool
  stage : TimelineStage

inductive HistoryStage where
  | requested
  | answered (page : ActivityPage)
  | settled

/-- A call of `loadEarlierRunActivity`. -/
structure HistoryRead where
  runId : String
  before : Nat
  sessionGeneration : Nat
  selectionGeneration : Nat
  stage : HistoryStage

/-- The window and the Kernel it reads from. -/
structure TimelineView where
  world : World
  disposed : Bool
  sessionGeneration : Nat
  runRequestGeneration : Nat
  runSelectionGeneration : Nat
  runId : Option String
  run : Option RunProjection
  loadingRunHistory : Bool
  reads : List TimelineRead
  histories : List HistoryRead

/-! ## The controller -/

/-- What `#readRunWithHistory` makes of its responses. -/
def withHistory (runId : String) (previous : Option ActivityWindow)
    (gap : List RunActivityEventView) (run : RunProjection) (current : Option RunProjection) :
    Except String RunProjection := do
  let history : ActivityPage :=
    { items := gap, hasMore := previous.elim false (·.hasEarlier), nextCursor := none }
  let activity ← mergeActivity runId [historyWindow history, run.activity]
  mergeRunTimeline current { run with activity }

/-- What `loadEarlierRunActivity` makes of its page. -/
def withEarlier (history : HistoryRead) (page : ActivityPage) (current : RunProjection) :
    Except String RunProjection := do
  validateActivityPage page history.runId history.before none
  let activity ← mergeActivity history.runId [historyWindow page, current.activity]
  pure { current with activity := { activity with hasEarlier := page.hasMore } }

namespace TimelineView

/-- A window that has just been opened. -/
def opened (world : World) : TimelineView where
  world
  disposed := false
  sessionGeneration := 0
  runRequestGeneration := 0
  runSelectionGeneration := 0
  runId := none
  run := none
  loadingRunHistory := false
  reads := []
  histories := []

def isCurrent (s : TimelineView) (read : TimelineRead) : Bool :=
  (read.composer || !s.disposed) && s.sessionGeneration = read.sessionGeneration &&
    s.runRequestGeneration = read.requestGeneration && s.runId = some read.runId

def isCurrentHistory (s : TimelineView) (history : HistoryRead) : Bool :=
  !s.disposed && s.sessionGeneration = history.sessionGeneration &&
    s.runSelectionGeneration = history.selectionGeneration && s.runId = some history.runId

def shownActivity (s : TimelineView) (runId : String) : Option ActivityWindow :=
  (s.run.filter fun run => run.run.id = runId).map (·.activity)

/-- Nothing is shown of a Run any more. -/
def unshow (runId : Option String) (s : TimelineView) : TimelineView :=
  { s with runId, run := none, loadingRunHistory := false }

def issue (runId : String) (composer : Bool) (s : TimelineView) : TimelineView :=
  { s with
    runRequestGeneration := s.runRequestGeneration + 1
    reads := s.reads ++
      [{ runId, composer, sessionGeneration := s.sessionGeneration
         requestGeneration := s.runRequestGeneration + 1, stage := .requested }] }

def loadRun (runId : String) (s : TimelineView) : TimelineView :=
  if s.runId = some runId then s.issue runId false
  else
    ({ s with runSelectionGeneration := s.runSelectionGeneration + 1 }.unshow (some runId)).issue
      runId false

def refreshRunComposer (runId : String) (s : TimelineView) : Option TimelineView :=
  if (s.shownActivity runId).isSome && s.runId = some runId then some (s.issue runId true) else none

/-- `clearRun`, or `clearThread`. -/
def clearRun (s : TimelineView) : TimelineView :=
  { s with
    runRequestGeneration := s.runRequestGeneration + 1
    runSelectionGeneration := s.runSelectionGeneration + 1 }.unshow none

def bootstrap (s : TimelineView) : TimelineView :=
  { s with
    sessionGeneration := s.sessionGeneration + 1
    runRequestGeneration := s.runRequestGeneration + 1 }.unshow none

def clearSession (s : TimelineView) : TimelineView :=
  { s with sessionGeneration := s.sessionGeneration + 1 }.unshow none

def setStage (n : Nat) (stage : TimelineStage) (s : TimelineView) : TimelineView :=
  { s with reads := s.reads.modify n fun read => { read with stage } }

def setHistoryStage (n : Nat) (stage : HistoryStage) (s : TimelineView) : TimelineView :=
  { s with histories := s.histories.modify n fun history => { history with stage } }

/-- The head of the loop of `readActivityGap`. -/
def readOn (s : TimelineView) (read : TimelineRead) (run : RunProjection)
    (previous : Option ActivityWindow) (gap : ActivityGap) : TimelineStage :=
  if gap.isOpen && s.isCurrent read then .paging run previous gap none
  else .paged run previous gap.items

/-- What the client does with the response that a read waits for. -/
def advanced (s : TimelineView) (read : TimelineRead) : Option TimelineStage :=
  match read.stage with
  | .answered run =>
      let previous := s.shownActivity read.runId
      match activityGap read.runId previous run.activity with
      | none => some (.paged run previous [])
      | some gap => some (s.readOn read run previous gap)
  | .paging run previous gap (some page) =>
      match gap.addPage page with
      | .error _ => some .failed
      | .ok (gap, true) => some (s.readOn read run previous gap)
      | .ok (gap, false) => some (.paged run previous gap.items)
  | .paged run previous items =>
      match withHistory read.runId previous items run s.run with
      | .error _ => some .failed
      | .ok run => some (.merged run)
  | _ => none

/-- What the server answers to the request of a read. -/
def served (s : TimelineView) (read : TimelineRead) : Option TimelineStage :=
  match read.stage with
  | .requested =>
      match (s.world.db.table Run).find? fun r => r.id = read.runId with
      | none => some .failed
      | some run => some (.answered (runProjection s.world.db run))
  | .paging run previous gap none =>
      match answerActivity s.world.db gap.request with
      | .error _ => some .failed
      | .ok page => some (.paging run previous gap (some page))
  | _ => none

/-- The end of a read; `shows` tells whether a refresh of the composer shows its Run. -/
def settle (n : Nat) (shows : Bool) (read : TimelineRead) (s : TimelineView) :
    Option TimelineView :=
  match read.stage with
  | .merged run =>
      if s.isCurrent read && (shows || !read.composer) then
        match mergeRunTimeline s.run run with
        | .error _ => some (s.setStage n .settled)
        | .ok shown => some ({ s with run := some shown }.setStage n .settled)
      else some (s.setStage n .settled)
  | .failed => some (s.setStage n .settled)
  | _ => none

def loadEarlierRunActivity (s : TimelineView) : Option TimelineView :=
  s.run.bind fun run =>
    if run.activity.hasEarlier && !s.loadingRunHistory then
      run.activity.earliestSequence.map fun before =>
        { s with
          loadingRunHistory := true
          histories := s.histories ++
            [{ runId := run.run.id, before, sessionGeneration := s.sessionGeneration
               selectionGeneration := s.runSelectionGeneration, stage := .requested }] }
    else none

def showEarlier (history : HistoryRead) (page : ActivityPage) (s : TimelineView) : TimelineView :=
  match s.run.map (withEarlier history page) with
  | some (.ok run) => { s with run := some run, loadingRunHistory := false }
  | _ => { s with loadingRunHistory := false }

/-- The end of a read of earlier activities, with its page unless it failed. -/
def settleHistory (n : Nat) (history : HistoryRead) (page : Option ActivityPage)
    (s : TimelineView) : TimelineView :=
  (if s.isCurrentHistory history then
    page.elim { s with loadingRunHistory := false } fun page => s.showEarlier history page
  else s).setHistoryStage n .settled

end TimelineView

/-! ## The machine -/

inductive TimelineEvent where
  /-- The Kernel executes a call. -/
  | execute (call : KernelCall)
  | loadRun (runId : String)
  | refreshRunComposer (runId : String)
  | clearRun
  | bootstrap
  | clearSession
  | dispose
  /-- The server answers the request of a read. -/
  | serve (n : Nat)
  /-- A request of a read fails. -/
  | fail (n : Nat)
  /-- A read goes on with its response. -/
  | advance (n : Nat)
  /-- A refresh of the composer that failed reads again. -/
  | retry (n : Nat)
  | settle (n : Nat) (shows : Bool)
  | loadEarlierRunActivity
  | serveHistory (n : Nat)
  | receiveHistory (n : Nat)
  | failHistory (n : Nat)

namespace TimelineView

def handle (kernel : KernelContext) : TimelineEvent → TimelineView → Option TimelineView
  | .execute call, s => some { s with world := step kernel call s.world }
  | .loadRun runId, s => some (s.loadRun runId)
  | .refreshRunComposer runId, s => s.refreshRunComposer runId
  | .clearRun, s => some s.clearRun
  | .bootstrap, s => some s.bootstrap
  | .clearSession, s => some s.clearSession
  | .dispose, s => some { s with disposed := true }
  | .serve n, s => s.reads[n]?.bind fun read => (s.served read).map fun stage => s.setStage n stage
  | .fail n, s =>
      s.reads[n]?.bind fun read =>
        match read.stage with
        | .requested | .paging _ _ _ none => some (s.setStage n .failed)
        | _ => none
  | .advance n, s =>
      s.reads[n]?.bind fun read => (s.advanced read).map fun stage => s.setStage n stage
  | .retry n, s =>
      s.reads[n]?.bind fun read =>
        match read.stage with
        | .failed =>
            if read.composer && s.isCurrent read then some (s.setStage n .requested) else none
        | _ => none
  | .settle n shows, s => s.reads[n]?.bind fun read => s.settle n shows read
  | .loadEarlierRunActivity, s => s.loadEarlierRunActivity
  | .serveHistory n, s =>
      s.histories[n]?.bind fun history =>
        match history.stage with
        | .requested =>
            match answerActivity s.world.db (activityPath history.runId history.before none) with
            | .error _ => some (s.settleHistory n history none)
            | .ok page => some (s.setHistoryStage n (.answered page))
        | _ => none
  | .receiveHistory n, s =>
      s.histories[n]?.bind fun history =>
        match history.stage with
        | .answered page => some (s.settleHistory n history (some page))
        | _ => none
  | .failHistory n, s =>
      s.histories[n]?.bind fun history =>
        match history.stage with
        | .requested => some (s.settleHistory n history none)
        | _ => none

end TimelineView

def timelineMachine (kernel : KernelContext) : Machine TimelineEvent TimelineView :=
  fun e s => s.handle kernel e

end Torsor.Web
