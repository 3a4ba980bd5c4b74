import Torsor.Web.RunControls

/-! # The run controls of a window over time

A window submits, is answered, refreshes and reloads; each save may fail. A request that was
sent stays in flight until it is answered or the window is gone.
-/

namespace Torsor.Web.Controls
open Torsor.Library

/-- A request on its way, with the entry it was sent from. -/
structure ControlFlight where
  key : JsString
  request : RunControlRequest
  principalId : JsString
  pending : RunControlEntry

/-- A request that was sent, and the storage at that moment. -/
structure SentControl where
  key : JsString
  request : RunControlRequest
  principalId : JsString
  stored : Option StoredText

structure ControlWindow where
  model : RunControlsModel
  stored : Option StoredText
  flights : List ControlFlight
  sent : List SentControl

/-- How an answer comes back. -/
inductive SendOutcome where
  | response (value : Option Json)
  | failure (failure : SendFailure)

inductive ControlMove where
  | submit (run : RunView) (inputs : List RunInputView) (principalId : JsString)
      (inputId : Option Identifier) (available : Bool) (uuid : Identifier) (saves : Bool)
  | answer (flight : Nat) (outcome : SendOutcome) (saves : Bool)
  | edit (key draft : JsString) (saves : Bool)
  | beginRefresh (key : JsString) (saves : Bool)
  | finishRefresh (key : JsString) (version : Nat) (succeeded saves : Bool)
  | reload (reads : Bool)

namespace ControlWindow

def start (stored : Option StoredText) (reads : Bool) : ControlWindow :=
  ⟨.load stored reads, stored, [], []⟩

def entry (w : ControlWindow) (key : JsString) : RunControlEntry :=
  (w.model.entries.get key).getD emptyRunCommand

/-- Nothing is saved any more once an error was recorded. -/
def changed (w : ControlWindow) (saves : Bool) : ControlWindow :=
  if w.model.recoveryError.isSome then w
  else if saves then { w with stored := some (.json (saved w.model.entries)) }
  else { w with model := { w.model with recoveryError := some saveError } }

def set (w : ControlWindow) (key : JsString) (entry : RunControlEntry) (saves : Bool) :
    ControlWindow :=
  { w with model := { w.model with entries := w.model.entries.set key entry } }.changed saves

/-- The request is saved before it is sent, and not sent if that fails. -/
def send (w : ControlWindow) (key : JsString) (entry : RunControlEntry)
    (request : RunControlRequest) (principalId : JsString) (saves : Bool) : ControlWindow :=
  let pending := entry.pending request principalId
  let w := w.set key pending saves
  if w.model.recoveryError.isSome then w.set key entry saves
  else
    { w with
      flights := w.flights ++ [{ key, request, principalId, pending }]
      sent := w.sent ++ [{ key, request, principalId, stored := w.stored }] }

def submitRequest (w : ControlWindow) (key principalId : JsString)
    (create : RunControlEntry → Except String RunControlRequest) (saves : Bool) : ControlWindow :=
  if w.model.recoveryError.isSome then w
  else
    let entry := w.entry key
    if entry.status = .submitting then w
    else
      match entry.request with
      | some request =>
          if entry.principalId = some principalId then w.send key entry request principalId saves
          else
            w.set key
              { entry with
                error := some (units "Reconnect as the original Human to recover this submission.") }
              saves
      | none =>
          match create entry with
          | .error reason => w.set key { entry with error := some (units reason) } saves
          | .ok request => w.send key entry request principalId saves

/-- The controller looks the input up in the projection. -/
def submit (w : ControlWindow) (run : RunView) (inputs : List RunInputView)
    (principalId : JsString) (inputId : Option Identifier) (available : Bool) (uuid : Identifier)
    (saves : Bool) : ControlWindow :=
  let input := inputId.bind fun id => inputs.find? fun input => input.id = id
  w.submitRequest (controlKey run.id.1 (inputId.map Subtype.val)) principalId
    (fun entry => createRequest entry run principalId inputId input available uuid) saves

def receiptError : String :=
  "The server response did not confirm the requested Run control action."

/-- A response that confirms nothing is a failure like another. -/
def answerFlight (w : ControlWindow) (flight : ControlFlight) (outcome : SendOutcome)
    (saves : Bool) : ControlWindow :=
  let failed failure :=
    w.set flight.key
      (flight.pending.failed flight.request.common.expectedRunRevision.1 failure) saves
  match outcome with
  | .failure failure => failed failure
  | .response value =>
      match requireControlReceipt value flight.request with
      | none => failed (.error (units receiptError))
      | some receipt =>
          let version := (w.model.refreshVersions.get flight.key).getD 0 + 1
          let versions := w.model.refreshVersions.set flight.key version
          { w with model := { w.model with refreshVersions := versions } }.set flight.key
            (.answered flight.request flight.principalId receipt) saves

def answer (w : ControlWindow) (flight : Nat) (outcome : SendOutcome) (saves : Bool) :
    ControlWindow :=
  match w.flights[flight]? with
  | none => w
  | some found =>
      { w with flights := w.flights.eraseIdx flight }.answerFlight found outcome saves

def edit (w : ControlWindow) (key draft : JsString) (saves : Bool) : ControlWindow :=
  let entry := w.entry key
  if entry.request.isSome then w
  else if entry.status = .submitted then
    w.set key { entry with draft, status := .draft, error := none } saves
  else w.set key { entry with draft } saves

def beginRefresh (w : ControlWindow) (key : JsString) (saves : Bool) : ControlWindow :=
  let version := (w.model.refreshVersions.get key).getD 0 + 1
  let versions := w.model.refreshVersions.set key version
  { w with model := { w.model with refreshVersions := versions } }.set key
    { w.entry key with projectionStatus := .refreshing } saves

/-- Only the latest refresh of a key has a say. -/
def finishRefresh (w : ControlWindow) (key : JsString) (version : Nat) (succeeded saves : Bool) :
    ControlWindow :=
  if w.model.refreshVersions.get key ≠ some version then w
  else
    let entry := w.entry key
    w.set key
      { entry with
        projectionStatus := if succeeded then .idle else .failed
        reviewRequired := if succeeded then false else entry.reviewRequired } saves

/-- A new window finds what the old one saved; answers to the old one are lost. -/
def reload (w : ControlWindow) (reads : Bool) : ControlWindow :=
  { w with model := .load w.stored reads, flights := [] }

def step (w : ControlWindow) : ControlMove → ControlWindow
  | .submit run inputs principalId inputId available uuid saves =>
      w.submit run inputs principalId inputId available uuid saves
  | .answer flight outcome saves => w.answer flight outcome saves
  | .edit key draft saves => w.edit key draft saves
  | .beginRefresh key saves => w.beginRefresh key saves
  | .finishRefresh key version succeeded saves => w.finishRefresh key version succeeded saves
  | .reload reads => w.reload reads

def run (w : ControlWindow) (moves : List ControlMove) : ControlWindow := moves.foldl step w

end ControlWindow

end Torsor.Web.Controls
