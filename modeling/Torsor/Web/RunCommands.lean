import Torsor.Library.EntryMap
import Torsor.Library.JsText

/-! # Commands of a Human on a run

What the window keeps of one command, from its draft to its receipt. The request is made once
and sent again as it is until its outcome is known.
-/

namespace Torsor.Web.Controls
open Torsor.Library

/-! ## Entries -/

/-- An identifier is never the empty text. -/
abbrev Identifier : Type := { s : JsString // s ≠ [] }

/-- Revisions count from one and stay safe integers. -/
abbrev Revision : Type := { n : Nat // 1 ≤ n ∧ n ≤ 9007199254740991 }

inductive CommandStatus where
  | draft
  | submitting
  | unknown
  | authRequired
  | rejected
  | submitted
deriving DecidableEq, Repr

inductive ProjectionStatus where
  | idle
  | refreshing
  | failed
deriving DecidableEq, Repr

structure Acknowledged (Request Receipt : Type) where
  request : Request
  principalId : JsString
  receipt : Receipt
deriving DecidableEq

structure RunCommandEntry (Request Receipt : Type) where
  draft : JsString
  status : CommandStatus
  request : Option Request
  principalId : Option JsString
  uncertain : Bool
  error : Option JsString
  rejectionCode : Option JsString
  rejectedRevision : Option Nat
  reviewRequired : Bool
  acknowledged : Option (Acknowledged Request Receipt)
  projectionStatus : ProjectionStatus
deriving DecidableEq

def emptyRunCommand {Request Receipt : Type} : RunCommandEntry Request Receipt where
  draft := []
  status := .draft
  request := none
  principalId := none
  uncertain := false
  error := none
  rejectionCode := none
  rejectedRevision := none
  reviewRequired := false
  acknowledged := none
  projectionStatus := .idle

/-! ## Runs -/

inductive RunPhase where
  | active
  | waiting
  | completed
  | failed
  | cancelled
deriving DecidableEq, Repr

def RunPhase.text : RunPhase → String
  | .active => "Active"
  | .waiting => "Waiting"
  | .completed => "Completed"
  | .failed => "Failed"
  | .cancelled => "Cancelled"

/-- The run as it was last projected. -/
structure RunView where
  id : Identifier
  state : RunPhase
  revision : Revision

def isTerminalRun (run : RunView) : Bool :=
  run.state = .completed ∨ run.state = .failed ∨ run.state = .cancelled

/-! ## Outcomes of a request -/

structure ApiError where
  status : Nat
  code : JsString
  message : JsString
  requestId : Option JsString

inductive SendFailure where
  | api (error : ApiError)
  /-- Another error, with its message. -/
  | error (message : JsString)
  /-- Something thrown that is no error. -/
  | other

def SendFailure.message : SendFailure → JsString
  | .api e => e.message
  | .error text => text
  | .other => units "The submission response could not be read."

def SendFailure.api? : SendFailure → Option ApiError
  | .api e => some e
  | _ => none

/-- An empty request id counts as none. -/
def ApiError.hasRequestId (error : ApiError) : Bool := error.requestId.any (· ≠ [])

def ApiError.isAuthentication (error : ApiError) : Bool :=
  error.status = 401 ∨ (error.status = 403 ∧ error.code = units "invalid_csrf_token")

/-- Decided after the lookup of the idempotency key: an exact replay would have got its receipt. -/
def ApiError.isDomainRejection (error : ApiError) : Bool :=
  error.hasRequestId ∧
    error.code ∈ ["stale_revision", "terminal_run", "invalid_command"].map units

def ApiError.isInitialRejection (error : ApiError) : Bool :=
  error.hasRequestId ∧ 400 ≤ error.status ∧ error.status < 500 ∧
    (error.code ∈ ["forbidden", "not_found", "invalid_request", "conflict"].map units ∨
      (error.status = 413 ∧ error.code = units "payload_too_large"))

namespace RunCommandEntry

variable {Request Receipt : Type}

def needsRunRefresh (entry : RunCommandEntry Request Receipt) (run : RunView) : Bool :=
  entry.rejectionCode = some (units "stale_revision") ∧
    entry.rejectedRevision = some run.revision.1

/-- Before it is sent. -/
def pending (entry : RunCommandEntry Request Receipt) (request : Request)
    (principalId : JsString) : RunCommandEntry Request Receipt :=
  { entry with
    request := some request
    principalId := some principalId
    status := .submitting
    error := none
    rejectionCode := none
    rejectedRevision := none }

def answered (request : Request) (principalId : JsString) (receipt : Receipt) :
    RunCommandEntry Request Receipt :=
  { (emptyRunCommand : RunCommandEntry Request Receipt) with
    status := .submitted
    acknowledged := some { request, principalId, receipt } }

/-- A rejected request is given up; any other failure keeps it. -/
def failed (pending : RunCommandEntry Request Receipt) (expectedRunRevision : Nat)
    (failure : SendFailure) : RunCommandEntry Request Receipt :=
  let rejection := failure.api?.filter fun error =>
    error.isDomainRejection || (!pending.uncertain && error.isInitialRejection)
  match rejection with
  | some error =>
      { pending with
        status := .rejected
        request := none
        uncertain := false
        error := some failure.message
        rejectionCode := some error.code
        rejectedRevision := some expectedRunRevision
        reviewRequired := true }
  | none =>
      let uncertain := pending.uncertain || !failure.api?.any ApiError.isAuthentication
      { pending with
        status := if uncertain then .unknown else .authRequired
        uncertain
        error := some failure.message }

end RunCommandEntry

end Torsor.Web.Controls
