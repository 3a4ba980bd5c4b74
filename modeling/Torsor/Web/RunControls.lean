import Torsor.Web.RunCommands
import Mathlib.Data.Rat.Defs

/-! # The controls of a run

A Human cancels a run or withdraws an input. The window saves each request before it sends it;
what it saves is read back, and checked again, when it is loaded the next time.
-/

namespace Torsor.Web.Controls
open Torsor.Library

/-- What `JSON.parse` makes of a text; numbers by their value. -/
abbrev Json : Type := JsonValue Rat

/-! ## Requests and receipts -/

structure ControlTarget where
  idempotencyKey : Identifier
  runId : Identifier
  expectedRunRevision : Revision
deriving DecidableEq

inductive RunControlRequest where
  | cancel (common : ControlTarget)
  | withdraw (common : ControlTarget) (runInputId : Identifier)
      (expectedDispositionRevision : Revision)
deriving DecidableEq

structure RelatedIds where
  runId : JsString
  runRevision : JsString
deriving DecidableEq

inductive ControlCommand where
  | cancelRun
  | withdrawRunInput
deriving DecidableEq, Repr

def ControlCommand.text : ControlCommand → String
  | .cancelRun => "CancelRun"
  | .withdrawRunInput => "WithdrawRunInput"

structure RunControlReceipt where
  commandType : ControlCommand
  entityId : JsString
  revision : Nat
  relatedIds : Option RelatedIds
deriving DecidableEq

abbrev RunControlEntry : Type := RunCommandEntry RunControlRequest RunControlReceipt

/-- `JSON.stringify([runId, inputId ?? null])`. -/
def controlKey (runId : JsString) (inputId : Option JsString) : JsString :=
  units "[" ++ JsonQuote.quoteUnits runId ++ units "," ++
    inputId.elim (units "null") JsonQuote.quoteUnits ++ units "]"

def cancelReason : String := "Cancelled by Human from Run controls."

def withdrawReason : String := "Withdrawn by Human from Run controls."

namespace RunControlRequest

def common : RunControlRequest → ControlTarget
  | .cancel common => common
  | .withdraw common _ _ => common

def key : RunControlRequest → JsString
  | .cancel common => controlKey common.runId.1 none
  | .withdraw common runInputId _ => controlKey common.runId.1 (some runInputId.1)

/-- The only receipt that confirms a request. -/
def receipt : RunControlRequest → RunControlReceipt
  | .cancel common =>
      { commandType := .cancelRun
        entityId := common.runId.1
        revision := common.expectedRunRevision.1 + 1
        relatedIds := none }
  | .withdraw common runInputId expectedDispositionRevision =>
      { commandType := .withdrawRunInput
        entityId := runInputId.1
        revision := expectedDispositionRevision.1 + 1
        relatedIds := some
          { runId := common.runId.1
            runRevision := units (common.expectedRunRevision.1 + 1).repr } }

end RunControlRequest

/-! ## Reading -/

def member (value : Option Json) (name : String) : Option Json := value.bind (·.field name)

def textOf (value : Option Json) : Option JsString := value.bind JsonValue.text

def numberOf : Option Json → Option Rat
  | some (.number value) => some value
  | _ => none

/-- A text that is not empty. -/
def identifierOf (value : Option Json) : Option Identifier :=
  (textOf value).bind fun s => if h : s ≠ [] then some ⟨s, h⟩ else none

/-- A safe integer from one on. -/
def revisionOf (value : Option Json) : Option Revision :=
  (numberOf value).bind fun q =>
    if h : q.den = 1 ∧ 1 ≤ q.num ∧ q.num ≤ 9007199254740991 then some ⟨q.num.toNat, by omega⟩
    else none

def requireControlReceipt (value : Option Json) (request : RunControlRequest) :
    Option RunControlReceipt :=
  let result := member value "result"
  let commandType := textOf (member result "commandType")
  let entityId := textOf (member result "entityId")
  let revision := numberOf (member result "revision")
  let related := member result "relatedIds"
  match request with
  | .cancel common =>
      if commandType = some (units "CancelRun") ∧ entityId = some common.runId.1 ∧
          revision = some ((common.expectedRunRevision.1 + 1 : Nat) : Rat) then
        some request.receipt
      else none
  | .withdraw common runInputId expectedDispositionRevision =>
      if commandType = some (units "WithdrawRunInput") ∧ entityId = some runInputId.1 ∧
          revision = some ((expectedDispositionRevision.1 + 1 : Nat) : Rat) ∧
          textOf (member related "runId") = some common.runId.1 ∧
          textOf (member related "runRevision") =
            some (units (common.expectedRunRevision.1 + 1).repr) then
        some request.receipt
      else none

def requireRequest (value : Option Json) : Option RunControlRequest := do
  let idempotencyKey ← identifierOf (member value "idempotencyKey")
  let runId ← identifierOf (member value "runId")
  let expectedRunRevision ← revisionOf (member value "expectedRunRevision")
  let common : ControlTarget := { idempotencyKey, runId, expectedRunRevision }
  let kind := textOf (member value "kind")
  let reason := textOf (member value "reason")
  if kind = some (units "cancel") ∧ reason = some (units cancelReason) then
    return .cancel common
  else if kind = some (units "withdraw") ∧ reason = some (units withdrawReason) then
    let runInputId ← identifierOf (member value "runInputId")
    let expectedDispositionRevision ← revisionOf (member value "expectedDispositionRevision")
    return .withdraw common runInputId expectedDispositionRevision
  else none

/-! ## Writing -/

def ControlTarget.fields (common : ControlTarget) : List (JsString × Json) :=
  [(units "idempotencyKey", .string common.idempotencyKey.1),
    (units "runId", .string common.runId.1),
    (units "expectedRunRevision", .number common.expectedRunRevision.1)]

def RunControlRequest.toJson : RunControlRequest → Json
  | .cancel common =>
      .object (common.fields ++ [(units "kind", .string (units "cancel")),
        (units "reason", .string (units cancelReason))])
  | .withdraw common runInputId expectedDispositionRevision =>
      .object (common.fields ++ [(units "kind", .string (units "withdraw")),
        (units "runInputId", .string runInputId.1),
        (units "expectedDispositionRevision", .number expectedDispositionRevision.1),
        (units "reason", .string (units withdrawReason))])

def RunControlReceipt.toJson (receipt : RunControlReceipt) : Json :=
  .object ([(units "commandType", .string (units receipt.commandType.text)),
    (units "entityId", .string receipt.entityId),
    (units "revision", .number receipt.revision)] ++
    receipt.relatedIds.toList.map fun related =>
      (units "relatedIds", .object [(units "runId", .string related.runId),
        (units "runRevision", .string related.runRevision)]))

/-- What is saved of an entry: its pending request, else its acknowledged one. -/
def savedItem (key : JsString) (entry : RunControlEntry) : Option Json :=
  let known := entry.acknowledged
  let request := entry.request <|> known.map (·.request)
  let principalId := if entry.request.isSome then entry.principalId else known.map (·.principalId)
  request.map fun request =>
    .object ([(units "key", .string key), (units "request", request.toJson),
      (units "principalId", principalId.elim .null .string)] ++
      if entry.request.isSome then []
      else known.toList.map fun known => (units "receipt", known.receipt.toJson))

abbrev ControlEntries : Type := EntryMap JsString RunControlEntry

def saved (entries : ControlEntries) : Json :=
  .array (entries.entries.filterMap fun (key, entry) => savedItem key entry)

/-! ## Recovery -/

/-- A saved text: a JSON value, or nothing `JSON.parse` can read. -/
inductive StoredText where
  | json (value : Json)
  | malformed

def unknownEntry (request : RunControlRequest) (principalId : JsString) : RunControlEntry :=
  { emptyRunCommand with
    request := some request
    principalId := some principalId
    status := .unknown
    uncertain := true }

def readItem (entries : ControlEntries) (value : Json) : Option ControlEntries := do
  let principalId ← identifierOf (value.field "principalId")
  let request ← requireRequest (value.field "request")
  let key := request.key
  if textOf (value.field "key") = some key ∧ entries.get key = none then
    match value.field "receipt" with
    | none => return entries.set key (unknownEntry request principalId.1)
    | some receipt =>
        let receipt ← requireControlReceipt (some (.object [(units "result", receipt)])) request
        return entries.set key (.answered request principalId.1 receipt)
  else none

def readRecovery : StoredText → Option ControlEntries
  | .json (.array values) => values.foldlM readItem .empty
  | _ => none

/-- A window that has saved nothing yet starts with no entries. -/
def recovered : Option StoredText → Option ControlEntries
  | none => some .empty
  | some text => readRecovery text

/-! ## The model -/

structure RunControlsModel where
  entries : ControlEntries
  refreshVersions : EntryMap JsString Nat
  recoveryError : Option String

def loadError : String :=
  "Run control recovery could not be loaded. Controls are disabled; preserve this window's " ++
    "recovery storage."

def saveError : String :=
  "Run control recovery could not be saved. Controls are disabled; restore storage availability " ++
    "before reloading this window."

/-- The constructor; `reads` is whether the storage can be read. -/
def RunControlsModel.load (stored : Option StoredText) (reads : Bool) : RunControlsModel :=
  match if reads then recovered stored else none with
  | some entries => ⟨entries, .empty, none⟩
  | none => ⟨.empty, .empty, some loadError⟩

inductive InputDisposition where
  | pending
  | incorporated
  | declined
  | superseded
  | withdrawn
  | abandoned
deriving DecidableEq, Repr

def InputDisposition.text : InputDisposition → String
  | .pending => "Pending"
  | .incorporated => "Incorporated"
  | .declined => "Declined"
  | .superseded => "Superseded"
  | .withdrawn => "Withdrawn"
  | .abandoned => "Abandoned"

structure RunInputView where
  id : Identifier
  runId : Identifier
  assignedByPrincipalId : JsString
  disposition : InputDisposition
  dispositionRevision : Revision

def controlUnavailable (run : RunView) (principalId : JsString) (input : Option RunInputView) :
    Option String :=
  if principalId = [] then some "Reconnect as a Human to use Run controls."
  else if isTerminalRun run then
    some ("Run is " ++ run.state.text ++ "; new controls are unavailable.")
  else
    input.bind fun input =>
      if input.runId ≠ run.id ∨ input.disposition ≠ .pending then
        some ("Input is " ++ input.disposition.text ++
          "; only Pending input in this Run can be withdrawn.")
      else if input.assignedByPrincipalId ≠ principalId then
        some "Only the assigning Human can withdraw this input."
      else none

/-- A new request, or why there is none. -/
def createRequest (entry : RunControlEntry) (run : RunView) (principalId : JsString)
    (inputId : Option Identifier) (input : Option RunInputView) (available : Bool)
    (uuid : Identifier) : Except String RunControlRequest :=
  if entry.acknowledged.isSome then
    .error "This action already committed. Refresh to read the durable outcome."
  else if available = false then
    .error "Wait for the selected Run to finish refreshing."
  else if entry.reviewRequired ∨ entry.needsRunRefresh run then
    .error "Refresh and review the Run and input before a new action."
  else
    match controlUnavailable run principalId input with
    | some reason => .error reason
    | none =>
        if inputId.isSome ∧ input.isNone then
          .error "The selected input is unavailable. Refresh and review."
        else
          let common : ControlTarget :=
            { idempotencyKey := uuid, runId := run.id, expectedRunRevision := run.revision }
          match input with
          | some input => .ok (.withdraw common input.id input.dispositionRevision)
          | none => .ok (.cancel common)

end Torsor.Web.Controls
