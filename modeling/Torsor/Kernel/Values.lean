/-! # Values and errors of the Kernel

Timestamps are milliseconds since the year 0, the unit in which `Date` compares
them; for the years 0-9999 the text form the database stores has the same order.
-/

namespace Torsor.Kernel

abbrev Timestamp := Nat

/-- A JSON value, as commands and payloads carry it. -/
inductive Json where
  | null
  | bool (value : Bool)
  | num (value : Int)
  | str (value : String)
  | arr (items : List Json)
  | obj (fields : List (String × Json))

namespace Json

def nat (n : Nat) : Json := .num n

/-- `value ?? null`. -/
def ofText : Option String → Json
  | none => .null
  | some s => .str s

def texts (xs : List String) : Json := .arr (xs.map .str)

/-- The value of an own property of an object. -/
def get? (key : String) : Json → Option Json
  | .obj fields => (fields.find? fun field => field.1 = key).map (·.2)
  | _ => none

end Json

/-! ## Errors -/

inductive ErrorCode where
  | NotFound | Unauthorized | Forbidden | InvalidCommand | Conflict | DomainBusy
  | WriterAuthorityLost | CausalLimitExceeded | StaleRevision
  | ConditionalCheckFailed | TerminalRun | PendingRunInputs
  deriving DecidableEq, Repr

structure KernelError where
  code : ErrorCode
  message : String
  details : Option Json := none

/-- An `Error` that is not a `KernelError`: a broken internal assertion, or the
`RAISE(ABORT, ...)` of a trigger. -/
inductive Fault where
  | attentionLeaseMismatch (attentionId : String)
  | missingDomainFence
  | domainCountUnderflow
  | recoveryCountUnderflow
  | missingCommandBoundary
  | missingLatestRevision (messageId : String)
  | inconsistentOutboxLease
  | cachedActivationMismatch (activationId : String)
  | cachedProviderAttemptMismatch (providerAttemptId : String)
  | missingRuntimeState
  | invalidStoredText
  | invalidStoredInteger
  | missingVersionedRow
  | invalidWorktreeEffect
  deriving DecidableEq

def Fault.message : Fault → String
  | .attentionLeaseMismatch attentionId =>
      s!"Attention {attentionId} lease does not match its domain fence."
  | .missingDomainFence => "Attention ProviderAttempt has no domain fence"
  | .domainCountUnderflow => "Attention domain ProviderAttempt count underflow"
  | .recoveryCountUnderflow =>
      "CHECK constraint failed: unsettled_provider_attempt_count >= 0"
  | .missingCommandBoundary => "Stored event correlation has no command boundary."
  | .missingLatestRevision messageId => s!"Message {messageId} latest revision is missing."
  | .inconsistentOutboxLease => "A persisted Outbox claim has inconsistent lease expiry."
  | .cachedActivationMismatch activationId =>
      s!"Cached Activation {activationId} does not match its Run command."
  | .cachedProviderAttemptMismatch providerAttemptId =>
      s!"Cached ProviderAttempt {providerAttemptId} does not match its admission command."
  | .missingRuntimeState => "Kernel runtime state is missing."
  | .invalidStoredText => "Stored text value is invalid."
  | .invalidStoredInteger => "Stored integer value is invalid."
  | .missingVersionedRow => "Cannot read properties of undefined"
  | .invalidWorktreeEffect =>
      "Worktree mutations must be synchronous and return undefined."

/-- What a transaction can throw. A `durable` error commits the writes before it;
`constraint` is a violated `PRIMARY KEY` or `UNIQUE` constraint. -/
inductive Failure where
  | kernel (error : KernelError)
  | durable (error : KernelError)
  | fault (fault : Fault)
  | constraint

def Failure.isDurable : Failure → Bool
  | .durable _ => true
  | _ => false

/-- `error instanceof KernelError`; the durable errors are a subclass. -/
def Failure.isKernelError : Failure → Bool
  | .kernel _ => true
  | .durable _ => true
  | _ => false

def translateError : Failure → Failure
  | .constraint => .kernel ⟨.Conflict, "The command conflicts with durable state.", none⟩
  | failure => failure

/-- `new KernelError(code, message, details)`. -/
abbrev kernelError (code : ErrorCode) (message : String) (details : Option Json := none) :
    Failure :=
  .kernel ⟨code, message, details⟩

/-! ## Instants as text -/

/-- A number as text with at least `width` digits. -/
def padded (width n : Nat) : String :=
  let digits := toString n
  String.ofList (List.replicate (width - digits.length) '0') ++ digits

/-- `toISOString` of an instant of the years 0-9999. The days are counted from the first
of March 400 years before the year 0, so that a leap day ends its year. -/
def toISOString (instant : Timestamp) : String :=
  let ms := instant % 86400000
  let day := instant / 86400000 + 146037
  let dayOfEra := day % 146097
  let yearOfEra := (dayOfEra - dayOfEra / 1460 + dayOfEra / 36524 - dayOfEra / 146096) / 365
  let dayOfYear := dayOfEra - (365 * yearOfEra + yearOfEra / 4 - yearOfEra / 100)
  let shifted := (5 * dayOfYear + 2) / 153
  let month := if shifted < 10 then shifted + 3 else shifted - 9
  let year := day / 146097 * 400 + yearOfEra + (if month ≤ 2 then 1 else 0) - 400
  padded 4 year ++ "-" ++ padded 2 month ++ "-" ++
    padded 2 (dayOfYear - (153 * shifted + 2) / 5 + 1) ++ "T" ++
    padded 2 (ms / 3600000) ++ ":" ++ padded 2 (ms / 60000 % 60) ++ ":" ++
    padded 2 (ms / 1000 % 60) ++ "." ++ padded 3 (ms % 1000) ++ "Z"

def Json.instant (at' : Timestamp) : Json := .str (toISOString at')

/-! ## Text -/

/-- The characters `String.prototype.trim` removes. -/
def isWhiteSpace (c : Char) : Bool :=
  c.toNat ∈ [0x09, 0x0A, 0x0B, 0x0C, 0x0D, 0x20, 0xA0, 0x1680, 0x2028, 0x2029, 0x202F, 0x205F,
    0x3000, 0xFEFF] || (0x2000 ≤ c.toNat && c.toNat ≤ 0x200A)

def trim (s : String) : String :=
  String.ofList ((s.toList.dropWhile isWhiteSpace).reverse.dropWhile isWhiteSpace).reverse

/-- A string that is absent or empty is falsy. -/
def truthy (o : Option String) : Bool := o.any (· ≠ "")

theorem truthy_getD {o : Option String} (h : truthy o = true) : o = some (o.getD "") := by
  cases o with
  | none => simp [truthy] at h
  | some text => rfl

/-- The UTF-16 code units of a string, which `sort` compares. -/
def utf16Units (s : String) : List Nat :=
  s.toList.flatMap fun c =>
    if c.toNat < 0x10000 then [c.toNat]
    else [0xD800 + (c.toNat - 0x10000) / 1024, 0xDC00 + (c.toNat - 0x10000) % 1024]

/-- `[...new Set(values)]`: the first occurrence of every value, in order. -/
def unique : List String → List String
  | [] => []
  | x :: rest => x :: (unique rest).filter (· ≠ x)

theorem unique_sublist (xs : List String) : (unique xs).Sublist xs := by
  induction xs with
  | nil => exact List.Sublist.refl []
  | cons x rest ih => exact (List.filter_sublist.trans ih).cons_cons x

theorem unique_nodup (xs : List String) : (unique xs).Nodup := by
  induction xs with
  | nil => exact List.nodup_nil
  | cons x rest ih =>
      refine List.nodup_cons.mpr ⟨?_, ih.sublist List.filter_sublist⟩
      simp

theorem mem_unique {x : String} {xs : List String} : x ∈ unique xs ↔ x ∈ xs := by
  induction xs with
  | nil => exact Iff.rfl
  | cons y rest ih =>
      by_cases h : x = y
      · simp [unique, h]
      · simp [unique, h, ih]

end Torsor.Kernel
