import ReconcileFlow.Audit.Trail
import ReconcileFlow.Reconciliation.Config
import ReconcileFlow.Support.Table
import ReconcileFlow.Support.Transaction

/-!
# Persistence — Records

The rows of the tables that the queue and the reconciliation worker use, with the constraints the
tables declare.  A database is one table of each, so its rows meet every constraint.

A point in time is a number of microseconds.  Columns that nothing here reads are left out.
-/

namespace ReconcileFlow.Persistence

open Support
open Reconciliation (ReconciliationResult ReconciliationConfig)
open Audit (AuditEvent)

abbrev UUID := BitVec 128

instance : LawfulBEq UUID := inferInstance

/-- `str(id)`. -/
def UUID.format (id : UUID) : String :=
  let digits := id.toHex.toList
  let part (start length : Nat) := String.ofList ((digits.drop start).take length)
  part 0 8 ++ "-" ++ part 8 4 ++ "-" ++ part 12 4 ++ "-" ++ part 16 4 ++ "-" ++ part 20 12

/-- A point in time, in microseconds. -/
abbrev Instant := Int

/-- `timedelta(seconds=n)`. -/
def seconds (n : Nat) : Int := n * 1000000

/-! ### Runs -/

inductive RunStatus
  | pending | running | succeeded | failed
deriving DecidableEq, Repr

def RunStatus.value : RunStatus → String
  | .pending => "PENDING"
  | .running => "RUNNING"
  | .succeeded => "SUCCEEDED"
  | .failed => "FAILED"

structure ReconciliationRunRecord where
  id : UUID
  organizationId : UUID
  status : RunStatus := .pending
  startedAt : Option Instant := none
  finishedAt : Option Instant := none
  errorCode : Option String := none
  errorMessage : Option String := none
  createdAt : Instant
deriving DecidableEq, Repr

/-- `later >= earlier`, which a missing value does not make false. -/
def notBefore (later earlier : Option Instant) : Bool :=
  later.all fun l => earlier.all fun e => decide (e ≤ l)

def runSchema : Schema ReconciliationRunRecord UUID where
  key := (·.id)
  clash _ _ := false
  check run := notBefore run.finishedAt run.startedAt

/-! ### Background jobs -/

inductive BackgroundJobStatus
  | queued | running | succeeded | failed | cancelRequested | cancelled
deriving DecidableEq, Repr

namespace BackgroundJobStatus

def value : BackgroundJobStatus → String
  | .queued => "QUEUED"
  | .running => "RUNNING"
  | .succeeded => "SUCCEEDED"
  | .failed => "FAILED"
  | .cancelRequested => "CANCEL_REQUESTED"
  | .cancelled => "CANCELLED"

/-- An attempt may be at work: `{RUNNING, CANCEL_REQUESTED}`. -/
def isActive : BackgroundJobStatus → Bool
  | .running | .cancelRequested => true
  | _ => false

def isTerminal : BackgroundJobStatus → Bool
  | .succeeded | .failed | .cancelled => true
  | _ => false

end BackgroundJobStatus

inductive BackgroundJobPriority
  | low | normal | high
deriving DecidableEq, Repr

structure BackgroundJobRecord where
  id : UUID
  organizationId : UUID
  runId : UUID
  status : BackgroundJobStatus := .queued
  priority : BackgroundJobPriority := .normal
  progressPercentage : Int := 0
  statusMessage : Option String := none
  attemptCount : Nat := 0
  totalAttemptCount : Nat := 0
  manualRetryCount : Nat := 0
  maxAttempts : Nat := 3
  timeoutSeconds : Nat := 900
  deadlineAt : Option Instant := none
  lastManualRetryAt : Option Instant := none
  scheduledAt : Instant
  startedAt : Option Instant := none
  completedAt : Option Instant := none
  cancellationRequestedAt : Option Instant := none
  retryAt : Option Instant := none
  claimedBy : Option String := none
  heartbeatAt : Option Instant := none
  failureCode : Option String := none
  failureMessage : Option String := none
  createdAt : Instant
deriving DecidableEq, Repr

/-- A run has at most one job. -/
def jobSchema : Schema BackgroundJobRecord UUID where
  key := (·.id)
  clash job job' := decide (job.runId = job'.runId)
  check job :=
    decide (0 ≤ job.progressPercentage) && decide (job.progressPercentage ≤ 100) &&
      decide (1 ≤ job.maxAttempts) && decide (30 ≤ job.timeoutSeconds) &&
      decide (job.attemptCount ≤ job.maxAttempts) && notBefore job.completedAt job.startedAt

inductive BackgroundJobEventType
  | jobQueued | jobClaimed | jobProgressUpdated | jobRetryScheduled | jobManualRetryRequested
  | jobCancellationRequested | jobCancelled | jobTimedOut | jobSucceeded | jobFailed | jobRecovered
deriving DecidableEq, Repr

/-- The keys that `details` may have; a key whose value is `None` is dropped. -/
structure EventDetails where
  status : BackgroundJobStatus
  previousStatus : Option BackgroundJobStatus := none
  priority : Option BackgroundJobPriority := none
  attemptCount : Option Nat := none
  manualRetryCount : Option Nat := none
  progressPercentage : Option Int := none
  deadlineAt : Option Instant := none
  retryAt : Option Instant := none
  failureCode : Option String := none
deriving DecidableEq, Repr

structure BackgroundJobEventRecord where
  organizationId : UUID
  jobId : UUID
  sequenceNumber : Nat
  eventType : BackgroundJobEventType
  occurredAt : Instant
  details : EventDetails
deriving DecidableEq, Repr

def jobEventSchema : Schema BackgroundJobEventRecord (UUID × Nat) where
  key event := (event.jobId, event.sequenceNumber)
  clash _ _ := false
  check event := decide (1 ≤ event.sequenceNumber)

/-! ### What belongs to a run -/

inductive SourceType
  | bankTransactions | erpInvoices | gatewaySettlements
deriving DecidableEq, Repr

structure SourceFileRecord where
  runId : UUID
  sourceType : SourceType
deriving DecidableEq, Repr

def sourceFileSchema : Schema SourceFileRecord (UUID × SourceType) where
  key file := (file.runId, file.sourceType)
  clash _ _ := false
  check _ := true

/-- The matching configuration captured for a run. -/
structure ConfigurationSnapshotRecord where
  runId : UUID
  config : ReconciliationConfig
deriving DecidableEq

def configurationSchema : Schema ConfigurationSnapshotRecord UUID where
  key := (·.runId)
  clash _ _ := false
  check _ := true

/-- A column `Numeric(20, 4)`; a number with more digits before the point is refused. -/
def amountColumn (amount : Option Decimal) : Option (Option Decimal) :=
  match amount with
  | none => some none
  | some value => (value.numeric 20 4).map some

theorem amountColumn_eq_some {amount stored : Option Decimal} (h : amountColumn amount = some stored) :
    stored = amount.map (Decimal.atScale 4) := by
  unfold amountColumn at h
  cases amount with
  | none =>
    obtain rfl := Option.some.inj h
    rfl
  | some value =>
    obtain ⟨kept, hkept, rfl⟩ := Option.map_eq_some_iff.mp h
    unfold Decimal.numeric at hkept
    dsimp only at hkept
    split at hkept
    · rw [← Option.some.inj hkept, Option.map_some]
    · cases hkept

/-- The result with its amounts as the columns keep them. -/
def storedResult (result : ReconciliationResult) : ReconciliationResult :=
  { result with
    expectedAmount := result.expectedAmount.map (Decimal.atScale 4)
    actualAmount := result.actualAmount.map (Decimal.atScale 4)
    amountDifference := result.amountDifference.map (Decimal.atScale 4)
    amountDifference_nonneg := by
      have hnonneg := result.amountDifference_nonneg
      cases hamount : result.amountDifference with
      | none => rfl
      | some difference =>
        rw [hamount, Option.all_some, Bool.not_eq_true', ← Bool.not_eq_true, Decimal.lt_iff,
          not_lt, Decimal.toRat_zero] at hnonneg
        rw [Option.map_some, Option.all_some, Bool.not_eq_true', ← Bool.not_eq_true,
          Decimal.lt_iff, not_lt, Decimal.toRat_zero]
        exact Decimal.atScale_nonneg 4 hnonneg }

/-- The result as it is stored, if the columns have the digits of its amounts. -/
def toColumns (result : ReconciliationResult) : Option ReconciliationResult := do
  let _ ← amountColumn result.expectedAmount
  let _ ← amountColumn result.actualAmount
  let _ ← amountColumn result.amountDifference
  return storedResult result

structure ReconciliationResultRecord where
  runId : UUID
  result : ReconciliationResult
deriving DecidableEq, Repr

def resultSchema : Schema ReconciliationResultRecord (UUID × String) where
  key record := (record.runId, record.result.resultId)
  clash _ _ := false
  check record :=
    (record.result.amountDifference.all fun difference => (Decimal.ofInt 0).le difference) &&
      record.result.currency.all fun currency => currency.length == 3

structure AuditEventRecord where
  runId : UUID
  sequenceNumber : Nat
  event : AuditEvent
deriving DecidableEq, Repr

def auditEventSchema : Schema AuditEventRecord (UUID × Nat) where
  key record := (record.runId, record.sequenceNumber)
  clash _ _ := false
  check record := decide (1 ≤ record.sequenceNumber)

/-! ### The database -/

structure Database where
  runs : Table runSchema
  sourceFiles : Table sourceFileSchema
  configurations : Table configurationSchema
  jobs : Table jobSchema := .empty
  jobEvents : Table jobEventSchema := .empty
  results : Table resultSchema := .empty
  auditEvents : Table auditEventSchema := .empty

/-- What a transaction raises. -/
inductive Error
  | recordNotFound (message : String)
  | persistenceConflict (message : String)
  | invalidStatusTransition (message : String)
  | value (message : String)
  | runtime (message : String)
  | api (statusCode : Nat) (code message : String)
deriving DecidableEq, Repr

/-- `type(error).__name__`. -/
def Error.typeName : Error → String
  | .recordNotFound _ => "RecordNotFoundError"
  | .persistenceConflict _ => "PersistenceConflictError"
  | .invalidStatusTransition _ => "InvalidStatusTransitionError"
  | .value _ => "ValueError"
  | .runtime _ => "RuntimeError"
  | .api .. => "APIError"

/-- A unit of work on the database. -/
abbrev Session (α : Type) := Transaction Database Error α

end ReconcileFlow.Persistence
