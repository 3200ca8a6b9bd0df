import Mathlib.Data.Prod.Lex
import ReconcileFlow.Persistence.Jobs

/-!
# Persistence — Repositories

The repository operations that the worker and the execution routes use, as transactions on the
database.  A flush that a constraint forbids raises `PersistenceConflictError`, as the unit of work
reports an `IntegrityError`.
-/

namespace ReconcileFlow.Persistence

open Support Support.Transaction
open Reconciliation (ReconciliationResult)
open Audit (AuditEvent)

/-- What the unit of work makes of an `IntegrityError`. -/
def integrityError : Error :=
  .persistenceConflict "the database rejected conflicting persistence data"

/-! ### Runs -/

def runNotFound (runId : UUID) : Error :=
  .recordNotFound ("reconciliation run " ++ runId.format ++ " was not found")

def flushRun (run : ReconciliationRunRecord) : Session Unit := do
  let db ← get
  let runs ← fromOption integrityError (db.runs.update? run)
  set { db with runs := runs }

/-- `_TRANSITIONS`. -/
def RunStatus.transitions : RunStatus → List RunStatus
  | .pending => [.running, .failed]
  | .running => [.succeeded, .failed]
  | .succeeded => []
  | .failed => []

def ReconciliationRunRecord.moved (run : ReconciliationRunRecord) (status : RunStatus)
    (now : Instant) (errorCode errorMessage : Option String) : ReconciliationRunRecord :=
  if status = .running then { run with status := status, startedAt := some now }
  else
    { run with
      status := status
      finishedAt := some now
      errorCode := if status = .failed then errorCode else none
      errorMessage := if status = .failed then errorMessage else none }

/-- The run after `retry_failed`. -/
def ReconciliationRunRecord.renewed (run : ReconciliationRunRecord) : ReconciliationRunRecord :=
  { run with
    status := .pending
    startedAt := none
    finishedAt := none
    errorCode := none
    errorMessage := none }

namespace ReconciliationRunRepository

/-- The creation time, and the id unless it is given, are filled in by the database. -/
def create (organizationId runId : UUID) (now : Instant) : Session ReconciliationRunRecord := do
  let db ← MonadState.get
  let run : ReconciliationRunRecord := { id := runId, organizationId, createdAt := now }
  let runs ← fromOption integrityError (db.runs.insert? run)
  set { db with runs := runs }
  return run

def get (runId organizationId : UUID) : Session ReconciliationRunRecord := do
  let db ← MonadState.get
  fromOption (runNotFound runId)
    ((db.runs.find runId).filter fun run => decide (run.organizationId = organizationId))

def transition (runId : UUID) (status : RunStatus) (now : Instant)
    (errorCode errorMessage : Option String) (organizationId : UUID) :
    Session ReconciliationRunRecord := do
  let run ← get runId organizationId
  require (status ∈ run.status.transitions) (.invalidStatusTransition
    ("cannot transition run from " ++ run.status.value ++ " to " ++ status.value))
  flushRun (run.moved status now errorCode errorMessage)
  return run.moved status now errorCode errorMessage

end ReconciliationRunRepository

/-! ### Results, configurations, files and audit events of a run -/

namespace Database

variable (db : Database) (runId : UUID)

def resultsOf : List ReconciliationResultRecord :=
  db.results.rows.filter fun record => decide (record.runId = runId)

def auditEventsOf : List AuditEventRecord :=
  db.auditEvents.rows.filter fun record => decide (record.runId = runId)

def filesOf : List SourceFileRecord :=
  db.sourceFiles.rows.filter fun file => decide (file.runId = runId)

end Database

def configurationNotFound (runId : UUID) : Error :=
  .recordNotFound ("configuration for run " ++ runId.format ++ " was not found")

namespace ConfigurationSnapshotRepository

def getForRun (runId : UUID) : Session ConfigurationSnapshotRecord := do
  let db ← get
  fromOption (configurationNotFound runId) (db.configurations.find runId)

end ConfigurationSnapshotRepository

namespace SourceFileRepository

def listForRun (runId : UUID) : Session (List SourceFileRecord) := do
  return (← get).filesOf runId

end SourceFileRepository

namespace ReconciliationResultRepository

def addMany (runId : UUID) (results : List ReconciliationResult) : Session Unit := do
  let stored ← fromOption (.runtime "numeric field overflow") (results.mapM toColumns)
  let db ← get
  let records := stored.map fun result => ⟨runId, result⟩
  let rows ← fromOption integrityError (Table.ofRows? resultSchema (db.results.rows ++ records))
  set { db with results := rows }

end ReconciliationResultRepository

/-- `max(sequence_number) or 0`. -/
def lastSequence (sequences : List Nat) : Nat := sequences.foldr max 0

namespace AuditEventRepository

def append (runId : UUID) (event : AuditEvent) : Session Unit := do
  let db ← get
  require ((db.runs.find runId).isSome) (runNotFound runId)
  let sequence := lastSequence ((db.auditEventsOf runId).map (·.sequenceNumber))
  let auditEvents ← fromOption integrityError (db.auditEvents.insert? ⟨runId, sequence + 1, event⟩)
  set { db with auditEvents := auditEvents }

end AuditEventRepository

/-! ### Background jobs -/

namespace BackgroundJobRepository

def flush (job : BackgroundJobRecord) : Session Unit := do
  let db ← get
  let jobs ← fromOption integrityError (db.jobs.update? job)
  set { db with jobs := jobs }

def appendEvent (job : BackgroundJobRecord) (eventType : BackgroundJobEventType)
    (occurredAt : Instant) (details : EventDetails) : Session Unit := do
  let db ← get
  let events := db.jobEvents.rows.filter fun event => decide (event.jobId = job.id)
  -- the numbers of a job start at one and have no gaps while nothing is deleted
  let sequence := lastSequence (events.map (·.sequenceNumber))
  let jobEvents ← fromOption integrityError (db.jobEvents.insert?
    ⟨job.organizationId, job.id, sequence + 1, eventType, occurredAt, details⟩)
  set { db with jobEvents := jobEvents }

def get (jobId organizationId : UUID) : Session BackgroundJobRecord := do
  let db ← MonadState.get
  fromOption (.recordNotFound ("background job " ++ jobId.format ++ " was not found"))
    ((db.jobs.find jobId).filter fun job => decide (job.organizationId = organizationId))

def getForRun (runId organizationId : UUID) : Session (Option BackgroundJobRecord) := do
  let db ← MonadState.get
  return db.jobs.rows.find? fun job =>
    decide (job.runId = runId) && decide (job.organizationId = organizationId)

/-- The id and the creation time, which the database fills in, are arguments. -/
def create (jobId organizationId runId : UUID) (scheduledAt : Instant) (maxAttempts timeoutSeconds : Nat)
    (priority : BackgroundJobPriority) (now : Instant) : Session BackgroundJobRecord := do
  require (1 ≤ maxAttempts) (.value "max_attempts must be a positive integer")
  require (30 ≤ timeoutSeconds) (.value "timeout_seconds must be at least 30")
  let db ← MonadState.get
  require (((db.runs.find runId).filter fun run =>
    decide (run.organizationId = organizationId)).isSome) (runNotFound runId)
  require (¬ db.jobs.rows.any fun job => decide (job.runId = runId))
    (.persistenceConflict ("run " ++ runId.format ++ " already has a background job"))
  let job : BackgroundJobRecord := {
    id := jobId, organizationId, runId, scheduledAt, maxAttempts, timeoutSeconds, priority
    createdAt := now }
  let jobs ← fromOption integrityError (db.jobs.insert? job)
  set { db with jobs := jobs }
  appendEvent job .jobQueued now { status := job.status, priority := some job.priority }
  return job

/-- The job that `claim_next` selects: the first in its order. -/
def nextJob (jobs : List BackgroundJobRecord) (claimedAt : Instant) (organizationId : Option UUID)
    (priorityAgingSeconds : Nat) : Option BackgroundJobRecord :=
  let order (job : BackgroundJobRecord) : Int ×ₗ Int ×ₗ Int ×ₗ Nat :=
    toLex (-(job.effectivePriority claimedAt priorityAgingSeconds : Int),
      toLex (job.eligibleSince, toLex (job.createdAt, job.id.toNat)))
  (sortOn order (jobs.filter (·.isEligible claimedAt organizationId))).head?

def claimNext (workerId : String) (now : Instant) (organizationId : Option UUID)
    (priorityAgingSeconds : Nat) : Session (Option BackgroundJobRecord) := do
  let workerId := strip workerId
  require (workerId ≠ "" ∧ workerId.length ≤ 200)
    (.value "worker_id must contain between 1 and 200 characters")
  require (30 ≤ priorityAgingSeconds) (.value "priority_aging_seconds must be at least 30")
  let db ← MonadState.get
  match nextJob db.jobs.rows now organizationId priorityAgingSeconds with
  | none => return none
  | some job =>
    let record := job.claimed workerId now
    flush record
    appendEvent record .jobClaimed now {
      status := record.status
      attemptCount := some record.attemptCount
      priority := some record.priority
      deadlineAt := record.deadlineAt }
    return some record

def retryFailed (jobId organizationId : UUID) (maxManualRetries : Nat) (now : Instant) :
    Session BackgroundJobRecord := do
  require (1 ≤ maxManualRetries) (.value "max_manual_retries must be a positive integer")
  let job ← get jobId organizationId
  require (job.status = .failed)
    (.invalidStatusTransition "only failed background jobs can be retried")
  require (job.manualRetryCount < maxManualRetries)
    (.invalidStatusTransition "manual retry limit has been reached")
  let db ← MonadState.get
  -- the results are counted for the run alone, in any organization
  require (db.resultsOf job.runId = [])
    (.invalidStatusTransition "jobs with persisted results cannot be retried")
  let run ← fromOption (.invalidStatusTransition "the associated run is not retryable")
    ((db.runs.find job.runId).filter fun run =>
      decide (run.organizationId = organizationId) && decide (run.status = .failed))
  let record := job.retried now
  flush record
  flushRun run.renewed
  appendEvent record .jobManualRetryRequested now {
    status := record.status
    manualRetryCount := some record.manualRetryCount
    priority := some record.priority }
  return record

def heartbeat (jobId organizationId : UUID) (workerId : String) (now : Instant) :
    Session BackgroundJobRecord := do
  let job ← get jobId organizationId
  require (job.status.isActive ∧ job.claimedBy = some workerId)
    (.invalidStatusTransition "background job lease is not owned by this worker")
  flush (job.beaten now)
  return job.beaten now

/-- The loop body of `recover_stale`. -/
def recover (now : Instant) (job : BackgroundJobRecord) : Session Unit := do
  let record := job.recovered now
  flush record
  appendEvent record .jobRecovered now {
    status := record.status
    previousStatus := some job.status
    attemptCount := some record.attemptCount
    failureCode := record.failureCode }

def recoverStale (staleBefore now : Instant) : Session Nat := do
  let db ← MonadState.get
  let records := db.jobs.rows.filter (·.isStale staleBefore)
  forM records (recover now)
  return records.length

def updateProgress (jobId organizationId : UUID) (percentage : Int) (message : Option String)
    (now : Instant) : Session BackgroundJobRecord := do
  require (0 ≤ percentage ∧ percentage ≤ 100)
    (.value "progress_percentage must be between 0 and 100")
  let job ← get jobId organizationId
  require job.status.isActive (.invalidStatusTransition
    ("cannot update progress for a " ++ job.status.value ++ " background job"))
  let record := job.progressed percentage message
  flush record
  appendEvent record .jobProgressUpdated now {
    status := record.status, progressPercentage := some record.progressPercentage }
  return record

def requestCancellation (jobId organizationId : UUID) (now : Instant) :
    Session BackgroundJobRecord := do
  let job ← get jobId organizationId
  require (job.status = .queued ∨ job.status = .running)
    (.invalidStatusTransition ("cannot cancel a " ++ job.status.value ++ " background job"))
  appendEvent job .jobCancellationRequested now { status := job.status }
  let record := job.cancelled now
  flush record
  -- a queued job has no worker to stop, so it is cancelled at once
  if job.status = .queued then
    appendEvent record .jobCancelled now { status := record.status }
  return record

/-- The event that `complete` appends. -/
def completionEvent (target : BackgroundJobStatus) (failureCode : Option String) (retry : Bool) :
    BackgroundJobEventType :=
  if retry then .jobRetryScheduled
  else
    match target with
    | .succeeded => .jobSucceeded
    | .cancelled => .jobCancelled
    | _ => if failureCode = some "JOB_TIMEOUT" then .jobTimedOut else .jobFailed

def complete (jobId : UUID) (target : BackgroundJobStatus) (organizationId : UUID) (now : Instant)
    (failureCode failureMessage : Option String) (retryAt : Option Instant) :
    Session BackgroundJobRecord := do
  let job ← get jobId organizationId
  require (target ∈ job.status.allowed) (.invalidStatusTransition
    ("cannot transition background job from " ++ job.status.value ++ " to " ++ target.value))
  let retry := BackgroundJobRecord.isRetry target retryAt
  require (retry = true → job.attemptCount < job.maxAttempts)
    (.invalidStatusTransition "background job has exhausted its attempts")
  let record := job.completed target now failureCode failureMessage retryAt
  flush record
  appendEvent record (completionEvent target failureCode retry) now {
    status := record.status
    attemptCount := some record.attemptCount
    failureCode := record.failureCode
    retryAt := record.retryAt }
  return record

/-- What both retention operations check. -/
def checkCutoffs (cutoffs : List (BackgroundJobStatus × Instant)) : Session Unit :=
  require (∀ cutoff ∈ cutoffs, cutoff.1.isTerminal = true)
    (.value "retention cleanup only supports terminal job statuses")

/-- The jobs that `delete_expired_terminal` selects; a missing time comes last. -/
def expiredJobs (jobs : List BackgroundJobRecord) (cutoffs : List (BackgroundJobStatus × Instant))
    (limit : Nat) : List UUID :=
  let order (job : BackgroundJobRecord) : Bool ×ₗ Int ×ₗ Nat :=
    toLex (job.completedAt.isNone, toLex (job.completedAt.getD 0, job.id.toNat))
  ((sortOn order (jobs.filter (·.isExpired cutoffs))).take limit).map (·.id)

def deleteExpiredTerminal (cutoffs : List (BackgroundJobStatus × Instant)) (limit : Nat) :
    Session Nat := do
  require (1 ≤ limit) (.value "limit must be a positive integer")
  checkCutoffs cutoffs
  let db ← MonadState.get
  let ids := expiredJobs db.jobs.rows cutoffs limit
  set { db with
    jobEvents := db.jobEvents.filter fun event => decide (event.jobId ∉ ids)
    jobs := db.jobs.filter fun job => ¬ (decide (job.id ∈ ids) && job.isExpired cutoffs) }
  return (db.jobs.rows.filter fun job =>
    decide (job.id ∈ ids) && job.isExpired cutoffs).length

end BackgroundJobRepository

end ReconcileFlow.Persistence
