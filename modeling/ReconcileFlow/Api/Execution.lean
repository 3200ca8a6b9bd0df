import ReconcileFlow.Persistence.Effects

/-!
# Api — Execution

The transactions of the execution and job routes: queueing the execution of a pending run,
cancelling a job and retrying a failed one.
-/

namespace ReconcileFlow.Api

open Support Support.Transaction Persistence

/-- The settings that the routes read. -/
structure Settings where
  defaultJobTimeoutSeconds : Nat := 900
  maximumJobTimeoutSeconds : Nat := 3600
  maxManualJobRetries : Nat := 3
deriving DecidableEq, Repr

structure ExecutionRequest where
  scheduledAt : Option Instant := none
  timeoutSeconds : Option Nat := none
  priority : BackgroundJobPriority := .normal
deriving DecidableEq, Repr

/-- `execute_run` at the time `now`, for a tenant.  The id of the job is an argument. -/
def executeRun (settings : Settings) (runId organizationId jobId : UUID)
    (request : ExecutionRequest) (now : Instant) : Session BackgroundJobRecord := do
  let scheduledAt := request.scheduledAt.getD now
  require (now ≤ scheduledAt)
    (.api 422 "SCHEDULE_IN_PAST" "The execution schedule must not be in the past.")
  require (scheduledAt ≤ now + seconds (365 * 86400))
    (.api 422 "SCHEDULE_TOO_DISTANT" "The execution schedule must be within 365 days.")
  let timeoutSeconds := request.timeoutSeconds.getD settings.defaultJobTimeoutSeconds
  require (timeoutSeconds ≤ settings.maximumJobTimeoutSeconds)
    (.api 422 "JOB_TIMEOUT_TOO_LARGE" "The execution timeout exceeds the permitted maximum.")
  let run ← ReconciliationRunRepository.get runId organizationId
  require (run.status = .pending)
    (.api 409 "RUN_NOT_PENDING" "Only a pending reconciliation run can be executed.")
  let files ← SourceFileRepository.listForRun runId
  let present (sourceType : SourceType) := files.any fun file => decide (file.sourceType = sourceType)
  require (present .bankTransactions ∧ present .erpInvoices)
    (.api 422 "MISSING_SOURCE_FILES"
      "Bank transactions and ERP invoices are required before execution.")
  let _ ← ConfigurationSnapshotRepository.getForRun runId
  let existing ← BackgroundJobRepository.getForRun runId organizationId
  require (existing = none)
    (.api 409 "EXECUTION_ALREADY_QUEUED" "Execution has already been queued for this run.")
  BackgroundJobRepository.create jobId organizationId runId scheduledAt 3 timeoutSeconds
    request.priority now

def cancelBackgroundJob (jobId organizationId : UUID) (now : Instant) :
    Session BackgroundJobRecord :=
  BackgroundJobRepository.requestCancellation jobId organizationId now

def retryBackgroundJob (settings : Settings) (jobId organizationId : UUID) (now : Instant) :
    Session BackgroundJobRecord :=
  BackgroundJobRepository.retryFailed jobId organizationId settings.maxManualJobRetries now

/-- What an accepted execution did: a fresh job for a pending run that had none. -/
theorem runs_executeRun {settings : Settings} {runId organizationId jobId : UUID}
    {request : ExecutionRequest} {now : Instant} {db db' : Database} {job : BackgroundJobRecord}
    (h : Runs (executeRun settings runId organizationId jobId request now) db job db') :
    ∃ run, db.runs.find runId = some run ∧ run.organizationId = organizationId ∧
      run.status = .pending ∧ (db.configurations.find runId).isSome ∧
      job.id = jobId ∧ job.runId = runId ∧ job.organizationId = organizationId ∧
      job.status = .queued ∧ db.jobs.find jobId = none ∧
      (∀ job ∈ db.jobs.rows, job.runId ≠ runId) ∧ JobStored db job db' := by
  simp only [executeRun, SourceFileRepository.listForRun,
    ConfigurationSnapshotRepository.getForRun, BackgroundJobRepository.getForRun, runs_bind,
    runs_get_run, runs_require, runs_get, runs_pure, runs_fromOption] at h
  obtain ⟨_, _, ⟨-, rfl⟩, _, _, ⟨-, rfl⟩, _, _, ⟨-, rfl⟩, run, _, ⟨hrun, horg, rfl⟩, _, _,
    ⟨hpending, rfl⟩, _, _, ⟨_, _, ⟨rfl, rfl⟩, -, rfl⟩, _, _, ⟨-, rfl⟩, configuration, _,
    ⟨_, _, ⟨rfl, rfl⟩, hconfig, rfl⟩, _, _, ⟨_, _, ⟨rfl, rfl⟩, -, rfl⟩, _, _, ⟨-, rfl⟩, hcreate⟩ := h
  obtain ⟨rfl, hfresh, hunqueued, hstored, -⟩ := runs_create hcreate
  exact ⟨run, hrun, horg, hpending, by simp [hconfig], rfl, rfl, rfl, rfl, hfresh, hunqueued,
    hstored⟩

/-- An accepted execution found both required files. -/
theorem files_of_executeRun {settings : Settings} {runId organizationId jobId : UUID}
    {request : ExecutionRequest} {now : Instant} {db db' : Database} {job : BackgroundJobRecord}
    (h : Runs (executeRun settings runId organizationId jobId request now) db job db') :
    (∃ file ∈ db.filesOf runId, file.sourceType = .bankTransactions) ∧
      ∃ file ∈ db.filesOf runId, file.sourceType = .erpInvoices := by
  simp only [executeRun, SourceFileRepository.listForRun, runs_bind, runs_get_run, runs_require,
    runs_get, runs_pure] at h
  obtain ⟨_, _, ⟨-, rfl⟩, _, _, ⟨-, rfl⟩, _, _, ⟨-, rfl⟩, _, _, ⟨-, -, rfl⟩, _, _, ⟨-, rfl⟩, _, _,
    ⟨_, _, ⟨rfl, rfl⟩, rfl, rfl⟩, _, _, ⟨⟨hbank, herp⟩, rfl⟩, -⟩ := h
  exact ⟨by simpa using hbank, by simpa using herp⟩

end ReconcileFlow.Api
