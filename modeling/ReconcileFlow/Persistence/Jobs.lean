import ReconcileFlow.Persistence.Records
import ReconcileFlow.Support.Sorting

/-!
# Persistence — Jobs

What the operations of the job queue make of one job record: which jobs `claim_next` may take and
in what order, and the record after each operation.  The transactions around them are in
`Persistence.Repositories`.
-/

namespace ReconcileFlow.Persistence

open Support

/-- `value.strip()[:limit] if value else None`. -/
def clip (limit : Nat) (text : Option String) : Option String :=
  (text.filter fun value => value != "").map fun value =>
    String.ofList ((strip value).toList.take limit)

namespace BackgroundJobStatus

/-- The statuses that `complete` may be asked for in each status. -/
def allowed : BackgroundJobStatus → List BackgroundJobStatus
  | .running => [.succeeded, .failed]
  | .cancelRequested => [.cancelled, .failed]
  | _ => []

/-- `complete` starts from a job at work and ends with one that is not. -/
theorem active_of_allowed {status target : BackgroundJobStatus} (h : target ∈ status.allowed) :
    status.isActive = true ∧ target.isActive = false := by
  cases status <;> simp [allowed] at h <;> rcases h with rfl | rfl <;> exact ⟨rfl, rfl⟩

theorem terminal_of_allowed {status target : BackgroundJobStatus} (h : target ∈ status.allowed) :
    target.isTerminal = true := by
  cases status <;> simp [allowed] at h <;> rcases h with rfl | rfl <;> rfl

end BackgroundJobStatus

namespace BackgroundJobRecord

variable (job : BackgroundJobRecord)

/-! ### Claiming -/

/-- `coalesce(retry_at, scheduled_at)`. -/
def eligibleSince : Instant := job.retryAt.getD job.scheduledAt

def effectivePriority (claimedAt : Instant) (priorityAgingSeconds : Nat) : Nat :=
  let agedOnce := claimedAt - seconds priorityAgingSeconds
  let agedTwice := claimedAt - seconds (priorityAgingSeconds * 2)
  match job.priority with
  | .high => 2
  | .normal => if job.eligibleSince ≤ agedOnce then 2 else 1
  | .low => if job.eligibleSince ≤ agedTwice then 2 else if job.eligibleSince ≤ agedOnce then 1 else 0

def isEligible (claimedAt : Instant) (organizationId : Option UUID) : Bool :=
  decide (job.status = .queued) && decide (job.scheduledAt ≤ claimedAt) &&
    (job.retryAt.all fun retryAt => decide (retryAt ≤ claimedAt)) &&
    decide (job.attemptCount < job.maxAttempts) &&
    organizationId.all fun id => decide (job.organizationId = id)

def claimed (workerId : String) (claimedAt : Instant) : BackgroundJobRecord :=
  { job with
    status := .running
    attemptCount := job.attemptCount + 1
    totalAttemptCount := job.totalAttemptCount + 1
    startedAt := some claimedAt
    claimedBy := some workerId
    heartbeatAt := some claimedAt
    completedAt := none
    deadlineAt := some (claimedAt + seconds job.timeoutSeconds)
    retryAt := none
    failureCode := none
    failureMessage := none }

/-! ### While an attempt is at work -/

def beaten (now : Instant) : BackgroundJobRecord := { job with heartbeatAt := some now }

def progressed (percentage : Int) (message : Option String) : BackgroundJobRecord :=
  { job with progressPercentage := percentage, statusMessage := clip 500 message }

/-- The lease has run out: no heartbeat since `cutoff`. -/
def isStale (cutoff : Instant) : Bool :=
  job.status.isActive && job.heartbeatAt.any fun heartbeat => decide (heartbeat ≤ cutoff)

def recovered (now : Instant) : BackgroundJobRecord :=
  let record :=
    if job.status = .cancelRequested then
      { job with
        status := .cancelled
        completedAt := some now
        statusMessage := some "Cancelled after worker interruption" }
    else if job.attemptCount < job.maxAttempts then
      { job with
        status := .queued
        retryAt := some now
        startedAt := none
        statusMessage := some "Recovered after worker interruption" }
    else
      { job with
        status := .failed
        completedAt := some now
        failureCode := some "WORKER_INTERRUPTED"
        failureMessage := some "Background processing was interrupted." }
  { record with claimedBy := none, heartbeatAt := none, deadlineAt := none }

/-- What `recover_stale` makes of a job. -/
def swept (cutoff now : Instant) : BackgroundJobRecord :=
  if job.isStale cutoff then job.recovered now else job

/-! ### Ending -/

def cancelled (now : Instant) : BackgroundJobRecord :=
  if job.status = .queued then
    { job with
      cancellationRequestedAt := some now
      status := .cancelled
      completedAt := some now
      statusMessage := some "Cancelled before processing"
      deadlineAt := none }
  else
    { job with
      cancellationRequestedAt := some now
      status := .cancelRequested
      statusMessage := some "Cancellation requested" }

/-- `complete` schedules a retry rather than ending the job. -/
def isRetry (target : BackgroundJobStatus) (retryAt : Option Instant) : Bool :=
  decide (target = .failed) && retryAt.isSome

def completed (target : BackgroundJobStatus) (now : Instant) (failureCode failureMessage : Option String)
    (retryAt : Option Instant) : BackgroundJobRecord :=
  let record :=
    if isRetry target retryAt then
      { job with status := .queued, retryAt := retryAt, statusMessage := some "Retry scheduled" }
    else
      { job with
        status := target
        completedAt := some now
        progressPercentage := if target = .succeeded then 100 else job.progressPercentage }
  { record with
    claimedBy := none
    heartbeatAt := none
    deadlineAt := none
    failureCode := if target = .failed then clip 100 failureCode else record.failureCode
    failureMessage := if target = .failed then clip 2000 failureMessage else record.failureMessage }

def retried (now : Instant) : BackgroundJobRecord :=
  { job with
    status := .queued
    progressPercentage := 0
    statusMessage := some "Manual retry queued"
    attemptCount := 0
    manualRetryCount := job.manualRetryCount + 1
    lastManualRetryAt := some now
    scheduledAt := now
    startedAt := none
    completedAt := none
    deadlineAt := none
    cancellationRequestedAt := none
    retryAt := none
    claimedBy := none
    heartbeatAt := none
    failureCode := none
    failureMessage := none }

/-! ### Retention -/

/-- `_retention_conditions`: the job ended before the cutoff of its status. -/
def isExpired (cutoffs : List (BackgroundJobStatus × Instant)) : Bool :=
  cutoffs.any fun (status, cutoff) =>
    decide (job.status = status) &&
      ((job.completedAt.any fun completedAt => decide (completedAt ≤ cutoff)) ||
        (decide (status = .cancelled) && job.completedAt.isNone &&
          job.cancellationRequestedAt.any fun requestedAt => decide (requestedAt ≤ cutoff)))

/-! ### What every operation keeps -/

/-- Two states of one job: the columns that no operation writes agree. -/
structure SameJob (job job' : BackgroundJobRecord) : Prop where
  id : job'.id = job.id
  organizationId : job'.organizationId = job.organizationId
  runId : job'.runId = job.runId
  maxAttempts : job'.maxAttempts = job.maxAttempts

variable {job}

theorem SameJob.refl : SameJob job job := ⟨rfl, rfl, rfl, rfl⟩

theorem SameJob.trans {job' job'' : BackgroundJobRecord} (h : SameJob job job')
    (h' : SameJob job' job'') : SameJob job job'' :=
  ⟨h'.id.trans h.id, h'.organizationId.trans h.organizationId, h'.runId.trans h.runId,
    h'.maxAttempts.trans h.maxAttempts⟩

theorem sameJob_claimed {workerId : String} {now : Instant} :
    SameJob job (job.claimed workerId now) := ⟨rfl, rfl, rfl, rfl⟩

theorem sameJob_beaten {now : Instant} : SameJob job (job.beaten now) := ⟨rfl, rfl, rfl, rfl⟩

theorem sameJob_progressed {percentage : Int} {message : Option String} :
    SameJob job (job.progressed percentage message) := ⟨rfl, rfl, rfl, rfl⟩

theorem sameJob_recovered {now : Instant} : SameJob job (job.recovered now) := by
  by_cases hc : job.status = .cancelRequested <;> by_cases ha : job.attemptCount < job.maxAttempts <;>
    constructor <;> simp [recovered, hc, ha]

theorem sameJob_swept {cutoff now : Instant} : SameJob job (job.swept cutoff now) := by
  unfold swept
  split
  · exact sameJob_recovered
  · exact .refl

theorem sameJob_cancelled {now : Instant} : SameJob job (job.cancelled now) := by
  by_cases hq : job.status = .queued <;> constructor <;> simp [cancelled, hq]

theorem sameJob_completed {target : BackgroundJobStatus} {now : Instant}
    {failureCode failureMessage : Option String} {retryAt : Option Instant} :
    SameJob job (job.completed target now failureCode failureMessage retryAt) := by
  cases hr : isRetry target retryAt <;> constructor <;> simp [completed, hr]

theorem status_recovered {now : Instant} : (job.recovered now).status =
    if job.status = .cancelRequested then .cancelled
    else if job.attemptCount < job.maxAttempts then .queued else .failed := by
  by_cases hc : job.status = .cancelRequested <;> by_cases ha : job.attemptCount < job.maxAttempts <;>
    simp [recovered, hc, ha]

theorem status_cancelled {now : Instant} : (job.cancelled now).status =
    if job.status = .queued then .cancelled else .cancelRequested := by
  by_cases hq : job.status = .queued <;> simp [cancelled, hq]

@[simp] theorem claimedBy_cancelled {now : Instant} :
    (job.cancelled now).claimedBy = job.claimedBy := by
  by_cases hq : job.status = .queued <;> simp [cancelled, hq]

@[simp] theorem attemptCount_recovered {now : Instant} :
    (job.recovered now).attemptCount = job.attemptCount := by
  by_cases hc : job.status = .cancelRequested <;> by_cases ha : job.attemptCount < job.maxAttempts <;>
    simp [recovered, hc, ha]

@[simp] theorem attemptCount_cancelled {now : Instant} :
    (job.cancelled now).attemptCount = job.attemptCount := by
  by_cases hq : job.status = .queued <;> simp [cancelled, hq]

theorem not_active_recovered {now : Instant} : (job.recovered now).status.isActive = false := by
  rw [status_recovered]
  split
  · rfl
  · split <;> rfl

/-- The recovery of a job that is to be cancelled, or has no attempt left, completes it. -/
theorem completed_recovered (job : BackgroundJobRecord) (now : Instant)
    (h : job.status = .cancelRequested ∨ job.maxAttempts ≤ job.attemptCount) :
    (job.recovered now).completedAt = some now ∧ (job.recovered now).startedAt = job.startedAt := by
  by_cases hc : job.status = .cancelRequested
  · simp [recovered, hc]
  · have hlast : ¬ job.attemptCount < job.maxAttempts := by
      have := h.resolve_left hc
      omega
    simp [recovered, hc, hlast]

theorem recovered_ne_succeeded {now : Instant} : (job.recovered now).status ≠ .succeeded := by
  rw [status_recovered]
  split
  · decide
  · split <;> decide

theorem sameJob_retried {now : Instant} : SameJob job (job.retried now) := ⟨rfl, rfl, rfl, rfl⟩

end BackgroundJobRecord

end ReconcileFlow.Persistence
