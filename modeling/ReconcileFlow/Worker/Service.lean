import ReconcileFlow.Persistence.Effects

/-!
# Worker — Service

The transactions of the polling worker: the poll that recovers stale leases and claims a job, the
checkpoint of a processor, and the finish transaction that follows what the processor did.  Times
are arguments, where the source reads its clock.
-/

namespace ReconcileFlow.Worker

open Support Support.Transaction Persistence

/-- The identifiers passed to a processor. -/
structure WorkerJob where
  id : UUID
  organizationId : UUID
  runId : UUID
  attemptCount : Nat
  maxAttempts : Nat
  timeoutSeconds : Nat
  deadlineAt : Instant
deriving DecidableEq, Repr

/-- The exception that ends processing. -/
inductive Failure
  | jobCancelled
  | jobTimedOut
  | error (typeName : String)
deriving DecidableEq, Repr

def Failure.typeName : Failure → String
  | .jobCancelled => "JobCancelled"
  | .jobTimedOut => "JobTimedOut"
  | .error typeName => typeName

/-- What `__init__` accepts. -/
structure BackgroundWorker where
  workerId : String
  staleTimeoutSeconds : Nat := 300
  retryDelaySeconds : Nat := 30
  priorityAgingSeconds : Nat := 300
  organizationId : Option UUID := none
  workerId_text : isText workerId = true := by decide
  workerId_length : workerId.length ≤ 200 := by decide
  staleTimeout_min : 30 ≤ staleTimeoutSeconds := by decide
  retryDelay_pos : 1 ≤ retryDelaySeconds := by decide
  priorityAging_min : 30 ≤ priorityAgingSeconds := by decide

namespace BackgroundWorker

variable (worker : BackgroundWorker)

/-! ### `run_once` -/

/-- `WorkerJob(...)` of a claimed record. -/
def workerJob (record : BackgroundJobRecord) (deadlineAt : Instant) : WorkerJob where
  id := record.id
  organizationId := record.organizationId
  runId := record.runId
  attemptCount := record.attemptCount
  maxAttempts := record.maxAttempts
  timeoutSeconds := record.timeoutSeconds
  deadlineAt := deadlineAt

/-- A job without a heartbeat since then is stale. -/
def staleBefore (now : Instant) : Instant := now - seconds worker.staleTimeoutSeconds

/-- The first transaction of `run_once`. -/
def poll (now : Instant) : Session (Option WorkerJob) := do
  let _ ← BackgroundJobRepository.recoverStale (worker.staleBefore now) now
  let record ← BackgroundJobRepository.claimNext worker.workerId now worker.organizationId
    worker.priorityAgingSeconds
  match record with
  | none => return none
  | some record =>
    let deadlineAt ← fromOption
      (.value "claimed background job must have an execution deadline") record.deadlineAt
    return some (workerJob record deadlineAt)

/-! ### `checkpoint` -/

def checkpoint (job : WorkerJob) (percentage : Int) (message : String) (now : Instant) :
    Session BackgroundJobRecord := do
  let _ ← BackgroundJobRepository.heartbeat job.id job.organizationId worker.workerId now
  BackgroundJobRepository.updateProgress job.id job.organizationId percentage (some message) now

/-- What `checkpoint` raises after its transaction. -/
def interruption (record : BackgroundJobRecord) (now : Instant) : Option Failure :=
  -- a cancellation comes before the deadline
  if record.status = .cancelRequested then some .jobCancelled
  else if record.deadlineAt.any fun deadline => decide (deadline ≤ now) then some .jobTimedOut
  else none

/-! ### `_finish_*` -/

/-- `now + self._retry_delay if job.attempt_count < job.max_attempts else None`. -/
def retryAt (job : WorkerJob) (now : Instant) : Option Instant :=
  if job.attemptCount < job.maxAttempts then some (now + seconds worker.retryDelaySeconds) else none

def finishSuccessfully (job : WorkerJob) (now : Instant) : Session BackgroundJobRecord := do
  let record ← BackgroundJobRepository.get job.id job.organizationId
  if record.status = .cancelRequested then
    BackgroundJobRepository.complete job.id .cancelled job.organizationId now none none none
  else
    BackgroundJobRepository.complete job.id .succeeded job.organizationId now none none none

def finishCancelled (job : WorkerJob) (now : Instant) : Session BackgroundJobRecord :=
  BackgroundJobRepository.complete job.id .cancelled job.organizationId now none none none

def finishFailed (job : WorkerJob) (now : Instant) : Session BackgroundJobRecord :=
  BackgroundJobRepository.complete job.id .failed job.organizationId now
    (some "WORKER_PROCESSING_FAILED") (some "Background job processing failed.")
    (worker.retryAt job now)

def finishTimedOut (job : WorkerJob) (now : Instant) : Session BackgroundJobRecord := do
  let record ← BackgroundJobRepository.get job.id job.organizationId
  if record.status = .cancelRequested then
    BackgroundJobRepository.complete job.id .cancelled job.organizationId now none none none
  else
    BackgroundJobRepository.complete job.id .failed job.organizationId now
      (some "JOB_TIMEOUT") (some "Background job exceeded its execution timeout.")
      (worker.retryAt job now)

/-- The finish transaction for what the processor raised, if anything. -/
def finish (job : WorkerJob) (outcome : Option Failure) (now : Instant) :
    Session BackgroundJobRecord :=
  match outcome with
  | none => finishSuccessfully job now
  | some .jobCancelled => finishCancelled job now
  | some .jobTimedOut => worker.finishTimedOut job now
  | some (.error _) => worker.finishFailed job now

/-! ### What the transactions did -/

/-- The status that the finish transaction asks `complete` for. -/
def target (outcome : Option Failure) (status : BackgroundJobStatus) : BackgroundJobStatus :=
  match outcome with
  | none => if status = .cancelRequested then .cancelled else .succeeded
  | some .jobCancelled => .cancelled
  | some .jobTimedOut => if status = .cancelRequested then .cancelled else .failed
  | some (.error _) => .failed

/-- The finish transaction asks for a retry. -/
def asksRetry (job : WorkerJob) (outcome : Option Failure) (status : BackgroundJobStatus) : Bool :=
  decide (target outcome status = .failed) && decide (job.attemptCount < job.maxAttempts)

/-- The finish transaction finds a record that it may finish. -/
structure Finishable (job : WorkerJob) (outcome : Option Failure) (now : Instant)
    (record : BackgroundJobRecord) : Prop where
  allowed : target outcome record.status ∈ record.status.allowed
  attempts : asksRetry job outcome record.status = true → record.attemptCount < record.maxAttempts
  clock : asksRetry job outcome record.status = false →
    notBefore (some now) record.startedAt = true

instance (job : WorkerJob) (outcome : Option Failure) (now : Instant)
    (record : BackgroundJobRecord) : Decidable (Finishable job outcome now record) :=
  decidable_of_iff (_ ∧ (_ → _) ∧ (_ → _))
    ⟨fun ⟨h, h', h''⟩ => ⟨h, h', h''⟩, fun ⟨h, h', h''⟩ => ⟨h, h', h''⟩⟩

/-- What the finish transaction makes of the record. -/
structure Finished (job : WorkerJob) (outcome : Option Failure) (now : Instant)
    (record record' : BackgroundJobRecord) : Prop extends Finishable job outcome now record where
  same : record.SameJob record'
  attemptCount : record'.attemptCount = record.attemptCount
  status : record'.status =
    if asksRetry job outcome record.status then .queued else target outcome record.status

/-- A finished attempt is not at work any more. -/
theorem Finished.not_active {job : WorkerJob} {outcome : Option Failure} {now : Instant}
    {record record' : BackgroundJobRecord} (h : Finished job outcome now record record') :
    record'.status.isActive = false := by
  rw [h.status]
  split
  · rfl
  · exact (BackgroundJobStatus.active_of_allowed h.allowed).2

variable {worker} {db db' : Database} {job : WorkerJob} {now : Instant}
  {record : BackgroundJobRecord}

/-- What `complete` made of the record, when it was asked for what the outcome asks for. -/
theorem finished_of_complete {outcome : Option Failure} {code message : Option String}
    {retryAt : Option Instant} {old : BackgroundJobRecord}
    (hold : db.jobs.find job.id = some old)
    (h : Runs (BackgroundJobRepository.complete job.id (target outcome old.status)
      job.organizationId now code message retryAt) db record db')
    (hretry : BackgroundJobRecord.isRetry (target outcome old.status) retryAt =
      asksRetry job outcome old.status) :
    Finished job outcome now old record ∧ JobStored db record db' := by
  obtain ⟨old', hold', hallowed, hattempts, rfl, hstored, -⟩ := runs_complete h
  obtain rfl : old = old' := Option.some.inj (hold.symm.trans hold')
  have hcheck := Table.check_of_find ((hstored.find _).trans (if_pos rfl))
  refine ⟨⟨⟨hallowed, fun hr => hattempts (hretry.trans hr), fun hr => ?_⟩,
    BackgroundJobRecord.sameJob_completed, ?_, ?_⟩, hstored⟩
  · simp only [jobSchema, BackgroundJobRecord.completed, hretry, hr, Bool.and_eq_true] at hcheck
    exact hcheck.2
  · unfold BackgroundJobRecord.completed
    split <;> rfl
  · unfold BackgroundJobRecord.completed
    rw [hretry]
    split <;> rfl

theorem isRetry_retryAt (target : BackgroundJobStatus) :
    BackgroundJobRecord.isRetry target (worker.retryAt job now) =
      (decide (target = .failed) && decide (job.attemptCount < job.maxAttempts)) := by
  unfold BackgroundJobRecord.isRetry retryAt
  by_cases h : job.attemptCount < job.maxAttempts <;> simp [h]

theorem runs_finish {outcome : Option Failure}
    (h : Runs (worker.finish job outcome now) db record db') :
    ∃ old, db.jobs.find job.id = some old ∧ Finished job outcome now old record ∧
      JobStored db record db' := by
  cases outcome with
  | none =>
    simp only [finish, finishSuccessfully, runs_bind, runs_get_job] at h
    obtain ⟨old, _, ⟨hold, -, rfl⟩, h⟩ := h
    refine ⟨old, hold, ?_⟩
    split at h
    · next hc =>
      have ht : target none old.status = .cancelled := if_pos hc
      exact finished_of_complete hold (by rw [ht]; exact h)
        (by simp [ht, asksRetry, BackgroundJobRecord.isRetry])
    · next hc =>
      have ht : target none old.status = .succeeded := if_neg hc
      exact finished_of_complete hold (by rw [ht]; exact h)
        (by simp [ht, asksRetry, BackgroundJobRecord.isRetry])
  | some failure =>
    cases failure with
    | jobCancelled =>
      obtain ⟨old, hold, -⟩ := runs_complete h
      exact ⟨old, hold, finished_of_complete hold h rfl⟩
    | jobTimedOut =>
      simp only [finish, finishTimedOut, runs_bind, runs_get_job] at h
      obtain ⟨old, _, ⟨hold, -, rfl⟩, h⟩ := h
      refine ⟨old, hold, ?_⟩
      split at h
      · next hc =>
        have ht : target (some .jobTimedOut) old.status = .cancelled := if_pos hc
        exact finished_of_complete hold (by rw [ht]; exact h)
          (by simp [ht, asksRetry, BackgroundJobRecord.isRetry])
      · next hc =>
        have ht : target (some .jobTimedOut) old.status = .failed := if_neg hc
        exact finished_of_complete hold (by rw [ht]; exact h)
          (by rw [ht, isRetry_retryAt, asksRetry, ht])
    | error typeName =>
      obtain ⟨old, hold, -⟩ := runs_complete h
      exact ⟨old, hold, finished_of_complete hold h (isRetry_retryAt _)⟩

theorem runs_checkpoint {percentage : Int} {message : String}
    (h : Runs (worker.checkpoint job percentage message now) db record db') :
    ∃ old, db.jobs.find job.id = some old ∧ old.status.isActive = true ∧
      old.claimedBy = some worker.workerId ∧
      record = (old.beaten now).progressed percentage (some message) ∧ JobStored db record db' := by
  simp only [checkpoint, runs_bind] at h
  obtain ⟨_, _, hbeat, hprogress⟩ := h
  obtain ⟨old, hold, hactive, hclaimed, rfl, hbeaten, -⟩ := runs_heartbeat hbeat
  obtain ⟨beaten, hfind, -, rfl, hprogressed, -⟩ := runs_updateProgress hprogress
  have hid : old.id = job.id := Table.key_of_find hold
  rw [hbeaten.find] at hfind
  obtain rfl : old.beaten now = beaten := by simpa [BackgroundJobRecord.beaten, hid] using hfind
  exact ⟨old, hold, hactive, hclaimed, rfl, hbeaten.trans hprogressed rfl⟩

theorem runs_poll {claim : Option WorkerJob} (h : Runs (worker.poll now) db claim db') :
    ∃ mid, Swept db (worker.staleBefore now) now mid ∧
      (claim = none ∧ db' = mid ∨
        ∃ job deadlineAt, mid.jobs.find job.id = some job ∧
          job.isEligible now worker.organizationId = true ∧
          claim = some (workerJob (job.claimed worker.workerId now) deadlineAt) ∧
          JobStored mid (job.claimed worker.workerId now) db') := by
  simp only [poll, runs_bind] at h
  obtain ⟨_, mid, hsweep, claimed, _, hclaim, h⟩ := h
  refine ⟨mid, runs_recoverStale hsweep, ?_⟩
  rcases runs_claimNext hclaim with ⟨rfl, rfl⟩ | ⟨job, -, hjob, heligible, rfl, hstored, -⟩
  · simp only [runs_pure] at h
    exact .inl ⟨h.1.symm, h.2.symm⟩
  · simp only [runs_bind, runs_fromOption, runs_pure] at h
    obtain ⟨deadlineAt, _, ⟨-, rfl⟩, rfl, rfl⟩ := h
    rw [strip_of_isText worker.workerId_text] at hstored ⊢
    exact .inr ⟨job, deadlineAt, hjob, heligible, rfl, hstored⟩

end BackgroundWorker

/-! ### Two workers -/

def firstWorker : BackgroundWorker := { workerId := "worker-a" }

def secondWorker : BackgroundWorker := { workerId := "worker-b" }

end ReconcileFlow.Worker
