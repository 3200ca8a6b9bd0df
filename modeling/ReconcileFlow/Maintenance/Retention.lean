import Mathlib.Data.Prod.Lex
import Mathlib.Data.String.Basic
import ReconcileFlow.Persistence.Repositories
import ReconcileFlow.Support.Draining
import ReconcileFlow.Support.Exceptions

/-!
# Maintenance — Retention

The cleanup of expired jobs and workers.  The queries that count the expired jobs, select a batch of
them and delete it share one list of conditions, one for each terminal status; the batches are deleted
in units of work of their own, until one is short.

A run ends with the expired rows deleted and counted, and leaves what does not depend on the size of
the batches (`run_clears`).
-/

namespace ReconcileFlow.Maintenance

open Support Support.Transaction
open Persistence

/-! ### The rows -/

inductive WorkerStatus
  | running | stopped
deriving DecidableEq, Repr

structure WorkerRecord where
  workerId : String
  status : WorkerStatus := .running
  startedAt : Instant
  heartbeatAt : Instant
  stoppedAt : Option Instant := none
deriving DecidableEq, Repr

def workerSchema : Schema WorkerRecord String where
  key := (·.workerId)
  clash _ _ := false
  check _ := true

/-- The queue's tables, and the workers. -/
structure OperationalStore extends Database where
  workers : Table workerSchema := .empty

abbrev OperationalSession := Transaction OperationalStore Error

/-! ### `BackgroundJobRepository` -/

namespace BackgroundJobRepository

/-- The condition for one status. -/
def retentionCondition (status : BackgroundJobStatus) (cutoff : Instant)
    (job : BackgroundJobRecord) : Bool :=
  let expired := job.completedAt.any fun moment => decide (moment ≤ cutoff)
  let expired := if status = .cancelled then
      expired || job.completedAt.isNone &&
        job.cancellationRequestedAt.any fun moment => decide (moment ≤ cutoff)
    else expired
  decide (job.status = status) && expired

/-- `_retention_conditions`. -/
def retentionConditions (cutoffs : List (BackgroundJobStatus × Instant)) :
    Except Error (List (BackgroundJobRecord → Bool)) :=
  cutoffs.mapM fun (status, cutoff) =>
    if status.isTerminal then .ok (retentionCondition status cutoff)
    else .error (.value "retention cleanup only supports terminal job statuses")

/-- `or_(*conditions)`. -/
def anyOf (conditions : List (BackgroundJobRecord → Bool)) (job : BackgroundJobRecord) : Bool :=
  conditions.any fun condition => condition job

/-- The order in which jobs are deleted; those that were not completed come last. -/
def deletionOrder (job : BackgroundJobRecord) : Nat ×ₗ Instant ×ₗ Nat :=
  toLex (if job.completedAt.isSome then 0 else 1, toLex (job.completedAt.getD 0, job.id.toNat))

def countExpiredTerminal (cutoffs : List (BackgroundJobStatus × Instant)) :
    OperationalSession Nat := do
  let conditions ← fromExcept (retentionConditions cutoffs)
  reads fun store => store.jobs.rows.countP (anyOf conditions)

def deleteExpiredTerminal (cutoffs : List (BackgroundJobStatus × Instant)) (limit : Nat) :
    OperationalSession Nat := do
  require (1 ≤ limit) (.value "limit must be a positive integer")
  let conditions ← fromExcept (retentionConditions cutoffs)
  let store ← get
  let ids := store.jobs.batch (anyOf conditions) deletionOrder limit
  if ids = [] then return 0
  set { store with
    jobEvents := store.jobEvents.filter fun event => decide (event.jobId ∉ ids)
    jobs := store.jobs.filter fun job => !(decide (job.id ∈ ids) && anyOf conditions job) }
  return (store.jobs.rows.filter fun job => decide (job.id ∈ ids) && anyOf conditions job).length

end BackgroundJobRepository

/-! ### The queue's operation -/

section

variable {cutoffs : List (BackgroundJobStatus × Instant)}

theorem retentionConditions_iff {conditions : List (BackgroundJobRecord → Bool)} :
    BackgroundJobRepository.retentionConditions cutoffs = .ok conditions ↔
      (∀ cutoff ∈ cutoffs, cutoff.1.isTerminal = true) ∧ conditions =
        cutoffs.map fun cutoff => BackgroundJobRepository.retentionCondition cutoff.1 cutoff.2 := by
  unfold BackgroundJobRepository.retentionConditions
  induction cutoffs generalizing conditions with
  | nil =>
    rw [List.mapM_nil, List.map_nil]
    refine ⟨fun h => ⟨fun _ hm => absurd hm List.not_mem_nil, (Except.ok.inj h).symm⟩, ?_⟩
    rintro ⟨-, rfl⟩
    rfl
  | cons cutoff cutoffs ih =>
    obtain ⟨status, moment⟩ := cutoff
    rw [List.mapM_cons, List.forall_mem_cons, List.map_cons]
    by_cases hterminal : status.isTerminal = true
    · simp only [hterminal, if_true, bind_eq_ok_iff, Except.ok.injEq, exists_eq_left', ih, true_and]
      constructor
      · rintro ⟨_, ⟨hrest, rfl⟩, he⟩
        exact ⟨hrest, (Except.ok.inj he).symm⟩
      · rintro ⟨hrest, rfl⟩
        exact ⟨_, ⟨hrest, rfl⟩, rfl⟩
    · simp only [hterminal]
      refine iff_of_false ?_ fun h => Bool.false_ne_true h.1.1
      rintro ⟨⟩

theorem anyOf_retentionConditions (job : BackgroundJobRecord) :
    BackgroundJobRepository.anyOf (cutoffs.map fun cutoff =>
      BackgroundJobRepository.retentionCondition cutoff.1 cutoff.2) job = job.isExpired cutoffs := by
  unfold BackgroundJobRepository.anyOf BackgroundJobRecord.isExpired
  rw [List.any_map]
  refine congrArg (List.any cutoffs) (funext fun cutoff => ?_)
  by_cases hcancelled : cutoff.1 = .cancelled <;>
    simp [BackgroundJobRepository.retentionCondition, hcancelled]

/-- The jobs of a batch are those that the queue's operation selects. -/
theorem batch_eq (jobs : Table jobSchema) (limit : Nat) :
    jobs.batch (·.isExpired cutoffs) BackgroundJobRepository.deletionOrder limit =
      Persistence.BackgroundJobRepository.expiredJobs jobs.rows cutoffs limit := by
  have horder (job other : BackgroundJobRecord) :
      BackgroundJobRepository.deletionOrder job ≤ BackgroundJobRepository.deletionOrder other ↔
        toLex (job.completedAt.isNone, toLex (job.completedAt.getD 0, job.id.toNat)) ≤
          toLex (other.completedAt.isNone, toLex (other.completedAt.getD 0, other.id.toNat)) := by
    simp only [BackgroundJobRepository.deletionOrder, Prod.Lex.toLex_le_toLex]
    cases job.completedAt <;> cases other.completedAt <;> simp
  rw [Table.batch, Persistence.BackgroundJobRepository.expiredJobs, sortOn_congr _ horder]
  rfl

/-- The queue's tables without these jobs, if they are still expired, and without their events. -/
def withoutBatch (cutoffs : List (BackgroundJobStatus × Instant)) (ids : List UUID) (db : Database) :
    Database :=
  { db with
    jobEvents := db.jobEvents.filter fun event => decide (event.jobId ∉ ids)
    jobs := db.jobs.filter fun job => ¬ (decide (job.id ∈ ids) && job.isExpired cutoffs) }

theorem withoutBatch_nil (db : Database) : withoutBatch cutoffs [] db = db := by
  have hevents : (db.jobEvents.filter fun event => decide (event.jobId ∉ ([] : List UUID))) =
      db.jobEvents := Table.eq_of_rows (List.filter_eq_self.mpr fun _ _ => by simp)
  have hjobs : (db.jobs.filter fun job =>
      ¬ (decide (job.id ∈ ([] : List UUID)) && job.isExpired cutoffs)) = db.jobs :=
    Table.eq_of_rows (List.filter_eq_self.mpr fun _ _ => by simp)
  rw [withoutBatch, hevents, hjobs]

/-- What the deletion of these jobs gives and leaves. -/
def Deletes (cutoffs : List (BackgroundJobStatus × Instant)) (ids : List UUID) (db : Database)
    (n : Nat) (db' : Database) : Prop :=
  n = (db.jobs.rows.filter fun job => decide (job.id ∈ ids) && job.isExpired cutoffs).length ∧
    db' = withoutBatch cutoffs ids db

theorem runs_deleteExpiredTerminal_iff {limit n : Nat} {db db' : Database} :
    Runs (Persistence.BackgroundJobRepository.deleteExpiredTerminal cutoffs limit) db n db' ↔
      1 ≤ limit ∧ (∀ cutoff ∈ cutoffs, cutoff.1.isTerminal = true) ∧
        Deletes cutoffs (Persistence.BackgroundJobRepository.expiredJobs db.jobs.rows cutoffs limit)
          db n db' := by
  simp only [Persistence.BackgroundJobRepository.deleteExpiredTerminal,
    Persistence.BackgroundJobRepository.checkCutoffs, runs_bind, runs_require, runs_get, runs_set,
    runs_pure]
  constructor
  · rintro ⟨_, _, ⟨hlimit, rfl⟩, _, _, ⟨hterminal, rfl⟩, _, _, ⟨rfl, rfl⟩, _, _, rfl, rfl, rfl⟩
    exact ⟨hlimit, hterminal, rfl, rfl⟩
  · rintro ⟨hlimit, hterminal, rfl, rfl⟩
    exact ⟨(), _, ⟨hlimit, rfl⟩, (), _, ⟨hterminal, rfl⟩, _, _, ⟨rfl, rfl⟩, (), _, rfl, rfl, rfl⟩

/-- An empty batch is not deleted, which makes no difference. -/
theorem runs_deleteBatch_iff {ids : List UUID} {n : Nat} {store store' : OperationalStore} :
    Runs (do
      if ids = [] then return 0
      set { store with
        jobEvents := store.jobEvents.filter fun event => decide (event.jobId ∉ ids)
        jobs := store.jobs.filter fun job => !(decide (job.id ∈ ids) && job.isExpired cutoffs) }
      return (store.jobs.rows.filter fun job =>
        decide (job.id ∈ ids) && job.isExpired cutoffs).length : OperationalSession Nat)
        store n store' ↔
      ∃ db, Deletes cutoffs ids store.toDatabase n db ∧
        store' = { store with toDatabase := db } := by
  have hkept : (store.jobs.filter fun job => !(decide (job.id ∈ ids) && job.isExpired cutoffs)) =
      store.jobs.filter fun job => ¬ (decide (job.id ∈ ids) && job.isExpired cutoffs) := by
    refine congrArg store.jobs.filter (funext fun job => ?_)
    rw [Bool.eq_iff_iff]
    simp
  rw [hkept]
  split
  · next hnil =>
    subst hnil
    rw [runs_pure, eq_comm (a := store)]
    constructor
    · rintro ⟨rfl, rfl⟩
      exact ⟨_, ⟨by simp, rfl⟩, by rw [withoutBatch_nil]⟩
    · rintro ⟨_, ⟨rfl, rfl⟩, rfl⟩
      exact ⟨by simp, by rw [withoutBatch_nil]⟩
  · simp only [runs_bind, runs_set, runs_pure]
    constructor
    · rintro ⟨_, _, rfl, rfl, rfl⟩
      exact ⟨_, ⟨rfl, rfl⟩, rfl⟩
    · rintro ⟨_, ⟨rfl, rfl⟩, rfl⟩
      exact ⟨(), _, rfl, rfl, rfl⟩

/-- **Retention deletes the jobs as the queue's operation does**, and leaves the workers alone. -/
theorem runs_deleteExpired_iff {limit n : Nat} {store store' : OperationalStore} :
    Runs (BackgroundJobRepository.deleteExpiredTerminal cutoffs limit) store n store' ↔
      ∃ db, Runs (Persistence.BackgroundJobRepository.deleteExpiredTerminal cutoffs limit)
        store.toDatabase n db ∧ store' = { store with toDatabase := db } := by
  have hany : BackgroundJobRepository.anyOf (cutoffs.map fun cutoff =>
      BackgroundJobRepository.retentionCondition cutoff.1 cutoff.2) = (·.isExpired cutoffs) :=
    funext anyOf_retentionConditions
  simp only [runs_deleteExpiredTerminal_iff, BackgroundJobRepository.deleteExpiredTerminal]
  rw [runs_bind]
  constructor
  · rintro ⟨_, _, hrequire, h⟩
    obtain ⟨hlimit, rfl⟩ := runs_require.mp hrequire
    obtain ⟨_, _, hgiven, h⟩ := runs_bind.mp h
    obtain ⟨hconditions, rfl⟩ := runs_fromExcept.mp hgiven
    obtain ⟨hterminal, rfl⟩ := retentionConditions_iff.mp hconditions
    obtain ⟨_, _, hget, h⟩ := runs_bind.mp h
    obtain ⟨rfl, rfl⟩ := runs_get.mp hget
    rw [hany, batch_eq] at h
    obtain ⟨db, hdeletes, hstore⟩ := runs_deleteBatch_iff.mp h
    exact ⟨db, ⟨hlimit, hterminal, hdeletes⟩, hstore⟩
  · rintro ⟨db, ⟨hlimit, hterminal, hdeletes⟩, hstore⟩
    refine ⟨(), _, runs_require.mpr ⟨hlimit, rfl⟩, runs_bind.mpr ⟨_, _, runs_fromExcept.mpr
      ⟨retentionConditions_iff.mpr ⟨hterminal, rfl⟩, rfl⟩, runs_bind.mpr ⟨_, _,
        runs_get.mpr ⟨rfl, rfl⟩, ?_⟩⟩⟩
    rw [hany, batch_eq]
    exact runs_deleteBatch_iff.mpr ⟨db, hdeletes, hstore⟩

end

/-! ### `WorkerRepository` -/

namespace WorkerRepository

/-- `_retention_condition`. -/
def retentionCondition (cutoff : Instant) (worker : WorkerRecord) : Bool :=
  decide (worker.status = .stopped) && worker.stoppedAt.any (fun moment => decide (moment ≤ cutoff)) ||
    decide (worker.status = .running) && decide (worker.heartbeatAt ≤ cutoff)

def deletionOrder (worker : WorkerRecord) : Instant ×ₗ String :=
  toLex (worker.heartbeatAt, worker.workerId)

def countExpired (cutoff : Instant) : OperationalSession Nat :=
  reads fun store => store.workers.rows.countP (retentionCondition cutoff)

def deleteExpired (cutoff : Instant) (limit : Nat) : OperationalSession Nat := do
  require (1 ≤ limit) (.value "limit must be a positive integer")
  let store ← get
  let ids := store.workers.batch (retentionCondition cutoff) deletionOrder limit
  if ids = [] then return 0
  set { store with
    workers := store.workers.filter fun worker =>
      !(decide (worker.workerId ∈ ids) && retentionCondition cutoff worker) }
  return (store.workers.rows.filter fun worker =>
    decide (worker.workerId ∈ ids) && retentionCondition cutoff worker).length

end WorkerRepository

/-! ### `RetentionCleanup` -/

/-- `timedelta(days=n)`. -/
def days (n : Nat) : Int := seconds (86400 * n)

structure RetentionSettings where
  succeededDays : Nat
  failedDays : Nat
  cancelledDays : Nat
  workerDays : Nat
  positive : 1 ≤ succeededDays ∧ 1 ≤ failedDays ∧ 1 ≤ cancelledDays ∧ 1 ≤ workerDays

structure RetentionCleanup extends RetentionSettings where
  batchSize : Nat
  batchSize_positive : 1 ≤ batchSize

structure CleanupResult where
  eligibleJobs : Nat
  deletedJobs : Nat
  eligibleWorkers : Nat
  deletedWorkers : Nat
  dryRun : Bool
deriving DecidableEq, Repr

def RetentionSettings.cutoffs (settings : RetentionSettings) (now : Instant) :
    List (BackgroundJobStatus × Instant) :=
  [(.succeeded, now - days settings.succeededDays), (.failed, now - days settings.failedDays),
    (.cancelled, now - days settings.cancelledDays)]

namespace RetentionCleanup

variable (cleanup : RetentionCleanup) (now : Instant)

/-- The counts of the first session. -/
def counts : OperationalSession (Nat × Nat) := do
  let jobs ← BackgroundJobRepository.countExpiredTerminal (cleanup.cutoffs now)
  let workers ← WorkerRepository.countExpired (now - days cleanup.workerDays)
  return (jobs, workers)

/-- `run`, whose loops make at most `fuel` turns. -/
def run (dryRun : Bool) (fuel : Nat) (store : OperationalStore) :
    Option (Except Error CleanupResult × OperationalStore) :=
  let cutoffs := cleanup.cutoffs now
  let workerCutoff := now - days cleanup.workerDays
  match atomically (cleanup.counts now) store with
  | (.error e, store) => some (.error e, store)
  | (.ok (jobs, workers), store) =>
    if dryRun then some (.ok ⟨jobs, 0, workers, 0, true⟩, store)
    else do
      let (deletedJobs, store) ← drain
        (BackgroundJobRepository.deleteExpiredTerminal cutoffs cleanup.batchSize)
        cleanup.batchSize fuel 0 store
      match deletedJobs with
      | .error e => some (.error e, store)
      | .ok deletedJobs =>
        let (deletedWorkers, store) ← drain
          (WorkerRepository.deleteExpired workerCutoff cleanup.batchSize)
          cleanup.batchSize fuel 0 store
        match deletedWorkers with
        | .error e => some (.error e, store)
        | .ok deletedWorkers =>
          some (.ok ⟨jobs, deletedJobs, workers, deletedWorkers, false⟩, store)

end RetentionCleanup

/-! ### What is expired -/

namespace RetentionSettings

variable (settings : RetentionSettings) (now : Instant)

/-- The job has ended, and its completion is old enough; so is the request to cancel a job that was
cancelled without being completed. -/
def isExpired (job : BackgroundJobRecord) : Bool :=
  match job.status with
  | .succeeded => job.completedAt.any fun moment => decide (moment ≤ now - days settings.succeededDays)
  | .failed => job.completedAt.any fun moment => decide (moment ≤ now - days settings.failedDays)
  | .cancelled => (job.completedAt.or job.cancellationRequestedAt).any fun moment =>
    decide (moment ≤ now - days settings.cancelledDays)
  | .queued | .running | .cancelRequested => false

/-- The event is one of an expired job. -/
def isOfExpired (store : OperationalStore) (event : BackgroundJobEventRecord) : Bool :=
  store.jobs.rows.any fun job => decide (job.id = event.jobId) && settings.isExpired now job

/-- The store without the expired jobs and their events. -/
def withoutJobs (store : OperationalStore) : OperationalStore :=
  { store with
    jobs := store.jobs.filter fun job => !settings.isExpired now job
    jobEvents := store.jobEvents.filter fun event => !settings.isOfExpired now store event }

/-- The worker has stopped, or has given its last sign of life, long enough ago. -/
def isExpiredWorker (worker : WorkerRecord) : Bool :=
  WorkerRepository.retentionCondition (now - days settings.workerDays) worker

def withoutWorkers (store : OperationalStore) : OperationalStore :=
  { store with workers := store.workers.filter fun worker => !settings.isExpiredWorker now worker }

theorem retentionConditions_eq :
    ∃ conditions, BackgroundJobRepository.retentionConditions (settings.cutoffs now) = .ok conditions ∧
      BackgroundJobRepository.anyOf conditions = settings.isExpired now := by
  refine ⟨[BackgroundJobRepository.retentionCondition .succeeded (now - days settings.succeededDays),
    BackgroundJobRepository.retentionCondition .failed (now - days settings.failedDays),
    BackgroundJobRepository.retentionCondition .cancelled (now - days settings.cancelledDays)],
    rfl, funext fun job => ?_⟩
  simp only [BackgroundJobRepository.anyOf, BackgroundJobRepository.retentionCondition, isExpired,
    List.any_cons, List.any_nil, Bool.or_false]
  cases hstatus : job.status with
  | cancelled => cases job.completedAt <;> simp
  | queued | running | cancelRequested => simp
  | succeeded | failed => simp

end RetentionSettings

/-! ### One batch -/

section

variable {settings : RetentionSettings} {now : Instant} {store : OperationalStore} {limit : Nat}

/-- The store after a batch of expired jobs. -/
def afterJobs (settings : RetentionSettings) (now : Instant) (limit : Nat)
    (store : OperationalStore) : OperationalStore :=
  let ids := store.jobs.batch (settings.isExpired now) BackgroundJobRepository.deletionOrder limit
  { store with
    jobEvents := store.jobEvents.filter fun event => decide (event.jobId ∉ ids)
    jobs := store.jobs.filter fun job =>
      !store.jobs.inBatch (settings.isExpired now) BackgroundJobRepository.deletionOrder limit job }

/-- An empty batch changes nothing. -/
theorem afterJobs_of_nil
    (h : store.jobs.batch (settings.isExpired now) BackgroundJobRepository.deletionOrder limit = []) :
    afterJobs settings now limit store = store := by
  have hjobs := Table.filter_not_inBatch_of_nil _ _ _ h
  have hevents : (store.jobEvents.filter fun event => decide (event.jobId ∉ store.jobs.batch
      (settings.isExpired now) BackgroundJobRepository.deletionOrder limit)) = store.jobEvents := by
    refine Table.eq_of_rows (List.filter_eq_self.mpr fun event _ => ?_)
    simp [h]
  simp only [afterJobs, hjobs, hevents]

theorem run_deleteExpiredTerminal (hlimit : 1 ≤ limit) :
    (BackgroundJobRepository.deleteExpiredTerminal (settings.cutoffs now) limit).run store =
      .ok (min limit (store.jobs.rows.countP (settings.isExpired now)),
        afterJobs settings now limit store) := by
  obtain ⟨conditions, hconditions, hany⟩ := settings.retentionConditions_eq now
  have hcount := store.jobs.length_filter_inBatch (settings.isExpired now)
    BackgroundJobRepository.deletionOrder limit
  show Runs _ store _ _
  unfold BackgroundJobRepository.deleteExpiredTerminal
  simp only [runs_bind, runs_require, runs_fromExcept, runs_get, hconditions]
  refine ⟨(), store, ⟨hlimit, rfl⟩, conditions, store, ⟨rfl, rfl⟩, store, store, ⟨rfl, rfl⟩, ?_⟩
  rw [hany]
  split
  · next hnil =>
    rw [runs_pure, afterJobs_of_nil hnil, ← hcount, Table.filter_inBatch_of_nil _ _ _ hnil]
    exact ⟨rfl, rfl⟩
  · next hsome =>
    exact runs_bind.mpr ⟨(), _, runs_set.mpr rfl, runs_pure.mpr ⟨hcount, rfl⟩⟩

theorem mem_batch_expired {id : UUID}
    (h : id ∈ store.jobs.batch (settings.isExpired now) BackgroundJobRepository.deletionOrder limit) :
    ∃ job ∈ store.jobs.rows, job.id = id ∧ settings.isExpired now job = true := by
  obtain ⟨job, hjob, hid⟩ := List.mem_map.mp h
  obtain ⟨hstored, hexpired⟩ := List.mem_filter.mp ((mem_sortOn _).mp (List.mem_of_mem_take hjob))
  exact ⟨job, hstored, hid, hexpired⟩

variable (settings now store limit) in
/-- An event is one of an expired job if and only if its job is in the batch, or expired and left. -/
theorem isOfExpired_afterJobs (event : BackgroundJobEventRecord) :
    settings.isOfExpired now store event =
      (decide (event.jobId ∈ store.jobs.batch (settings.isExpired now)
        BackgroundJobRepository.deletionOrder limit) ||
        settings.isOfExpired now (afterJobs settings now limit store) event) := by
  rw [Bool.eq_iff_iff, Bool.or_eq_true, decide_eq_true_eq]
  simp only [RetentionSettings.isOfExpired, List.any_eq_true, Bool.and_eq_true, decide_eq_true_eq]
  constructor
  · rintro ⟨job, hjob, hid, hexpired⟩
    by_cases hbatch : job.id ∈ store.jobs.batch (settings.isExpired now)
      BackgroundJobRepository.deletionOrder limit
    · exact .inl (hid ▸ hbatch)
    · refine .inr ⟨job, List.mem_filter.mpr ⟨hjob, ?_⟩, hid, hexpired⟩
      have hnot : ¬ jobSchema.key job ∈ store.jobs.batch (settings.isExpired now)
        BackgroundJobRepository.deletionOrder limit := hbatch
      simp [Table.inBatch, hnot]
  · rintro (hbatch | ⟨job, hjob, hid, hexpired⟩)
    · exact mem_batch_expired hbatch
    · exact ⟨job, List.mem_of_mem_filter hjob, hid, hexpired⟩

theorem withoutJobs_afterJobs :
    settings.withoutJobs now (afterJobs settings now limit store) = settings.withoutJobs now store := by
  have hjobs := store.jobs.filter_filter_inBatch (settings.isExpired now)
    BackgroundJobRepository.deletionOrder limit
  have hevents : ((afterJobs settings now limit store).jobEvents.filter fun event =>
      !settings.isOfExpired now (afterJobs settings now limit store) event) =
      store.jobEvents.filter fun event => !settings.isOfExpired now store event := by
    refine Table.eq_of_rows ?_
    show (store.jobEvents.rows.filter _).filter _ = store.jobEvents.rows.filter _
    rw [List.filter_filter]
    refine List.filter_congr fun event _ => ?_
    rw [isOfExpired_afterJobs settings now store limit event, Bool.not_or, Bool.and_comm, decide_not]
  have hleft : (afterJobs settings now limit store).jobs.filter
      (fun job => !settings.isExpired now job) =
        store.jobs.filter fun job => !settings.isExpired now job := hjobs
  unfold RetentionSettings.withoutJobs
  rw [hevents, hleft]
  rfl

theorem withoutJobs_of_none (h : store.jobs.rows.countP (settings.isExpired now) = 0) :
    settings.withoutJobs now store = store := by
  have hevents : (store.jobEvents.filter fun event => !settings.isOfExpired now store event) =
      store.jobEvents := by
    refine Table.eq_of_rows (List.filter_eq_self.mpr fun event _ => ?_)
    rw [Bool.not_eq_true', RetentionSettings.isOfExpired, List.any_eq_false]
    intro job hjob
    simp [List.countP_eq_zero.mp h job hjob]
  unfold RetentionSettings.withoutJobs
  rw [hevents, Table.filter_of_countP_eq_zero h]

/-- The store after a batch of expired workers. -/
def afterWorkers (settings : RetentionSettings) (now : Instant) (limit : Nat)
    (store : OperationalStore) : OperationalStore :=
  { store with
    workers := store.workers.filter fun worker =>
      !store.workers.inBatch (settings.isExpiredWorker now) WorkerRepository.deletionOrder limit
        worker }

theorem run_deleteExpired (hlimit : 1 ≤ limit) :
    (WorkerRepository.deleteExpired (now - days settings.workerDays) limit).run store =
      .ok (min limit (store.workers.rows.countP (settings.isExpiredWorker now)),
        afterWorkers settings now limit store) := by
  have hcount := store.workers.length_filter_inBatch (settings.isExpiredWorker now)
    WorkerRepository.deletionOrder limit
  show Runs _ store _ _
  unfold WorkerRepository.deleteExpired
  simp only [runs_bind, runs_require, runs_get]
  refine ⟨(), store, ⟨hlimit, rfl⟩, store, store, ⟨rfl, rfl⟩, ?_⟩
  split
  · next hnil =>
    have hnil : store.workers.batch (settings.isExpiredWorker now) WorkerRepository.deletionOrder
        limit = [] := hnil
    rw [runs_pure, afterWorkers, Table.filter_not_inBatch_of_nil _ _ _ hnil, ← hcount,
      Table.filter_inBatch_of_nil _ _ _ hnil]
    exact ⟨rfl, rfl⟩
  · next hsome =>
    exact runs_bind.mpr ⟨(), _, runs_set.mpr rfl, runs_pure.mpr ⟨hcount, rfl⟩⟩

theorem withoutWorkers_afterWorkers :
    settings.withoutWorkers now (afterWorkers settings now limit store) =
      settings.withoutWorkers now store := by
  have hworkers := store.workers.filter_filter_inBatch (settings.isExpiredWorker now)
    WorkerRepository.deletionOrder limit
  have hleft : (afterWorkers settings now limit store).workers.filter
      (fun worker => !settings.isExpiredWorker now worker) =
        store.workers.filter fun worker => !settings.isExpiredWorker now worker := hworkers
  unfold RetentionSettings.withoutWorkers
  rw [hleft]
  rfl

theorem withoutWorkers_of_none
    (h : store.workers.rows.countP (settings.isExpiredWorker now) = 0) :
    settings.withoutWorkers now store = store := by
  unfold RetentionSettings.withoutWorkers
  rw [Table.filter_of_countP_eq_zero h]

end

/-! ### A run -/

namespace RetentionCleanup

variable (cleanup : RetentionCleanup) (now : Instant) (store : OperationalStore)

theorem drain_jobs {fuel : Nat}
    (hfuel : store.jobs.rows.countP (cleanup.isExpired now) < fuel) :
    drain (BackgroundJobRepository.deleteExpiredTerminal (cleanup.cutoffs now) cleanup.batchSize)
        cleanup.batchSize fuel 0 store =
      some (.ok (store.jobs.rows.countP (cleanup.isExpired now)), cleanup.withoutJobs now store) := by
  have h := drain_eq cleanup.batchSize_positive
    (fun store : OperationalStore => store.jobs.rows.countP (cleanup.isExpired now))
    (cleanup.withoutJobs now)
    (fun store => ⟨_, run_deleteExpiredTerminal cleanup.batchSize_positive,
      store.jobs.countP_filter_inBatch _ _ _, withoutJobs_afterJobs⟩)
    (fun _ => withoutJobs_of_none) hfuel 0
  rw [h, Nat.zero_add]

theorem drain_workers {fuel : Nat}
    (hfuel : store.workers.rows.countP (cleanup.isExpiredWorker now) < fuel) :
    drain (WorkerRepository.deleteExpired (now - days cleanup.workerDays) cleanup.batchSize)
        cleanup.batchSize fuel 0 store =
      some (.ok (store.workers.rows.countP (cleanup.isExpiredWorker now)),
        cleanup.withoutWorkers now store) := by
  have h := drain_eq cleanup.batchSize_positive
    (fun store : OperationalStore => store.workers.rows.countP (cleanup.isExpiredWorker now))
    (cleanup.withoutWorkers now)
    (fun store => ⟨_, run_deleteExpired cleanup.batchSize_positive,
      store.workers.countP_filter_inBatch _ _ _, withoutWorkers_afterWorkers⟩)
    (fun _ => withoutWorkers_of_none) hfuel 0
  rw [h, Nat.zero_add]

theorem atomically_counts :
    atomically (cleanup.counts now) store =
      (.ok (store.jobs.rows.countP (cleanup.isExpired now),
        store.workers.rows.countP (cleanup.isExpiredWorker now)), store) := by
  obtain ⟨conditions, hconditions, hany⟩ := cleanup.retentionConditions_eq now
  have hjobs : Runs (BackgroundJobRepository.countExpiredTerminal (cleanup.cutoffs now)) store
      (store.jobs.rows.countP (cleanup.isExpired now)) store := by
    refine runs_bind.mpr ⟨conditions, store, runs_fromExcept.mpr ⟨hconditions, rfl⟩, ?_⟩
    rw [hany]
    exact runs_reads.mpr ⟨rfl, rfl⟩
  have hworkers : Runs (WorkerRepository.countExpired (now - days cleanup.workerDays)) store
      (store.workers.rows.countP (cleanup.isExpiredWorker now)) store :=
    runs_reads.mpr ⟨rfl, rfl⟩
  have hruns : Runs (cleanup.counts now) store (store.jobs.rows.countP (cleanup.isExpired now),
      store.workers.rows.countP (cleanup.isExpiredWorker now)) store :=
    runs_bind.mpr ⟨_, store, hjobs, runs_bind.mpr ⟨_, store, hworkers, runs_pure.mpr ⟨rfl, rfl⟩⟩⟩
  unfold atomically
  rw [hruns]

end RetentionCleanup

namespace RetentionSettings

variable (settings : RetentionSettings) (now : Instant) (store : OperationalStore)

/-- The store without what is expired. -/
def cleared : OperationalStore :=
  { store with
    jobs := store.jobs.filter fun job => !settings.isExpired now job
    jobEvents := store.jobEvents.filter fun event => !settings.isOfExpired now store event
    workers := store.workers.filter fun worker => !settings.isExpiredWorker now worker }

/-- Every expired row has been counted and deleted. -/
def report : CleanupResult where
  eligibleJobs := store.jobs.rows.countP (settings.isExpired now)
  deletedJobs := store.jobs.rows.countP (settings.isExpired now)
  eligibleWorkers := store.workers.rows.countP (settings.isExpiredWorker now)
  deletedWorkers := store.workers.rows.countP (settings.isExpiredWorker now)
  dryRun := false

end RetentionSettings

/-- **A run deletes what is expired**: it ends, reports every expired job and worker as counted and
deleted, and leaves the store without them and their events, whatever the size of its batches. -/
theorem run_clears (cleanup : RetentionCleanup) (now : Instant) (store : OperationalStore) :
    ∃ enough, ∀ fuel, enough ≤ fuel →
      cleanup.run now false fuel store =
        some (.ok (cleanup.toRetentionSettings.report now store),
          cleanup.toRetentionSettings.cleared now store) := by
  refine ⟨store.jobs.rows.length + store.workers.rows.length + 1, fun fuel hfuel => ?_⟩
  have hjobs : store.jobs.rows.countP (cleanup.isExpired now) ≤ store.jobs.rows.length :=
    List.countP_le_length
  have hworkers : store.workers.rows.countP (cleanup.isExpiredWorker now) ≤
      store.workers.rows.length := List.countP_le_length
  have hdrainJobs := cleanup.drain_jobs now store (Nat.lt_of_le_of_lt hjobs (by omega : _ < fuel))
  have hdrainWorkers := cleanup.drain_workers now (cleanup.withoutJobs now store)
    (Nat.lt_of_le_of_lt hworkers (by omega : _ < fuel))
  simp only [RetentionCleanup.run, RetentionCleanup.atomically_counts, hdrainJobs]
  simp only [Bool.false_eq_true, if_false, Option.bind_eq_bind, Option.bind_some, hdrainWorkers]
  rfl

end ReconcileFlow.Maintenance
