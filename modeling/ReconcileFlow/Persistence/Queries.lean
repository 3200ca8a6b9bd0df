import ReconcileFlow.Persistence.Repositories

/-!
# Persistence — Queries

What the repositories list, count and summarize of the runs, jobs and job events of one
organization.
-/

namespace ReconcileFlow.Persistence

open Support Support.Transaction

/-- Validated offset pagination. -/
structure Page where
  limit : Nat := 50
  offset : Nat := 0
  valid : 1 ≤ limit ∧ limit ≤ 100 := by decide

def Page.of {α : Type} (page : Page) (rows : List α) : List α :=
  (rows.drop page.offset).take page.limit

/-! ### Runs -/

/-- The rows that `list` and `count` select. -/
def ReconciliationRunRecord.isListed (run : ReconciliationRunRecord) (organizationId : UUID)
    (status : Option RunStatus) : Bool :=
  decide (run.organizationId = organizationId) && status.all fun value => decide (run.status = value)

namespace ReconciliationRunRepository

def list (organizationId : UUID) (page : Page) (status : Option RunStatus) :
    Session (List ReconciliationRunRecord) :=
  reads fun db => page.of (sortOn (fun run => toLex (-run.createdAt, run.id.toNat))
    (db.runs.rows.filter (·.isListed organizationId status)))

def count (organizationId : UUID) (status : Option RunStatus) : Session Nat :=
  reads fun db => (db.runs.rows.filter (·.isListed organizationId status)).length

end ReconciliationRunRepository

/-! ### Background jobs -/

def BackgroundJobRecord.isListed (job : BackgroundJobRecord) (organizationId : UUID)
    (status : Option BackgroundJobStatus) : Bool :=
  decide (job.organizationId = organizationId) && status.all fun value => decide (job.status = value)

structure BackgroundJobSummary where
  counts : BackgroundJobStatus → Nat
  priorityCounts : BackgroundJobPriority → Nat
  retrying : Nat
  oldestEligibleAgeSeconds : Option Int

/-- The summary of the jobs of one organization. -/
def summaryOf (jobs : List BackgroundJobRecord) (now : Instant) : BackgroundJobSummary :=
  let queued := jobs.filter fun job => decide (job.status = .queued)
  let eligible := queued.filter fun job =>
    decide (job.scheduledAt ≤ now) && job.retryAt.all fun retryAt => decide (retryAt ≤ now)
  { counts status := (jobs.filter fun job => decide (job.status = status)).length
    priorityCounts priority := (queued.filter fun job => decide (job.priority = priority)).length
    retrying := (queued.filter (·.retryAt.isSome)).length
    oldestEligibleAgeSeconds := (eligible.map (·.scheduledAt)).min?.map fun oldest =>
      max 0 ((now - oldest) / 1000000) }

namespace BackgroundJobRepository

def list (organizationId : UUID) (status : Option BackgroundJobStatus) (page : Page) :
    Session (List BackgroundJobRecord) :=
  reads fun db => page.of (sortOn (fun job => toLex (-job.createdAt, job.id.toNat))
    (db.jobs.rows.filter (·.isListed organizationId status)))

def count (organizationId : UUID) (status : Option BackgroundJobStatus) : Session Nat :=
  reads fun db => (db.jobs.rows.filter (·.isListed organizationId status)).length

def summarize (organizationId : UUID) (now : Instant) : Session BackgroundJobSummary :=
  reads fun db => summaryOf (db.jobs.rows.filter (·.isListed organizationId none)) now

end BackgroundJobRepository

/-! ### Job events -/

def BackgroundJobEventRecord.isListed (event : BackgroundJobEventRecord)
    (jobId organizationId : UUID) (eventType : Option BackgroundJobEventType) : Bool :=
  decide (event.jobId = jobId) && decide (event.organizationId = organizationId) &&
    eventType.all fun value => decide (event.eventType = value)

namespace BackgroundJobEventRepository

/-- `_ensure_job`. -/
def ensureJob (jobId organizationId : UUID) : Session Unit := do
  let exists? ← reads fun db : Database => ((db.jobs.find jobId).filter fun job =>
    decide (job.organizationId = organizationId)).isSome
  require (exists? = true) (.recordNotFound ("background job " ++ jobId.format ++ " was not found"))

def list (jobId organizationId : UUID) (eventType : Option BackgroundJobEventType) (page : Page) :
    Session (List BackgroundJobEventRecord) := do
  ensureJob jobId organizationId
  reads fun db => page.of (sortOn (·.sequenceNumber)
    (db.jobEvents.rows.filter (·.isListed jobId organizationId eventType)))

def count (jobId organizationId : UUID) (eventType : Option BackgroundJobEventType) :
    Session Nat := do
  ensureJob jobId organizationId
  reads fun db => (db.jobEvents.rows.filter (·.isListed jobId organizationId eventType)).length

end BackgroundJobEventRepository

end ReconcileFlow.Persistence
