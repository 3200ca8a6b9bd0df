import ReconcileFlow.Api.Execution
import ReconcileFlow.Support.Transition
import ReconcileFlow.Worker.Processor
import Mathlib.Logic.Function.Basic

/-!
# Worker — System

Any number of workers and the users of the API on one database.  Every transaction is one atomic
step; a worker is between two of its transactions, or stopped, and where it is (`Phase`) holds the
local variables it will go on with.  Nothing orders the steps: any worker or user may be next, at
any time, and a worker may crash anywhere.

Three history variables record what no column does: the worker that holds the lease of a job, which
runs an attempt has moved to RUNNING, and how many transactions wrote results for a run.
-/

namespace ReconcileFlow.Worker

open Support Support.Transaction Persistence ReconciliationJobProcessor
open Reconciliation (Runtime ReconciliationConfig Inputs)
open Audit (AuditTrail)

/-- The workers, by number, and what they and the routes are configured with. -/
structure System where
  worker : ℕ → BackgroundWorker
  runtime : Runtime
  settings : Api.Settings

/-- What an attempt does next. -/
inductive Activity
  | starting
  | checkpointing (checkpoint : Checkpoint) (progress : Progress)
  | saving (progress : Progress)
  | failing (failure : Failure) (trail : AuditTrail)
  | closing (outcome : Option Failure)
  | finishing (outcome : Option Failure)

inductive Phase
  | idle
  | busy (job : WorkerJob) (activity : Activity)
  | stopped

structure World where
  db : Database
  phase : ℕ → Phase := fun _ => .idle
  lease : UUID → Option ℕ := fun _ => none
  started : UUID → Bool := fun _ => false
  saves : UUID → ℕ := fun _ => 0

/-- The steps: of worker `n`, then of a user.  What comes from outside is an argument: the time, a
fresh id, what storage, ingestion and the closing of the files raise or return. -/
inductive Action
  | poll (n : ℕ) (now : Instant)
  | start (n : ℕ) (now : Instant) (storage : Option String)
  | checkpoint (n : ℕ) (now : Instant) (loaded : Except String Inputs)
  | save (n : ℕ) (now : Instant)
  | fail (n : ℕ) (now : Instant)
  | close (n : ℕ) (raised : Option String)
  | finish (n : ℕ) (now : Instant)
  | crash (n : ℕ)
  | restart (n : ℕ)
  | execute (runId organizationId jobId : UUID) (request : Api.ExecutionRequest) (now : Instant)
  | cancel (jobId organizationId : UUID) (now : Instant)
  | retry (jobId organizationId : UUID) (now : Instant)

/-! ### Where an attempt goes -/

/-- After an exception inside the `try` of `__call__`. -/
def WorkerJob.afterFailure (job : WorkerJob) (failure : Failure) (trail : AuditTrail) : Activity :=
  if failsRun job failure then .failing failure trail else .closing (some failure)

/-- After a start transaction that found or put the run in RUNNING. -/
def WorkerJob.afterStart (job : WorkerJob) (files : List SourceFileRecord)
    (config : ReconciliationConfig) (storage : Option String) : Activity :=
  match prepare files config storage with
  | .error typeName => job.afterFailure (.error typeName) {}
  | .ok progress => .checkpointing .bankIngestion progress

/-- After a checkpoint that raised nothing. -/
def WorkerJob.afterCheckpoint (job : WorkerJob) (runtime : Runtime) (checkpoint : Checkpoint)
    (loaded : Except String Inputs) (progress : Progress) : Activity :=
  match stage runtime checkpoint loaded progress with
  | (progress, some typeName) => job.afterFailure (.error typeName) progress.trail
  | (progress, none) =>
    match checkpoint.next with
    | some checkpoint => .checkpointing checkpoint progress
    | none => .saving progress

/-- The failure that an error of a transaction is. -/
def failureOf (e : Error) : Failure := .error e.typeName

namespace World

variable (w : World)

/-- Worker `n` goes on with `activity` of `job`, over the database `db`. -/
def go (n : ℕ) (job : WorkerJob) (activity : Activity) (db : Database) : World :=
  { w with db := db, phase := Function.update w.phase n (.busy job activity) }

/-- Worker `n` is in `phase`. -/
def leave (n : ℕ) (phase : Phase) : World :=
  { w with phase := Function.update w.phase n phase }

/-- What a user's transaction leaves. -/
def after {α : Type} (transaction : Session α) : World :=
  { w with db := (atomically transaction w.db).2 }

/-- The leases after a poll: recovered jobs have none, and worker `n` has that of its claim. -/
def polledLease (n : ℕ) (cutoff : Instant) (claim : Option WorkerJob) (jobId : UUID) : Option ℕ :=
  if claim.any fun job => decide (job.id = jobId) then some n
  else if (w.db.jobs.find jobId).any fun job => job.isStale cutoff then none
  else w.lease jobId

end World

/-! ### Steps -/

namespace System

variable (S : System)

def poll (w : World) (n : ℕ) (now : Instant) : World :=
  match atomically ((S.worker n).poll now) w.db with
  | (.ok claim, db) =>
    { w with
      db := db
      lease := w.polledLease n ((S.worker n).staleBefore now) claim
      phase := Function.update w.phase n <|
        match claim with
        | none => .idle
        | some job => .busy job .starting }
  -- the error escapes `run_once` and ends `run_forever`
  | (.error _, _) => w.leave n .stopped

def start (w : World) (n : ℕ) (job : WorkerJob) (now : Instant) (storage : Option String) : World :=
  match atomically (ReconciliationJobProcessor.start job now) w.db with
  | (.ok none, db) => w.go n job (.finishing none) db
  | (.ok (some (files, config)), db) =>
    -- a run found RUNNING was started by an attempt before
    let moved := (w.db.runs.find job.runId).any fun run => decide (run.status = .pending)
    { w.go n job (job.afterStart files config storage) db with
      started := fun runId => w.started runId || (decide (runId = job.runId) && moved) }
  | (.error e, _) => w.go n job (.finishing (some (failureOf e))) w.db

def checkpoint (w : World) (n : ℕ) (job : WorkerJob) (c : Checkpoint) (progress : Progress)
    (now : Instant) (loaded : Except String Inputs) : World :=
  match atomically ((S.worker n).checkpoint job c.percentage c.message now) w.db with
  | (.ok record, db) =>
    match BackgroundWorker.interruption record now with
    | some failure => w.go n job (job.afterFailure failure progress.trail) db
    | none => w.go n job (job.afterCheckpoint S.runtime c loaded progress) db
  | (.error e, _) => w.go n job (job.afterFailure (failureOf e) progress.trail) w.db

def save (w : World) (n : ℕ) (job : WorkerJob) (progress : Progress) (now : Instant) : World :=
  match atomically (ReconciliationJobProcessor.save job progress now) w.db with
  | (.ok written, db) =>
    { w.go n job (.closing none) db with
      saves := fun runId =>
        if written = true ∧ runId = job.runId then w.saves runId + 1 else w.saves runId }
  | (.error e, _) => w.go n job (job.afterFailure (failureOf e) progress.trail) w.db

def fail (w : World) (n : ℕ) (job : WorkerJob) (failure : Failure) (trail : AuditTrail)
    (now : Instant) : World :=
  match atomically (failRun job trail failure now) w.db with
  | (.ok (), db) => w.go n job (.closing (some failure)) db
  | (.error e, _) => w.go n job (.closing (some (failureOf e))) w.db

def finish (w : World) (n : ℕ) (job : WorkerJob) (outcome : Option Failure) (now : Instant) :
    World :=
  match atomically ((S.worker n).finish job outcome now) w.db with
  | (.ok _, db) => { w.leave n .idle with db := db }
  -- the error escapes `run_once` and ends `run_forever`
  | (.error _, _) => w.leave n .stopped

/-- The state after an action, if the worker is where the action begins. -/
def step (w : World) : Action → Option World
  | .poll n now =>
    match w.phase n with
    | .idle => some (S.poll w n now)
    | _ => none
  | .start n now storage =>
    match w.phase n with
    | .busy job .starting => some (start w n job now storage)
    | _ => none
  | .checkpoint n now loaded =>
    match w.phase n with
    | .busy job (.checkpointing c progress) => some (S.checkpoint w n job c progress now loaded)
    | _ => none
  | .save n now =>
    match w.phase n with
    | .busy job (.saving progress) => some (save w n job progress now)
    | _ => none
  | .fail n now =>
    match w.phase n with
    | .busy job (.failing failure trail) => some (fail w n job failure trail now)
    | _ => none
  | .close n raised =>
    match w.phase n with
    | .busy job (.closing outcome) =>
      some (w.go n job (.finishing ((raised.map .error).or outcome)) w.db)
    | _ => none
  | .finish n now =>
    match w.phase n with
    | .busy job (.finishing outcome) => some (S.finish w n job outcome now)
    | _ => none
  -- a crash is possible at any time, and leaves the job to the sweep
  | .crash n => some (w.leave n .stopped)
  | .restart n =>
    match w.phase n with
    | .stopped => some (w.leave n .idle)
    | _ => none
  | .execute runId organizationId jobId request now =>
    some (w.after (Api.executeRun S.settings runId organizationId jobId request now))
  | .cancel jobId organizationId now =>
    some (w.after (Api.cancelBackgroundJob jobId organizationId now))
  | .retry jobId organizationId now =>
    some (w.after (Api.retryBackgroundJob S.settings jobId organizationId now))

end System

/-! ### The beginning -/

/-- Runs that wait for their first execution, and nothing else yet. -/
structure World.Initial (w : World) : Prop where
  runs : ∀ run ∈ w.db.runs.rows, run.status = .pending ∧ run.startedAt = none ∧ run.finishedAt = none
  jobs : w.db.jobs.rows = []
  jobEvents : w.db.jobEvents.rows = []
  results : w.db.results.rows = []
  auditEvents : w.db.auditEvents.rows = []
  phase : ∀ n, w.phase n = .idle
  lease : ∀ jobId, w.lease jobId = none
  started : ∀ runId, w.started runId = false
  saves : ∀ runId, w.saves runId = 0

/-- The status of a run, if there is one. -/
def World.runStatus (w : World) (runId : UUID) : Option RunStatus :=
  (w.db.runs.find runId).map (·.status)

/-- The status of a job, if there is one. -/
def World.jobStatus (w : World) (jobId : UUID) : Option BackgroundJobStatus :=
  (w.db.jobs.find jobId).map (·.status)

/-! ### An instance -/

/-- Two workers under names of their own, the settings as they come. -/
def twoWorkers : System where
  worker n := if n = 0 then firstWorker else secondWorker
  runtime := .ascii
  settings := {}

/-- One pending run with a bank file and an ERP file. -/
def onePending : World where
  db := {
    runs := ⟨[{ id := 1, organizationId := 1, createdAt := 0 }], by decide⟩
    sourceFiles := ⟨[⟨1, .bankTransactions⟩, ⟨1, .erpInvoices⟩], by decide⟩
    configurations := ⟨[⟨1, .standard⟩], by decide⟩ }

theorem onePending_initial : onePending.Initial where
  runs run hm := by
    obtain rfl := List.mem_singleton.mp hm
    exact ⟨rfl, rfl, rfl⟩
  jobs := rfl
  jobEvents := rfl
  results := rfl
  auditEvents := rfl
  phase _ := rfl
  lease _ := rfl
  started _ := rfl
  saves _ := rfl

end ReconcileFlow.Worker
