import ReconcileFlow.Reconciliation.Engine
import ReconcileFlow.Worker.Service

/-!
# Worker — Processor

The reconciliation processor.  Its transactions are the start, one checkpoint before each stage,
the saving of the results, and the failing of the run; between them it works on its own variables
only (`Progress`).  What storage and ingestion deliver comes from outside and is an argument.
-/

namespace ReconcileFlow.Worker

open Support Support.Transaction Persistence
open Reconciliation (Runtime ReconciliationConfig ReconciliationEngine ReconciliationResult Inputs)
open Audit (AuditEvent AuditTrail)

namespace ReconciliationJobProcessor

/-! ### The start -/

/-- The files and the configuration of a run that is, now, RUNNING. -/
def inputs (job : WorkerJob) : Session (List SourceFileRecord × ReconciliationConfig) := do
  let files ← SourceFileRepository.listForRun job.runId
  let configuration ← ConfigurationSnapshotRepository.getForRun job.runId
  return (files, configuration.config)

/-- The first transaction; `none` where the processor returns at once. -/
def start (job : WorkerJob) (now : Instant) :
    Session (Option (List SourceFileRecord × ReconciliationConfig)) := do
  let run ← ReconciliationRunRepository.get job.runId job.organizationId
  match run.status with
  | .succeeded => return none
  | .pending =>
    let _ ← ReconciliationRunRepository.transition job.runId .running now none none
      job.organizationId
    some <$> inputs job
  -- an attempt before has started the run
  | .running => some <$> inputs job
  | .failed => throw (.runtime "reconciliation run cannot be processed")

/-- The local variables of `__call__`. -/
structure Progress where
  config : ReconciliationConfig
  gateway : Bool
  trail : AuditTrail
  banks : List BankTransaction := []
  invoices : List ERPInvoice := []
  gateways : List GatewaySettlementEntry := []
  results : List ReconciliationResult := []

/-- Up to the start of the trail.  `storage` is what `materialize` raises, if it does. -/
def prepare (files : List SourceFileRecord) (config : ReconciliationConfig)
    (storage : Option String) : Except String Progress :=
  let present (sourceType : SourceType) := files.any fun file => decide (file.sourceType = sourceType)
  match storage with
  | some typeName => .error typeName
  | none =>
    if present .bankTransactions && present .erpInvoices then
      .ok { config, gateway := present .gatewaySettlements, trail := AuditTrail.start {} }
    else .error "KeyError"

/-! ### The stages -/

/-- The checkpoints, each with the stage that follows it. -/
inductive Checkpoint
  | bankIngestion | erpIngestion | gatewayIngestion | reconciliation | saving | finalizing
deriving DecidableEq, Repr

namespace Checkpoint

def percentage : Checkpoint → Int
  | .bankIngestion => 10
  | .erpIngestion => 35
  | .gatewayIngestion => 60
  | .reconciliation => 75
  | .saving => 95
  | .finalizing => 99

def message : Checkpoint → String
  | .bankIngestion => "Loading bank transactions"
  | .erpIngestion => "Loading ERP invoices"
  | .gatewayIngestion => "Loading gateway settlements"
  | .reconciliation => "Reconciling records"
  | .saving => "Saving results"
  | .finalizing => "Finalizing results"

def next : Checkpoint → Option Checkpoint
  | .bankIngestion => some .erpIngestion
  | .erpIngestion => some .gatewayIngestion
  | .gatewayIngestion => some .reconciliation
  | .reconciliation => some .saving
  | .saving => some .finalizing
  | .finalizing => none

end Checkpoint

/-- The stage after a checkpoint: the variables as it leaves them, and what it raises.  `loaded`
is what the ingestion of the stage returns or raises. -/
def stage (runtime : Runtime) (checkpoint : Checkpoint) (loaded : Except String Inputs)
    (p : Progress) : Progress × Option String :=
  match checkpoint with
  | .bankIngestion =>
    let trail := p.trail.beginStage "bank_ingestion"
    match loaded with
    | .error typeName => ({ p with trail }, some typeName)
    | .ok inputs =>
      ({ p with
        banks := inputs.banks
        trail := trail.emit (.bankIngestionCompleted inputs.banks.length) }, none)
  | .erpIngestion =>
    let trail := p.trail.beginStage "erp_ingestion"
    match loaded with
    | .error typeName => ({ p with trail }, some typeName)
    | .ok inputs =>
      ({ p with
        invoices := inputs.erp
        trail := trail.emit (.erpIngestionCompleted inputs.erp.length) }, none)
  | .gatewayIngestion =>
    let trail := p.trail.beginStage "gateway_ingestion"
    if p.gateway then
      match loaded with
      | .error typeName => ({ p with trail }, some typeName)
      | .ok inputs =>
        ({ p with
          gateways := inputs.gateways
          trail := trail.emit (.gatewayIngestionCompleted inputs.gateways.length) }, none)
    else ({ p with gateways := [], trail := trail.emit .gatewayIngestionSkipped }, none)
  | .reconciliation =>
    let trail := p.trail.beginStage "reconciliation"
    -- the engine raises only on repeated ids, before any result
    let engine : ReconciliationEngine := ⟨runtime, p.config⟩
    match engine.reconcile p.banks p.invoices p.gateways with
    | .error _ => ({ p with trail }, some "ValueError")
    | .ok results => ({ p with results, trail := trail.reconciliationCompleted results }, none)
  | .saving => ({ p with trail := p.trail.succeed }, none)
  | .finalizing => (p, none)

/-! ### Saving and failing -/

/-- The saving transaction; it returns whether it wrote. -/
def save (job : WorkerJob) (p : Progress) (now : Instant) : Session Bool := do
  let current ← ReconciliationRunRepository.get job.runId job.organizationId
  -- another attempt has saved before: nothing is written again
  if current.status = .succeeded then return false
  else
    require (current.status = .running) (.runtime "reconciliation run cannot be completed")
    ReconciliationResultRepository.addMany job.runId p.results
    forM p.trail.events (AuditEventRepository.append job.runId)
    let _ ← ReconciliationRunRepository.transition job.runId .succeeded now none none
      job.organizationId
    return true

/-- The code and the message with which `_fail_run` fails the run. -/
def failureCode : Failure → String × String
  | .jobCancelled => ("EXECUTION_CANCELLED", "Reconciliation execution was cancelled.")
  | .jobTimedOut => ("EXECUTION_TIMEOUT", "Reconciliation execution exceeded its timeout.")
  | .error _ => ("EXECUTION_FAILED", "Reconciliation execution failed.")

/-- The events that `_fail_run` appends. -/
def failureEvents (trail : AuditTrail) (failure : Failure) : List AuditEvent :=
  let trail := if trail.events = [] then trail else trail.fail failure.typeName
  trail.events.filter fun event => decide (event ≠ .runSucceeded)

/-- The transaction of `_fail_run`. -/
def failRun (job : WorkerJob) (trail : AuditTrail) (failure : Failure) (now : Instant) :
    Session Unit := do
  let current ← ReconciliationRunRepository.get job.runId job.organizationId
  if current.status = .running then
    forM (failureEvents trail failure) (AuditEventRepository.append job.runId)
    let (code, message) := failureCode failure
    let _ ← ReconciliationRunRepository.transition job.runId .failed now (some code) (some message)
      job.organizationId
    return ()
  else return ()

/-- `__call__` fails the run before it raises again. -/
def failsRun (job : WorkerJob) (failure : Failure) : Bool :=
  decide (failure = .jobCancelled) || decide (job.maxAttempts ≤ job.attemptCount)

/-! ### What the transactions did -/

variable {db db' : Database} {job : WorkerJob} {now : Instant}

theorem runs_inputs {i : List SourceFileRecord × ReconciliationConfig}
    (h : Runs (inputs job) db i db') : db = db' := by
  simp only [inputs, SourceFileRepository.listForRun, ConfigurationSnapshotRepository.getForRun,
    runs_bind, runs_get, runs_pure, runs_fromOption] at h
  obtain ⟨_, _, ⟨_, _, ⟨rfl, rfl⟩, -, rfl⟩, _, _, ⟨_, _, ⟨rfl, rfl⟩, -, rfl⟩, -, rfl⟩ := h
  rfl

theorem runs_start {i : Option (List SourceFileRecord × ReconciliationConfig)}
    (h : Runs (start job now) db i db') :
    ∃ run, db.runs.find job.runId = some run ∧
      ((run.status = .succeeded ∧ i = none ∧ db = db') ∨
        (run.status = .running ∧ i.isSome ∧ db = db') ∨
        (run.status = .pending ∧ i.isSome ∧
          RunStored db (run.moved .running now none none) db')) := by
  simp only [start, runs_bind, runs_get_run] at h
  obtain ⟨run, _, ⟨hrun, -, rfl⟩, h⟩ := h
  refine ⟨run, hrun, ?_⟩
  split at h
  · next hs =>
    obtain ⟨rfl, rfl⟩ := runs_pure.mp h
    exact .inl ⟨hs, rfl, rfl⟩
  · next hs =>
    simp only [map_eq_pure_bind, runs_bind, runs_pure] at h
    obtain ⟨_, _, hmove, _, _, hinputs, rfl, rfl⟩ := h
    obtain ⟨run', hrun', -, rfl, hstored⟩ := runs_transition hmove
    obtain rfl : run = run' := Option.some.inj (hrun.symm.trans hrun')
    exact .inr (.inr ⟨hs, rfl, runs_inputs hinputs ▸ hstored⟩)
  · next hs =>
    simp only [map_eq_pure_bind, runs_bind, runs_pure] at h
    obtain ⟨_, _, hinputs, rfl, rfl⟩ := h
    exact .inr (.inl ⟨hs, rfl, runs_inputs hinputs⟩)
  · exact absurd h runs_throw

theorem runs_save {p : Progress} {written : Bool} (h : Runs (save job p now) db written db') :
    ∃ run, db.runs.find job.runId = some run ∧
      ((run.status = .succeeded ∧ written = false ∧ db = db') ∨
        (run.status = .running ∧ written = true ∧ ∃ t mid,
          t.rows = db.results.rows ++ (p.results.map storedResult).map (⟨job.runId, ·⟩) ∧
          AuditAppended { db with results := t } job.runId p.trail.events mid ∧
          RunStored mid (run.moved .succeeded now none none) db')) := by
  simp only [save, runs_bind, runs_get_run] at h
  obtain ⟨run, _, ⟨hrun, -, rfl⟩, h⟩ := h
  refine ⟨run, hrun, ?_⟩
  split at h
  · next hs =>
    obtain ⟨rfl, rfl⟩ := runs_pure.mp h
    exact .inl ⟨hs, rfl, rfl⟩
  · simp only [runs_bind, runs_require, runs_pure] at h
    obtain ⟨_, _, ⟨hs, rfl⟩, _, _, hadd, _, mid, hevents, _, _, hmove, rfl, rfl⟩ := h
    obtain ⟨t, ht, rfl⟩ := runs_addMany hadd
    have happended := runs_appendAll hevents
    obtain ⟨run', hrun', -, rfl, hstored⟩ := runs_transition hmove
    have hruns : mid.runs = db.runs := by
      obtain ⟨_, _, -, rfl, -⟩ := happended
      rfl
    obtain rfl : run = run' := Option.some.inj (hrun.symm.trans (hruns ▸ hrun'))
    exact .inr ⟨hs, rfl, t, mid, ht, happended, hstored⟩

theorem runs_failRun {trail : AuditTrail} {failure : Failure} {u : Unit}
    (h : Runs (failRun job trail failure now) db u db') :
    ∃ run, db.runs.find job.runId = some run ∧
      ((run.status ≠ .running ∧ db = db') ∨
        (run.status = .running ∧ ∃ mid,
          AuditAppended db job.runId (failureEvents trail failure) mid ∧
          RunStored mid (run.moved .failed now (some (failureCode failure).1)
            (some (failureCode failure).2)) db')) := by
  simp only [failRun, runs_bind, runs_get_run] at h
  obtain ⟨run, _, ⟨hrun, -, rfl⟩, h⟩ := h
  refine ⟨run, hrun, ?_⟩
  split at h
  · next hs =>
    simp only [runs_bind, runs_pure] at h
    obtain ⟨_, mid, hevents, _, _, hmove, -, rfl⟩ := h
    have happended := runs_appendAll hevents
    obtain ⟨run', hrun', -, rfl, hstored⟩ := runs_transition hmove
    have hruns : mid.runs = db.runs := by
      obtain ⟨_, _, -, rfl, -⟩ := happended
      rfl
    obtain rfl : run = run' := Option.some.inj (hrun.symm.trans (hruns ▸ hrun'))
    exact .inr ⟨hs, mid, happended, hstored⟩
  · next hs => exact .inl ⟨hs, (runs_pure.mp h).2⟩

/-! ### When the transactions raise -/

theorem exists_inputs (hconfig : (db.configurations.find job.runId).isSome) :
    ∃ i, Runs (inputs job) db i db := by
  obtain ⟨configuration, hc⟩ := Option.isSome_iff_exists.mp hconfig
  refine ⟨(db.filesOf job.runId, configuration.config), ?_⟩
  simp only [inputs, SourceFileRepository.listForRun, ConfigurationSnapshotRepository.getForRun,
    runs_bind, runs_get, runs_pure, runs_fromOption]
  exact ⟨_, _, ⟨_, _, ⟨rfl, rfl⟩, rfl, rfl⟩, _, _, ⟨_, _, ⟨rfl, rfl⟩, hc, rfl⟩, rfl, rfl⟩

/-- The start transaction of a run that has its configuration raises only if the run has failed. -/
theorem failed_of_start_raises {run : ReconciliationRunRecord}
    (hrun : db.runs.find job.runId = some run) (horg : run.organizationId = job.organizationId)
    (hconfig : (db.configurations.find job.runId).isSome)
    (hpending : run.status = .pending → run.finishedAt = none)
    (h : ∀ i db', ¬ Runs (start job now) db i db') : run.status = .failed := by
  simp only [start, runs_bind, runs_get_run] at h
  cases hs : run.status with
  | failed => rfl
  | succeeded =>
    refine absurd ⟨run, db, ⟨hrun, horg, rfl⟩, ?_⟩ (h none db)
    simp [hs]
  | running =>
    obtain ⟨i, hinputs⟩ := exists_inputs hconfig
    refine absurd ⟨run, db, ⟨hrun, horg, rfl⟩, ?_⟩ (h (some i) db)
    simp only [hs, map_eq_pure_bind, runs_bind, runs_pure]
    exact ⟨i, db, hinputs, rfl, rfl⟩
  | pending =>
    have hcheck : notBefore (run.moved .running now none none).finishedAt
        (run.moved .running now none none).startedAt = true := by
      simp [ReconciliationRunRecord.moved, hpending hs, notBefore]
    obtain ⟨run', mid, hmove⟩ := exists_transition .running now none none hrun horg
      (by simp [hs, RunStatus.transitions]) hcheck
    have hmid : (mid.configurations.find job.runId).isSome := by
      obtain ⟨_, -, -, -, hstored⟩ := runs_transition hmove
      rw [hstored.configurations]
      exact hconfig
    obtain ⟨i, hinputs⟩ := exists_inputs hmid
    refine absurd ⟨run, db, ⟨hrun, horg, rfl⟩, ?_⟩ (h (some i) mid)
    simp only [hs, map_eq_pure_bind, runs_bind, runs_pure]
    exact ⟨run', mid, hmove, i, mid, hinputs, rfl, rfl⟩

/-- `_fail_run` raises only where a RUNNING run would finish before it started. -/
theorem clock_of_failRun_raises {trail : AuditTrail} {failure : Failure}
    {run : ReconciliationRunRecord} (hrun : db.runs.find job.runId = some run)
    (horg : run.organizationId = job.organizationId)
    (h : ∀ u db', ¬ Runs (failRun job trail failure now) db u db') :
    run.status = .running ∧ notBefore (some now) run.startedAt = false := by
  simp only [failRun, runs_bind, runs_get_run] at h
  by_cases hs : run.status = .running
  · refine ⟨hs, ?_⟩
    by_contra hclock
    rw [Bool.not_eq_false] at hclock
    obtain ⟨mid, hevents⟩ := exists_appendAll (failureEvents trail failure)
      (Option.isSome_iff_exists.mpr ⟨run, hrun⟩)
    have hruns : mid.runs = db.runs := by
      obtain ⟨_, _, -, rfl, -⟩ := runs_appendAll hevents
      rfl
    obtain ⟨run', db', hmove⟩ := exists_transition .failed now (some (failureCode failure).1)
      (some (failureCode failure).2) (hruns ▸ hrun) horg (by simp [hs, RunStatus.transitions])
      (by simpa [ReconciliationRunRecord.moved] using hclock)
    refine h () db' ⟨run, db, ⟨hrun, horg, rfl⟩, ?_⟩
    simp only [hs, if_true, runs_bind, runs_pure]
    exact ⟨(), mid, hevents, run', db', hmove, trivial, rfl⟩
  · refine absurd ⟨run, db, ⟨hrun, horg, rfl⟩, ?_⟩ (h () db)
    rw [if_neg hs, runs_pure]
    exact ⟨rfl, rfl⟩

end ReconciliationJobProcessor

end ReconcileFlow.Worker
