import ReconcileFlow.Worker.History
import ReconcileFlow.Worker.Inputs
import ReconcileFlow.Worker.Saving

/-!
# Worker — Outcome

What a SUCCEEDED run leaves behind, over every interleaving of workers, users and crashes, is decided
before anything runs: by the records of its files and by its configuration (`succeeded_outcome`).  Its
results are those of the engine on these, all of them and nothing else, and its history ends with the
events of one complete attempt.

An attempt has passed its checkpoints one after another (`Passed`), so that what it saves has one form
(`Passed.complete`).  The ingestion of a run's files is taken to return the same records whenever it
returns (`Delivers`).
-/

namespace ReconcileFlow.Worker

open Support Support.Transaction Persistence ReconciliationJobProcessor
open Reconciliation (Runtime ReconciliationConfig ReconciliationEngine ReconciliationResult Inputs)
open Audit (AuditEvent AuditTrail)

/-! ### One attempt -/

/-- The variables of an attempt before a checkpoint, if the stages before it have raised nothing. -/
inductive Passed (runtime : Runtime) (config : ReconciliationConfig) (gateway : Bool)
    (records : Inputs) : Checkpoint → Progress → Prop
  | start : Passed runtime config gateway records .bankIngestion
      { config, gateway, trail := AuditTrail.start {} }
  | stage {c c' : Checkpoint} {p p' : Progress} : Passed runtime config gateway records c p →
      stage runtime c (.ok records) p = (p', none) → c.next = some c' →
      Passed runtime config gateway records c' p'

/-- The settlement entries that are reconciled. -/
def gatewaysOf (gateway : Bool) (records : Inputs) : List GatewaySettlementEntry :=
  if gateway then records.gateways else []

/-- The events of a complete attempt. -/
def completeTrail (gateway : Bool) (records : Inputs) (results : List ReconciliationResult) :
    List AuditEvent :=
  [.runStarted, .bankIngestionCompleted records.banks.length,
    .erpIngestionCompleted records.erp.length,
    if gateway then .gatewayIngestionCompleted records.gateways.length else .gatewayIngestionSkipped,
    .reconciliationCompleted results.length (results.countP (·.requiresReview))
      (AuditTrail.statusCounts results),
    .runSucceeded]

/-- What a complete attempt has in its variables. -/
structure Complete (runtime : Runtime) (config : ReconciliationConfig) (gateway : Bool)
    (records : Inputs) (p : Progress) : Prop where
  results : (⟨runtime, config⟩ : ReconciliationEngine).reconcile records.banks records.erp
    (gatewaysOf gateway records) = .ok p.results
  events : p.trail.events = completeTrail gateway records p.results

section Attempt

variable {runtime : Runtime} {config : ReconciliationConfig} {gateway : Bool} {records : Inputs}
  {c : Checkpoint} {p p' : Progress}

theorem Passed.bankIngestion (h : Passed runtime config gateway records .bankIngestion p) :
    p = { config, gateway, trail := AuditTrail.start {} } := by
  cases h with
  | start => rfl
  | @stage c _ _ _ _ _ hnext => cases c <;> cases hnext

theorem Passed.erpIngestion (h : Passed runtime config gateway records .erpIngestion p) :
    p.config = config ∧ p.gateway = gateway ∧ p.banks = records.banks ∧
      p.trail.events = [.runStarted, .bankIngestionCompleted records.banks.length] := by
  cases h with
  | @stage c _ q _ hq hstage hnext =>
    cases c <;> cases hnext
    obtain rfl := hq.bankIngestion
    cases hstage
    exact ⟨rfl, rfl, rfl, rfl⟩

theorem Passed.gatewayIngestion (h : Passed runtime config gateway records .gatewayIngestion p) :
    p.config = config ∧ p.gateway = gateway ∧ p.banks = records.banks ∧ p.invoices = records.erp ∧
      p.trail.events = [.runStarted, .bankIngestionCompleted records.banks.length,
        .erpIngestionCompleted records.erp.length] := by
  cases h with
  | @stage c _ q _ hq hstage hnext =>
    cases c <;> cases hnext
    obtain ⟨hconfig, hgateway, hbanks, hevents⟩ := hq.erpIngestion
    cases hstage
    refine ⟨hconfig, hgateway, hbanks, rfl, ?_⟩
    simp [AuditTrail.emit, AuditTrail.beginStage, hevents]

theorem Passed.reconciliation (h : Passed runtime config gateway records .reconciliation p) :
    p.config = config ∧ p.banks = records.banks ∧ p.invoices = records.erp ∧
      p.gateways = gatewaysOf gateway records ∧
      ∀ results, (p.trail.reconciliationCompleted results).succeed.events =
        completeTrail gateway records results := by
  cases h with
  | @stage c _ q _ hq hstage hnext =>
    cases c <;> cases hnext
    obtain ⟨hconfig, hgateway, hbanks, hinvoices, hevents⟩ := hq.gatewayIngestion
    simp only [ReconciliationJobProcessor.stage, hgateway] at hstage
    cases gateway <;> cases hstage <;> refine ⟨hconfig, hbanks, hinvoices, rfl, fun results => ?_⟩ <;>
      simp [AuditTrail.reconciliationCompleted, AuditTrail.succeed, AuditTrail.emit,
        AuditTrail.beginStage, hevents, completeTrail]

/-- **An attempt that has passed all its stages is complete.** -/
theorem Passed.complete (h : Passed runtime config gateway records .finalizing p) :
    Complete runtime config gateway records p := by
  cases h with
  | @stage c _ q _ hq hstage hnext =>
    cases c <;> cases hnext
    cases hstage
    cases hq with
    | @stage c _ q _ hq hstage hnext =>
      cases c <;> cases hnext
      obtain ⟨hconfig, hbanks, hinvoices, hgateways, hevents⟩ := hq.reconciliation
      simp only [ReconciliationJobProcessor.stage, hconfig, hbanks, hinvoices, hgateways] at hstage
      split at hstage
      · cases hstage
      · next results hresults =>
        cases hstage
        exact ⟨hresults, hevents results⟩

end Attempt

/-! ### All attempts -/

/-- The files of a run include one of a gateway. -/
def hasGatewayFile (db : Database) (runId : UUID) : Bool :=
  (db.filesOf runId).any fun file => decide (file.sourceType = .gatewaySettlements)

/-- The ingestion of a run's files returns its records, or raises. -/
def Delivers (records : UUID → Inputs) (w : World) : Action → Prop
  | .checkpoint n _ loaded =>
    ∀ job activity, w.phase n = .busy job activity →
      ∀ inputs, loaded = .ok inputs → inputs = records job.runId
  | _ => True

/-- The variables of an attempt are those of an attempt at the run that has passed its stages. -/
def Activity.Loaded (S : System) (db : Database) (records : UUID → Inputs) (runId : UUID) :
    Activity → Prop
  | .checkpointing c p => ∃ configuration, db.configurations.find runId = some configuration ∧
      Passed S.runtime configuration.config (hasGatewayFile db runId) (records runId) c p
  | .saving p => ∃ configuration, db.configurations.find runId = some configuration ∧
      Complete S.runtime configuration.config (hasGatewayFile db runId) (records runId) p
  | _ => True

section Steps

variable {S : System} {db db' : Database} {records : UUID → Inputs} {job : WorkerJob}

theorem eq_of_runs_inputs {i : List SourceFileRecord × ReconciliationConfig}
    (h : Runs (inputs job) db i db') :
    ∃ configuration, db.configurations.find job.runId = some configuration ∧
      i = (db.filesOf job.runId, configuration.config) := by
  simp only [inputs, SourceFileRepository.listForRun, ConfigurationSnapshotRepository.getForRun,
    runs_bind, runs_get, runs_pure, runs_fromOption] at h
  obtain ⟨_, _, ⟨_, _, ⟨rfl, rfl⟩, rfl, rfl⟩, _, _, ⟨_, _, ⟨rfl, rfl⟩, hfind, rfl⟩, rfl, rfl⟩ := h
  exact ⟨_, hfind, rfl⟩

/-- A start transaction reads the files and the configuration that the run has. -/
theorem inputs_of_start {now : Instant} {i : List SourceFileRecord × ReconciliationConfig}
    (h : Runs (start job now) db (some i) db') :
    ∃ configuration, db.configurations.find job.runId = some configuration ∧
      i = (db.filesOf job.runId, configuration.config) := by
  simp only [start, runs_bind, runs_get_run] at h
  obtain ⟨run, _, ⟨-, -, rfl⟩, h⟩ := h
  split at h
  · obtain ⟨hnone, -⟩ := runs_pure.mp h
    cases hnone
  · simp only [map_eq_pure_bind, runs_bind, runs_pure] at h
    obtain ⟨_, _, hmove, i', _, hinputs, hi, -⟩ := h
    obtain ⟨_, -, -, -, hstored⟩ := runs_transition hmove
    obtain ⟨configuration, hfind, rfl⟩ := eq_of_runs_inputs hinputs
    refine ⟨configuration, hstored.configurations ▸ hfind, ?_⟩
    rw [← Option.some.inj hi, Database.filesOf, Database.filesOf, hstored.sourceFiles]
  · simp only [map_eq_pure_bind, runs_bind, runs_pure] at h
    obtain ⟨i', _, hinputs, hi, -⟩ := h
    obtain ⟨configuration, hfind, rfl⟩ := eq_of_runs_inputs hinputs
    exact ⟨configuration, hfind, (Option.some.inj hi).symm⟩
  · exact absurd h runs_throw

theorem loaded_afterFailure {failure : Failure} {trail : AuditTrail} {runId : UUID} :
    (job.afterFailure failure trail).Loaded S db records runId := by
  unfold WorkerJob.afterFailure
  split <;> trivial

theorem loaded_afterStart {configuration : ConfigurationSnapshotRecord}
    (hfind : db.configurations.find job.runId = some configuration) (storage : Option String) :
    (job.afterStart (db.filesOf job.runId) configuration.config storage).Loaded S db records
      job.runId := by
  unfold WorkerJob.afterStart
  split
  · exact loaded_afterFailure
  · next p hprepare =>
    simp only [prepare] at hprepare
    split at hprepare
    · cases hprepare
    · split at hprepare
      · cases hprepare
        exact ⟨configuration, hfind, .start⟩
      · cases hprepare

/-- A stage that raises nothing has what it needs from the records of the run. -/
theorem stage_delivered {c : Checkpoint} {loaded : Except String Inputs} {recs : Inputs}
    {p p' : Progress} (hloaded : ∀ inputs, loaded = .ok inputs → inputs = recs)
    (h : stage S.runtime c loaded p = (p', none)) : stage S.runtime c (.ok recs) p = (p', none) := by
  cases loaded with
  | ok inputs => rwa [← hloaded inputs rfl]
  | error e =>
    cases c with
    | bankIngestion | erpIngestion => cases congrArg Prod.snd h
    | gatewayIngestion =>
      simp only [stage] at h ⊢
      split at h
      · cases congrArg Prod.snd h
      · next hgateway => rwa [if_neg hgateway]
    | reconciliation | saving | finalizing => exact h

theorem loaded_afterCheckpoint {c : Checkpoint} {loaded : Except String Inputs} {p : Progress}
    (hloaded : ∀ inputs, loaded = .ok inputs → inputs = records job.runId)
    (h : (Activity.checkpointing c p).Loaded S db records job.runId) :
    (job.afterCheckpoint S.runtime c loaded p).Loaded S db records job.runId := by
  obtain ⟨configuration, hfind, hpassed⟩ := h
  unfold WorkerJob.afterCheckpoint
  split
  · exact loaded_afterFailure
  · next p' hstage =>
    have hstage := stage_delivered hloaded hstage
    split
    · next c' hnext => exact ⟨configuration, hfind, hpassed.stage hstage hnext⟩
    · next hnext =>
      cases c <;> cases hnext
      cases hstage
      exact ⟨configuration, hfind, hpassed.complete⟩

end Steps

/-- The variables of every attempt, over the files and configurations in `db`. -/
def World.Loaded (S : System) (db : Database) (records : UUID → Inputs) (w : World) : Prop :=
  ∀ n job activity, w.phase n = .busy job activity → activity.Loaded S db records job.runId

namespace World.Loaded

variable {S : System} {db : Database} {records : UUID → Inputs} {w w' : World}

theorem update (h : w.Loaded S db records) {n : ℕ} {phase : Phase}
    (hphase : w'.phase = Function.update w.phase n phase)
    (hn : ∀ job activity, phase = .busy job activity → activity.Loaded S db records job.runId) :
    w'.Loaded S db records := by
  intro m job activity hp
  rw [hphase, Function.update_apply] at hp
  split at hp
  · exact hn job activity hp
  · exact h m job activity hp

theorem go (h : w.Loaded S db records) {n : ℕ} {job : WorkerJob} {activity : Activity}
    (hphase : w'.phase = Function.update w.phase n (.busy job activity))
    (hn : activity.Loaded S db records job.runId) : w'.Loaded S db records := by
  refine h.update hphase ?_
  rintro _ _ ⟨⟩
  exact hn

theorem step (h : w.Loaded S db records) {a : Action} (hdelivers : Delivers records w a)
    (hfiles : w.db.sourceFiles = db.sourceFiles)
    (hconfigurations : w.db.configurations = db.configurations) (hs : S.step w a = some w') :
    w'.Loaded S db records := by
  cases a with
  | execute | cancel | retry =>
    cases hs
    exact h
  | crash =>
    cases hs
    exact h.update rfl (by rintro _ _ ⟨⟩)
  | poll n now =>
    simp only [System.step, System.poll] at hs
    split at hs
    · cases hs
      split
      · next claim _ _ =>
        refine h.update rfl fun job activity hp => ?_
        cases claim <;> cases hp
        trivial
      · exact h.update rfl (by rintro _ _ ⟨⟩)
    · cases hs
  | start n now storage =>
    simp only [System.step, System.start] at hs
    split at hs
    · next job hp =>
      cases hs
      split
      · exact h.go rfl trivial
      · next files config _ hok =>
        obtain ⟨configuration, hfind, hi⟩ := inputs_of_start (atomically_ok.mp hok)
        rw [hconfigurations] at hfind
        have hsame : w.db.filesOf job.runId = db.filesOf job.runId := by
          rw [Database.filesOf, Database.filesOf, hfiles]
        rw [hsame] at hi
        cases hi
        exact h.go rfl (loaded_afterStart hfind storage)
      · exact h.go rfl trivial
    · cases hs
  | checkpoint n now loaded =>
    simp only [System.step, System.checkpoint] at hs
    split at hs
    · next hp =>
      cases hs
      split
      · split
        · exact h.go rfl loaded_afterFailure
        · exact h.go rfl (loaded_afterCheckpoint (hdelivers _ _ hp) (h n _ _ hp))
      · exact h.go rfl loaded_afterFailure
    · cases hs
  | save n now =>
    simp only [System.step, System.save] at hs
    split at hs
    · cases hs
      split
      · exact h.go rfl trivial
      · exact h.go rfl loaded_afterFailure
    · cases hs
  | fail n now =>
    simp only [System.step, System.fail] at hs
    split at hs
    · cases hs
      split <;> exact h.go rfl trivial
    · cases hs
  | close n raised =>
    simp only [System.step] at hs
    split at hs
    · cases hs
      exact h.go rfl trivial
    · cases hs
  | finish n now =>
    simp only [System.step, System.finish] at hs
    split at hs
    · cases hs
      split <;> exact h.update rfl (by rintro _ _ ⟨⟩)
    · cases hs
  | restart n =>
    simp only [System.step] at hs
    split at hs
    · cases hs
      exact h.update rfl (by rintro _ _ ⟨⟩)
    · cases hs

end World.Loaded

/-! ### What a commit stores of a run -/

/-- A commit stores no results and no success of the run, or those of an attempt that saves. -/
inductive Stores (S : System) (w : World) (db : Database) (r : UUID) : Prop
  | nothing : db.resultsOf r = w.db.resultsOf r →
      (statusOf db r = some .succeeded →
        w.runStatus r = some .succeeded ∧ history db r = history w.db r) → Stores S w db r
  | saved {n : ℕ} {job : WorkerJob} {p : Progress} : w.phase n = .busy job (.saving p) →
      job.runId = r → w.runStatus r = some .running →
      db.resultsOf r = w.db.resultsOf r ++ (p.results.map storedResult).map (⟨r, ·⟩) →
      history db r = history w.db r ++ p.trail.events → Stores S w db r

section

variable {S : System} {w : World} {a : Action} {db : Database}

theorem resultsOf_congr {db db' : Database} (h : db'.results = db.results) (r : UUID) :
    db'.resultsOf r = db.resultsOf r := by
  unfold Database.resultsOf
  rw [h]

theorem Stores.of_same (hruns : db.runs = w.db.runs) (hresults : db.results = w.db.results)
    (hevents : db.auditEvents = w.db.auditEvents) (r : UUID) : Stores S w db r := by
  refine .nothing (resultsOf_congr hresults r) fun hs => ⟨?_, history_congr hevents r⟩
  rwa [statusOf, hruns] at hs

/-- A run is stored that is not SUCCEEDED; only it gets events. -/
theorem Stores.of_stored {mid : Database} {run : ReconciliationRunRecord}
    (hstored : RunStored mid run db) (hstatus : run.status ≠ .succeeded)
    (hruns : mid.runs = w.db.runs) (hresults : mid.results = w.db.results)
    (hevents : ∀ r, r ≠ run.id → history mid r = history w.db r) (r : UUID) : Stores S w db r := by
  refine .nothing (resultsOf_congr (hstored.results.trans hresults) r) fun hs => ?_
  by_cases hr : r = run.id
  · rw [statusOf, hstored.find, if_pos hr] at hs
    exact absurd (Option.some.inj hs) hstatus
  · rw [statusOf, hstored.find, if_neg hr, hruns] at hs
    exact ⟨hs, (history_congr hstored.auditEvents r).trans (hevents r hr)⟩

theorem stores_save {n : ℕ} {job : WorkerJob} {p : Progress} {now : Instant} {written : Bool}
    (hp : w.phase n = .busy job (.saving p)) (h : Runs (save job p now) w.db written db)
    (r : UUID) : Stores S w db r := by
  obtain ⟨run, hrun, ⟨-, -, rfl⟩ | ⟨hs, -, t, mid, ht, happended, hstored⟩⟩ := runs_save h
  · exact .of_same rfl rfl rfl r
  have hid : run.id = job.runId := Table.key_of_find hrun
  have hevents : ∀ r, history mid r =
      history w.db r ++ if r = job.runId then p.trail.events else [] := happended.events
  have hkept := history_congr hstored.auditEvents
  have hruns : mid.runs = w.db.runs ∧ mid.results = t := by
    obtain ⟨_, _, -, rfl, -⟩ := happended
    exact ⟨rfl, rfl⟩
  have hresults : db.resultsOf r = w.db.resultsOf r ++
      ((p.results.map storedResult).map (⟨job.runId, ·⟩)).filter fun record => decide (record.runId = r) := by
    rw [resultsOf_congr hstored.results, Database.resultsOf, hruns.2, ht, List.filter_append]
    rfl
  by_cases hr : r = job.runId
  · subst hr
    refine .saved hp rfl ?_ ?_ ?_
    · rw [World.runStatus, hrun]
      exact congrArg some hs
    · rw [hresults, List.filter_eq_self.mpr]
      simp
    · rw [hkept, hevents, if_pos rfl]
  · refine .nothing ?_ fun hsucceeded => ⟨?_, ?_⟩
    · rw [hresults, List.filter_eq_nil_iff.mpr, List.append_nil]
      simp [Ne.symm hr]
    · have hne : r ≠ run.id := fun h => hr (h.trans hid)
      have hfind := (hstored.find r).trans (if_neg hne)
      rwa [statusOf, hfind, hruns.1] at hsucceeded
    · rw [hkept, hevents, if_neg hr, List.append_nil]

/-- **A commit stores results only with the success of their run.** -/
theorem Commits.stores (h : Commits S w a db) (r : UUID) : Stores S w db r := by
  cases h with
  | poll h =>
    obtain ⟨mid, hswept, ⟨-, rfl⟩ | ⟨_, _, -, -, -, hstored⟩⟩ := BackgroundWorker.runs_poll h
    · exact .of_same hswept.runs hswept.results hswept.auditEvents r
    · exact .of_same (hstored.runs.trans hswept.runs) (hstored.results.trans hswept.results)
        (hstored.auditEvents.trans hswept.auditEvents) r
  | start hp h =>
    obtain ⟨run, -, ⟨-, -, rfl⟩ | ⟨-, -, rfl⟩ | ⟨-, -, hstored⟩⟩ := runs_start h
    · exact .of_same rfl rfl rfl r
    · exact .of_same rfl rfl rfl r
    · exact .of_stored hstored (by rintro ⟨⟩) rfl rfl (fun _ _ => rfl) r
  | checkpoint hp h =>
    obtain ⟨_, -, -, -, -, hstored⟩ := BackgroundWorker.runs_checkpoint h
    exact .of_same hstored.runs hstored.results hstored.auditEvents r
  | save hp h => exact stores_save hp h r
  | fail hp h =>
    obtain ⟨run, hrun, ⟨-, rfl⟩ | ⟨-, mid, happended, hstored⟩⟩ := runs_failRun h
    · exact .of_same rfl rfl rfl r
    · have hid : run.id = _ := Table.key_of_find hrun
      have hmid : mid.runs = w.db.runs ∧ mid.results = w.db.results := by
        obtain ⟨_, _, -, rfl, -⟩ := happended
        exact ⟨rfl, rfl⟩
      refine .of_stored hstored (by rintro ⟨⟩) hmid.1 hmid.2 (fun r hr => ?_) r
      have hevents := happended.events r
      rwa [if_neg fun h => hr (h.trans hid.symm), List.append_nil] at hevents
  | finish hp h =>
    obtain ⟨_, -, -, hstored⟩ := BackgroundWorker.runs_finish h
    exact .of_same hstored.runs hstored.results hstored.auditEvents r
  | execute h =>
    obtain ⟨_, -, -, -, -, -, -, -, -, -, -, hstored⟩ := Api.runs_executeRun h
    exact .of_same hstored.runs hstored.results hstored.auditEvents r
  | cancel h =>
    obtain ⟨_, -, -, -, -, hstored, -⟩ := runs_requestCancellation h
    exact .of_same hstored.runs hstored.results hstored.auditEvents r
  | retry h =>
    obtain ⟨job, run, mid, -, -, -, -, -, -, -, hstored, hrenewed, -⟩ := runs_retryFailed h
    exact .of_stored hrenewed (by rintro ⟨⟩) hstored.runs hstored.results
      (fun r _ => history_congr hstored.auditEvents r) r

end

/-! ### Every run of the system -/

/-- What a SUCCEEDED run has. -/
structure Outcome (S : System) (db : Database) (records : UUID → Inputs) (w : World) (r : UUID)
    (configuration : ConfigurationSnapshotRecord) (results : List ReconciliationResult) : Prop where
  found : db.configurations.find r = some configuration
  reconciled : (⟨S.runtime, configuration.config⟩ : ReconciliationEngine).reconcile
    (records r).banks (records r).erp (gatewaysOf (hasGatewayFile db r) (records r)) = .ok results
  /-- The amounts are as the columns keep them. -/
  stored : w.db.resultsOf r = (results.map storedResult).map (⟨r, ·⟩)
  recorded : ∃ earlier, history w.db r =
    earlier ++ completeTrail (hasGatewayFile db r) (records r) results

/-- What every step keeps. -/
structure World.Settled (S : System) (db : Database) (records : UUID → Inputs) (w : World) :
    Prop where
  valid : w.Valid S
  sourceFiles : w.db.sourceFiles = db.sourceFiles
  configurations : w.db.configurations = db.configurations
  loaded : w.Loaded S db records
  outcome : ∀ r, w.runStatus r = some .succeeded →
    ∃ configuration results, Outcome S db records w r configuration results

section

variable {S : System} {db : Database} {records : UUID → Inputs} {w w' : World} {a : Action}

theorem World.Initial.settled (h : w.Initial) : w.Settled S w.db records where
  valid := h.valid
  sourceFiles := rfl
  configurations := rfl
  loaded n job activity hp := by
    rw [h.phase n] at hp
    cases hp
  outcome r hs := by
    obtain ⟨run, hrun, hstatus⟩ := Option.map_eq_some_iff.mp hs
    rw [(h.runs run (Table.mem_of_find hrun)).1] at hstatus
    cases hstatus

theorem Outcome.congr {r : UUID} {configuration : ConfigurationSnapshotRecord}
    {results : List ReconciliationResult}
    (h : Outcome S db records w r configuration results)
    (hresults : w'.db.resultsOf r = w.db.resultsOf r)
    (hhistory : history w'.db r = history w.db r) :
    Outcome S db records w' r configuration results := by
  obtain ⟨earlier, hearlier⟩ := h.recorded
  exact ⟨h.found, h.reconciled, hresults.trans h.stored, earlier, hhistory.trans hearlier⟩

/-- The commit of an attempt that saves gives its run the outcome of a complete attempt. -/
theorem World.Settled.saved (h : w.Settled S db records) {n : ℕ} {job : WorkerJob} {p : Progress}
    (hp : w.phase n = .busy job (.saving p)) (hrunning : w.runStatus job.runId = some .running)
    (hresults : w'.db.resultsOf job.runId =
      w.db.resultsOf job.runId ++ (p.results.map storedResult).map (⟨job.runId, ·⟩))
    (hhistory : history w'.db job.runId = history w.db job.runId ++ p.trail.events) :
    ∃ configuration results, Outcome S db records w' job.runId configuration results := by
  -- there are no results yet, as the run has not succeeded
  have hnil : w.db.resultsOf job.runId = [] := by
    by_contra hne
    cases hrunning.symm.trans ((h.valid.saved job.runId).2 hne).2
  obtain ⟨configuration, hfind, hcomplete⟩ := h.loaded n job _ hp
  refine ⟨configuration, p.results, hfind, hcomplete.results, ?_, history w.db job.runId, ?_⟩
  · rw [hresults, hnil, List.nil_append]
  · rw [hhistory, hcomplete.events]

theorem World.Settled.step (h : w.Settled S db records) (hdelivers : Delivers records w a)
    (hs : S.step w a = some w') : w'.Settled S db records := by
  have hvalid := h.valid.step hs
  have hloaded := h.loaded.step hdelivers h.sourceFiles h.configurations hs
  rcases step_db hs with hdb | hcommits
  · refine ⟨hvalid, hdb ▸ h.sourceFiles, hdb ▸ h.configurations, hloaded, fun r hr => ?_⟩
    have hbefore : w.runStatus r = some .succeeded := by
      rw [← hr, World.runStatus, World.runStatus, hdb]
    obtain ⟨configuration, results, houtcome⟩ := h.outcome r hbefore
    exact ⟨configuration, results, houtcome.congr (by rw [hdb]) (by rw [hdb])⟩
  · obtain ⟨hfiles, hconfigurations⟩ := hcommits.inputs
    refine ⟨hvalid, hfiles.trans h.sourceFiles, hconfigurations.trans h.configurations, hloaded,
      fun r hr => ?_⟩
    cases hcommits.stores r with
    | nothing hresults hkept =>
      obtain ⟨hbefore, hhistory⟩ := hkept hr
      obtain ⟨configuration, results, houtcome⟩ := h.outcome r hbefore
      exact ⟨configuration, results, houtcome.congr hresults hhistory⟩
    | saved hp hjob hrunning hresults hhistory =>
      subst hjob
      exact h.saved hp hrunning hresults hhistory

end

/-- Each ingestion of the execution delivers the unpaid invoice. -/
def deliversUnpaid : Action → Bool
  | .checkpoint _ _ (.ok inputs) =>
    decide (inputs.banks = [] ∧ inputs.erp = [unpaidInvoice] ∧ inputs.gateways = [])
  | _ => true

end ReconcileFlow.Worker
