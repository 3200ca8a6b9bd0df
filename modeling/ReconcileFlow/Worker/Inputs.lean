import ReconcileFlow.Api.Files
import ReconcileFlow.Worker.Commits

/-!
# Worker — Inputs

A job that is queued or at work has its inputs: the run has a configuration and a file of both
required types (`inputs_present`).  Beside the workers and the queue's users stand those who upload,
finalize and delete files, and the retention cleanup (`Site`).

Execution checks the inputs and a deletion checks that nobody needs them.  A manual retry checks
nothing: it relies on the run having FAILED, and a run leaves PENDING with its inputs only if it is
started while its job is open.  An attempt whose job has FAILED under it can still start the run
(`startsBlind`), after its files have gone.
-/

namespace ReconcileFlow.Worker

open Support Support.Transaction Tenancy
open Persistence hiding SourceFileRecord sourceFileSchema
open Storage (SourceFileRecord StoredUpload sourceFileSchema)

/-! ### The site -/

/-- The system of the workers, and the rows of the source files. -/
structure Site where
  world : World
  files : Table sourceFileSchema

/-- A step of the workers and the queue's users, or a transaction on files or of the cleanup. -/
inductive SiteAction
  | system (a : Action)
  | upload (fileId runId organizationId : UUID) (sourceType : SourceType)
      (stored : Except Error (String × StoredUpload)) (charged : Except Error Unit) (now : Instant)
  | finalizeUpload (fileId runId organizationId : UUID) (sourceType : SourceType)
      (storageKey : String) (owned : Except Error Unit) (inspected : Except Error StoredUpload)
      (charged : Except Error Unit) (now : Instant)
  | deleteFile (fileId organizationId : UUID) (removed charged : Except Error Unit)
  | cleanup (cutoffs : List (BackgroundJobStatus × Instant)) (limit : Nat)

namespace Site

def database (s : Site) : TenantDatabase := { toDatabase := s.world.db, files := s.files }

/-- What a transaction leaves. -/
def after {α : Type} (s : Site) (transaction : TenantSession α) : Site :=
  let db := (atomically transaction s.database).2
  { world := { s.world with db := db.toDatabase }, files := db.files }

def step (S : System) (s : Site) : SiteAction → Option Site
  | .system a => (S.step s.world a).map fun w => { s with world := w }
  | .upload fileId runId organizationId sourceType stored charged now =>
    some (s.after (Api.uploadSourceFile fileId runId organizationId sourceType stored charged now))
  | .finalizeUpload fileId runId organizationId sourceType storageKey owned inspected charged now =>
    some (s.after (Api.finalizeDirectUpload fileId runId organizationId sourceType storageKey owned
      inspected charged now))
  | .deleteFile fileId organizationId removed charged =>
    some (s.after (Api.deleteSourceFile fileId organizationId removed charged))
  | .cleanup cutoffs limit =>
    some (s.after (onDatabase (BackgroundJobRepository.deleteExpiredTerminal cutoffs limit)))

/-! ### The inputs of a run -/

def HasFile (s : Site) (runId : UUID) (sourceType : SourceType) : Prop :=
  ∃ file ∈ s.files.rows, file.runId = runId ∧ file.sourceType = sourceType

instance (s : Site) (runId : UUID) (sourceType : SourceType) :
    Decidable (s.HasFile runId sourceType) :=
  inferInstanceAs (Decidable (∃ file ∈ s.files.rows, _))

structure HasInputs (s : Site) (runId : UUID) : Prop where
  configuration : (s.world.db.configurations.find runId).isSome
  bankTransactions : s.HasFile runId .bankTransactions
  erpInvoices : s.HasFile runId .erpInvoices

instance (s : Site) (runId : UUID) : Decidable (s.HasInputs runId) :=
  decidable_of_iff (_ ∧ s.HasFile runId .bankTransactions ∧ s.HasFile runId .erpInvoices)
    ⟨fun ⟨h, h', h''⟩ => ⟨h, h', h''⟩, fun h => ⟨h.1, h.2, h.3⟩⟩

/-- The worker reads the same files as the routes. -/
def Agrees (s : Site) : Prop :=
  ∀ runId sourceType, (∃ file ∈ s.world.db.sourceFiles.rows, file.runId = runId ∧
    file.sourceType = sourceType) ↔ s.HasFile runId sourceType

/-- Runs that wait for their first execution, with any files. -/
structure Initial (s : Site) : Prop where
  world : s.world.Initial
  agrees : s.Agrees

/-- An attempt moves a PENDING run to RUNNING after the run's job has FAILED, without the inputs. -/
def startsBlind (s : Site) : SiteAction → Bool
  | .system (.start n _ _) =>
    match s.world.phase n with
    | .busy job .starting =>
      decide (s.world.runStatus job.runId = some .pending) &&
        decide (¬ s.HasInputs job.runId) &&
        s.world.db.jobs.rows.any fun record =>
          decide (record.runId = job.runId) && decide (record.status = .failed)
    | _ => false
  | _ => false

end Site

/-- No attempt starts a run without its inputs after the job has FAILED. -/
def Sighted (s : Site) (a : SiteAction) : Prop := s.startsBlind a = false

instance (s : Site) (a : SiteAction) : Decidable (Sighted s a) :=
  inferInstanceAs (Decidable (_ = false))

/-- QUEUED, RUNNING or CANCEL_REQUESTED. -/
def isOpen : BackgroundJobStatus → Bool
  | .queued | .running | .cancelRequested => true
  | _ => false

/-! ### What a commit does to jobs and runs -/

/-- Two states of one job: it is not opened, and FAILED only from an open state. -/
structure Follows (job job' : BackgroundJobRecord) : Prop where
  same : job.SameJob job'
  opened : isOpen job'.status = true → isOpen job.status = true
  failed : job'.status = .failed → isOpen job.status = true ∨ job.status = .failed

namespace Follows

variable {job job' job'' : BackgroundJobRecord}

theorem refl : Follows job job := ⟨.refl, id, .inr⟩

theorem of_open (hsame : job.SameJob job') (h : isOpen job.status = true) : Follows job job' :=
  ⟨hsame, fun _ => h, fun _ => .inl h⟩

theorem trans (h : Follows job job') (h' : Follows job' job'') : Follows job job'' where
  same := h.same.trans h'.same
  opened ho := h.opened (h'.opened ho)
  failed hf := (h'.failed hf).elim (fun ho => .inl (h.opened ho)) h.failed

end Follows

theorem isOpen_iff {status : BackgroundJobStatus} : isOpen status = true ↔
    status = .queued ∨ status = .running ∨ status = .cancelRequested := by
  cases status <;> simp [isOpen]

theorem isOpen_of_active {status : BackgroundJobStatus} (h : status.isActive = true) :
    isOpen status = true := by
  cases status <;> first | rfl | cases h

theorem follows_swept {job : BackgroundJobRecord} {cutoff now : Instant} :
    Follows job (job.swept cutoff now) := by
  by_cases hstale : job.isStale cutoff = true
  · refine .of_open BackgroundJobRecord.sameJob_swept (isOpen_of_active ?_)
    simp only [BackgroundJobRecord.isStale, Bool.and_eq_true] at hstale
    exact hstale.1
  · rw [BackgroundJobRecord.swept, if_neg hstale]
    exact .refl

/-- Every job of `db'` is one of `db`, and follows it. -/
def JobsFollow (db db' : Database) : Prop :=
  ∀ j job', db'.jobs.find j = some job' → ∃ job, db.jobs.find j = some job ∧ Follows job job'

theorem JobsFollow.of_eq {db db' : Database} (h : db'.jobs = db.jobs) : JobsFollow db db' :=
  fun _ job' hj => ⟨job', h ▸ hj, .refl⟩

theorem JobsFollow.trans {db db' db'' : Database} (h : JobsFollow db db')
    (h' : JobsFollow db' db'') : JobsFollow db db'' := by
  intro j job'' hj
  obtain ⟨job', hj', hfollows'⟩ := h' j job'' hj
  obtain ⟨job, hj, hfollows⟩ := h j job' hj'
  exact ⟨job, hj, hfollows.trans hfollows'⟩

theorem JobsFollow.stored {db db' : Database} {old record : BackgroundJobRecord}
    (hs : JobStored db record db') (hold : db.jobs.find record.id = some old)
    (h : Follows old record) : JobsFollow db db' := by
  intro j job' hj
  rw [hs.find] at hj
  split at hj
  · next hid =>
    cases hj
    exact ⟨old, hid ▸ hold, h⟩
  · exact ⟨job', hj, .refl⟩

/-- What a commit of the system does to the jobs: they follow, one is queued for a run that has its
inputs, or one that has FAILED with its run is queued again. -/
inductive JobsMoved (db db' : Database) : Prop
  | follow : JobsFollow db db' → JobsMoved db db'
  | queued {record : BackgroundJobRecord} {run : ReconciliationRunRecord} :
      JobStored db record db' → db.runs.find record.runId = some run →
      run.organizationId = record.organizationId → (db.configurations.find record.runId).isSome →
      (∃ file ∈ db.filesOf record.runId, file.sourceType = .bankTransactions) →
      (∃ file ∈ db.filesOf record.runId, file.sourceType = .erpInvoices) → JobsMoved db db'
  | retried {old record : BackgroundJobRecord} {run : ReconciliationRunRecord} :
      (∀ k, db'.jobs.find k = if k = record.id then some record else db.jobs.find k) →
      db.jobs.find record.id = some old → old.SameJob record → old.status = .failed →
      db.runs.find old.runId = some run → run.status ≠ .pending → JobsMoved db db'

section

variable {S : System} {w : World} {a : Action} {db : Database}

theorem Commits.jobs (h : Commits S w a db) : JobsMoved w.db db := by
  cases h with
  | poll h =>
    refine .follow ?_
    obtain ⟨mid, hswept, hclaim⟩ := BackgroundWorker.runs_poll h
    have hmid : JobsFollow w.db mid := by
      intro j job' hj
      rw [hswept.find] at hj
      obtain ⟨job, hjob, rfl⟩ := Option.map_eq_some_iff.mp hj
      exact ⟨job, hjob, follows_swept⟩
    rcases hclaim with ⟨-, rfl⟩ | ⟨job, _, hjob, heligible, -, hstored⟩
    · exact hmid
    · -- a claimed job was queued
      refine hmid.trans (.stored hstored hjob (.of_open BackgroundJobRecord.sameJob_claimed ?_))
      simp only [BackgroundJobRecord.isEligible, Bool.and_eq_true, decide_eq_true_eq] at heligible
      rw [heligible.1.1.1.1]
      rfl
  | start hp h =>
    obtain ⟨run, -, ⟨-, -, rfl⟩ | ⟨-, -, rfl⟩ | ⟨-, -, hstored⟩⟩ :=
      ReconciliationJobProcessor.runs_start h
    · exact .follow (.of_eq rfl)
    · exact .follow (.of_eq rfl)
    · exact .follow (.of_eq hstored.jobs)
  | checkpoint hp h =>
    obtain ⟨old, hold, hactive, -, rfl, hstored⟩ := BackgroundWorker.runs_checkpoint h
    have hid : old.id = _ := Table.key_of_find hold
    refine .follow (.stored hstored (hid ▸ hold) (.of_open ?_ (isOpen_of_active hactive)))
    exact BackgroundJobRecord.sameJob_beaten.trans BackgroundJobRecord.sameJob_progressed
  | save hp h =>
    obtain ⟨run, -, ⟨-, -, rfl⟩ | ⟨-, -, t, mid, -, happended, hstored⟩⟩ :=
      ReconciliationJobProcessor.runs_save h
    · exact .follow (.of_eq rfl)
    · obtain ⟨_, _, -, rfl, -⟩ := happended
      exact .follow (.of_eq hstored.jobs)
  | fail hp h =>
    obtain ⟨run, -, ⟨-, rfl⟩ | ⟨-, mid, happended, hstored⟩⟩ :=
      ReconciliationJobProcessor.runs_failRun h
    · exact .follow (.of_eq rfl)
    · obtain ⟨_, _, -, rfl, -⟩ := happended
      exact .follow (.of_eq hstored.jobs)
  | finish hp h =>
    obtain ⟨old, hold, hfinished, hstored⟩ := BackgroundWorker.runs_finish h
    have hactive := (BackgroundJobStatus.active_of_allowed hfinished.allowed).1
    have hid : _ = _ := hfinished.same.id.trans (Table.key_of_find hold)
    exact .follow (.stored hstored (hid ▸ hold)
      (.of_open hfinished.same (isOpen_of_active hactive)))
  | execute h =>
    obtain ⟨run, hrun, horg, -, hconfig, -, rfl, rfl, -, -, -, hstored⟩ := Api.runs_executeRun h
    obtain ⟨hbank, herp⟩ := Api.files_of_executeRun h
    exact .queued hstored hrun horg hconfig hbank herp
  | @cancel _ _ now _ _ h =>
    obtain ⟨job, hjob, -, hstatus, rfl, hstored, -⟩ := runs_requestCancellation h
    have hsame : job.SameJob (job.cancelled now) := BackgroundJobRecord.sameJob_cancelled
    have hid : _ = _ := hsame.id.trans (Table.key_of_find hjob)
    refine .follow (.stored hstored (hid ▸ hjob) (.of_open hsame ?_))
    rcases hstatus with hs | hs <;> rw [hs] <;> rfl
  | @retry _ _ now _ _ h =>
    obtain ⟨job, run, mid, hjob, hfailed, -, -, hrun, hs, rfl, hstored, hrenewed, -⟩ :=
      runs_retryFailed h
    have hid : (job.retried now).id = _ := Table.key_of_find hjob
    refine .retried (fun k => ?_) (hid ▸ hjob)
      BackgroundJobRecord.sameJob_retried hfailed hrun (by simp [hs])
    rw [hrenewed.jobs]
    exact hstored.find k

/-- Every run stays, with its organization, and leaves PENDING only where `P` allows it. -/
def RunsMoved (P : UUID → Prop) (db db' : Database) : Prop :=
  ∀ r run, db.runs.find r = some run → ∃ run', db'.runs.find r = some run' ∧
    run'.organizationId = run.organizationId ∧
    (run'.status ≠ .pending → run.status ≠ .pending ∨ P r)

theorem RunsMoved.of_eq {P : UUID → Prop} {db db' : Database} (h : db'.runs = db.runs) :
    RunsMoved P db db' :=
  fun _ run hrun => ⟨run, h ▸ hrun, rfl, .inl⟩

theorem RunsMoved.stored {P : UUID → Prop} {db mid db' : Database}
    (run : ReconciliationRunRecord) {run' : ReconciliationRunRecord} (hs : RunStored mid run' db')
    (hmid : mid.runs = db.runs)
    (hrun : db.runs.find run'.id = some run) (horg : run'.organizationId = run.organizationId)
    (hmove : run'.status ≠ .pending → run.status ≠ .pending ∨ P run'.id) : RunsMoved P db db' := by
  intro r old hold
  rw [hs.find, hmid]
  split
  · next hr =>
    obtain rfl : run = old := Option.some.inj (hrun.symm.trans (hr ▸ hold))
    exact ⟨run', rfl, horg, hr ▸ hmove⟩
  · exact ⟨old, hold, rfl, .inl⟩

/-- The action starts the run: an attempt at its start finds it PENDING. -/
def Starts (w : World) (a : Action) (r : UUID) : Prop :=
  ∃ n now storage job, a = .start n now storage ∧ w.phase n = .busy job .starting ∧
    job.runId = r ∧ w.runStatus r = some .pending

theorem Commits.runs (h : Commits S w a db) : RunsMoved (Starts w a) w.db db := by
  cases h with
  | poll h =>
    obtain ⟨mid, hswept, ⟨-, rfl⟩ | ⟨_, _, -, -, -, hstored⟩⟩ := BackgroundWorker.runs_poll h
    · exact .of_eq hswept.runs
    · exact .of_eq (hstored.runs.trans hswept.runs)
  | start hp h =>
    obtain ⟨run, hrun, ⟨-, -, rfl⟩ | ⟨-, -, rfl⟩ | ⟨hs, -, hstored⟩⟩ :=
      ReconciliationJobProcessor.runs_start h
    · exact .of_eq rfl
    · exact .of_eq rfl
    · have hid : run.id = _ := Table.key_of_find hrun
      refine .stored run hstored rfl (hid ▸ hrun) rfl fun _ =>
        .inr ⟨_, _, _, _, rfl, hp, hid.symm, ?_⟩
      show w.runStatus run.id = _
      rw [World.runStatus, hid, hrun]
      exact congrArg some hs
  | checkpoint hp h =>
    obtain ⟨_, -, -, -, -, hstored⟩ := BackgroundWorker.runs_checkpoint h
    exact .of_eq hstored.runs
  | save hp h =>
    obtain ⟨run, hrun, ⟨-, -, rfl⟩ | ⟨hs, -, t, mid, -, happended, hstored⟩⟩ :=
      ReconciliationJobProcessor.runs_save h
    · exact .of_eq rfl
    · have hid : run.id = _ := Table.key_of_find hrun
      obtain ⟨_, _, -, rfl, -⟩ := happended
      exact .stored run hstored rfl (hid ▸ hrun) rfl fun _ => .inl (by simp [hs])
  | fail hp h =>
    obtain ⟨run, hrun, ⟨-, rfl⟩ | ⟨hs, mid, happended, hstored⟩⟩ :=
      ReconciliationJobProcessor.runs_failRun h
    · exact .of_eq rfl
    · have hid : run.id = _ := Table.key_of_find hrun
      obtain ⟨_, _, -, rfl, -⟩ := happended
      exact .stored run hstored rfl (hid ▸ hrun) rfl fun _ => .inl (by simp [hs])
  | finish hp h =>
    obtain ⟨_, -, -, hstored⟩ := BackgroundWorker.runs_finish h
    exact .of_eq hstored.runs
  | execute h =>
    obtain ⟨_, -, -, -, -, -, -, -, -, -, -, hstored⟩ := Api.runs_executeRun h
    exact .of_eq hstored.runs
  | cancel h =>
    obtain ⟨_, -, -, -, -, hstored, -⟩ := runs_requestCancellation h
    exact .of_eq hstored.runs
  | retry h =>
    obtain ⟨job, run, mid, -, -, -, -, hrun, hs, -, hstored, hrenewed, -⟩ := runs_retryFailed h
    have hid : run.id = _ := Table.key_of_find hrun
    exact .stored run hrenewed hstored.runs (hid ▸ hrun) rfl fun _ => .inl (by simp [hs])

/-- No commit of the system touches files or configurations. -/
theorem Commits.inputs (h : Commits S w a db) :
    db.sourceFiles = w.db.sourceFiles ∧ db.configurations = w.db.configurations := by
  cases h with
  | poll h =>
    obtain ⟨mid, hswept, ⟨-, rfl⟩ | ⟨_, _, -, -, -, hstored⟩⟩ := BackgroundWorker.runs_poll h
    · exact ⟨hswept.sourceFiles, hswept.configurations⟩
    · exact ⟨hstored.sourceFiles.trans hswept.sourceFiles,
        hstored.configurations.trans hswept.configurations⟩
  | start hp h =>
    obtain ⟨run, -, ⟨-, -, rfl⟩ | ⟨-, -, rfl⟩ | ⟨-, -, hstored⟩⟩ :=
      ReconciliationJobProcessor.runs_start h
    · exact ⟨rfl, rfl⟩
    · exact ⟨rfl, rfl⟩
    · exact ⟨hstored.sourceFiles, hstored.configurations⟩
  | checkpoint hp h =>
    obtain ⟨_, -, -, -, -, hstored⟩ := BackgroundWorker.runs_checkpoint h
    exact ⟨hstored.sourceFiles, hstored.configurations⟩
  | save hp h =>
    obtain ⟨run, -, ⟨-, -, rfl⟩ | ⟨-, -, t, mid, -, happended, hstored⟩⟩ :=
      ReconciliationJobProcessor.runs_save h
    · exact ⟨rfl, rfl⟩
    · obtain ⟨_, _, -, rfl, -⟩ := happended
      exact ⟨hstored.sourceFiles, hstored.configurations⟩
  | fail hp h =>
    obtain ⟨run, -, ⟨-, rfl⟩ | ⟨-, mid, happended, hstored⟩⟩ :=
      ReconciliationJobProcessor.runs_failRun h
    · exact ⟨rfl, rfl⟩
    · obtain ⟨_, _, -, rfl, -⟩ := happended
      exact ⟨hstored.sourceFiles, hstored.configurations⟩
  | finish hp h =>
    obtain ⟨_, -, -, hstored⟩ := BackgroundWorker.runs_finish h
    exact ⟨hstored.sourceFiles, hstored.configurations⟩
  | execute h =>
    obtain ⟨_, -, -, -, -, -, -, -, -, -, -, hstored⟩ := Api.runs_executeRun h
    exact ⟨hstored.sourceFiles, hstored.configurations⟩
  | cancel h =>
    obtain ⟨_, -, -, -, -, hstored, -⟩ := runs_requestCancellation h
    exact ⟨hstored.sourceFiles, hstored.configurations⟩
  | retry h =>
    obtain ⟨job, run, mid, -, -, -, -, -, -, -, hstored, hrenewed, -⟩ := runs_retryFailed h
    exact ⟨hrenewed.sourceFiles.trans hstored.sourceFiles,
      hrenewed.configurations.trans hstored.configurations⟩

end

/-! ### What every step keeps -/

/-- Open jobs, and those that have FAILED after their run was started, have their inputs. -/
structure Site.Supplied (s : Site) : Prop where
  agrees : s.Agrees
  owner : ∀ j job, s.world.db.jobs.find j = some job →
    ∃ run, s.world.db.runs.find job.runId = some run ∧ run.organizationId = job.organizationId
  inputs : ∀ j job run, s.world.db.jobs.find j = some job →
    s.world.db.runs.find job.runId = some run →
    isOpen job.status = true ∨ job.status = .failed ∧ run.status ≠ .pending →
    s.HasInputs job.runId

namespace Site

variable {s s' : Site}

theorem HasInputs.congr {r : UUID} (h : s.HasInputs r)
    (hconfig : s'.world.db.configurations = s.world.db.configurations)
    (hfiles : s'.files = s.files) : s'.HasInputs r where
  configuration := hconfig ▸ h.configuration
  bankTransactions := by
    unfold HasFile
    rw [hfiles]
    exact h.bankTransactions
  erpInvoices := by
    unfold HasFile
    rw [hfiles]
    exact h.erpInvoices

theorem Agrees.congr (h : s.Agrees)
    (hsources : s'.world.db.sourceFiles = s.world.db.sourceFiles) (hfiles : s'.files = s.files) :
    s'.Agrees := by
  unfold Agrees HasFile at h ⊢
  rw [hsources, hfiles]
  exact h

/-- A site whose runs, jobs and inputs are the same. -/
theorem Supplied.congr (h : s.Supplied) (hruns : s'.world.db.runs = s.world.db.runs)
    (hjobs : ∀ j job, s'.world.db.jobs.find j = some job → s.world.db.jobs.find j = some job)
    (hsources : s'.world.db.sourceFiles = s.world.db.sourceFiles)
    (hconfig : s'.world.db.configurations = s.world.db.configurations)
    (hfiles : s'.files = s.files) : s'.Supplied where
  agrees := h.agrees.congr hsources hfiles
  owner j job hj := by
    rw [hruns]
    exact h.owner j job (hjobs j job hj)
  inputs j job run hj hrun hc :=
    (h.inputs j job run (hjobs j job hj) (hruns ▸ hrun) hc).congr hconfig hfiles

/-! ### Steps of the system -/

section

variable {S : System} {a : Action} {w : World}

/-- A job that follows an old one has an owner, and its inputs if it needs them. -/
theorem Supplied.follows (h : s.Supplied) (hok : Sighted s (.system a))
    (hruns : RunsMoved (Starts s.world a) s.world.db w.db) {j : UUID}
    {job job' : BackgroundJobRecord} (hj : s.world.db.jobs.find j = some job)
    (hf : Follows job job') :
    (∃ run, w.db.runs.find job'.runId = some run ∧ run.organizationId = job'.organizationId) ∧
      ∀ run', w.db.runs.find job'.runId = some run' →
        isOpen job'.status = true ∨ job'.status = .failed ∧ run'.status ≠ .pending →
        s.HasInputs job'.runId := by
  obtain ⟨run, hrun, horg⟩ := h.owner j job hj
  obtain ⟨run', hrun', horg', hmove⟩ := hruns job.runId run hrun
  rw [hf.same.runId, hf.same.organizationId]
  refine ⟨⟨run', hrun', horg'.trans horg⟩, fun other hother hc => ?_⟩
  obtain rfl : run' = other := Option.some.inj (hrun'.symm.trans hother)
  have hneeds := h.inputs j job run hj hrun
  rcases hc with ho | ⟨hfailed, hne⟩
  · exact hneeds (.inl (hf.opened ho))
  · rcases hf.failed hfailed with ho | hfailed
    · exact hneeds (.inl ho)
    · rcases hmove hne with hne | ⟨n, now, storage, attempt, rfl, hp, hr, hpending⟩
      · exact hneeds (.inr ⟨hfailed, hne⟩)
      · -- the run is started after its job has failed
        by_contra hno
        have hjob : job ∈ s.world.db.jobs.rows := Table.mem_of_find hj
        have hblind : s.world.db.jobs.rows.any (fun record =>
            decide (record.runId = attempt.runId) && decide (record.status = .failed)) = true :=
          List.any_eq_true.mpr ⟨job, hjob, by simp [hr, hfailed]⟩
        simp only [Sighted, startsBlind, hp] at hok
        rw [hblind, hr] at hok
        simp [hpending, hno] at hok

theorem Supplied.system (h : s.Supplied) (hok : Sighted s (.system a))
    (hs : S.step s.world a = some w) : ({ s with world := w } : Site).Supplied := by
  rcases step_db hs with hdb | hcommits
  · refine h.congr (congrArg _ hdb) (fun j job hj => ?_) (congrArg _ hdb) (congrArg _ hdb) rfl
    exact hdb ▸ hj
  · obtain ⟨hsources, hconfig⟩ := hcommits.inputs
    have hruns := hcommits.runs
    have hagrees : ({ s with world := w } : Site).Agrees := h.agrees.congr hsources rfl
    have hall : ∀ j job', w.db.jobs.find j = some job' →
        (∃ run, w.db.runs.find job'.runId = some run ∧ run.organizationId = job'.organizationId) ∧
          ∀ run', w.db.runs.find job'.runId = some run' →
            isOpen job'.status = true ∨ job'.status = .failed ∧ run'.status ≠ .pending →
            s.HasInputs job'.runId := by
      intro j job' hj
      cases hcommits.jobs with
      | follow hfollow =>
        obtain ⟨job, hjob, hf⟩ := hfollow j job' hj
        exact h.follows hok hruns hjob hf
      | @queued record run hstored hrun horg hconfigured hbank herp =>
        rw [hstored.find] at hj
        split at hj
        · cases hj
          obtain ⟨run', hrun', horg', -⟩ := hruns _ run hrun
          refine ⟨⟨run', hrun', horg'.trans horg⟩, fun _ _ _ => ⟨hconfigured, ?_, ?_⟩⟩
          · obtain ⟨file, hfile, htype⟩ := hbank
            obtain ⟨hm, hr⟩ := List.mem_filter.mp hfile
            exact (h.agrees _ _).mp ⟨file, hm, of_decide_eq_true hr, htype⟩
          · obtain ⟨file, hfile, htype⟩ := herp
            obtain ⟨hm, hr⟩ := List.mem_filter.mp hfile
            exact (h.agrees _ _).mp ⟨file, hm, of_decide_eq_true hr, htype⟩
        · exact h.follows hok hruns hj .refl
      | @retried old record run hfind hold hsame hfailed hrun hne =>
        rw [hfind] at hj
        split at hj
        · cases hj
          obtain ⟨⟨run', hrun', horg'⟩, -⟩ := h.follows hok hruns hold .refl
          rw [hsame.runId, hsame.organizationId]
          refine ⟨⟨run', hrun', horg'⟩, fun _ _ _ => ?_⟩
          -- its run had been started, so it has kept its inputs
          exact h.inputs _ old run hold hrun (.inr ⟨hfailed, hne⟩)
        · exact h.follows hok hruns hj .refl
    exact ⟨hagrees, fun j job hj => (hall j job hj).1, fun j job run hj hrun hc =>
      ((hall j job hj).2 run hrun hc).congr hconfig rfl⟩

end

/-! ### Steps of the routes and the cleanup -/

/-- The site over the database that a transaction has left. -/
def withDatabase (s : Site) (db : TenantDatabase) : Site :=
  { world := { s.world with db := db.toDatabase }, files := db.files }

theorem after_cases {α : Type} (t : TenantSession α) :
    s.after t = s ∨ ∃ a db, Runs t s.database a db ∧ s.after t = s.withDatabase db := by
  unfold after
  cases hok : atomically t s.database with
  | mk r db =>
    cases r with
    | error e =>
      obtain rfl := (of_atomically_error hok).1
      exact .inl rfl
    | ok a => exact .inr ⟨a, db, atomically_ok.mp hok, rfl⟩

theorem Supplied.addFile (h : s.Supplied) {file : SourceFileRecord} {db : TenantDatabase}
    (hadd : Api.FileAdded s.database file db) : (s.withDatabase db).Supplied := by
  have hfiles : (s.withDatabase db).files.rows = s.files.rows ++ [file] := hadd.files
  have hsources : (s.withDatabase db).world.db.sourceFiles.rows =
      s.world.db.sourceFiles.rows ++ [⟨file.runId, file.sourceType⟩] := hadd.sourceFiles
  have hruns : (s.withDatabase db).world.db.runs = s.world.db.runs := hadd.runs
  have hjobs : (s.withDatabase db).world.db.jobs = s.world.db.jobs := hadd.jobs
  have hconfig : (s.withDatabase db).world.db.configurations = s.world.db.configurations :=
    hadd.configurations
  have hmore : ∀ {r sourceType},
      s.HasFile r sourceType → (s.withDatabase db).HasFile r sourceType := by
    rintro r sourceType ⟨other, hm, hother⟩
    exact ⟨other, hfiles ▸ List.mem_append_left _ hm, hother⟩
  refine ⟨fun r sourceType => ?_, fun j job hj => ?_, fun j job run hj hrun hc => ?_⟩
  · have hold := h.agrees r sourceType
    unfold HasFile at hold ⊢
    rw [hsources, hfiles]
    simp only [List.mem_append, List.mem_singleton, or_and_right, exists_or, exists_eq_left, hold]
  · rw [hruns]
    exact h.owner j job (hjobs ▸ hj)
  · have hinputs := h.inputs j job run (hjobs ▸ hj) (hruns ▸ hrun) hc
    exact ⟨hconfig ▸ hinputs.configuration, hmore hinputs.bankTransactions,
      hmore hinputs.erpInvoices⟩

/-- A run has one file of each type. -/
theorem file_id_eq_iff {file other : SourceFileRecord} (hfile : file ∈ s.files.rows)
    (hm : other ∈ s.files.rows) :
    other.id = file.id ↔ other.runId = file.runId ∧ other.sourceType = file.sourceType := by
  constructor
  · intro hid
    have hsame := Table.find_of_mem hm
    rw [show sourceFileSchema.key other = sourceFileSchema.key file from hid,
      Table.find_of_mem hfile] at hsame
    cases hsame
    exact ⟨rfl, rfl⟩
  · intro hclash
    rw [Table.eq_of_clash hm hfile (by simpa [sourceFileSchema] using hclash)]

/-- Files of another run, or of another type, stay. -/
theorem hasFile_removed {file : SourceFileRecord} {db : TenantDatabase}
    (hfile : file ∈ s.files.rows) (hremove : Api.FileRemoved s.database file db) {r : UUID}
    {sourceType : SourceType} : (s.withDatabase db).HasFile r sourceType ↔
      s.HasFile r sourceType ∧ ¬ (r = file.runId ∧ sourceType = file.sourceType) := by
  have hfiles : (s.withDatabase db).files.rows =
      s.files.rows.filter fun other => decide (other.id ≠ file.id) := hremove.files
  unfold HasFile
  rw [hfiles]
  constructor
  · rintro ⟨other, hm, rfl, rfl⟩
    obtain ⟨hm, hne⟩ := List.mem_filter.mp hm
    exact ⟨⟨other, hm, rfl, rfl⟩,
      fun heq => of_decide_eq_true hne ((file_id_eq_iff hfile hm).mpr heq)⟩
  · rintro ⟨⟨other, hm, rfl, rfl⟩, hne⟩
    exact ⟨other, List.mem_filter.mpr
      ⟨hm, decide_eq_true fun hid => hne ((file_id_eq_iff hfile hm).mp hid)⟩, rfl, rfl⟩

/-- The job of the run that a deletion looks at is not open, so no job of the run is. -/
theorem Supplied.not_open (h : s.Supplied) {runId j : UUID} {run : ReconciliationRunRecord}
    {job : BackgroundJobRecord} (hrun : s.world.db.runs.find runId = some run)
    (hunused : Storage.inUse run (s.world.db.jobs.rows.find? fun job =>
      decide (job.runId = runId) && decide (job.organizationId = run.organizationId)) = false)
    (hj : s.world.db.jobs.find j = some job) (hr : job.runId = runId) :
    ¬ isOpen job.status = true := by
  obtain ⟨owner, howner, hsame⟩ := h.owner j job hj
  rw [hr, hrun] at howner
  cases howner
  have hm : job ∈ s.world.db.jobs.rows := Table.mem_of_find hj
  cases hfound : s.world.db.jobs.rows.find? fun job =>
      decide (job.runId = runId) && decide (job.organizationId = run.organizationId) with
  | none =>
    have hno := List.find?_eq_none.mp hfound job hm
    simp [hr, ← hsame] at hno
  | some found =>
    have hprop := List.find?_some hfound
    simp only [Bool.and_eq_true, decide_eq_true_eq] at hprop
    have hclash : jobSchema.clash found job = true := by simp [jobSchema, hprop.1, hr]
    obtain rfl := Table.eq_of_clash (List.mem_of_find?_eq_some hfound) hm hclash
    rw [hfound, Storage.inUse, Bool.or_eq_false_iff] at hunused
    exact fun ho => of_decide_eq_false hunused.2 (isOpen_iff.mp ho)

/-- A file is removed only where no job needs it. -/
theorem Supplied.removeFile (h : s.Supplied) {file : SourceFileRecord}
    {run : ReconciliationRunRecord} {organizationId : UUID} {db : TenantDatabase}
    (hfile : file ∈ s.files.rows) (hrun : s.world.db.runs.find file.runId = some run)
    (horg : run.organizationId = organizationId)
    (hunused : Storage.inUse run (s.world.db.jobs.rows.find? fun job =>
      decide (job.runId = file.runId) && decide (job.organizationId = organizationId)) = false)
    (hremove : Api.FileRemoved s.database file db) : (s.withDatabase db).Supplied := by
  have hsources : (s.withDatabase db).world.db.sourceFiles.rows = s.world.db.sourceFiles.rows.filter
      fun other => decide (¬ (other.runId = file.runId ∧ other.sourceType = file.sourceType)) :=
    hremove.sourceFiles
  have hruns : (s.withDatabase db).world.db.runs = s.world.db.runs := hremove.runs
  have hjobs : (s.withDatabase db).world.db.jobs = s.world.db.jobs := hremove.jobs
  have hconfig : (s.withDatabase db).world.db.configurations = s.world.db.configurations :=
    hremove.configurations
  subst horg
  have hpending : run.status = .pending := by
    rw [Storage.inUse, Bool.or_eq_false_iff] at hunused
    exact not_not.mp (of_decide_eq_false hunused.1)
  refine ⟨fun r sourceType => ?_, fun j job hj => ?_, fun j job run' hj hrun' hc => ?_⟩
  · rw [hasFile_removed hfile hremove, ← h.agrees r sourceType, hsources]
    constructor
    · rintro ⟨other, hm, rfl, rfl⟩
      obtain ⟨hm, hne⟩ := List.mem_filter.mp hm
      exact ⟨⟨other, hm, rfl, rfl⟩, of_decide_eq_true hne⟩
    · rintro ⟨⟨other, hm, rfl, rfl⟩, hne⟩
      exact ⟨other, List.mem_filter.mpr ⟨hm, decide_eq_true hne⟩, rfl, rfl⟩
  · rw [hruns]
    exact h.owner j job (hjobs ▸ hj)
  · rw [hjobs] at hj
    rw [hruns] at hrun'
    have hinputs := h.inputs j job run' hj hrun' hc
    have hother : job.runId ≠ file.runId := by
      intro hr
      rcases hc with ho | ⟨-, hne⟩
      · exact h.not_open hrun hunused hj hr ho
      · rw [hr, hrun] at hrun'
        exact hne (Option.some.inj hrun' ▸ hpending)
    have hkeeps {sourceType : SourceType} (hhas : s.HasFile job.runId sourceType) :
        (s.withDatabase db).HasFile job.runId sourceType :=
      (hasFile_removed hfile hremove).mpr ⟨hhas, fun hn => hother hn.1⟩
    exact ⟨hconfig ▸ hinputs.configuration, hkeeps hinputs.bankTransactions,
      hkeeps hinputs.erpInvoices⟩

/-- **Every step keeps the jobs supplied, if no run is started blind.** -/
theorem Supplied.step {S : System} (h : s.Supplied) {a : SiteAction} (hok : Sighted s a)
    (hs : step S s a = some s') : s'.Supplied := by
  cases a with
  | system a =>
    obtain ⟨w, hw, rfl⟩ := Option.map_eq_some_iff.mp hs
    exact h.system hok hw
  | upload =>
    cases hs
    rcases after_cases (Api.uploadSourceFile _ _ _ _ _ _ _) with hsame | ⟨_, db, hruns, hafter⟩
    · rw [hsame]
      exact h
    · rw [hafter]
      exact h.addFile (Api.runs_uploadSourceFile hruns)
  | finalizeUpload =>
    cases hs
    rcases after_cases (Api.finalizeDirectUpload _ _ _ _ _ _ _ _ _) with
      hsame | ⟨_, db, hruns, hafter⟩
    · rw [hsame]
      exact h
    · rw [hafter]
      rcases Api.runs_finalizeDirectUpload hruns with rfl | hadd
      · exact h
      · exact h.addFile hadd
  | deleteFile =>
    cases hs
    rcases after_cases (Api.deleteSourceFile _ _ _ _) with hsame | ⟨_, db, hruns, hafter⟩
    · rw [hsame]
      exact h
    · rw [hafter]
      rcases Api.runs_deleteSourceFile hruns with rfl | ⟨_, _, hfile, hrun, horg, hunused, hremove⟩
      · exact h
      · exact h.removeFile hfile hrun horg hunused hremove
  | cleanup cutoffs limit =>
    cases hs
    rcases after_cases (onDatabase (BackgroundJobRepository.deleteExpiredTerminal cutoffs limit))
      with hsame | ⟨_, db, hruns, hafter⟩
    · rw [hsame]
      exact h
    · rw [hafter]
      obtain ⟨next, hdelete, rfl⟩ := Tenancy.runs_onDatabase.mp hruns
      obtain ⟨hkept, hsources, hconfig⟩ := keeps_deleteExpiredTerminal hdelete
      obtain ⟨ids, -, hfind, -⟩ := runs_deleteExpiredTerminal hdelete
      refine h.congr hkept (fun j job hj => ?_) hsources hconfig rfl
      replace hj : next.jobs.find j = some job := hj
      rw [hfind] at hj
      split at hj
      · cases hj
      · exact hj

theorem Initial.supplied (h : s.Initial) : s.Supplied := by
  have hnone : ∀ j, s.world.db.jobs.find j = none := fun j => by simp [Table.find, h.world.jobs]
  refine ⟨h.agrees, fun j job hj => ?_, fun j job run hj => ?_⟩ <;>
  · rw [hnone j] at hj
    cases hj

end Site

/-- **Open jobs have their inputs.**  In every run of the site in which no attempt starts a PENDING
run without its inputs after the job of the run has FAILED, every job that is QUEUED, RUNNING or
CANCEL_REQUESTED has the configuration and both required files of its run. -/
theorem inputs_present {S : System} {s₀ s : Site} (h₀ : s₀.Initial)
    (h : Reaches (Site.step S) Sighted s₀ s) (job : BackgroundJobRecord)
    (hm : job ∈ s.world.db.jobs.rows) (ho : isOpen job.status = true) : s.HasInputs job.runId := by
  have hsupplied : s.Supplied :=
    h.invariant (P := Site.Supplied) (fun _ _ _ ht hok hs => ht.step hok hs) h₀.supplied
  have hj : s.world.db.jobs.find job.id = some job := Table.find_of_mem hm
  obtain ⟨run, hrun, -⟩ := hsupplied.owner _ job hj
  exact hsupplied.inputs _ job run hj hrun (.inl ho)

def pendingFile (id : UUID) (sourceType : SourceType) : SourceFileRecord where
  id
  runId := 1
  sourceType
  originalFilename := "export.csv"
  checksumSha256 := ""
  sizeBytes := 10
  createdAt := 0

/-- The pending run with its two files. -/
def onePendingSite : Site where
  world := onePending
  files := ⟨[pendingFile 11 .bankTransactions, pendingFile 12 .erpInvoices], by decide⟩

theorem onePendingSite_initial : onePendingSite.Initial where
  world := onePending_initial
  agrees runId sourceType := by
    simp [Site.HasFile, onePendingSite, pendingFile, onePending]

theorem inputs_present_queued : ∃ s, Reaches (Site.step twoWorkers) Sighted onePendingSite s ∧
    ∃ job ∈ s.world.db.jobs.rows, job.status = .queued ∧ s.HasInputs job.runId := by
  have hrun : (exec (Site.step twoWorkers) Sighted [.system (.execute 1 1 7 {} 0)]
      onePendingSite).any (fun s => s.world.db.jobs.rows.any fun job =>
        decide (job.status = .queued)) = true := by decide +kernel
  obtain ⟨s, hs, hany⟩ := (Option.any_eq_true _ _).mp hrun
  obtain ⟨job, hm, hqueued⟩ := List.any_eq_true.mp hany
  have hreach := reaches_of_exec hs
  have hstatus : job.status = .queued := of_decide_eq_true hqueued
  exact ⟨s, hreach, job, hm, hstatus,
    inputs_present onePendingSite_initial hreach job hm (by rw [hstatus]; rfl)⟩

/-- Two claims are lost to crashes and the third, the last one, to a slow worker: its job has FAILED
when the ERP file is deleted, and then it starts the run. -/
def startedBlind : List SiteAction :=
  [.system (.execute 1 1 7 {} 0), .system (.poll 0 0), .system (.crash 0),
    .system (.poll 1 (seconds 400)), .system (.crash 1), .system (.restart 0),
    .system (.poll 0 (seconds 800)), .system (.restart 1), .system (.poll 1 (seconds 1200)),
    .deleteFile 12 1 (.ok ()) (.ok ()), .system (.start 0 (seconds 1201) none),
    .system (.fail 0 (seconds 1202)), .system (.retry 7 1 (seconds 1300))]

/-- A manual retry queues a job without its ERP file. -/
theorem queued_without_inputs : ∃ s, Reaches (Site.step twoWorkers) Always onePendingSite s ∧
    ∃ job ∈ s.world.db.jobs.rows, job.status = .queued ∧ ¬ s.HasInputs job.runId := by
  have hrun : (exec (Site.step twoWorkers) Always startedBlind onePendingSite).any
      (fun s => s.world.db.jobs.rows.any fun job =>
        decide (job.status = .queued ∧ ¬ s.HasInputs job.runId)) = true := by decide +kernel
  obtain ⟨s, hs, hany⟩ := (Option.any_eq_true _ _).mp hrun
  obtain ⟨job, hm, hjob⟩ := List.any_eq_true.mp hany
  exact ⟨s, reaches_of_exec hs, job, hm, of_decide_eq_true hjob⟩

end ReconcileFlow.Worker
