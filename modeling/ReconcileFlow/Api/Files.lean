import ReconcileFlow.Persistence.Effects
import ReconcileFlow.Tenancy.Database

/-!
# Api — Files

The transactions of the file routes on the rows of the database, each as a whole: uploading a source
file, finalizing a direct upload, deleting a file.  Statement by statement, with the objects and the
quota, they are in `Storage.Files`; here what storage and the quota say comes from outside, as the
error that the route makes of it.
-/

namespace ReconcileFlow.Api

open Support Support.Transaction Tenancy
open Persistence hiding SourceFileRecord sourceFileSchema
open Storage (SourceFileRecord StoredUpload)

/-- The row of a file whose object has been inspected. -/
def sourceFile (fileId runId : UUID) (sourceType : SourceType) (storageKey : String)
    (upload : StoredUpload) (now : Instant) : SourceFileRecord where
  id := fileId
  runId
  sourceType
  originalFilename := upload.originalFilename
  checksumSha256 := upload.checksumSha256
  sizeBytes := upload.sizeBytes
  contentType := some upload.contentType
  storageKey := some storageKey
  createdAt := now

/-- `upload_source_file`.  `stored` is the object that storage has saved, and `charged` what the
quota raises. -/
def uploadSourceFile (fileId runId organizationId : UUID) (sourceType : SourceType)
    (stored : Except Error (String × StoredUpload)) (charged : Except Error Unit) (now : Instant) :
    TenantSession SourceFileRecord := do
  let run ← onDatabase (ReconciliationRunRepository.get runId organizationId)
  require (run.status = .pending)
    (.api 409 "RUN_NOT_PENDING" "Files can only be uploaded to a pending reconciliation run.")
  let (storageKey, upload) ← fromExcept stored
  let file := sourceFile fileId runId sourceType storageKey upload now
  SourceFileRepository.add file
  fromExcept charged
  return file

/-- `finalize_direct_upload`.  `owned` is what the check of the namespace raises, and `inspected`
what the verification of the object against the request makes of it. -/
def finalizeDirectUpload (fileId runId organizationId : UUID) (sourceType : SourceType)
    (storageKey : String) (owned : Except Error Unit) (inspected : Except Error StoredUpload)
    (charged : Except Error Unit) (now : Instant) : TenantSession SourceFileRecord := do
  let run ← onDatabase (ReconciliationRunRepository.get runId organizationId)
  require (run.status = .pending)
    (.api 409 "RUN_NOT_PENDING" "Files can only be finalized for a pending reconciliation run.")
  fromExcept owned
  let existing ← SourceFileRepository.findByStorageKey storageKey organizationId
  match existing with
  | some file =>
    require (file.runId = runId ∧ file.sourceType = sourceType)
      (.api 409 "FILE_ALREADY_FINALIZED" "The uploaded file has already been finalized.")
    return file
  | none =>
    let upload ← fromExcept inspected
    let file := sourceFile fileId runId sourceType storageKey upload now
    SourceFileRepository.add file
    fromExcept charged
    return file

/-- `delete_source_file`.  `removed` is what the removal of the object raises. -/
def deleteSourceFile (fileId organizationId : UUID) (removed charged : Except Error Unit) :
    TenantSession Unit := do
  let found ← SourceFileRepository.find fileId organizationId
  match found with
  | none => return
  | some record =>
    let run ← onDatabase (ReconciliationRunRepository.get record.runId organizationId)
    let job ← onDatabase (BackgroundJobRepository.getForRun record.runId organizationId)
    require (Storage.inUse run job = false)
      (.api 409 "FILE_IN_USE" "The file cannot be deleted after processing has started.")
    fromExcept (if record.storageKey.any (· ≠ "") then removed else .ok ())
    SourceFileRepository.remove record
    fromExcept charged

/-! ### What the transactions did -/

section

variable {db db' : TenantDatabase}

theorem runs_onDatabase_run {runId organizationId : UUID} {run : ReconciliationRunRecord} :
    Runs (onDatabase (ReconciliationRunRepository.get runId organizationId)) db run db' ↔
      db.runs.find runId = some run ∧ run.organizationId = organizationId ∧ db = db' := by
  rw [runs_onDatabase]
  constructor
  · rintro ⟨_, hget, rfl⟩
    obtain ⟨hrun, horg, rfl⟩ := runs_get_run.mp hget
    exact ⟨hrun, horg, rfl⟩
  · rintro ⟨hrun, horg, rfl⟩
    exact ⟨_, runs_get_run.mpr ⟨hrun, horg, rfl⟩, rfl⟩

/-- The job of a run, if it is the organization's. -/
theorem runs_onDatabase_getForRun {runId organizationId : UUID} {job : Option BackgroundJobRecord} :
    Runs (onDatabase (BackgroundJobRepository.getForRun runId organizationId)) db job db' ↔
      job = (db.jobs.rows.find? fun job =>
        decide (job.runId = runId) && decide (job.organizationId = organizationId)) ∧
      db = db' := by
  simp only [runs_onDatabase, BackgroundJobRepository.getForRun, runs_bind, runs_get, runs_pure]
  constructor
  · rintro ⟨_, ⟨_, _, ⟨rfl, rfl⟩, rfl, rfl⟩, rfl⟩
    exact ⟨rfl, rfl⟩
  · rintro ⟨rfl, rfl⟩
    exact ⟨_, ⟨_, _, ⟨rfl, rfl⟩, rfl, rfl⟩, rfl⟩

/-- `db'` is `db` with one more file, in both tables. -/
structure FileAdded (db : TenantDatabase) (file : SourceFileRecord) (db' : TenantDatabase) :
    Prop where
  files : db'.files.rows = db.files.rows ++ [file]
  sourceFiles : db'.sourceFiles.rows = db.sourceFiles.rows ++ [⟨file.runId, file.sourceType⟩]
  runs : db'.runs = db.runs
  jobs : db'.jobs = db.jobs
  configurations : db'.configurations = db.configurations

theorem runs_addFile {file : SourceFileRecord} {u : Unit}
    (h : Runs (SourceFileRepository.add file) db u db') : FileAdded db file db' := by
  simp only [SourceFileRepository.add, runs_bind, runs_get, runs_require, runs_fromOption,
    runs_set] at h
  obtain ⟨_, _, ⟨rfl, rfl⟩, _, _, ⟨-, rfl⟩, files, _, ⟨hfiles, rfl⟩, sourceFiles, _,
    ⟨hsources, rfl⟩, rfl⟩ := h
  exact ⟨Table.rows_insert hfiles, Table.rows_insert hsources, rfl, rfl, rfl⟩

theorem runs_uploadSourceFile {fileId runId organizationId : UUID} {sourceType : SourceType}
    {stored : Except Error (String × StoredUpload)} {charged : Except Error Unit} {now : Instant}
    {file : SourceFileRecord}
    (h : Runs (uploadSourceFile fileId runId organizationId sourceType stored charged now) db file
      db') : FileAdded db file db' := by
  simp only [uploadSourceFile, runs_bind, runs_onDatabase_run, runs_require, runs_fromExcept,
    runs_pure] at h
  obtain ⟨_, _, ⟨-, -, rfl⟩, _, _, ⟨-, rfl⟩, _, _, ⟨-, rfl⟩, _, _, hadd, _, _, ⟨-, rfl⟩, rfl,
    rfl⟩ := h
  exact runs_addFile hadd

theorem runs_finalizeDirectUpload {fileId runId organizationId : UUID} {sourceType : SourceType}
    {storageKey : String} {owned : Except Error Unit} {inspected : Except Error StoredUpload}
    {charged : Except Error Unit} {now : Instant} {file : SourceFileRecord}
    (h : Runs (finalizeDirectUpload fileId runId organizationId sourceType storageKey owned
      inspected charged now) db file db') : db' = db ∨ FileAdded db file db' := by
  simp only [finalizeDirectUpload, SourceFileRepository.findByStorageKey, runs_bind,
    runs_onDatabase_run, runs_require, runs_fromExcept, runs_reads] at h
  obtain ⟨_, _, ⟨-, -, rfl⟩, _, _, ⟨-, rfl⟩, _, _, ⟨-, rfl⟩, _, _, ⟨rfl, rfl⟩, h⟩ := h
  split at h
  · simp only [runs_bind, runs_require, runs_pure] at h
    obtain ⟨_, _, ⟨-, rfl⟩, rfl, rfl⟩ := h
    exact .inl rfl
  · simp only [runs_bind, runs_fromExcept, runs_pure] at h
    obtain ⟨_, _, ⟨-, rfl⟩, _, _, hadd, _, _, ⟨-, rfl⟩, rfl, rfl⟩ := h
    exact .inr (runs_addFile hadd)

/-- `db'` is `db` without the file, in both tables. -/
structure FileRemoved (db : TenantDatabase) (file : SourceFileRecord) (db' : TenantDatabase) :
    Prop where
  files : db'.files.rows = db.files.rows.filter fun other => decide (other.id ≠ file.id)
  sourceFiles : db'.sourceFiles.rows = db.sourceFiles.rows.filter fun other =>
    decide (¬ (other.runId = file.runId ∧ other.sourceType = file.sourceType))
  runs : db'.runs = db.runs
  jobs : db'.jobs = db.jobs
  configurations : db'.configurations = db.configurations

/-- The deletion of a file that is there found its run pending and its job, if any, ended. -/
theorem runs_deleteSourceFile {fileId organizationId : UUID} {removed charged : Except Error Unit}
    {u : Unit} (h : Runs (deleteSourceFile fileId organizationId removed charged) db u db') :
    db' = db ∨ ∃ file run, file ∈ db.files.rows ∧ db.runs.find file.runId = some run ∧
      run.organizationId = organizationId ∧
      Storage.inUse run (db.jobs.rows.find? fun job =>
        decide (job.runId = file.runId) && decide (job.organizationId = organizationId)) = false ∧
      FileRemoved db file db' := by
  simp only [deleteSourceFile, SourceFileRepository.find, runs_bind, runs_reads] at h
  obtain ⟨found, _, ⟨hfound, rfl⟩, h⟩ := h
  split at h
  · obtain ⟨-, rfl⟩ := runs_pure.mp h
    exact .inl rfl
  · next file =>
    have hfind : (db.files.find fileId).filter (db.fileStore.belongsTo organizationId) =
        some file := hfound
    have hfile : file ∈ db.files.rows := Table.mem_of_find (Option.filter_eq_some_iff.mp hfind).1
    simp only [runs_bind, runs_onDatabase_run, runs_onDatabase_getForRun, runs_get, runs_require,
      runs_fromExcept, SourceFileRepository.remove, runs_set] at h
    obtain ⟨run, _, ⟨hrun, horg, rfl⟩, _, _, ⟨rfl, rfl⟩, _, _, ⟨hunused, rfl⟩, _, _, ⟨-, rfl⟩, _, _,
      ⟨_, _, ⟨rfl, rfl⟩, rfl⟩, -, rfl⟩ := h
    exact .inr ⟨file, run, hfile, hrun, horg, hunused, rfl, rfl, rfl, rfl, rfl⟩

end

end ReconcileFlow.Api
