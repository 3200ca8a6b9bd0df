import ReconcileFlow.Api.Memberships

/-!
# Storage — Files

Uploads, direct-upload finalizations and deletions of source files, statement by statement.  The
rows are those of the database; the objects are at a storage provider, which is no part of any
transaction.  A request comes with the tenant that the dependencies admitted, with the ids and
moments that it draws, and with what becomes of its calls of the provider (`Outage`).

The store keeps the history of its files and objects (`FileEvent`).  A request notes how long it was
when the request looked, and the labels of what it does then have the note (`FileCommit`): so what
has happened since can be told.
-/

namespace ReconcileFlow.Storage

open Support Support.Program Api
open Persistence hiding SourceFileRecord sourceFileSchema

structure SourceFileRecord where
  id : UUID
  runId : UUID
  sourceType : SourceType
  originalFilename : String
  checksumSha256 : String
  sizeBytes : Nat
  contentType : Option String := none
  storageKey : Option String := none
  createdAt : Instant
deriving DecidableEq, Repr

/-- A run has at most one file of a type. -/
def sourceFileSchema : Schema SourceFileRecord UUID where
  key := (·.id)
  clash file other := decide (file.runId = other.runId ∧ file.sourceType = other.sourceType)
  check _ := true

/-- Its id and its time are drawn by the database. -/
structure SecurityAuditEventRecord where
  organizationId : UUID
  actorUserId : UUID
  eventType : String
  details : List (String × String)
deriving DecidableEq, Repr

/-! ### Objects -/

structure StoredUpload where
  originalFilename : String
  contentType : String
  sizeBytes : Nat
  checksumSha256 : String
deriving DecidableEq, Repr

structure StorageObject where
  sizeBytes : Nat
  contentType : Option String := none
  checksumSha256 : Option String := none
  lastModified : Instant
  /-- What `inspect_materialized` makes of the contents, given a filename, unless it refuses
  them. -/
  inspect : String → Option StoredUpload

abbrev Objects := String → Option StorageObject

/-- What one provider does its own way. -/
structure StorageProvider where
  maxSizeBytes : Nat
  validKey : String → Bool
  belongsToNamespace : String → UUID → Bool
  listOlderThan : Objects → UUID → Instant → Nat → List String

/-- A call of the provider. -/
inductive StorageCall
  | save
  | stat (key : String)
  | materialize (key : String)
  | delete (key : String)
  | list (organizationId : UUID)

inductive CallOutcome
  | answered
  | failed
  /-- The call is carried out, and its answer is lost. -/
  | unanswered
deriving DecidableEq, Repr

/-- What becomes of the calls: `StorageOperationError` is raised unless they are answered. -/
abbrev Outage := StorageCall → CallOutcome

/-! ### The rows and the objects -/

/-- What happens to the files and their objects. -/
inductive FileEvent
  | recorded (file : SourceFileRecord)
  | deleted (file : SourceFileRecord)
  /-- The object of the key is removed. -/
  | removed (key : String)
deriving DecidableEq, Repr

structure FileStore where
  organizations : Table organizationSchema
  runs : Table runSchema
  jobs : Table jobSchema
  files : Table sourceFileSchema
  securityAuditEvents : List SecurityAuditEventRecord := []
  objects : Objects
  /-- The keys whose objects the provider has lost. -/
  lost : List String := []
  history : List FileEvent := []

inductive FileLock
  | run (id : UUID)
  | organization (id : UUID)
  | file (id : UUID)
  | source (runId : UUID) (sourceType : SourceType)
deriving DecidableEq

/-- What a commit, or a call of the provider, did, and the moment from which on the request has
relied on what it had read. -/
inductive FileCommit
  /-- An upload is saved under a key that was drawn for it. -/
  | saved (organizationId : UUID) (key : String)
  | uploaded (file : SourceFileRecord) (since : Nat)
  | finalized (file : SourceFileRecord) (since : Nat)
  | deleted (organizationId : UUID) (file : SourceFileRecord) (since : Nat)
  | repaired (organizationId : UUID) (usedBytes since : Nat)
  /-- An object is removed, of the file that is to be deleted or of none. -/
  | removed (key : String) (record : Option SourceFileRecord) (since : Nat)
  | other
deriving DecidableEq

/-- What is raised on the way. -/
inductive Failure
  /-- An `APIError`, or an error of a repository. -/
  | raised (error : Error)
  | storageQuotaExceeded
  /-- `EmptyUploadError`, `UploadTooLargeError`, `UnsupportedUploadError`,
  `InvalidStorageKeyError`. -/
  | invalidUpload
  | storageNotFound
  | storageOperation
deriving DecidableEq

abbrev FileRequest := ExceptT Failure (Program FileStore FileLock FileCommit)

def apiError (statusCode : Nat) (code message : String) : Failure :=
  .raised (.api statusCode code message)

/-! ### Repositories -/

namespace FileStore

variable (store : FileStore)

/-- How much has happened. -/
def moment : Nat := store.history.length

/-- The join with the runs. -/
def belongsTo (organizationId : UUID) (file : SourceFileRecord) : Bool :=
  (store.runs.find file.runId).any fun run => decide (run.organizationId = organizationId)

def filesOf (organizationId : UUID) : List SourceFileRecord :=
  store.files.rows.filter (store.belongsTo organizationId)

def findFile (fileId organizationId : UUID) : Option SourceFileRecord :=
  (store.files.find fileId).filter (store.belongsTo organizationId)

def findByStorageKey (key : String) (organizationId : UUID) : Option SourceFileRecord :=
  (store.filesOf organizationId).find? fun file => decide (file.storageKey = some key)

def referencedStorageKeys (organizationId : UUID) : List String :=
  (store.filesOf organizationId).filterMap (·.storageKey)

def totalSizeForOrganization (organizationId : UUID) : Nat :=
  ((store.filesOf organizationId).map (·.sizeBytes)).sum

def jobForRun (runId organizationId : UUID) : Option BackgroundJobRecord :=
  store.jobs.rows.find? fun job => decide (job.runId = runId ∧ job.organizationId = organizationId)

end FileStore

def getRunLocked (runId organizationId : UUID) : FileRequest ReconciliationRunRecord := do
  let found ← ExceptT.lift (selectForUpdate
    (fun store => (store.runs.find runId).filter fun run =>
      decide (run.organizationId = organizationId))
    fun run => .run run.id)
  expect (.raised (.recordNotFound ("reconciliation run " ++ runId.format ++ " was not found")))
    found

def organizationNotFound (organizationId : UUID) : Failure :=
  .raised (.recordNotFound ("organization " ++ organizationId.format ++ " was not found"))

def applyStorageDelta (organizationId : UUID) (deltaBytes : Int) : FileRequest Unit := do
  let found ← ExceptT.lift (selectForUpdate (fun store => store.organizations.find organizationId)
    fun organization => .organization organization.id)
  let record ← expect (organizationNotFound organizationId) found
  -- a negative sum becomes zero
  let updated := (record.storageUsedBytes + deltaBytes).toNat
  ensure (record.storageQuotaBytes.all (updated ≤ ·) = true) .storageQuotaExceeded
  ExceptT.lift (update fun store => { store with
    organizations := store.organizations.put { record with storageUsedBytes := updated } })

def sourceTypeName : SourceType → String
  | .bankTransactions => "BANK_TRANSACTIONS"
  | .erpInvoices => "ERP_INVOICES"
  | .gatewaySettlements => "GATEWAY_SETTLEMENTS"

def addFile (file : SourceFileRecord) : FileRequest Unit := do
  let hasSource (store : FileStore) : Bool := store.files.rows.any fun other =>
    decide (other.runId = file.runId ∧ other.sourceType = file.sourceType)
  let existing ← ExceptT.lift (get hasSource)
  ensure (existing = false) (.raised (.persistenceConflict ("run " ++ file.runId.format ++
    " already has a " ++ sourceTypeName file.sourceType ++ " source file")))
  insert (.raised integrityError) [.file file.id, .source file.runId file.sourceType]
    (fun store => (store.files.find file.id).isSome || hasSource store)
    fun store => { store with
      files := store.files.add file
      history := store.history ++ [.recorded file] }

/-- `DELETE`, which a missing row does not stop. -/
def removeFile (file : SourceFileRecord) : FileRequest Unit := do
  ExceptT.lift (acquireAll [.file file.id])
  ExceptT.lift (update fun store => { store with
    files := store.files.filter fun other => decide (other.id ≠ file.id)
    history := store.history ++ ((store.files.find file.id).map .deleted).toList })

/-- `SecurityAuditEventRepository.append`. -/
def appendSecurityAuditEvent (tenant : TenantContext) (eventType : String)
    (details : List (String × String)) : FileRequest Unit :=
  let record : SecurityAuditEventRecord :=
    ⟨tenant.organizationId, tenant.userId, eventType, details⟩
  ExceptT.lift (update fun store => { store with
    securityAuditEvents := store.securityAuditEvents ++ [record] })

/-! ### Calls of the provider -/

section

variable (provider : StorageProvider) (outage : Outage)

/-- Removes the object, for the sake of what the request had read when it was the moment `since`. -/
def storageDelete (key : String) (record : Option SourceFileRecord) (since : Nat) :
    FileRequest Unit := do
  ensure (provider.validKey key = true) .invalidUpload
  ensure (outage (.delete key) ≠ .failed) .storageOperation
  ExceptT.lift (act (.removed key record since) (fun store => { store with
    objects := Function.update store.objects key none
    history := store.history ++ [.removed key] }) fun _ => ())
  ensure (outage (.delete key) = .answered) .storageOperation

def storageStat (key : String) : FileRequest StorageObject := do
  ensure (provider.validKey key = true) .invalidUpload
  ensure (outage (.stat key) = .answered) .storageOperation
  let found ← ExceptT.lift (get fun store => store.objects key)
  expect .storageNotFound found

/-- `materialize` and `inspect_materialized`. -/
def storageInspect (key originalFilename : String) : FileRequest StoredUpload := do
  ensure (outage (.materialize key) = .answered) .storageOperation
  let found ← ExceptT.lift (get fun store => store.objects key)
  let object ← expect .storageNotFound found
  expect .invalidUpload (object.inspect originalFilename)

/-! ### Uploads -/

/-- Why `save` refuses an upload. -/
inductive UploadRefusal
  | empty
  | tooLarge
  | unsupported
deriving DecidableEq

def UploadRefusal.failure : UploadRefusal → Failure
  | .empty => apiError 422 "EMPTY_FILE" "The uploaded file is empty."
  | .tooLarge => apiError 413 "FILE_TOO_LARGE" "The uploaded file exceeds the allowed size."
  | .unsupported =>
    apiError 415 "UNSUPPORTED_FILE" "Only valid UTF-8 CSV and XLSX files are supported."

/-- An object that `save` has stored under a key of its own. -/
structure SavedUpload where
  key : String
  upload : StoredUpload
  object : StorageObject

structure UploadRequest where
  runId : UUID
  sourceType : SourceType
  fileId : UUID
  now : Instant
  content : Except UploadRefusal SavedUpload

/-- The key of the upload, once it is saved. -/
def UploadRequest.key (request : UploadRequest) : String :=
  match request.content with
  | .ok saved => saved.key
  | .error _ => ""

/-- The error with a note whether the request has an object of its own to remove, and since when. -/
def owning {α : Type} (owned : Option Nat) (request : FileRequest α) :
    ExceptT (Option Nat × Failure) (Program FileStore FileLock FileCommit) α :=
  handle request fun failure => throw (owned, failure)

def putObject (key : String) (object : StorageObject) (store : FileStore) : FileStore :=
  { store with objects := Function.update store.objects key (some object) }

/-- The upload, and the moment when it is saved. -/
def saveUpload (organizationId : UUID) (content : Except UploadRefusal SavedUpload) :
    FileRequest (SavedUpload × Nat) := do
  match content with
  | .error refusal => throw refusal.failure
  | .ok saved =>
    ensure (outage .save ≠ .failed) .storageOperation
    let since ← ExceptT.lift (act (.saved organizationId saved.key)
      (putObject saved.key saved.object) fun store => store.moment)
    ensure (outage .save = .answered) .storageOperation
    return (saved, since)

def quotaExceeded : Failure :=
  apiError 413 "STORAGE_QUOTA_EXCEEDED" "The organization storage quota has been exceeded."

/-- The object of a request that has failed is removed, if it is its own. -/
def discard (key : String) (owned : Option Nat) : FileRequest Unit :=
  match owned with
  | some since => storageDelete provider outage key none since
  | none => return

def uploadSourceFile (tenant : TenantContext) (request : UploadRequest) :
    FileRequest SourceFileRecord := do
  let block := do
    let (saved, since) ← owning none do
      let run ← getRunLocked request.runId tenant.organizationId
      ensure (run.status = .pending) (apiError 409 "RUN_NOT_PENDING"
        "Files can only be uploaded to a pending reconciliation run.")
      saveUpload outage tenant.organizationId request.content
    owning (some since) do
      let file : SourceFileRecord := {
        id := request.fileId, runId := request.runId, sourceType := request.sourceType
        originalFilename := saved.upload.originalFilename
        checksumSha256 := saved.upload.checksumSha256, sizeBytes := saved.upload.sizeBytes
        contentType := some saved.upload.contentType, storageKey := some saved.key
        createdAt := request.now }
      addFile file
      applyStorageDelta tenant.organizationId saved.upload.sizeBytes
      return (file, since)
  let stored ← handle (unitOfWork (fun stored => .uploaded stored.1 stored.2) block)
    fun (owned, failure) => do
      discard provider outage request.key owned
      throw (if failure = .storageQuotaExceeded then quotaExceeded else failure)
  return stored.1

/-! ### Direct uploads -/

structure DirectUploadFinalizationRequest where
  storageKey : String
  sourceType : SourceType
  originalFilename : String
  contentType : String
  sizeBytes : Nat
  checksumSha256 : String
  fileId : UUID
  now : Instant

def metadataMismatch : Failure :=
  apiError 422 "FILE_METADATA_MISMATCH" "The uploaded file metadata could not be verified."

def validationFailed : Failure :=
  apiError 422 "FILE_VALIDATION_FAILED" "The uploaded file failed integrity validation."

/-- The file of the run that is stored under the key already, if there is one, and the moment when
it is looked for. -/
def findFinalized (tenant : TenantContext) (runId : UUID)
    (payload : DirectUploadFinalizationRequest) :
    FileRequest (Option SourceFileRecord × Nat) := do
  let run ← getRunLocked runId tenant.organizationId
  ensure (run.status = .pending) (apiError 409 "RUN_NOT_PENDING"
    "Files can only be finalized for a pending reconciliation run.")
  ensure (provider.validKey payload.storageKey = true) .invalidUpload
  ensure (provider.belongsToNamespace payload.storageKey tenant.organizationId = true)
    (apiError 404 "FILE_NOT_FOUND" "The requested file does not exist.")
  let (existing, since) ← ExceptT.lift (get fun store =>
    (store.findByStorageKey payload.storageKey tenant.organizationId, store.moment))
  ensure (existing.all (fun file =>
      decide (file.runId = runId ∧ file.sourceType = payload.sourceType)) = true)
    (apiError 409 "FILE_ALREADY_FINALIZED" "The uploaded file has already been finalized.")
  return (existing, since)

/-- Verifies the object and records it. -/
def recordObject (tenant : TenantContext) (runId : UUID)
    (payload : DirectUploadFinalizationRequest) : FileRequest SourceFileRecord := do
  let metadata ← storageStat provider outage payload.storageKey
  ensure (metadata.sizeBytes = payload.sizeBytes ∧ metadata.sizeBytes ≤ provider.maxSizeBytes)
    metadataMismatch
  -- metadata that the provider does not report is not compared
  ensure (metadata.contentType.all (· = payload.contentType) = true) metadataMismatch
  ensure (metadata.checksumSha256.all (· = payload.checksumSha256) = true) metadataMismatch
  let inspected ← storageInspect outage payload.storageKey payload.originalFilename
  ensure (inspected.sizeBytes = payload.sizeBytes ∧ inspected.contentType = payload.contentType ∧
    inspected.checksumSha256 = payload.checksumSha256) validationFailed
  let file : SourceFileRecord := {
    id := payload.fileId, runId, sourceType := payload.sourceType
    originalFilename := inspected.originalFilename, checksumSha256 := inspected.checksumSha256
    sizeBytes := inspected.sizeBytes, contentType := some inspected.contentType
    storageKey := some payload.storageKey, createdAt := payload.now }
  addFile file
  applyStorageDelta tenant.organizationId inspected.sizeBytes
  appendSecurityAuditEvent tenant "DIRECT_UPLOAD_FINALIZED" [("run_id", runId.format),
    ("file_id", file.id.format), ("source_type", sourceTypeName file.sourceType)]
  return file

def finalizeDirectUpload (tenant : TenantContext) (runId : UUID)
    (payload : DirectUploadFinalizationRequest) : FileRequest SourceFileRecord := do
  let block := do
    let (existing, since) ← owning none (findFinalized provider tenant runId payload)
    match existing with
    | some file => return (file, FileCommit.other)
    | none =>
      let file ← owning (some since) (recordObject provider outage tenant runId payload)
      return (file, FileCommit.finalized file since)
  let response ← handle (unitOfWork (fun response => response.2) block) fun (owned, failure) => do
    match failure with
    | .storageQuotaExceeded =>
      discard provider outage payload.storageKey owned
      throw quotaExceeded
    | .raised error =>
      discard provider outage payload.storageKey owned
      throw (.raised error)
    | .invalidUpload =>
      discard provider outage payload.storageKey owned
      throw validationFailed
    | .storageNotFound =>
      -- the last two handlers leave the object where it is
      throw (apiError 404 "FILE_NOT_FOUND" "The requested file does not exist.")
    | .storageOperation =>
      throw (apiError 503 "STORAGE_UNAVAILABLE" "Object storage is temporarily unavailable.")
  return response.1

/-! ### Deletions -/

/-- `QUEUED`, `RUNNING` or `CANCEL_REQUESTED`. -/
def inUse (run : ReconciliationRunRecord) (job : Option BackgroundJobRecord) : Bool :=
  decide (run.status ≠ .pending) || job.any fun job =>
    decide (job.status = .queued ∨ job.status = .running ∨ job.status = .cancelRequested)

/-- Removes the object of the file, which was found at the moment `since`. -/
def deleteObject (organizationId : UUID) (key : String) (file : SourceFileRecord) (since : Nat) :
    FileRequest Unit :=
  handle (do
    ensure (provider.validKey key = true) .invalidUpload
    ensure (provider.belongsToNamespace key organizationId = true)
      (apiError 404 "FILE_NOT_FOUND" "The requested file does not exist.")
    storageDelete provider outage key (some file) since) fun failure =>
    throw (if failure = .storageOperation then
      apiError 503 "STORAGE_UNAVAILABLE" "Object storage is temporarily unavailable."
    else failure)

def deleteSourceFile (tenant : TenantContext) (fileId : UUID) : FileRequest Unit := do
  let _ ← unitOfWork (fun deleted => match deleted with
      | some (file, since) => .deleted tenant.organizationId file since
      | none => .other) do
    let (found, since) ← ExceptT.lift (get fun store =>
      (store.findFile fileId tenant.organizationId, store.moment))
    match found with
    | none => return none
    | some record =>
      let run ← getRunLocked record.runId tenant.organizationId
      let job ← ExceptT.lift (get fun store =>
        store.jobForRun record.runId tenant.organizationId)
      ensure (inUse run job = false) (apiError 409 "FILE_IN_USE"
        "The file cannot be deleted after processing has started.")
      -- the object goes while the transaction is still open
      match record.storageKey with
      | none => pure ()
      | some key =>
        if key ≠ "" then deleteObject provider outage tenant.organizationId key record since
      removeFile record
      applyStorageDelta tenant.organizationId (-record.sizeBytes)
      appendSecurityAuditEvent tenant "SOURCE_FILE_DELETED" [("file_id", fileId.format),
        ("run_id", record.runId.format), ("source_type", sourceTypeName record.sourceType)]
      return some (record, since)

end

end ReconcileFlow.Storage
