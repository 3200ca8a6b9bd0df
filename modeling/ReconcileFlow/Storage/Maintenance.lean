import Mathlib.Data.Prod.Lex
import ReconcileFlow.Storage.Files
import ReconcileFlow.Support.Sorting

/-!
# Storage — Maintenance

The cleanup of abandoned uploads and the integrity verifier, and all requests that touch source
files or their objects, with what happens at the provider on its own: clients put objects by
presigned URLs, and the provider may lose one.
-/

namespace ReconcileFlow.Storage

open Support Support.Program Api
open Persistence hiding SourceFileRecord sourceFileSchema

/-- `timedelta(hours=n)`. -/
def hours (n : Nat) : Int := seconds (3600 * n)

section

variable (provider : StorageProvider) (outage : Outage)

/-- The session is closed. -/
def close : FileRequest Unit := ExceptT.lift abort

def storageList (organizationId : UUID) (cutoff : Instant) (limit : Nat) :
    FileRequest (List String) := do
  ensure (outage (.list organizationId) = .answered) .storageOperation
  ExceptT.lift (get fun store => provider.listOlderThan store.objects organizationId cutoff limit)

/-- The keys of the organization's files, and the moment when they are read. -/
def readReferenced (organizationId : UUID) : FileRequest (List String × Nat) :=
  ExceptT.lift (get fun store => (store.referencedStorageKeys organizationId, store.moment))

/-- The loop over the candidates: how many are not referenced, and how many were deleted. -/
def sweep (referenced : List String) (since : Nat) (delete : Bool) :
    List String → FileRequest (Nat × Nat)
  | [] => return (0, 0)
  | key :: candidates => do
    if referenced.contains key then
      sweep referenced since delete candidates
    else
      if delete then storageDelete provider outage key none since
      let counts ← sweep referenced since delete candidates
      return (counts.1 + 1, if delete then counts.2 + 1 else counts.2)

/-! ### Abandoned uploads -/

structure AbandonedUploadCleanup where
  retentionHours : Nat
  batchSize : Nat
  positive : 1 ≤ retentionHours ∧ 1 ≤ batchSize

structure OrphanCleanupResult where
  eligibleObjects : Nat := 0
  deletedObjects : Nat := 0
  dryRun : Bool

namespace AbandonedUploadCleanup

variable (cleanup : AbandonedUploadCleanup) (dryRun : Bool) (now : Instant)

def runOrganizations : List UUID → FileRequest OrphanCleanupResult
  | [] => return { dryRun }
  | organizationId :: organizationIds => do
    let candidates ← storageList provider outage organizationId (now - hours cleanup.retentionHours)
      cleanup.batchSize
    let (referenced, since) ← readReferenced organizationId
    close
    let (eligible, deleted) ← sweep provider outage referenced since (!dryRun) candidates
    let result ← runOrganizations organizationIds
    return { result with
      eligibleObjects := eligible + result.eligibleObjects
      deletedObjects := deleted + result.deletedObjects }

def run : FileRequest OrphanCleanupResult := do
  let organizationIds ← ExceptT.lift (get fun store => store.organizations.rows.map (·.id))
  close
  cleanup.runOrganizations provider outage dryRun now organizationIds

end AbandonedUploadCleanup

/-! ### Integrity -/

structure StorageIntegrityVerifier where
  graceHours : Nat
  batchSize : Nat
  positive : 1 ≤ graceHours ∧ 1 ≤ batchSize

structure StorageIntegrityResult where
  checkedRecords : Nat := 0
  missingObjects : Nat := 0
  mismatchedObjects : Nat := 0
  abandonedObjects : Nat := 0
  usageMismatches : Nat := 0
  deletedObjects : Nat := 0
  repairedUsageCounters : Nat := 0
  repair : Bool

/-- The first files of the organization that have an object, in order of their creation. -/
def listStoredForOrganization (store : FileStore) (organizationId : UUID) (limit : Nat) :
    List SourceFileRecord :=
  (sortOn (fun file => toLex (file.createdAt, file.id.toNat))
    ((store.filesOf organizationId).filter (·.storageKey.isSome))).take limit

/-- `UPDATE … SET storage_used_bytes`. -/
def setUsage (store : FileStore) (organizationId : UUID) (usedBytes : Nat) : FileStore :=
  match store.organizations.find organizationId with
  | some organization => { store with
      organizations := store.organizations.put { organization with storageUsedBytes := usedBytes } }
  | none => store

/-- The session is closed, after the usage has been repaired if it is to be, as it was summed up at
the moment `since`. -/
def repairUsage (organizationId : UUID) (expectedUsage since : Nat) (repairs : Bool) :
    FileRequest Unit :=
  if repairs then do
    ExceptT.lift (acquireAll [.organization organizationId])
    ExceptT.lift (update fun store => setUsage store organizationId expectedUsage)
    ExceptT.lift (finish (.repaired organizationId expectedUsage since))
  else close

namespace StorageIntegrityVerifier

variable (verifier : StorageIntegrityVerifier) (repair : Bool) (now : Instant)

/-- The comparison of one record with its object. -/
def checkRecord (file : SourceFileRecord) : FileRequest (Nat × Nat) := do
  let found ← handle (do return some (← storageStat provider outage (file.storageKey.getD "")))
    fun failure => if failure = .storageNotFound then return none else throw failure
  match found with
  | none => return (1, 0)
  | some metadata =>
    let mismatched := decide (metadata.sizeBytes ≠ file.sizeBytes) ||
      metadata.checksumSha256.any fun checksum => decide (checksum ≠ file.checksumSha256)
    return (0, if mismatched then 1 else 0)

/-- How many objects are missing, and how many do not match. -/
def checkRecords : List SourceFileRecord → FileRequest (Nat × Nat)
  | [] => return (0, 0)
  | file :: files => do
    let counts ← checkRecord provider outage file
    let others ← checkRecords files
    return (counts.1 + others.1, counts.2 + others.2)

def runOrganizations : List UUID → FileRequest StorageIntegrityResult
  | [] => return { repair }
  | organizationId :: organizationIds => do
    let found ← ExceptT.lift (get fun store => store.organizations.find organizationId)
    let organization ← expect (organizationNotFound organizationId) found
    let records ← ExceptT.lift (get fun store =>
      listStoredForOrganization store organizationId verifier.batchSize)
    let (referenced, since) ← readReferenced organizationId
    let (expectedUsage, summed) ← ExceptT.lift (get fun store =>
      (store.totalSizeForOrganization organizationId, store.moment))
    let mismatch := decide (organization.storageUsedBytes ≠ expectedUsage)
    repairUsage organizationId expectedUsage summed (mismatch && repair)
    let (missing, mismatched) ← checkRecords provider outage records
    let candidates ← storageList provider outage organizationId (now - hours verifier.graceHours)
      verifier.batchSize
    let (abandoned, deleted) ← sweep provider outage referenced since repair candidates
    let result ← runOrganizations organizationIds
    return { result with
      checkedRecords := records.length + result.checkedRecords
      missingObjects := missing + result.missingObjects
      mismatchedObjects := mismatched + result.mismatchedObjects
      abandonedObjects := abandoned + result.abandonedObjects
      usageMismatches := (if mismatch then 1 else 0) + result.usageMismatches
      deletedObjects := deleted + result.deletedObjects
      repairedUsageCounters :=
        (if mismatch && repair then 1 else 0) + result.repairedUsageCounters }

def run : FileRequest StorageIntegrityResult := do
  let organizationIds ← ExceptT.lift (get fun store => store.organizations.rows.map (·.id))
  close
  verifier.runOrganizations provider outage repair now organizationIds

end StorageIntegrityVerifier

end

/-! ### Any requests -/

inductive StorageRequest
  | upload (tenant : TenantContext) (request : UploadRequest)
  | finalize (tenant : TenantContext) (runId : UUID) (payload : DirectUploadFinalizationRequest)
  | delete (tenant : TenantContext) (fileId : UUID)
  | cleanUp (cleanup : AbandonedUploadCleanup) (dryRun : Bool) (now : Instant)
  | verify (verifier : StorageIntegrityVerifier) (repair : Bool) (now : Instant)
  /-- A client puts an object by a presigned URL. -/
  | put (key : String) (object : StorageObject)
  /-- The provider loses an object. -/
  | lose (key : String)

/-- What a request runs, if `outage` becomes of its calls of the provider. -/
def StorageRequest.program (provider : StorageProvider) :
    StorageRequest × Outage → Program FileStore FileLock FileCommit Unit
  | (.upload tenant request, outage) => serve (uploadSourceFile provider outage tenant request)
  | (.finalize tenant runId payload, outage) =>
    serve (finalizeDirectUpload provider outage tenant runId payload)
  | (.delete tenant fileId, outage) => serve (deleteSourceFile provider outage tenant fileId)
  | (.cleanUp cleanup dryRun now, outage) => serve (cleanup.run provider outage dryRun now)
  | (.verify verifier repair now, outage) => serve (verifier.run provider outage repair now)
  | (.put key object, _) => act .other (putObject key object) fun _ => ()
  | (.lose key, _) => act .other
      (fun store => { store with
        objects := Function.update store.objects key none, lost := key :: store.lost })
      fun _ => ()

end ReconcileFlow.Storage
