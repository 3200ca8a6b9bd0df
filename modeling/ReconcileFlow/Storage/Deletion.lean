import ReconcileFlow.Storage.Usage
import ReconcileFlow.Support.Alone

/-!
# Storage — Deletion

One deletion of a source file while nothing else is at work, of which any statement may fail.  The
object goes before the transaction ends, so what fails from then on leaves the record and its bytes
behind, the answer of the provider included; and an organization that stays over its quota is
refused then.
-/

namespace ReconcileFlow.Storage

open Support Support.Program Api
open Persistence hiding SourceFileRecord sourceFileSchema

/-- The key of an object: an empty one is none. -/
def SourceFileRecord.objectKey (file : SourceFileRecord) : Option String :=
  file.storageKey.filter fun key => decide (key ≠ "")

section

variable (provider : StorageProvider) (outage : Outage) (tenant : TenantContext) (fileId : UUID)
  (store : FileStore)

/-- The call of the provider, if the file has an object. -/
def deleteStored (file : SourceFileRecord) (since : Nat) : FileRequest Unit :=
  match file.objectKey with
  | some key => deleteObject provider outage tenant.organizationId key file since
  | none => pure ()

/-- The transaction of the deletion, once the file is found. -/
def deleteFound (file : SourceFileRecord) (since : Nat) :
    FileRequest (Option (SourceFileRecord × Nat)) := do
  let run ← getRunLocked file.runId tenant.organizationId
  let job ← ExceptT.lift (get fun store => store.jobForRun file.runId tenant.organizationId)
  ensure (inUse run job = false) (apiError 409 "FILE_IN_USE"
    "The file cannot be deleted after processing has started.")
  deleteStored provider outage tenant file since
  removeFile file
  applyStorageDelta tenant.organizationId (-file.sizeBytes)
  appendSecurityAuditEvent tenant "SOURCE_FILE_DELETED" [("file_id", fileId.format),
    ("run_id", file.runId.format), ("source_type", sourceTypeName file.sourceType)]
  return some (file, since)

theorem deleteSourceFile_eq : deleteSourceFile provider outage tenant fileId = (do
    let _ ← unitOfWork (fun deleted => match deleted with
        | some (file, since) => .deleted tenant.organizationId file since
        | none => .other) do
      let (found, since) ← ExceptT.lift (get fun store =>
        (store.findFile fileId tenant.organizationId, store.moment))
      match found with
      | none => return none
      | some file => deleteFound provider outage tenant fileId file since) := by
  unfold deleteSourceFile
  refine congrArg (· >>= fun _ => Pure.pure ()) (congrArg (unitOfWork _) ?_)
  refine congrArg (ExceptT.lift _ >>= ·) (funext fun (found, since) => ?_)
  cases found with
  | none => rfl
  | some file =>
    refine congrArg (getRunLocked _ _ >>= ·) (funext fun run => ?_)
    refine congrArg (ExceptT.lift _ >>= ·) (funext fun job => ?_)
    refine congrArg (ensure _ _ >>= ·) (funext fun _ => ?_)
    unfold deleteStored SourceFileRecord.objectKey
    cases file.storageKey with
    | none => rfl
    | some key =>
      by_cases hkey : key = ""
      · simp [Option.filter, hkey]
        rfl
      · simp [Option.filter, hkey]

/-! ### What the statements answer, and what is left if they fail -/

variable {provider outage tenant fileId store}
variable {s : Connection FileStore} {file : SourceFileRecord} {since : Nat}

/-- The run of the file, if it is one of the organization. -/
def runOf (store : FileStore) (organizationId : UUID) (file : SourceFileRecord) :
    Option ReconciliationRunRecord :=
  (store.runs.find file.runId).filter fun run => decide (run.organizationId = organizationId)

theorem respond_getRunLocked {run : ReconciliationRunRecord}
    (h : runOf s.view tenant.organizationId file = some run) :
    respond (getRunLocked file.runId tenant.organizationId) s = (.ok run, s) := by
  unfold getRunLocked
  simp only [respond_bind, respond_lift, alone_selectForUpdate, respond_expect]
  rw [show (s.view.runs.find file.runId).filter (fun run =>
    decide (run.organizationId = tenant.organizationId)) = some run from h]
  rfl

theorem failures_getRunLocked {run : ReconciliationRunRecord}
    (h : runOf s.view tenant.organizationId file = some run) :
    failures (getRunLocked file.runId tenant.organizationId) s =
      [s.committed, s.committed] := by
  unfold getRunLocked
  simp only [failures_bind, respond_lift, failures_lift, failures_expect, trace_selectForUpdate,
    List.append_nil]
  rw [show (s.view.runs.find file.runId).filter (fun run =>
    decide (run.organizationId = tenant.organizationId)) = some run from h]
  rfl

/-- The provider does its part, whether it answers or not. -/
def Deletable (provider : StorageProvider) (outage : Outage) (organizationId : UUID)
    (file : SourceFileRecord) : Prop :=
  ∀ key ∈ file.objectKey, provider.validKey key = true ∧
    provider.belongsToNamespace key organizationId = true ∧ outage (.delete key) ≠ .failed

/-- The provider answers. -/
def Answered (outage : Outage) (file : SourceFileRecord) : Prop :=
  ∀ key ∈ file.objectKey, outage (.delete key) = .answered

/-- What the provider has after its part. -/
def afterObject (store : FileStore) (file : SourceFileRecord) : FileStore :=
  match file.objectKey with
  | some key => { store with
      objects := Function.update store.objects key none
      history := store.history ++ [.removed key] }
  | none => store

@[simp] theorem organizations_afterObject (store : FileStore) (file : SourceFileRecord) :
    (afterObject store file).organizations = store.organizations := by
  unfold afterObject
  split <;> rfl

@[simp] theorem files_afterObject (store : FileStore) (file : SourceFileRecord) :
    (afterObject store file).files = store.files := by
  unfold afterObject
  split <;> rfl

variable (since) in
theorem respond_deleteStored (h : Deletable provider outage tenant.organizationId file)
    (hanswered : Answered outage file) :
    respond (deleteStored provider outage tenant file since) s =
      (.ok (), { s with committed := afterObject s.committed file }) := by
  unfold deleteStored afterObject
  cases hkey : file.objectKey with
  | none => rfl
  | some key =>
    obtain ⟨hvalid, hnamespace, -⟩ := h key hkey
    simp [deleteObject, storageDelete, respond_handle, respond_bind, hvalid, hnamespace,
      hanswered key hkey]

variable (since) in
/-- The object is gone, and the request does not know it. -/
theorem respond_deleteStored_unanswered
    (h : Deletable provider outage tenant.organizationId file)
    (hanswered : ¬ Answered outage file) :
    ∃ failure, failure ≠ .storageQuotaExceeded ∧
      respond (deleteStored provider outage tenant file since) s =
        (.error failure, { s with committed := afterObject s.committed file }) := by
  refine ⟨apiError 503 "STORAGE_UNAVAILABLE" "Object storage is temporarily unavailable.",
    by rintro ⟨⟩, ?_⟩
  unfold deleteStored afterObject
  cases hkey : file.objectKey with
  | none => exact absurd (fun key hm => absurd (hkey ▸ hm) (Option.not_mem_none key)) hanswered
  | some key =>
    obtain ⟨hvalid, hnamespace, hfailed⟩ := h key hkey
    have hlost : outage (.delete key) ≠ .answered := fun he => hanswered fun other hm => by
      obtain rfl := Option.some.inj (hkey.symm.trans hm)
      exact he
    simp [deleteObject, storageDelete, respond_handle, respond_bind, hvalid, hnamespace, hfailed,
      hlost]

variable (since) in
theorem failures_deleteStored (h : Deletable provider outage tenant.organizationId file) :
    failures (deleteStored provider outage tenant file since) s =
      (file.objectKey.map fun _ => s.committed).toList := by
  unfold deleteStored
  cases hkey : file.objectKey with
  | none => rfl
  | some key =>
    obtain ⟨hvalid, hnamespace, hfailed⟩ := h key hkey
    by_cases hanswered : outage (.delete key) = .answered <;>
      simp [deleteObject, storageDelete, failures_handle, failures_bind, respond_bind, hvalid,
        hnamespace, hfailed, hanswered]

variable (since) in
/-- Otherwise it does nothing. -/
theorem refused_deleteStored (h : ¬ Deletable provider outage tenant.organizationId file) :
    (∃ failure, failure ≠ .storageQuotaExceeded ∧
      respond (deleteStored provider outage tenant file since) s = (.error failure, s)) ∧
      failures (deleteStored provider outage tenant file since) s = [] := by
  unfold deleteStored
  cases hkey : file.objectKey with
  | none => exact absurd (fun key hm => absurd (hkey ▸ hm) (Option.not_mem_none key)) h
  | some key =>
    by_cases hvalid : provider.validKey key = true
    · by_cases hnamespace : provider.belongsToNamespace key tenant.organizationId = true
      · by_cases hfailed : outage (.delete key) = .failed
        · refine ⟨⟨apiError 503 "STORAGE_UNAVAILABLE"
            "Object storage is temporarily unavailable.", by rintro ⟨⟩, ?_⟩, ?_⟩ <;>
          simp [deleteObject, storageDelete, respond_handle, respond_bind, failures_handle,
            failures_bind, hvalid, hnamespace, hfailed]
        · refine absurd (fun other hm => ?_) h
          obtain rfl := Option.some.inj (hkey.symm.trans hm)
          exact ⟨hvalid, hnamespace, hfailed⟩
      · refine ⟨⟨apiError 404 "FILE_NOT_FOUND" "The requested file does not exist.", by rintro ⟨⟩,
          ?_⟩,
          ?_⟩ <;>
        simp [deleteObject, respond_handle, respond_bind, failures_handle, failures_bind, hvalid,
          hnamespace, apiError]
    · refine ⟨⟨.invalidUpload, by rintro ⟨⟩, ?_⟩, ?_⟩ <;>
      simp [deleteObject, respond_handle, respond_bind, failures_handle, failures_bind, hvalid]

def withoutRow (store : FileStore) (file : SourceFileRecord) : FileStore :=
  { store with
    files := store.files.filter fun other => decide (other.id ≠ file.id)
    history := store.history ++ ((store.files.find file.id).map .deleted).toList }

theorem respond_removeFile :
    respond (removeFile file) s = (.ok (), s.write (withoutRow · file)) := by
  simp only [removeFile, respond_bind, respond_lift, alone_acquireAll, alone_update]
  rfl

theorem failures_removeFile : failures (removeFile file) s = [s.committed, s.committed] := by
  simp [removeFile, failures_bind]

/-- What is left to the organization is within its quota. -/
def WithinQuota (organization : OrganizationRecord) (file : SourceFileRecord) : Prop :=
  organization.storageQuotaBytes.all
    (fun quota => decide (organization.storageUsedBytes - file.sizeBytes ≤ quota)) = true

instance (organization : OrganizationRecord) (file : SourceFileRecord) :
    Decidable (WithinQuota organization file) :=
  inferInstanceAs (Decidable (_ = true))

def withUsage (store : FileStore) (organization : OrganizationRecord) (file : SourceFileRecord) :
    FileStore :=
  { store with organizations := store.organizations.put { organization with
      storageUsedBytes := organization.storageUsedBytes - file.sizeBytes } }

theorem taken_off (used size : Nat) : ((used : Int) + -(size : Int)).toNat = used - size := by
  omega

section

variable {organization : OrganizationRecord}
  (hfind : s.view.organizations.find tenant.organizationId = some organization)
include hfind

theorem respond_applyStorageDelta (h : WithinQuota organization file) :
    respond (applyStorageDelta tenant.organizationId (-file.sizeBytes)) s =
      (.ok (), s.write (withUsage · organization file)) := by
  unfold WithinQuota at h
  simp only [applyStorageDelta, respond_bind, respond_lift, alone_selectForUpdate, hfind,
    respond_expect, Option.elim, taken_off, respond_ensure, h, if_true, alone_update]
  rfl

theorem failures_applyStorageDelta :
    failures (applyStorageDelta tenant.organizationId (-file.sizeBytes)) s =
      List.replicate (if WithinQuota organization file then 3 else 2) s.committed := by
  simp only [applyStorageDelta, failures_bind, respond_lift, failures_lift, alone_selectForUpdate,
    trace_selectForUpdate, hfind, respond_expect, failures_expect,
    Option.elim, taken_off, respond_ensure, failures_ensure, trace_update]
  by_cases h : WithinQuota organization file
  · rw [if_pos h, if_pos (show _ = true from h)]
    rfl
  · rw [if_neg h, if_neg (show ¬ _ = true from h)]
    rfl

theorem respond_applyStorageDelta_quota (h : ¬ WithinQuota organization file) :
    respond (applyStorageDelta tenant.organizationId (-file.sizeBytes)) s =
      (.error .storageQuotaExceeded, s) := by
  unfold WithinQuota at h
  simp only [applyStorageDelta, respond_bind, respond_lift, alone_selectForUpdate, hfind,
    respond_expect, Option.elim, taken_off, respond_ensure, h, Bool.false_eq_true, if_false]

end

def withEvent (store : FileStore) (tenant : TenantContext) (fileId : UUID)
    (file : SourceFileRecord) : FileStore :=
  { store with
    securityAuditEvents := store.securityAuditEvents ++ [⟨tenant.organizationId, tenant.userId,
      "SOURCE_FILE_DELETED", [("file_id", fileId.format), ("run_id", file.runId.format),
        ("source_type", sourceTypeName file.sourceType)]⟩] }

/-! ### The whole deletion -/

section

variable {run : ReconciliationRunRecord} (hrun : runOf store tenant.organizationId file = some run)
include hrun

variable (fileId since) in
/-- Nothing is done if the file is in use, or the provider refuses. -/
theorem deleteFound_refused
    (h : inUse run (store.jobForRun file.runId tenant.organizationId) = true ∨
      ¬ Deletable provider outage tenant.organizationId file) :
    (∃ failure, failure ≠ .storageQuotaExceeded ∧
      respond (deleteFound provider outage tenant fileId file since) ⟨store, id⟩ =
        (.error failure, ⟨store, id⟩)) ∧
      ∀ left ∈ failures (deleteFound provider outage tenant fileId file since) ⟨store, id⟩,
        left = store := by
  have hlocked := respond_getRunLocked (s := ⟨store, id⟩) hrun
  have hlocks := failures_getRunLocked (s := ⟨store, id⟩) hrun
  by_cases hused : inUse run (store.jobForRun file.runId tenant.organizationId) = false
  · have hrefused := h.resolve_left (by simp [hused])
    obtain ⟨⟨failure, hne, hrespond⟩, hfailures⟩ :=
      refused_deleteStored (s := ⟨store, id⟩) since hrefused
    refine ⟨⟨failure, hne, ?_⟩, ?_⟩
    · simp [deleteFound, respond_bind, hlocked, hused, hrespond]
    · simp [deleteFound, failures_bind, hlocked, hlocks, hused, hrespond, hfailures]
  · refine ⟨⟨apiError 409 "FILE_IN_USE"
      "The file cannot be deleted after processing has started.", by rintro ⟨⟩, ?_⟩, ?_⟩
    · simp [deleteFound, respond_bind, hlocked, hused]
    · simp [deleteFound, failures_bind, hlocked, hlocks, hused]

variable (hfree : inUse run (store.jobForRun file.runId tenant.organizationId) = false)
  (hdeletable : Deletable provider outage tenant.organizationId file)
include hfree hdeletable

variable (fileId since) in
/-- A call that is not answered ends the deletion. -/
theorem respond_deleteFound_unanswered (hanswered : ¬ Answered outage file) :
    ∃ failure, failure ≠ .storageQuotaExceeded ∧
      respond (deleteFound provider outage tenant fileId file since) ⟨store, id⟩ =
        (.error failure, ⟨afterObject store file, id⟩) := by
  have hlocked := respond_getRunLocked (s := ⟨store, id⟩) hrun
  obtain ⟨failure, hne, hstored⟩ := respond_deleteStored_unanswered (s := ⟨store, id⟩)
    since hdeletable hanswered
  refine ⟨failure, hne, ?_⟩
  simp [deleteFound, respond_bind, hlocked, hfree, hstored]

variable (fileId since) in
theorem failures_deleteFound_unanswered (hanswered : ¬ Answered outage file) :
    failures (deleteFound provider outage tenant fileId file since) ⟨store, id⟩ =
      List.replicate 3 store ++ (file.objectKey.map fun _ => store).toList := by
  have hlocked := respond_getRunLocked (s := ⟨store, id⟩) hrun
  have hlocks := failures_getRunLocked (s := ⟨store, id⟩) hrun
  obtain ⟨failure, -, hstored⟩ := respond_deleteStored_unanswered (s := ⟨store, id⟩)
    since hdeletable hanswered
  have hstores := failures_deleteStored (s := ⟨store, id⟩) since hdeletable
  simp [deleteFound, failures_bind, hlocked, hlocks, hfree, hstored, hstores, List.replicate]

variable {organization : OrganizationRecord}
  (horganization : store.organizations.find tenant.organizationId = some organization)
  (hanswered : Answered outage file)
include hanswered

/-- What is left for the last statements. -/
theorem respond_deleteFound_eq :
    respond (deleteFound provider outage tenant fileId file since) ⟨store, id⟩ =
      respond (do
        applyStorageDelta tenant.organizationId (-file.sizeBytes)
        appendSecurityAuditEvent tenant "SOURCE_FILE_DELETED" [("file_id", fileId.format),
          ("run_id", file.runId.format), ("source_type", sourceTypeName file.sourceType)]
        return some (file, since)) ⟨afterObject store file, (withoutRow · file)⟩ := by
  have hlocked := respond_getRunLocked (s := ⟨store, id⟩) hrun
  have hstored := respond_deleteStored (s := ⟨store, id⟩) since hdeletable hanswered
  simp [deleteFound, respond_bind, hlocked, hfree, hstored, respond_removeFile, Connection.write]

theorem failures_deleteFound_eq :
    failures (deleteFound provider outage tenant fileId file since) ⟨store, id⟩ =
      List.replicate 3 store ++ (file.objectKey.map fun _ => store).toList ++
        List.replicate 2 (afterObject store file) ++
          failures (do
            applyStorageDelta tenant.organizationId (-file.sizeBytes)
            appendSecurityAuditEvent tenant "SOURCE_FILE_DELETED" [("file_id", fileId.format),
              ("run_id", file.runId.format), ("source_type", sourceTypeName file.sourceType)]
            return some (file, since)) ⟨afterObject store file, (withoutRow · file)⟩ := by
  have hlocked := respond_getRunLocked (s := ⟨store, id⟩) hrun
  have hlocks := failures_getRunLocked (s := ⟨store, id⟩) hrun
  have hstored := respond_deleteStored (s := ⟨store, id⟩) since hdeletable hanswered
  have hstores := failures_deleteStored (s := ⟨store, id⟩) since hdeletable
  simp [deleteFound, failures_bind, hlocked, hlocks, hfree, hstored, hstores,
    respond_removeFile, failures_removeFile, Connection.write, List.replicate]

include horganization

theorem respond_deleteFound (h : WithinQuota organization file) :
    respond (deleteFound provider outage tenant fileId file since) ⟨store, id⟩ =
      (.ok (some (file, since)), ⟨afterObject store file, fun t =>
        withEvent (withUsage (withoutRow t file) organization file) tenant fileId file⟩) := by
  have hfind : (withoutRow (afterObject store file) file).organizations.find tenant.organizationId =
      some organization := by simpa [withoutRow] using horganization
  rw [respond_deleteFound_eq hrun hfree hdeletable hanswered, respond_bind,
    respond_applyStorageDelta (s := ⟨afterObject store file, (withoutRow · file)⟩) hfind h]
  rfl

theorem respond_deleteFound_quota (h : ¬ WithinQuota organization file) :
    respond (deleteFound provider outage tenant fileId file since) ⟨store, id⟩ =
      (.error .storageQuotaExceeded, ⟨afterObject store file, (withoutRow · file)⟩) := by
  have hfind : (withoutRow (afterObject store file) file).organizations.find tenant.organizationId =
      some organization := by simpa [withoutRow] using horganization
  rw [respond_deleteFound_eq hrun hfree hdeletable hanswered, respond_bind,
    respond_applyStorageDelta_quota (s := ⟨afterObject store file, (withoutRow · file)⟩) hfind h]

theorem failures_deleteFound (h : WithinQuota organization file) :
    failures (deleteFound provider outage tenant fileId file since) ⟨store, id⟩ =
      List.replicate 3 store ++ (file.objectKey.map fun _ => store).toList ++
        List.replicate 6 (afterObject store file) := by
  have hfind : (withoutRow (afterObject store file) file).organizations.find tenant.organizationId =
      some organization := by simpa [withoutRow] using horganization
  rw [failures_deleteFound_eq hrun hfree hdeletable hanswered, failures_bind,
    failures_applyStorageDelta (s := ⟨afterObject store file, (withoutRow · file)⟩) hfind,
    respond_applyStorageDelta (s := ⟨afterObject store file, (withoutRow · file)⟩) hfind h,
    if_pos h, List.append_assoc]
  simp [appendSecurityAuditEvent, failures_bind, List.replicate]

end

variable (provider outage) in
theorem respond_deleteSourceFile
    (hfound : store.findFile fileId tenant.organizationId = some file) :
    respond (deleteSourceFile provider outage tenant fileId) ⟨store, id⟩ =
      match respond (deleteFound provider outage tenant fileId file store.moment) ⟨store, id⟩ with
      | (.ok _, s) => (.ok (), s.commit)
      | (.error e, s) => (.error e, s.rollback) := by
  rw [deleteSourceFile_eq, respond_bind, respond_unitOfWork, respond_bind]
  simp only [respond_lift, alone_get, Connection.view_begin, hfound]
  rcases respond (deleteFound provider outage tenant fileId file store.moment) ⟨store, id⟩
    with ⟨_ | _, s⟩ <;> rfl

theorem failures_deleteSourceFile
    (hfound : store.findFile fileId tenant.organizationId = some file) :
    failures (deleteSourceFile provider outage tenant fileId) ⟨store, id⟩ =
      store :: failures (deleteFound provider outage tenant fileId file store.moment) ⟨store, id⟩ ++
        [(respond (deleteFound provider outage tenant fileId file store.moment)
          ⟨store, id⟩).2.committed] := by
  rw [deleteSourceFile_eq, failures_bind, failures_unitOfWork, failures_bind, respond_bind]
  simp only [respond_lift, alone_get, failures_lift, trace_get, Connection.view_begin, hfound,
    failures_pure]
  rw [List.append_assoc]
  refine congrArg (store :: ·) (congrArg (failures _ _ ++ ·) ?_)
  split <;> rfl

theorem respond_deleteSourceFile_missing
    (hmissing : store.findFile fileId tenant.organizationId = none) :
    respond (deleteSourceFile provider outage tenant fileId) ⟨store, id⟩ =
      (.ok (), ⟨store, id⟩) := by
  rw [deleteSourceFile_eq, respond_bind, respond_unitOfWork, respond_bind]
  simp only [respond_lift, alone_get, Connection.view_begin, hmissing]
  rfl

/-! ### All or nothing -/

section

variable (store) (organizationId : UUID) (file : SourceFileRecord)

/-- The object, the record and its bytes are gone. -/
structure Gone (after : FileStore) : Prop where
  object : ∀ key ∈ file.objectKey, after.objects key = none
  record : after.files.find file.id = none
  bytes : after.organizations.find organizationId =
    (store.organizations.find organizationId).map fun organization =>
      { organization with storageUsedBytes := organization.storageUsedBytes - file.sizeBytes }

/-- The object, the record and its bytes are as they were. -/
structure Kept (after : FileStore) : Prop where
  object : ∀ key ∈ file.objectKey, after.objects key = store.objects key
  record : after.files.find file.id = store.files.find file.id
  bytes : after.organizations.find organizationId = store.organizations.find organizationId

theorem kept_refl : Kept store organizationId file store := ⟨fun _ _ => rfl, rfl, rfl⟩

/-- There is an object to delete. -/
def ObjectPresent : Prop := ∃ key ∈ file.objectKey, (store.objects key).isSome = true

end

theorem objects_afterObject {key : String} (hkey : key ∈ file.objectKey) :
    (afterObject store file).objects key = none := by
  unfold afterObject
  rw [show file.objectKey = some key from hkey]
  exact Function.update_self ..

theorem kept_afterObject_iff {organizationId : UUID} :
    Kept store organizationId file (afterObject store file) ↔ ¬ ObjectPresent store file := by
  constructor
  · rintro h ⟨key, hkey, hsome⟩
    rw [← h.object key hkey, objects_afterObject hkey] at hsome
    cases hsome
  · intro h
    refine ⟨fun key hkey => ?_, by rw [files_afterObject], by rw [organizations_afterObject]⟩
    rw [objects_afterObject hkey]
    exact (Option.not_isSome_iff_eq_none.mp fun hsome => h ⟨key, hkey, hsome⟩).symm

/-- What a deletion leaves that goes through. -/
def afterDeletion (tenant : TenantContext) (fileId : UUID) (store : FileStore)
    (organization : OrganizationRecord) (file : SourceFileRecord) : FileStore :=
  withEvent (withUsage (withoutRow (afterObject store file) file) organization file) tenant fileId
    file

theorem gone_deleted {organizationId : UUID} {organization : OrganizationRecord}
    (horganization : store.organizations.find organizationId = some organization) :
    Gone store organizationId file
      (afterDeletion tenant fileId store organization file) := by
  refine ⟨fun key hkey => objects_afterObject hkey, ?_, ?_⟩
  · show (Table.filter _ _).find file.id = none
    rw [Table.find_filter, Option.filter_eq_none_iff]
    intro other hother
    have hkey : other.id = file.id := Table.key_of_find (S := sourceFileSchema) hother
    simp [hkey]
  · obtain rfl : organization.id = organizationId := Table.key_of_find horganization
    show ((afterObject store file).organizations.put _).find organization.id = _
    rw [organizations_afterObject, find_put_usage horganization, if_pos rfl, horganization]
    rfl

theorem find_of_findFile {organizationId : UUID}
    (hfound : store.findFile fileId organizationId = some file) :
    store.files.find file.id = some file := by
  obtain ⟨hfile, -⟩ := Option.filter_eq_some_iff.mp hfound
  rwa [show file.id = fileId from Table.key_of_find (S := sourceFileSchema) hfile]

theorem not_gone {organizationId : UUID}
    (hfound : store.findFile fileId organizationId = some file) :
    ¬ Gone store organizationId file (afterObject store file) := by
  intro h
  have hrecord := h.record
  rw [files_afterObject, find_of_findFile hfound] at hrecord
  cases hrecord

/-! ### When a deletion is all or nothing -/

variable (provider outage tenant fileId store)

/-- The file is not in use, and the provider does its part. -/
structure Permitted (file : SourceFileRecord) : Prop where
  found : store.findFile fileId tenant.organizationId = some file
  free : ∃ run, runOf store tenant.organizationId file = some run ∧
    inUse run (store.jobForRun file.runId tenant.organizationId) = false
  deletable : Deletable provider outage tenant.organizationId file

/-- What is left if statement `n` fails, the first being statement 0; none does if there are no more
than `n`. -/
def leftAfter (n : ℕ) : FileStore :=
  (failures (deleteSourceFile provider outage tenant fileId) ⟨store, id⟩)[n]?.getD
    (respond (deleteSourceFile provider outage tenant fileId) ⟨store, id⟩).2.committed

/-- It is what a run of the system leaves in which nothing else is at work. -/
theorem exists_exec_leftAfter (n : ℕ) : ∃ actions w',
    exec (ReadCommitted.step (StorageRequest.program provider)) Always actions
      { state := store } = some w' ∧
    w'.state = leftAfter provider outage tenant fileId store n := by
  have hcode : StorageRequest.program provider (.delete tenant fileId, outage) =
      serve (deleteSourceFile provider outage tenant fileId) := rfl
  have hfree : ReadCommitted.Unhindered 0
      ({ state := store } : ReadCommitted.World FileStore FileLock FileCommit) := fun _ => .inl rfl
  unfold leftAfter
  cases hleft : (failures (deleteSourceFile provider outage tenant fileId) ⟨store, id⟩)[n]? with
  | none =>
    obtain ⟨_, w', hexec, -, hstate⟩ := ReadCommitted.exec_serve rfl hfree hcode
    exact ⟨_, w', hexec, hstate⟩
  | some left =>
    obtain ⟨_, w', hexec, hstate⟩ := ReadCommitted.exec_serve_crash rfl hfree hcode hleft
    exact ⟨_, w', hexec, hstate⟩

/-- The file is deleted or not, as a whole, and never refused for the quota. -/
structure AllOrNothing (n : ℕ) : Prop where
  whole : ∀ file, store.findFile fileId tenant.organizationId = some file →
    Gone store tenant.organizationId file (leftAfter provider outage tenant fileId store n) ∨
      Kept store tenant.organizationId file (leftAfter provider outage tenant fileId store n)
  unrefused : (respond (deleteSourceFile provider outage tenant fileId) ⟨store, id⟩).1 ≠
    .error .storageQuotaExceeded

variable {provider outage tenant fileId store}

theorem exists_run (hfound : store.findFile fileId tenant.organizationId = some file) :
    ∃ run, runOf store tenant.organizationId file = some run := by
  obtain ⟨-, hbelongs⟩ := Option.filter_eq_some_iff.mp hfound
  obtain ⟨run, hrun, horganization⟩ := (Option.any_eq_true _ _).mp hbelongs
  exact ⟨run, Option.filter_eq_some_iff.mpr ⟨hrun, horganization⟩⟩

theorem getD_replicate {α : Type} (a b n : ℕ) (x y z : α) :
    (List.replicate a x ++ List.replicate b y)[n]?.getD z =
      if n < a then x else if n < a + b then y else z := by
  simp only [List.getElem?_append, List.length_replicate, List.getElem?_replicate]
  by_cases ha : n < a
  · simp [ha]
  · have hiff : n - a < b ↔ n < a + b := by omega
    by_cases hb : n < a + b <;> simp [ha, hb, hiff]

/-- Nothing is left undone by a deletion that does nothing. -/
theorem leftAfter_of_refused {run : ReconciliationRunRecord}
    (hfound : store.findFile fileId tenant.organizationId = some file)
    (hrun : runOf store tenant.organizationId file = some run)
    (h : inUse run (store.jobForRun file.runId tenant.organizationId) = true ∨
      ¬ Deletable provider outage tenant.organizationId file) (n : ℕ) :
    leftAfter provider outage tenant fileId store n = store ∧
      (respond (deleteSourceFile provider outage tenant fileId) ⟨store, id⟩).1 ≠
        .error .storageQuotaExceeded := by
  obtain ⟨⟨failure, hne, hrespond⟩, hfailures⟩ :=
    deleteFound_refused fileId store.moment hrun h
  have hresponse := respond_deleteSourceFile provider outage hfound
  rw [hrespond] at hresponse
  refine ⟨?_, ?_⟩
  · unfold leftAfter
    rw [failures_deleteSourceFile hfound, hresponse, hrespond]
    cases hleft : (store :: failures (deleteFound provider outage tenant fileId file store.moment)
      ⟨store, id⟩ ++ [store])[n]? with
    | none => rfl
    | some left =>
      have hm := List.mem_of_getElem? hleft
      rcases List.mem_append.mp hm with hm | hm
      · rcases List.mem_cons.mp hm with rfl | hm
        · rfl
        · exact hfailures left hm
      · exact List.mem_singleton.mp hm
  · rw [hresponse]
    exact fun he => hne (Except.error.inj he)

theorem length_objectKey (h : ObjectPresent store file) : file.objectKey.toList.length = 1 := by
  obtain ⟨key, hkey, -⟩ := h
  rw [show file.objectKey = some key from hkey]
  rfl

section

variable {run : ReconciliationRunRecord} {organization : OrganizationRecord}
  (hfound : store.findFile fileId tenant.organizationId = some file)
  (hrun : runOf store tenant.organizationId file = some run)
  (hfree : inUse run (store.jobForRun file.runId tenant.organizationId) = false)
  (hdeletable : Deletable provider outage tenant.organizationId file)
include hfound hrun hfree hdeletable

/-- What is left if the call of the provider is not answered. -/
theorem leftAfter_unanswered (hanswered : ¬ Answered outage file) (n : ℕ) :
    (leftAfter provider outage tenant fileId store n =
      if n < 4 + file.objectKey.toList.length then store else afterObject store file) ∧
      (respond (deleteSourceFile provider outage tenant fileId) ⟨store, id⟩).1 ≠
        .error .storageQuotaExceeded := by
  obtain ⟨failure, hne, hrespond⟩ :=
    respond_deleteFound_unanswered fileId store.moment hrun hfree hdeletable hanswered
  have hresponse := respond_deleteSourceFile provider outage hfound
  rw [hrespond] at hresponse
  refine ⟨?_, ?_⟩
  · unfold leftAfter
    rw [failures_deleteSourceFile hfound, hresponse, hrespond,
      failures_deleteFound_unanswered fileId store.moment hrun hfree hdeletable hanswered]
    have hleft := getD_replicate (4 + file.objectKey.toList.length) 1 n store
      (afterObject store file) (afterObject store file)
    rw [ite_self] at hleft
    rw [← hleft]
    cases file.objectKey <;> rfl
  · rw [hresponse]
    exact fun he => hne (Except.error.inj he)

/-- Where the provider does not answer, the object is lost to the file unless a statement fails
before. -/
theorem allOrNothing_unanswered_iff (hanswered : ¬ Answered outage file) (n : ℕ) :
    AllOrNothing provider outage tenant fileId store n ↔ (ObjectPresent store file → n < 5) := by
  obtain ⟨hleft, hunrefused⟩ :=
    leftAfter_unanswered hfound hrun hfree hdeletable hanswered n
  constructor
  · intro hwhole hobject
    by_contra hn
    have hcount := length_objectKey hobject
    rw [if_neg (by omega)] at hleft
    rcases hleft ▸ hwhole.whole file hfound with hgone | hkept
    · exact not_gone hfound hgone
    · exact kept_afterObject_iff.mp hkept hobject
  · intro hn
    refine ⟨fun other hother => ?_, hunrefused⟩
    obtain rfl : other = file := Option.some.inj (hother.symm.trans hfound)
    rw [hleft]
    split
    · exact .inr (kept_refl store _ _)
    · refine .inr (kept_afterObject_iff.mpr fun hobject => ?_)
      have hcount := length_objectKey hobject
      have hn := hn hobject
      omega

variable (horganization : store.organizations.find tenant.organizationId = some organization)
  (hanswered : Answered outage file)
include horganization hanswered

theorem respond_within (h : WithinQuota organization file) :
    respond (deleteSourceFile provider outage tenant fileId) ⟨store, id⟩ =
      (.ok (), ⟨afterDeletion tenant fileId store organization file, id⟩) := by
  rw [respond_deleteSourceFile provider outage hfound,
    respond_deleteFound hrun hfree hdeletable horganization hanswered h]
  rfl

theorem respond_exceeding (h : ¬ WithinQuota organization file) :
    respond (deleteSourceFile provider outage tenant fileId) ⟨store, id⟩ =
      (.error .storageQuotaExceeded, ⟨afterObject store file, id⟩) := by
  rw [respond_deleteSourceFile provider outage hfound,
    respond_deleteFound_quota hrun hfree hdeletable horganization hanswered h]
  rfl

/-- The statements before the object goes leave all as it was; those after it, until the commit has
been made, leave the record and its bytes. -/
theorem leftAfter_within (h : WithinQuota organization file) (n : ℕ) :
    leftAfter provider outage tenant fileId store n =
      if n < 4 + file.objectKey.toList.length then store
      else if n < 4 + file.objectKey.toList.length + 7 then afterObject store file
      else afterDeletion tenant fileId store organization file := by
  unfold leftAfter
  rw [respond_within hfound hrun hfree hdeletable horganization hanswered h,
    failures_deleteSourceFile hfound,
    respond_deleteFound hrun hfree hdeletable horganization hanswered h,
    failures_deleteFound hrun hfree hdeletable horganization hanswered h, ← getD_replicate]
  cases file.objectKey <;> rfl

/-- Where the deletion is permitted, answered and within the quota, all depends on the statement that
fails. -/
theorem allOrNothing_within_iff (h : WithinQuota organization file) (n : ℕ) :
    AllOrNothing provider outage tenant fileId store n ↔
      (ObjectPresent store file → n < 5 ∨ 12 ≤ n) := by
  have hleft := leftAfter_within hfound hrun hfree hdeletable horganization hanswered h n
  constructor
  · intro hwhole hobject
    by_contra hn
    have hcount := length_objectKey hobject
    rw [if_neg (by omega), if_pos (by omega)] at hleft
    rcases hleft ▸ hwhole.whole file hfound with hgone | hkept
    · exact not_gone hfound hgone
    · exact kept_afterObject_iff.mp hkept hobject
  · intro hn
    refine ⟨fun other hother => ?_, ?_⟩
    · obtain rfl : other = file := Option.some.inj (hother.symm.trans hfound)
      rw [hleft]
      split
      · exact .inr (kept_refl store _ _)
      · split
        · refine .inr (kept_afterObject_iff.mpr fun hobject => ?_)
          have hcount := length_objectKey hobject
          have hn := hn hobject
          omega
        · exact .inl (gone_deleted horganization)
    · rw [respond_within hfound hrun hfree hdeletable horganization hanswered h]
      rintro ⟨⟩

end

/-- **When a deletion is all or nothing**, and is not refused for the quota: if and only if, where
the provider answers, what is left of the usage is within the quota, and, where there is an object,
either a statement fails before the provider has deleted it, or the provider answers and no
statement fails after that, up to the commit. -/
theorem allOrNothing_iff {organization : OrganizationRecord}
    (horganization : store.organizations.find tenant.organizationId = some organization) (n : ℕ) :
    AllOrNothing provider outage tenant fileId store n ↔
      ∀ file, Permitted provider outage tenant fileId store file →
        (Answered outage file → WithinQuota organization file) ∧
        (ObjectPresent store file → n < 5 ∨ Answered outage file ∧ 12 ≤ n) := by
  cases hfound : store.findFile fileId tenant.organizationId with
  | none =>
    refine iff_of_true ⟨fun file hfile => ?_, ?_⟩ fun file hpermitted => ?_
    · rw [hfound] at hfile
      cases hfile
    · rw [respond_deleteSourceFile_missing hfound]
      nofun
    · cases hfound.symm.trans hpermitted.found
  | some file =>
    have honly (other : SourceFileRecord)
        (hother : store.findFile fileId tenant.organizationId = some other) : other = file :=
      Option.some.inj (hother.symm.trans hfound)
    obtain ⟨run, hrun⟩ := exists_run hfound
    by_cases hpermitted : Permitted provider outage tenant fileId store file
    · have hdeletable := hpermitted.deletable
      obtain ⟨run', hrun', hfree⟩ := hpermitted.free
      obtain rfl : run' = run := Option.some.inj (hrun'.symm.trans hrun)
      suffices hone : AllOrNothing provider outage tenant fileId store n ↔
          (Answered outage file → WithinQuota organization file) ∧
            (ObjectPresent store file → n < 5 ∨ Answered outage file ∧ 12 ≤ n) by
        rw [hone]
        refine ⟨fun h other hother => ?_, fun h => h file hpermitted⟩
        obtain rfl := honly other hother.found
        exact h
      by_cases hanswered : Answered outage file
      · by_cases hquota : WithinQuota organization file
        · rw [allOrNothing_within_iff hfound hrun hfree hdeletable horganization hanswered hquota]
          simp [hanswered, hquota]
        · have hresponse :=
            respond_exceeding hfound hrun hfree hdeletable horganization hanswered hquota
          exact iff_of_false (fun h => h.unrefused (by rw [hresponse]))
            fun h => hquota (h.1 hanswered)
      · rw [allOrNothing_unanswered_iff hfound hrun hfree hdeletable hanswered]
        simp [hanswered]
    · have hrefused : inUse run (store.jobForRun file.runId tenant.organizationId) = true ∨
          ¬ Deletable provider outage tenant.organizationId file := by
        by_contra hnot
        rw [not_or, Bool.not_eq_true, not_not] at hnot
        exact hpermitted ⟨hfound, ⟨run, hrun, hnot.1⟩, hnot.2⟩
      obtain ⟨hleft, hunrefused⟩ := leftAfter_of_refused hfound hrun hrefused n
      refine iff_of_true ⟨fun other hother => ?_, hunrefused⟩ fun other hother => ?_
      · rw [hleft]
        exact .inr (kept_refl store _ _)
      · obtain rfl := honly other hother.found
        exact absurd hother hpermitted

end

/-- An organization whose run has a file of 3 bytes. -/
def oneFile (quotaBytes usedBytes : Nat) : FileStore where
  organizations := Table.empty.add {
    id := 1, slug := "first", storageQuotaBytes := some quotaBytes, storageUsedBytes := usedBytes }
  runs := Table.empty.add { id := 1, organizationId := 1, createdAt := 0 }
  jobs := .empty
  files := Table.empty.add {
    id := 1, runId := 1, sourceType := .bankTransactions, originalFilename := "file.csv"
    checksumSha256 := "", sizeBytes := 3, storageKey := some "a", createdAt := 0 }
  objects key := if key = "a" then some (object 3) else none

theorem allOrNothing_oneFile :
    AllOrNothing shelf (fun _ => .answered) member 1 (oneFile 10 3) 12 := by
  have horganization : (oneFile 10 3).organizations.find member.organizationId = some {
    id := 1, slug := "first", storageQuotaBytes := some 10, storageUsedBytes := 3 } := rfl
  refine (allOrNothing_iff horganization 12).mpr fun file _ =>
    ⟨fun _ => ?_, fun _ => .inr ⟨fun _ _ => rfl, le_rfl⟩⟩
  simp only [WithinQuota, Option.all_some, decide_eq_true_eq]
  omega

/-- An organization that is over its quota cannot free space: the object of its file is deleted, and
then the deletion is refused. -/
theorem deletion_refused_exceeding :
    ¬ AllOrNothing shelf (fun _ => .answered) member 1 (oneFile 10 20) 12 ∧
      (leftAfter shelf (fun _ => .answered) member 1 (oneFile 10 20) 12).objects "a" = none ∧
      ((leftAfter shelf (fun _ => .answered) member 1 (oneFile 10 20) 12).files.find 1).isSome =
        true := by
  have hrefused : (respond (deleteSourceFile shelf (fun _ => .answered) member 1)
      ⟨oneFile 10 20, id⟩).1 = .error .storageQuotaExceeded := rfl
  exact ⟨fun h => h.unrefused hrefused, rfl, rfl⟩

end ReconcileFlow.Storage
