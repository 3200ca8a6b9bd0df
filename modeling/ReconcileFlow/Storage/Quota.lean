import Mathlib.Algebra.Order.Field.Rat
import ReconcileFlow.Storage.Usage
import ReconcileFlow.Support.Footprint

/-!
# Storage — Quota

What an organization stores, beside what it may store.  Uploads, finalizations, deletions, sweeps
and repairs interleave with requests that change the quota; whatever the order of their statements,
a counter is never above its quota, unless a repair writes one that is (`quota_respected`).  Where
the counters are right, no repair does (`usage_within_quota`).
-/

namespace ReconcileFlow.Storage

open Support Support.Program Support.ReadCommitted Api
open Persistence hiding SourceFileRecord sourceFileSchema

/-! ### The route -/

structure UpdateOrganizationStorageQuotaRequest where
  quotaBytes : Option Nat := none

structure OrganizationStorageUsageResponse where
  organizationId : UUID
  usedBytes : Nat
  quotaBytes : Option Nat
  remainingBytes : Option Nat
  utilizationPercent : Option ℚ

/-- `_storage_usage`. -/
def storageUsage (record : OrganizationRecord) : OrganizationStorageUsageResponse where
  organizationId := record.id
  usedBytes := record.storageUsedBytes
  quotaBytes := record.storageQuotaBytes
  remainingBytes := record.storageQuotaBytes.map (· - record.storageUsedBytes)
  utilizationPercent := record.storageQuotaBytes.map fun quota =>
    if quota = 0 then 100 else min 100 (record.storageUsedBytes * 100 / quota)

/-- The usage is within the quota, if there is one. -/
def isWithin (quotaBytes : Option Nat) (usedBytes : Nat) : Bool := quotaBytes.all (usedBytes ≤ ·)

def getOrganizationLocked (organizationId : UUID) : FileRequest OrganizationRecord := do
  let found ← ExceptT.lift (selectForUpdate (fun store => store.organizations.find organizationId)
    fun organization => .organization organization.id)
  expect (organizationNotFound organizationId) found

/-- `OrganizationRepository.update_storage_quota`. -/
def setStorageQuota (record : OrganizationRecord) (quotaBytes : Option Nat) :
    FileRequest OrganizationRecord := do
  ensure (isWithin quotaBytes record.storageUsedBytes = true) .storageQuotaExceeded
  ExceptT.lift (update fun store => { store with
    organizations := store.organizations.put { record with storageQuotaBytes := quotaBytes } })
  return { record with storageQuotaBytes := quotaBytes }

def quotaBelowUsage : Failure :=
  apiError 409 "STORAGE_QUOTA_BELOW_USAGE"
    "The quota cannot be lower than current storage usage."

def accessDenied : Failure :=
  apiError 403 "ORGANIZATION_ACCESS_DENIED" "Access to this organization is denied."

/-- The route, for a manager of the selected organization. -/
def updateStorageQuota (organizationId : UUID) (manager : TenantContext)
    (request : UpdateOrganizationStorageQuotaRequest) :
    FileRequest OrganizationStorageUsageResponse := do
  ensure (organizationId = manager.organizationId) accessDenied
  let block := do
    let record ← getOrganizationLocked organizationId
    setStorageQuota record request.quotaBytes
  let record ← handle (unitOfWork (fun _ => .other) block) fun failure =>
    throw (if failure = .storageQuotaExceeded then quotaBelowUsage else failure)
  return storageUsage record

inductive QuotaRequest
  | storage (request : StorageRequest × Outage)
  | quota (organizationId : UUID) (manager : TenantContext)
      (request : UpdateOrganizationStorageQuotaRequest)

def QuotaRequest.program (provider : StorageProvider) :
    QuotaRequest → Program FileStore FileLock FileCommit Unit
  | .storage request => StorageRequest.program provider request
  | .quota organizationId manager request =>
    serve (updateStorageQuota organizationId manager request)

/-! ### The contract -/

/-- No organization uses more than its quota. -/
def QuotasKept (store : FileStore) : Prop :=
  ∀ organization ∈ store.organizations.rows,
    isWithin organization.storageQuotaBytes organization.storageUsedBytes = true

instance (store : FileStore) : Decidable (QuotasKept store) :=
  inferInstanceAs (Decidable (∀ _ ∈ _, _))

/-- A repair does not write more than the quota. -/
def RepairsWithin : FileCommit → FileStore → Prop
  | .repaired organizationId usedBytes _, store =>
    (store.organizations.find organizationId).all (fun organization =>
      isWithin organization.storageQuotaBytes usedBytes) = true
  | _, _ => True

instance (store : FileStore) : ∀ label, Decidable (RepairsWithin label store)
  | .repaired .. => inferInstanceAs (Decidable (_ = _))
  | .saved .. | .uploaded .. | .finalized .. | .deleted .. | .removed .. | .other => .isTrue trivial

/-- The row of an organization, which its lock protects. -/
def SameOrganization : FileLock → FileStore → FileStore → Prop
  | .organization id, s, t => s.organizations.find id = t.organizations.find id
  | _, _, _ => True

def quotas : Contract FileStore FileLock FileCommit where
  Inv := QuotasKept
  Rely _ _ := True
  Same := SameOrganization
  Ok := RepairsWithin
  Post _ _ _ := True
  rely_refl _ := trivial
  rely_trans _ _ := trivial
  same_refl k s := by cases k <;> first | exact trivial | rfl
  same_trans {k s t u} h h' := by
    cases k with
    | organization id => exact Eq.trans h h'
    | _ => exact trivial

section

variable {L : Set FileLock} {s t u : FileStore} {label : FileCommit}
  {organization : OrganizationRecord} {pending : FileStore → FileStore}

/-- A commit that spares the organizations. -/
theorem commits_spared (ht : QuotasKept t) (h : u.organizations = t.organizations) :
    quotas.Commits label L t u where
  inv := by
    show QuotasKept u
    unfold QuotasKept
    rw [h]
    exact ht
  rely := trivial
  same k _ := by
    cases k with
    | organization id => exact congrArg (·.find id) h.symm
    | _ => exact trivial
  post := trivial

/-- A commit of one organization, whose row is locked. -/
theorem commits_put (row : OrganizationRecord) (ht : QuotasKept t)
    (hlock : .organization row.id ∈ L)
    (hwithin : isWithin row.storageQuotaBytes row.storageUsedBytes = true)
    (h : u.organizations = t.organizations.put row) : quotas.Commits label L t u where
  inv := by
    intro other hother
    rw [h] at hother
    rcases Table.mem_put hother with rfl | hother
    · exact hwithin
    · exact ht other hother
  rely := trivial
  same k hk := by
    cases k with
    | organization id =>
      have hne : id ≠ row.id := fun he => hk (he ▸ hlock)
      show t.organizations.find id = u.organizations.find id
      rw [h]
      exact (Table.find_put_of_ne (S := organizationSchema) _ hne).symm
    | _ => exact trivial
  post := trivial

/-! ### What spares the organizations -/

/-- No organization is written. -/
def Spares (pending : FileStore → FileStore) : Prop :=
  ∀ store, (pending store).organizations = store.organizations

theorem spares_id : Spares id := fun _ => rfl

abbrev LeavesUsage {α : Type} (request : FileRequest α) : Prop := Leaves quotas Spares request

theorem leaves_act {α : Type} {change : FileStore → FileStore} {f : FileStore → α}
    (h : Spares change) : LeavesUsage (ExceptT.lift (act label change f)) :=
  .act fun _ t ht _ => commits_spared ht (h t)

variable {provider : StorageProvider} {outage : Outage} {organizationId : UUID} {key : String}

theorem leaves_getRunLocked {runId : UUID} : LeavesUsage (getRunLocked runId organizationId) :=
  .bind (.selectForUpdate _ _) fun _ => .expect _ _

theorem leaves_addFile {file : SourceFileRecord} : LeavesUsage (addFile file) :=
  .bind (.get _) fun _ => .bind (.ensure _ _) fun _ => .insert fun _ hpending => hpending

theorem leaves_removeFile {file : SourceFileRecord} : LeavesUsage (removeFile file) :=
  .bind (.acquireAll _) fun _ => .update fun _ hpending => hpending

theorem leaves_storageDelete {record : Option SourceFileRecord} {since : Nat} :
    LeavesUsage (storageDelete provider outage key record since) := by
  refine .bind (.ensure _ _) fun _ => .bind (.ensure _ _) fun _ => .bind (leaves_act ?_) fun _ =>
    .ensure _ _
  exact fun _ => rfl

theorem leaves_storageStat : LeavesUsage (storageStat provider outage key) :=
  .bind (.ensure _ _) fun _ => .bind (.ensure _ _) fun _ => .bind (.get _) fun _ => .expect _ _

theorem leaves_storageInspect {originalFilename : String} :
    LeavesUsage (storageInspect outage key originalFilename) :=
  .bind (.ensure _ _) fun _ => .bind (.get _) fun _ => .bind (.expect _ _) fun _ => .expect _ _

theorem leaves_saveUpload {content : Except UploadRefusal SavedUpload} :
    LeavesUsage (saveUpload outage organizationId content) := by
  cases content with
  | error refusal => exact .throw _
  | ok saved =>
    refine .bind (.ensure _ _) fun _ => .bind (leaves_act ?_) fun _ => .bind (.ensure _ _) fun _ =>
      .pure _
    exact fun _ => rfl

theorem leaves_discard {owned : Option Nat} :
    LeavesUsage (discard provider outage key owned) := by
  cases owned with
  | none => exact .pure _
  | some since => exact leaves_storageDelete

theorem leaves_findFinalized {tenant : TenantContext} {runId : UUID}
    {payload : DirectUploadFinalizationRequest} :
    LeavesUsage (findFinalized provider tenant runId payload) :=
  .bind leaves_getRunLocked fun _ => .bind (.ensure _ _) fun _ => .bind (.ensure _ _) fun _ =>
    .bind (.ensure _ _) fun _ => .bind (.get _) fun _ => .bind (.ensure _ _) fun _ => .pure _

theorem leaves_deleteObject {file : SourceFileRecord} {since : Nat} :
    LeavesUsage (deleteObject provider outage organizationId key file since) :=
  .handle (.bind (.ensure _ _) fun _ => .bind (.ensure _ _) fun _ => leaves_storageDelete)
    fun _ => .throw _

theorem leaves_sweep {referenced : List String} {since : Nat} {delete : Bool}
    {candidates : List String} :
    LeavesUsage (sweep provider outage referenced since delete candidates) := by
  induction candidates with
  | nil => exact .pure _
  | cons key candidates ih =>
    unfold sweep
    split
    · exact ih
    · split
      · exact .bind leaves_storageDelete fun _ => .bind ih fun _ => .pure _
      · exact .bind ih fun _ => .pure _

theorem leaves_close : LeavesUsage close := .abort spares_id

theorem leaves_storageList {cutoff : Instant} {limit : Nat} :
    LeavesUsage (storageList provider outage organizationId cutoff limit) :=
  .bind (.ensure _ _) fun _ => .get _

theorem leaves_checkRecord {file : SourceFileRecord} :
    LeavesUsage (StorageIntegrityVerifier.checkRecord provider outage file) := by
  refine .bind (.handle (.bind leaves_storageStat fun _ => .pure _) fun failure => ?_)
    fun found => ?_
  · split
    · exact .pure _
    · exact .throw _
  · cases found <;> exact .pure _

theorem leaves_checkRecords {files : List SourceFileRecord} :
    LeavesUsage (StorageIntegrityVerifier.checkRecords provider outage files) := by
  induction files with
  | nil => exact .pure _
  | cons file files ih => exact .bind leaves_checkRecord fun _ => .bind ih fun _ => .pure _

/-! ### What does not -/

/-- What charges an organization. -/
theorem wpr_charge {α : Type} {rest : FileRequest α} {deltaBytes : Int}
    {post : α → (FileStore → FileStore) → Set FileLock → FileStore → Prop}
    (hpending : Spares pending)
    (hrest : ∀ pending L t, (∀ label, Logged quotas label pending L t) →
      wpr quotas rest post Whatever pending L t) :
    wpr quotas (do
      applyStorageDelta organizationId deltaBytes
      rest) post Whatever pending L s := by
  refine wpr_bind.mpr (wpr_bind.mpr (wpr_lift.mpr (wp_selectForUpdate.mpr fun t _ => ?_)))
  rw [hpending]
  cases hrow : t.organizations.find organizationId with
  | none => exact wpr_throw.mpr trivial
  | some row =>
    intro u _
    rw [hpending]
    refine wpr_bind.mpr (wpr_expect.mpr ⟨fun organization hfind => ?_, fun _ => trivial⟩)
    refine wpr_bind.mpr (wpr_ensure.mpr ⟨fun hwithin => ?_, fun _ => trivial⟩)
    refine wpr_lift.mpr (wp_update.mpr (hrest _ _ _ fun label audit v hv hok => ?_))
    have hid : row.id = organizationId := Table.key_of_find hrow
    obtain rfl : organization.id = organizationId := Table.key_of_find hfind
    refine commits_put { organization with
      storageUsedBytes := (organization.storageUsedBytes + deltaBytes).toNat } hv.inv ?_ hwithin ?_
    · rw [hid]
      exact Set.mem_insert _ _
    · dsimp only
      rw [hpending]

theorem wpr_setStorageQuota {record : OrganizationRecord} {quotaBytes : Option Nat}
    {label : OrganizationRecord → FileCommit} (hlock : .organization record.id ∈ L) :
    wpr quotas (setStorageQuota record quotaBytes) (Committable quotas label) Whatever id L s := by
  refine wpr_bind.mpr (wpr_ensure.mpr ⟨fun hwithin => ?_, fun _ => trivial⟩)
  refine wpr_bind.mpr (wpr_lift.mpr (wp_update.mpr (wpr_pure.mpr fun t ht hok => ?_)))
  exact commits_put { record with storageQuotaBytes := quotaBytes } ht.inv hlock hwithin rfl

variable {tenant : TenantContext}

theorem wpr_getOrganizationLocked {C : Contract FileStore FileLock FileCommit}
    {post : OrganizationRecord → (FileStore → FileStore) → Set FileLock → FileStore → Prop}
    (h : ∀ t record L, t.organizations.find record.id = some record →
      .organization record.id ∈ L → post record id L t) :
    wpr C (getOrganizationLocked organizationId) post Whatever id L s := by
  refine wpr_bind.mpr (wpr_lift.mpr (wp_selectForUpdate.mpr fun t _ => ?_))
  cases hrow : t.organizations.find organizationId with
  | none =>
    simp only [id_eq, hrow]
    exact wpr_throw.mpr trivial
  | some row =>
    simp only [id_eq, hrow]
    refine fun u _ => wpr_expect.mpr ⟨fun record hfind => ?_, fun _ => trivial⟩
    have hid : row.id = organizationId := Table.key_of_find hrow
    obtain rfl : record.id = organizationId := Table.key_of_find hfind
    refine h u record _ hfind ?_
    rw [hid]
    exact Set.mem_insert _ _

theorem wp_updateStorageQuota {request : UpdateOrganizationStorageQuotaRequest} :
    wpr quotas (updateStorageQuota organizationId tenant request) Whatever Whatever id ∅ s := by
  refine wpr_bind.mpr (wpr_ensure.mpr ⟨fun _ => ?_, fun _ => trivial⟩)
  refine wpr_bind.mpr (wpr_block (fun _ _ => trivial) (fun _ _ _ => wpr_throw.mpr trivial) ?_)
  exact wpr_bind.mpr (wpr_getOrganizationLocked fun _ _ _ _ hlock => wpr_setStorageQuota hlock)

theorem wp_quota_upload {request : UploadRequest} (hs : QuotasKept s) :
    wpr quotas (uploadSourceFile provider outage tenant request) Whatever Whatever id ∅ s := by
  refine wpr_bind.mpr (wpr_block (fun _ _ => trivial) (fun (owned, failure) t ht => ?_) ?_)
  · exact (leaves_discard.bind fun _ => .throw _).whatever ht spares_id
  · refine Leaves.wpr_bind (.handle (.bind leaves_getRunLocked fun _ => .bind (.ensure _ _) fun _ =>
      leaves_saveUpload) fun _ => .throw _) hs spares_id
      fun (saved, since) pending L t ht hpending => ?_
    refine wpr_owning (leaves_addFile.wpr_bind ht hpending fun _ _ _ _ _ hpending =>
      wpr_charge hpending fun pending L t hlogged => wpr_pure.mpr fun u hu hok => ?_)
    exact hlogged _ (pending u).securityAuditEvents u hu hok

theorem wp_quota_finalize {runId : UUID} {payload : DirectUploadFinalizationRequest}
    (hs : QuotasKept s) :
    wpr quotas (finalizeDirectUpload provider outage tenant runId payload) Whatever Whatever
      id ∅ s := by
  refine wpr_bind.mpr (wpr_block (fun _ _ => trivial) (fun (owned, failure) t ht => ?_) ?_)
  · cases failure with
    | storageNotFound | storageOperation => exact wpr_throw.mpr trivial
    | _ => exact (leaves_discard.bind fun _ => .throw _).whatever ht spares_id
  · refine Leaves.wpr_bind (.handle leaves_findFinalized fun _ => .throw _) hs spares_id
      fun (existing, since) pending L t ht hpending => ?_
    cases existing with
    | some file => exact wpr_pure.mpr fun u hu _ => commits_spared hu.inv (hpending u)
    | none =>
      refine wpr_bind.mpr (wpr_owning ?_)
      unfold recordObject
      refine leaves_storageStat.wpr_bind ht hpending fun metadata pending L t ht hpending => ?_
      refine Leaves.wpr_bind (.ensure _ _) ht hpending fun _ pending L t ht hpending => ?_
      refine Leaves.wpr_bind (.ensure _ _) ht hpending fun _ pending L t ht hpending => ?_
      refine Leaves.wpr_bind (.ensure _ _) ht hpending fun _ pending L t ht hpending => ?_
      refine leaves_storageInspect.wpr_bind ht hpending fun inspected pending L t ht hpending => ?_
      refine Leaves.wpr_bind (.ensure _ _) ht hpending fun _ pending L t ht hpending => ?_
      refine leaves_addFile.wpr_bind ht hpending fun _ _ _ _ _ hpending =>
        wpr_charge hpending fun pending L t hlogged => wpr_bind.mpr ?_
      exact wpr_appendSecurityAuditEvent (wpr_pure.mpr (wpr_pure.mpr fun u hu hok =>
        hlogged _ _ u hu hok))

theorem wp_quota_delete {fileId : UUID} (hs : QuotasKept s) :
    wpr quotas (deleteSourceFile provider outage tenant fileId) Whatever Whatever id ∅ s := by
  refine wpr_bind.mpr (wpr_committable (fun _ _ => trivial) (fun _ _ => trivial) ?_)
  refine Leaves.wpr_bind (.get _) hs spares_id fun (found, since) pending L t ht hpending => ?_
  cases found with
  | none => exact wpr_pure.mpr fun u hu _ => commits_spared hu.inv (hpending u)
  | some record =>
    refine leaves_getRunLocked.wpr_bind ht hpending fun run pending L t ht hpending => ?_
    refine Leaves.wpr_bind (.get _) ht hpending fun job pending L t ht hpending => ?_
    refine Leaves.wpr_bind (.ensure _ _) ht hpending fun _ pending L t ht hpending => ?_
    have hforget (pending L t) (ht : QuotasKept t) (hpending : Spares pending) : wpr quotas (do
        removeFile record
        applyStorageDelta tenant.organizationId (-record.sizeBytes)
        appendSecurityAuditEvent tenant "SOURCE_FILE_DELETED" [("file_id", fileId.format),
          ("run_id", record.runId.format), ("source_type", sourceTypeName record.sourceType)]
        return some (record, since)) (Committable quotas (deletedLabel tenant.organizationId))
          Whatever pending L t := by
      refine leaves_removeFile.wpr_bind ht hpending fun _ _ _ _ _ hpending =>
        wpr_charge hpending fun pending L t hlogged => wpr_bind.mpr ?_
      exact wpr_appendSecurityAuditEvent (wpr_pure.mpr fun u hu hok => hlogged _ _ u hu hok)
    cases record.storageKey with
    | none => exact hforget pending L t ht hpending
    | some key =>
      show wpr quotas (if _ then _ else _) _ _ _ _ _
      split
      · exact leaves_deleteObject.wpr_bind ht hpending fun _ => hforget
      · exact hforget pending L t ht hpending

theorem leaves_cleanup {cleanup : AbandonedUploadCleanup} {dryRun : Bool} {now : Instant} :
    LeavesUsage (cleanup.run provider outage dryRun now) := by
  have horganizations (organizationIds : List UUID) : LeavesUsage
      (cleanup.runOrganizations provider outage dryRun now organizationIds) := by
    induction organizationIds with
    | nil => exact .pure _
    | cons organizationId organizationIds ih =>
      exact .bind leaves_storageList fun _ => .bind (.get _) fun _ => .bind leaves_close fun _ =>
        .bind leaves_sweep fun _ => .bind ih fun _ => .pure _
  exact .bind (.get _) fun _ => .bind leaves_close fun _ => horganizations _

theorem organizations_setUsage (store : FileStore) (organizationId : UUID) (usedBytes : Nat) :
    (setUsage store organizationId usedBytes).organizations =
      match store.organizations.find organizationId with
      | some organization =>
        store.organizations.put { organization with storageUsedBytes := usedBytes }
      | none => store.organizations := by
  unfold setUsage
  cases store.organizations.find organizationId <;> rfl

theorem commits_repaired {usedBytes since : Nat} (ht : QuotasKept t) (hpending : Spares pending)
    (hlock : .organization organizationId ∈ L)
    (hwithin : RepairsWithin (.repaired organizationId usedBytes since) t) :
    quotas.Commits label L t (setUsage (pending t) organizationId usedBytes) := by
  have hset := organizations_setUsage (pending t) organizationId usedBytes
  rw [hpending] at hset
  cases hfind : t.organizations.find organizationId with
  | none =>
    rw [hfind] at hset
    exact commits_spared ht hset
  | some organization =>
    obtain rfl : organization.id = organizationId := Table.key_of_find hfind
    rw [hfind] at hset
    refine commits_put { organization with storageUsedBytes := usedBytes } ht hlock ?_ hset
    unfold RepairsWithin at hwithin
    simpa [hfind] using hwithin

theorem leaves_repairUsage {usedBytes since : Nat} {repairs : Bool} :
    LeavesUsage (repairUsage organizationId usedBytes since repairs) := by
  unfold repairUsage
  split
  · intro pending L s hs hpending
    refine wpr_bind.mpr (wpr_lift.mpr (wp_acquireAll hs fun t ht => ?_))
    refine wpr_bind.mpr (wpr_lift.mpr (wp_update.mpr ?_))
    refine wpr_lift.mpr (wp_finish.mpr fun u hu hok => ?_)
    have hlock : FileLock.organization organizationId ∈
        L ∪ {k | k ∈ [FileLock.organization organizationId]} := .inr (by simp)
    have hwithin : RepairsWithin (.repaired organizationId usedBytes since) u := hok
    have hcommits : quotas.Commits (.repaired organizationId usedBytes since) _ u _ :=
      commits_repaired hu.inv hpending hlock hwithin
    exact ⟨hcommits, hcommits.inv, spares_id⟩
  · exact leaves_close

theorem leaves_verify {verifier : StorageIntegrityVerifier} {repair : Bool} {now : Instant} :
    LeavesUsage (verifier.run provider outage repair now) := by
  have horganizations (organizationIds : List UUID) : LeavesUsage
      (verifier.runOrganizations provider outage repair now organizationIds) := by
    induction organizationIds with
    | nil => exact .pure _
    | cons organizationId organizationIds ih =>
      exact .bind (.get _) fun _ => .bind (.expect _ _) fun _ => .bind (.get _) fun _ =>
        .bind (.get _) fun _ => .bind (.get _) fun _ => .bind leaves_repairUsage fun _ =>
        .bind leaves_checkRecords fun _ => .bind leaves_storageList fun _ =>
        .bind leaves_sweep fun _ => .bind ih fun _ => .pure _
  exact .bind (.get _) fun _ => .bind leaves_close fun _ => horganizations _

theorem wp_quota (hs : QuotasKept s) :
    ∀ request : QuotaRequest, wp quotas (request.program provider) Whatever id ∅ s
  | .storage (.upload .., _) => wp_serve (wp_quota_upload hs)
  | .storage (.finalize .., _) => wp_serve (wp_quota_finalize hs)
  | .storage (.delete .., _) => wp_serve (wp_quota_delete hs)
  | .storage (.cleanUp .., _) => wp_serve (leaves_cleanup.whatever hs spares_id)
  | .storage (.verify .., _) => wp_serve (leaves_verify.whatever hs spares_id)
  | .storage (.put _ _, _) => wp_act.mpr fun _ ht _ => ⟨commits_spared ht.inv rfl, trivial⟩
  | .storage (.lose _, _) => wp_act.mpr fun _ ht _ => ⟨commits_spared ht.inv rfl, trivial⟩
  | .quota .. => wp_serve wp_updateStorageQuota

end

/-! ### Every run -/

/-- **No organization uses more than its quota**, in every run whose repairs do not write more. -/
theorem quota_respected {provider : StorageProvider} {w₀ w : World FileStore FileLock FileCommit}
    (hidle : Idle w₀) (hinv : QuotasKept w₀.state)
    (hrun : Reaches (step (QuotaRequest.program provider)) (Allows RepairsWithin fun _ _ => True)
      w₀ w) : QuotasKept w.state :=
  (safe_of_reaches (C := quotas) (fun request _ hs _ => wp_quota hs request) hidle hinv hrun).inv

/-- A file of size 3 is uploaded; while one of size 5 is, the quota is lowered to 6. -/
def lowered : List (Action QuotaRequest) :=
  .begin 0 (.storage (uploading 1 .bankTransactions "a" 3)) :: List.replicate 12 (.advance 0) ++
    .begin 0 (.storage (uploading 2 .erpInvoices "b" 5)) :: List.replicate 5 (.advance 0) ++
    .begin 1 (.quota 1 member ⟨some 6⟩) :: List.replicate 4 (.advance 1) ++
    List.replicate 7 (.advance 0)

/-- The second upload is refused, and its object is removed. -/
theorem quota_respected_lowered : ∃ w : World FileStore FileLock FileCommit,
    Reaches (step (QuotaRequest.program shelf)) (Allows RepairsWithin fun _ _ => True) oneRun w ∧
      (w.state.files.find 2).isSome = false ∧ (w.state.objects "b").isSome = false ∧
      QuotasKept w.state := by
  have hrun : (exec (step (QuotaRequest.program shelf)) (Allows RepairsWithin fun _ _ => True)
      lowered oneRun).any (fun w => (w.state.files.find 2).isSome = false ∧
        (w.state.objects "b").isSome = false) = true := by
    decide +kernel
  obtain ⟨w, hw, hend⟩ := (Option.any_eq_true _ _).mp hrun
  obtain ⟨hfile, hobject⟩ := of_decide_eq_true hend
  have hreaches := reaches_of_exec hw
  exact ⟨w, hreaches, hfile, hobject, quota_respected idle_oneRun (by decide +kernel) hreaches⟩

/-! ### With the counters right -/

section

variable {L : Set FileLock} {s t : FileStore} {organization : OrganizationRecord}
  {organizationId : UUID} {tenant : TenantContext}

/-- The counters do not depend on the quotas. -/
theorem commits_balanced (ht : Balanced t) (hlock : .organization organization.id ∈ L)
    (hfind : t.organizations.find organization.id = some organization)
    (quotaBytes : Option Nat) : (usageOf UpToDate).Commits .other L t { t with
      organizations := t.organizations.put { organization with storageQuotaBytes := quotaBytes } }
    where
  inv := by
    intro other hother
    rcases Table.mem_put hother with rfl | hother
    · exact ht organization (Table.mem_of_find hfind)
    · exact ht other hother
  rely := evolves_of_same rfl rfl rfl fun _ hkey => hkey
  same k hk := by
    cases k with
    | organization id =>
      have hne : id ≠ organization.id := fun he => hk (he ▸ hlock)
      have hput := Table.find_put_of_ne (S := organizationSchema) t.organizations
        (r := { organization with storageQuotaBytes := quotaBytes }) hne
      exact hput.symm
    | run _ => exact trivial
    | file _ => exact rfl
    | source _ _ => exact id
  post := trivial

theorem wp_usage_updateStorageQuota {request : UpdateOrganizationStorageQuotaRequest} :
    wpr (usageOf UpToDate) (updateStorageQuota organizationId tenant request) Whatever Whatever
      id ∅ s := by
  refine wpr_bind.mpr (wpr_ensure.mpr ⟨fun _ => ?_, fun _ => trivial⟩)
  refine wpr_bind.mpr (wpr_block (fun _ _ => trivial) (fun _ _ _ => wpr_throw.mpr trivial) ?_)
  refine wpr_bind.mpr (wpr_getOrganizationLocked fun t record L hfind hlock => ?_)
  refine wpr_bind.mpr (wpr_ensure.mpr ⟨fun _ => ?_, fun _ => trivial⟩)
  refine wpr_bind.mpr (wpr_lift.mpr (wp_update.mpr (wpr_pure.mpr fun u hu _ => ?_)))
  have hfind' : u.organizations.find record.id = some record :=
    (Eq.symm (hu.same _ hlock)).trans hfind
  exact commits_balanced hu.inv hlock hfind' request.quotaBytes

theorem wp_usage (provider : StorageProvider) :
    ∀ request : QuotaRequest, wp (usageOf UpToDate) (request.program provider) Whatever id ∅ s
  | .storage request => wp_storage (fits_usageOf fun _ hok => hok) request
  | .quota .. => wp_serve wp_usage_updateStorageQuota

/-- What a repair has read is within the quota, if it is up to date. -/
theorem repairsWithin_of_upToDate {label : FileCommit} (hbalanced : Balanced s)
    (hwithin : QuotasKept s) (h : UpToDate label s) : RepairsWithin label s := by
  cases label with
  | repaired organizationId usedBytes since =>
    show (s.organizations.find organizationId).all _ = true
    cases hfind : s.organizations.find organizationId with
    | none => rfl
    | some organization =>
      have hm := Table.mem_of_find hfind
      obtain rfl : organization.id = organizationId := Table.key_of_find hfind
      have hused : usedBytes = organization.storageUsedBytes := h.trans (hbalanced _ hm).symm
      rw [Option.all_some, hused]
      exact hwithin _ hm
  | _ => exact trivial

end

/-- **The counters are right and within the quotas** in every run in which each deletion finds its
record and each repair its sum as it was read. -/
theorem usage_within_quota {provider : StorageProvider}
    {w₀ w : World FileStore FileLock FileCommit} (hidle : Idle w₀) (hbalanced : Balanced w₀.state)
    (hwithin : QuotasKept w₀.state)
    (hrun : Reaches (step (QuotaRequest.program provider)) (Allows UpToDate fun _ _ => True)
      w₀ w) : Balanced w.state ∧ QuotasKept w.state := by
  have hcode (request : QuotaRequest) (s : FileStore) (hs : Balanced s ∧ QuotasKept s) :
      wp ((usageOf UpToDate).both quotas UpToDate) (request.program provider) Whatever id ∅ s := by
    refine wp_both (fun label t hbalanced hwithin hlabel => ?_) (wp_usage provider request)
      (wp_quota hs.2 request)
    exact ⟨hlabel, repairsWithin_of_upToDate hbalanced hwithin hlabel⟩
  exact (safe_of_reaches (C := (usageOf UpToDate).both quotas UpToDate)
    (fun request s hs _ => hcode request s hs) hidle ⟨hbalanced, hwithin⟩ hrun).inv

theorem usage_within_quota_lowered : ∃ w : World FileStore FileLock FileCommit,
    Reaches (step (QuotaRequest.program shelf)) (Allows UpToDate fun _ _ => True) oneRun w ∧
      (w.state.files.find 1).isSome = true ∧ Balanced w.state ∧ QuotasKept w.state := by
  have hrun : (exec (step (QuotaRequest.program shelf)) (Allows UpToDate fun _ _ => True)
      lowered oneRun).any (fun w => (w.state.files.find 1).isSome) = true := by
    decide +kernel
  obtain ⟨w, hw, hfile⟩ := (Option.any_eq_true _ _).mp hrun
  have hreaches := reaches_of_exec hw
  exact ⟨w, hreaches, hfile,
    usage_within_quota idle_oneRun (by decide +kernel) (by decide +kernel) hreaches⟩

end ReconcileFlow.Storage
