import ReconcileFlow.Storage.Requests

/-!
# Storage — Usage

Whether an organization's `storage_used_bytes` is what its files add up to.  A deletion that finds
its record gone takes its size off all the same, and a repair writes a sum that may be out of date
(`usage_diverges`).  As long as nothing of the kind commits between the moment when a deletion has
found its record, or a repair has summed up the sizes, and its own commit, the counter is right
after every commit, whatever else interleaves (`usage_balanced`).
-/

namespace ReconcileFlow.Storage

open Support Support.ReadCommitted Api
open Persistence hiding SourceFileRecord sourceFileSchema

/-- The counter of every organization is the sum of the sizes of its files. -/
def Balanced (store : FileStore) : Prop :=
  ∀ organization ∈ store.organizations.rows,
    organization.storageUsedBytes = store.totalSizeForOrganization organization.id

instance (store : FileStore) : Decidable (Balanced store) :=
  inferInstanceAs (Decidable (∀ _ ∈ _, _))

/-- The deletion finds its record gone, and there is nothing to take off. -/
def NothingOff (store : FileStore) (organizationId : UUID) (file : SourceFileRecord) : Prop :=
  store.files.find file.id = none ∧ (file.sizeBytes = 0 ∨
    (store.organizations.find organizationId).all (·.storageUsedBytes = 0) = true)

instance (store : FileStore) (organizationId : UUID) (file : SourceFileRecord) :
    Decidable (NothingOff store organizationId file) :=
  inferInstanceAs (Decidable (_ ∧ _))

/-- What a request relies on when it changes a counter. -/
def UpToDate : FileCommit → FileStore → Prop
  | .deleted organizationId file _, store =>
    store.files.find file.id = some file ∨ NothingOff store organizationId file
  | .repaired organizationId usedBytes _, store =>
    usedBytes = store.totalSizeForOrganization organizationId
  | _, _ => True

instance (store : FileStore) : ∀ label, Decidable (UpToDate label store)
  | .deleted .. => inferInstanceAs (Decidable (_ ∨ _))
  | .repaired .. => inferInstanceAs (Decidable (_ = _))
  | .saved .. | .uploaded .. | .finalized .. | .removed .. | .other => .isTrue trivial

/-- Nothing has been recorded for the organization, or deleted, since. -/
def Quiet (store : FileStore) (organizationId : UUID) (since : Nat) : Prop :=
  ∀ event ∈ store.eventsSince since, ∀ file ∈ event.file,
    store.belongsTo organizationId file = false

instance (store : FileStore) (organizationId : UUID) (since : Nat) :
    Decidable (Quiet store organizationId since) :=
  inferInstanceAs (Decidable (∀ _ ∈ _, _))

/-- No other deletion of the file commits between the moment when a deletion finds it and its own
commit, unless there is nothing to take off; and no upload, finalization or deletion for the
organization does between the moment when a repair sums up the sizes and its commit. -/
def Timely : FileCommit → FileStore → Prop
  | .deleted organizationId file since, store =>
    .deleted file ∉ store.eventsSince since ∨ NothingOff store organizationId file
  | .repaired organizationId _ since, store => Quiet store organizationId since
  | _, _ => True

instance (store : FileStore) : ∀ label, Decidable (Timely label store)
  | .deleted .. => inferInstanceAs (Decidable (_ ∨ _))
  | .repaired organizationId _ since =>
    inferInstanceAs (Decidable (Quiet store organizationId since))
  | .saved .. | .uploaded .. | .finalized .. | .removed .. | .other => .isTrue trivial

/-- The counters are right as long as the commits are `ok`. -/
def usageOf (ok : FileCommit → FileStore → Prop) : Contract FileStore FileLock FileCommit where
  Inv := Balanced
  Rely := Evolves
  Same := SameRow
  Ok := ok
  Post _ _ _ := True
  rely_refl := .refl
  rely_trans := .trans
  same_refl := .refl
  same_trans := .trans

/-! ### Sums -/

section

variable {store : FileStore} {organization : OrganizationRecord} {file : SourceFileRecord}
  {organizationId : UUID}

/-- What the file adds to the sum of the organization. -/
def share (store : FileStore) (organizationId : UUID) (file : SourceFileRecord) : Nat :=
  if store.belongsTo organizationId file then file.sizeBytes else 0

theorem total_eq (store : FileStore) (organizationId : UUID) :
    store.totalSizeForOrganization organizationId =
      (store.files.rows.map (share store organizationId)).sum := by
  unfold FileStore.totalSizeForOrganization FileStore.filesOf
  induction store.files.rows with
  | nil => rfl
  | cons file files ih =>
    by_cases hfile : store.belongsTo organizationId file = true
    · simp [share, hfile, ih]
    · simp [share, hfile, ih]

/-- A file is of one organization. -/
theorem share_of_ne (h : store.belongsTo organization.id file = true)
    (hne : organizationId ≠ organization.id) : share store organizationId file = 0 := by
  refine if_neg fun hother => hne ?_
  unfold FileStore.belongsTo at h hother
  obtain ⟨run, hrun, hid⟩ := (Option.any_eq_true _ _).mp h
  obtain ⟨run', hrun', hid'⟩ := (Option.any_eq_true _ _).mp hother
  obtain rfl := Option.some.inj (hrun.symm.trans hrun')
  exact (of_decide_eq_true hid').symm.trans (of_decide_eq_true hid)

theorem balanced_iff : Balanced store ↔ ∀ organizationId organization,
    store.organizations.find organizationId = some organization →
      organization.storageUsedBytes = store.totalSizeForOrganization organizationId := by
  constructor
  · intro h organizationId organization hfind
    have hid : organization.id = organizationId := Table.key_of_find hfind
    exact hid ▸ h organization (Table.mem_of_find hfind)
  · intro h organization hm
    exact h organization.id organization (Table.find_of_mem hm)

/-- The counter of one organization is set to its sum, and the other sums stay. -/
theorem Balanced.put {files : Table sourceFileSchema} {usedBytes : Nat} (h : Balanced store)
    (hfind : store.organizations.find organization.id = some organization)
    (hown : usedBytes =
      ({ store with files := files }).totalSizeForOrganization organization.id)
    (hothers : ∀ organizationId, organizationId ≠ organization.id →
      ({ store with files := files }).totalSizeForOrganization organizationId =
        store.totalSizeForOrganization organizationId) :
    Balanced { store with
      files := files
      organizations :=
        store.organizations.put { organization with storageUsedBytes := usedBytes } } := by
  rw [balanced_iff] at h ⊢
  intro organizationId other hother
  have hput := (find_put_usage hfind usedBytes organizationId).symm.trans hother
  by_cases hid : organizationId = organization.id
  · rw [if_pos hid] at hput
    obtain rfl := Option.some.inj hput
    rw [hid]
    exact hown
  · rw [if_neg hid] at hput
    exact (h organizationId other hput).trans (hothers organizationId hid).symm

theorem total_add (h : Unclaimed store file) (organizationId : UUID) :
    ({ store with files := store.files.add file }).totalSizeForOrganization organizationId =
      store.totalSizeForOrganization organizationId + share store organizationId file := by
  rw [total_eq, total_eq, rows_add_of_unclaimed h, List.map_append, List.sum_append]
  exact congrArg _ (Nat.add_zero _)

theorem total_filter (h : store.files.find file.id = some file) (organizationId : UUID) :
    store.totalSizeForOrganization organizationId = share store organizationId file +
      ({ store with
        files := store.files.filter fun other => decide (other.id ≠ file.id) }
        ).totalSizeForOrganization organizationId := by
  rw [total_eq, total_eq]
  exact Table.sum_filter_ne (Table.mem_of_find h) (share store organizationId)

theorem rows_filter_of_none (h : store.files.find file.id = none) :
    (store.files.filter fun other => decide (other.id ≠ file.id)).rows = store.files.rows :=
  List.filter_eq_self.mpr fun other hother => decide_eq_true (Table.find_eq_none.mp h other hother)

end

/-! ### The commits -/

section

variable {L : Set FileLock} {t t' : FileStore} {label : FileCommit}
  {organization : OrganizationRecord} {file : SourceFileRecord}

/-- What happens besides the files and the counters does not matter. -/
theorem balanced_congr {s : FileStore} (horganizations : t.organizations = s.organizations)
    (hruns : t.runs = s.runs) (hfiles : t.files = s.files) (h : Balanced s) : Balanced t := by
  intro organization hm
  rw [horganizations] at hm
  rw [h organization hm, total_eq, total_eq, hfiles]
  unfold share
  rw [funext (belongsTo_congr hruns organization.id)]

theorem Balanced.add (h : Balanced t)
    (hfind : t.organizations.find organization.id = some organization)
    (hfile : t.belongsTo organization.id file = true) (hunclaimed : Unclaimed t file) :
    Balanced { t with
      files := t.files.add file
      organizations := t.organizations.put { organization with
        storageUsedBytes := organization.storageUsedBytes + file.sizeBytes } } := by
  refine h.put hfind ?_ fun organizationId hne => ?_
  · rw [total_add hunclaimed, h organization (Table.mem_of_find hfind), share, if_pos hfile]
  · rw [total_add hunclaimed, share_of_ne hfile hne, Nat.add_zero]

theorem Balanced.delete {since : Nat} (h : Balanced t)
    (hfind : t.organizations.find organization.id = some organization)
    (hfile : t.belongsTo organization.id file = true)
    (hupToDate : UpToDate (.deleted organization.id file since) t) :
    Balanced { t with
      files := t.files.filter fun other => decide (other.id ≠ file.id)
      organizations := t.organizations.put { organization with
        storageUsedBytes := organization.storageUsedBytes - file.sizeBytes } } := by
  have hused := h organization (Table.mem_of_find hfind)
  rcases hupToDate with hstored | ⟨hgone, hnothing⟩
  · refine h.put hfind ?_ fun organizationId hne => ?_
    · have htotal := total_filter hstored organization.id
      rw [share, if_pos hfile] at htotal
      rw [hused, htotal, Nat.add_sub_cancel_left]
    · have htotal := total_filter hstored organizationId
      rw [share_of_ne hfile hne, Nat.zero_add] at htotal
      exact htotal.symm
  · -- no row is taken out, and nothing is taken off
    have htotal (organizationId : UUID) : ({ t with
        files := t.files.filter fun other => decide (other.id ≠ file.id) }
        ).totalSizeForOrganization organizationId = t.totalSizeForOrganization organizationId := by
      rw [total_eq, total_eq, rows_filter_of_none hgone]
      rfl
    refine h.put hfind ?_ fun organizationId _ => htotal organizationId
    rw [htotal, ← hused]
    rcases hnothing with hsize | hzero
    · rw [hsize, Nat.sub_zero]
    · rw [hfind, Option.all_some, decide_eq_true_eq] at hzero
      rw [hzero, Nat.zero_sub]

theorem Balanced.repair {organizationId : UUID} {usedBytes since : Nat} (h : Balanced t)
    (hupToDate : UpToDate (.repaired organizationId usedBytes since) t) :
    Balanced (setUsage t organizationId usedBytes) := by
  unfold setUsage
  split
  · next organization hfind =>
    obtain rfl : organization.id = organizationId := Table.key_of_find hfind
    show Balanced { t with files := t.files, organizations := _ }
    exact h.put hfind hupToDate fun _ _ => rfl
  · exact h

variable {provider : StorageProvider} {C : Contract FileStore FileLock FileCommit}

/-- **A change that is up to date keeps the counters right.** -/
theorem FileChange.balanced (h : FileChange provider C L t label t') (ht : Balanced t)
    (hok : UpToDate label t) : Balanced t' := by
  cases h with
  | added audit _ _ _ hfind hfile hunclaimed =>
    exact balanced_congr rfl rfl rfl (Balanced.add ht hfind hfile hunclaimed)
  | deleted audit _ hfind hfile =>
    exact balanced_congr rfl rfl rfl (Balanced.delete ht hfind hfile hok)
  | repaired => exact Balanced.repair ht hok
  | removed | saved | objects => exact balanced_congr rfl rfl rfl ht

/-- **What a timely change has read is up to date.** -/
theorem FileChange.upToDate (h : FileChange provider C L t label t') (hok : Timely label t) :
    UpToDate label t := by
  cases h with
  | deleted audit hwas =>
    refine hok.imp (fun hkept => ?_) id
    obtain ⟨s, hs, hleads⟩ := hwas.leads
    have hm := (hleads.kept _ hs).resolve_right hkept
    exact Table.find_of_mem hm
  | repaired hwas =>
    obtain ⟨s, rfl, hleads⟩ := hwas.leads
    have hfiles := hleads.filesOf _ fun event hevent file hfile =>
      (belongsTo_congr hleads.runs.symm _ file).trans (hok event hevent file hfile)
    show s.totalSizeForOrganization _ = t.totalSizeForOrganization _
    rw [FileStore.totalSizeForOrganization, FileStore.totalSizeForOrganization, hfiles]
  | added _ hlabel => rcases hlabel with rfl | rfl <;> exact trivial
  | removed | saved | objects => exact trivial

theorem fits_usageOf {ok : FileCommit → FileStore → Prop}
    (hok : ∀ {L label t t'}, FileChange provider (usageOf ok) L t label t' → ok label t →
      UpToDate label t) : Fits provider (usageOf ok) where
  same := rfl
  evolves h := h
  commits h hinv hlabel :=
    ⟨h.balanced hinv (hok h hlabel), h.evolves, fun _ hk => h.same hk, trivial⟩

end

/-! ### Every run -/

/-- **The counters stay right** in every run in which no deletion of the same file gets between a
deletion and its commit, and no change of the organization's files between a repair and its own. -/
theorem usage_balanced {provider : StorageProvider} {w₀ w : World FileStore FileLock FileCommit}
    (hidle : Idle w₀) (hinv : Balanced w₀.state)
    (hrun : Reaches (step (StorageRequest.program provider)) (Allows Timely fun _ _ => True) w₀ w) :
    Balanced w.state :=
  (safe_of_reaches (C := usageOf Timely)
    (fun request _ _ _ => wp_storage (fits_usageOf fun h => h.upToDate) request)
    hidle hinv hrun).inv

/-- The keys are of the organization 1, whose objects are `a` and `b`. -/
def shelf : StorageProvider where
  maxSizeBytes := 100
  validKey _ := true
  belongsToNamespace _ organizationId := decide (organizationId = 1)
  listOlderThan objects organizationId cutoff limit :=
    (["a", "b"].filter fun key => organizationId = 1 ∧ (objects key).any fun object =>
      decide (object.lastModified ≤ cutoff)).take limit

/-- An organization with one run. -/
def oneRun : World FileStore FileLock FileCommit where
  state := {
    organizations := Table.empty.add { id := 1, slug := "first" }
    runs := Table.empty.add { id := 1, organizationId := 1, createdAt := 0 }
    jobs := .empty
    files := .empty
    objects := fun _ => none }

theorem idle_oneRun : Idle oneRun := fun _ => rfl

def member : TenantContext := ⟨1, 1, .owner⟩

def contents (sizeBytes : Nat) : StoredUpload := ⟨"file.csv", "text/csv", sizeBytes, ""⟩

def object (sizeBytes : Nat) : StorageObject where
  sizeBytes
  lastModified := 0
  inspect _ := some (contents sizeBytes)

def uploading (fileId : UUID) (sourceType : SourceType) (key : String) (sizeBytes : Nat) :
    StorageRequest × Outage :=
  (.upload member {
    runId := 1, sourceType, fileId, now := 0
    content := .ok ⟨key, contents sizeBytes, object sizeBytes⟩ }, fun _ => .answered)

def deleting (fileId : UUID) : StorageRequest × Outage :=
  (.delete member fileId, fun _ => .answered)

/-- The file 1 of size 3 and the file 2 of size 5 are uploaded. -/
def twoFiles : List (Action (StorageRequest × Outage)) :=
  .begin 0 (uploading 1 .bankTransactions "a" 3) :: List.replicate 12 (.advance 0) ++
    .begin 0 (uploading 2 .erpInvoices "b" 5) :: List.replicate 12 (.advance 0)

/-- One deletion keeps the counter right. -/
theorem usage_balanced_deletion : ∃ w : World FileStore FileLock FileCommit,
    Reaches (step (StorageRequest.program shelf)) (Allows Timely fun _ _ => True) oneRun w ∧
      (w.state.files.find 1).isSome = false ∧ (w.state.files.find 2).isSome = true ∧
      Balanced w.state := by
  have hrun : (exec (step (StorageRequest.program shelf)) (Allows Timely fun _ _ => True)
      (twoFiles ++ .begin 0 (deleting 1) :: List.replicate 12 (.advance 0)) oneRun).any (fun w =>
      (w.state.files.find 1).isSome = false ∧ (w.state.files.find 2).isSome = true) = true := by
    decide +kernel
  obtain ⟨w, hw, hfiles⟩ := (Option.any_eq_true _ _).mp hrun
  obtain ⟨hdeleted, hkept⟩ := of_decide_eq_true hfiles
  have hreaches := reaches_of_exec hw
  exact ⟨w, hreaches, hdeleted, hkept, usage_balanced idle_oneRun (by decide +kernel) hreaches⟩

/-- Two deletions of the file 1, the second of which reads it before the first commits, take its
size off twice. -/
theorem usage_diverges : ∃ w : World FileStore FileLock FileCommit,
    Idle oneRun ∧ Balanced oneRun.state ∧
      Reaches (step (StorageRequest.program shelf)) Always oneRun w ∧ Idle w ∧
      ¬ Balanced w.state := by
  have hrun : (exec (step (StorageRequest.program shelf)) Always
      (twoFiles ++ .begin 0 (deleting 1) :: .begin 1 (deleting 1) :: .advance 1 ::
        List.replicate 12 (.advance 0) ++ List.replicate 11 (.advance 1)) oneRun).any (fun w =>
      (∀ n < 2, finished (w.program n) = true) ∧ ¬ Balanced w.state) = true := by decide +kernel
  obtain ⟨w, hw, hend⟩ := (Option.any_eq_true _ _).mp hrun
  obtain ⟨hfinished, hdiverges⟩ := of_decide_eq_true hend
  have hidle := idle_of_exec (m := 2) idle_oneRun (by decide +kernel) hfinished hw
  exact ⟨w, idle_oneRun, by decide +kernel, reaches_of_exec hw, hidle, hdiverges⟩

end ReconcileFlow.Storage
