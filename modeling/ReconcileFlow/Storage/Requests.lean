import ReconcileFlow.Storage.Changes

/-!
# Storage — Requests

What the requests on source files come to, statement by statement: `wp_storage` leaves of each the
changes that it may make.  A contract that allows these (`Fits`) is kept by all of them, so that
what it says of every run has to be shown of `FileChange` only.
-/

namespace ReconcileFlow.Storage

open Support Support.ReadCommitted Api
open Persistence hiding SourceFileRecord sourceFileSchema

/-- The contract asks no more of the clients than of their changes. -/
structure Fits (provider : StorageProvider) (C : Contract FileStore FileLock FileCommit) :
    Prop where
  same : C.Same = SameRow
  evolves : ∀ {s t}, C.Rely s t → Evolves s t
  commits : ∀ {label L t t'}, FileChange provider C L t label t' → C.Inv t → C.Ok label t →
    C.Commits label L t t'

section

variable {provider : StorageProvider} {C : Contract FileStore FileLock FileCommit}
  {L : Set FileLock} {s t u : FileStore} {pending : FileStore → FileStore}
  {fail : Failure → (FileStore → FileStore) → Set FileLock → FileStore → Prop}

theorem Fits.sameRow (hC : Fits provider C) (hu : C.Interferes L t u) {k : FileLock} (hk : k ∈ L) :
    SameRow k t u := hC.same ▸ hu.same k hk

theorem Fits.belongsTo (hC : Fits provider C) (hu : C.Rely t u) (organizationId : UUID)
    (file : SourceFileRecord) : u.belongsTo organizationId file = t.belongsTo organizationId file :=
  belongsTo_congr (hC.evolves hu).runs organizationId file

theorem belongsTo_of_find {runId organizationId : UUID} {run : ReconciliationRunRecord}
    (hrun : s.runs.find runId = some run) (horganization : run.organizationId = organizationId)
    {file : SourceFileRecord} (hfile : file.runId = runId) :
    s.belongsTo organizationId file = true := by
  simp [FileStore.belongsTo, hfile, hrun, horganization]

/-- Under its locks an unclaimed file stays so. -/
theorem Unclaimed.same {file : SourceFileRecord} (h : Unclaimed t file)
    (hid : SameRow (.file file.id) t u)
    (hsource : SameRow (.source file.runId file.sourceType) t u) : Unclaimed u file :=
  ⟨(Eq.symm hid).trans h.1, hsource h.2⟩

theorem Verified.evolves {organizationId : UUID} {key : String} {since : Nat}
    (h : Verified provider C organizationId key since s) (hst : Evolves s t) :
    Verified provider C organizationId key since t := by
  obtain ⟨u, hwas, hkey, hevolves⟩ := h
  exact ⟨u, hwas, hkey, hevolves.trans hst⟩

theorem wpr_getRunLocked {runId organizationId : UUID}
    {post : ReconciliationRunRecord → (FileStore → FileStore) → Set FileLock → FileStore → Prop}
    (hfail : Lasting C s fail)
    (h : ∀ t run L, C.Inv t → C.Rely s t → t.runs.find runId = some run →
      run.organizationId = organizationId → post run id L t) :
    wpr C (getRunLocked runId organizationId) post fail id L s := by
  refine wpr_bind.mpr (wpr_lift.mpr (wp_selectForUpdate.mpr fun t ht => ?_))
  cases hrow : (t.runs.find runId).filter fun run =>
      decide (run.organizationId = organizationId) with
  | none =>
    simp only [id_eq, hrow]
    exact wpr_throw.mpr (hfail _ _ _ _ ht.rely)
  | some row =>
    simp only [id_eq, hrow]
    refine fun u hu => wpr_expect.mpr ⟨fun run hrun => ?_, fun _ => ?_⟩
    · obtain ⟨hfind, horganization⟩ := Option.filter_eq_some_iff.mp hrun
      exact h u run _ hu.inv (C.rely_trans ht.rely hu.rely) hfind (by simpa using horganization)
    · exact hfail _ _ _ _ (C.rely_trans ht.rely hu.rely)

theorem wpr_applyStorageDelta {organizationId : UUID} {deltaBytes : Int}
    {post : Unit → (FileStore → FileStore) → Set FileLock → FileStore → Prop}
    (hpending : ∀ u, (pending u).organizations = u.organizations) (hfail : Lasting C s fail)
    (h : ∀ t organization, C.Interferes L s t → organization.id = organizationId →
      t.organizations.find organization.id = some organization →
      post () (fun u => { pending u with organizations := u.organizations.put { organization with
        storageUsedBytes := (organization.storageUsedBytes + deltaBytes).toNat } })
        (insert (.organization organization.id) L) t) :
    wpr C (applyStorageDelta organizationId deltaBytes) post fail pending L s := by
  refine wpr_bind.mpr (wpr_lift.mpr (wp_selectForUpdate.mpr fun t ht => ?_))
  rw [hpending]
  cases hrow : t.organizations.find organizationId with
  | none => exact wpr_throw.mpr (hfail _ _ _ _ ht.rely)
  | some row =>
    refine fun u hu => ?_
    have hsu := ht.trans hu
    rw [hpending]
    refine wpr_bind.mpr (wpr_expect.mpr ⟨fun organization hfind => ?_,
      fun _ => hfail _ _ _ _ hsu.rely⟩)
    refine wpr_bind.mpr (wpr_ensure.mpr ⟨fun _ => wpr_lift.mpr (wp_update.mpr ?_),
      fun _ => hfail _ _ _ _ hsu.rely⟩)
    have hid : row.id = organizationId := Table.key_of_find hrow
    obtain rfl : organization.id = organizationId := Table.key_of_find hfind
    rw [hid]
    have hpost := h u organization hsu rfl hfind
    simpa only [hpending] using hpost

theorem wpr_addFile {file : SourceFileRecord}
    {post : Unit → (FileStore → FileStore) → Set FileLock → FileStore → Prop}
    (hfail : Lasting C s fail)
    (h : ∀ t L', C.Interferes L s t → Unclaimed t file → .file file.id ∈ L' →
      .source file.runId file.sourceType ∈ L' →
      post () (fun u => { u with
        files := u.files.add file
        history := u.history ++ [.recorded file] }) L' t) :
    wpr C (addFile file) post fail id L s := by
  refine wpr_bind.mpr (wpr_lift.mpr (wp_get.mpr fun t ht => ?_))
  refine wpr_bind.mpr (wpr_ensure.mpr ⟨fun _ => ?_, fun _ => hfail _ _ _ _ ht.rely⟩)
  refine wpr_insert ht.inv (fun u hu hfree => ?_)
    fun u hu => hfail _ _ _ _ (ht.trans hu).rely
  obtain ⟨hid, hsource⟩ := Bool.or_eq_false_iff.mp hfree
  exact h u _ (ht.trans hu) ⟨by simpa using hid, hsource⟩ (by simp) (by simp)

theorem wpr_appendSecurityAuditEvent {tenant : TenantContext} {eventType : String}
    {details : List (String × String)}
    {post : Unit → (FileStore → FileStore) → Set FileLock → FileStore → Prop}
    (h : post () (fun u => { pending u with
      securityAuditEvents := (pending u).securityAuditEvents ++
        [⟨tenant.organizationId, tenant.userId, eventType, details⟩] }) L s) :
    wpr C (appendSecurityAuditEvent tenant eventType details) post fail pending L s :=
  wpr_lift.mpr (wp_update.mpr h)

/-- The commit, whatever has been logged with it. -/
def Logged (C : Contract FileStore FileLock FileCommit) (label : FileCommit)
    (pending : FileStore → FileStore) (L : Set FileLock) (s : FileStore) : Prop :=
  ∀ audit t, C.Interferes L s t → C.Ok label t →
    C.Commits label L t { pending t with securityAuditEvents := audit }

/-- What records a file of a run of the organization. -/
theorem wpr_record {α : Type} {rest : FileRequest α} {label : FileCommit}
    {post : α → (FileStore → FileStore) → Set FileLock → FileStore → Prop}
    (hC : Fits provider C) {organizationId : UUID} {file : SourceFileRecord} {key : String}
    {since : Nat}
    (hlabel : label = .uploaded file since ∨ label = .finalized file since)
    (hkey : file.storageKey = some key)
    (hverified : Verified provider C organizationId key since s)
    (hfile : s.belongsTo organizationId file = true) (hfail : Lasting C s fail)
    (hrest : ∀ pending L t, Logged C label pending L t → wpr C rest post fail pending L t) :
    wpr C (do
      addFile file
      applyStorageDelta organizationId file.sizeBytes
      rest) post fail id L s := by
  refine wpr_bind.mpr (wpr_addFile hfail fun t L' ht hunclaimed hid hsource => ?_)
  refine wpr_bind.mpr (wpr_applyStorageDelta (fun _ => rfl) (hfail.after ht.rely)
    fun u organization hu horg hfind => hrest _ _ _ fun audit v hv hok => ?_)
  subst horg
  have htv : C.Interferes L' t v := hu.trans (hv.mono (Set.subset_insert _ _))
  have hsv := C.rely_trans ht.rely htv.rely
  have hfind' : v.organizations.find organization.id = some organization :=
    (Eq.symm (hC.sameRow hv (Set.mem_insert _ _))).trans hfind
  have hbelongs : v.belongsTo organization.id file = true := (hC.belongsTo hsv _ _).trans hfile
  have hsize : ((organization.storageUsedBytes : Int) + file.sizeBytes).toNat =
      organization.storageUsedBytes + file.sizeBytes := by omega
  dsimp only
  rw [hsize]
  exact hC.commits (.added audit hlabel hkey (hverified.evolves (hC.evolves hsv)) hfind' hbelongs
    (hunclaimed.same (hC.sameRow htv hid) (hC.sameRow htv hsource)) (Set.mem_insert _ _)
    (Set.mem_insert_of_mem _ hid) (Set.mem_insert_of_mem _ hsource)) hv.inv hok

variable {outage : Outage} {tenant : TenantContext}

theorem wpr_owning {α : Type} {owned : Option Nat} {request : FileRequest α}
    {post : α → (FileStore → FileStore) → Set FileLock → FileStore → Prop}
    {fail : Option Nat × Failure → (FileStore → FileStore) → Set FileLock → FileStore → Prop}
    (h : wpr C request post (fun failure => fail (owned, failure)) pending L s) :
    wpr C (owning owned request) post fail pending L s :=
  wpr_handle.mpr h

theorem wpr_storageDelete (hC : Fits provider C) {organizationId : UUID} {key : String}
    {record : Option SourceFileRecord} {since : Nat}
    {post : Unit → (FileStore → FileStore) → Set FileLock → FileStore → Prop}
    (hwas : Was (Claims provider C organizationId key record) since s) (hfail : Lasting C s fail)
    (h : ∀ t, C.Inv t → C.Rely s t → post () pending L t) :
    wpr C (storageDelete provider outage key record since) post fail pending L s := by
  have hs := C.rely_refl s
  refine wpr_bind.mpr (wpr_ensure.mpr ⟨fun _ => ?_, fun _ => hfail _ _ _ _ hs⟩)
  refine wpr_bind.mpr (wpr_ensure.mpr ⟨fun _ => ?_, fun _ => hfail _ _ _ _ hs⟩)
  refine wpr_bind.mpr (wpr_lift.mpr (wp_act.mpr fun t ht hok => ?_))
  have hcommits := hC.commits (L := L) (.removed (hwas.evolves (hC.evolves ht.rely))) ht.inv hok
  have hrely := C.rely_trans ht.rely hcommits.rely
  exact ⟨hcommits, wpr_ensure.mpr ⟨fun _ => h _ hcommits.inv hrely,
    fun _ => hfail _ _ _ _ hrely⟩⟩

/-- A request that has an object of its own has taken its key. -/
def Noted (provider : StorageProvider) (C : Contract FileStore FileLock FileCommit)
    (organizationId : UUID) (key : String) (error : Option Nat × Failure) (t : FileStore) : Prop :=
  ∀ since ∈ error.1, Was (Claims provider C organizationId key none) since t

theorem Noted.after (hC : Fits provider C) (organizationId : UUID) (key : String)
    (error : Option Nat × Failure) (s t : FileStore)
    (h : Noted provider C organizationId key error s) (hst : C.Rely s t) :
    Noted provider C organizationId key error t :=
  fun since hsince => (h since hsince).evolves (hC.evolves hst)

theorem noted_none {organizationId : UUID} {key : String} (failure : Failure) :
    Noted provider C organizationId key (none, failure) s :=
  fun _ hsince => nomatch hsince

theorem lasting_noted (hC : Fits provider C) {organizationId : UUID} {key : String} {since : Nat}
    (hwas : Was (Claims provider C organizationId key none) since s) :
    Lasting C s fun failure _ _ t =>
      Noted provider C organizationId key (some since, failure) t := by
  intro failure _ _ t ht since' hsince
  obtain rfl := Option.some.inj hsince
  exact hwas.evolves (hC.evolves ht)

theorem wpr_discard (hC : Fits provider C) {organizationId : UUID} {key : String}
    {error : Option Nat × Failure} (hs : C.Inv s)
    (hnoted : Noted provider C organizationId key error s) :
    wpr C (discard provider outage key error.1) (Ready C s) Whatever id L s := by
  obtain ⟨owned, failure⟩ := error
  cases owned with
  | none => exact wpr_pure.mpr ⟨rfl, hs, C.rely_refl s⟩
  | some since =>
    exact wpr_storageDelete hC (hnoted since rfl) lasting_whatever fun t ht hst => ⟨rfl, ht, hst⟩

theorem wpr_upload (hC : Fits provider C) {request : UploadRequest} :
    wpr C (uploadSourceFile provider outage tenant request) Whatever Whatever id ∅ s := by
  refine wpr_bind.mpr (wpr_block_noted (Noted.after hC tenant.organizationId request.key)
    (fun _ _ => trivial) (fun error t ht hnoted => ?_) ?_)
  · exact wpr_ready_bind (wpr_discard hC ht hnoted) (fun _ _ _ _ => trivial)
      fun _ _ _ _ _ => trivial
  have hnone : Lasting C s fun failure _ _ t =>
      Noted provider C tenant.organizationId request.key (none, failure) t :=
    fun _ _ _ _ _ => noted_none _
  refine wpr_bind.mpr (wpr_owning (wpr_bind.mpr (wpr_getRunLocked hnone
    fun t run L ht hst hrun horg => ?_)))
  refine wpr_bind.mpr (wpr_ensure.mpr ⟨fun _ => ?_, fun _ => noted_none _⟩)
  unfold saveUpload
  cases hcontent : request.content with
  | error refusal => exact wpr_throw.mpr (noted_none _)
  | ok saved =>
    refine wpr_bind.mpr (wpr_ensure.mpr ⟨fun _ => ?_, fun _ => noted_none _⟩)
    refine wpr_bind.mpr (wpr_lift.mpr (wp_act.mpr fun u hu hok => ?_))
    have hcommits := hC.commits (L := L) (.saved saved.object) hu.inv hok
    refine ⟨hcommits, wpr_bind.mpr (wpr_ensure.mpr ⟨fun _ => ?_, fun _ => noted_none _⟩)⟩
    have hkey : request.key = saved.key := by rw [UploadRequest.key, hcontent]
    have hwas : Was (Claims provider C tenant.organizationId saved.key none) u.moment
        (putObject saved.key saved.object u) := was_now (Claims.drawn saved.object hok)
    have hpreserved : Preserved (putObject saved.key saved.object u) saved.key :=
      .inl (by simp [putObject])
    refine wpr_pure.mpr (wpr_owning (wpr_record hC (.inl rfl) rfl
      ⟨_, hwas, hpreserved, .refl _⟩ ?_ (lasting_noted hC (hkey ▸ hwas))
      fun pending L v hlogged => ?_))
    · have hruns := (hC.evolves hu.rely).runs
      exact belongsTo_of_find (show u.runs.find request.runId = some run from hruns ▸ hrun) horg rfl
    · exact wpr_pure.mpr fun x hx hok => hlogged (pending x).securityAuditEvents x hx hok

theorem wpr_storageStat {key : String}
    {post : StorageObject → (FileStore → FileStore) → Set FileLock → FileStore → Prop}
    (hs : C.Inv s) (hfail : ∀ failure t, C.Inv t → C.Rely s t → fail failure id L t)
    (h : ∀ t object, C.Inv t → C.Rely s t → t.objects key = some object →
      post object id L t) :
    wpr C (storageStat provider outage key) post fail id L s := by
  have hnow := C.rely_refl s
  refine wpr_bind.mpr (wpr_ensure.mpr ⟨fun _ => ?_, fun _ => hfail _ s hs hnow⟩)
  refine wpr_bind.mpr (wpr_ensure.mpr ⟨fun _ => ?_, fun _ => hfail _ s hs hnow⟩)
  refine wpr_bind.mpr (wpr_lift.mpr (wp_get.mpr fun t ht => ?_))
  exact wpr_expect.mpr ⟨fun object hobject => h t object ht.inv ht.rely hobject,
    fun _ => hfail _ t ht.inv ht.rely⟩

theorem wpr_storageInspect {key originalFilename : String}
    {post : StoredUpload → (FileStore → FileStore) → Set FileLock → FileStore → Prop}
    (hfail : Lasting C s fail)
    (h : ∀ t upload, C.Rely s t → post upload pending L t) :
    wpr C (storageInspect outage key originalFilename) post fail pending L s := by
  refine wpr_bind.mpr (wpr_ensure.mpr ⟨fun _ => ?_, fun _ => hfail _ _ _ _ (C.rely_refl s)⟩)
  refine wpr_bind.mpr (wpr_lift.mpr (wp_get.mpr fun t ht => ?_))
  refine wpr_bind.mpr (wpr_expect.mpr ⟨fun object _ => ?_, fun _ => hfail _ _ _ _ ht.rely⟩)
  exact wpr_expect.mpr ⟨fun upload _ => h t upload ht.rely, fun _ => hfail _ _ _ _ ht.rely⟩

section

variable {runId : UUID} {payload : DirectUploadFinalizationRequest}

/-- Where no file of the organization has the key, the request takes it. -/
theorem wpr_findFinalized {post : Option SourceFileRecord × Nat →
      (FileStore → FileStore) → Set FileLock → FileStore → Prop}
    (hfail : Lasting C s fail)
    (h : ∀ t existing L, C.Inv t → (∀ file : SourceFileRecord, file.runId = runId →
        t.belongsTo tenant.organizationId file = true) →
      (existing = none → Claims provider C tenant.organizationId payload.storageKey none t) →
      post (existing, t.moment) id L t) (hC : Fits provider C) :
    wpr C (findFinalized provider tenant runId payload) post fail id L s := by
  refine wpr_bind.mpr (wpr_getRunLocked hfail fun t run L ht hst hrun horg => ?_)
  refine wpr_bind.mpr (wpr_ensure.mpr ⟨fun _ => ?_, fun _ => hfail _ _ _ _ hst⟩)
  refine wpr_bind.mpr (wpr_ensure.mpr ⟨fun _ => ?_, fun _ => hfail _ _ _ _ hst⟩)
  refine wpr_bind.mpr (wpr_ensure.mpr ⟨fun hnamespace => ?_, fun _ => hfail _ _ _ _ hst⟩)
  refine wpr_bind.mpr (wpr_lift.mpr (wp_get.mpr fun u hu => ?_))
  have hsu := C.rely_trans hst hu.rely
  refine wpr_bind.mpr (wpr_ensure.mpr ⟨fun _ => wpr_pure.mpr ?_, fun _ => hfail _ _ _ _ hsu⟩)
  refine h u _ L hu.inv (fun file hfile => ?_) fun hfree => .free hu.inv (.inl hnamespace) hfree
  have hruns := (hC.evolves hu.rely).runs
  exact belongsTo_of_find (show u.runs.find runId = some run from hruns ▸ hrun) horg hfile

theorem wpr_recordObject {since : Nat}
    {post : SourceFileRecord → (FileStore → FileStore) → Set FileLock → FileStore → Prop}
    (hC : Fits provider C) (hs : C.Inv s)
    (hbelongs : ∀ file : SourceFileRecord, file.runId = runId →
      s.belongsTo tenant.organizationId file = true)
    (hwas : Was (Claims provider C tenant.organizationId payload.storageKey none) since s)
    (hfail : Lasting C s fail)
    (h : ∀ file pending L t, (∀ u, C.Interferes L t u → C.Ok (.finalized file since) u →
      C.Commits (.finalized file since) L u (pending u)) → post file pending L t) :
    wpr C (recordObject provider outage tenant runId payload) post fail id L s := by
  refine wpr_bind.mpr (wpr_storageStat hs (fun _ t _ hst => hfail _ _ _ _ hst)
    fun t object ht hst hobject => ?_)
  refine wpr_bind.mpr (wpr_ensure.mpr ⟨fun _ => ?_, fun _ => hfail _ _ _ _ hst⟩)
  refine wpr_bind.mpr (wpr_ensure.mpr ⟨fun _ => ?_, fun _ => hfail _ _ _ _ hst⟩)
  refine wpr_bind.mpr (wpr_ensure.mpr ⟨fun _ => ?_, fun _ => hfail _ _ _ _ hst⟩)
  refine wpr_bind.mpr (wpr_storageInspect (hfail.after hst) fun u upload htu => ?_)
  have hsu := C.rely_trans hst htu
  refine wpr_bind.mpr (wpr_ensure.mpr ⟨fun _ => ?_, fun _ => hfail _ _ _ _ hsu⟩)
  have hverified : Verified provider C tenant.organizationId payload.storageKey since u :=
    ⟨t, hwas.evolves (hC.evolves hst), .inl (by rw [hobject]; rfl), hC.evolves htu⟩
  refine wpr_record hC (.inr rfl) rfl hverified ?_ (hfail.after hsu) fun pending L v hlogged => ?_
  · exact (hC.belongsTo hsu _ _).trans (hbelongs _ rfl)
  · exact wpr_bind.mpr (wpr_appendSecurityAuditEvent (wpr_pure.mpr
      (h _ _ L v fun u hu hok => hlogged _ u hu hok)))

theorem wpr_finalize (hC : Fits provider C) :
    wpr C (finalizeDirectUpload provider outage tenant runId payload) Whatever Whatever id ∅ s := by
  refine wpr_bind.mpr (wpr_block_noted (Noted.after hC tenant.organizationId payload.storageKey)
    (fun _ _ => trivial) (fun error t ht hnoted => ?_) ?_)
  · have hdiscard : wpr C (discard provider outage payload.storageKey error.1) (Ready C t) Whatever
        id ∅ t := wpr_discard hC ht hnoted
    obtain ⟨owned, failure⟩ := error
    cases failure with
    | storageNotFound | storageOperation => exact wpr_throw.mpr trivial
    | _ => exact wpr_ready_bind hdiscard (fun _ _ _ _ => trivial) fun _ _ _ _ _ => trivial
  have hnone : Lasting C s fun failure _ _ t =>
      Noted provider C tenant.organizationId payload.storageKey (none, failure) t :=
    fun _ _ _ _ _ => noted_none _
  refine wpr_bind.mpr (wpr_owning (wpr_findFinalized hnone
    (fun t existing L ht hbelongs hclaims => ?_) hC))
  cases existing with
  | some file =>
    exact wpr_pure.mpr fun v hv hok => hC.commits (.objects fun key hkey => hkey) hv.inv hok
  | none =>
    have hwas := was_now (hclaims rfl)
    exact wpr_bind.mpr (wpr_owning (wpr_recordObject hC ht hbelongs hwas (lasting_noted hC hwas)
      fun file pending L v hcommits => wpr_pure.mpr hcommits))

end

theorem wpr_deleteObject (hC : Fits provider C) {organizationId : UUID} {key : String}
    {file : SourceFileRecord} {since : Nat}
    {post : Unit → (FileStore → FileStore) → Set FileLock → FileStore → Prop}
    (hwas : Was (Claims provider C organizationId key (some file)) since s)
    (h : ∀ t, C.Inv t → C.Rely s t → post () pending L t) :
    wpr C (deleteObject provider outage organizationId key file since) post Whatever
      pending L s := by
  refine wpr_handle.mpr (wpr_bind.mpr (wpr_ensure.mpr ⟨fun _ => ?_, fun _ => trivial⟩))
  refine wpr_bind.mpr (wpr_ensure.mpr ⟨fun _ => ?_, fun _ => trivial⟩)
  exact wpr_storageDelete hC hwas (fun _ _ _ _ _ => trivial) h

/-- The label of the commit of a deletion. -/
def deletedLabel (organizationId : UUID) : Option (SourceFileRecord × Nat) → FileCommit
  | some (file, since) => .deleted organizationId file since
  | none => .other

/-- What removes a file, once its object is removed. -/
theorem wpr_forget (hC : Fits provider C) {file : SourceFileRecord} {since : Nat}
    {eventType : String} {details : List (String × String)} (hs : C.Inv s)
    (hwas : Was (fun s => file ∈ s.files.rows) since s)
    (hfile : s.belongsTo tenant.organizationId file = true) :
    wpr C (do
      removeFile file
      applyStorageDelta tenant.organizationId (-file.sizeBytes)
      appendSecurityAuditEvent tenant eventType details
      return some (file, since)) (Committable C (deletedLabel tenant.organizationId)) Whatever
        id L s := by
  refine wpr_bind.mpr (wpr_bind.mpr (wpr_lift.mpr (wp_acquireAll hs fun t ht => ?_)))
  refine wpr_lift.mpr (wp_update.mpr ?_)
  refine wpr_bind.mpr (wpr_applyStorageDelta (fun _ => rfl) lasting_whatever
    fun u organization hu horg hfind => ?_)
  refine wpr_bind.mpr (wpr_appendSecurityAuditEvent (wpr_pure.mpr fun v hv hok => ?_))
  have htv : C.Interferes L t v := (hu.mono Set.subset_union_left).trans
    (hv.mono (Set.subset_union_left.trans (Set.subset_insert _ _)))
  have hsv := C.rely_trans ht.rely htv.rely
  have hfind' : v.organizations.find organization.id = some organization :=
    (Eq.symm (hC.sameRow hv (Set.mem_insert _ _))).trans hfind
  have hbelongs : v.belongsTo organization.id file = true := by
    rw [hC.belongsTo hsv, horg, hfile]
  have hsize : ((organization.storageUsedBytes : Int) + -file.sizeBytes).toNat =
      organization.storageUsedBytes - file.sizeBytes := by omega
  rw [show deletedLabel tenant.organizationId (some (file, since)) =
    .deleted organization.id file since by rw [horg]; rfl] at hok ⊢
  dsimp only
  rw [hsize]
  exact hC.commits (.deleted _ (hwas.evolves (hC.evolves hsv)) hfind' hbelongs
    (Set.mem_insert _ _) (Set.mem_insert_of_mem _ (.inr (by simp)))) hv.inv hok

theorem wpr_delete (hC : Fits provider C) {fileId : UUID} :
    wpr C (deleteSourceFile provider outage tenant fileId) Whatever Whatever id ∅ s := by
  refine wpr_bind.mpr (wpr_committable (fun _ _ => trivial) (fun _ _ => trivial) ?_)
  refine wpr_bind.mpr (wpr_lift.mpr (wp_get.mpr fun t ht => ?_))
  cases hfound : (id t).findFile fileId tenant.organizationId with
  | none =>
    exact wpr_pure.mpr fun v hv hok => hC.commits (.objects fun key hkey => hkey) hv.inv hok
  | some record =>
    have hrecord : record ∈ t.files.rows :=
      Table.mem_of_find (Option.filter_eq_some_iff.mp hfound).1
    refine wpr_bind.mpr (wpr_getRunLocked lasting_whatever fun u run L hu htu hrun horg => ?_)
    refine wpr_bind.mpr (wpr_lift.mpr (wp_get.mpr fun v hv => ?_))
    refine wpr_bind.mpr (wpr_ensure.mpr ⟨fun _ => ?_, fun _ => trivial⟩)
    have htv := hC.evolves (C.rely_trans htu hv.rely)
    have hforget (x) (hx : C.Inv x) (hvx : C.Rely v x) : wpr C (do
        removeFile record
        applyStorageDelta tenant.organizationId (-record.sizeBytes)
        appendSecurityAuditEvent tenant "SOURCE_FILE_DELETED" [("file_id", fileId.format),
          ("run_id", record.runId.format), ("source_type", sourceTypeName record.sourceType)]
        return some (record, t.moment)) (Committable C (deletedLabel tenant.organizationId))
          Whatever id L x := by
      refine wpr_forget hC hx ⟨t, hrecord, rfl, htv.trans (hC.evolves hvx)⟩ ?_
      have hruns := (hC.evolves (C.rely_trans hv.rely hvx)).runs
      exact belongsTo_of_find (show x.runs.find record.runId = some run from hruns ▸ hrun) horg rfl
    cases hkey : record.storageKey with
    | none => exact hforget v hv.inv (C.rely_refl v)
    | some key =>
      have hwas : Was (Claims provider C tenant.organizationId key (some record)) t.moment v :=
        ⟨t, .found ht.inv hrecord hkey, rfl, htv⟩
      show wpr C (if _ then _ else _) _ _ _ _ _
      split
      · exact wpr_bind.mpr (wpr_deleteObject hC hwas hforget)
      · exact hforget v hv.inv (C.rely_refl v)

/-! ### Maintenance -/

theorem wpr_sweep (hC : Fits provider C) {organizationId : UUID} {referenced : List String}
    {since : Nat} {delete : Bool} {candidates : List String} (hs : C.Inv s)
    (hwas : ∀ key ∈ candidates, key ∉ referenced →
      Was (Claims provider C organizationId key none) since s) :
    wpr C (sweep provider outage referenced since delete candidates) (Ready C s) Whatever
      id L s := by
  suffices hsweep : ∀ t, C.Inv t → C.Rely s t → wpr C
      (sweep provider outage referenced since delete candidates) (Ready C s) Whatever id L t from
    hsweep s hs (C.rely_refl s)
  induction candidates with
  | nil => exact fun t ht hst => wpr_pure.mpr ⟨rfl, ht, hst⟩
  | cons key candidates ih =>
    have hrest := ih fun other hother => hwas other (List.mem_cons_of_mem _ hother)
    intro t ht hst
    unfold sweep
    split
    · exact hrest t ht hst
    · next hkey =>
      have hcounts (count : Nat × Nat → Nat × Nat) (u) (hu : C.Inv u) (hsu : C.Rely s u) :
          wpr C (do
            let counts ← sweep provider outage referenced since delete candidates
            return count counts) (Ready C s) Whatever id L u :=
        wpr_ready_bind (hrest u hu hsu) (fun _ _ _ _ => trivial)
          fun _ _ v hv hsv => wpr_pure.mpr ⟨rfl, hv, hsv⟩
      split
      · have hkey' := (hwas key List.mem_cons_self (by simpa using hkey)).evolves (hC.evolves hst)
        exact wpr_bind.mpr (wpr_storageDelete hC hkey' lasting_whatever fun u hu htu =>
          hcounts (fun counts => (counts.1 + 1, counts.2 + 1)) u hu (C.rely_trans hst htu))
      · exact hcounts (fun counts => (counts.1 + 1, counts.2)) t ht hst

theorem wpr_close {post : Unit → (FileStore → FileStore) → Set FileLock → FileStore → Prop}
    (h : ∀ t, C.Inv t → C.Rely s t → post () id ∅ t) : wpr C close post Whatever pending L s :=
  wpr_lift.mpr (wp_abort.mpr fun t ht => h t ht.inv ht.rely)

/-- What is listed is offered to the organization. -/
theorem wpr_storageList {organizationId : UUID} {cutoff : Instant} {limit : Nat}
    {post : List String → (FileStore → FileStore) → Set FileLock → FileStore → Prop}
    (h : ∀ t candidates, C.Inv t → C.Rely s t →
      (∀ key ∈ candidates, Offered provider organizationId key) → post candidates pending L t) :
    wpr C (storageList provider outage organizationId cutoff limit) post Whatever pending L s := by
  refine wpr_bind.mpr (wpr_ensure.mpr ⟨fun _ => ?_, fun _ => trivial⟩)
  exact wpr_lift.mpr (wp_get.mpr fun t ht => h t _ ht.inv ht.rely
    fun key hkey => .inr ⟨_, _, _, hkey⟩)

variable (provider) in
/-- A key that is not referenced is no file's. -/
theorem wpr_readReferenced {organizationId : UUID}
    {post : List String × Nat → (FileStore → FileStore) → Set FileLock → FileStore → Prop}
    (h : ∀ t referenced, C.Inv t → C.Rely s t → (∀ key, Offered provider organizationId key →
        key ∉ referenced → Was (Claims provider C organizationId key none) t.moment t) →
      post (referenced, t.moment) id L t) :
    wpr C (readReferenced organizationId) post Whatever id L s := by
  refine wpr_lift.mpr (wp_get.mpr fun t ht => h t _ ht.inv ht.rely fun key hoffered hkey => ?_)
  refine was_now (.free ht.inv hoffered (List.find?_eq_none.mpr fun file hfile heq => hkey ?_))
  exact List.mem_filterMap.mpr ⟨file, hfile, of_decide_eq_true heq⟩

theorem wpr_cleanup (hC : Fits provider C) {cleanup : AbandonedUploadCleanup} {dryRun : Bool}
    {now : Instant} :
    wpr C (cleanup.run provider outage dryRun now) Whatever Whatever id ∅ s := by
  have horganizations : ∀ organizationIds L t, C.Inv t → wpr C
      (cleanup.runOrganizations provider outage dryRun now organizationIds) Whatever Whatever
        id L t := by
    intro organizationIds
    induction organizationIds with
    | nil => exact fun L t ht => wpr_pure.mpr trivial
    | cons organizationId organizationIds ih =>
      intro L t ht
      refine wpr_bind.mpr (wpr_storageList fun u candidates hu htu hoffered => ?_)
      refine wpr_bind.mpr (wpr_readReferenced provider fun v referenced hv huv hfree => ?_)
      refine wpr_bind.mpr (wpr_close fun x hx hvx => ?_)
      have hwas (key : String) (hkey : key ∈ candidates) (hnot : key ∉ referenced) :=
        (hfree key (hoffered key hkey) hnot).evolves (hC.evolves hvx)
      refine wpr_ready_bind (wpr_sweep hC hx hwas) (fun _ _ _ _ => trivial) fun _ L y hy hxy => ?_
      exact wpr_bind.mpr (wp_mono (fun r _ _ _ _ => by cases r <;> exact trivial) (ih L y hy))
  refine wpr_bind.mpr (wpr_lift.mpr (wp_get.mpr fun t ht => ?_))
  exact wpr_bind.mpr (wpr_close fun u hu htu => horganizations _ _ u hu)

theorem wpr_checkRecord {file : SourceFileRecord} (hs : C.Inv s) :
    wpr C (StorageIntegrityVerifier.checkRecord provider outage file) (Ready C s) Whatever
      id L s := by
  refine wpr_bind.mpr (wpr_handle.mpr (wpr_bind.mpr (wpr_storageStat hs
    (fun failure t ht hst => ?_) fun t object ht hst hobject => ?_)))
  · split
    · exact wpr_pure.mpr (wpr_pure.mpr ⟨rfl, ht, hst⟩)
    · exact wpr_throw.mpr trivial
  · exact wpr_pure.mpr (wpr_pure.mpr ⟨rfl, ht, hst⟩)

theorem wpr_checkRecords {files : List SourceFileRecord} (hs : C.Inv s) :
    wpr C (StorageIntegrityVerifier.checkRecords provider outage files) (Ready C s) Whatever
      id L s := by
  suffices hcheck : ∀ L t, C.Inv t → C.Rely s t → wpr C
      (StorageIntegrityVerifier.checkRecords provider outage files) (Ready C s) Whatever id L t from
    hcheck L s hs (C.rely_refl s)
  induction files with
  | nil => exact fun L t ht hst => wpr_pure.mpr ⟨rfl, ht, hst⟩
  | cons file files ih =>
    intro L t ht hst
    refine wpr_ready_bind (wpr_checkRecord ht) (fun _ _ _ _ => trivial) fun _ L u hu htu => ?_
    exact wpr_ready_bind (ih L u hu (C.rely_trans hst htu)) (fun _ _ _ _ => trivial)
      fun _ _ v hv hsv => wpr_pure.mpr ⟨rfl, hv, hsv⟩

theorem wpr_repairUsage (hC : Fits provider C) {organizationId : UUID} {usedBytes since : Nat}
    {repairs : Bool} {post : Unit → (FileStore → FileStore) → Set FileLock → FileStore → Prop}
    (hs : C.Inv s)
    (hwas : Was (fun s => s.totalSizeForOrganization organizationId = usedBytes) since s)
    (h : ∀ t, C.Inv t → C.Rely s t → post () id ∅ t) :
    wpr C (repairUsage organizationId usedBytes since repairs) post Whatever id L s := by
  unfold repairUsage
  split
  · refine wpr_bind.mpr (wpr_lift.mpr (wp_acquireAll hs fun t ht => ?_))
    refine wpr_bind.mpr (wpr_lift.mpr (wp_update.mpr ?_))
    refine wpr_lift.mpr (wp_finish.mpr fun u hu hok => ?_)
    have hlock : FileLock.organization organizationId ∈
        L ∪ {k | k ∈ [FileLock.organization organizationId]} := .inr (by simp)
    have hsu := C.rely_trans ht.rely hu.rely
    have hcommits := hC.commits (.repaired (hwas.evolves (hC.evolves hsu)) hlock) hu.inv hok
    exact ⟨hcommits, h _ hcommits.inv (C.rely_trans hsu hcommits.rely)⟩
  · exact wpr_close h

theorem wpr_verify (hC : Fits provider C) {verifier : StorageIntegrityVerifier} {repair : Bool}
    {now : Instant} :
    wpr C (verifier.run provider outage repair now) Whatever Whatever id ∅ s := by
  have horganizations : ∀ organizationIds L t, C.Inv t → wpr C
      (verifier.runOrganizations provider outage repair now organizationIds) Whatever Whatever
        id L t := by
    intro organizationIds
    induction organizationIds with
    | nil => exact fun L t ht => wpr_pure.mpr trivial
    | cons organizationId organizationIds ih =>
      intro L t ht
      refine wpr_bind.mpr (wpr_lift.mpr (wp_get.mpr fun u hu => ?_))
      refine wpr_bind.mpr (wpr_expect.mpr ⟨fun organization _ => ?_, fun _ => trivial⟩)
      refine wpr_bind.mpr (wpr_lift.mpr (wp_get.mpr fun v hv => ?_))
      refine wpr_bind.mpr (wpr_readReferenced provider fun x referenced hx hvx hfree => ?_)
      refine wpr_bind.mpr (wpr_lift.mpr (wp_get.mpr fun y hy => ?_))
      refine wpr_bind.mpr (wpr_repairUsage hC hy.inv (was_now rfl) fun z hz hyz => ?_)
      refine wpr_ready_bind (wpr_checkRecords hz) (fun _ _ _ _ => trivial) fun _ L b hb hzb => ?_
      refine wpr_bind.mpr (wpr_storageList fun c candidates hc hbc hoffered => ?_)
      have hxc := hC.evolves (C.rely_trans hy.rely
        (C.rely_trans hyz (C.rely_trans hzb hbc)))
      have hwas (key : String) (hkey : key ∈ candidates) (hnot : key ∉ referenced) :=
        (hfree key (hoffered key hkey) hnot).evolves hxc
      refine wpr_ready_bind (wpr_sweep hC hc hwas) (fun _ _ _ _ => trivial) fun _ L d hd _ => ?_
      exact wpr_bind.mpr (wp_mono (fun r _ _ _ _ => by cases r <;> exact trivial) (ih L d hd))
  refine wpr_bind.mpr (wpr_lift.mpr (wp_get.mpr fun t ht => ?_))
  exact wpr_bind.mpr (wpr_close fun u hu htu => horganizations _ _ u hu)

/-- **Every request keeps to a contract that asks no more than this of it.** -/
theorem wp_storage (hC : Fits provider C) :
    ∀ request, wp C (StorageRequest.program provider request) Whatever id ∅ s
  | (.upload .., _) => wp_serve (wpr_upload hC)
  | (.finalize .., _) => wp_serve (wpr_finalize hC)
  | (.delete .., _) => wp_serve (wpr_delete hC)
  | (.cleanUp .., _) => wp_serve (wpr_cleanup hC)
  | (.verify .., _) => wp_serve (wpr_verify hC)
  | (.put key object, _) => wp_act.mpr fun t ht hok =>
    ⟨hC.commits (.objects (keeps_put t key object)) ht.inv hok, trivial⟩
  | (.lose key, _) => wp_act.mpr fun t ht hok =>
    ⟨hC.commits (.objects (keeps_lose t key)) ht.inv hok, trivial⟩

end

end ReconcileFlow.Storage
