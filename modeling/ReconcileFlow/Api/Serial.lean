import ReconcileFlow.Api.Files
import ReconcileFlow.Storage.Deletion
import ReconcileFlow.Support.Serial

/-!
# Api — Serial

The file routes of `Storage.Files`, served alone, beside their transactions in `Api.Files`.  The
rows of both are the same (`Mirrors`), and stay so: where the transaction returns, the route answers
the same; where it raises, the route fails, and has changed no row.

What comes to a transaction from outside is what storage and the quota answer the route, with their
errors told as those of the database in any way (`told`).
-/

namespace ReconcileFlow.Api

open Support Support.Program Support.Transaction Tenancy
open Persistence hiding SourceFileRecord sourceFileSchema
open Storage (FileStore FileLock FileCommit FileRequest SourceFileRecord StoredUpload
  StorageProvider Outage Failure UploadRefusal SavedUpload UploadRequest getRunLocked addFile
  applyStorageDelta owning saveUpload DirectUploadFinalizationRequest storageStat storageInspect
  metadataMismatch validationFailed recordObject findFinalized appendSecurityAuditEvent deleteStored
  deleteObject deleteFound removeFile)

/-- The rows that the routes read and write. -/
structure Mirrors (store : FileStore) (db : TenantDatabase) : Prop where
  runs : store.runs = db.runs
  jobs : store.jobs = db.jobs
  files : store.files = db.files
  sources : db.sourceFiles.rows = db.files.rows.map fun file => ⟨file.runId, file.sourceType⟩

/-- Only what the transactions do not read has changed. -/
structure SameRows (store after : FileStore) : Prop where
  runs : after.runs = store.runs
  jobs : after.jobs = store.jobs
  files : after.files = store.files

theorem Mirrors.same {store after : FileStore} {db : TenantDatabase} (hm : Mirrors store db)
    (h : SameRows store after) : Mirrors after db :=
  ⟨h.runs.trans hm.runs, h.jobs.trans hm.jobs, h.files.trans hm.files, hm.sources⟩

/-- The request has done nothing yet. -/
def Fresh (store : FileStore) (db : TenantDatabase) (s : Connection FileStore)
    (d : TenantDatabase) : Prop :=
  s = ⟨store, id⟩ ∧ d = db

/-- The rows are as the transaction has them; those that are committed are still those of `db`, and
the quotas those of `store`. -/
structure Writing (store : FileStore) (db : TenantDatabase) (s : Connection FileStore)
    (d : TenantDatabase) : Prop where
  committed : Mirrors s.committed db
  seen : Mirrors s.view d
  organizations : s.view.organizations = store.organizations

/-- All rows are written, and not yet committed. -/
def Stored (db : TenantDatabase) (s : Connection FileStore) (d : TenantDatabase) : Prop :=
  Mirrors s.committed db ∧ Mirrors s.view d

/-- What was written is given up. -/
def Lost {ε : Type} (db : TenantDatabase) (_ : ε) (_ : Error) (s : Connection FileStore) : Prop :=
  Mirrors s.committed db

theorem Fresh.lost {ε : Type} {store : FileStore} {db d : TenantDatabase} {e : ε} {e' : Error}
    {s : Connection FileStore} (h : Fresh store db s d) (hm : Mirrors store db) :
    Lost db e e' s := by
  rw [Lost, h.1]
  exact hm

theorem Fresh.writing {store : FileStore} {db d : TenantDatabase} {s : Connection FileStore}
    (h : Fresh store db s d) (hm : Mirrors store db) : Writing store db s d := by
  obtain ⟨rfl, rfl⟩ := h
  exact ⟨hm, hm, rfl⟩

/-- What the quota says to so many bytes. -/
def charged (store : FileStore) (organizationId : UUID) (told : Failure → Error) (delta : Int) :
    Except Error Unit :=
  (respond (applyStorageDelta organizationId delta) ⟨store, id⟩).1.mapError told

/-- What storage says to an upload. -/
def savedUpload (store : FileStore) (outage : Outage) (organizationId : UUID)
    (told : Failure → Error) (content : Except UploadRefusal SavedUpload) :
    Except Error (String × StoredUpload) :=
  ((respond (saveUpload outage organizationId content) ⟨store, id⟩).1.map
    fun saved => (saved.1.key, saved.1.upload)).mapError told

section

variable {store : FileStore} {db : TenantDatabase} {runId organizationId : UUID}

theorem follows_getRun (hm : Mirrors store db) :
    Follows (Fresh store db) (getRunLocked runId organizationId)
      (onDatabase (ReconciliationRunRepository.get runId organizationId))
      (fun run run' s d => run = run' ∧ Fresh store db s d) (Lost db) := by
  rintro s d ⟨rfl, rfl⟩
  have hrespond : respond (getRunLocked runId organizationId) ⟨store, id⟩ =
      (((store.runs.find runId).filter fun run =>
        decide (run.organizationId = organizationId)).elim
          (.error (.raised (runNotFound runId))) .ok, ⟨store, id⟩) := by
    simp only [getRunLocked, respond_bind, respond_lift, alone_selectForUpdate, respond_expect,
      Connection.view_begin, runNotFound]
  constructor
  · intro run d' hruns
    obtain ⟨hrun, horg, rfl⟩ := runs_onDatabase_run.mp hruns
    refine ⟨run, _, hrespond.trans ?_, rfl, rfl, rfl⟩
    rw [hm.runs, hrun, Option.filter_some, if_pos (decide_eq_true horg)]
    rfl
  · intro e hfails
    cases hfound : (store.runs.find runId).filter fun run =>
        decide (run.organizationId = organizationId) with
    | none =>
      rw [hfound] at hrespond
      exact ⟨_, _, hrespond, hm⟩
    | some run =>
      obtain ⟨hrun, horg⟩ := Option.filter_eq_some_iff.mp hfound
      rw [hm.runs] at hrun
      exact absurd hfails
        (runs_onDatabase_run.mpr ⟨hrun, of_decide_eq_true horg, rfl⟩).not_fails

/-- Both go on if the run is there and pending. -/
theorem follows_pending {α β : Type} {x : FileRequest α} {t : TenantSession β} {failure : Failure}
    {e : Error} {post : α → β → Connection FileStore → TenantDatabase → Prop}
    (hm : Mirrors store db) (h : Follows (Fresh store db) x t post (Lost db)) :
    Follows (Fresh store db)
      (do
        let run ← getRunLocked runId organizationId
        ensure (run.status = .pending) failure
        x)
      (do
        let run ← onDatabase (ReconciliationRunRepository.get runId organizationId)
        require (run.status = .pending) e
        t) post (Lost db) := by
  refine (follows_getRun hm).bindEq fun run => ?_
  refine (Follows.ensure Iff.rfl fun _ _ hs _ => hs.lost hm).bind fun _ _ => ?_
  exact h.weaken (fun _ _ hs => hs.2) (fun _ _ _ _ hpost => hpost) fun _ _ _ hlost => hlost

/-- Another file of the run has the type. -/
def hasSource (store : FileStore) (file : SourceFileRecord) : Bool :=
  store.files.rows.any fun other =>
    decide (other.runId = file.runId ∧ other.sourceType = file.sourceType)

theorem respond_addFile (s : Connection FileStore) (file : SourceFileRecord) :
    respond (addFile file) s =
      if hasSource s.view file = false ∧ (s.view.files.find file.id).isSome = false then
        (.ok (), s.write fun store => { store with
          files := store.files.add file
          history := store.history ++ [.recorded file] })
      else (.error (if hasSource s.view file = false then .raised integrityError
        else .raised (.persistenceConflict ("run " ++ file.runId.format ++ " already has a " ++
          Storage.sourceTypeName file.sourceType ++ " source file"))), s) := by
  unfold addFile hasSource
  simp only [respond_bind, respond_lift, alone_get, respond_ensure, respond_insert]
  generalize (s.view.files.rows.any _) = taken
  cases taken with
  | true => rfl
  | false => cases (s.view.files.find file.id).isSome <;> rfl

/-- A file with a new id that is the first of its run and type can be added. -/
theorem exists_addFile {file : SourceFileRecord} (hm : Mirrors store db)
    (hsource : hasSource store file = false) (hid : (store.files.find file.id).isSome = false) :
    ∃ files sources, db.files.insert? file = some files ∧
      Runs (SourceFileRepository.add file) db ()
        { db with files := files, sourceFiles := sources } ∧
      sources.rows = files.rows.map fun file => ⟨file.runId, file.sourceType⟩ := by
  rw [hasSource, hm.files] at hsource
  rw [hm.files] at hid
  have hothers : ∀ other ∈ db.files.rows,
      ¬ (other.runId = file.runId ∧ other.sourceType = file.sourceType) := by
    intro other hother hsame
    rw [List.any_eq_false] at hsource
    exact hsource other hother (decide_eq_true hsame)
  have hnone : db.files.find file.id = none := by simpa using hid
  obtain ⟨files, hinsert⟩ := Table.exists_insert (t := db.files) (r := file) rfl
    (Table.find_eq_none.mp hnone) fun other hother => by
      have hne := hothers other hother
      simp only [Storage.sourceFileSchema, Bool.or_eq_false_iff, decide_eq_false_iff_not]
      exact ⟨fun h => hne ⟨h.1.symm, h.2.symm⟩, hne⟩
  obtain ⟨sources, hsources⟩ := Table.exists_insert (t := db.sourceFiles)
    (r := ⟨file.runId, file.sourceType⟩) rfl (by
      intro source hin
      rw [hm.sources] at hin
      obtain ⟨other, hother, rfl⟩ := List.mem_map.mp hin
      exact fun he => hothers other hother (Prod.mk.inj he)) fun _ _ => rfl
  refine ⟨files, sources, hinsert, ?_, ?_⟩
  · simp only [SourceFileRepository.add, runs_bind, runs_get, runs_require, runs_fromOption,
      runs_set]
    exact ⟨_, _, ⟨rfl, rfl⟩, (), _, ⟨Bool.eq_false_iff.mp hsource, rfl⟩, files, _, ⟨hinsert, rfl⟩,
      sources, _, ⟨hsources, rfl⟩, rfl⟩
  · rw [Table.rows_insert hsources, Table.rows_insert hinsert, hm.sources, List.map_append]
    rfl

/-- No other file can. -/
theorem free_of_runs_add {file : SourceFileRecord} (hm : Mirrors store db) {u : Unit}
    {db' : TenantDatabase} (h : Runs (SourceFileRepository.add file) db u db') :
    hasSource store file = false ∧ (store.files.find file.id).isSome = false := by
  simp only [SourceFileRepository.add, runs_bind, runs_get, runs_require, runs_fromOption,
    runs_set] at h
  obtain ⟨_, _, ⟨rfl, rfl⟩, _, _, ⟨hnone, rfl⟩, files, _, ⟨hinsert, rfl⟩, -⟩ := h
  constructor
  · rw [hasSource, hm.files]
    exact Bool.eq_false_iff.mpr hnone
  · rw [hm.files, show db.files.find file.id = none from Table.find_of_insert hinsert]
    rfl

theorem follows_addFile (file : SourceFileRecord) :
    Follows (Writing store db) (addFile file) (SourceFileRepository.add file)
      (fun _ _ => Writing store db) (Lost db) := by
  intro s d hs
  have hrespond := respond_addFile s file
  by_cases hfree : hasSource s.view file = false ∧ (s.view.files.find file.id).isSome = false
  · rw [if_pos hfree] at hrespond
    obtain ⟨files, sources, hinsert, hadd, hsources⟩ := exists_addFile hs.seen hfree.1 hfree.2
    refine ⟨fun u d' hruns => ?_, fun e hfails => absurd hfails hadd.not_fails⟩
    obtain ⟨-, rfl⟩ := hruns.unique hadd
    refine ⟨(), _, hrespond, hs.committed, ⟨hs.seen.runs, hs.seen.jobs, ?_, hsources⟩,
      hs.organizations⟩
    show s.view.files.add file = files
    rw [hs.seen.files, Table.add, hinsert, Option.getD_some]
  · rw [if_neg hfree] at hrespond
    exact ⟨fun u d' hruns => absurd (free_of_runs_add hs.seen hruns) hfree,
      fun e hfails => ⟨_, s, hrespond, hs.committed⟩⟩

/-- What the quota says depends on the organizations only. -/
theorem respond_applyStorageDelta (store : FileStore) (organizationId : UUID)
    {s : Connection FileStore} (delta : Int)
    (horganizations : s.view.organizations = store.organizations) :
    ∃ s', respond (applyStorageDelta organizationId delta) s =
        ((respond (applyStorageDelta organizationId delta) ⟨store, id⟩).1, s') ∧
      s'.committed = s.committed ∧ SameRows s.view s'.view := by
  unfold applyStorageDelta
  simp only [respond_bind, respond_lift, alone_selectForUpdate, respond_expect, respond_ensure,
    alone_update, Connection.view_begin, horganizations]
  cases store.organizations.find organizationId with
  | none => exact ⟨s, rfl, rfl, rfl, rfl, rfl⟩
  | some record =>
    dsimp only [Option.elim]
    split
    · exact ⟨_, rfl, rfl, rfl, rfl, rfl⟩
    · exact ⟨s, rfl, rfl, rfl, rfl, rfl⟩

theorem follows_applyStorageDelta (told : Failure → Error) (delta : Int) :
    Follows (Writing store db) (applyStorageDelta organizationId delta)
      (fromExcept (charged store organizationId told delta)) (fun _ _ => Stored db) (Lost db) := by
  unfold charged
  have hanswers := fun s d (hs : Writing store db s d) =>
    respond_applyStorageDelta store organizationId delta hs.organizations
  cases hanswer : (respond (applyStorageDelta organizationId delta) ⟨store, id⟩).1 with
  | ok u =>
    refine .fromOk fun s d hs => ?_
    obtain ⟨s', hrespond, hcommitted, hrows⟩ := hanswers s d hs
    rw [hanswer] at hrespond
    exact ⟨u, s', hrespond, hcommitted ▸ hs.committed, hs.seen.same hrows⟩
  | error failure =>
    refine .fromError fun s d hs => ?_
    obtain ⟨s', hrespond, hcommitted, -⟩ := hanswers s d hs
    rw [hanswer] at hrespond
    exact ⟨failure, s', hrespond, (hcommitted ▸ hs.committed : Mirrors s'.committed db)⟩

/-! ### Uploads -/

variable (provider : StorageProvider) (outage : Outage)

theorem respond_saveUpload (store : FileStore) (organizationId : UUID)
    (content : Except UploadRefusal SavedUpload) :
    ∃ t, respond (saveUpload outage organizationId content) ⟨store, id⟩ =
        ((respond (saveUpload outage organizationId content) ⟨store, id⟩).1, ⟨t, id⟩) ∧
      SameRows store t ∧ t.organizations = store.organizations ∧
      ∀ saved since, (respond (saveUpload outage organizationId content) ⟨store, id⟩).1 =
        .ok (saved, since) → content = .ok saved := by
  cases content with
  | error refusal => exact ⟨store, rfl, ⟨rfl, rfl, rfl⟩, rfl, fun _ _ h => by cases h⟩
  | ok saved =>
    unfold saveUpload
    simp only [respond_bind, respond_ensure, respond_lift, alone_act, respond_pure]
    split
    · split
      · refine ⟨_, rfl, ⟨rfl, rfl, rfl⟩, rfl, fun _ _ h => ?_⟩
        cases h
        rfl
      · exact ⟨_, rfl, ⟨rfl, rfl, rfl⟩, rfl, fun _ _ h => by cases h⟩
    · exact ⟨_, rfl, ⟨rfl, rfl, rfl⟩, rfl, fun _ _ h => by cases h⟩

theorem follows_saveUpload (organizationId : UUID) (hm : Mirrors store db) (told : Failure → Error)
    (content : Except UploadRefusal SavedUpload) :
    Follows (Fresh store db) (saveUpload outage organizationId content)
      (fromExcept (savedUpload store outage organizationId told content))
      (fun saved stored s d => stored = (saved.1.key, saved.1.upload) ∧ content = .ok saved.1 ∧
        Writing store db s d) (Lost db) := by
  unfold savedUpload
  obtain ⟨t, hrespond, hrows, horganizations, hcontent⟩ :=
    respond_saveUpload outage store organizationId content
  cases hanswer : (respond (saveUpload outage organizationId content) ⟨store, id⟩).1 with
  | ok saved =>
    rw [hanswer] at hrespond
    refine .fromOk ?_
    rintro s d ⟨rfl, rfl⟩
    exact ⟨saved, _, hrespond, rfl, hcontent _ _ hanswer, hm.same hrows, hm.same hrows,
      horganizations⟩
  | error failure =>
    rw [hanswer] at hrespond
    refine .fromError ?_
    rintro s d ⟨rfl, rfl⟩
    exact ⟨failure, _, hrespond, hm.same hrows⟩

theorem follows_owning {α β : Type} {pre : Connection FileStore → TenantDatabase → Prop}
    {x : FileRequest α} {t : TenantSession β}
    {post : α → β → Connection FileStore → TenantDatabase → Prop} (owned : Option Nat)
    (h : Follows pre x t post (Lost db)) : Follows pre (owning owned x) t post (Lost db) :=
  h.handle fun failure _ s hs => ⟨(owned, failure), s, rfl, hs⟩

/-- The request is over, and has left the rows of `db`. -/
def Ended (s : Connection FileStore) (db : TenantDatabase) : Prop :=
  ∃ store, s = ⟨store, id⟩ ∧ Mirrors store db

/-- Removing an object changes no row. -/
theorem ended_discard {s : Connection FileStore} (h : Ended s db) (key : String)
    (owned : Option Nat) : Ended (respond (Storage.discard provider outage key owned) s).2 db := by
  obtain ⟨t, rfl, hm⟩ := h
  cases owned with
  | none => exact ⟨t, rfl, hm⟩
  | some since =>
    unfold Storage.discard Storage.storageDelete
    simp only [respond_bind, respond_ensure, respond_lift, alone_act]
    split
    · split
      · exact ⟨_, rfl, hm.same ⟨rfl, rfl, rfl⟩⟩
      · exact ⟨t, rfl, hm⟩
    · exact ⟨t, rfl, hm⟩

theorem fails_discard {α : Type} (key : String) (owned : Option Nat) (failure : Failure)
    {s : Connection FileStore} (h : Ended s db) : ∃ e s',
      respond (Storage.discard provider outage key owned >>= fun _ => throw failure :
        FileRequest α) s = (.error e, s') ∧ Ended s' db := by
  have hended := ended_discard provider outage h key owned
  rw [respond_bind]
  generalize respond (Storage.discard provider outage key owned) s = answered at hended
  obtain ⟨failed | u, s'⟩ := answered
  · exact ⟨failed, s', rfl, hended⟩
  · exact ⟨failure, s', rfl, hended⟩

variable (tenant : TenantContext)

def uploadSize : Except UploadRefusal SavedUpload → ℕ
  | .ok saved => saved.upload.sizeBytes
  | .error _ => 0

/-- The quota has its say when the row is there. -/
theorem follows_record (told : Failure → Error) (file : SourceFileRecord) {size : ℕ}
    (hsize : file.sizeBytes = size) {α β : Type} {x : FileRequest α} {t : TenantSession β}
    {post : α → β → Connection FileStore → TenantDatabase → Prop}
    (h : Follows (Stored db) x t post (Lost db)) :
    Follows (Writing store db)
      (do
        addFile file
        applyStorageDelta organizationId file.sizeBytes
        x)
      (do
        SourceFileRepository.add file
        fromExcept (charged store organizationId told size)
        t) post (Lost db) := by
  subst hsize
  refine (follows_addFile file).bind fun _ _ => ?_
  exact (follows_applyStorageDelta told _).bind fun _ _ => h

/-- The audit trail is none of the rows. -/
theorem follows_appendSecurityAuditEvent (eventType : String) (details : List (String × String)) :
    Follows (Stored db) (appendSecurityAuditEvent tenant eventType details)
      (Pure.pure () : TenantSession Unit) (fun _ _ => Stored db) (Lost db) := by
  intro s d hs
  refine ⟨fun u d' hruns => ?_, fun e hfails => absurd hfails fails_pure⟩
  obtain ⟨-, rfl⟩ := runs_pure.mp hruns
  exact ⟨(), _, respond_lift _, hs.1, hs.2.same ⟨rfl, rfl, rfl⟩⟩

/-- A block of statements, and what is done about its errors. -/
theorem follows_route {ε α β : Type} {body : ExceptT ε (Program FileStore FileLock FileCommit) α}
    {t : TenantSession β} {R : α → β → Prop} {label : α → FileCommit} {handler : ε → FileRequest α}
    (hbody : Follows (Fresh store db) body t
      (fun a b s d => R a b ∧ Stored db s d) (Lost db))
    (hhandler : ∀ e s, Ended s db →
      ∃ e₂ s', respond (handler e) s = (.error e₂, s') ∧ Ended s' db) :
    Follows (Fresh store db) (handle (unitOfWork label body) handler) t
      (fun a b s d => R a b ∧ Ended s d) fun _ _ s => Ended s db := by
  refine ((hbody.unitOfWork label).weaken (fun _ _ h => h) ?_ ?_).handle
    (E := fun _ _ s => Ended s db) fun e _ s hs => hhandler e s hs
  · rintro a b _ d ⟨s, ⟨hab, -, hseen⟩, rfl⟩
    exact ⟨hab, _, rfl, hseen⟩
  · rintro e e' _ ⟨s, hlost, rfl⟩
    exact ⟨_, rfl, hlost⟩

/-- **Uploads.** -/
theorem follows_uploadSourceFile (hm : Mirrors store db) (told : Failure → Error)
    (request : UploadRequest) :
    Follows (Fresh store db) (Storage.uploadSourceFile provider outage tenant request)
      (Api.uploadSourceFile request.fileId request.runId tenant.organizationId request.sourceType
        (savedUpload store outage tenant.organizationId told request.content)
        (charged store tenant.organizationId told (uploadSize request.content)) request.now)
      (fun file file' s d => file = file' ∧ Ended s d) fun _ _ s => Ended s db := by
  have hsplit : Api.uploadSourceFile request.fileId request.runId tenant.organizationId
      request.sourceType (savedUpload store outage tenant.organizationId told request.content)
      (charged store tenant.organizationId told (uploadSize request.content)) request.now = (do
      let run ← onDatabase (ReconciliationRunRepository.get request.runId tenant.organizationId)
      require (run.status = .pending)
        (.api 409 "RUN_NOT_PENDING" "Files can only be uploaded to a pending reconciliation run.")
      fromExcept (savedUpload store outage tenant.organizationId told request.content)) >>=
      fun saved => do
        let file := sourceFile request.fileId request.runId request.sourceType saved.1 saved.2
          request.now
        SourceFileRepository.add file
        fromExcept (charged store tenant.organizationId told (uploadSize request.content))
        return file := by
    simp only [Api.uploadSourceFile, bind_assoc]
  rw [hsplit]
  unfold Storage.uploadSourceFile
  dsimp only
  refine Follows.weaken (Follows.pureLeft (follows_route (R := fun stored file => stored.1 = file)
    ?_ fun _ _ hs => fails_discard provider outage _ _ _ hs) _) (fun _ _ h => h) ?_ fun _ _ _ h => h
  · have hsaved := follows_saveUpload outage tenant.organizationId hm told request.content
    refine (follows_owning none (follows_pending hm hsaved)).bind fun saved stored => ?_
    rintro s d ⟨rfl, hcontent, hs⟩
    have hsize : (sourceFile request.fileId request.runId request.sourceType saved.1.key
        saved.1.upload request.now).sizeBytes = uploadSize request.content := by
      rw [hcontent]
      rfl
    exact follows_owning _ (follows_record told _ hsize (.pure _ _ fun _ _ h => ⟨rfl, h⟩)) s d hs
  · rintro _ file s d ⟨stored, ⟨hfile, hended⟩, rfl⟩
    exact ⟨hfile, hended⟩

/-! ### Direct uploads -/

/-- What the check of the namespace raises. -/
def ownedKey (provider : StorageProvider) (organizationId : UUID) (told : Failure → Error)
    (key : String) : Except Error Unit :=
  if provider.validKey key = true then
    if provider.belongsToNamespace key organizationId = true then .ok ()
    else .error (told
      (Storage.apiError 404 "FILE_NOT_FOUND" "The requested file does not exist."))
  else .error (told .invalidUpload)

/-- The verification of the object against the request. -/
def inspectObject (payload : DirectUploadFinalizationRequest) : FileRequest StoredUpload := do
  let metadata ← storageStat provider outage payload.storageKey
  ensure (metadata.sizeBytes = payload.sizeBytes ∧ metadata.sizeBytes ≤ provider.maxSizeBytes)
    metadataMismatch
  ensure (metadata.contentType.all (· = payload.contentType) = true) metadataMismatch
  ensure (metadata.checksumSha256.all (· = payload.checksumSha256) = true) metadataMismatch
  let inspected ← storageInspect outage payload.storageKey payload.originalFilename
  ensure (inspected.sizeBytes = payload.sizeBytes ∧ inspected.contentType = payload.contentType ∧
    inspected.checksumSha256 = payload.checksumSha256) validationFailed
  return inspected

theorem recordObject_eq (payload : DirectUploadFinalizationRequest) :
    recordObject provider outage tenant runId payload =
      (inspectObject provider outage payload >>= fun inspected => do
        let file := sourceFile payload.fileId runId payload.sourceType payload.storageKey inspected
          payload.now
        addFile file
        applyStorageDelta tenant.organizationId file.sizeBytes
        appendSecurityAuditEvent tenant "DIRECT_UPLOAD_FINALIZED" [("run_id", runId.format),
          ("file_id", file.id.format), ("source_type", Storage.sourceTypeName file.sourceType)]
        return file) := by
  simp only [inspectObject, request_bind_assoc]
  rfl

theorem readsOnly_inspectObject (payload : DirectUploadFinalizationRequest) :
    ReadsOnly (inspectObject provider outage payload) := by
  have hensure (p : Prop) [Decidable p] (failure : Failure) :
      ReadsOnly (ensure p failure : FileRequest Unit) := fun s => by simp
  have hexpect {α : Type} (found : Option α) (failure : Failure) :
      ReadsOnly (expect failure found : FileRequest α) := fun s => by simp
  have hget {α : Type} (f : FileStore → α) :
      ReadsOnly (ExceptT.lift (get f) : FileRequest α) := fun s => by simp
  have hstat : ReadsOnly (storageStat provider outage payload.storageKey) :=
    (hensure _ _).bind fun _ => (hensure _ _).bind fun _ => (hget _).bind fun _ => hexpect _ _
  have hinspect :
      ReadsOnly (storageInspect outage payload.storageKey payload.originalFilename) :=
    (hensure _ _).bind fun _ => (hget _).bind fun _ => (hexpect _ _).bind fun _ => hexpect _ _
  exact hstat.bind fun metadata => (hensure _ _).bind fun _ => (hensure _ _).bind fun _ =>
    (hensure _ _).bind fun _ => hinspect.bind fun inspected => (hensure _ _).bind fun _ _ => rfl

/-- The object that is verified is as large as the request says. -/
theorem sizeBytes_of_inspectObject {payload : DirectUploadFinalizationRequest}
    {s : Connection FileStore} {inspected : StoredUpload}
    (h : (respond (inspectObject provider outage payload) s).1 = .ok inspected) :
    inspected.sizeBytes = payload.sizeBytes := by
  unfold inspectObject at h
  obtain ⟨_, -, h⟩ := answered_bind h
  obtain ⟨_, -, h⟩ := answered_bind h
  obtain ⟨_, -, h⟩ := answered_bind h
  obtain ⟨_, -, h⟩ := answered_bind h
  obtain ⟨upload, -, h⟩ := answered_bind h
  obtain ⟨_, hverified, h⟩ := answered_bind h
  obtain rfl := Except.ok.inj h
  rw [respond_ensure] at hverified
  split at hverified
  · next hsame => exact hsame.1
  · cases hverified

/-- What storage says to the finalization. -/
def inspectedObject (store : FileStore) (told : Failure → Error)
    (payload : DirectUploadFinalizationRequest) : Except Error StoredUpload :=
  (respond (inspectObject provider outage payload) ⟨store, id⟩).1.mapError told

theorem follows_inspectObject (hm : Mirrors store db) (told : Failure → Error)
    (payload : DirectUploadFinalizationRequest) :
    Follows (Fresh store db) (inspectObject provider outage payload)
      (fromExcept (inspectedObject provider outage store told payload))
      (fun a b s d => a = b ∧ a.sizeBytes = payload.sizeBytes ∧ Fresh store db s d) (Lost db) := by
  have hreads := readsOnly_inspectObject provider outage payload ⟨store, id⟩
  unfold inspectedObject
  cases hanswer : respond (inspectObject provider outage payload) ⟨store, id⟩ with
  | mk answer s =>
    rw [hanswer] at hreads
    obtain rfl : s = ⟨store, id⟩ := hreads
    cases answer with
    | ok inspected =>
      refine .fromOk ?_
      rintro s d ⟨rfl, rfl⟩
      have hsize := sizeBytes_of_inspectObject provider outage (congrArg Prod.fst hanswer)
      exact ⟨inspected, _, hanswer, rfl, hsize, rfl, rfl⟩
    | error failure =>
      refine .fromError ?_
      rintro s d ⟨rfl, rfl⟩
      exact ⟨failure, _, hanswer, hm⟩

theorem follows_recordObject (hm : Mirrors store db) (told : Failure → Error)
    (payload : DirectUploadFinalizationRequest) :
    Follows (Fresh store db) (recordObject provider outage tenant runId payload)
      (do
        let upload ← fromExcept (inspectedObject provider outage store told payload)
        let file := sourceFile payload.fileId runId payload.sourceType payload.storageKey upload
          payload.now
        SourceFileRepository.add file
        fromExcept (charged store tenant.organizationId told payload.sizeBytes)
        return file)
      (fun file file' s d => file = file' ∧ Stored db s d) (Lost db) := by
  rw [recordObject_eq]
  refine (follows_inspectObject provider outage hm told payload).bindEq fun inspected => ?_
  rintro s d ⟨hsize, hs⟩
  refine follows_record told _ hsize ?_ s d (hs.writing hm)
  exact (follows_appendSecurityAuditEvent tenant _ _).bind fun _ _ =>
    .pure _ _ fun _ _ h => ⟨rfl, h⟩

theorem follows_ownedKey (hm : Mirrors store db) (told : Failure → Error) {key : String}
    {α β : Type} {x : FileRequest α} {t : TenantSession β}
    {post : α → β → Connection FileStore → TenantDatabase → Prop}
    (h : Follows (Fresh store db) x t post (Lost db)) :
    Follows (Fresh store db)
      (do
        ensure (provider.validKey key = true) .invalidUpload
        ensure (provider.belongsToNamespace key organizationId = true)
          (Storage.apiError 404 "FILE_NOT_FOUND" "The requested file does not exist.")
        x)
      (do
        fromExcept (ownedKey provider organizationId told key)
        t) post (Lost db) := by
  unfold ownedKey
  split
  · next hvalid =>
    split
    · next howned =>
      simp only [ensure, hvalid, howned, if_true]
      exact h
    · next howned =>
      simp only [ensure, hvalid, howned, if_true]
      exact Follows.fromError fun s d hs => ⟨_, s, rfl, hs.lost hm⟩
  · next hvalid =>
    simp only [ensure, hvalid]
    exact Follows.fromError fun s d hs => ⟨_, s, rfl, hs.lost hm⟩

theorem findByStorageKey_mirrors (hm : Mirrors store db) (key : String) (organizationId : UUID) :
    store.findByStorageKey key organizationId =
      db.fileStore.findByStorageKey key organizationId := by
  unfold FileStore.findByStorageKey FileStore.filesOf FileStore.belongsTo
  rw [hm.files, hm.runs]
  rfl

/-- The transaction up to the file that is stored already. -/
def findFile (runId organizationId : UUID) (payload : DirectUploadFinalizationRequest)
    (owned : Except Error Unit) : TenantSession (Option SourceFileRecord) := do
  let run ← onDatabase (ReconciliationRunRepository.get runId organizationId)
  require (run.status = .pending)
    (.api 409 "RUN_NOT_PENDING" "Files can only be finalized for a pending reconciliation run.")
  fromExcept owned
  let existing ← SourceFileRepository.findByStorageKey payload.storageKey organizationId
  match existing with
  | some file =>
    require (file.runId = runId ∧ file.sourceType = payload.sourceType)
      (.api 409 "FILE_ALREADY_FINALIZED" "The uploaded file has already been finalized.")
    return some file
  | none => return none

theorem follows_findFile (hm : Mirrors store db) (told : Failure → Error)
    (payload : DirectUploadFinalizationRequest) :
    Follows (Fresh store db) (findFinalized provider tenant runId payload)
      (findFile runId tenant.organizationId payload
        (ownedKey provider tenant.organizationId told payload.storageKey))
      (fun found existing s d => found.1 = existing ∧ Fresh store db s d) (Lost db) := by
  unfold findFinalized findFile
  refine follows_pending hm (follows_ownedKey provider hm told ?_)
  refine Follows.bind (M := fun found existing s d => found.1 = existing ∧ Fresh store db s d)
    (.get ?_) fun found existing => ?_
  · rintro s d ⟨rfl, rfl⟩
    exact ⟨findByStorageKey_mirrors hm _ _, rfl, rfl⟩
  · rintro s d ⟨rfl, hs⟩
    obtain ⟨existing, since⟩ := found
    refine Follows.weaken (P := Fresh store db) ?_ (fun _ _ h => h) (fun _ _ _ _ h => h)
      (fun _ _ _ h => h) s d hs
    cases existing with
    | none => exact .pure _ _ fun _ _ h => ⟨rfl, h⟩
    | some file =>
      refine (Follows.ensure decide_eq_true_iff fun _ _ hs _ => hs.lost hm).bind fun _ _ => ?_
      exact .pure _ _ fun _ _ h => ⟨rfl, h.2⟩

/-- The transaction of a file that is not stored yet, after the object has been verified. -/
theorem finalizeDirectUpload_eq (payload : DirectUploadFinalizationRequest)
    (owned : Except Error Unit) (inspected : Except Error StoredUpload)
    (quota : Except Error Unit) :
    Api.finalizeDirectUpload payload.fileId runId organizationId payload.sourceType
      payload.storageKey owned inspected quota payload.now =
    findFile runId organizationId payload owned >>= fun existing =>
      match existing with
      | some file => return file
      | none => do
        let upload ← fromExcept inspected
        let file := sourceFile payload.fileId runId payload.sourceType payload.storageKey upload
          payload.now
        SourceFileRepository.add file
        fromExcept quota
        return file := by
  simp only [Api.finalizeDirectUpload, findFile, bind_assoc]
  refine congrArg (_ >>= ·) (funext fun run => congrArg (_ >>= ·) (funext fun _ => ?_))
  refine congrArg (_ >>= ·) (funext fun _ => congrArg (_ >>= ·) (funext fun existing => ?_))
  cases existing with
  | none => rfl
  | some file => rw [bind_assoc]; rfl

/-- **Direct uploads.** -/
theorem follows_finalizeDirectUpload (hm : Mirrors store db) (told : Failure → Error)
    (payload : DirectUploadFinalizationRequest) :
    Follows (Fresh store db) (Storage.finalizeDirectUpload provider outage tenant runId payload)
      (Api.finalizeDirectUpload payload.fileId runId tenant.organizationId payload.sourceType
        payload.storageKey (ownedKey provider tenant.organizationId told payload.storageKey)
        (inspectedObject provider outage store told payload)
        (charged store tenant.organizationId told payload.sizeBytes) payload.now)
      (fun file file' s d => file = file' ∧ Ended s d) fun _ _ s => Ended s db := by
  rw [finalizeDirectUpload_eq]
  unfold Storage.finalizeDirectUpload
  dsimp only
  refine Follows.weaken (Follows.pureLeft (follows_route (R := fun stored file => stored.1 = file)
    ?_ ?_) _) (fun _ _ h => h) ?_ fun _ _ _ h => h
  · refine (follows_owning none (follows_findFile provider tenant hm told payload)).bind
      fun found existing => ?_
    rintro s d ⟨rfl, hs⟩
    cases found.1 with
    | some file =>
      have hwriting := hs.writing hm
      exact Follows.pure _ _ (fun _ _ h => ⟨rfl, h⟩) s d ⟨hwriting.committed, hwriting.seen⟩
    | none =>
      refine ((follows_owning _ (follows_recordObject provider outage tenant hm told
        payload)).pureLeft _).weaken (fun _ _ h => h) ?_ (fun _ _ _ h => h) s d hs
      rintro _ _ _ _ ⟨file, ⟨rfl, h⟩, rfl⟩
      exact ⟨rfl, h⟩
  · rintro ⟨owned, failure⟩ s hs
    cases failure with
    | storageQuotaExceeded => exact fails_discard provider outage _ _ _ hs
    | raised error => exact fails_discard provider outage _ _ _ hs
    | invalidUpload => exact fails_discard provider outage _ _ _ hs
    | storageNotFound => exact ⟨_, s, respond_throw _, hs⟩
    | storageOperation => exact ⟨_, s, respond_throw _, hs⟩
  · rintro _ file s d ⟨stored, ⟨hfile, hended⟩, rfl⟩
    exact ⟨hfile, hended⟩

/-! ### Deletions -/

variable (fileId : UUID)

/-- What the removal of the object raises. -/
def removedObject (store : FileStore) (told : Failure → Error) : Except Error Unit :=
  match store.findFile fileId tenant.organizationId with
  | some file =>
    (respond (deleteStored provider outage tenant file store.moment) ⟨store, id⟩).1.mapError told
  | none => .ok ()

/-- By how much the usage changes. -/
def deletedBytes (store : FileStore) : Int :=
  match store.findFile fileId tenant.organizationId with
  | some file => -file.sizeBytes
  | none => 0

/-- The call of the provider changes no row, whether it is answered or not. -/
theorem deleteStored_rows (store : FileStore) (file : SourceFileRecord) (since : ℕ) :
    ∃ answer t, respond (deleteStored provider outage tenant file since) ⟨store, id⟩ =
        (answer, ⟨t, id⟩) ∧ SameRows store t ∧ t.organizations = store.organizations := by
  have hafter : SameRows store (Storage.afterObject store file) ∧
      (Storage.afterObject store file).organizations = store.organizations := by
    unfold Storage.afterObject
    split <;> exact ⟨⟨rfl, rfl, rfl⟩, rfl⟩
  by_cases hdeletable : Storage.Deletable provider outage tenant.organizationId file
  · by_cases hanswered : Storage.Answered outage file
    · exact ⟨_, _, Storage.respond_deleteStored since hdeletable hanswered, hafter⟩
    · obtain ⟨failure, -, hrespond⟩ :=
        Storage.respond_deleteStored_unanswered since hdeletable hanswered
      exact ⟨_, _, hrespond, hafter⟩
  · obtain ⟨⟨failure, -, hrespond⟩, -⟩ := Storage.refused_deleteStored since hdeletable
    exact ⟨_, store, hrespond, ⟨rfl, rfl, rfl⟩, rfl⟩

theorem follows_deleteStored (hm : Mirrors store db) (told : Failure → Error)
    {file : SourceFileRecord} (hfile : file ∈ db.files.rows) (since : ℕ) :
    Follows (Fresh store db) (deleteStored provider outage tenant file since)
      (fromExcept ((respond (deleteStored provider outage tenant file since)
        ⟨store, id⟩).1.mapError told))
      (fun _ _ s d => Writing store db s d ∧ file ∈ d.files.rows) (Lost db) := by
  obtain ⟨answer, t, hrespond, hrows, horganizations⟩ :=
    deleteStored_rows provider outage tenant store file since
  rw [hrespond]
  cases answer with
  | ok u =>
    refine .fromOk ?_
    rintro s d ⟨rfl, rfl⟩
    exact ⟨u, _, hrespond, ⟨hm.same hrows, hm.same hrows, horganizations⟩, hfile⟩
  | error failure =>
    refine .fromError ?_
    rintro s d ⟨rfl, rfl⟩
    exact ⟨failure, _, hrespond, hm.same hrows⟩

/-- The file is the only one of its id, and of its run and type. -/
theorem follows_removeFile {file : SourceFileRecord} :
    Follows (fun s d => Writing store db s d ∧ file ∈ d.files.rows) (removeFile file)
      (SourceFileRepository.remove file) (fun _ _ => Writing store db) (Lost db) := by
  rintro s d ⟨hs, hfile⟩
  have hremove : Runs (SourceFileRepository.remove file) d () { d with
      files := d.files.filter fun other => decide (other.id ≠ file.id)
      sourceFiles := d.sourceFiles.filter fun other =>
        decide (¬ (other.runId = file.runId ∧ other.sourceType = file.sourceType)) } := by
    simp only [SourceFileRepository.remove, runs_bind, runs_get, runs_set]
    exact ⟨_, _, ⟨rfl, rfl⟩, rfl⟩
  refine ⟨fun u d' hruns => ?_, fun e hfails => absurd hfails hremove.not_fails⟩
  obtain ⟨-, rfl⟩ := hruns.unique hremove
  refine ⟨(), _, Storage.respond_removeFile, hs.committed, ⟨hs.seen.runs, hs.seen.jobs, ?_, ?_⟩,
    hs.organizations⟩
  · show s.view.files.filter _ = _
    rw [hs.seen.files]
  · show d.sourceFiles.rows.filter _ = (d.files.rows.filter _).map _
    rw [hs.seen.sources, List.filter_map]
    refine congrArg _ (List.filter_congr fun other hm => ?_)
    refine decide_eq_decide.mpr (not_congr ⟨fun hsame => ?_, fun hid => ?_⟩)
    · exact congrArg _ (Table.eq_of_clash hm hfile (decide_eq_true hsame))
    · obtain rfl := List.inj_on_of_nodup_map d.files.valid.1 hm hfile hid
      exact ⟨rfl, rfl⟩

theorem follows_getForRun (hm : Mirrors store db) :
    Follows (Fresh store db)
      (ExceptT.lift (get fun store : FileStore => store.jobForRun runId organizationId) :
        FileRequest (Option BackgroundJobRecord))
      (onDatabase (BackgroundJobRepository.getForRun runId organizationId))
      (fun job job' s d => job = job' ∧ Fresh store db s d) (Lost db) := by
  rintro s d ⟨rfl, rfl⟩
  have hruns : Runs (onDatabase (BackgroundJobRepository.getForRun runId organizationId)) d
      (store.jobForRun runId organizationId) d := by
    refine runs_onDatabase_getForRun.mpr ⟨?_, rfl⟩
    unfold FileStore.jobForRun
    simp only [hm.jobs, Bool.decide_and]
  refine ⟨fun job d' hruns' => ?_, fun e hfails => absurd hfails hruns.not_fails⟩
  obtain ⟨rfl, rfl⟩ := hruns'.unique hruns
  exact ⟨_, _, respond_lift _, rfl, rfl, rfl⟩

theorem follows_deleteFound (hm : Mirrors store db) (told : Failure → Error)
    {file : SourceFileRecord} (hfile : file ∈ db.files.rows) (since : ℕ) :
    Follows (Fresh store db) (deleteFound provider outage tenant fileId file since)
      (do
        let run ← onDatabase (ReconciliationRunRepository.get file.runId tenant.organizationId)
        let job ← onDatabase (BackgroundJobRepository.getForRun file.runId tenant.organizationId)
        require (Storage.inUse run job = false)
          (.api 409 "FILE_IN_USE" "The file cannot be deleted after processing has started.")
        fromExcept ((respond (deleteStored provider outage tenant file since)
          ⟨store, id⟩).1.mapError told)
        SourceFileRepository.remove file
        fromExcept (charged store tenant.organizationId told (-file.sizeBytes)))
      (fun _ _ => Stored db) (Lost db) := by
  have hlast : (fromExcept (charged store tenant.organizationId told (-file.sizeBytes)) :
      TenantSession Unit) = (do
        fromExcept (charged store tenant.organizationId told (-file.sizeBytes))
        Pure.pure ()) := by
    cases charged store tenant.organizationId told (-file.sizeBytes) <;> rfl
  rw [hlast]
  unfold deleteFound
  refine (follows_getRun hm).bindEq fun run => (follows_getForRun hm).bindEq fun job => ?_
  refine (Follows.ensure Iff.rfl fun _ _ hs _ => hs.lost hm).bind fun _ _ => ?_
  refine Follows.bind ((follows_deleteStored provider outage tenant hm told hfile since).weaken
    (fun _ _ h => h.2) (fun _ _ _ _ h => h) fun _ _ _ h => h) fun _ _ => ?_
  refine follows_removeFile.bind fun _ _ => ?_
  refine (follows_applyStorageDelta told _).bind fun _ _ => ?_
  refine (follows_appendSecurityAuditEvent tenant _ _).bind (g := fun _ => Pure.pure ())
    fun _ _ => ?_
  exact .pure _ _ fun _ _ h => h

theorem removedObject_eq {file : SourceFileRecord} (told : Failure → Error)
    (hfound : store.findFile fileId tenant.organizationId = some file) :
    (if file.storageKey.any (· ≠ "") then removedObject provider outage tenant fileId store told
      else .ok ()) =
    (respond (deleteStored provider outage tenant file store.moment) ⟨store, id⟩).1.mapError
      told := by
  split
  · rw [removedObject, hfound]
  · next hnone =>
    have hkey : file.objectKey = none := by
      cases hstored : file.storageKey <;>
        simp_all [Storage.SourceFileRecord.objectKey, Option.filter]
    rw [deleteStored, hkey]
    rfl

theorem follows_findDeleted (hm : Mirrors store db) :
    Follows (Fresh store db)
      (ExceptT.lift (get fun store : FileStore =>
        (store.findFile fileId tenant.organizationId, store.moment)) :
        FileRequest (Option SourceFileRecord × ℕ))
      (SourceFileRepository.find fileId tenant.organizationId)
      (fun found file s d => found = (file, store.moment) ∧
        store.findFile fileId tenant.organizationId = file ∧ Fresh store db s d) (Lost db) := by
  refine .get ?_
  rintro s d ⟨rfl, rfl⟩
  have hfind : store.findFile fileId tenant.organizationId =
      d.fileStore.findFile fileId tenant.organizationId := by
    unfold FileStore.findFile FileStore.belongsTo
    rw [hm.files, hm.runs]
    rfl
  exact ⟨congrArg (·, store.moment) hfind, hfind, rfl, rfl⟩

/-- **Deletions.** -/
theorem follows_deleteSourceFile (hm : Mirrors store db) (told : Failure → Error) :
    Follows (Fresh store db) (Storage.deleteSourceFile provider outage tenant fileId)
      (Api.deleteSourceFile fileId tenant.organizationId
        (removedObject provider outage tenant fileId store told)
        (charged store tenant.organizationId told (deletedBytes tenant fileId store)))
      (fun _ _ => Ended) fun _ _ s => Ended s db := by
  rw [Storage.deleteSourceFile_eq]
  refine Follows.weaken (Follows.pureLeft (Follows.unitOfWork _ (Q := fun _ _ => Stored db)
    (E := Lost db) ?_) _) (fun _ _ h => h) ?_ ?_
  · unfold Api.deleteSourceFile
    refine (follows_findDeleted tenant fileId hm).bind fun found file => ?_
    rintro s d ⟨rfl, hfound, hs⟩
    cases file with
    | none =>
      have hwriting := hs.writing hm
      exact Follows.pure _ _ (fun _ _ h => h) s d ⟨hwriting.committed, hwriting.seen⟩
    | some file =>
      have hfile : file ∈ db.files.rows := by
        rw [← hm.files]
        exact Table.mem_of_find (Option.filter_eq_some_iff.mp hfound).1
      have hbytes : deletedBytes tenant fileId store = -file.sizeBytes := by
        rw [deletedBytes, hfound]
      have hdelete := follows_deleteFound provider outage tenant fileId hm told hfile store.moment
      rw [← hbytes, ← removedObject_eq provider outage tenant fileId told hfound] at hdelete
      exact hdelete s d hs
  · rintro _ _ _ d ⟨_, ⟨s, ⟨-, hseen⟩, rfl⟩, -⟩
    exact ⟨_, rfl, hseen⟩
  · rintro _ _ _ ⟨s, hlost, rfl⟩
    exact ⟨_, rfl, hlost⟩

/-! ### In the world -/

/-- The transaction of a route, and what it is told. -/
def routeTransaction (store : FileStore) (told : Failure → Error) :
    Storage.StorageRequest → Option (TenantSession Unit)
  | .upload tenant request => some (void (Api.uploadSourceFile request.fileId request.runId
      tenant.organizationId request.sourceType
      (savedUpload store outage tenant.organizationId told request.content)
      (charged store tenant.organizationId told (uploadSize request.content)) request.now))
  | .finalize tenant runId payload => some (void (Api.finalizeDirectUpload payload.fileId runId
      tenant.organizationId payload.sourceType payload.storageKey
      (ownedKey provider tenant.organizationId told payload.storageKey)
      (inspectedObject provider outage store told payload)
      (charged store tenant.organizationId told payload.sizeBytes) payload.now))
  | .delete tenant fileId => some (Api.deleteSourceFile fileId tenant.organizationId
      (removedObject provider outage tenant fileId store told)
      (charged store tenant.organizationId told (deletedBytes tenant fileId store)))
  | _ => none

/-- **A route that nobody hinders commits the rows that its transaction does.** -/
theorem exec_route {n : ℕ} {w : ReadCommitted.World FileStore FileLock FileCommit}
    (hidle : w.program n = .pure ()) (hfree : ReadCommitted.Unhindered n w)
    (hm : Mirrors w.state db) (told : Failure → Error) {request : Storage.StorageRequest}
    {t : TenantSession Unit}
    (htransaction : routeTransaction provider outage w.state told request = some t) :
    ∃ actions w', exec (ReadCommitted.step (Storage.StorageRequest.program provider)) Always
        (.begin n (request, outage) :: actions) w = some w' ∧ w'.program n = .pure () ∧
      Mirrors w'.state (atomically t db).2 := by
  have hends (s : Connection FileStore) (d : TenantDatabase) (h : Ended s d) :
      Mirrors s.committed d := by
    obtain ⟨t, rfl, hended⟩ := h
    exact hended
  cases request with
  | upload tenant request =>
    obtain rfl := Option.some.inj htransaction
    rw [atomically_void]
    exact ReadCommitted.exec_follows hidle hfree rfl
      (follows_uploadSourceFile provider outage tenant hm told request) ⟨rfl, rfl⟩
      (fun _ _ _ _ h => hends _ _ h.2) fun _ _ _ h => hends _ _ h
  | finalize tenant runId payload =>
    obtain rfl := Option.some.inj htransaction
    rw [atomically_void]
    exact ReadCommitted.exec_follows hidle hfree rfl
      (follows_finalizeDirectUpload provider outage tenant hm told payload) ⟨rfl, rfl⟩
      (fun _ _ _ _ h => hends _ _ h.2) fun _ _ _ h => hends _ _ h
  | delete tenant fileId =>
    obtain rfl := Option.some.inj htransaction
    exact ReadCommitted.exec_follows hidle hfree rfl
      (follows_deleteSourceFile provider outage tenant fileId hm told) ⟨rfl, rfl⟩
      (fun _ _ _ _ h => hends _ _ h) fun _ _ _ h => hends _ _ h
  | cleanUp | verify | put | lose => cases htransaction

end

end ReconcileFlow.Api
