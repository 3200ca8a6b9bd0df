import Mathlib.Logic.Relation
import ReconcileFlow.Tenancy.Tables

/-!
# Tenancy — Operations

The operations of the repositories.  Those that are called with an organization (`Operation`)
isolate it (`Operation.isolates`).  The others work for all organizations at once or on a record
that was found before (`SharedOperation`).  Both keep every row with the organization of its run
(`Operation.owned`, `SharedOperation.owned`), so it is there in every database that they make of an
empty one (`Reachable.owned`).
-/

namespace ReconcileFlow.Tenancy

open Support Support.Transaction
open Persistence hiding SourceFileRecord sourceFileSchema
open Storage (SourceFileRecord)
open Reconciliation (ReconciliationResult)

/-! ### Operations of one organization -/

/-- An operation that is called with the organization, and on which databases an id that it draws
is new. -/
inductive Operation (A : UUID) :
    {α : Type} → (TenantDatabase → Prop) → TenantSession α → Prop
  | createRun (runId : UUID) (now : Instant) : Operation A (fun db => db.runs.find runId = none)
      (onDatabase (ReconciliationRunRepository.create A runId now))
  | getRun (runId : UUID) : Operation A (fun _ => True)
      (onDatabase (ReconciliationRunRepository.get runId A))
  | listRuns (page : Page) (status : Option RunStatus) : Operation A (fun _ => True)
      (onDatabase (ReconciliationRunRepository.list A page status))
  | countRuns (status : Option RunStatus) : Operation A (fun _ => True)
      (onDatabase (ReconciliationRunRepository.count A status))
  | transition (runId : UUID) (status : RunStatus) (now : Instant) (code message : Option String) :
      Operation A (fun _ => True)
        (onDatabase (ReconciliationRunRepository.transition runId status now code message A))
  | createJob (jobId runId : UUID) (scheduledAt : Instant) (maxAttempts timeoutSeconds : Nat)
      (priority : BackgroundJobPriority) (now : Instant) :
      Operation A (fun db => db.jobs.find jobId = none)
        (onDatabase (BackgroundJobRepository.create jobId A runId scheduledAt maxAttempts
          timeoutSeconds priority now))
  | getJob (jobId : UUID) : Operation A (fun _ => True)
      (onDatabase (BackgroundJobRepository.get jobId A))
  | getJobForRun (runId : UUID) : Operation A (fun _ => True)
      (onDatabase (BackgroundJobRepository.getForRun runId A))
  | listJobs (status : Option BackgroundJobStatus) (page : Page) : Operation A (fun _ => True)
      (onDatabase (BackgroundJobRepository.list A status page))
  | countJobs (status : Option BackgroundJobStatus) : Operation A (fun _ => True)
      (onDatabase (BackgroundJobRepository.count A status))
  | summarizeJobs (now : Instant) : Operation A (fun _ => True)
      (onDatabase (BackgroundJobRepository.summarize A now))
  | retryFailed (jobId : UUID) (maxManualRetries : Nat) (now : Instant) :
      Operation A (fun _ => True)
        (onDatabase (BackgroundJobRepository.retryFailed jobId A maxManualRetries now))
  | heartbeat (jobId : UUID) (workerId : String) (now : Instant) : Operation A (fun _ => True)
      (onDatabase (BackgroundJobRepository.heartbeat jobId A workerId now))
  | updateProgress (jobId : UUID) (percentage : Int) (message : Option String) (now : Instant) :
      Operation A (fun _ => True)
        (onDatabase (BackgroundJobRepository.updateProgress jobId A percentage message now))
  | requestCancellation (jobId : UUID) (now : Instant) : Operation A (fun _ => True)
      (onDatabase (BackgroundJobRepository.requestCancellation jobId A now))
  | complete (jobId : UUID) (target : BackgroundJobStatus) (now : Instant)
      (code message : Option String) (retryAt : Option Instant) : Operation A (fun _ => True)
        (onDatabase (BackgroundJobRepository.complete jobId target A now code message retryAt))
  | listEvents (jobId : UUID) (eventType : Option BackgroundJobEventType) (page : Page) :
      Operation A (fun _ => True)
        (onDatabase (BackgroundJobEventRepository.list jobId A eventType page))
  | countEvents (jobId : UUID) (eventType : Option BackgroundJobEventType) :
      Operation A (fun _ => True)
        (onDatabase (BackgroundJobEventRepository.count jobId A eventType))
  | findFile (fileId : UUID) : Operation A (fun _ => True) (SourceFileRepository.find fileId A)
  | getFile (fileId : UUID) : Operation A (fun _ => True) (SourceFileRepository.get fileId A)
  | findByStorageKey (storageKey : String) : Operation A (fun _ => True)
      (SourceFileRepository.findByStorageKey storageKey A)
  | referencedStorageKeys : Operation A (fun _ => True)
      (SourceFileRepository.referencedStorageKeys A)
  | listStoredFiles (limit : Nat) : Operation A (fun _ => True)
      (SourceFileRepository.listStoredForOrganization A limit)
  | totalSize : Operation A (fun _ => True) (SourceFileRepository.totalSizeForOrganization A)
  | getResult (resultId : UUID) : Operation A (fun _ => True)
      (ReconciliationResultRepository.get resultId A)
  | createSuggestion (suggestionId runId : UUID) (draft : SuggestionDraft) (now : Instant) :
      Operation A (fun db => db.suggestions.find suggestionId = none)
        (AIMatchSuggestionRepository.create suggestionId A runId draft now)
  | getSuggestion (suggestionId : UUID) : Operation A (fun _ => True)
      (AIMatchSuggestionRepository.get suggestionId A)
  | listSuggestions (runId : UUID) (page : Page) (status : Option MatchSuggestionStatus) :
      Operation A (fun _ => True) (AIMatchSuggestionRepository.listForRun runId A page status)
  | countSuggestions (runId : UUID) (status : Option MatchSuggestionStatus) :
      Operation A (fun _ => True) (AIMatchSuggestionRepository.countForRun runId A status)
  | resolve (suggestionId reviewerUserId : UUID) (decision : MatchSuggestionStatus)
      (reviewedAt : Instant) : Operation A (fun _ => True)
        (AIMatchSuggestionRepository.resolve suggestionId A reviewerUserId decision reviewedAt)
  | expire (suggestionId : UUID) : Operation A (fun _ => True)
      (AIMatchSuggestionRepository.expire suggestionId A)
  | reserve (reservationId runId : UUID) (provider modelVersion : String)
      (reservedTokens candidateCount : Int) (expiresAt now : Instant) :
      Operation A (fun db => db.usageRecords.find reservationId = none)
        (AIUsageRepository.reserve reservationId A runId provider modelVersion reservedTokens
          candidateCount expiresAt now)
  | getUsage (reservationId : UUID) : Operation A (fun _ => True)
      (AIUsageRepository.get reservationId A)
  | finalize (reservationId : UUID) (inputTokens outputTokens : Int) (now : Instant) :
      Operation A (fun _ => True)
        (AIUsageRepository.finalize reservationId A inputTokens outputTokens now)
  | release (reservationId : UUID) (now : Instant) : Operation A (fun _ => True)
      (AIUsageRepository.release reservationId A now)
  | releaseExpired (now : Instant) : Operation A (fun _ => True)
      (AIUsageRepository.releaseExpired A now)
  | summarizeUsage (since now : Instant) : Operation A (fun _ => True)
      (AIUsageRepository.summarize A since now)
  | createInferenceEvent (eventId runId : UUID)
      (provider modelVersion promptVersion inferenceConfigVersion : String) (candidateCount : Int)
      (now : Instant) : Operation A (fun db => db.inferenceEvents.find eventId = none)
        (AIInferenceEventRepository.create eventId A runId provider modelVersion promptVersion
          inferenceConfigVersion candidateCount now)
  | completeInferenceEvent (eventId : UUID) (completion : AIInferenceCompletion) :
      Operation A (fun _ => True) (AIInferenceEventRepository.complete eventId A completion)
  | listInferenceEvents (page : Page) (outcome : Option AIInferenceOutcome) :
      Operation A (fun _ => True) (AIInferenceEventRepository.listForOrganization A page outcome)

section

variable {A : UUID} {α : Type} {new : TenantDatabase → Prop} {x : TenantSession α}
  {s t : TenantDatabase} {a : α}

/-- **Every operation isolates its organization.** -/
theorem Operation.isolates (h : Operation A new x) :
    Isolates (tenancy A) new x fun _ _ => True := by
  cases h with
  | createRun => exact Isolates.onDatabase isolates_createRun
  | getRun => exact (Isolates.onDatabase isolates_getRun).mono (fun _ h => h) fun _ _ _ => trivial
  | listRuns => exact Isolates.onDatabase isolating_listRuns
  | countRuns => exact Isolates.onDatabase isolating_countRuns
  | transition => exact Isolates.onDatabase isolating_transition
  | createJob =>
    exact (Isolates.onDatabase isolates_create).mono (fun _ h => Table.find_eq_none.mp h)
      fun _ _ _ => trivial
  | getJob => exact (Isolates.onDatabase isolates_getJob).mono (fun _ h => h) fun _ _ _ => trivial
  | getJobForRun => exact Isolates.onDatabase isolating_getForRun
  | listJobs => exact Isolates.onDatabase isolating_listJobs
  | countJobs => exact Isolates.onDatabase isolating_countJobs
  | summarizeJobs => exact Isolates.onDatabase isolating_summarizeJobs
  | retryFailed => exact Isolates.onDatabase isolating_retryFailed
  | heartbeat => exact Isolates.onDatabase isolating_heartbeat
  | updateProgress => exact Isolates.onDatabase isolating_updateProgress
  | requestCancellation => exact Isolates.onDatabase isolating_requestCancellation
  | complete => exact Isolates.onDatabase isolating_complete
  | listEvents => exact Isolates.onDatabase isolating_listEvents
  | countEvents => exact Isolates.onDatabase isolating_countEvents
  | findFile => exact isolating_findFile
  | getFile => exact isolating_getFile
  | findByStorageKey => exact isolating_findByStorageKey
  | referencedStorageKeys => exact isolating_referencedStorageKeys
  | listStoredFiles => exact isolating_listStoredFiles
  | totalSize => exact isolating_totalSize
  | getResult => exact isolating_getResult
  | createSuggestion => exact isolates_createSuggestion
  | getSuggestion => exact isolates_getSuggestion.mono (fun _ h => h) fun _ _ _ => trivial
  | listSuggestions => exact isolating_listSuggestions
  | countSuggestions => exact isolating_countSuggestions
  | resolve => exact isolating_resolve
  | expire => exact isolating_expire
  | reserve => exact isolates_reserve
  | getUsage => exact isolates_getUsage.mono (fun _ h => h) fun _ _ _ => trivial
  | finalize => exact isolating_finalize
  | release => exact isolating_release
  | releaseExpired => exact isolating_releaseExpired
  | summarizeUsage => exact isolating_summarizeUsage
  | createInferenceEvent => exact isolates_createInferenceEvent
  | completeInferenceEvent => exact isolating_completeInferenceEvent
  | listInferenceEvents => exact isolating_listInferenceEvents

/-! ### What they keep of one database -/

theorem SameQueue.refl (db : Database) : SameQueue A db db := ⟨.refl, .refl, .refl, rfl⟩

theorem SameRows.refl (db : TenantDatabase) : SameRows A db db :=
  ⟨.refl db.toDatabase, rfl, rfl, .refl, .refl, .refl⟩

theorem runs_ensureRun {runId : UUID} {u : Unit} (h : Runs (ensureRun runId A) s u t) : t = s := by
  simp only [ensureRun, runs_bind, runs_reads, runs_require] at h
  obtain ⟨_, _, ⟨-, rfl⟩, -, rfl⟩ := h
  rfl

/-- No row is stored under an id that is not new. -/
theorem Operation.new_of_runs (h : Operation A new x) (hx : Runs x s a t) : new s := by
  cases h with
  | createRun =>
    obtain ⟨_, hcreate, -⟩ := runs_onDatabase.mp hx
    simp only [ReconciliationRunRepository.create, runs_bind, runs_get, runs_fromOption] at hcreate
    obtain ⟨_, _, ⟨rfl, rfl⟩, _, _, ⟨hu, -⟩, -⟩ := hcreate
    exact Table.find_of_insert hu
  | createJob =>
    obtain ⟨_, hcreate, -⟩ := runs_onDatabase.mp hx
    exact (runs_create hcreate).2.1
  | createSuggestion =>
    simp only [AIMatchSuggestionRepository.create, runs_bind, runs_fromExcept,
      Part.runs_insert] at hx
    obtain ⟨_, _, hrun, _, _, ⟨-, rfl⟩, _, _, ⟨hrow, rfl⟩, _, _, ⟨_, hu, -⟩, -⟩ := hx
    obtain rfl := runs_ensureRun hrun
    obtain rfl := AIMatchSuggestionRecord.toRow_ok hrow
    exact Table.find_of_insert hu
  | reserve =>
    simp only [AIUsageRepository.reserve, runs_bind, Part.runs_insert] at hx
    obtain ⟨_, _, hrun, _, _, ⟨_, hu, -⟩, -⟩ := hx
    obtain rfl := runs_ensureRun hrun
    exact Table.find_of_insert hu
  | createInferenceEvent =>
    simp only [AIInferenceEventRepository.create, runs_bind, Part.runs_insert] at hx
    obtain ⟨_, _, hrun, _, _, ⟨_, hu, -⟩, -⟩ := hx
    obtain rfl := runs_ensureRun hrun
    exact Table.find_of_insert hu
  | _ => trivial

theorem Operation.owned (h : Operation A new x) (hs : Owned s) (hx : Runs x s a t) : Owned t :=
  h.isolates.keeps ⟨.refl s, fun _ => rfl⟩ hs (h.new_of_runs hx) hx

end

/-! ### Operations of all organizations -/

/-- Stores rows of the run, which is there: they have it for a foreign key. -/
def referring {α : Type} (runId : UUID) (x : TenantSession α) : TenantSession α := do
  let a ← x
  let found ← reads fun db : TenantDatabase => (db.runs.find runId).isSome
  require (found = true) integrityError
  return a

/-- `transition` without an organization. -/
def transitionAny (runId : UUID) (status : RunStatus) (now : Instant)
    (code message : Option String) : TenantSession ReconciliationRunRecord := do
  let found ← reads fun db : TenantDatabase => db.runs.find runId
  let run ← fromOption (runNotFound runId) found
  onDatabase (ReconciliationRunRepository.transition runId status now code message
    run.organizationId)

/-- The same rows of runs, and of what belongs to a run of an organization. -/
structure SameTables (s t : TenantDatabase) : Prop where
  runs : t.runs = s.runs
  jobs : t.jobs = s.jobs
  jobEvents : t.jobEvents = s.jobEvents
  results : t.results = s.results
  files : t.files = s.files
  resultIds : t.resultIds = s.resultIds
  suggestions : t.suggestions = s.suggestions
  usageRecords : t.usageRecords = s.usageRecords
  inferenceEvents : t.inferenceEvents = s.inferenceEvents

/-- An operation that is called without an organization and writes.  Whatever changes other tables
only, as the repositories of users, organizations, configurations and audit events do, is one. -/
inductive SharedOperation : {α : Type} → TenantSession α → Prop
  | claimNext (workerId : String) (now : Instant) (organizationId : Option UUID) (aging : Nat) :
      SharedOperation (onDatabase (BackgroundJobRepository.claimNext workerId now organizationId aging))
  | recoverStale (staleBefore now : Instant) :
      SharedOperation (onDatabase (BackgroundJobRepository.recoverStale staleBefore now))
  | deleteExpiredTerminal (cutoffs : List (BackgroundJobStatus × Instant)) (limit : Nat) :
      SharedOperation (onDatabase (BackgroundJobRepository.deleteExpiredTerminal cutoffs limit))
  | transition (runId : UUID) (status : RunStatus) (now : Instant) (code message : Option String) :
      SharedOperation (transitionAny runId status now code message)
  | addFile (file : SourceFileRecord) :
      SharedOperation (referring file.runId (SourceFileRepository.add file))
  | removeFile (file : SourceFileRecord) : SharedOperation (SourceFileRepository.remove file)
  | addResults (runId : UUID) (results : List (UUID × ReconciliationResult)) :
      SharedOperation (referring runId (ReconciliationResultRepository.addMany runId results))
  | elsewhere (f : TenantDatabase → TenantDatabase) (hf : ∀ db, SameTables db (f db)) :
      SharedOperation (modify f)

section

variable {s t : Database} {job record : BackgroundJobRecord}

/-- The jobs that are left are jobs that were there, and have the events. -/
theorem OwnedQueue.of_jobs (h : OwnedQueue s) (hruns : t.runs = s.runs)
    (hresults : t.results = s.results)
    (hjobs : ∀ k record, t.jobs.find k = some record →
      ∃ job, s.jobs.find k = some job ∧ job.SameJob record)
    (hevents : ∀ event ∈ t.jobEvents.rows, ∃ record, t.jobs.find event.jobId = some record ∧
      record.organizationId = event.organizationId) : OwnedQueue t := by
  have howners (runId : UUID) : organizationOf t runId = organizationOf s runId := by
    unfold organizationOf
    rw [hruns]
  have howner {k : UUID} {record : BackgroundJobRecord} (hk : t.jobs.find k = some record) :
      organizationOf t record.runId = some record.organizationId := by
    obtain ⟨job, hjob, hsame⟩ := hjobs k record hk
    rw [howners, hsame.runId, hsame.organizationId]
    exact h.jobs job (Table.mem_of_find hjob)
  refine ⟨fun job hm => howner (Table.find_of_mem hm), fun event hm => ?_, fun record hm => ?_⟩
  · obtain ⟨record, hfind, horg⟩ := hevents event hm
    exact ⟨record, hfind, horg, horg ▸ howner hfind⟩
  · rw [hresults] at hm
    rw [howners]
    exact h.results record hm

theorem mem_eventRows {entries : List EventEntry} {last : Nat} {event : BackgroundJobEventRecord}
    (hm : event ∈ job.eventRows last entries) :
    event.jobId = job.id ∧ event.organizationId = job.organizationId := by
  induction entries generalizing last with
  | nil => cases hm
  | cons entry entries ih =>
    rcases List.mem_cons.mp hm with rfl | hm
    · exact ⟨rfl, rfl⟩
    · exact ih hm

theorem mem_eventsOf {event : BackgroundJobEventRecord} (hm : event ∈ t.jobEvents.rows) :
    event ∈ t.eventsOf event.jobId := List.mem_filter.mpr ⟨hm, decide_eq_true rfl⟩

/-- A stored job has the organization of its events. -/
theorem OwnedQueue.organizationId_eq (h : OwnedQueue s) {k : UUID}
    (hjob : s.jobs.find k = some job) {event : BackgroundJobEventRecord}
    (hm : event ∈ s.eventsOf k) : job.organizationId = event.organizationId := by
  obtain ⟨hm, hid⟩ := List.mem_filter.mp hm
  obtain ⟨found, hfound, horg, -⟩ := h.events event hm
  rw [of_decide_eq_true hid] at hfound
  exact Option.some.inj (hfound.symm.trans hjob) ▸ horg

theorem OwnedQueue.stored {entries : List EventEntry} (h : OwnedQueue s)
    (hjob : s.jobs.find job.id = some job) (hsame : job.SameJob record)
    (hstored : JobStored s record t) (hlogged : Logged s record entries t) : OwnedQueue t := by
  refine h.of_jobs hstored.runs hstored.results (fun k other hk => ?_) fun event hm => ?_
  · rw [hstored.find] at hk
    split at hk
    · next hid =>
      cases hk
      exact ⟨job, by rw [hid, hsame.id]; exact hjob, hsame⟩
    · exact ⟨other, hk, .refl⟩
  · have hin := mem_eventsOf hm
    rw [hlogged] at hin
    rw [hstored.find]
    by_cases hid : event.jobId = record.id
    · rw [if_pos hid] at hin ⊢
      refine ⟨record, rfl, ?_⟩
      rcases List.mem_append.mp hin with hin | hin
      · rw [hid, hsame.id] at hin
        exact hsame.organizationId.trans (h.organizationId_eq hjob hin)
      · exact (mem_eventRows hin).2.symm
    · rw [if_neg hid] at hin ⊢
      obtain ⟨other, hother, horg, -⟩ := h.events event (List.mem_of_mem_filter hin)
      exact ⟨other, hother, horg⟩

theorem OwnedQueue.swept {cutoff now : Instant} (h : OwnedQueue s) (hs : Swept s cutoff now t) :
    OwnedQueue t := by
  refine h.of_jobs hs.runs hs.results (fun k other hk => ?_) fun event hm => ?_
  · rw [hs.find, Option.map_eq_some_iff] at hk
    obtain ⟨job, hjob, rfl⟩ := hk
    exact ⟨job, hjob, BackgroundJobRecord.sameJob_swept⟩
  · have hin := mem_eventsOf hm
    rw [hs.events, Database.eventsAfter] at hin
    rw [hs.find]
    rcases List.mem_append.mp hin with hin | hin
    · obtain ⟨job, hjob, horg, -⟩ := h.events event (List.mem_of_mem_filter hin)
      rw [hjob]
      exact ⟨_, rfl, BackgroundJobRecord.sameJob_swept.organizationId.trans horg⟩
    · cases hjob : s.jobs.find event.jobId with
      | none =>
        rw [hjob] at hin
        cases hin
      | some job =>
        rw [hjob] at hin
        exact ⟨_, rfl, BackgroundJobRecord.sameJob_swept.organizationId.trans
          (mem_eventRows hin).2.symm⟩

/-- The events of the jobs that are deleted are deleted with them. -/
theorem OwnedQueue.deleted {ids : List UUID} {p : BackgroundJobRecord → Bool} (h : OwnedQueue s)
    (hp : ∀ job, job.id ∉ ids → p job = true) :
    OwnedQueue { s with
      jobEvents := s.jobEvents.filter fun event => decide (event.jobId ∉ ids)
      jobs := s.jobs.filter p } := by
  refine h.of_jobs rfl rfl (fun k other hk => ?_) fun event hm => ?_
  · rw [Table.find_filter] at hk
    exact ⟨other, (Option.filter_eq_some_iff.mp hk).1, .refl⟩
  · obtain ⟨hm, hnot⟩ := List.mem_filter.mp hm
    obtain ⟨job, hjob, horg, -⟩ := h.events event hm
    have hid : job.id = event.jobId := Table.key_of_find hjob
    refine ⟨job, ?_, horg⟩
    rw [Table.find_filter, hjob, Option.filter_some, if_pos]
    exact hp job (hid ▸ of_decide_eq_true hnot)

end

section

variable {s t : TenantDatabase} {α : Type} {a : α}

/-- Another queue with the same runs. -/
theorem Owned.sameRuns {next : Database} (h : Owned s) (hnext : OwnedQueue next)
    (hruns : next.runs = s.runs) : Owned { s with toDatabase := next } := by
  have howner {runId : UUID} {owner : UUID} (howner : organizationOf s.toDatabase runId = some owner) :
      organizationOf next runId = some owner := by
    unfold organizationOf at howner ⊢
    rw [hruns]
    exact howner
  refine ⟨hnext, fun file hm => ?_, fun row hm => ?_, fun _ hm => howner (h.suggestions _ hm),
    fun _ hm => howner (h.usageRecords _ hm), fun _ hm => howner (h.inferenceEvents _ hm)⟩
  · obtain ⟨owner, hfile⟩ := h.files file hm
    exact ⟨owner, howner hfile⟩
  · obtain ⟨owner, hrow⟩ := h.resultIds row hm
    exact ⟨owner, howner hrow⟩

theorem Owned.sameTables (h : Owned s) (hsame : SameTables s t) : Owned t := by
  obtain ⟨hruns, hjobs, hevents, hresults, hfiles, hids, hsuggestions, husage, hinference⟩ := hsame
  have howners (runId : UUID) :
      organizationOf t.toDatabase runId = organizationOf s.toDatabase runId := by
    unfold organizationOf
    rw [hruns]
  refine ⟨⟨?_, ?_, ?_⟩, ?_, ?_, ?_, ?_, ?_⟩ <;> simp only [howners]
  · exact hjobs ▸ h.queue.jobs
  · exact hjobs ▸ hevents ▸ h.queue.events
  · exact hresults ▸ h.queue.results
  · exact hfiles ▸ h.files
  · exact hids ▸ h.resultIds
  · exact hsuggestions ▸ h.suggestions
  · exact husage ▸ h.usageRecords
  · exact hinference ▸ h.inferenceEvents

theorem runs_referring {runId : UUID} {x : TenantSession α} (h : Runs (referring runId x) s a t) :
    Runs x s a t ∧ ∃ owner, organizationOf t.toDatabase runId = some owner := by
  simp only [referring, runs_bind, runs_reads, runs_require, runs_pure] at h
  obtain ⟨_, _, hx, _, _, ⟨rfl, rfl⟩, _, _, ⟨hfound, rfl⟩, rfl, rfl⟩ := h
  obtain ⟨run, hrun⟩ := Option.isSome_iff_exists.mp hfound
  exact ⟨hx, run.organizationId, organizationOf_eq_some.mpr ⟨run, hrun, rfl⟩⟩

theorem owned_addFile {file : SourceFileRecord} {u : Unit} (hs : Owned s)
    (hx : Runs (referring file.runId (SourceFileRepository.add file)) s u t) : Owned t := by
  obtain ⟨hadd, hrun⟩ := runs_referring hx
  simp only [SourceFileRepository.add, runs_bind, runs_get, runs_require, runs_fromOption,
    runs_set] at hadd
  obtain ⟨_, _, ⟨rfl, rfl⟩, _, _, ⟨-, rfl⟩, files, _, ⟨hfiles, rfl⟩, sourceFiles, _, ⟨-, rfl⟩,
    rfl⟩ := hadd
  refine ⟨⟨hs.queue.jobs, hs.queue.events, hs.queue.results⟩, fun other hm => ?_, hs.resultIds,
    hs.suggestions, hs.usageRecords, hs.inferenceEvents⟩
  rw [Table.rows_insert hfiles] at hm
  rcases List.mem_append.mp hm with hm | hm
  · exact hs.files other hm
  · exact List.mem_singleton.mp hm ▸ hrun

theorem owned_removeFile {file : SourceFileRecord} {u : Unit} (hs : Owned s)
    (hx : Runs (SourceFileRepository.remove file) s u t) : Owned t := by
  simp only [SourceFileRepository.remove, runs_bind, runs_get, runs_set] at hx
  obtain ⟨_, _, ⟨rfl, rfl⟩, rfl⟩ := hx
  exact ⟨⟨hs.queue.jobs, hs.queue.events, hs.queue.results⟩,
    fun other hm => hs.files other (List.mem_of_mem_filter hm), hs.resultIds,
    hs.suggestions, hs.usageRecords, hs.inferenceEvents⟩

theorem owned_addResults {runId : UUID} {results : List (UUID × ReconciliationResult)} {u : Unit}
    (hs : Owned s)
    (hx : Runs (referring runId (ReconciliationResultRepository.addMany runId results)) s u t) :
    Owned t := by
  obtain ⟨hadd, hrun⟩ := runs_referring hx
  simp only [ReconciliationResultRepository.addMany, runs_bind, runs_onDatabase, runs_get,
    runs_fromOption, runs_set] at hadd
  obtain ⟨_, _, ⟨_, hqueue, rfl⟩, _, _, ⟨rfl, rfl⟩, resultIds, _, ⟨hids, rfl⟩, rfl⟩ := hadd
  obtain ⟨rows, hrows, rfl⟩ := runs_addMany hqueue
  refine ⟨⟨hs.queue.jobs, hs.queue.events, fun record hm => ?_⟩, hs.files, fun row hm => ?_,
    hs.suggestions, hs.usageRecords, hs.inferenceEvents⟩
  · have hm : record ∈ rows.rows := hm
    rw [hrows] at hm
    rcases List.mem_append.mp hm with hm | hm
    · exact hs.queue.results record hm
    · obtain ⟨result, -, rfl⟩ := List.mem_map.mp hm
      exact hrun
  · rw [Table.rows_of_ofRows? hids] at hm
    rcases List.mem_append.mp hm with hm | hm
    · exact hs.resultIds row hm
    · obtain ⟨result, -, rfl⟩ := List.mem_map.mp hm
      exact hrun

theorem SharedOperation.owned {x : TenantSession α} (h : SharedOperation x) (hs : Owned s)
    (hx : Runs x s a t) : Owned t := by
  cases h with
  | claimNext =>
    obtain ⟨next, hclaim, rfl⟩ := runs_onDatabase.mp hx
    rcases runs_claimNext hclaim with ⟨-, rfl⟩ | ⟨job, -, hjob, -, -, hstored, hlogged⟩
    · exact hs
    · exact hs.sameRuns (hs.queue.stored hjob BackgroundJobRecord.sameJob_claimed hstored hlogged)
        hstored.runs
  | recoverStale =>
    obtain ⟨next, hsweep, rfl⟩ := runs_onDatabase.mp hx
    have hswept := runs_recoverStale hsweep
    exact hs.sameRuns (hs.queue.swept hswept) hswept.runs
  | deleteExpiredTerminal =>
    obtain ⟨next, hdelete, rfl⟩ := runs_onDatabase.mp hx
    simp only [BackgroundJobRepository.deleteExpiredTerminal, BackgroundJobRepository.checkCutoffs,
      runs_bind, runs_require, runs_get, runs_set, runs_pure] at hdelete
    obtain ⟨_, _, ⟨-, rfl⟩, _, _, ⟨-, rfl⟩, _, _, ⟨rfl, rfl⟩, _, _, rfl, -, rfl⟩ := hdelete
    exact hs.sameRuns (hs.queue.deleted fun job hnot => by simp [hnot]) rfl
  | transition =>
    simp only [transitionAny, runs_bind, runs_reads, runs_fromOption] at hx
    obtain ⟨_, _, ⟨-, rfl⟩, run, _, ⟨-, rfl⟩, hmove⟩ := hx
    exact (Operation.transition _ _ _ _ _).owned hs hmove
  | addFile => exact owned_addFile hs hx
  | removeFile => exact owned_removeFile hs hx
  | addResults => exact owned_addResults hs hx
  | elsewhere f hf =>
    have hmodify : (Except.ok (⟨⟩, f s) : Except Persistence.Error (PUnit × TenantDatabase)) =
      .ok (a, t) := hx
    obtain ⟨-, rfl⟩ := Prod.mk.inj (Except.ok.inj hmodify)
    exact hs.sameTables (hf s)

end

/-! ### Reachable databases -/

/-- An operation returns. -/
inductive Step (s t : TenantDatabase) : Prop
  | operation {A : UUID} {α : Type} {new : TenantDatabase → Prop} {x : TenantSession α} {a : α} :
      Operation A new x → Runs x s a t → Step s t
  | shared {α : Type} {x : TenantSession α} {a : α} : SharedOperation x → Runs x s a t → Step s t

def emptyDatabase : TenantDatabase where
  runs := .empty
  sourceFiles := .empty
  configurations := .empty

/-- What the operations make of an empty database. -/
def Reachable (db : TenantDatabase) : Prop := Relation.ReflTransGen Step emptyDatabase db

theorem Step.owned {s t : TenantDatabase} (h : Step s t) (hs : Owned s) : Owned t := by
  cases h with
  | operation hop hx => exact hop.owned hs hx
  | shared hop hx => exact hop.owned hs hx

theorem owned_empty : Owned emptyDatabase := by
  refine ⟨⟨?_, ?_, ?_⟩, ?_, ?_, ?_, ?_, ?_⟩ <;> rintro _ ⟨⟩

/-- **Each row of a reachable database has the organization of its run.** -/
theorem Reachable.owned {db : TenantDatabase} (h : Reachable db) : Owned db := by
  induction h with
  | refl => exact owned_empty
  | tail _ hstep ih => exact hstep.owned ih

end ReconcileFlow.Tenancy
