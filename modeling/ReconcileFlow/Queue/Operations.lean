import ReconcileFlow.Persistence.Effects
import ReconcileFlow.Support.Transition

/-!
# Queue — Operations

The operations of `BackgroundJobRepository` in any order, each in a transaction that commits or
rolls back, with whatever other repositories do to the other tables in between.  An operation is
seen from one job: `JobMove` lists what it can make of the job's record and what it then logs,
`JobChange` adds that jobs are created and deleted.  `apply_change` says that the operations do
nothing else; a property of all jobs after any operations is then one of changes.
-/

namespace ReconcileFlow.Queue

open Support Support.Transaction Persistence

/-- The tables of the other repositories. -/
structure OtherTables where
  runs : Table runSchema
  sourceFiles : Table sourceFileSchema
  configurations : Table configurationSchema
  results : Table resultSchema
  auditEvents : Table auditEventSchema

inductive Operation
  | create (jobId organizationId runId : UUID) (scheduledAt : Instant)
      (maxAttempts timeoutSeconds : Nat) (priority : BackgroundJobPriority) (now : Instant)
  | claimNext (workerId : String) (now : Instant) (organizationId : Option UUID)
      (priorityAgingSeconds : Nat)
  | heartbeat (jobId organizationId : UUID) (workerId : String) (now : Instant)
  | updateProgress (jobId organizationId : UUID) (percentage : Int) (message : Option String)
      (now : Instant)
  | requestCancellation (jobId organizationId : UUID) (now : Instant)
  | complete (jobId : UUID) (target : BackgroundJobStatus) (organizationId : UUID) (now : Instant)
      (failureCode failureMessage : Option String) (retryAt : Option Instant)
  | recoverStale (staleBefore now : Instant)
  | retryFailed (jobId organizationId : UUID) (now : Instant)
  | deleteExpiredTerminal (cutoffs : List (BackgroundJobStatus × Instant)) (limit : Nat)
  /-- Other repositories write their tables. -/
  | others (tables : OtherTables)

namespace Operation

/-- The unit of work, with the limit on manual retries. -/
def transaction (maxManualRetries : Nat) : Operation → Session Unit
  | .create jobId organizationId runId scheduledAt maxAttempts timeoutSeconds priority now =>
    void (BackgroundJobRepository.create jobId organizationId runId scheduledAt maxAttempts
      timeoutSeconds priority now)
  | .claimNext workerId now organizationId aging =>
    void (BackgroundJobRepository.claimNext workerId now organizationId aging)
  | .heartbeat jobId organizationId workerId now =>
    void (BackgroundJobRepository.heartbeat jobId organizationId workerId now)
  | .updateProgress jobId organizationId percentage message now =>
    void (BackgroundJobRepository.updateProgress jobId organizationId percentage message now)
  | .requestCancellation jobId organizationId now =>
    void (BackgroundJobRepository.requestCancellation jobId organizationId now)
  | .complete jobId target organizationId now failureCode failureMessage retryAt =>
    void (BackgroundJobRepository.complete jobId target organizationId now failureCode
      failureMessage retryAt)
  | .recoverStale staleBefore now =>
    void (BackgroundJobRepository.recoverStale staleBefore now)
  | .retryFailed jobId organizationId now =>
    void (BackgroundJobRepository.retryFailed jobId organizationId maxManualRetries now)
  | .deleteExpiredTerminal cutoffs limit =>
    void (BackgroundJobRepository.deleteExpiredTerminal cutoffs limit)
  | .others tables => modify fun db => { db with
      runs := tables.runs
      sourceFiles := tables.sourceFiles
      configurations := tables.configurations
      results := tables.results
      auditEvents := tables.auditEvents }

/-- The database after the operation, accepted or rejected. -/
def apply (maxManualRetries : Nat) (operation : Operation) (db : Database) : Database :=
  (atomically (operation.transaction maxManualRetries) db).2

end Operation

/-- Every operation can be called in every state. -/
def step (maxManualRetries : Nat) (db : Database) (operation : Operation) : Option Database :=
  some (operation.apply maxManualRetries db)

/-- No job yet. -/
structure Empty (db : Database) : Prop where
  jobs : db.jobs.rows = []
  jobEvents : db.jobEvents.rows = []

/-- Two runs without jobs. -/
def twoRuns : Database where
  runs := ⟨[{ id := 1, organizationId := 1, createdAt := 0 },
    { id := 2, organizationId := 2, createdAt := 0 }], by decide⟩
  sourceFiles := .empty
  configurations := .empty

theorem twoRuns_empty : Empty twoRuns := ⟨rfl, rfl⟩

/-! ### One job -/

/-- What an operation can make of a job, and the events it logs. -/
inductive JobMove (limit : Nat) (job : BackgroundJobRecord) :
    Operation → List EventEntry → BackgroundJobRecord → Prop
  | claim {workerId : String} {now : Instant} {organizationId : Option UUID} {aging : Nat} :
      job.isEligible now organizationId = true →
      JobMove limit job (.claimNext workerId now organizationId aging)
        [(job.claimed (strip workerId) now).claimEntry now] (job.claimed (strip workerId) now)
  | beat {jobId organizationId : UUID} {workerId : String} {now : Instant} :
      job.status.isActive = true →
      JobMove limit job (.heartbeat jobId organizationId workerId now) [] (job.beaten now)
  | progress {jobId organizationId : UUID} {percentage : Int} {message : Option String}
      {now : Instant} :
      job.status.isActive = true →
      JobMove limit job (.updateProgress jobId organizationId percentage message now)
        [⟨.jobProgressUpdated, now,
          { status := job.status, progressPercentage := some percentage }⟩]
        (job.progressed percentage message)
  | cancel {jobId organizationId : UUID} {now : Instant} :
      (job.status = .queued ∨ job.status = .running) →
      JobMove limit job (.requestCancellation jobId organizationId now)
        (job.cancellationEntries now) (job.cancelled now)
  | complete {jobId organizationId : UUID} {target : BackgroundJobStatus} {now : Instant}
      {code message : Option String} {retryAt : Option Instant} :
      target ∈ job.status.allowed →
      (BackgroundJobRecord.isRetry target retryAt = true → job.attemptCount < job.maxAttempts) →
      JobMove limit job (.complete jobId target organizationId now code message retryAt)
        [(job.completed target now code message retryAt).completionEntry target now code retryAt]
        (job.completed target now code message retryAt)
  | recover {staleBefore now : Instant} :
      job.isStale staleBefore = true →
      JobMove limit job (.recoverStale staleBefore now) [job.recoveryEntry now]
        (job.recovered now)
  | retry {jobId organizationId : UUID} {now : Instant} :
      job.status = .failed → job.manualRetryCount < limit →
      JobMove limit job (.retryFailed jobId organizationId now)
        [(job.retried now).retryEntry now] (job.retried now)

/-- What an operation can do to a job that is there or not, and to its events. -/
inductive JobChange (limit : Nat) : Operation →
    Option BackgroundJobRecord → List BackgroundJobEventRecord →
    Option BackgroundJobRecord → List BackgroundJobEventRecord → Prop
  | same {operation : Operation} {job : Option BackgroundJobRecord}
      {events : List BackgroundJobEventRecord} :
      JobChange limit operation job events job events
  | move {operation : Operation} {job job' : BackgroundJobRecord} {entries : List EventEntry}
      {events : List BackgroundJobEventRecord} :
      JobMove limit job operation entries job' →
      JobChange limit operation (some job) events (some job')
        (events ++ job'.eventRows (lastSequence (events.map (·.sequenceNumber))) entries)
  | create {jobId organizationId runId : UUID} {scheduledAt : Instant}
      {maxAttempts timeoutSeconds : Nat} {priority : BackgroundJobPriority} {now : Instant}
      {job : BackgroundJobRecord} {events : List BackgroundJobEventRecord} :
      job = .created jobId organizationId runId scheduledAt maxAttempts timeoutSeconds priority
        now →
      JobChange limit (.create jobId organizationId runId scheduledAt maxAttempts timeoutSeconds
          priority now) none events (some job)
        (events ++ job.eventRows (lastSequence (events.map (·.sequenceNumber)))
          [⟨.jobQueued, now, { status := .queued, priority := some priority }⟩])
  | delete {cutoffs : List (BackgroundJobStatus × Instant)} {n : Nat}
      {job : BackgroundJobRecord} {events : List BackgroundJobEventRecord} :
      job.status.isTerminal = true →
      JobChange limit (.deleteExpiredTerminal cutoffs n) (some job) events none []

theorem JobMove.sameJob {limit : Nat} {job job' : BackgroundJobRecord} {operation : Operation}
    {entries : List EventEntry} (h : JobMove limit job operation entries job') :
    job.SameJob job' := by
  cases h with
  | claim => exact BackgroundJobRecord.sameJob_claimed
  | beat => exact BackgroundJobRecord.sameJob_beaten
  | progress => exact BackgroundJobRecord.sameJob_progressed
  | cancel => exact BackgroundJobRecord.sameJob_cancelled
  | complete => exact BackgroundJobRecord.sameJob_completed
  | recover => exact BackgroundJobRecord.sameJob_recovered
  | retry => exact BackgroundJobRecord.sameJob_retried

/-! ### The operations change jobs in no other way -/

section

variable {limit : Nat} {db db' : Database}

/-- The change that an operation makes to each job. -/
def Changes (limit : Nat) (operation : Operation) (db db' : Database) : Prop :=
  ∀ k, JobChange limit operation (db.jobs.find k) (db.eventsOf k) (db'.jobs.find k)
    (db'.eventsOf k)

/-- One job moves, the others stay. -/
theorem changes_stored {operation : Operation} {job record : BackgroundJobRecord}
    {entries : List EventEntry} (hjob : db.jobs.find job.id = some job)
    (hmove : JobMove limit job operation entries record)
    (hfind : ∀ k, db'.jobs.find k = if k = record.id then some record else db.jobs.find k)
    (hlogged : Logged db record entries db') : Changes limit operation db db' := by
  intro k
  rw [hfind, hlogged k, hmove.sameJob.id]
  by_cases hk : k = job.id
  · rw [if_pos hk, if_pos hk, hk, hjob]
    exact .move hmove
  · rw [if_neg hk, if_neg hk]
    exact .same

theorem changes_swept {staleBefore now : Instant} (h : Swept db staleBefore now db') :
    Changes limit (.recoverStale staleBefore now) db db' := by
  intro k
  rw [h.find, h.events, Database.eventsAfter]
  cases hf : db.jobs.find k with
  | none =>
    simp only [Option.map_none, Option.getD_none, List.append_nil]
    exact .same
  | some job =>
    by_cases hstale : job.isStale staleBefore = true
    · have hsame : job.SameJob (job.recovered now) := BackgroundJobRecord.sameJob_recovered
      simp only [Option.map_some, Option.getD_some, BackgroundJobRecord.swept,
        BackgroundJobRecord.sweepEntries, if_pos hstale,
        ← BackgroundJobRecord.eventRows_congr hsame.id hsame.organizationId]
      exact .move (.recover hstale)
    · simp only [Option.map_some, Option.getD_some, BackgroundJobRecord.swept,
        BackgroundJobRecord.sweepEntries, if_neg hstale, BackgroundJobRecord.eventRows,
        List.append_nil]
      exact .same

theorem find_of_find {jobId : UUID} {job : BackgroundJobRecord}
    (h : db.jobs.find jobId = some job) : db.jobs.find job.id = some job :=
  Table.find_of_mem (Table.mem_of_find h)

theorem runs_changes {operation : Operation} {u : Unit}
    (h : Runs (operation.transaction limit) db u db') : Changes limit operation db db' := by
  cases operation with
  | create jobId organizationId runId scheduledAt maxAttempts timeoutSeconds priority now =>
    obtain ⟨job, h⟩ := runs_void.mp h
    obtain ⟨hjob, hnone, -, hstored, hlogged⟩ := runs_create h
    have hid : job.id = jobId := by rw [hjob]; rfl
    intro k
    rw [hstored.find, hlogged k]
    by_cases hk : k = job.id
    · subst hid
      rw [if_pos hk, if_pos hk, hk, hnone]
      exact .create hjob
    · rw [if_neg hk, if_neg hk]
      exact .same
  | claimNext workerId now organizationId aging =>
    obtain ⟨claim, h⟩ := runs_void.mp h
    obtain ⟨-, rfl⟩ | ⟨job, -, hjob, heligible, -, hstored, hlogged⟩ := runs_claimNext h
    · exact fun _ => .same
    · exact changes_stored hjob (.claim heligible) hstored.find hlogged
  | heartbeat jobId organizationId workerId now =>
    obtain ⟨record, h⟩ := runs_void.mp h
    obtain ⟨job, hjob, hactive, -, rfl, hstored, hlogged⟩ := runs_heartbeat h
    exact changes_stored (find_of_find hjob) (.beat hactive) hstored.find hlogged
  | updateProgress jobId organizationId percentage message now =>
    obtain ⟨record, h⟩ := runs_void.mp h
    obtain ⟨job, hjob, hactive, rfl, hstored, hlogged⟩ := runs_updateProgress h
    exact changes_stored (find_of_find hjob) (.progress hactive) hstored.find hlogged
  | requestCancellation jobId organizationId now =>
    obtain ⟨record, h⟩ := runs_void.mp h
    obtain ⟨job, hjob, -, hstatus, rfl, hstored, hlogged⟩ := runs_requestCancellation h
    exact changes_stored (find_of_find hjob) (.cancel hstatus) hstored.find hlogged
  | complete jobId target organizationId now code message retryAt =>
    obtain ⟨record, h⟩ := runs_void.mp h
    obtain ⟨job, hjob, htarget, hretry, rfl, hstored, hlogged⟩ := runs_complete h
    exact changes_stored (find_of_find hjob) (.complete htarget hretry) hstored.find hlogged
  | recoverStale staleBefore now =>
    obtain ⟨n, h⟩ := runs_void.mp h
    exact changes_swept (runs_recoverStale h)
  | retryFailed jobId organizationId now =>
    obtain ⟨record, h⟩ := runs_void.mp h
    obtain ⟨job, run, mid, hjob, hfailed, hlimit, -, -, -, rfl, hstored, hrenewed, hlogged⟩ :=
      runs_retryFailed h
    exact changes_stored (find_of_find hjob) (.retry hfailed hlimit)
      (hrenewed.jobs ▸ hstored.find) hlogged
  | deleteExpiredTerminal cutoffs n =>
    obtain ⟨_, h⟩ := runs_void.mp h
    obtain ⟨ids, hids, hjobs, hevents⟩ := runs_deleteExpiredTerminal h
    intro k
    rw [hjobs, hevents]
    by_cases hk : k ∈ ids
    · obtain ⟨job, hjob, hterminal⟩ := hids k hk
      rw [if_pos hk, if_pos hk, hjob]
      exact .delete hterminal
    · rw [if_neg hk, if_neg hk]
      exact .same
  | others tables =>
    have hdb : { db with
        runs := tables.runs, sourceFiles := tables.sourceFiles
        configurations := tables.configurations, results := tables.results
        auditEvents := tables.auditEvents } = db' := by
      simpa [Operation.transaction, Runs, modify, modifyGet, MonadStateOf.modifyGet,
        StateT.modifyGet, StateT.run, pure, Except.pure] using h
    subst hdb
    exact fun _ => .same

theorem apply_of_runs {operation : Operation} {u : Unit}
    (h : Runs (operation.transaction limit) db u db') : operation.apply limit db = db' := by
  unfold Operation.apply
  rw [atomically_ok.mpr h]

/-- **An operation, accepted or rejected, does to each job what a change does.** -/
theorem apply_change (limit : Nat) (operation : Operation) (db : Database) :
    Changes limit operation db (operation.apply limit db) := by
  unfold Operation.apply
  cases hok : atomically (operation.transaction limit) db with
  | mk r db' =>
    cases r with
    | ok u => exact runs_changes (atomically_ok.mp hok)
    | error e =>
      obtain rfl := (of_atomically_error hok).1
      exact fun _ => .same

end

end ReconcileFlow.Queue
