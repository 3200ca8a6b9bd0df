import ReconcileFlow.Persistence.Repositories

/-!
# Persistence — Effects

What each repository operation did when it returned: the checks that passed and the database it
left.  An operation on a job stores one job record (`JobStored`) and appends events of it
(`Logged`), a transition of a run stores one run record (`RunStored`); the tables they do not name
are as before.
-/

namespace ReconcileFlow.Persistence

open Support Support.Transaction
open Reconciliation (ReconciliationResult)
open Audit (AuditEvent)

/-- `db'` is `db` with `job` stored under its id, and with further job events. -/
structure JobStored (db : Database) (job : BackgroundJobRecord) (db' : Database) : Prop where
  find : ∀ k, db'.jobs.find k = if k = job.id then some job else db.jobs.find k
  runs : db'.runs = db.runs
  sourceFiles : db'.sourceFiles = db.sourceFiles
  configurations : db'.configurations = db.configurations
  results : db'.results = db.results
  auditEvents : db'.auditEvents = db.auditEvents

/-- `db'` is `db` with `run` stored under its id. -/
structure RunStored (db : Database) (run : ReconciliationRunRecord) (db' : Database) : Prop where
  find : ∀ k, db'.runs.find k = if k = run.id then some run else db.runs.find k
  jobs : db'.jobs = db.jobs
  sourceFiles : db'.sourceFiles = db.sourceFiles
  configurations : db'.configurations = db.configurations
  results : db'.results = db.results
  auditEvents : db'.auditEvents = db.auditEvents

/-! ### The events of a job -/

/-- The events of a job, in the order they were appended. -/
def Database.eventsOf (db : Database) (jobId : UUID) : List BackgroundJobEventRecord :=
  db.jobEvents.rows.filter fun event => decide (event.jobId = jobId)

/-- An event that an operation appends. -/
structure EventEntry where
  eventType : BackgroundJobEventType
  occurredAt : Instant
  details : EventDetails

/-- The rows of events appended one after another, the first after the sequence number `last`. -/
def BackgroundJobRecord.eventRows (job : BackgroundJobRecord) (last : Nat) :
    List EventEntry → List BackgroundJobEventRecord
  | [] => []
  | entry :: entries =>
    ⟨job.organizationId, job.id, last + 1, entry.eventType, entry.occurredAt, entry.details⟩ ::
      job.eventRows (last + 1) entries

theorem BackgroundJobRecord.eventRows_append (job : BackgroundJobRecord) (last : Nat)
    (entries entries' : List EventEntry) : job.eventRows last (entries ++ entries') =
      job.eventRows last entries ++ job.eventRows (last + entries.length) entries' := by
  induction entries generalizing last with
  | nil => rfl
  | cons entry entries ih =>
    simp only [List.cons_append, eventRows, ih, List.length_cons]
    rw [Nat.add_right_comm, Nat.add_assoc]

/-- Event rows name the job and its organization only. -/
theorem BackgroundJobRecord.eventRows_congr {job job' : BackgroundJobRecord}
    (hid : job'.id = job.id) (horg : job'.organizationId = job.organizationId) (last : Nat)
    (entries : List EventEntry) : job'.eventRows last entries = job.eventRows last entries := by
  induction entries generalizing last with
  | nil => rfl
  | cons entry entries ih => simp only [eventRows, ih, hid, horg]

/-- The highest sequence number of a job's events. -/
def Database.lastEvent (db : Database) (jobId : UUID) : Nat :=
  lastSequence ((db.eventsOf jobId).map (·.sequenceNumber))

theorem lastSequence_append (l l' : List Nat) :
    lastSequence (l ++ l') = max (lastSequence l) (lastSequence l') := by
  induction l with
  | nil => simp [lastSequence]
  | cons n l ih =>
    simp only [lastSequence, List.cons_append, List.foldr_cons] at ih ⊢
    rw [ih, max_assoc]

/-- The last of the numbers 1, …, n. -/
theorem lastSequence_range' (n : Nat) : lastSequence (List.range' 1 n) = n := by
  induction n with
  | zero => rfl
  | succ n ih =>
    rw [List.range'_concat, lastSequence_append, ih]
    simp only [lastSequence, List.foldr_cons, List.foldr_nil]
    omega

theorem lastSequence_eventRows (job : BackgroundJobRecord) (entries : List EventEntry)
    (last : Nat) :
    max last (lastSequence ((job.eventRows last entries).map (·.sequenceNumber))) =
      last + entries.length := by
  induction entries generalizing last with
  | nil => simp [BackgroundJobRecord.eventRows, lastSequence]
  | cons entry entries ih =>
    have := ih (last + 1)
    simp only [BackgroundJobRecord.eventRows, lastSequence, List.map_cons, List.foldr_cons,
      List.length_cons] at this ⊢
    omega

/-- `db'` has the further events `entries` of `job`. -/
def Logged (db : Database) (job : BackgroundJobRecord) (entries : List EventEntry)
    (db' : Database) : Prop :=
  ∀ k, db'.eventsOf k =
    if k = job.id then db.eventsOf k ++ job.eventRows (db.lastEvent k) entries else db.eventsOf k

namespace Logged

variable {db db' db'' : Database} {job job' : BackgroundJobRecord}
  {entries entries' : List EventEntry}

theorem nil (h : db'.jobEvents = db.jobEvents) : Logged db job [] db' := by
  intro k
  simp [Database.eventsOf, h, BackgroundJobRecord.eventRows]

theorem trans (h : Logged db job entries db') (h' : Logged db' job' entries' db'')
    (hid : job'.id = job.id) (horg : job'.organizationId = job.organizationId) :
    Logged db job' (entries ++ entries') db'' := by
  intro k
  rw [h' k, h k, hid]
  by_cases hk : k = job.id
  · have hlast : db'.lastEvent k = db.lastEvent k + entries.length := by
      simp only [Database.lastEvent, h k, if_pos hk, List.map_append, lastSequence_append]
      exact lastSequence_eventRows job entries _
    rw [if_pos hk, if_pos hk, if_pos hk, hlast, job'.eventRows_append, List.append_assoc,
      BackgroundJobRecord.eventRows_congr hid horg (db.lastEvent k)]
  · rw [if_neg hk, if_neg hk, if_neg hk]

end Logged

namespace JobStored

variable {db db' db'' : Database} {job job' : BackgroundJobRecord}

theorem trans (h : JobStored db job db') (h' : JobStored db' job' db'') (hid : job'.id = job.id) :
    JobStored db job' db'' where
  find k := by
    rw [h'.find, h.find, hid]
    split <;> rfl
  runs := h'.runs.trans h.runs
  sourceFiles := h'.sourceFiles.trans h.sourceFiles
  configurations := h'.configurations.trans h.configurations
  results := h'.results.trans h.results
  auditEvents := h'.auditEvents.trans h.auditEvents

/-- Job events do not matter. -/
theorem addEvents (h : JobStored db job db') (events : Table jobEventSchema) :
    JobStored db job { db' with jobEvents := events } :=
  ⟨h.find, h.runs, h.sourceFiles, h.configurations, h.results, h.auditEvents⟩

theorem ofEvents {events : Table jobEventSchema}
    (h : JobStored { db with jobEvents := events } job db') : JobStored db job db' :=
  ⟨h.find, h.runs, h.sourceFiles, h.configurations, h.results, h.auditEvents⟩

end JobStored

theorem RunStored.addEvents {db db' : Database} {run : ReconciliationRunRecord}
    (h : RunStored db run db') (events : Table jobEventSchema) :
    RunStored db run { db' with jobEvents := events } :=
  ⟨h.find, h.jobs, h.sourceFiles, h.configurations, h.results, h.auditEvents⟩

section

variable {db db' : Database} {u : Unit}

/-! ### Runs -/

theorem runs_flushRun {run : ReconciliationRunRecord} {old : ReconciliationRunRecord}
    (hold : db.runs.find run.id = some old) (h : Runs (flushRun run) db u db') :
    RunStored db run db' ∧ db'.jobEvents = db.jobEvents := by
  simp only [flushRun, runs_bind, runs_get, runs_fromOption, runs_set] at h
  obtain ⟨_, _, ⟨rfl, rfl⟩, runs, _, ⟨hruns, rfl⟩, rfl⟩ := h
  refine ⟨⟨fun k => ?_, rfl, rfl, rfl, rfl, rfl⟩, rfl⟩
  rw [Table.find_update hruns]
  show (if k = run.id then _ else _) = _
  split
  · next hk => rw [hk, hold]; rfl
  · rfl

theorem runs_get_run {runId organizationId : UUID} {run : ReconciliationRunRecord} :
    Runs (ReconciliationRunRepository.get runId organizationId) db run db' ↔
      db.runs.find runId = some run ∧ run.organizationId = organizationId ∧ db = db' := by
  simp only [ReconciliationRunRepository.get, runs_bind, runs_get, runs_fromOption, Option.filter_eq_some_iff,
    decide_eq_true_eq]
  constructor
  · rintro ⟨_, _, ⟨rfl, rfl⟩, ⟨hrun, horg⟩, rfl⟩
    exact ⟨hrun, horg, rfl⟩
  · rintro ⟨hrun, horg, rfl⟩
    exact ⟨_, _, ⟨rfl, rfl⟩, ⟨hrun, horg⟩, rfl⟩

theorem runs_transition {runId organizationId : UUID} {status : RunStatus} {now : Instant}
    {code message : Option String} {run' : ReconciliationRunRecord}
    (h : Runs (ReconciliationRunRepository.transition runId status now code message organizationId) db run' db') :
    ∃ run, db.runs.find runId = some run ∧ status ∈ run.status.transitions ∧
      run' = run.moved status now code message ∧ RunStored db run' db' := by
  simp only [ReconciliationRunRepository.transition, runs_bind, runs_get_run, runs_require, runs_pure] at h
  obtain ⟨run, _, ⟨hrun, -, rfl⟩, _, _, ⟨hallowed, rfl⟩, _, _, hflush, rfl, rfl⟩ := h
  have hid : run.id = runId := Table.key_of_find hrun
  have hmoved : (run.moved status now code message).id = runId := by
    unfold ReconciliationRunRecord.moved
    split <;> exact hid
  exact ⟨run, hrun, hallowed, rfl, (runs_flushRun (hmoved ▸ hrun) hflush).1⟩

theorem exists_flushRun (db : Database) {run : ReconciliationRunRecord}
    (hcheck : notBefore run.finishedAt run.startedAt = true) :
    ∃ db', Runs (flushRun run) db () db' := by
  obtain ⟨runs, hruns⟩ := Table.exists_update (S := runSchema) (t := db.runs) (r := run) hcheck
    fun _ _ _ => rfl
  refine ⟨{ db with runs := runs }, ?_⟩
  simp only [flushRun, runs_bind, runs_get, runs_fromOption, runs_set]
  exact ⟨_, _, ⟨rfl, rfl⟩, runs, _, ⟨hruns, rfl⟩, rfl⟩

/-- A transition that is allowed happens, unless the run would finish before it started. -/
theorem exists_transition (status : RunStatus) (now : Instant) (code message : Option String)
    {runId organizationId : UUID} {run : ReconciliationRunRecord}
    (hrun : db.runs.find runId = some run) (horg : run.organizationId = organizationId)
    (hallowed : status ∈ run.status.transitions)
    (hcheck : notBefore (run.moved status now code message).finishedAt
      (run.moved status now code message).startedAt = true) :
    ∃ run' db', Runs (ReconciliationRunRepository.transition runId status now code message
      organizationId) db run' db' := by
  obtain ⟨db', hflush⟩ := exists_flushRun db hcheck
  refine ⟨run.moved status now code message, db', ?_⟩
  simp only [ReconciliationRunRepository.transition, runs_bind, runs_get_run, runs_require,
    runs_pure]
  exact ⟨run, db, ⟨hrun, horg, rfl⟩, (), db, ⟨hallowed, rfl⟩, (), db', hflush, rfl, rfl⟩

/-! ### Results and audit events -/

theorem toColumns_eq_some {result stored : ReconciliationResult}
    (h : toColumns result = some stored) : stored = storedResult result := by
  obtain ⟨_, -, h⟩ := Option.bind_eq_some_iff.mp h
  obtain ⟨_, -, h⟩ := Option.bind_eq_some_iff.mp h
  obtain ⟨_, -, h⟩ := Option.bind_eq_some_iff.mp h
  exact (Option.some.inj h).symm

theorem allToColumns_eq_some {results stored : List ReconciliationResult}
    (h : results.mapM toColumns = some stored) : stored = results.map storedResult := by
  induction results generalizing stored with
  | nil => exact (Option.some.inj h).symm
  | cons result results ih =>
    rw [List.mapM_cons] at h
    obtain ⟨first, hfirst, h⟩ := Option.bind_eq_some_iff.mp h
    obtain ⟨rest, hrest, h⟩ := Option.bind_eq_some_iff.mp h
    rw [← Option.some.inj h, toColumns_eq_some hfirst, ih hrest, List.map_cons]

theorem runs_addMany {runId : UUID} {results : List ReconciliationResult}
    (h : Runs (ReconciliationResultRepository.addMany runId results) db u db') :
    ∃ t, t.rows = db.results.rows ++ (results.map storedResult).map (⟨runId, ·⟩) ∧
      db' = { db with results := t } := by
  simp only [ReconciliationResultRepository.addMany, runs_bind, runs_get, runs_fromOption,
    runs_set] at h
  obtain ⟨stored, _, ⟨hstored, rfl⟩, _, _, ⟨rfl, rfl⟩, t, _, ⟨ht, rfl⟩, rfl⟩ := h
  rw [← allToColumns_eq_some hstored]
  exact ⟨t, Table.rows_of_ofRows? ht, rfl⟩

/-- `db'` is `db` with further audit events, all of `runId`. -/
def AuditAppended (db : Database) (runId : UUID) (events : List AuditEvent) (db' : Database) : Prop :=
  ∃ t records, t.rows = db.auditEvents.rows ++ records ∧ db' = { db with auditEvents := t } ∧
    records.map (·.event) = events ∧ ∀ record ∈ records, record.runId = runId

theorem runs_append {runId : UUID} {event : AuditEvent}
    (h : Runs (AuditEventRepository.append runId event) db u db') :
    AuditAppended db runId [event] db' := by
  simp only [AuditEventRepository.append, runs_bind, runs_get, runs_require, runs_fromOption,
    runs_set] at h
  obtain ⟨_, _, ⟨rfl, rfl⟩, _, _, ⟨-, rfl⟩, t, _, ⟨ht, rfl⟩, rfl⟩ := h
  exact ⟨t, [⟨runId, _, event⟩], Table.rows_insert ht, rfl, rfl, by simp⟩

theorem AuditAppended.trans {db'' : Database} {runId : UUID} {events events' : List AuditEvent}
    (h : AuditAppended db runId events db') (h' : AuditAppended db' runId events' db'') :
    AuditAppended db runId (events ++ events') db'' := by
  obtain ⟨t, records, ht, rfl, rfl, hrun⟩ := h
  obtain ⟨t', records', ht', rfl, rfl, hrun'⟩ := h'
  refine ⟨t', records ++ records', ?_, rfl, List.map_append, ?_⟩
  · rw [ht']
    simp [ht]
  · intro record hm
    exact (List.mem_append.mp hm).elim (hrun record) (hrun' record)

/-- A loop that appends the events of one run. -/
theorem runs_appendAll {runId : UUID} {events : List AuditEvent}
    (h : Runs (forM events (AuditEventRepository.append runId)) db u db') :
    AuditAppended db runId events db' := by
  induction events generalizing db with
  | nil =>
    rw [List.forM_nil, runs_pure] at h
    exact ⟨db.auditEvents, [], by simp, h.2.symm, rfl, by simp⟩
  | cons event events ih =>
    rw [List.forM_cons, runs_bind] at h
    obtain ⟨_, _, hevent, hevents⟩ := h
    exact (runs_append hevent).trans (ih hevents)

/-- The events of the run, and of every other. -/
theorem AuditAppended.events {runId : UUID} {events : List AuditEvent}
    (h : AuditAppended db runId events db') (r : UUID) :
    (db'.auditEventsOf r).map (·.event) =
      (db.auditEventsOf r).map (·.event) ++ if r = runId then events else [] := by
  obtain ⟨t, records, ht, rfl, rfl, hrun⟩ := h
  simp only [Database.auditEventsOf, ht, List.filter_append, List.map_append]
  congr 1
  split
  · next hr =>
    rw [List.filter_eq_self.mpr fun record hm => decide_eq_true ((hrun record hm).trans hr.symm)]
  · next hr =>
    rw [List.filter_eq_nil_iff.mpr fun record hm => by simpa [hrun record hm] using Ne.symm hr]
    rfl

/-- The audit events of the run are numbered 1, …, n, in the order they were appended. -/
def Database.IsNumbered (db : Database) (runId : UUID) : Prop :=
  (db.auditEventsOf runId).map (·.sequenceNumber) =
    List.range' 1 (db.auditEventsOf runId).length

theorem numbered_append {runId : UUID} {event : AuditEvent}
    (h : Runs (AuditEventRepository.append runId event) db u db') {r : UUID}
    (hn : db.IsNumbered r) : db'.IsNumbered r := by
  simp only [AuditEventRepository.append, runs_bind, runs_get, runs_require, runs_fromOption,
    runs_set] at h
  obtain ⟨_, _, ⟨rfl, rfl⟩, _, _, ⟨-, rfl⟩, t, _, ⟨ht, rfl⟩, rfl⟩ := h
  by_cases hr : r = runId
  · -- the next number is one more than the length
    subst hr
    have hrows : Database.auditEventsOf { db with auditEvents := t } r = db.auditEventsOf r ++
        [⟨r, lastSequence ((db.auditEventsOf r).map (·.sequenceNumber)) + 1, event⟩] := by
      simp [Database.auditEventsOf, Table.rows_insert ht]
    unfold Database.IsNumbered at hn ⊢
    rw [hrows, List.map_append, hn, lastSequence_range', List.length_append, List.length_singleton,
      List.range'_concat, Nat.one_mul, Nat.add_comm 1]
    rfl
  · have hrows : Database.auditEventsOf { db with auditEvents := t } r = db.auditEventsOf r := by
      simp [Database.auditEventsOf, Table.rows_insert ht, Ne.symm hr]
    unfold Database.IsNumbered
    rw [hrows]
    exact hn

theorem numbered_appendAll {runId : UUID} {events : List AuditEvent}
    (h : Runs (forM events (AuditEventRepository.append runId)) db u db') {r : UUID}
    (hn : db.IsNumbered r) : db'.IsNumbered r := by
  induction events generalizing db with
  | nil =>
    rw [List.forM_nil, runs_pure] at h
    exact h.2 ▸ hn
  | cons event events ih =>
    rw [List.forM_cons, runs_bind] at h
    obtain ⟨_, _, hevent, hevents⟩ := h
    exact ih hevents (numbered_append hevent hn)

theorem Database.IsNumbered.congr {r : UUID} (hn : db.IsNumbered r)
    (h : db'.auditEvents = db.auditEvents) : db'.IsNumbered r := by
  unfold Database.IsNumbered Database.auditEventsOf
  rw [h]
  exact hn

theorem le_lastSequence {n : Nat} {sequences : List Nat} (h : n ∈ sequences) :
    n ≤ lastSequence sequences := by
  induction sequences with
  | nil => simp at h
  | cons m sequences ih =>
    simp only [lastSequence, List.foldr_cons] at ih ⊢
    rcases List.mem_cons.mp h with rfl | h
    · exact Nat.le_max_left _ _
    · exact (ih h).trans (Nat.le_max_right _ _)

/-- The next sequence number of a run is free. -/
theorem exists_append {runId : UUID} (event : AuditEvent) (hrun : (db.runs.find runId).isSome) :
    ∃ db', Runs (AuditEventRepository.append runId event) db () db' := by
  let sequence := lastSequence ((db.auditEventsOf runId).map (·.sequenceNumber))
  have hfree : ∀ record ∈ db.auditEvents.rows,
      auditEventSchema.key record ≠ (runId, sequence + 1) := by
    intro record hm hkey
    obtain ⟨hid, hsequence⟩ := Prod.mk.inj hkey
    have hle : record.sequenceNumber ≤ sequence :=
      le_lastSequence (List.mem_map_of_mem (List.mem_filter.mpr ⟨hm, by simpa using hid⟩))
    omega
  obtain ⟨t, ht⟩ := Table.exists_insert (S := auditEventSchema) (t := db.auditEvents)
    (r := ⟨runId, sequence + 1, event⟩) rfl hfree fun _ _ => rfl
  refine ⟨{ db with auditEvents := t }, ?_⟩
  simp only [AuditEventRepository.append, runs_bind, runs_get, runs_require, runs_fromOption,
    runs_set]
  exact ⟨_, _, ⟨rfl, rfl⟩, (), _, ⟨hrun, rfl⟩, t, _, ⟨ht, rfl⟩, rfl⟩

theorem exists_appendAll {runId : UUID} (events : List AuditEvent)
    (hrun : (db.runs.find runId).isSome) :
    ∃ db', Runs (forM events (AuditEventRepository.append runId)) db () db' := by
  induction events generalizing db with
  | nil => exact ⟨db, by rw [List.forM_nil, runs_pure]; exact ⟨rfl, rfl⟩⟩
  | cons event events ih =>
    obtain ⟨mid, hevent⟩ := exists_append event hrun
    have hruns : mid.runs = db.runs := by
      obtain ⟨_, _, -, rfl, -⟩ := runs_append hevent
      rfl
    obtain ⟨db', hevents⟩ := @ih mid (hruns ▸ hrun)
    exact ⟨db', by rw [List.forM_cons, runs_bind]; exact ⟨(), mid, hevent, hevents⟩⟩

/-! ### Background jobs -/

theorem runs_appendEvent {job : BackgroundJobRecord} {eventType : BackgroundJobEventType}
    {now : Instant} {details : EventDetails}
    (h : Runs (BackgroundJobRepository.appendEvent job eventType now details) db u db') :
    (∃ events, db' = { db with jobEvents := events }) ∧
      Logged db job [⟨eventType, now, details⟩] db' := by
  simp only [BackgroundJobRepository.appendEvent, runs_bind, runs_get, runs_fromOption,
    runs_set] at h
  obtain ⟨_, _, ⟨rfl, rfl⟩, events, _, ⟨hevents, rfl⟩, rfl⟩ := h
  refine ⟨⟨events, rfl⟩, fun k => ?_⟩
  simp only [Database.eventsOf, Table.rows_insert hevents, List.filter_append]
  by_cases hk : k = job.id
  · subst hk
    simp [BackgroundJobRecord.eventRows, Database.lastEvent, Database.eventsOf]
  · simp [hk, Ne.symm hk]

theorem runs_flush (job : BackgroundJobRecord) {old : BackgroundJobRecord}
    (hold : db.jobs.find job.id = some old)
    (h : Runs (BackgroundJobRepository.flush job) db u db') :
    JobStored db job db' ∧ Logged db job [] db' := by
  simp only [BackgroundJobRepository.flush, runs_bind, runs_get, runs_fromOption, runs_set] at h
  obtain ⟨_, _, ⟨rfl, rfl⟩, jobs, _, ⟨hjobs, rfl⟩, rfl⟩ := h
  refine ⟨⟨fun k => ?_, rfl, rfl, rfl, rfl, rfl⟩, .nil rfl⟩
  rw [Table.find_update hjobs]
  show (if k = job.id then _ else _) = _
  split
  · next hk => rw [hk, hold]; rfl
  · rfl

theorem runs_get_job {jobId organizationId : UUID} {job : BackgroundJobRecord} :
    Runs (BackgroundJobRepository.get jobId organizationId) db job db' ↔
      db.jobs.find jobId = some job ∧ job.organizationId = organizationId ∧ db = db' := by
  simp only [BackgroundJobRepository.get, runs_bind, runs_get, runs_fromOption,
    Option.filter_eq_some_iff, decide_eq_true_eq]
  constructor
  · rintro ⟨_, _, ⟨rfl, rfl⟩, ⟨hjob, horg⟩, rfl⟩
    exact ⟨hjob, horg, rfl⟩
  · rintro ⟨hjob, horg, rfl⟩
    exact ⟨_, _, ⟨rfl, rfl⟩, ⟨hjob, horg⟩, rfl⟩

theorem runs_heartbeat {jobId organizationId : UUID} {workerId : String} {now : Instant}
    {record : BackgroundJobRecord}
    (h : Runs (BackgroundJobRepository.heartbeat jobId organizationId workerId now) db record db') :
    ∃ job, db.jobs.find jobId = some job ∧ job.status.isActive = true ∧
      job.claimedBy = some workerId ∧ record = job.beaten now ∧ JobStored db record db' ∧
      Logged db record [] db' := by
  simp only [BackgroundJobRepository.heartbeat, runs_bind, runs_get_job, runs_require,
    runs_pure] at h
  obtain ⟨job, _, ⟨hjob, -, rfl⟩, _, _, ⟨⟨hactive, hclaimed⟩, rfl⟩, _, _, hflush, rfl, rfl⟩ := h
  have hid : job.id = jobId := Table.key_of_find hjob
  exact ⟨job, hjob, hactive, hclaimed, rfl, runs_flush _ (hid ▸ hjob) hflush⟩

/-- A job is stored and its event appended. -/
theorem runs_flush_append {record old : BackgroundJobRecord} (entry : EventEntry)
    {mid : Database} (hold : db.jobs.find record.id = some old)
    (hflush : Runs (BackgroundJobRepository.flush record) db u mid)
    (hevent : Runs (BackgroundJobRepository.appendEvent record entry.eventType entry.occurredAt
      entry.details) mid u db') :
    JobStored db record db' ∧ Logged db record [entry] db' := by
  obtain ⟨hstored, hlogged⟩ := runs_flush _ hold hflush
  obtain ⟨⟨events, rfl⟩, hentry⟩ := runs_appendEvent hevent
  exact ⟨hstored.addEvents events, hlogged.trans hentry rfl rfl⟩

theorem runs_updateProgress {jobId organizationId : UUID} {percentage : Int}
    {message : Option String} {now : Instant} {record : BackgroundJobRecord}
    (h : Runs (BackgroundJobRepository.updateProgress jobId organizationId percentage message now)
      db record db') :
    ∃ job, db.jobs.find jobId = some job ∧ job.status.isActive = true ∧
      record = job.progressed percentage message ∧ JobStored db record db' ∧
      Logged db record [⟨.jobProgressUpdated, now,
        { status := job.status, progressPercentage := some percentage }⟩] db' := by
  simp only [BackgroundJobRepository.updateProgress, runs_bind, runs_get_job, runs_require,
    runs_pure] at h
  obtain ⟨_, _, ⟨-, rfl⟩, job, _, ⟨hjob, -, rfl⟩, _, _, ⟨hactive, rfl⟩, _, _, hflush, _, _,
    hevent, rfl, rfl⟩ := h
  have hid : job.id = jobId := Table.key_of_find hjob
  exact ⟨job, hjob, hactive, rfl, runs_flush_append _ (hid ▸ hjob) hflush hevent⟩

/-- What `request_cancellation` logs: the request, and the end of a job that no attempt is at
work on. -/
def BackgroundJobRecord.cancellationEntries (job : BackgroundJobRecord) (now : Instant) :
    List EventEntry :=
  ⟨.jobCancellationRequested, now, { status := job.status }⟩ ::
    if job.status = .queued then [⟨.jobCancelled, now, { status := .cancelled }⟩] else []

theorem runs_requestCancellation {jobId organizationId : UUID} {now : Instant}
    {record : BackgroundJobRecord}
    (h : Runs (BackgroundJobRepository.requestCancellation jobId organizationId now)
      db record db') :
    ∃ job, db.jobs.find jobId = some job ∧ job.organizationId = organizationId ∧
      (job.status = .queued ∨ job.status = .running) ∧ record = job.cancelled now ∧
      JobStored db record db' ∧ Logged db record (job.cancellationEntries now) db' := by
  simp only [BackgroundJobRepository.requestCancellation, runs_bind, runs_get_job,
    runs_require] at h
  obtain ⟨job, _, ⟨hjob, horg, rfl⟩, _, _, ⟨hstatus, rfl⟩, _, _, hevent, _, mid, hflush, h⟩ := h
  have hsame : job.SameJob (job.cancelled now) := BackgroundJobRecord.sameJob_cancelled
  have hid : (job.cancelled now).id = jobId := hsame.id.trans (Table.key_of_find hjob)
  obtain ⟨⟨events, rfl⟩, hrequested⟩ := runs_appendEvent hevent
  obtain ⟨hstored, hkept⟩ := runs_flush _ (hid ▸ hjob) hflush
  have hlogged := hrequested.trans hkept hsame.id hsame.organizationId
  have hstored : JobStored db (job.cancelled now) mid := hstored.ofEvents
  refine ⟨job, hjob, horg, hstatus, ?_⟩
  unfold BackgroundJobRecord.cancellationEntries
  split at h
  · next hq =>
    rw [runs_bind] at h
    obtain ⟨_, _, hevent', h⟩ := h
    obtain ⟨⟨events', rfl⟩, hcancelled⟩ := runs_appendEvent hevent'
    obtain ⟨rfl, rfl⟩ := runs_pure.mp h
    refine ⟨rfl, hstored.addEvents events', ?_⟩
    simpa [hq, BackgroundJobRecord.status_cancelled] using hlogged.trans hcancelled rfl rfl
  · next hq =>
    obtain ⟨rfl, rfl⟩ := runs_pure.mp h
    exact ⟨rfl, hstored, by simpa [hq] using hlogged⟩

/-- What `complete` logs. -/
def BackgroundJobRecord.completionEntry (record : BackgroundJobRecord)
    (target : BackgroundJobStatus) (now : Instant) (failureCode : Option String)
    (retryAt : Option Instant) : EventEntry :=
  ⟨BackgroundJobRepository.completionEvent target failureCode (isRetry target retryAt), now, {
    status := record.status
    attemptCount := some record.attemptCount
    failureCode := record.failureCode
    retryAt := record.retryAt }⟩

theorem runs_complete {jobId organizationId : UUID} {target : BackgroundJobStatus} {now : Instant}
    {code message : Option String} {retryAt : Option Instant} {record : BackgroundJobRecord}
    (h : Runs (BackgroundJobRepository.complete jobId target organizationId now code message retryAt)
      db record db') :
    ∃ job, db.jobs.find jobId = some job ∧ target ∈ job.status.allowed ∧
      (BackgroundJobRecord.isRetry target retryAt = true → job.attemptCount < job.maxAttempts) ∧
      record = job.completed target now code message retryAt ∧ JobStored db record db' ∧
      Logged db record [record.completionEntry target now code retryAt] db' := by
  simp only [BackgroundJobRepository.complete, runs_bind, runs_get_job, runs_require,
    runs_pure] at h
  obtain ⟨job, _, ⟨hjob, -, rfl⟩, _, _, ⟨htarget, rfl⟩, _, _, ⟨hretry, rfl⟩, _, _, hflush, _, _,
    hevent, rfl, rfl⟩ := h
  have hid : (job.completed target now code message retryAt).id = jobId :=
    BackgroundJobRecord.sameJob_completed.id.trans (Table.key_of_find hjob)
  exact ⟨job, hjob, htarget, hretry, rfl, runs_flush_append _ (hid ▸ hjob) hflush hevent⟩

/-- What `retry_failed` logs. -/
def BackgroundJobRecord.retryEntry (record : BackgroundJobRecord) (now : Instant) : EventEntry :=
  ⟨.jobManualRetryRequested, now, {
    status := record.status
    manualRetryCount := some record.manualRetryCount
    priority := some record.priority }⟩

theorem runs_retryFailed {jobId organizationId : UUID} {limit : Nat} {now : Instant}
    {record : BackgroundJobRecord}
    (h : Runs (BackgroundJobRepository.retryFailed jobId organizationId limit now) db record db') :
    ∃ job run mid, db.jobs.find jobId = some job ∧ job.status = .failed ∧
      job.manualRetryCount < limit ∧
      db.resultsOf job.runId = [] ∧ db.runs.find job.runId = some run ∧ run.status = .failed ∧
      record = job.retried now ∧ JobStored db record mid ∧ RunStored mid run.renewed db' ∧
      Logged db record [record.retryEntry now] db' := by
  simp only [BackgroundJobRepository.retryFailed, runs_bind, runs_get_job, runs_require, runs_get,
    runs_fromOption, Option.filter_eq_some_iff, Bool.and_eq_true, decide_eq_true_eq,
    runs_pure] at h
  obtain ⟨_, _, ⟨-, rfl⟩, job, _, ⟨hjob, -, rfl⟩, _, _, ⟨hfailed, rfl⟩, _, _, ⟨hlimit, rfl⟩, _, _,
    ⟨rfl, rfl⟩, _, _, ⟨hresults, rfl⟩, run, _, ⟨⟨hrun, -, hstatus⟩, rfl⟩, _, mid, hflush, _, _,
    hflushRun, _, _, hevent, rfl, rfl⟩ := h
  have hid : job.id = jobId := Table.key_of_find hjob
  have hrunId : run.id = job.runId := Table.key_of_find hrun
  obtain ⟨hstored, hkept⟩ := runs_flush (job.retried now) (hid ▸ hjob) hflush
  have hrun' : mid.runs.find run.renewed.id = some run := by
    rw [hstored.runs]
    exact hrunId ▸ hrun
  obtain ⟨hrenewed, hevents⟩ := runs_flushRun hrun' hflushRun
  have hkept' : Logged mid (job.retried now) [] _ := .nil hevents
  obtain ⟨⟨events, rfl⟩, hlogged⟩ := runs_appendEvent hevent
  exact ⟨job, run, mid, hjob, hfailed, hlimit, hresults, hrun, hstatus, rfl, hstored,
    hrenewed.addEvents events, (hkept.trans hkept' rfl rfl).trans hlogged rfl rfl⟩

theorem mem_nextJob {jobs : List BackgroundJobRecord} {now : Instant} {organizationId : Option UUID}
    {aging : Nat} {job : BackgroundJobRecord}
    (h : BackgroundJobRepository.nextJob jobs now organizationId aging = some job) :
    job ∈ jobs ∧ job.isEligible now organizationId = true := by
  have hm := List.mem_of_mem_head? (Option.mem_def.mpr h)
  rw [mem_sortOn] at hm
  exact List.mem_filter.mp hm

/-- What `claim_next` logs. -/
def BackgroundJobRecord.claimEntry (record : BackgroundJobRecord) (now : Instant) : EventEntry :=
  ⟨.jobClaimed, now, {
    status := record.status
    attemptCount := some record.attemptCount
    priority := some record.priority
    deadlineAt := record.deadlineAt }⟩

theorem runs_claimNext {workerId : String} {now : Instant} {organizationId : Option UUID}
    {aging : Nat} {claim : Option BackgroundJobRecord}
    (h : Runs (BackgroundJobRepository.claimNext workerId now organizationId aging) db claim db') :
    (claim = none ∧ db' = db) ∨
      ∃ job, BackgroundJobRepository.nextJob db.jobs.rows now organizationId aging = some job ∧
        db.jobs.find job.id = some job ∧ job.isEligible now organizationId = true ∧
        claim = some (job.claimed (strip workerId) now) ∧
        JobStored db (job.claimed (strip workerId) now) db' ∧
        Logged db (job.claimed (strip workerId) now)
          [(job.claimed (strip workerId) now).claimEntry now] db' := by
  simp only [BackgroundJobRepository.claimNext, runs_bind, runs_require, runs_get] at h
  obtain ⟨_, _, ⟨-, rfl⟩, _, _, ⟨-, rfl⟩, _, _, ⟨rfl, rfl⟩, h⟩ := h
  split at h
  · obtain ⟨rfl, rfl⟩ := runs_pure.mp h
    exact .inl ⟨rfl, rfl⟩
  · next job hnext =>
    simp only [runs_bind, runs_pure] at h
    obtain ⟨_, _, hflush, _, _, hevent, rfl, rfl⟩ := h
    obtain ⟨hm, heligible⟩ := mem_nextJob hnext
    have hjob : db.jobs.find job.id = some job := Table.find_of_mem hm
    exact .inr ⟨job, hnext, hjob, heligible, rfl, runs_flush_append _ hjob hflush hevent⟩

theorem exists_flush (job : BackgroundJobRecord) {old : BackgroundJobRecord}
    (hold : db.jobs.find job.id = some old) (hrun : job.runId = old.runId)
    (hcheck : jobSchema.check job = true) :
    ∃ db', Runs (BackgroundJobRepository.flush job) db () db' := by
  have hkey : old.id = job.id := Table.key_of_find hold
  obtain ⟨jobs, hjobs⟩ := Table.exists_update (S := jobSchema) (t := db.jobs) (r := job) hcheck
    fun other hm hne => by
      -- another job of the run would already clash with the old record
      by_contra hclash
      have hsame : jobSchema.clash old other = true := by
        simpa [jobSchema, hrun, eq_comm] using hclash
      exact hne (Table.eq_of_clash (Table.mem_of_find hold) hm hsame ▸ hkey)
  refine ⟨{ db with jobs := jobs }, ?_⟩
  simp only [BackgroundJobRepository.flush, runs_bind, runs_get, runs_fromOption, runs_set]
  exact ⟨_, _, ⟨rfl, rfl⟩, jobs, _, ⟨hjobs, rfl⟩, rfl⟩

/-- The next sequence number of a job is free. -/
theorem exists_appendEvent (db : Database) (job : BackgroundJobRecord)
    (eventType : BackgroundJobEventType) (now : Instant) (details : EventDetails) :
    ∃ db', Runs (BackgroundJobRepository.appendEvent job eventType now details) db () db' := by
  have hfree : ∀ event ∈ db.jobEvents.rows,
      jobEventSchema.key event ≠ (job.id, db.lastEvent job.id + 1) := by
    intro event hm hkey
    obtain ⟨hid, hsequence⟩ := Prod.mk.inj hkey
    have hle : event.sequenceNumber ≤ db.lastEvent job.id :=
      le_lastSequence (List.mem_map_of_mem (List.mem_filter.mpr ⟨hm, by simpa using hid⟩))
    omega
  obtain ⟨events, hevents⟩ := Table.exists_insert (S := jobEventSchema) (t := db.jobEvents)
    (r := ⟨job.organizationId, job.id, db.lastEvent job.id + 1, eventType, now, details⟩)
    (by simp [jobEventSchema]) hfree fun _ _ => rfl
  refine ⟨{ db with jobEvents := events }, ?_⟩
  simp only [BackgroundJobRepository.appendEvent, runs_bind, runs_get, runs_fromOption, runs_set]
  exact ⟨_, _, ⟨rfl, rfl⟩, events, _, ⟨hevents, rfl⟩, rfl⟩

/-- The selected job is claimed. -/
theorem exists_claimNext {workerId : String} {now : Instant} {organizationId : Option UUID}
    {aging : Nat} {job : BackgroundJobRecord}
    (hworker : strip workerId ≠ "" ∧ (strip workerId).length ≤ 200) (haging : 30 ≤ aging)
    (hnext : BackgroundJobRepository.nextJob db.jobs.rows now organizationId aging = some job) :
    ∃ db', Runs (BackgroundJobRepository.claimNext workerId now organizationId aging) db
      (some (job.claimed (strip workerId) now)) db' := by
  obtain ⟨hm, heligible⟩ := mem_nextJob hnext
  have hjob : db.jobs.find job.id = some job := Table.find_of_mem hm
  have hcheck : jobSchema.check (job.claimed (strip workerId) now) = true := by
    have hold := db.jobs.valid.2.2 job hm
    simp only [jobSchema, BackgroundJobRecord.claimed, BackgroundJobRecord.isEligible,
      Bool.and_eq_true, decide_eq_true_eq] at hold heligible ⊢
    exact ⟨⟨hold.1.1, heligible.1.2⟩, rfl⟩
  obtain ⟨mid, hflush⟩ := exists_flush (job.claimed (strip workerId) now) hjob rfl hcheck
  obtain ⟨db', hevent⟩ := exists_appendEvent mid (job.claimed (strip workerId) now) .jobClaimed now
    ((job.claimed (strip workerId) now).claimEntry now).details
  refine ⟨db', ?_⟩
  simp only [BackgroundJobRepository.claimNext, runs_bind, runs_require, runs_get]
  refine ⟨(), _, ⟨hworker, rfl⟩, (), _, ⟨haging, rfl⟩, _, _, ⟨rfl, rfl⟩, ?_⟩
  rw [hnext]
  exact runs_bind.mpr ⟨(), mid, hflush, runs_bind.mpr ⟨(), db', hevent, runs_pure.mpr ⟨rfl, rfl⟩⟩⟩

/-- The record that `create` stores. -/
def BackgroundJobRecord.created (jobId organizationId runId : UUID) (scheduledAt : Instant)
    (maxAttempts timeoutSeconds : Nat) (priority : BackgroundJobPriority) (now : Instant) :
    BackgroundJobRecord :=
  { id := jobId, organizationId, runId, scheduledAt, maxAttempts, timeoutSeconds, priority
    createdAt := now }

theorem runs_create {jobId organizationId runId : UUID} {scheduledAt : Instant}
    {maxAttempts timeoutSeconds : Nat} {priority : BackgroundJobPriority} {now : Instant}
    {job : BackgroundJobRecord}
    (h : Runs (BackgroundJobRepository.create jobId organizationId runId scheduledAt maxAttempts
      timeoutSeconds priority now) db job db') :
    job = .created jobId organizationId runId scheduledAt maxAttempts timeoutSeconds priority now ∧
      db.jobs.find jobId = none ∧ (∀ job ∈ db.jobs.rows, job.runId ≠ runId) ∧
      JobStored db job db' ∧
      Logged db job [⟨.jobQueued, now, { status := .queued, priority := some priority }⟩] db' := by
  simp only [BackgroundJobRepository.create, runs_bind, runs_require, runs_get, runs_fromOption,
    runs_set, runs_pure] at h
  obtain ⟨_, _, ⟨-, rfl⟩, _, _, ⟨-, rfl⟩, _, _, ⟨rfl, rfl⟩, _, _, ⟨-, rfl⟩, _, _, ⟨hnone, rfl⟩,
    jobs, _, ⟨hjobs, rfl⟩, _, _, rfl, _, _, hevent, rfl, rfl⟩ := h
  obtain ⟨⟨events, rfl⟩, hlogged⟩ := runs_appendEvent hevent
  refine ⟨rfl, Table.find_of_insert hjobs, ?_, ⟨Table.find_insert hjobs, rfl, rfl, rfl, rfl, rfl⟩,
    hlogged⟩
  simpa using hnone

/-! ### The recovery of stale leases -/

/-- What `recover_stale` logs of a job it recovers. -/
def BackgroundJobRecord.recoveryEntry (job : BackgroundJobRecord) (now : Instant) : EventEntry :=
  ⟨.jobRecovered, now, {
    status := (job.recovered now).status
    previousStatus := some job.status
    attemptCount := some (job.recovered now).attemptCount
    failureCode := (job.recovered now).failureCode }⟩

theorem runs_recover {job : BackgroundJobRecord} {now : Instant}
    (hjob : db.jobs.find job.id = some job)
    (h : Runs (BackgroundJobRepository.recover now job) db u db') :
    JobStored db (job.recovered now) db' ∧
      Logged db (job.recovered now) [job.recoveryEntry now] db' := by
  simp only [BackgroundJobRepository.recover, runs_bind] at h
  obtain ⟨_, _, hflush, hevent⟩ := h
  have hid : (job.recovered now).id = job.id := BackgroundJobRecord.sameJob_recovered.id
  exact runs_flush_append (job.recoveryEntry now) (hid ▸ hjob) hflush hevent

/-- What `recover_stale` logs of a job. -/
def BackgroundJobRecord.sweepEntries (job : BackgroundJobRecord) (cutoff now : Instant) :
    List EventEntry :=
  if job.isStale cutoff then [job.recoveryEntry now] else []

/-- The events of the job that is found, if there is one. -/
def Database.eventsAfter (db : Database) (k : UUID)
    (entries : BackgroundJobRecord → List EventEntry) : List BackgroundJobEventRecord :=
  db.eventsOf k ++
    ((db.jobs.find k).map fun job => job.eventRows (db.lastEvent k) (entries job)).getD []

/-- `db'` is `db` with every stale job recovered. -/
structure Swept (db : Database) (cutoff now : Instant) (db' : Database) : Prop where
  find : ∀ k, db'.jobs.find k = (db.jobs.find k).map fun job => job.swept cutoff now
  events : ∀ k, db'.eventsOf k = db.eventsAfter k (·.sweepEntries cutoff now)
  runs : db'.runs = db.runs
  sourceFiles : db'.sourceFiles = db.sourceFiles
  configurations : db'.configurations = db.configurations
  results : db'.results = db.results
  auditEvents : db'.auditEvents = db.auditEvents

/-- While the loop has still to recover `todo`: the other stale jobs are recovered. -/
structure Sweeping (db : Database) (cutoff now : Instant) (todo : List BackgroundJobRecord)
    (db' : Database) : Prop where
  stale : ∀ job ∈ todo, db.jobs.find job.id = some job ∧ job.isStale cutoff = true
  nodup : todo.Nodup
  find : ∀ k, db'.jobs.find k =
    (db.jobs.find k).map fun job => if job ∈ todo then job else job.swept cutoff now
  events : ∀ k, db'.eventsOf k =
    db.eventsAfter k fun job => if job ∈ todo then [] else job.sweepEntries cutoff now
  runs : db'.runs = db.runs
  sourceFiles : db'.sourceFiles = db.sourceFiles
  configurations : db'.configurations = db.configurations
  results : db'.results = db.results
  auditEvents : db'.auditEvents = db.auditEvents

theorem Sweeping.recover {db'' : Database} {cutoff now : Instant} {job : BackgroundJobRecord}
    {todo : List BackgroundJobRecord} (h : Sweeping db cutoff now (job :: todo) db')
    (hr : Runs (BackgroundJobRepository.recover now job) db' u db'') :
    Sweeping db cutoff now todo db'' := by
  obtain ⟨hjob, hstale⟩ := h.stale job List.mem_cons_self
  obtain ⟨hnew, hnodup⟩ := List.nodup_cons.mp h.nodup
  obtain ⟨hstored, hlogged⟩ := runs_recover (by simp [h.find, hjob]) hr
  have hsame : job.SameJob (job.recovered now) := BackgroundJobRecord.sameJob_recovered
  have hother : ∀ {k j}, k ≠ job.id → db.jobs.find k = some j → j ≠ job := by
    rintro k j hk hj rfl
    exact hk (Table.key_of_find hj).symm
  refine ⟨fun j hj => h.stale j (List.mem_cons_of_mem _ hj), hnodup, fun k => ?_, fun k => ?_,
    hstored.runs.trans h.runs, hstored.sourceFiles.trans h.sourceFiles,
    hstored.configurations.trans h.configurations, hstored.results.trans h.results,
    hstored.auditEvents.trans h.auditEvents⟩
  · rw [hstored.find, h.find, hsame.id]
    by_cases hk : k = job.id
    · simp [hk, hjob, hnew, BackgroundJobRecord.swept, hstale]
    · rw [if_neg hk]
      refine Option.map_congr fun j hj => ?_
      simp [hother hk hj]
  · rw [hlogged k, hsame.id]
    by_cases hk : k = job.id
    · have hbefore : db'.eventsOf k = db.eventsOf k := by
        rw [h.events]
        simp [Database.eventsAfter, hk, hjob, BackgroundJobRecord.eventRows]
      simp [hk, hk ▸ hbefore, Database.eventsAfter, Database.lastEvent, hjob, hnew,
        BackgroundJobRecord.sweepEntries, hstale,
        BackgroundJobRecord.eventRows_congr hsame.id hsame.organizationId]
    · rw [if_neg hk, h.events]
      unfold Database.eventsAfter
      rw [Option.map_congr fun j hj => ?_]
      simp [hother hk hj]

theorem runs_recoverStale {cutoff now : Instant} {n : Nat}
    (h : Runs (BackgroundJobRepository.recoverStale cutoff now) db n db') :
    Swept db cutoff now db' := by
  simp only [BackgroundJobRepository.recoverStale, runs_bind, runs_get, runs_pure] at h
  obtain ⟨_, _, ⟨rfl, rfl⟩, _, _, hloop, -, rfl⟩ := h
  have hstart : Sweeping db cutoff now (db.jobs.rows.filter (·.isStale cutoff)) db := by
    refine ⟨fun job hj => ?_, (List.Nodup.of_map _ db.jobs.valid.1).filter _, fun k => ?_,
      fun k => ?_, rfl, rfl, rfl, rfl, rfl⟩
    · obtain ⟨hm, hstale⟩ := List.mem_filter.mp hj
      exact ⟨Table.find_of_mem hm, hstale⟩
    · cases hf : db.jobs.find k with
      | none => rfl
      | some job =>
        have hm := Table.mem_of_find hf
        by_cases hstale : job.isStale cutoff = true <;>
          simp [hm, hstale, BackgroundJobRecord.swept]
    · unfold Database.eventsAfter
      cases hf : db.jobs.find k with
      | none => simp
      | some job =>
        have hm := Table.mem_of_find hf
        by_cases hstale : job.isStale cutoff = true <;>
          simp [hm, hstale, BackgroundJobRecord.sweepEntries, BackgroundJobRecord.eventRows]
  have hend := Runs.forM (P := Sweeping db cutoff now) (fun _ _ _ _ hP hr => hP.recover hr) hstart
    hloop
  exact ⟨fun k => by simpa using hend.find k, fun k => by simpa using hend.events k, hend.runs,
    hend.sourceFiles, hend.configurations, hend.results, hend.auditEvents⟩

/-! ### Retention -/

/-- Retention leaves the tables of the runs alone. -/
theorem keeps_deleteExpiredTerminal {cutoffs : List (BackgroundJobStatus × Instant)}
    {limit n : Nat}
    (h : Runs (BackgroundJobRepository.deleteExpiredTerminal cutoffs limit) db n db') :
    db'.runs = db.runs ∧ db'.sourceFiles = db.sourceFiles ∧
      db'.configurations = db.configurations := by
  simp only [BackgroundJobRepository.deleteExpiredTerminal, BackgroundJobRepository.checkCutoffs,
    runs_bind, runs_require, runs_get, runs_set, runs_pure] at h
  obtain ⟨_, _, ⟨-, rfl⟩, _, _, ⟨-, rfl⟩, _, _, ⟨rfl, rfl⟩, _, _, rfl, -, rfl⟩ := h
  exact ⟨rfl, rfl, rfl⟩

theorem runs_deleteExpiredTerminal {cutoffs : List (BackgroundJobStatus × Instant)}
    {limit n : Nat}
    (h : Runs (BackgroundJobRepository.deleteExpiredTerminal cutoffs limit) db n db') :
    ∃ ids : List UUID,
      (∀ k ∈ ids, ∃ job, db.jobs.find k = some job ∧ job.status.isTerminal = true) ∧
      (∀ k, db'.jobs.find k = if k ∈ ids then none else db.jobs.find k) ∧
      ∀ k, db'.eventsOf k = if k ∈ ids then [] else db.eventsOf k := by
  simp only [BackgroundJobRepository.deleteExpiredTerminal, BackgroundJobRepository.checkCutoffs,
    runs_bind, runs_require, runs_get, runs_set, runs_pure] at h
  obtain ⟨_, _, ⟨-, rfl⟩, _, _, ⟨hterminal, rfl⟩, _, _, ⟨rfl, rfl⟩, _, _, rfl, -, rfl⟩ := h
  have hids : ∀ k ∈ BackgroundJobRepository.expiredJobs db.jobs.rows cutoffs limit,
      ∃ job, db.jobs.find k = some job ∧ job.isExpired cutoffs = true := by
    intro k hk
    obtain ⟨job, hjob, rfl⟩ := List.mem_map.mp hk
    have hm := List.mem_of_mem_take hjob
    rw [mem_sortOn] at hm
    obtain ⟨hm, hexpired⟩ := List.mem_filter.mp hm
    exact ⟨job, Table.find_of_mem hm, hexpired⟩
  refine ⟨BackgroundJobRepository.expiredJobs db.jobs.rows cutoffs limit, fun k hk => ?_,
    fun k => ?_, fun k => ?_⟩
  · obtain ⟨job, hjob, hexpired⟩ := hids k hk
    refine ⟨job, hjob, ?_⟩
    obtain ⟨⟨status, cutoff⟩, hm, hstatus⟩ := List.any_eq_true.mp hexpired
    simp only [Bool.and_eq_true, decide_eq_true_eq] at hstatus
    rw [hstatus.1]
    exact hterminal _ hm
  · rw [Table.find_filter]
    split
    · next hk =>
      obtain ⟨job, hjob, hexpired⟩ := hids k hk
      have hid : job.id = k := Table.key_of_find hjob
      simp [hjob, hid, hk, hexpired]
    · next hk =>
      cases hf : db.jobs.find k with
      | none => rfl
      | some job =>
        have hid : job.id = k := Table.key_of_find hf
        simp [hid, hk]
  · simp only [Database.eventsOf, Table.filter, List.filter_filter]
    split
    · next hk =>
      refine List.filter_eq_nil_iff.mpr fun event _ he => ?_
      simp only [Bool.and_eq_true, decide_eq_true_eq] at he
      exact he.2 (he.1 ▸ hk)
    · next hk =>
      refine List.filter_congr fun event _ => ?_
      by_cases he : event.jobId = k <;> simp [he, hk]

end

end ReconcileFlow.Persistence
