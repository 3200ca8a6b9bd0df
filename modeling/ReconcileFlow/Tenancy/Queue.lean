import ReconcileFlow.Persistence.Effects
import ReconcileFlow.Tenancy.Views

/-!
# Tenancy — Queue

The operations on runs, jobs and job events isolate the organization that they are called with.
-/

namespace ReconcileFlow.Tenancy

open Support Support.Transaction
open Persistence hiding SourceFileRecord sourceFileSchema

def runPart : Part Database runSchema where
  table := (·.runs)
  put rows db := { db with runs := rows }

def jobPart : Part Database jobSchema where
  table := (·.jobs)
  put rows db := { db with jobs := rows }

def jobEventPart : Part Database jobEventSchema where
  table := (·.jobEvents)
  put rows db := { db with jobEvents := rows }

section

variable {A : UUID} {s t : Database} {job record : BackgroundJobRecord}

theorem shared_jobs : jobPart.Shared (queueTenancy A) fun job => decide (job.organizationId = A) where
  same h := h.jobs
  agree h huv := ⟨h.runs, huv, h.jobEvents, h.results⟩
  confined hu := ⟨.refl, fun howner => howner, hu, .refl, rfl, rfl, rfl, rfl⟩

theorem shared_jobEvents :
    jobEventPart.Shared (queueTenancy A) fun event => decide (event.organizationId = A) where
  same h := h.jobEvents
  agree h huv := ⟨h.runs, h.jobs, huv, h.results⟩
  confined hu := ⟨.refl, fun howner => howner, .refl, hu, rfl, rfl, rfl, rfl⟩

/-! ### Single rows -/

/-- The job of the organization is stored so. -/
def StoredJob (A : UUID) (job : BackgroundJobRecord) (db : Database) : Prop :=
  job.organizationId = A ∧ db.jobs.find job.id = some job

theorem isolates_getJob {jobId : UUID} : Isolates (queueTenancy A) (fun _ => True)
    (BackgroundJobRepository.get jobId A) (StoredJob A) := by
  refine isolates_get_bind fun s t hl _ _ => ?_
  refine couples_fromOption_eq (hl.agree.jobs.find jobId) fun job hjob => ?_
  have hstored {db : Database} (hfound : (db.jobs.find jobId).filter (fun job =>
      decide (job.organizationId = A)) = some job) : StoredJob A job db := by
    obtain ⟨hfind, horg⟩ := Option.filter_eq_some_iff.mp hfound
    have hid : job.id = jobId := Table.key_of_find hfind
    exact ⟨of_decide_eq_true horg, hid ▸ hfind⟩
  exact ⟨rfl, .refl hl, hstored hjob, hstored ((hl.agree.jobs.find jobId).symm.trans hjob)⟩

theorem isolates_getRun {runId : UUID} : Isolates (queueTenancy A) (fun _ => True)
    (ReconciliationRunRepository.get runId A)
    fun run db => run.organizationId = A ∧ db.runs.find run.id = some run := by
  refine isolates_get_bind fun s t hl _ _ => ?_
  refine couples_fromOption_eq (hl.agree.findRun runId) fun run hrun => ?_
  have hstored {db : Database} (hfound : (db.runs.find runId).filter (fun run =>
      decide (run.organizationId = A)) = some run) :
      run.organizationId = A ∧ db.runs.find run.id = some run := by
    obtain ⟨hfind, horg⟩ := Option.filter_eq_some_iff.mp hfound
    have hid : run.id = runId := Table.key_of_find hfind
    exact ⟨of_decide_eq_true horg, hid ▸ hfind⟩
  exact ⟨rfl, .refl hl, hstored hrun, hstored ((hl.agree.findRun runId).symm.trans hrun)⟩

/-- Another row of the same job is stored in its place. -/
theorem OwnedQueue.updateJob {jobs : Table jobSchema} (h : OwnedQueue s)
    (hjob : s.jobs.find job.id = some job) (hsame : job.SameJob record)
    (hu : s.jobs.update? record = some jobs) : OwnedQueue { s with jobs := jobs } where
  jobs other hm := by
    rw [Table.rows_update hu] at hm
    obtain ⟨old, hold, rfl⟩ := List.mem_map.mp hm
    show organizationOf s _ = _
    split
    · rw [hsame.runId, hsame.organizationId]
      exact h.jobs job (Table.mem_of_find hjob)
    · exact h.jobs old hold
  events event hm := by
    obtain ⟨old, hold, horg, howner⟩ := h.events event hm
    have hfind := Table.find_update hu event.jobId
    by_cases hid : event.jobId = jobSchema.key record
    · have hjobId : event.jobId = job.id := hid.trans hsame.id
      obtain rfl : job = old := Option.some.inj (hjob.symm.trans (hjobId ▸ hold))
      rw [if_pos hid, hold, Option.map_some] at hfind
      exact ⟨record, hfind, hsame.organizationId.trans horg, by rw [hsame.runId]; exact howner⟩
    · rw [if_neg hid, hold] at hfind
      exact ⟨old, hfind, horg, howner⟩
  results := h.results

theorem isolates_flush (hsame : job.SameJob record) : Isolates (queueTenancy A) (StoredJob A job)
    (BackgroundJobRepository.flush record) fun _ => StoredJob A record := by
  refine isolates_of_and fun horg => ?_
  have horg' : record.organizationId = A := hsame.organizationId.trans horg
  have hclash (u : BackgroundJobRecord) : jobSchema.clash record u = jobSchema.clash job u ∧
      jobSchema.clash u record = jobSchema.clash u job := by
    simp [jobSchema, hsame.runId]
  have hpart : Isolates (queueTenancy A) (fun db => db.jobs.find job.id = some job)
      (jobPart.update integrityError record) fun _ => StoredJob A record := by
    refine Part.isolates_update shared_jobs (decide_eq_true horg') (fun s _ hjob => ?_)
      fun s u hinv hjob hu => ⟨OwnedQueue.updateJob hinv hjob hsame hu, horg', ?_⟩
    · refine ⟨job, ⟨?_, hclash⟩, decide_eq_true horg⟩
      have hid : jobSchema.key record = job.id := hsame.id
      rw [hid]
      exact hjob
    · have hfind : s.jobs.find record.id = some job := hsame.id ▸ hjob
      exact Table.find_update_self hu rfl hfind
  exact hpart

/-- The events of a job of the organization are the organization's. -/
theorem organizationId_of_event (h : OwnedQueue s) (hjob : StoredJob A job s)
    {event : BackgroundJobEventRecord} (hm : event ∈ s.jobEvents.rows)
    (hid : event.jobId = job.id) : event.organizationId = A := by
  obtain ⟨found, hfound, horg, -⟩ := h.events event hm
  obtain rfl : job = found := Option.some.inj (hjob.2.symm.trans (hid ▸ hfound))
  exact horg.symm.trans hjob.1

/-- The event that `_append_event` stores. -/
def nextEvent (job : BackgroundJobRecord) (eventType : BackgroundJobEventType) (now : Instant)
    (details : EventDetails) (db : Database) : BackgroundJobEventRecord :=
  ⟨job.organizationId, job.id, db.lastEvent job.id + 1, eventType, now, details⟩

variable {eventType : BackgroundJobEventType} {now : Instant} {details : EventDetails}

theorem free_nextEvent (db : Database) :
    db.jobEvents.Free (nextEvent job eventType now details db) := by
  refine ⟨fun other hm hkey => ?_, fun _ _ => rfl⟩
  obtain ⟨hid, hsequence⟩ := Prod.mk.inj hkey
  have hle : other.sequenceNumber ≤ db.lastEvent job.id :=
    le_lastSequence (List.mem_map_of_mem (List.mem_filter.mpr ⟨hm, decide_eq_true hid⟩))
  have hnext : other.sequenceNumber = db.lastEvent job.id + 1 := hsequence
  omega

theorem OwnedQueue.addEvent {events : Table jobEventSchema} (h : OwnedQueue s)
    (hjob : s.jobs.find job.id = some job)
    (hu : s.jobEvents.insert? (nextEvent job eventType now details s) = some events) :
    OwnedQueue { s with jobEvents := events } where
  jobs := h.jobs
  events other hm := by
    rw [Table.rows_insert hu] at hm
    rcases List.mem_append.mp hm with hm | hm
    · exact h.events other hm
    · obtain rfl := List.mem_singleton.mp hm
      exact ⟨job, hjob, rfl, h.jobs job (Table.mem_of_find hjob)⟩
  results := h.results

theorem isolates_appendEvent : Isolates (queueTenancy A) (StoredJob A job)
    (BackgroundJobRepository.appendEvent job eventType now details) fun _ => StoredJob A job := by
  refine isolates_get_bind fun s t hl hs ht => ?_
  have hevents : s.eventsOf job.id = t.eventsOf job.id := by
    refine hl.agree.jobEvents.filter (fun event hm hid => ?_) fun event hm hid => ?_
    · exact decide_eq_true (organizationId_of_event hl.left hs hm (of_decide_eq_true hid))
    · exact decide_eq_true (organizationId_of_event hl.right ht hm (of_decide_eq_true hid))
  have hnext : nextEvent job eventType now details s = nextEvent job eventType now details t := by
    unfold nextEvent Database.lastEvent
    rw [hevents]
  have hinsert : Couples (jobEventPart.insert integrityError (nextEvent job eventType now details s))
      (jobEventPart.insert integrityError (nextEvent job eventType now details s))
      (fun a s' b t' => a = b ∧ (queueTenancy A).Moves s t s' t' ∧ StoredJob A job s' ∧
        StoredJob A job t') s t := by
    refine Part.couples_insert shared_jobEvents (.refl hl) (decide_eq_true hs.1)
      ⟨fun _ => hnext ▸ free_nextEvent t, fun _ => free_nextEvent s⟩ (fun u hu => ?_) fun u hu => ?_
    · exact ⟨OwnedQueue.addEvent hl.left hs.2 hu, hs⟩
    · exact ⟨OwnedQueue.addEvent hl.right ht.2 (hnext ▸ hu), ht⟩
  -- both append the same event
  have hboth : Couples (jobEventPart.insert integrityError (nextEvent job eventType now details s))
      (jobEventPart.insert integrityError (nextEvent job eventType now details t))
      (fun a s' b t' => a = b ∧ (queueTenancy A).Moves s t s' t' ∧ StoredJob A job s' ∧
        StoredJob A job t') s t := by
    rw [← hnext]
    exact hinsert
  exact hboth

/-- Storing a run of the same organization changes no owner. -/
theorem organizationOf_updateRun {run run' : ReconciliationRunRecord} {runs : Table runSchema}
    (hrun : s.runs.find run.id = some run) (hid : run'.id = run.id)
    (horg : run'.organizationId = run.organizationId) (hu : s.runs.update? run' = some runs)
    (runId : UUID) : organizationOf { s with runs := runs } runId = organizationOf s runId := by
  have hfind := Table.find_update hu runId
  unfold organizationOf
  dsimp only
  by_cases hkey : runId = runSchema.key run'
  · have hrunId : runId = run.id := hkey.trans hid
    rw [hfind, if_pos hkey, hrunId, hrun]
    exact congrArg some horg
  · rw [hfind, if_neg hkey]

theorem isolates_flushRun {run run' : ReconciliationRunRecord} (hid : run'.id = run.id)
    (horg : run'.organizationId = run.organizationId) (hrunA : run.organizationId = A) :
    Isolates (queueTenancy A) (fun db => db.runs.find run.id = some run) (flushRun run')
      fun _ _ => True := by
  have howners {db : Database} {runs : Table runSchema} (hrun : db.runs.find run.id = some run)
      (hu : db.runs.update? run' = some runs) := organizationOf_updateRun hrun hid horg hu
  have hpart : Isolates (queueTenancy A) (fun db => db.runs.find run.id = some run)
      (runPart.update integrityError run') fun _ _ => True := by
    refine Part.isolates_update_of (p := fun run => decide (run.organizationId = A))
      (fun _ _ h => h.runs) (decide_eq_true (horg.trans hrunA)) (fun db _ hrun => ?_)
      (fun db runs hinv hrun hu hothers => ?_) fun s t u v hagree hs ht hu hv huv => ?_
    · refine ⟨run, ⟨?_, fun _ => ⟨rfl, rfl⟩⟩, decide_eq_true hrunA⟩
      have hkey : runSchema.key run' = run.id := hid
      rw [hkey]
      exact hrun
    · refine ⟨⟨fun job hm => ?_, fun event hm => ?_, fun record hm => ?_⟩, ?_, trivial⟩
      · exact (howners hrun hu job.runId).trans (hinv.jobs job hm)
      · obtain ⟨job, hjob, hjobOrg, howner⟩ := hinv.events event hm
        exact ⟨job, hjob, hjobOrg, (howners hrun hu job.runId).trans howner⟩
      · obtain ⟨owner, howner⟩ := hinv.results record hm
        exact ⟨owner, (howners hrun hu record.runId).trans howner⟩
      · exact ⟨hothers, fun howner => (howners hrun hu _).trans howner, .refl, .refl, rfl, rfl, rfl,
          rfl⟩
    · refine ⟨huv, hagree.jobs, hagree.jobEvents, ?_⟩
      have hrunOf {db : Database} {runs : Table runSchema}
          (hrun : db.runs.find run.id = some run) (hu : db.runs.update? run' = some runs) :
          isRunOf A { db with runs := runs } = isRunOf A db := by
        funext runId
        unfold isRunOf
        rw [howners hrun hu]
      show s.results.rows.filter (fun record => isRunOf A { s with runs := u } record.runId) =
        t.results.rows.filter fun record => isRunOf A { t with runs := v } record.runId
      rw [hrunOf hs hu, hrunOf ht hv]
      exact hagree.results
  exact hpart

/-! ### Reading -/

variable {page : Page}

/-- What is listed of an organization is its own. -/
theorem SameQueue.listedRuns (h : SameQueue A s t) (status : Option RunStatus) :
    s.runs.rows.filter (·.isListed A status) = t.runs.rows.filter (·.isListed A status) :=
  h.runs.filter (fun _ _ hlisted => (Bool.and_eq_true_iff.mp hlisted).1)
    fun _ _ hlisted => (Bool.and_eq_true_iff.mp hlisted).1

theorem SameQueue.listedJobs (h : SameQueue A s t) (status : Option BackgroundJobStatus) :
    s.jobs.rows.filter (·.isListed A status) = t.jobs.rows.filter (·.isListed A status) :=
  h.jobs.filter (fun _ _ hlisted => (Bool.and_eq_true_iff.mp hlisted).1)
    fun _ _ hlisted => (Bool.and_eq_true_iff.mp hlisted).1

theorem SameQueue.listedEvents (h : SameQueue A s t) (jobId : UUID)
    (eventType : Option BackgroundJobEventType) :
    s.jobEvents.rows.filter (·.isListed jobId A eventType) =
      t.jobEvents.rows.filter (·.isListed jobId A eventType) := by
  have howned (event : BackgroundJobEventRecord) (hlisted : event.isListed jobId A eventType = true) :
      decide (event.organizationId = A) = true :=
    (Bool.and_eq_true_iff.mp (Bool.and_eq_true_iff.mp hlisted).1).2
  exact h.jobEvents.filter (fun event _ => howned event) fun event _ => howned event

theorem isolating_listRuns {status : Option RunStatus} :
    Isolating (queueTenancy A) (ReconciliationRunRepository.list A page status) :=
  isolating_reads fun s t hl => by rw [hl.agree.listedRuns]

theorem isolating_countRuns {status : Option RunStatus} :
    Isolating (queueTenancy A) (ReconciliationRunRepository.count A status) :=
  isolating_reads fun s t hl => by rw [hl.agree.listedRuns]

theorem isolating_listJobs {status : Option BackgroundJobStatus} :
    Isolating (queueTenancy A) (BackgroundJobRepository.list A status page) :=
  isolating_reads fun s t hl => by rw [hl.agree.listedJobs]

theorem isolating_countJobs {status : Option BackgroundJobStatus} :
    Isolating (queueTenancy A) (BackgroundJobRepository.count A status) :=
  isolating_reads fun s t hl => by rw [hl.agree.listedJobs]

theorem isolating_summarizeJobs : Isolating (queueTenancy A)
    (BackgroundJobRepository.summarize A now) :=
  isolating_reads fun s t hl => by rw [hl.agree.listedJobs]

theorem isolating_getForRun {runId : UUID} :
    Isolating (queueTenancy A) (BackgroundJobRepository.getForRun runId A) := by
  refine isolates_get_bind fun s t hl _ _ => ?_
  refine couples_pure.mpr ⟨?_, .refl hl, trivial, trivial⟩
  exact hl.agree.jobs.find? (fun _ _ hjob => (Bool.and_eq_true_iff.mp hjob).2)
    fun _ _ hjob => (Bool.and_eq_true_iff.mp hjob).2

theorem isolating_ensureJob {jobId : UUID} :
    Isolating (queueTenancy A) (BackgroundJobEventRepository.ensureJob jobId A) := by
  refine isolates_bind (isolating_reads fun s t hl => ?_)
    fun found => isolates_require fun _ _ _ => trivial
  rw [hl.agree.jobs.find]

theorem isolating_listEvents {jobId : UUID} {filter : Option BackgroundJobEventType} :
    Isolating (queueTenancy A) (BackgroundJobEventRepository.list jobId A filter page) :=
  isolates_bind isolating_ensureJob fun _ => isolating_reads fun s t hl => by
    rw [hl.agree.listedEvents]

theorem isolating_countEvents {jobId : UUID} {filter : Option BackgroundJobEventType} :
    Isolating (queueTenancy A) (BackgroundJobEventRepository.count jobId A filter) :=
  isolates_bind isolating_ensureJob fun _ => isolating_reads fun s t hl => by
    rw [hl.agree.listedEvents]

/-! ### Operations on one run or job -/

theorem isolating_transition {runId : UUID} {status : RunStatus} {code message : Option String} :
    Isolating (queueTenancy A)
      (ReconciliationRunRepository.transition runId status now code message A) := by
  refine isolates_bind isolates_getRun fun run => isolates_of_and fun horg => ?_
  refine isolates_require_bind fun _ => ?_
  have hid : (run.moved status now code message).id = run.id := by
    unfold ReconciliationRunRecord.moved
    split <;> rfl
  have horg' : (run.moved status now code message).organizationId = run.organizationId := by
    unfold ReconciliationRunRecord.moved
    split <;> rfl
  exact isolates_bind (isolates_flushRun hid horg' horg) fun _ => isolates_pure fun _ _ => trivial

theorem isolating_heartbeat {jobId : UUID} {workerId : String} :
    Isolating (queueTenancy A) (BackgroundJobRepository.heartbeat jobId A workerId now) := by
  refine isolates_bind isolates_getJob fun job => ?_
  refine isolates_require_bind fun _ => ?_
  exact isolates_bind (isolates_flush BackgroundJobRecord.sameJob_beaten) fun _ =>
    isolates_pure fun _ _ => trivial

/-- A job is stored and its event appended. -/
theorem isolating_flush_append (hsame : job.SameJob record) : Isolates (queueTenancy A)
    (StoredJob A job) (do
      BackgroundJobRepository.flush record
      BackgroundJobRepository.appendEvent record eventType now details
      return record) fun _ _ => True :=
  isolates_bind (isolates_flush hsame) fun _ => isolates_bind isolates_appendEvent fun _ =>
    isolates_pure fun _ _ => trivial

theorem isolating_updateProgress {jobId : UUID} {percentage : Int} {message : Option String} :
    Isolating (queueTenancy A)
      (BackgroundJobRepository.updateProgress jobId A percentage message now) := by
  refine isolates_require_bind fun _ => ?_
  refine isolates_bind isolates_getJob fun job => ?_
  refine isolates_require_bind fun _ => ?_
  exact isolating_flush_append BackgroundJobRecord.sameJob_progressed

theorem isolating_complete {jobId : UUID} {target : BackgroundJobStatus}
    {code message : Option String} {retryAt : Option Instant} : Isolating (queueTenancy A)
      (BackgroundJobRepository.complete jobId target A now code message retryAt) := by
  refine isolates_bind isolates_getJob fun job => ?_
  refine isolates_require_bind fun _ => ?_
  refine isolates_require_bind fun _ => ?_
  exact isolating_flush_append BackgroundJobRecord.sameJob_completed

theorem isolating_requestCancellation {jobId : UUID} :
    Isolating (queueTenancy A) (BackgroundJobRepository.requestCancellation jobId A now) := by
  refine isolates_bind isolates_getJob fun job => ?_
  refine isolates_require_bind fun _ => ?_
  refine isolates_bind isolates_appendEvent fun _ => ?_
  refine isolates_bind (isolates_flush BackgroundJobRecord.sameJob_cancelled) fun _ => ?_
  show Isolates _ _ (if _ then _ else _) _
  split
  · exact isolates_bind isolates_appendEvent fun _ => isolates_pure fun _ _ => trivial
  · exact isolates_pure fun _ _ => trivial

/-- Whether a run of the organization has results. -/
theorem SameQueue.resultsOf (h : SameQueue A s t) {runId : UUID}
    (hrun : organizationOf s runId = some A) : s.resultsOf runId = t.resultsOf runId := by
  have hown (record : ReconciliationResultRecord) (hid : decide (record.runId = runId) = true) :
      isRunOf A s record.runId = true := by
    rw [of_decide_eq_true hid]
    exact decide_eq_true hrun
  exact h.sameResults.filter (fun record _ => hown record) fun record _ => hown record

/-- Only the failed runs of the organization are looked for. -/
theorem SameQueue.findFailedRun (h : SameQueue A s t) (runId : UUID) :
    ((s.runs.find runId).filter fun run =>
        decide (run.organizationId = A) && decide (run.status = .failed)) =
      (t.runs.find runId).filter fun run =>
        decide (run.organizationId = A) && decide (run.status = .failed) := by
  have hfound := congrArg (Option.filter fun run => decide (run.status = .failed)) (h.findRun runId)
  rwa [Option.filter_filter, Option.filter_filter] at hfound

theorem isolating_retryFailed {jobId : UUID} {limit : Nat} :
    Isolating (queueTenancy A) (BackgroundJobRepository.retryFailed jobId A limit now) := by
  refine isolates_require_bind fun _ => isolates_bind isolates_getJob fun job => ?_
  refine isolates_require_bind fun _ => isolates_require_bind fun _ => ?_
  refine isolates_get_bind fun s t hl hs ht => ?_
  have howner : organizationOf s job.runId = some A :=
    (hl.left.jobs job (Table.mem_of_find hs.2)).trans (congrArg some hs.1)
  refine couples_bind (couples_require (by rw [hl.agree.resultsOf howner]) fun _ _ => ?_)
  refine couples_bind (couples_fromOption_eq (hl.agree.findFailedRun job.runId) fun run hrun => ?_)
  have hrunA : run.organizationId = A := by
    simpa using (Bool.and_eq_true_iff.mp (Option.filter_eq_some_iff.mp hrun).2).1
  have hstored (db : Database) (hrun : (db.runs.find job.runId).filter (fun run =>
      decide (run.organizationId = A) && decide (run.status = .failed)) = some run) :
      db.runs.find run.id = some run := by
    have hfind := (Option.filter_eq_some_iff.mp hrun).1
    have hid : run.id = job.runId := Table.key_of_find hfind
    rw [hid, hfind]
  have hflush : Isolates (queueTenancy A)
      (fun db => StoredJob A job db ∧ db.runs.find run.id = some run)
      (BackgroundJobRepository.flush (job.retried now))
      fun _ db => StoredJob A (job.retried now) db ∧ db.runs.find run.id = some run := by
    refine (isolates_flush BackgroundJobRecord.sameJob_retried).frame fun db _ db' hruns hrun => ?_
    simp only [BackgroundJobRepository.flush, runs_bind, runs_get, runs_fromOption,
      runs_set] at hruns
    obtain ⟨_, _, ⟨rfl, rfl⟩, jobs, _, ⟨-, rfl⟩, rfl⟩ := hruns
    exact hrun
  have hflushRun : Isolates (queueTenancy A)
      (fun db => StoredJob A (job.retried now) db ∧ db.runs.find run.id = some run)
      (flushRun run.renewed) fun _ => StoredJob A (job.retried now) := by
    have hrenewed : Isolates (queueTenancy A) (fun db => db.runs.find run.id = some run)
        (flushRun run.renewed) fun _ _ => True := isolates_flushRun rfl rfl hrunA
    refine (hrenewed.frame (P := StoredJob A (job.retried now)) fun db _ db' hruns hjob => ?_).mono
      (fun _ h => ⟨h.2, h.1⟩) fun _ _ h => h.2
    simp only [flushRun, runs_bind, runs_get, runs_fromOption, runs_set] at hruns
    obtain ⟨_, _, ⟨rfl, rfl⟩, runs, _, ⟨-, rfl⟩, rfl⟩ := hruns
    exact hjob
  exact (isolates_bind hflush fun _ => isolates_bind hflushRun fun _ =>
    isolates_bind isolates_appendEvent fun _ => isolates_pure fun _ _ => trivial).couples
    (.refl hl) ⟨hs, hstored s hrun⟩ ⟨ht, hstored t ((hl.agree.findFailedRun job.runId).symm.trans hrun)⟩

/-! ### New runs -/

def createdRun (organizationId runId : UUID) (now : Instant) : ReconciliationRunRecord where
  id := runId
  organizationId
  createdAt := now

/-- A new run takes no run from its organization. -/
theorem organizationOf_insertRun {run : ReconciliationRunRecord} {runs : Table runSchema}
    (hu : s.runs.insert? run = some runs) {runId owner : UUID}
    (howner : organizationOf s runId = some owner) :
    organizationOf { s with runs := runs } runId = some owner := by
  obtain ⟨found, hfound, rfl⟩ := organizationOf_eq_some.mp howner
  have hne : runId ≠ runSchema.key run := by
    rintro rfl
    cases hfound.symm.trans (Table.find_of_insert hu)
  exact organizationOf_eq_some.mpr
    ⟨found, (Table.find_insert hu runId).trans ((if_neg hne).trans hfound), rfl⟩

theorem OwnedQueue.addRun {run : ReconciliationRunRecord} {runs : Table runSchema}
    (h : OwnedQueue s) (hu : s.runs.insert? run = some runs) :
    OwnedQueue { s with runs := runs } where
  jobs job hm := organizationOf_insertRun hu (h.jobs job hm)
  events event hm := by
    obtain ⟨job, hjob, horg, howner⟩ := h.events event hm
    exact ⟨job, hjob, horg, organizationOf_insertRun hu howner⟩
  results record hm := by
    obtain ⟨owner, howner⟩ := h.results record hm
    exact ⟨owner, organizationOf_insertRun hu howner⟩

theorem isolates_createRun {runId : UUID} :
    Isolates (queueTenancy A) (fun db => db.runs.find runId = none)
      (ReconciliationRunRepository.create A runId now) fun _ _ => True := by
  refine isolates_get_bind fun s t hl hs ht => ?_
  have hfree {db : Database} (hnone : db.runs.find runId = none) :
      db.runs.Free (createdRun A runId now) := ⟨Table.find_eq_none.mp hnone, fun _ _ => rfl⟩
  refine couples_bind (couples_fromOption ?_ fun u v hu hv => ?_)
  · rw [Bool.eq_iff_iff, Table.insert_isSome, Table.insert_isSome]
    exact and_congr_left' (iff_of_true (hfree hs) (hfree ht))
  have honly {db : Database} {runs : Table runSchema}
      (hu : db.runs.insert? (createdRun A runId now) = some runs) :
      OnlyQueueOf A db { db with runs := runs } := by
    refine ⟨?_, organizationOf_insertRun hu, .refl, .refl, rfl, rfl, rfl, rfl⟩
    show db.runs.rows.filter _ = runs.rows.filter _
    rw [Table.filter_insert hu]
    simp [createdRun]
  have hresults {db : Database} {runs : Table runSchema} (hinv : OwnedQueue db)
      (hu : db.runs.insert? (createdRun A runId now) = some runs) :
      (db.results.rows.filter fun record => isRunOf A { db with runs := runs } record.runId) =
        db.results.rows.filter fun record => isRunOf A db record.runId := by
    refine List.filter_congr fun record hm => ?_
    obtain ⟨owner, howner⟩ := hinv.results record hm
    unfold isRunOf
    rw [howner, organizationOf_insertRun hu howner]
  refine ⟨rfl, ⟨⟨OwnedQueue.addRun hl.left hu, OwnedQueue.addRun hl.right hv, ?_⟩, honly hu,
    honly hv⟩, trivial, trivial⟩
  refine ⟨?_, hl.agree.jobs, hl.agree.jobEvents, ?_⟩
  · show u.rows.filter _ = v.rows.filter _
    rw [Table.filter_insert hu, Table.filter_insert hv, hl.agree.runs]
  · exact (hresults hl.left hu).trans (hl.agree.results.trans (hresults hl.right hv).symm)

/-! ### New jobs -/

theorem OwnedQueue.addJob {jobs : Table jobSchema} (h : OwnedQueue s)
    (hrun : organizationOf s job.runId = some job.organizationId)
    (hu : s.jobs.insert? job = some jobs) : OwnedQueue { s with jobs := jobs } where
  jobs other hm := by
    rw [Table.rows_insert hu] at hm
    rcases List.mem_append.mp hm with hm | hm
    · exact h.jobs other hm
    · obtain rfl := List.mem_singleton.mp hm
      exact hrun
  events event hm := by
    obtain ⟨other, hother, horg, howner⟩ := h.events event hm
    have hne : event.jobId ≠ jobSchema.key job := by
      intro hid
      have hnew := Table.find_of_insert hu
      rw [← hid, hother] at hnew
      cases hnew
    exact ⟨other, (Table.find_insert hu event.jobId).trans ((if_neg hne).trans hother), horg, howner⟩
  results := h.results

/-- A job of a run of the organization is the organization's. -/
theorem SameQueue.hasJob (h : SameQueue A s t) (hs : OwnedQueue s) (ht : OwnedQueue t)
    {runId : UUID} (hrun : organizationOf s runId = some A) (hrun' : organizationOf t runId = some A) :
    (s.jobs.rows.any fun job => decide (job.runId = runId)) =
      t.jobs.rows.any fun job => decide (job.runId = runId) := by
  have hown {db : Database} (hdb : OwnedQueue db) (hrun : organizationOf db runId = some A)
      (job : BackgroundJobRecord) (hm : job ∈ db.jobs.rows) (hid : decide (job.runId = runId) = true) :
      decide (job.organizationId = A) = true := by
    have howner := hdb.jobs job hm
    rw [of_decide_eq_true hid, hrun] at howner
    exact decide_eq_true (Option.some.inj howner).symm
  exact h.jobs.any (hown hs hrun) (hown ht hrun')

/-- A new job of a run of the organization, and its first event. -/
theorem isolates_insert_append (entry : EventEntry) (horg : job.organizationId = A) :
    Isolates (queueTenancy A)
      (fun db => db.jobs.Free job ∧ organizationOf db job.runId = some A) (do
        jobPart.insert integrityError job
        BackgroundJobRepository.appendEvent job entry.eventType entry.occurredAt entry.details
        return job) fun _ _ => True := by
  refine isolates_bind (Part.isolates_insert shared_jobs
    (decide_eq_true horg) (fun s t _ hs ht => ⟨fun _ => ht.1, fun _ => hs.1⟩)
    fun db jobs hinv hs hu => ⟨?_, horg, ?_⟩) fun _ =>
      isolates_bind isolates_appendEvent fun _ => isolates_pure fun _ _ => trivial
  · exact OwnedQueue.addJob hinv (hs.2.trans (congrArg some horg.symm)) hu
  · exact (Table.find_insert hu job.id).trans (if_pos rfl)

theorem isolates_create {jobId runId : UUID} {scheduledAt : Instant}
    {maxAttempts timeoutSeconds : Nat} {priority : BackgroundJobPriority} :
    Isolates (queueTenancy A) (fun db => ∀ job ∈ db.jobs.rows, job.id ≠ jobId)
      (BackgroundJobRepository.create jobId A runId scheduledAt maxAttempts timeoutSeconds priority
        now) fun _ _ => True := by
  refine isolates_require_bind fun _ => isolates_require_bind fun _ => ?_
  refine isolates_get_bind fun s t hl hs ht => ?_
  refine couples_bind (couples_require (by rw [hl.agree.findRun]) fun hrun hrun' => ?_)
  rw [← isRunOf_eq] at hrun hrun'
  have howner := of_decide_eq_true hrun
  have howner' := of_decide_eq_true hrun'
  have hjobs := hl.agree.hasJob hl.left hl.right howner howner'
  refine couples_bind (couples_require (by rw [hjobs]) fun hnone hnone' => ?_)
  have hfree (db : Database) (hid : ∀ job ∈ db.jobs.rows, job.id ≠ jobId)
      (hnone : ¬ (db.jobs.rows.any fun job => decide (job.runId = runId)) = true) :
      db.jobs.Free (.created jobId A runId scheduledAt maxAttempts timeoutSeconds priority now) := by
    refine ⟨hid, fun other hm => ?_⟩
    have hne : ¬ other.runId = runId := fun he =>
      hnone (List.any_eq_true.mpr ⟨other, hm, decide_eq_true he⟩)
    simp [jobSchema, BackgroundJobRecord.created, hne, Ne.symm hne]
  have hcreate := isolates_insert_append
    ⟨.jobQueued, now, { status := .queued, priority := some priority }⟩ rfl s t hl
    ⟨hfree s hs hnone, howner⟩ ⟨hfree t ht hnone', howner'⟩
  simp only [Part.insert, bind_assoc] at hcreate
  exact hcreate

end

end ReconcileFlow.Tenancy
