import ReconcileFlow.Queue.Operations

/-!
# Queue — History

The events of a job are its whole history.  They are numbered 1, 2, … in the order they were
appended, the first is `JOB_QUEUED`, and a fold over their types and details (`replay`) ends in the
status, progress and counters that the job's record has.

`JobMove.replay` is the simulation: what a move logs makes of the history what the move makes of
the record.
-/

namespace ReconcileFlow.Queue

open Support Persistence

/-- What the events of a job tell. -/
structure History where
  status : BackgroundJobStatus := .queued
  progressPercentage : Int := 0
  attemptCount : Nat := 0
  totalAttemptCount : Nat := 0
  manualRetryCount : Nat := 0
deriving DecidableEq, Repr

namespace History

/-- One event more. -/
def apply (history : History) (eventType : BackgroundJobEventType) (details : EventDetails) :
    History :=
  match eventType with
  | .jobQueued => {}
  | .jobClaimed =>
    { history with
      status := .running
      attemptCount := details.attemptCount.getD history.attemptCount
      totalAttemptCount := history.totalAttemptCount + 1 }
  | .jobProgressUpdated =>
    { history with
      progressPercentage := details.progressPercentage.getD history.progressPercentage }
  | .jobRetryScheduled => { history with status := .queued }
  | .jobManualRetryRequested =>
    { history with
      status := .queued
      progressPercentage := 0
      attemptCount := 0
      manualRetryCount := details.manualRetryCount.getD history.manualRetryCount }
  -- its details have the status before the request
  | .jobCancellationRequested => { history with status := .cancelRequested }
  | .jobCancelled => { history with status := .cancelled }
  | .jobTimedOut | .jobFailed => { history with status := .failed }
  | .jobSucceeded => { history with status := .succeeded, progressPercentage := 100 }
  | .jobRecovered => { history with status := details.status }

end History

/-- The history that a list of events tells. -/
def replay (events : List BackgroundJobEventRecord) : History :=
  events.foldl (fun history event => history.apply event.eventType event.details) {}

/-- The columns of a record that its history tells. -/
def historyOf (job : BackgroundJobRecord) : History where
  status := job.status
  progressPercentage := job.progressPercentage
  attemptCount := job.attemptCount
  totalAttemptCount := job.totalAttemptCount
  manualRetryCount := job.manualRetryCount

/-- The events tell the job: they are in order from the first, and replay to its record. -/
structure Recorded (job : BackgroundJobRecord) (events : List BackgroundJobEventRecord) : Prop where
  sequence : events.map (·.sequenceNumber) = List.range' 1 events.length
  first : events.head?.map (·.eventType) = some .jobQueued
  history : replay events = historyOf job
  claims : job.totalAttemptCount = events.countP fun event => event.eventType = .jobClaimed

/-! ### What a move logs -/

/-- Events that an operation appends, replayed on a history. -/
def History.extend (history : History) (entries : List EventEntry) : History :=
  entries.foldl (fun history entry => history.apply entry.eventType entry.details) history

theorem JobMove.replay {limit : Nat} {job job' : BackgroundJobRecord} {operation : Operation}
    {entries : List EventEntry} (h : JobMove limit job operation entries job') :
    (historyOf job).extend entries = historyOf job' := by
  cases h with
  | claim => rfl
  | beat => rfl
  | progress => rfl
  | cancel hstatus =>
    rcases hstatus with hq | hr
    · simp [History.extend, History.apply, BackgroundJobRecord.cancellationEntries,
        BackgroundJobRecord.cancelled, historyOf, hq]
    · simp [History.extend, History.apply, BackgroundJobRecord.cancellationEntries,
        BackgroundJobRecord.cancelled, historyOf, hr]
  | @complete jobId organizationId target now code message retryAt htarget hretry =>
    cases hr : BackgroundJobRecord.isRetry target retryAt with
    | true =>
      simp [History.extend, History.apply, BackgroundJobRecord.completionEntry,
        BackgroundJobRepository.completionEvent, BackgroundJobRecord.completed, historyOf, hr]
    | false =>
      have hterminal := BackgroundJobStatus.terminal_of_allowed htarget
      cases target with
      | succeeded =>
        simp [History.extend, History.apply, BackgroundJobRecord.completionEntry,
          BackgroundJobRepository.completionEvent, BackgroundJobRecord.completed, historyOf, hr]
      | cancelled =>
        simp [History.extend, History.apply, BackgroundJobRecord.completionEntry,
          BackgroundJobRepository.completionEvent, BackgroundJobRecord.completed, historyOf, hr]
      | failed =>
        -- a time-out has an event type of its own
        by_cases hcode : code = some "JOB_TIMEOUT" <;>
          simp [History.extend, History.apply, BackgroundJobRecord.completionEntry,
            BackgroundJobRepository.completionEvent, BackgroundJobRecord.completed, historyOf, hr,
            hcode]
      | queued | running | cancelRequested =>
        cases hterminal
  | recover =>
    by_cases hc : job.status = .cancelRequested <;>
      by_cases ha : job.attemptCount < job.maxAttempts <;>
        simp [History.extend, History.apply, BackgroundJobRecord.recoveryEntry,
          BackgroundJobRecord.recovered, historyOf, hc, ha]
  | retry => rfl

/-! ### The rows of a job -/

theorem replay_append (events : List BackgroundJobEventRecord) (job : BackgroundJobRecord)
    (last : Nat) (entries : List EventEntry) :
    replay (events ++ job.eventRows last entries) = (replay events).extend entries := by
  unfold replay History.extend
  rw [List.foldl_append]
  generalize events.foldl _ _ = history
  induction entries generalizing last history with
  | nil => rfl
  | cons entry entries ih => exact ih (last + 1) _

theorem sequences_eventRows (job : BackgroundJobRecord) (last : Nat) (entries : List EventEntry) :
    (job.eventRows last entries).map (·.sequenceNumber) =
      List.range' (last + 1) entries.length := by
  induction entries generalizing last with
  | nil => rfl
  | cons entry entries ih =>
    simp only [BackgroundJobRecord.eventRows, List.map_cons, ih, List.length_cons,
      List.range'_succ]

theorem length_eventRows (job : BackgroundJobRecord) (last : Nat) (entries : List EventEntry) :
    (job.eventRows last entries).length = entries.length := by
  simpa using congrArg List.length (sequences_eventRows job last entries)

theorem claims_eventRows (job : BackgroundJobRecord) (last : Nat) (entries : List EventEntry) :
    (job.eventRows last entries).countP (fun event => event.eventType = .jobClaimed) =
      entries.countP fun entry => entry.eventType = .jobClaimed := by
  induction entries generalizing last with
  | nil => rfl
  | cons entry entries ih =>
    simp only [BackgroundJobRecord.eventRows, List.countP_cons, ih]

/-- Replaying counts the claims that the entries have. -/
theorem total_extend (history : History) (entries : List EventEntry)
    (hqueued : ∀ entry ∈ entries, entry.eventType ≠ .jobQueued) :
    (history.extend entries).totalAttemptCount =
      history.totalAttemptCount + entries.countP fun entry => entry.eventType = .jobClaimed := by
  induction entries generalizing history with
  | nil => rfl
  | cons entry entries ih =>
    have hentry := hqueued entry List.mem_cons_self
    have happly : (history.apply entry.eventType entry.details).totalAttemptCount =
        history.totalAttemptCount + if entry.eventType = .jobClaimed then 1 else 0 := by
      cases htype : entry.eventType <;> simp_all [History.apply]
    have htail := ih (history.apply entry.eventType entry.details) fun e he =>
      hqueued e (List.mem_cons_of_mem _ he)
    simp only [History.extend, List.foldl_cons] at htail ⊢
    rw [htail, happly, List.countP_cons]
    simp only [decide_eq_true_eq]
    omega

/-- Only `create` queues a job. -/
theorem JobMove.not_queued {limit : Nat} {job job' : BackgroundJobRecord} {operation : Operation}
    {entries : List EventEntry} (h : JobMove limit job operation entries job') :
    ∀ entry ∈ entries, entry.eventType ≠ .jobQueued := by
  cases h with
  | claim | progress | recover | retry => simp [BackgroundJobRecord.claimEntry,
      BackgroundJobRecord.recoveryEntry, BackgroundJobRecord.retryEntry]
  | beat => simp
  | cancel =>
    intro entry hm
    rcases List.mem_cons.mp hm with rfl | hm
    · simp
    · split at hm
      · obtain rfl := List.mem_singleton.mp hm
        simp
      · simp at hm
  | complete =>
    intro entry hm
    obtain rfl := List.mem_singleton.mp hm
    unfold BackgroundJobRecord.completionEntry BackgroundJobRepository.completionEvent
    dsimp only
    split
    · simp
    · split
      · simp
      · simp
      · split <;> simp

/-! ### Every operation keeps the record and its history together -/

theorem Recorded.move {limit : Nat} {job job' : BackgroundJobRecord} {operation : Operation}
    {entries : List EventEntry} {events : List BackgroundJobEventRecord}
    (h : Recorded job events) (hmove : JobMove limit job operation entries job') :
    Recorded job' (events ++
      job'.eventRows (lastSequence (events.map (·.sequenceNumber))) entries) := by
  have hlast : lastSequence (events.map (·.sequenceNumber)) = events.length := by
    rw [h.sequence, lastSequence_range']
  have hreplay : replay (events ++ job'.eventRows events.length entries) = historyOf job' := by
    rw [replay_append, h.history, hmove.replay]
  rw [hlast]
  refine ⟨?_, ?_, hreplay, ?_⟩
  · rw [List.map_append, h.sequence, sequences_eventRows, List.length_append, length_eventRows,
      Nat.add_comm events.length 1, List.range'_append_1]
  · cases events with
    | nil => simpa using h.first
    | cons event events => simpa using h.first
  · have htotal := total_extend (historyOf job) entries hmove.not_queued
    rw [hmove.replay] at htotal
    rw [List.countP_append, claims_eventRows, ← h.claims]
    exact htotal

theorem recorded_created {jobId organizationId runId : UUID} {scheduledAt : Instant}
    {maxAttempts timeoutSeconds : Nat} {priority : BackgroundJobPriority} {now : Instant}
    {details : EventDetails} {job : BackgroundJobRecord}
    (hjob : job = .created jobId organizationId runId scheduledAt maxAttempts timeoutSeconds
      priority now) :
    Recorded job (job.eventRows 0 [⟨.jobQueued, now, details⟩]) := by
  subst hjob
  exact ⟨rfl, rfl, rfl, rfl⟩

/-- Every job is recorded, and there are no other events. -/
def AllRecorded (db : Database) : Prop :=
  ∀ k, match db.jobs.find k with
    | some job => Recorded job (db.eventsOf k)
    | none => db.eventsOf k = []

theorem AllRecorded.step {limit : Nat} {db db' : Database} {operation : Operation}
    (h : AllRecorded db) (hstep : step limit db operation = some db') : AllRecorded db' := by
  obtain rfl := Option.some.inj hstep
  intro k
  have hk := h k
  have hchange := apply_change limit operation db k
  revert hk hchange
  generalize db.jobs.find k = job, db.eventsOf k = events,
    (operation.apply limit db).jobs.find k = job', (operation.apply limit db).eventsOf k = events'
  intro hk hchange
  cases hchange with
  | same => exact hk
  | move hmove => exact Recorded.move hk hmove
  | create hjob =>
    subst hk
    exact recorded_created hjob
  | delete => rfl

theorem Empty.allRecorded {db : Database} (h : Empty db) : AllRecorded db := by
  intro k
  simp [Table.find, Database.eventsOf, h.jobs, h.jobEvents]

theorem all_recorded {limit : Nat} {db₀ db : Database} (hempty : Empty db₀)
    (hrun : Reaches (step limit) Always db₀ db) : AllRecorded db :=
  hrun.invariant (fun _ _ _ h _ hstep => h.step hstep) hempty.allRecorded

/-- **The events of a job are its history**, after any operations on any jobs: they are numbered
from 1 in the order they were appended, begin with `JOB_QUEUED`, and replay to the job's status,
progress and counters. -/
theorem events_tell_job {limit : Nat} {db₀ db : Database} (hempty : Empty db₀)
    (hrun : Reaches (step limit) Always db₀ db) {k : UUID} {job : BackgroundJobRecord}
    (hjob : db.jobs.find k = some job) : Recorded job (db.eventsOf k) := by
  have h := all_recorded hempty hrun k
  rwa [hjob] at h

theorem events_tell_claimed : ∃ (db : Database) (job : BackgroundJobRecord),
    db.jobs.find 1 = some job ∧ job.status = .running ∧ Recorded job (db.eventsOf 1) := by
  have h : (exec (step 2) Always [.create 1 1 1 0 3 30 .low 0, .claimNext "worker" 5 none 30]
      twoRuns).any (fun db => (db.jobs.find 1).any fun job => job.status = .running) = true := by
    decide +kernel
  obtain ⟨db, hexec, hjob⟩ := (Option.any_eq_true _ _).mp h
  obtain ⟨job, hfind, hstatus⟩ := (Option.any_eq_true _ _).mp hjob
  exact ⟨db, job, hfind, of_decide_eq_true hstatus,
    events_tell_job twoRuns_empty (reaches_of_exec hexec) hfind⟩

end ReconcileFlow.Queue
