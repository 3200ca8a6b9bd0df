import ReconcileFlow.Queue.History

/-!
# Queue — Consistency

How the columns of a job hang together after any operations: a lease exactly while an attempt may
be at work, a completion time exactly when the job has ended, an attempt left while it is queued,
and a bound on how often it is ever claimed (`jobs_consistent`).

The bound needs that attempts stay within `max_attempts`, which the table checks, and the failure
code of a success needs that an active job has none, which `claim_next` sees to.
-/

namespace ReconcileFlow.Queue

open Support Persistence

/-- What holds of every job between operations, with at most `limit` manual retries. -/
structure Consistent (limit : Nat) (job : BackgroundJobRecord) : Prop where
  claimedBy : job.claimedBy.isSome = job.status.isActive
  heartbeatAt : job.heartbeatAt.isSome = job.status.isActive
  deadlineAt : job.deadlineAt.isSome = job.status.isActive
  completedAt : job.completedAt.isSome = job.status.isTerminal
  claimable : job.status = .queued → job.attemptCount < job.maxAttempts
  cancellation : job.status = .cancelRequested ∨ job.status = .cancelled →
    job.cancellationRequestedAt.isSome = true
  retryAt : job.retryAt.isSome = true → job.status = .queued ∨ job.status = .cancelled
  succeeded : job.status = .succeeded → job.progressPercentage = 100 ∧ job.failureCode = none
  total : job.totalAttemptCount ≤ job.maxAttempts * job.manualRetryCount + job.attemptCount
  manualRetries : job.manualRetryCount ≤ limit

/-- With it, an active job has no failure code yet. -/
structure Inductive (limit : Nat) (job : BackgroundJobRecord) : Prop extends
    Consistent limit job where
  unfailed : job.status.isActive = true → job.failureCode = none

/-! ### Each move -/

section

variable {limit : Nat} {job : BackgroundJobRecord} {now : Instant}

attribute [local simp] BackgroundJobStatus.isActive BackgroundJobStatus.isTerminal

theorem Inductive.claimed (h : Inductive limit job) (workerId : String) :
    Inductive limit (job.claimed workerId now) where
  claimedBy := rfl
  heartbeatAt := rfl
  deadlineAt := rfl
  completedAt := rfl
  claimable hs := by cases hs
  cancellation hs := by rcases hs with hs | hs <;> cases hs
  retryAt hr := by cases hr
  succeeded hs := by cases hs
  total := Nat.succ_le_succ h.total
  manualRetries := h.manualRetries
  unfailed _ := rfl

theorem Inductive.beaten (h : Inductive limit job) (hactive : job.status.isActive = true) :
    Inductive limit (job.beaten now) :=
  { h with heartbeatAt := hactive.symm }

theorem Inductive.progressed (h : Inductive limit job) (hactive : job.status.isActive = true)
    (percentage : Int) (message : Option String) :
    Inductive limit (job.progressed percentage message) where
  toConsistent := { h with
    succeeded := fun hs => by
      have hs : job.status = .succeeded := hs
      simp [hs, BackgroundJobStatus.isActive] at hactive }
  unfailed := h.unfailed

/-- A queued job is cancelled at once; a running one keeps its lease. -/
theorem Inductive.cancelled (h : Inductive limit job)
    (hstatus : job.status = .queued ∨ job.status = .running) :
    Inductive limit (job.cancelled now) := by
  obtain ⟨⟨hclaimed, hheartbeat, hdeadline, hcompleted, -, -, hretry, -, htotal, hmanual⟩,
    hunfailed⟩ := h
  rcases hstatus with hs | hs
  all_goals
    rw [hs] at hclaimed hheartbeat hdeadline hcompleted hretry hunfailed
    constructor
    · constructor <;> simp_all [BackgroundJobRecord.cancelled]
    · simp_all [BackgroundJobRecord.cancelled]

/-- A lease that ran out leads to one of three ends. -/
theorem Inductive.recovered (h : Inductive limit job) (hactive : job.status.isActive = true) :
    Inductive limit (job.recovered now) := by
  obtain ⟨⟨-, -, -, hcompleted, -, hcancellation, hretry, -, htotal, hmanual⟩, -⟩ := h
  by_cases hc : job.status = .cancelRequested
  · rw [hc] at hcompleted hcancellation hretry
    constructor
    · constructor <;> simp_all [BackgroundJobRecord.recovered]
    · simp [BackgroundJobRecord.recovered, hc]
  · have hr : job.status = .running := by
      cases hs : job.status <;> simp_all
    rw [hr] at hcompleted hretry
    by_cases ha : job.attemptCount < job.maxAttempts
    · constructor
      · constructor <;> simp_all [BackgroundJobRecord.recovered]
      · simp [BackgroundJobRecord.recovered, hc, ha]
    · simp only [BackgroundJobRecord.recovered, if_neg hc, if_neg ha]
      constructor
      · constructor <;> simp_all
      · simp

theorem Inductive.completed (h : Inductive limit job) {target : BackgroundJobStatus}
    (htarget : target ∈ job.status.allowed) {code message : Option String}
    {retryAt : Option Instant}
    (hattempts : BackgroundJobRecord.isRetry target retryAt = true →
      job.attemptCount < job.maxAttempts) :
    Inductive limit (job.completed target now code message retryAt) := by
  have hactive := (BackgroundJobStatus.active_of_allowed htarget).1
  have hterminal := BackgroundJobStatus.terminal_of_allowed htarget
  have hunfailed := h.unfailed hactive
  obtain ⟨⟨-, -, -, hcompleted, -, hcancellation, hretry, -, htotal, hmanual⟩, -⟩ := h
  have hended : job.completedAt.isSome = false ∧ job.retryAt.isSome = false := by
    cases hs : job.status <;> simp_all
  cases hr : BackgroundJobRecord.isRetry target retryAt with
  | true =>
    have hleft := hattempts hr
    simp only [BackgroundJobRecord.completed, hr]
    constructor
    · constructor <;> simp_all
    · simp
  | false =>
    simp only [BackgroundJobRecord.completed, hr]
    cases target with
    | succeeded | failed =>
      constructor
      · constructor <;> simp_all
      · simp
    | cancelled =>
      -- only a job that is to be cancelled completes as cancelled
      have hc : job.status = .cancelRequested := by
        cases hs : job.status <;> simp_all [BackgroundJobStatus.allowed]
      constructor
      · constructor <;> simp_all
      · simp
    | queued | running | cancelRequested => cases hterminal

theorem Inductive.retried (h : Inductive limit job) (hlimit : job.manualRetryCount < limit)
    (hattempts : job.attemptCount ≤ job.maxAttempts) (hmax : 1 ≤ job.maxAttempts) :
    Inductive limit (job.retried now) where
  claimedBy := rfl
  heartbeatAt := rfl
  deadlineAt := rfl
  completedAt := rfl
  claimable _ := hmax
  cancellation hs := by rcases hs with hs | hs <;> cases hs
  retryAt hr := by cases hr
  succeeded hs := by cases hs
  total := by
    have := h.total
    simp only [BackgroundJobRecord.retried, Nat.mul_succ]
    omega
  manualRetries := hlimit
  unfailed _ := rfl

theorem inductive_created {jobId organizationId runId : UUID} {scheduledAt : Instant}
    {maxAttempts timeoutSeconds : Nat} {priority : BackgroundJobPriority}
    (hmax : 1 ≤ maxAttempts) : Inductive limit (.created jobId organizationId runId scheduledAt
      maxAttempts timeoutSeconds priority now) where
  claimedBy := rfl
  heartbeatAt := rfl
  deadlineAt := rfl
  completedAt := rfl
  claimable _ := hmax
  cancellation hs := by rcases hs with hs | hs <;> cases hs
  retryAt hr := by cases hr
  succeeded hs := by cases hs
  total := Nat.zero_le _
  manualRetries := Nat.zero_le _
  unfailed _ := rfl

end

/-! ### After any operations -/

/-- The table's checks on the attempts. -/
theorem attempts_of_find {db : Database} {k : UUID} {job : BackgroundJobRecord}
    (h : db.jobs.find k = some job) :
    1 ≤ job.maxAttempts ∧ job.attemptCount ≤ job.maxAttempts := by
  have hcheck : jobSchema.check job = true := Table.check_of_find h
  simp only [jobSchema, Bool.and_eq_true, decide_eq_true_eq] at hcheck
  exact ⟨hcheck.1.1.1.2, hcheck.1.2⟩

theorem JobMove.keeps {limit : Nat} {job job' : BackgroundJobRecord} {operation : Operation}
    {entries : List EventEntry} (hmove : JobMove limit job operation entries job')
    (hattempts : 1 ≤ job.maxAttempts ∧ job.attemptCount ≤ job.maxAttempts)
    (h : Inductive limit job) : Inductive limit job' := by
  cases hmove with
  | claim => exact h.claimed _
  | beat hactive => exact h.beaten hactive
  | progress hactive => exact h.progressed hactive _ _
  | cancel hstatus => exact h.cancelled hstatus
  | complete htarget hretry => exact h.completed htarget hretry
  | recover hstale => exact h.recovered (Bool.and_eq_true_iff.mp hstale).1
  | retry _ hlimit => exact h.retried hlimit hattempts.2 hattempts.1

def AllInductive (limit : Nat) (db : Database) : Prop :=
  ∀ k job, db.jobs.find k = some job → Inductive limit job

theorem AllInductive.step {limit : Nat} {db db' : Database} {operation : Operation}
    (h : AllInductive limit db) (hstep : step limit db operation = some db') :
    AllInductive limit db' := by
  obtain rfl := Option.some.inj hstep
  intro k job' hjob'
  have hchange := apply_change limit operation db k
  have hchecks := attempts_of_find hjob'
  rw [hjob'] at hchange
  generalize hjob : db.jobs.find k = job, db.eventsOf k = events,
    (operation.apply limit db).eventsOf k = events' at hchange
  cases hchange with
  | same => exact h k job' hjob
  | move hmove => exact hmove.keeps (attempts_of_find hjob) (h k _ hjob)
  | create hcreated =>
    subst hcreated
    exact inductive_created hchecks.1

/-- **Every job is consistent after any operations**, and it has been claimed at most
`max_attempts` times for its first execution and for each of the manual retries. -/
theorem jobs_consistent {limit : Nat} {db₀ db : Database} (hempty : Empty db₀)
    (hrun : Reaches (step limit) Always db₀ db) {k : UUID} {job : BackgroundJobRecord}
    (hjob : db.jobs.find k = some job) :
    Consistent limit job ∧
      ((db.eventsOf k).countP fun event => event.eventType = .jobClaimed) ≤
        job.maxAttempts * (limit + 1) := by
  have hall : AllInductive limit db :=
    hrun.invariant (fun _ _ _ h _ hstep => h.step hstep)
      fun k job hjob => by simp [Table.find, hempty.jobs] at hjob
  have h := (hall k job hjob).toConsistent
  refine ⟨h, ?_⟩
  have hrecorded := all_recorded hempty hrun k
  rw [hjob] at hrecorded
  rw [← hrecorded.claims]
  calc job.totalAttemptCount
      ≤ job.maxAttempts * job.manualRetryCount + job.attemptCount := h.total
    _ ≤ job.maxAttempts * limit + job.maxAttempts :=
      Nat.add_le_add (Nat.mul_le_mul_left _ h.manualRetries) (attempts_of_find hjob).2
    _ = job.maxAttempts * (limit + 1) := (Nat.mul_succ _ _).symm

/-- A job that is cancelled while it waits for its second attempt. -/
theorem jobs_consistent_cancelled : ∃ (db : Database) (job : BackgroundJobRecord),
    db.jobs.find 1 = some job ∧ (job.status = .cancelled ∧ job.retryAt = some 9) ∧
      Consistent 2 job ∧ ((db.eventsOf 1).countP fun event => event.eventType = .jobClaimed) ≤
        job.maxAttempts * (2 + 1) := by
  have h : (exec (step 2) Always
      [.create 1 1 1 0 3 30 .low 0, .claimNext "worker" 5 none 30,
        .complete 1 .failed 1 7 none none (some 9), .requestCancellation 1 1 8] twoRuns).any
      (fun db => (db.jobs.find 1).any fun job =>
        job.status = .cancelled ∧ job.retryAt = some 9) = true := by
    decide +kernel
  obtain ⟨db, hexec, hjob⟩ := (Option.any_eq_true _ _).mp h
  obtain ⟨job, hfind, hstatus⟩ := (Option.any_eq_true _ _).mp hjob
  exact ⟨db, job, hfind, of_decide_eq_true hstatus,
    jobs_consistent twoRuns_empty (reaches_of_exec hexec) hfind⟩

end ReconcileFlow.Queue
