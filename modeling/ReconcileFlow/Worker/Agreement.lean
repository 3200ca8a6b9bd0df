import ReconcileFlow.Worker.Simulation

/-!
# Worker — Agreement

A job that has ended agrees with its run (`View.Agrees`).  The attempt that holds the lease sees to
it: before its job ends FAILED or CANCELLED it has failed the run (`Activity.Prepared`).

Other ways to end a job do not look at the run: the cancellation of a queued job, the recovery of a
stale one, the finish of an attempt that has lost its lease.  `View.breaks` lists the steps that
leave a job and its run apart; without them job and run agree in every state (`agrees_always`).
-/

namespace ReconcileFlow.Worker

open Support Persistence ReconciliationJobProcessor
open Audit (AuditTrail)

/-- The run has failed, or no attempt has ever started it: its job may end. -/
def View.IsSettled (v : View) : Prop :=
  v.run.status = .failed ∨ v.run.status = .pending ∧ v.started = false

instance (v : View) : Decidable v.IsSettled := inferInstanceAs (Decidable (_ ∨ _))

/-- What the end of a job says about its run. -/
structure View.Agrees (v : View) : Prop where
  succeeded : v.job.status = .succeeded → v.run.status = .succeeded
  ended : v.job.status = .failed ∨ v.job.status = .cancelled → v.IsSettled

/-! ### The steps that leave job and run apart -/

/-- The attempt is the last one: what it raises fails the run. -/
def WorkerJob.IsLast (job : WorkerJob) : Prop := job.maxAttempts ≤ job.attemptCount

instance (job : WorkerJob) : Decidable job.IsLast := inferInstanceAs (Decidable (_ ≤ _))

/-- The finish of an attempt whose run is not settled ends the job FAILED or CANCELLED: a success
that was to be cancelled, or a failure when the run has succeeded, the lease is lost, or a time-out
that was to be retried is cancelled. -/
def View.finishBreaks (v : View) (n : ℕ) (job : WorkerJob) (outcome : Option Failure) : Prop :=
  match outcome with
  | none => v.job.status = .cancelRequested
  | some failure =>
    BackgroundWorker.asksRetry job (some failure) v.job.status = false ∧ ¬ v.IsSettled ∧
      (v.run.status = .succeeded ∨ v.lease ≠ some n ∨ failure = .jobTimedOut ∧ ¬ job.IsLast)

instance (v : View) (n : ℕ) (job : WorkerJob) (outcome : Option Failure) :
    Decidable (v.finishBreaks n job outcome) := by
  cases outcome <;> unfold View.finishBreaks <;> infer_instance

/-- The step leaves the job and its run apart, or lets the last attempt end without them together. -/
def View.breaks (S : System) (a : Action) (v : View) : Bool :=
  match a with
  | .poll n now =>
    -- `recover_stale` ends the job
    v.job.isStale ((S.worker n).staleBefore now) &&
      (decide (v.job.status = .cancelRequested) || decide (v.job.maxAttempts ≤ v.job.attemptCount)) &&
      notBefore (some now) v.job.startedAt && decide (¬ v.IsSettled)
  | .cancel jobId organizationId now =>
    -- `request_cancellation` ends the queued job
    decide (v.job.id = jobId) && decide (v.job.organizationId = organizationId) &&
      decide (v.job.status = .queued) && notBefore (some now) v.job.startedAt &&
      decide (¬ v.IsSettled)
  | .start n _ _ =>
    -- the run of a job that has ended starts
    (v.attempt n).isSome && decide (v.run.status = .pending) && v.job.status.isTerminal
  | .fail n now =>
    -- the run cannot be failed: it would finish before it started
    match v.attempt n with
    | some (job, .failing _ _) =>
      decide job.IsLast && decide (v.run.status = .running) &&
        !notBefore (some now) v.run.startedAt
    | _ => false
  | .finish n now =>
    match v.attempt n with
    | some (job, .finishing outcome) =>
      decide (BackgroundWorker.Finishable job outcome now v.job) &&
        decide (v.finishBreaks n job outcome)
    | _ => false
  | _ => false

/-- The step leaves every job and its run together. -/
def Unbroken (S : System) : World → Action → Prop := EveryJob fun a v => !v.breaks S a

instance (S : System) (w : World) (a : Action) : Decidable (Unbroken S w a) :=
  inferInstanceAs (Decidable (EveryJob _ w a))

/-! ### What the attempt with the lease sees to -/

/-- The run has been started and is not RUNNING where the attempt has to have failed it. -/
def Failure.Handled (failure : Failure) (job : WorkerJob) (status : RunStatus) : Prop :=
  status ≠ .pending ∧ (failure = .jobCancelled ∨ job.IsLast → status ≠ .running)

/-- Where the run is when an attempt does this next. -/
def Activity.Prepared (job : WorkerJob) (status : RunStatus) : Activity → Prop
  | .starting => True
  | .checkpointing .. | .saving _ => status ≠ .pending
  | .failing _ _ => status ≠ .pending
  | .closing (some failure) | .finishing (some failure) => failure.Handled job status
  | .closing none | .finishing none => status = .succeeded

/-- The attempt that holds the lease of a job at work is prepared for its end. -/
def View.Prepared (v : View) : Prop :=
  ∀ n job activity, v.attempt n = some (job, activity) → v.lease = some n →
    v.job.status.isActive = true → activity.Prepared job v.run.status

theorem prepared_afterFailure {job : WorkerJob} {failure : Failure} {trail : AuditTrail}
    {status : RunStatus} (hs : status ≠ .pending) :
    (job.afterFailure failure trail).Prepared job status := by
  unfold WorkerJob.afterFailure
  split
  · exact hs
  · next hf =>
    -- an attempt that does not fail the run is not the last one
    simp only [failsRun, Bool.or_eq_true, decide_eq_true_eq] at hf
    exact ⟨hs, fun h => absurd h hf⟩

/-- The next activity is prepared when this one is. -/
theorem Next.prepared {status : RunStatus} {job : WorkerJob} {activity next : Activity}
    (hn : Next status job activity next) (h : activity.Prepared job status) :
    next.Prepared job status := by
  cases hn with
  | returned hs | saved hs => exact hs
  | refused hs => exact ⟨by simp [hs], fun _ => by simp [hs]⟩
  | opened hs =>
    show status ≠ .pending
    simp [hs]
  | unopened hs => exact prepared_afterFailure (by simp [hs])
  | passed | ready => exact h
  | raised | unsaved => exact prepared_afterFailure h
  | failed hs => exact ⟨h, fun _ => hs⟩
  | @closed outcome => cases outcome <;> exact h
  | @unclosed outcome =>
    cases outcome with
    | none => exact ⟨by rw [show status = .succeeded from h]; nofun,
        fun _ => by rw [show status = .succeeded from h]; nofun⟩
    | some failure => exact ⟨h.1, fun hl => h.2 (.inr (hl.resolve_left nofun))⟩

/-- The run goes on from RUNNING, or from PENDING where no attempt is past its start. -/
theorem Activity.Prepared.run {job : WorkerJob} {status status' : RunStatus} {activity : Activity}
    (h : activity.Prepared job status)
    (hs : status = .pending ∨ status = .running ∧ status' ≠ .pending ∧ status' ≠ .running) :
    activity.Prepared job status' := by
  rcases hs with rfl | ⟨rfl, hp, hr⟩
  · cases activity with
    | starting => trivial
    | checkpointing | saving | failing => exact absurd rfl h
    | closing outcome | finishing outcome =>
      cases outcome with
      | none => cases h
      | some failure => exact absurd rfl h.1
  · cases activity with
    | starting => trivial
    | checkpointing | saving | failing => exact hp
    | closing outcome | finishing outcome =>
      cases outcome with
      | none => cases h
      | some failure => exact ⟨hp, fun _ => hr⟩

namespace View

variable {S : System} {v v' u : View}

/-- A step that keeps the lease, does not take the job up, and lets the run go on. -/
theorem Prepared.put (h : v.Prepared) {n : ℕ} {a : Option (WorkerJob × Activity)}
    (hlease : u.lease = v.lease) (hattempt : u.attempt = v.attempt)
    (hactive : u.job.status.isActive = true → v.job.status.isActive = true)
    (hrun : ∀ job activity, Activity.Prepared job v.run.status activity →
      activity.Prepared job u.run.status)
    (hnext : ∀ job next, a = some (job, next) → ∃ activity, v.attempt n = some (job, activity) ∧
      (activity.Prepared job v.run.status → next.Prepared job u.run.status)) :
    (u.put n a).Prepared := by
  intro m job activity ha hl hact
  rw [View.attempt_put] at ha
  have hl' : v.lease = some m := hlease.symm.trans hl
  have hact' := hactive hact
  split at ha
  · next hm =>
    obtain ⟨old, hold, hn⟩ := hnext job activity ha
    exact hn (h n job old hold (hm ▸ hl') hact')
  · exact hrun job activity (h m job activity (hattempt ▸ ha) hl' hact')

/-- While the job is not at work there is nothing to prepare. -/
theorem Prepared.of_not_active (h : v.job.status.isActive = false) : v.Prepared := by
  intro n job activity _ _ hactive
  rw [h] at hactive
  cases hactive

/-- Every move that does not break keeps the attempt with the lease prepared. -/
theorem Prepared.move {a : Action} (h : v.Prepared) (hok : v.breaks S a = false)
    (hm : Move S a v v') : v'.Prepared := by
  have hid : ∀ (job : WorkerJob) (activity : Activity), activity.Prepared job v.run.status →
      activity.Prepared job v.run.status := fun _ _ => id
  cases hm with
  | sweep =>
    unfold View.swept
    split
    · exact .of_not_active BackgroundJobRecord.not_active_recovered
    · exact h
  | @claim _ u n =>
    -- only the new attempt has the lease, and it is at its start
    intro m job activity ha hl _
    obtain rfl : n = m := Option.some.inj hl
    rw [View.attempt_put, if_pos rfl] at ha
    cases ha
    trivial
  | start ha hs hn =>
    refine h.put rfl rfl id (fun _ _ hp => hp.run (.inl hs)) ?_
    rintro _ _ ⟨⟩
    exact ⟨_, ha, fun _ => hn.prepared trivial⟩
  | advance ha hn =>
    refine h.put rfl rfl id hid ?_
    rintro _ _ ⟨⟩
    exact ⟨_, ha, hn.prepared⟩
  | renew ha _ _ hn =>
    refine h.put rfl rfl id hid ?_
    rintro _ _ ⟨⟩
    exact ⟨_, ha, hn.prepared⟩
  | save ha hs =>
    refine h.put rfl rfl id (fun _ _ hp => hp.run (.inr ⟨hs, nofun, nofun⟩)) ?_
    rintro _ _ ⟨⟩
    exact ⟨_, ha, fun _ => rfl⟩
  | fail ha hs =>
    refine h.put rfl rfl id (fun _ _ hp => hp.run (.inr ⟨hs, nofun, nofun⟩)) ?_
    rintro _ _ ⟨⟩
    exact ⟨_, ha, fun _ => ⟨nofun, fun _ => nofun⟩⟩
  | unfail ha hs hclock =>
    refine h.put rfl rfl id hid ?_
    rintro _ _ ⟨⟩
    refine ⟨_, ha, fun hp => ⟨hp, fun hl => ?_⟩⟩
    have hlast := hl.resolve_left nofun
    simp [View.breaks, ha, hs, hclock, hlast] at hok
  | finish _ hf => exact .of_not_active hf.not_active
  | leave => exact h.put rfl rfl id hid (by rintro _ _ ⟨⟩)
  | @cancel _ _ _ now _ _ hs =>
    rcases hs with hs | hs
    · exact .of_not_active (by rw [BackgroundJobRecord.status_cancelled, if_pos hs]; rfl)
    · exact fun m job activity ha hl _ => h m job activity ha hl (by rw [hs]; rfl)
  | retry => exact .of_not_active rfl

/-! ### The agreement -/

/-- A job that has not ended agrees with any run. -/
theorem Agrees.of_not_terminal (h : v.job.status.isTerminal = false) : v.Agrees := by
  constructor
  · intro hs
    rw [hs] at h
    cases h
  · rintro (hs | hs) <;> rw [hs] at h <;> cases h

/-- A run at work has a job that has not ended. -/
theorem Agrees.not_terminal (h : v.Agrees) (hs : v.run.status = .running) :
    v.job.status.isTerminal = false := by
  have hunsettled : ¬ v.IsSettled := by simp [IsSettled, hs]
  cases hj : v.job.status with
  | succeeded => simp [h.succeeded hj] at hs
  | failed => exact absurd (h.ended (.inl hj)) hunsettled
  | cancelled => exact absurd (h.ended (.inr hj)) hunsettled
  | _ => rfl

/-- The check that a record has not completed before it started. -/
theorem clock_of_check {job : BackgroundJobRecord} (h : jobSchema.check job = true) :
    notBefore job.completedAt job.startedAt = true := by
  simp only [jobSchema, Bool.and_eq_true] at h
  exact h.2

/-- The recovery of a stale job ends it only with its run, unless it breaks. -/
theorem Agrees.swept (h : v.Agrees) {n : ℕ} {now : Instant}
    (hcheck : jobSchema.check (v.swept ((S.worker n).staleBefore now) now).job = true)
    (hok : v.breaks S (.poll n now) = false) :
    (v.swept ((S.worker n).staleBefore now) now).Agrees := by
  unfold View.swept at hcheck ⊢
  split
  · next hstale =>
    rw [if_pos hstale] at hcheck
    by_cases hends : v.job.status = .cancelRequested ∨ v.job.maxAttempts ≤ v.job.attemptCount
    · have hclock := clock_of_check hcheck
      obtain ⟨hcompleted, hstarted⟩ := v.job.completed_recovered now hends
      rw [hcompleted, hstarted] at hclock
      have hsettled : v.IsSettled := by
        by_contra hne
        rcases hends with hends | hends <;>
          simp [View.breaks, hstale, hclock, hends, hne] at hok
      refine ⟨fun hs => absurd hs BackgroundJobRecord.recovered_ne_succeeded, fun _ => hsettled⟩
    · push Not at hends
      refine .of_not_terminal ?_
      show (v.job.recovered now).status.isTerminal = false
      rw [BackgroundJobRecord.status_recovered, if_neg hends.1, if_pos hends.2]
      rfl
  · exact h

/-- The finish of an attempt ends the job with its run, unless it breaks. -/
theorem Agrees.finish (hsound : v.Sound S) (hprepared : v.Prepared) {n : ℕ} {now : Instant}
    {job : WorkerJob} {outcome : Option Failure} {record : BackgroundJobRecord}
    (ha : v.attempt n = some (job, .finishing outcome))
    (hf : BackgroundWorker.Finished job outcome now v.job record)
    (hok : v.breaks S (.finish n now) = false) :
    (({ v with job := record } : View).put n none).Agrees := by
  have hkeeps : ¬ v.finishBreaks n job outcome := by
    simpa [View.breaks, ha, hf.toFinishable] using hok
  have hstatus := hf.status
  by_cases hretry : BackgroundWorker.asksRetry job outcome v.job.status = true
  · rw [if_pos hretry] at hstatus
    refine .of_not_terminal ?_
    show record.status.isTerminal = false
    rw [hstatus]
    rfl
  · rw [if_neg hretry] at hstatus
    have hactive := (BackgroundJobStatus.active_of_allowed hf.allowed).1
    have hrun : ∀ failure, outcome = some failure → v.IsSettled := by
      rintro failure rfl
      by_contra hne
      have hno : ¬ (v.run.status = .succeeded ∨ v.lease ≠ some n ∨
          failure = .jobTimedOut ∧ ¬ job.IsLast) :=
        fun h => hkeeps ⟨by simpa using hretry, hne, h⟩
      push Not at hno
      obtain ⟨hsucceeded, hlease, htimedOut⟩ := hno
      -- the attempt holds the lease, and has failed the run
      obtain ⟨hpending, hrunning⟩ : failure.Handled job v.run.status :=
        hprepared n job _ ha hlease hactive
      have hlast : failure = .jobCancelled ∨ job.IsLast := by
        cases failure with
        | jobCancelled => exact .inl rfl
        | jobTimedOut => exact .inr (htimedOut rfl)
        | error typeName =>
          refine .inr ?_
          simpa [BackgroundWorker.asksRetry, BackgroundWorker.target, WorkerJob.IsLast] using hretry
      have hfailed : v.run.status = .failed := by
        cases hs : v.run.status with
        | failed => rfl
        | pending => exact absurd hs hpending
        | running => exact absurd hs (hrunning hlast)
        | succeeded => exact absurd hs hsucceeded
      exact hne (.inl hfailed)
    cases outcome with
    | none =>
      have hne : v.job.status ≠ .cancelRequested := hkeeps
      have hsucceeded : v.run.status = .succeeded := hsound.returned n job _ ha trivial
      simp only [BackgroundWorker.target, if_neg hne] at hstatus
      refine ⟨fun _ => hsucceeded, ?_⟩
      rintro (hs | hs) <;> cases hstatus.symm.trans hs
    | some failure =>
      refine ⟨fun hs => ?_, fun _ => hrun failure rfl⟩
      have hs' : record.status = .succeeded := hs
      rw [hstatus] at hs'
      cases failure with
      | jobTimedOut =>
        simp only [BackgroundWorker.target] at hs'
        split at hs' <;> cases hs'
      | _ => cases hs'

/-- Every move that does not break keeps job and run together. -/
theorem Agrees.move {a : Action} (h : v.Agrees) (hsound : v.Sound S) (hprepared : v.Prepared)
    (hcheck : jobSchema.check v'.job = true) (hok : v.breaks S a = false) (hm : Move S a v v') :
    v'.Agrees := by
  cases hm with
  | sweep => exact h.swept hcheck hok
  | claim | retry => exact .of_not_terminal rfl
  | start ha hs =>
    refine .of_not_terminal ?_
    show v.job.status.isTerminal = false
    simpa [View.breaks, ha, hs] using hok
  | save _ hs | fail _ hs => exact .of_not_terminal (h.not_terminal hs)
  | advance | unfail | leave => exact ⟨h.succeeded, h.ended⟩
  | renew => exact ⟨h.succeeded, h.ended⟩
  | finish ha hf => exact .finish hsound hprepared ha hf hok
  | @cancel _ _ _ now hid horganizationId hs =>
    rcases hs with hs | hs
    · have hclock := clock_of_check hcheck
      have hfields : (v.job.cancelled now).completedAt = some now ∧
          (v.job.cancelled now).startedAt = v.job.startedAt := by
        simp [BackgroundJobRecord.cancelled, hs]
      rw [hfields.1, hfields.2] at hclock
      have hsettled : v.IsSettled := by
        by_contra hne
        simp [View.breaks, hid, horganizationId, hs, hclock, hne] at hok
      refine ⟨fun hs' => ?_, fun _ => hsettled⟩
      rw [BackgroundJobRecord.status_cancelled, if_pos hs] at hs'
      cases hs'
    · refine .of_not_terminal ?_
      show (v.job.cancelled now).status.isTerminal = false
      rw [BackgroundJobRecord.status_cancelled, hs]
      rfl

end View

variable {S : System}

/-- **A job that has ended agrees with its run.**  In every run whose steps break nothing, in every
state: a SUCCEEDED job has a SUCCEEDED run; a FAILED or CANCELLED one has a FAILED run, or one that
is PENDING and that no attempt ever moved to RUNNING. -/
theorem agrees_always {w₀ w : World} (h₀ : w₀.Initial) (h : Reaches S.step (Unbroken S) w₀ w)
    {j : UUID} {job : BackgroundJobRecord} (hjob : w.db.jobs.find j = some job) :
    (job.status = .succeeded → w.runStatus job.runId = some .succeeded) ∧
      (job.status = .failed ∨ job.status = .cancelled →
        w.runStatus job.runId = some .failed ∨
          w.runStatus job.runId = some .pending ∧ w.started job.runId = false) := by
  have hv : w₀.Valid S := h₀.valid
  have hempty : ∀ j v, w₀.view j = some v → v.Agrees ∧ v.Prepared := by
    intro j v hj
    have hm := Table.mem_of_find (view_eq_some hj).1
    simp [h₀.jobs] at hm
  have hfresh : ∀ v : View, v.Fresh → v.Agrees ∧ v.Prepared := fun v hf =>
    ⟨.of_not_terminal (by rw [hf.job]; rfl), .of_not_active (by rw [hf.job]; rfl)⟩
  have hall := view_invariant (G := fun a v => !v.breaks S a) (P := fun v => v.Agrees ∧ v.Prepared)
    hfresh (fun a v v' hsound hcheck hP hok hm => by
      have hok' : v.breaks S a = false := by simpa using hok
      exact ⟨hP.1.move hsound hP.2 hcheck hok' hm, hP.2.move hok' hm⟩) hv hempty h
  obtain ⟨v, hview, rfl⟩ := (reaches_valid hv h).view hjob
  obtain ⟨-, hrun, hvw⟩ := view_eq_some hview
  have hstatus : w.runStatus v.job.runId = some v.run.status := by rw [World.runStatus, hrun]; rfl
  have hstarted : w.started v.job.runId = v.started := by rw [hvw]
  have hagrees := (hall j v hview).1
  rw [hstatus, hstarted]
  refine ⟨fun hs => congrArg some (hagrees.succeeded hs), fun hs => ?_⟩
  rcases hagrees.ended hs with hfailed | ⟨hpending, hno⟩
  · exact .inl (congrArg some hfailed)
  · exact .inr ⟨congrArg some hpending, hno⟩

/-- An execution that is cancelled while it runs. -/
def cancelledRun : List Action :=
  [.execute 1 1 7 {} 0, .poll 0 0, .start 0 0 none, .cancel 7 1 0,
    .checkpoint 0 0 (.error "unused"), .fail 0 0, .close 0 none, .finish 0 0]

theorem agrees_always_cancelledRun : ∃ (w : World) (job : BackgroundJobRecord),
    w.db.jobs.find 7 = some job ∧ job.status = .cancelled ∧
      (w.runStatus job.runId = some .failed ∨
        w.runStatus job.runId = some .pending ∧ w.started job.runId = false) := by
  have hrun : (exec twoWorkers.step (Unbroken twoWorkers) cancelledRun onePending).any (fun w =>
      (w.db.jobs.find 7).any fun job => decide (job.status = .cancelled)) = true := by
    decide +kernel
  obtain ⟨w, hw, hany⟩ := (Option.any_eq_true _ _).mp hrun
  obtain ⟨job, hjob, hs⟩ := (Option.any_eq_true _ _).mp hany
  have hs := of_decide_eq_true hs
  exact ⟨w, job, hjob, hs,
    (agrees_always onePending_initial (reaches_of_exec hw) hjob).2 (.inr hs)⟩

/-- The storage fails, the job waits for its retry and is cancelled: the run is RUNNING for ever. -/
theorem cancelled_while_running : ∃ (w : World) (job : BackgroundJobRecord),
    Reaches twoWorkers.step Always onePending w ∧ w.db.jobs.find 7 = some job ∧
      job.status = .cancelled ∧ w.runStatus job.runId = some .running := by
  have hrun : (exec twoWorkers.step Always
      [.execute 1 1 7 {} 0, .poll 0 0, .start 0 0 (some "StorageOperationError"), .close 0 none,
        .finish 0 0, .cancel 7 1 0] onePending).any (fun w =>
      (w.db.jobs.find 7).any fun job => decide (job.status = .cancelled) &&
        decide (w.runStatus job.runId = some .running)) = true := by
    decide +kernel
  obtain ⟨w, hw, hany⟩ := (Option.any_eq_true _ _).mp hrun
  obtain ⟨job, hjob, hand⟩ := (Option.any_eq_true _ _).mp hany
  obtain ⟨hs, hrunning⟩ := Bool.and_eq_true_iff.mp hand
  exact ⟨w, job, reaches_of_exec hw, hjob, of_decide_eq_true hs, of_decide_eq_true hrunning⟩

end ReconcileFlow.Worker
