import ReconcileFlow.Worker.Simulation

/-!
# Worker — Cancellation

A job whose cancellation was accepted while it was RUNNING is CANCEL_REQUESTED.  It can then end in
CANCELLED or FAILED, through the finish of its attempt or through the recovery of its lease, and
from there only a manual retry takes it back (`cancellation_stays`).

One transaction breaks this: `_finish_failed` asks for a retry without a look at the status, which
its sibling `_finish_timed_out` does look at.  The condition (`Unrequeued`) leaves it out.
-/

namespace ReconcileFlow.Worker

open Support Support.Transaction Persistence

/-- A retry of the job that is accepted. -/
def System.acceptsRetry (S : System) (j : UUID) (w : World) : Action → Bool
  | .retry jobId organizationId now =>
    decide (jobId = j) &&
      (atomically (Api.retryBackgroundJob S.settings jobId organizationId now) w.db).1.isOk
  | _ => false

def Unretried (S : System) (j : UUID) (w : World) (a : Action) : Prop :=
  S.acceptsRetry j w a = false

instance (S : System) (j : UUID) (w : World) (a : Action) : Decidable (Unretried S j w a) :=
  inferInstanceAs (Decidable (_ = _))

/-- `_finish_failed` schedules a retry although cancellation is requested: the processor raised an
error, and attempts are left. -/
def View.requeues (v : View) : Action → Bool
  | .finish n _ =>
    match v.attempt n with
    | some (job, .finishing (some (.error _))) =>
      decide (v.job.status = .cancelRequested) && decide (job.attemptCount < job.maxAttempts) &&
        decide (v.job.attemptCount < v.job.maxAttempts)
    | _ => false
  | _ => false

def Unrequeued (j : UUID) (w : World) (a : Action) : Prop :=
  (w.view j).any (·.requeues a) = false

instance (j : UUID) (w : World) (a : Action) : Decidable (Unrequeued j w a) :=
  inferInstanceAs (Decidable (_ = _))

/-- What a job can be once its cancellation is requested. -/
def IsCancelling (status : BackgroundJobStatus) : Prop :=
  status = .cancelRequested ∨ status = .cancelled ∨ status = .failed

variable {S : System}

/-- A stale job that is to be cancelled is CANCELLED. -/
theorem IsCancelling.swept {job : BackgroundJobRecord} (h : IsCancelling job.status)
    (cutoff now : Instant) : IsCancelling (job.swept cutoff now).status := by
  unfold BackgroundJobRecord.swept
  split
  · next hstale =>
    have hactive := (Bool.and_eq_true_iff.mp hstale).1
    rcases h with hs | hs | hs
    · rw [BackgroundJobRecord.status_recovered, if_pos hs]
      exact .inr (.inl rfl)
    · rw [hs] at hactive
      cases hactive
    · rw [hs] at hactive
      cases hactive
  · exact h

/-- The finish of an attempt leaves it CANCELLED or FAILED, unless it is the one left out. -/
theorem IsCancelling.finish {v : View} {n : ℕ} {now : Instant} {job : WorkerJob}
    {outcome : Option Failure} {record : BackgroundJobRecord} (h : IsCancelling v.job.status)
    (ha : v.attempt n = some (job, .finishing outcome))
    (hf : BackgroundWorker.Finished job outcome now v.job record)
    (hok : v.requeues (.finish n now) = false) : IsCancelling record.status := by
  have hallowed := hf.allowed
  have hstatus := hf.status
  rcases h with hs | hs | hs
  · have hretry : BackgroundWorker.asksRetry job outcome v.job.status = false := by
      by_contra hr
      rw [Bool.not_eq_false] at hr
      have hattempts := hf.attempts hr
      cases outcome with
      | none => simp [BackgroundWorker.asksRetry, BackgroundWorker.target, hs] at hr
      | some failure =>
        cases failure with
        | jobCancelled | jobTimedOut =>
          simp [BackgroundWorker.asksRetry, BackgroundWorker.target, hs] at hr
        | error typeName =>
          simp only [BackgroundWorker.asksRetry, Bool.and_eq_true, decide_eq_true_eq] at hr
          simp [View.requeues, ha, hs, hr.2, hattempts] at hok
    rw [hretry] at hstatus
    rw [hs] at hallowed
    rw [hstatus, if_neg Bool.false_ne_true, hs]
    simp only [BackgroundJobStatus.allowed, List.mem_cons, List.not_mem_nil, or_false] at hallowed
    exact .inr hallowed
  -- a job that has ended is not finished again
  · simp [hs, BackgroundJobStatus.allowed] at hallowed
  · simp [hs, BackgroundJobStatus.allowed] at hallowed

/-- Every move but the one left out and a retry keeps the cancellation. -/
theorem IsCancelling.move {a : Action} {v v' : View} (h : IsCancelling v.job.status)
    (hok : v.requeues a = false) (hm : Move S a v v')
    (hretry : ∀ organizationId now, a ≠ .retry v.job.id organizationId now) :
    IsCancelling v'.job.status := by
  cases hm with
  | sweep =>
    rw [View.swept_job]
    exact h.swept _ _
  | @claim _ u n now deadlineAt hu heligible =>
    -- only a QUEUED job is claimed
    have hswept := h.swept ((S.worker n).staleBefore now) now
    subst hu
    simp only [BackgroundJobRecord.isEligible, View.swept_job, Bool.and_eq_true,
      decide_eq_true_eq] at heligible
    rw [heligible.1.1.1.1] at hswept
    rcases hswept with hs | hs | hs <;> cases hs
  | finish ha hf => exact h.finish ha hf hok
  | cancel _ _ hs =>
    rcases h with h | h | h <;> rw [h] at hs <;> rcases hs with hs | hs <;> cases hs
  | retry hid =>
    subst hid
    exact absurd rfl (hretry _ _)
  | _ => exact h

/-- A retry that is not accepted changes nothing. -/
theorem step_of_unretried {w w' : World} {j organizationId : UUID} {now : Instant}
    (h : S.step w (.retry j organizationId now) = some w')
    (hok : Unretried S j w (.retry j organizationId now)) : w' = w := by
  cases h
  simp only [Unretried, System.acceptsRetry, decide_true, Bool.true_and] at hok
  unfold World.after
  cases he : atomically (Api.retryBackgroundJob S.settings j organizationId now) w.db with
  | mk r db =>
    cases r with
    | error e => rw [(of_atomically_error he).1]
    | ok record =>
      rw [he] at hok
      cases hok

/-- **An accepted cancellation is not undone.**  From a reachable state in which the job is
CANCEL_REQUESTED, as `request_cancellation` leaves a RUNNING job, on: unless a retry of it is
accepted, or an attempt that raised an error is finished with attempts left while cancellation is
requested, it is never QUEUED or RUNNING again. -/
theorem cancellation_stays {w₀ w w' : World} {j : UUID} (h₀ : w₀.Initial)
    (h : Reaches S.step Always w₀ w) (hj : w.jobStatus j = some .cancelRequested)
    (h' : Reaches S.step (fun t a => Unretried S j t a ∧ Unrequeued j t a) w w') :
    ∃ status, w'.jobStatus j = some status ∧ IsCancelling status := by
  have hv : w.Valid S := reaches_valid h₀.valid h
  induction h' with
  | refl => exact ⟨_, hj, .inl rfl⟩
  | @tail t u a hreach hok hs ih =>
    have ht := reaches_valid hv hreach
    obtain ⟨status, hstatus, hcancelling⟩ := ih
    obtain ⟨job, hjob, rfl⟩ := Option.map_eq_some_iff.mp hstatus
    obtain ⟨v, hview, rfl⟩ := ht.view hjob
    obtain ⟨v', hview', hmoved⟩ := step_view ht hs hview
    have hstatus' : u.jobStatus j = some v'.job.status := by
      rw [World.jobStatus, (view_eq_some hview').1]
      rfl
    rcases hmoved with rfl | hm
    · exact ⟨_, hstatus', hcancelling⟩
    · by_cases hretry : ∃ organizationId now, a = .retry j organizationId now
      · obtain ⟨organizationId, now, rfl⟩ := hretry
        rw [step_of_unretried hs hok.1]
        exact ⟨_, hstatus, hcancelling⟩
      · push Not at hretry
        have hid : v.job.id = j := Table.key_of_find hjob
        have hrequeues : v.requeues a = false := by simpa [Unrequeued, hview] using hok.2
        exact ⟨_, hstatus', hcancelling.move hrequeues hm (hid ▸ hretry)⟩

/-- A cancellation that the next checkpoint notices. -/
def cancelledExecution : List Action :=
  [.checkpoint 0 0 (.error "unused"), .fail 0 0, .close 0 none, .finish 0 0]

theorem cancellation_stays_cancelledExecution :
    ∃ w w', w.jobStatus 7 = some .cancelRequested ∧
      Reaches twoWorkers.step
        (fun t a => Unretried twoWorkers 7 t a ∧ Unrequeued 7 t a) w w' ∧
      ∃ status, w'.jobStatus 7 = some status ∧ IsCancelling status := by
  have hrun : (exec twoWorkers.step Always
      [.execute 1 1 7 {} 0, .poll 0 0, .start 0 0 none, .cancel 7 1 0] onePending).any
      (fun w => decide (w.jobStatus 7 = some .cancelRequested) &&
        (exec twoWorkers.step (fun t a => Unretried twoWorkers 7 t a ∧ Unrequeued 7 t a)
          cancelledExecution w).isSome) = true := by decide +kernel
  obtain ⟨w, hw, hand⟩ := (Option.any_eq_true _ _).mp hrun
  obtain ⟨hj, hsome⟩ := Bool.and_eq_true_iff.mp hand
  obtain ⟨w', hw'⟩ := Option.isSome_iff_exists.mp hsome
  have hj := of_decide_eq_true hj
  have hreach := reaches_of_exec hw'
  exact ⟨w, w', hj, hreach,
    cancellation_stays onePending_initial (reaches_of_exec hw) hj hreach⟩

/-- An error of the storage, and a cancellation before the attempt is finished: the job is QUEUED
again, although nobody retried it. -/
theorem cancellation_undone :
    ∃ w w', Reaches twoWorkers.step Always onePending w ∧
      w.jobStatus 7 = some .cancelRequested ∧
      Reaches twoWorkers.step (Unretried twoWorkers 7) w w' ∧
      w'.jobStatus 7 = some .queued := by
  have hrun : (exec twoWorkers.step Always
      [.execute 1 1 7 {} 0, .poll 0 0, .start 0 0 (some "StorageOperationError"), .cancel 7 1 0]
      onePending).any
      (fun w => decide (w.jobStatus 7 = some .cancelRequested) &&
        (exec twoWorkers.step (Unretried twoWorkers 7) [.close 0 none, .finish 0 0] w).any
          (fun w' => decide (w'.jobStatus 7 = some .queued))) = true := by decide +kernel
  obtain ⟨w, hw, hand⟩ := (Option.any_eq_true _ _).mp hrun
  obtain ⟨hj, hany⟩ := Bool.and_eq_true_iff.mp hand
  obtain ⟨w', hw', hqueued⟩ := (Option.any_eq_true _ _).mp hany
  exact ⟨w, w', reaches_of_exec hw, of_decide_eq_true hj, reaches_of_exec hw',
    of_decide_eq_true hqueued⟩

end ReconcileFlow.Worker
