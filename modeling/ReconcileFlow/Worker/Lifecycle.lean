import ReconcileFlow.Worker.System

/-!
# Worker — Lifecycle

One job, seen alone: its record and its run's, what is stored for the run, and every attempt at it
(`View`).  `Move` lists all that a step of the system can do to it; that the steps do nothing else
is shown in `Worker.Simulation`.  A property of all jobs in all states is then one of moves.

`Sound` is what every move keeps, whatever the interleaving.
-/

namespace ReconcileFlow.Worker

open Support Persistence ReconciliationJobProcessor
open Audit (AuditTrail)

structure View where
  job : BackgroundJobRecord
  run : ReconciliationRunRecord
  results : List ReconciliationResultRecord
  auditEvents : List AuditEventRecord
  lease : Option ℕ
  started : Bool
  saves : ℕ
  attempt : ℕ → Option (WorkerJob × Activity)

/-- The attempt of worker `n`, if it is at work on the job. -/
def World.attempt (w : World) (jobId : UUID) (n : ℕ) : Option (WorkerJob × Activity) :=
  match w.phase n with
  | .busy job activity => if job.id = jobId then some (job, activity) else none
  | _ => none

def World.view (w : World) (jobId : UUID) : Option View :=
  (w.db.jobs.find jobId).bind fun job =>
    (w.db.runs.find job.runId).map fun run => {
      job, run
      results := w.db.resultsOf job.runId
      auditEvents := w.db.auditEventsOf job.runId
      lease := w.lease jobId
      started := w.started job.runId
      saves := w.saves job.runId
      attempt := w.attempt jobId }

namespace View

/-- The attempt of worker `n` becomes `a`. -/
def put (v : View) (n : ℕ) (a : Option (WorkerJob × Activity)) : View :=
  { v with attempt := Function.update v.attempt n a }

/-- What `recover_stale` makes of the job. -/
def swept (v : View) (cutoff now : Instant) : View :=
  if v.job.isStale cutoff then { v with job := v.job.recovered now, lease := none } else v

@[simp] theorem attempt_put (v : View) (n m : ℕ) (a : Option (WorkerJob × Activity)) :
    (v.put n a).attempt m = if m = n then a else v.attempt m :=
  Function.update_apply _ _ _ _

@[simp] theorem swept_run (v : View) (cutoff now : Instant) : (v.swept cutoff now).run = v.run := by
  unfold swept
  split <;> rfl

@[simp] theorem swept_attempt (v : View) (cutoff now : Instant) :
    (v.swept cutoff now).attempt = v.attempt := by
  unfold swept
  split <;> rfl

@[simp] theorem swept_job (v : View) (cutoff now : Instant) :
    (v.swept cutoff now).job = v.job.swept cutoff now := by
  unfold swept BackgroundJobRecord.swept
  split <;> rfl

end View

/-! ### Moves -/

/-- Where an attempt can go without a change to the job or the run, whose status is `status`. -/
inductive Next (status : RunStatus) (job : WorkerJob) : Activity → Activity → Prop
  | returned : status = .succeeded → Next status job .starting (.finishing none)
  | refused {typeName : String} : status = .failed →
      Next status job .starting (.finishing (some (.error typeName)))
  | opened {progress : Progress} : status = .running →
      Next status job .starting (.checkpointing .bankIngestion progress)
  | unopened {typeName : String} : status = .running →
      Next status job .starting (job.afterFailure (.error typeName) {})
  | passed {c c' : Checkpoint} {progress progress' : Progress} :
      Next status job (.checkpointing c progress) (.checkpointing c' progress')
  | ready {c : Checkpoint} {progress progress' : Progress} :
      Next status job (.checkpointing c progress) (.saving progress')
  | raised {c : Checkpoint} {progress : Progress} {failure : Failure} {trail : AuditTrail} :
      Next status job (.checkpointing c progress) (job.afterFailure failure trail)
  | saved {progress : Progress} : status = .succeeded →
      Next status job (.saving progress) (.closing none)
  | unsaved {progress : Progress} {typeName : String} :
      Next status job (.saving progress) (job.afterFailure (.error typeName) progress.trail)
  | failed {failure : Failure} {trail : AuditTrail} : status ≠ .running →
      Next status job (.failing failure trail) (.closing (some failure))
  | closed {outcome : Option Failure} : Next status job (.closing outcome) (.finishing outcome)
  | unclosed {outcome : Option Failure} {typeName : String} :
      Next status job (.closing outcome) (.finishing (some (.error typeName)))

/-- What a step of the system can do to a job. -/
inductive Move (S : System) : Action → View → View → Prop
  | sweep {v : View} {n : ℕ} {now : Instant} :
      Move S (.poll n now) v (v.swept ((S.worker n).staleBefore now) now)
  | claim {v u : View} {n : ℕ} {now deadlineAt : Instant} :
      u = v.swept ((S.worker n).staleBefore now) now →
      u.job.isEligible now (S.worker n).organizationId = true → v.attempt n = none →
      Move S (.poll n now) v
        ({ u with
          job := u.job.claimed (S.worker n).workerId now
          lease := some n }.put n <|
          some (BackgroundWorker.workerJob (u.job.claimed (S.worker n).workerId now) deadlineAt,
            .starting))
  | start {v : View} {n : ℕ} {now : Instant} {storage : Option String} {job : WorkerJob}
      {next : Activity} :
      v.attempt n = some (job, .starting) → v.run.status = .pending →
      Next .running job .starting next →
      Move S (.start n now storage) v
        ({ v with run := v.run.moved .running now none none, started := true }.put n <|
          some (job, next))
  | advance {v : View} {a : Action} {n : ℕ} {job : WorkerJob} {activity next : Activity} :
      v.attempt n = some (job, activity) → Next v.run.status job activity next →
      Move S a v (v.put n (some (job, next)))
  | renew {v : View} {n : ℕ} {now : Instant} {loaded : Except String Reconciliation.Inputs}
      {job : WorkerJob} {c : Checkpoint} {progress : Progress} {next : Activity} :
      v.attempt n = some (job, .checkpointing c progress) → v.job.status.isActive = true →
      v.job.claimedBy = some (S.worker n).workerId →
      Next v.run.status job (.checkpointing c progress) next →
      Move S (.checkpoint n now loaded) v
        ({ v with job := (v.job.beaten now).progressed c.percentage (some c.message) }.put n <|
          some (job, next))
  | save {v : View} {n : ℕ} {now : Instant} {job : WorkerJob} {progress : Progress}
      {results : List ReconciliationResultRecord} {auditEvents : List AuditEventRecord} :
      v.attempt n = some (job, .saving progress) → v.run.status = .running →
      notBefore (some now) v.run.startedAt = true →
      Move S (.save n now) v
        ({ v with
          run := v.run.moved .succeeded now none none
          results := results
          auditEvents := auditEvents
          saves := v.saves + 1 }.put n <|
          some (job, .closing none))
  | fail {v : View} {n : ℕ} {now : Instant} {job : WorkerJob} {failure : Failure}
      {trail : AuditTrail} {code message : Option String} {auditEvents : List AuditEventRecord} :
      v.attempt n = some (job, .failing failure trail) → v.run.status = .running →
      notBefore (some now) v.run.startedAt = true →
      Move S (.fail n now) v
        ({ v with
          run := v.run.moved .failed now code message
          auditEvents := auditEvents }.put n <|
          some (job, .closing (some failure)))
  | unfail {v : View} {n : ℕ} {now : Instant} {job : WorkerJob} {failure : Failure}
      {trail : AuditTrail} {typeName : String} :
      v.attempt n = some (job, .failing failure trail) → v.run.status = .running →
      notBefore (some now) v.run.startedAt = false →
      Move S (.fail n now) v (v.put n (some (job, .closing (some (.error typeName)))))
  | finish {v : View} {n : ℕ} {now : Instant} {job : WorkerJob} {outcome : Option Failure}
      {record : BackgroundJobRecord} :
      v.attempt n = some (job, .finishing outcome) →
      BackgroundWorker.Finished job outcome now v.job record →
      Move S (.finish n now) v ({ v with job := record }.put n none)
  | leave {v : View} {a : Action} {n : ℕ} : Move S a v (v.put n none)
  | cancel {v : View} {jobId organizationId : UUID} {now : Instant} :
      v.job.id = jobId → v.job.organizationId = organizationId →
      v.job.status = .queued ∨ v.job.status = .running →
      Move S (.cancel jobId organizationId now) v { v with job := v.job.cancelled now }
  | retry {v : View} {jobId organizationId : UUID} {now : Instant} :
      v.job.id = jobId → v.job.status = .failed → v.run.status = .failed → v.results = [] →
      Move S (.retry jobId organizationId now) v
        { v with job := v.job.retried now, run := v.run.renewed }

theorem Move.sameJob {S : System} {a : Action} {v v' : View} (hm : Move S a v v') :
    v.job.SameJob v'.job := by
  cases hm with
  | sweep =>
    rw [View.swept_job]
    exact BackgroundJobRecord.sameJob_swept
  | claim hu =>
    subst hu
    rw [View.swept_job]
    exact BackgroundJobRecord.sameJob_swept.trans BackgroundJobRecord.sameJob_claimed
  | renew => exact BackgroundJobRecord.sameJob_beaten.trans BackgroundJobRecord.sameJob_progressed
  | finish _ hf => exact hf.same
  | cancel => exact BackgroundJobRecord.sameJob_cancelled
  | retry => exact BackgroundJobRecord.sameJob_retried
  | _ => exact .refl

/-- A job just queued for a run that waits for its first execution. -/
structure View.Fresh (v : View) : Prop where
  job : v.job.status = .queued
  runId : v.run.id = v.job.runId
  organizationId : v.run.organizationId = v.job.organizationId
  run : v.run.status = .pending
  finishedAt : v.run.finishedAt = none
  results : v.results = []
  auditEvents : v.auditEvents = []
  lease : v.lease = none
  started : v.started = false
  saves : v.saves = 0
  attempt : ∀ n, v.attempt n = none

/-! ### What every move keeps -/

/-- The attempt is one at this job. -/
structure WorkerJob.Of (job : WorkerJob) (record : BackgroundJobRecord) : Prop where
  id : job.id = record.id
  organizationId : job.organizationId = record.organizationId
  runId : job.runId = record.runId
  maxAttempts : job.maxAttempts = record.maxAttempts

/-- The processor has returned without an exception. -/
def Activity.HasReturned : Activity → Prop
  | .closing none | .finishing none => True
  | _ => False

structure View.Sound (S : System) (v : View) : Prop where
  attempt : ∀ n job activity, v.attempt n = some (job, activity) → job.Of v.job
  runId : v.run.id = v.job.runId
  organizationId : v.run.organizationId = v.job.organizationId
  finishedAt : v.run.status = .pending → v.run.finishedAt = none
  unstarted : v.started = false → v.run.status = .pending
  lease : v.job.status.isActive = true →
    ∃ n, v.lease = some n ∧ v.job.claimedBy = some (S.worker n).workerId
  saves : v.saves = 0 ∨ v.saves = 1 ∧ v.run.status = .succeeded
  results : v.results ≠ [] → v.saves = 1
  returned : ∀ n job activity, v.attempt n = some (job, activity) → activity.HasReturned →
    v.run.status = .succeeded
  succeeded : v.job.status = .succeeded → v.run.status = .succeeded

theorem WorkerJob.Of.same {job : WorkerJob} {record record' : BackgroundJobRecord}
    (h : job.Of record) (hs : record.SameJob record') : job.Of record' :=
  ⟨h.id.trans hs.id.symm, h.organizationId.trans hs.organizationId.symm,
    h.runId.trans hs.runId.symm, h.maxAttempts.trans hs.maxAttempts.symm⟩

/-- An exception is not a return. -/
theorem not_hasReturned_afterFailure {job : WorkerJob} {failure : Failure} {trail : AuditTrail} :
    ¬ (job.afterFailure failure trail).HasReturned := by
  unfold WorkerJob.afterFailure
  split <;> exact id

/-- The processor returns only from a run that has succeeded. -/
theorem Next.succeeded {status : RunStatus} {job : WorkerJob} {activity next : Activity}
    (h : Next status job activity next) (hn : next.HasReturned)
    (ha : activity.HasReturned → status = .succeeded) : status = .succeeded := by
  cases h with
  | returned hs | saved hs => exact hs
  | closed =>
    rename_i outcome
    cases outcome with
    | none => exact ha trivial
    | some failure => exact hn.elim
  | unopened | raised | unsaved => exact absurd hn not_hasReturned_afterFailure
  | _ => exact hn.elim

namespace View.Sound

variable {S : System} {v v' : View}

/-- A move that keeps the job's identity and a success, and whose attempts are old ones or return
only from success. -/
theorem step (h : v.Sound S) (hjob : v.job.SameJob v'.job) (hrunId : v'.run.id = v.run.id)
    (horganizationId : v'.run.organizationId = v.run.organizationId)
    (hattempt : ∀ m job activity, v'.attempt m = some (job, activity) →
      v.attempt m = some (job, activity) ∨
        job.Of v.job ∧ (activity.HasReturned → v'.run.status = .succeeded))
    (hkeeps : v.run.status = .succeeded → v'.run.status = .succeeded)
    (hfinishedAt : v'.run.status = .pending → v'.run.finishedAt = none)
    (hunstarted : v'.started = false → v'.run.status = .pending)
    (hlease : v'.job.status.isActive = true →
      ∃ n, v'.lease = some n ∧ v'.job.claimedBy = some (S.worker n).workerId)
    (hsaves : v'.saves = 0 ∨ v'.saves = 1 ∧ v'.run.status = .succeeded)
    (hresults : v'.results ≠ [] → v'.saves = 1)
    (hsucceeded : v'.job.status = .succeeded → v'.run.status = .succeeded) : v'.Sound S where
  attempt m job activity ha := by
    rcases hattempt m job activity ha with ha | ⟨hof, -⟩
    · exact (h.attempt m job activity ha).same hjob
    · exact hof.same hjob
  runId := hrunId.trans (h.runId.trans hjob.runId.symm)
  organizationId := horganizationId.trans (h.organizationId.trans hjob.organizationId.symm)
  finishedAt := hfinishedAt
  unstarted := hunstarted
  lease := hlease
  saves := hsaves
  results := hresults
  returned m job activity ha hr := by
    rcases hattempt m job activity ha with ha | ⟨-, hs⟩
    · exact hkeeps (h.returned m job activity ha hr)
    · exact hs hr
  succeeded := hsucceeded

theorem swept (h : v.Sound S) {cutoff now : Instant} : (v.swept cutoff now).Sound S := by
  unfold View.swept
  split
  · refine h.step BackgroundJobRecord.sameJob_recovered rfl rfl (fun _ _ _ ha => .inl ha) id
      h.finishedAt h.unstarted ?_ h.saves h.results ?_
    · intro ha
      simp [BackgroundJobRecord.not_active_recovered] at ha
    · exact fun hs => absurd hs BackgroundJobRecord.recovered_ne_succeeded
  · exact h

theorem leave (h : v.Sound S) (n : ℕ) : (v.put n none).Sound S := by
  refine h.step .refl rfl rfl (fun m job activity ha => .inl ?_) id h.finishedAt h.unstarted h.lease
    h.saves h.results h.succeeded
  rw [View.attempt_put] at ha
  split at ha
  · cases ha
  · exact ha

/-- An attempt goes on to an activity that does not return, or the run has succeeded. -/
theorem put (h : v.Sound S) {n : ℕ} {job : WorkerJob} {next : Activity} (hof : job.Of v.job)
    (hn : next.HasReturned → v.run.status = .succeeded) :
    (v.put n (some (job, next))).Sound S := by
  refine h.step .refl rfl rfl (fun m job' activity' ha' => ?_) id h.finishedAt h.unstarted h.lease
    h.saves h.results h.succeeded
  rw [View.attempt_put] at ha'
  split at ha'
  · obtain ⟨rfl, rfl⟩ := Prod.mk.inj (Option.some.inj ha')
    exact .inr ⟨hof, hn⟩
  · exact .inl ha'

/-- No result is stored before the run has succeeded. -/
theorem saves_eq_zero (h : v.Sound S) (hs : v.run.status ≠ .succeeded) : v.saves = 0 :=
  h.saves.resolve_right fun hs' => hs hs'.2

theorem results_eq_nil (h : v.Sound S) (hs : v.run.status ≠ .succeeded) : v.results = [] := by
  by_contra hr
  have h1 := h.results hr
  rw [h.saves_eq_zero hs] at h1
  cases h1

/-- The run goes on, from a status other than SUCCEEDED to one other than SUCCEEDED. -/
theorem setRun (h : v.Sound S) (run : ReconciliationRunRecord) (started : Bool)
    (auditEvents : List AuditEventRecord) (hid : run.id = v.run.id)
    (horganizationId : run.organizationId = v.run.organizationId)
    (hs : v.run.status ≠ .succeeded) (hfinishedAt : run.status = .pending → run.finishedAt = none)
    (hunstarted : started = false → run.status = .pending) :
    ({ v with run := run, started := started, auditEvents := auditEvents } : View).Sound S := by
  refine h.step .refl hid horganizationId (fun _ _ _ ha => .inl ha) (fun hs' => absurd hs' hs)
    hfinishedAt hunstarted h.lease (.inl (h.saves_eq_zero hs)) ?_ fun hj => absurd (h.succeeded hj) hs
  exact fun hr => absurd (h.results_eq_nil hs) hr

/-- The job goes on, its run unchanged. -/
theorem setJob (h : v.Sound S) (job : BackgroundJobRecord) (lease : Option ℕ)
    (hjob : v.job.SameJob job)
    (hlease : job.status.isActive = true →
      ∃ n, lease = some n ∧ job.claimedBy = some (S.worker n).workerId)
    (hsucceeded : job.status = .succeeded → v.run.status = .succeeded) :
    ({ v with job := job, lease := lease } : View).Sound S :=
  h.step hjob rfl rfl (fun _ _ _ ha => .inl ha) id h.finishedAt h.unstarted hlease h.saves h.results
    hsucceeded

theorem claim (h : v.Sound S) {n : ℕ} {now deadlineAt : Instant} :
    (({ v with
      job := v.job.claimed (S.worker n).workerId now
      lease := some n } : View).put n <|
      some (BackgroundWorker.workerJob (v.job.claimed (S.worker n).workerId now) deadlineAt,
        .starting)).Sound S :=
  (h.setJob _ _ BackgroundJobRecord.sameJob_claimed (fun _ => ⟨n, rfl, rfl⟩) nofun).put
    ⟨rfl, rfl, rfl, rfl⟩ False.elim

/-- The record that a finish leaves is not at work, and has succeeded only if the run has. -/
theorem finish (h : v.Sound S) {n : ℕ} {now : Instant} {job : WorkerJob} {outcome : Option Failure}
    {record : BackgroundJobRecord} (ha : v.attempt n = some (job, .finishing outcome))
    (hf : BackgroundWorker.Finished job outcome now v.job record) :
    (({ v with job := record } : View).put n none).Sound S := by
  have hstatus := hf.status
  refine (h.setJob record v.lease hf.same (fun hactive => ?_) fun hs => ?_).leave n
  · rw [hf.not_active] at hactive
    cases hactive
  · rw [hs] at hstatus
    split at hstatus
    · cases hstatus
    · cases outcome with
      | none => exact h.returned n job _ ha trivial
      | some failure =>
        cases failure <;> simp only [BackgroundWorker.target] at hstatus
        · cases hstatus
        · split at hstatus <;> cases hstatus
        · cases hstatus

theorem save (h : v.Sound S) {n : ℕ} {now : Instant} {job : WorkerJob} {progress : Progress}
    {results : List ReconciliationResultRecord} {auditEvents : List AuditEventRecord}
    (ha : v.attempt n = some (job, .saving progress)) (hs : v.run.status = .running) :
    (({ v with
      run := v.run.moved .succeeded now none none
      results := results
      auditEvents := auditEvents
      saves := v.saves + 1 } : View).put n <| some (job, .closing none)).Sound S := by
  have hsaves : v.saves + 1 = 1 := by rw [h.saves_eq_zero (by simp [hs])]
  have hsaved : ({ v with
      run := v.run.moved .succeeded now none none
      results := results
      auditEvents := auditEvents
      saves := v.saves + 1 } : View).Sound S :=
    h.step .refl rfl rfl (fun _ _ _ ha => .inl ha) (fun _ => rfl) nofun
      (fun hu => absurd (h.unstarted hu) (by simp [hs])) h.lease (.inr ⟨hsaves, rfl⟩)
      (fun _ => hsaves) fun _ => rfl
  exact hsaved.put (h.attempt _ _ _ ha) fun _ => rfl

/-- **Every move keeps a view sound.** -/
theorem move {a : Action} (h : v.Sound S) (hm : Move S a v v') : v'.Sound S := by
  cases hm with
  | sweep => exact h.swept
  | leave => exact h.leave _
  | advance ha hn =>
    exact h.put (h.attempt _ _ _ ha) fun hr => hn.succeeded hr (h.returned _ _ _ ha)
  | unfail ha => exact h.put (h.attempt _ _ _ ha) False.elim
  | claim hu =>
    subst hu
    exact h.swept.claim
  | @start _ _ now _ _ _ ha hs hn =>
    have hrun := h.setRun (v.run.moved .running now none none) true v.auditEvents rfl rfl
      (by simp [hs]) nofun nofun
    exact hrun.put (h.attempt _ _ _ ha) fun hr => hn.succeeded hr False.elim
  | @renew _ _ now _ _ c _ _ ha hactive hclaimed hn =>
    have hsame : v.job.SameJob ((v.job.beaten now).progressed c.percentage (some c.message)) :=
      BackgroundJobRecord.sameJob_beaten.trans BackgroundJobRecord.sameJob_progressed
    have hjob := h.setJob _ v.lease hsame h.lease h.succeeded
    exact hjob.put ((h.attempt _ _ _ ha).same hsame) fun hr =>
      hn.succeeded hr (h.returned _ _ _ ha)
  | save ha hs => exact h.save ha hs
  | @fail _ _ now _ _ _ code message auditEvents ha hs =>
    have hrun := h.setRun (v.run.moved .failed now code message) v.started auditEvents rfl rfl
      (by simp [hs]) nofun (fun hu => absurd (h.unstarted hu) (by simp [hs]))
    exact hrun.put (h.attempt _ _ _ ha) False.elim
  | finish ha hf => exact h.finish ha hf
  | @cancel _ _ _ now _ _ hs =>
    refine h.setJob (v.job.cancelled now) v.lease BackgroundJobRecord.sameJob_cancelled ?_ ?_
    · intro hactive
      rw [BackgroundJobRecord.claimedBy_cancelled]
      rcases hs with hs | hs
      · rw [BackgroundJobRecord.status_cancelled, if_pos hs] at hactive
        cases hactive
      · exact h.lease (by rw [hs]; rfl)
    · rw [BackgroundJobRecord.status_cancelled]
      split <;> nofun
  | @retry _ _ _ now _ _ hr =>
    have hrun := h.setRun v.run.renewed v.started v.auditEvents rfl rfl (by simp [hr])
      (fun _ => rfl) fun _ => rfl
    exact hrun.setJob (v.job.retried now) v.lease BackgroundJobRecord.sameJob_retried nofun nofun

end View.Sound

end ReconcileFlow.Worker
