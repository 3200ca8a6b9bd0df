import ReconcileFlow.Worker.Simulation

/-!
# Worker — Lease

An attempt that has lost its lease, to `recover_stale` or to another attempt, is still at work: only
its heartbeat names the worker.  Its other transactions look at the status of the job or of the run,
not at who holds the lease, so they store when that status lets them (`View.intrudes`).

Where they do not, the attempt is harmless however long it goes on (`lost_lease_harmless`).
-/

namespace ReconcileFlow.Worker

open Support Persistence

/-! ### Attempts and their leases -/

/-- The worker whose attempt the transaction belongs to. -/
def Action.attempt : Action → Option ℕ
  | .start n _ _ | .checkpoint n _ _ | .save n _ | .fail n _ | .finish n _ => some n
  | _ => none

/-- The action with which worker `n` begins an attempt. -/
def Action.polls (n : ℕ) : Action → Bool
  | .poll m _ => decide (m = n)
  | _ => false

/-- Worker `n` is at work on the job and does not hold its lease. -/
def View.lost (v : View) (n : ℕ) : Bool := (v.attempt n).isSome && decide (v.lease ≠ some n)

/-- A transaction of an attempt that has lost its lease, and that stores: the start of a run that is
PENDING again, a checkpoint under the name of the worker that has the lease, the end of a RUNNING
run, or the finish of a job that is at work. -/
def View.intrudes (S : System) (a : Action) (v : View) : Bool :=
  match a with
  | .start n _ _ => v.lost n && decide (v.run.status = .pending)
  | .checkpoint n now _ =>
    v.lost n && v.job.status.isActive && decide (v.job.claimedBy = some (S.worker n).workerId) &&
      decide (v.job.heartbeatAt ≠ some now)
  | .save n now | .fail n now =>
    v.lost n && decide (v.run.status = .running) && notBefore (some now) v.run.startedAt
  | .finish n now =>
    match v.attempt n with
    | some (job, .finishing outcome) =>
      v.lost n && decide (BackgroundWorker.Finishable job outcome now v.job)
    | _ => false
  | _ => false

/-- No attempt that has lost its lease stores in this step. -/
def Unintruded (S : System) : World → Action → Prop := EveryJob fun a v => !v.intrudes S a

instance (S : System) (w : World) (a : Action) : Decidable (Unintruded S w a) :=
  inferInstanceAs (Decidable (EveryJob _ w a))

/-- The job without its progress. -/
def fate (job : BackgroundJobRecord) : BackgroundJobRecord :=
  { job with progressPercentage := 0, statusMessage := none }

/-- The job but for its progress, the run, its results and its audit history are the same. -/
structure View.Untouched (v v' : View) : Prop where
  job : fate v'.job = fate v.job
  run : v'.run = v.run
  results : v'.results = v.results
  auditEvents : v'.auditEvents = v.auditEvents

theorem View.Untouched.refl {v : View} : v.Untouched v := ⟨rfl, rfl, rfl, rfl⟩

variable {S : System}

/-! ### Moves -/

/-- An attempt begins with a poll, and stays one at the same job. -/
theorem Move.attempt {a : Action} {v v' : View} (hm : Move S a v v') {n : ℕ}
    (hpoll : a.polls n = false) {job : WorkerJob} {activity : Activity}
    (ha : v'.attempt n = some (job, activity)) :
    ∃ activity, v.attempt n = some (job, activity) := by
  -- a move that puts an activity of another worker leaves this attempt alone
  have hput : ∀ {u : View} {m : ℕ} {job' : WorkerJob} {old next : Activity},
      u.attempt = v.attempt → v.attempt m = some (job', old) →
      (u.put m (some (job', next))).attempt n = some (job, activity) →
      ∃ activity, v.attempt n = some (job, activity) := by
    intro u m job' old next hu hm ha
    rw [View.attempt_put, hu] at ha
    split at ha
    · next he =>
      cases ha
      exact ⟨old, he ▸ hm⟩
    · exact ⟨activity, ha⟩
  cases hm with
  | sweep => exact ⟨activity, by rwa [View.swept_attempt] at ha⟩
  | @claim _ u m now deadlineAt hu =>
    have hne : n ≠ m := by
      rintro rfl
      simp [Action.polls] at hpoll
    rw [View.attempt_put, if_neg hne] at ha
    subst hu
    exact ⟨activity, by rwa [View.swept_attempt] at ha⟩
  | start hold | advance hold | renew hold | save hold | fail hold | unfail hold =>
    exact hput rfl hold ha
  | finish | leave =>
    rw [View.attempt_put] at ha
    split at ha
    · cases ha
    · exact ⟨activity, ha⟩
  | cancel | retry => exact ⟨activity, ha⟩

/-- A lease that is lost is not got back. -/
theorem Move.lost {a : Action} {v v' : View} (hm : Move S a v v') {n : ℕ}
    (hbusy : (v.attempt n).isSome) (hlost : v.lease ≠ some n) : v'.lease ≠ some n := by
  have hswept : ∀ cutoff now, (v.swept cutoff now).lease ≠ some n := by
    intro cutoff now
    unfold View.swept
    split
    · nofun
    · exact hlost
  cases hm with
  | sweep => exact hswept _ _
  | @claim _ u m _ _ hu _ hidle =>
    -- the worker that claims had no attempt
    rintro ⟨⟩
    rw [hidle] at hbusy
    cases hbusy
  | _ => exact hlost

/-- A transaction of an attempt that does not intrude touches nothing. -/
theorem Move.untouched {a : Action} {v v' : View} (hm : Move S a v v') {n : ℕ}
    (hn : a.attempt = some n) (hbusy : (v.attempt n).isSome) (hlost : v.lease ≠ some n)
    (hok : v.intrudes S a = false) : v.Untouched v' := by
  have hl : v.lost n = true := by simp [View.lost, hbusy, hlost]
  cases hm with
  | advance | unfail | leave => exact ⟨rfl, rfl, rfl, rfl⟩
  | sweep | claim | cancel | retry => cases hn
  | start _ hp =>
    cases hn
    simp [View.intrudes, hl, hp] at hok
  | save _ hr hclock | fail _ hr hclock =>
    cases hn
    simp [View.intrudes, hl, hr, hclock] at hok
  | finish ha hf =>
    cases hn
    simp [View.intrudes, hl, ha, hf.toFinishable] at hok
  | @renew _ _ now _ _ _ _ _ _ hactive hclaimed =>
    cases hn
    -- the heartbeat is the one that is there, so only the progress changes
    have hbeat : v.job.heartbeatAt = some now := by
      simpa [View.intrudes, hl, hactive, hclaimed] using hok
    exact ⟨by simp [fate, View.put, BackgroundJobRecord.progressed, BackgroundJobRecord.beaten,
      hbeat], rfl, rfl, rfl⟩

/-! ### Runs -/

/-- If worker `n` is still at work, it is on this job, and the lease is lost. -/
def World.Lost (w : World) (n : ℕ) (job : WorkerJob) : Prop :=
  ∀ job' activity, w.phase n = .busy job' activity → job' = job ∧ w.lease job.id ≠ some n

theorem World.Lost.step {w w' : World} {n : ℕ} {job : WorkerJob} {a : Action} (h : w.Lost n job)
    (hv : w.Valid S) (hs : S.step w a = some w') (hpoll : a.polls n = false) :
    w'.Lost n job := by
  intro job' activity' hp'
  obtain ⟨v', hview', -, ha', -⟩ := busy_view (hv.step hs) hp'
  cases hview : w.view job'.id with
  | none =>
    have hfresh := step_new hv hs hview hview'
    rw [hfresh.attempt n] at ha'
    cases ha'
  | some v =>
    obtain ⟨u, hu, hmoved⟩ := step_view hv hs hview
    obtain rfl : u = v' := Option.some.inj (hu.symm.trans hview')
    -- the attempt was there before, so it is the one that has lost its lease
    have hold : ∃ activity, v.attempt n = some (job', activity) := by
      rcases hmoved with rfl | hm
      · exact ⟨activity', ha'⟩
      · exact hm.attempt hpoll ha'
    obtain ⟨activity, ha⟩ := hold
    obtain ⟨-, -, hvw⟩ := view_eq_some hview
    have hphase : w.phase n = .busy job' activity := by
      rw [hvw] at ha
      exact (attempt_eq_some.mp ha).1
    obtain ⟨rfl, hlost⟩ := h job' activity hphase
    have hlost' : u.lease ≠ some n := by
      have hlease : v.lease ≠ some n := by rwa [hvw]
      rcases hmoved with rfl | hm
      · exact hlease
      · exact hm.lost (by rw [ha]; rfl) hlease
    rw [(view_eq_some hview').2.2] at hlost'
    exact ⟨rfl, hlost'⟩

/-- A transaction of an attempt is possible only while the worker is at work. -/
theorem busy_of_step {w w' : World} {a : Action} {n : ℕ} (hs : S.step w a = some w')
    (hn : a.attempt = some n) : ∃ job activity, w.phase n = .busy job activity := by
  cases a with
  | start | checkpoint | save | fail | finish =>
    cases hn
    simp only [System.step] at hs
    split at hs
    · next hp => exact ⟨_, _, hp⟩
    · cases hs
  | _ => cases hn

/-- **An attempt that has lost its lease is harmless, unless it intrudes.**  Worker `n` is at work on
the job in a reachable state and its lease is lost.  In every run from there on whose steps do not
intrude, up to the worker's next poll, no transaction of the attempt changes anything of the job but
its progress, nor the run, its results or its audit history. -/
theorem lost_lease_harmless {w₀ w t u : World} {n : ℕ} {job : WorkerJob} {activity : Activity}
    {a : Action} (h₀ : w₀.Initial) (h : Reaches S.step Always w₀ w)
    (hp : w.phase n = .busy job activity) (hlost : w.lease job.id ≠ some n)
    (h' : Reaches S.step (fun t a => Unintruded S t a ∧ a.polls n = false) w t)
    (hok : Unintruded S t a) (hs : S.step t a = some u) (hn : a.attempt = some n) :
    (u.db.jobs.find job.id).map fate = (t.db.jobs.find job.id).map fate ∧
      u.db.runs.find job.runId = t.db.runs.find job.runId ∧
      u.db.resultsOf job.runId = t.db.resultsOf job.runId ∧
      u.db.auditEventsOf job.runId = t.db.auditEventsOf job.runId := by
  have hv : w.Valid S := reaches_valid h₀.valid h
  have ht : t.Valid S := reaches_valid hv h'
  have hstart : w.Lost n job := by
    intro job' activity' hp'
    rw [hp] at hp'
    cases hp'
    exact ⟨rfl, hlost⟩
  have hLost : t.Lost n job :=
    (h'.invariant (P := fun t => t.Valid S ∧ t.Lost n job)
      (fun _ _ _ ht hok hs => ⟨ht.1.step hs, ht.2.step ht.1 hs hok.2⟩) ⟨hv, hstart⟩).2
  obtain ⟨job', activity', hbusy⟩ := busy_of_step hs hn
  obtain ⟨rfl, hlease⟩ := hLost job' activity' hbusy
  obtain ⟨v, hview, -, ha, hof⟩ := busy_view ht hbusy
  obtain ⟨v', hview', hmoved⟩ := step_view ht hs hview
  obtain ⟨hjob, hrun, hvw⟩ := view_eq_some hview
  obtain ⟨hjob', hrun', hvw'⟩ := view_eq_some hview'
  have huntouched : v.Untouched v' := by
    rcases hmoved with rfl | hm
    · exact .refl
    · refine hm.untouched hn (by rw [ha]; rfl) (by rwa [hvw]) ?_
      simpa using hok.of_view hview
  have hrunId : (fate v'.job).runId = (fate v.job).runId := by rw [huntouched.job]
  replace hrunId : v'.job.runId = v.job.runId := hrunId
  have hresults : v'.results = v.results := huntouched.results
  have hauditEvents : v'.auditEvents = v.auditEvents := huntouched.auditEvents
  rw [hof.runId]
  rw [hrunId] at hrun'
  refine ⟨?_, ?_, ?_, ?_⟩
  · rw [hjob, hjob']
    exact congrArg some huntouched.job
  · rw [hrun, hrun', huntouched.run]
  · rw [hvw, hvw', hrunId] at hresults
    exact hresults
  · rw [hvw, hvw', hrunId] at hauditEvents
    exact hauditEvents

/-- A slow worker: its job is recovered and claimed by the other one, which starts too. -/
def slowExecution : List Action :=
  [.execute 1 1 7 {} 0, .poll 0 0, .start 0 0 none, .poll 1 (seconds 400)]

theorem lost_lease_harmless_checkpoint : ∃ (t u : World) (job : WorkerJob),
    twoWorkers.step t (.checkpoint 0 (seconds 402) (.error "unused")) = some u ∧
      (u.db.jobs.find job.id).map fate = (t.db.jobs.find job.id).map fate ∧
      u.db.runs.find job.runId = t.db.runs.find job.runId ∧
      u.db.resultsOf job.runId = t.db.resultsOf job.runId ∧
      u.db.auditEventsOf job.runId = t.db.auditEventsOf job.runId := by
  have hrun : (exec twoWorkers.step Always slowExecution onePending).any (fun w =>
      (w.phase 0).attempt.any (fun a => decide (w.lease a.1.id ≠ some 0)) &&
      (exec twoWorkers.step (fun t a => Unintruded twoWorkers t a ∧ a.polls 0 = false)
        [.start 1 (seconds 401) none] w).any (fun t =>
          decide (Unintruded twoWorkers t (.checkpoint 0 (seconds 402) (.error "unused"))) &&
            (twoWorkers.step t (.checkpoint 0 (seconds 402) (.error "unused"))).isSome)) = true := by
    decide +kernel
  obtain ⟨w, hw, hand⟩ := (Option.any_eq_true _ _).mp hrun
  obtain ⟨hany, hexec⟩ := Bool.and_eq_true_iff.mp hand
  obtain ⟨⟨job, activity⟩, hp, hlost⟩ := (Option.any_eq_true _ _).mp hany
  obtain ⟨t, ht, hlast⟩ := (Option.any_eq_true _ _).mp hexec
  obtain ⟨hok, hsome⟩ := Bool.and_eq_true_iff.mp hlast
  obtain ⟨u, hu⟩ := Option.isSome_iff_exists.mp hsome
  exact ⟨t, u, job, hu, lost_lease_harmless onePending_initial (reaches_of_exec hw)
    (Phase.attempt_eq_some.mp hp) (of_decide_eq_true hlost) (reaches_of_exec ht)
    (of_decide_eq_true hok) hu rfl⟩

/-- The slow worker finishes with the error that its lost heartbeat is, and the job that the other
worker is at work on is QUEUED. -/
theorem lost_lease_requeues : ∃ (w w' : World) (job : WorkerJob) (activity : Activity),
    Reaches twoWorkers.step Always onePending w ∧ w.phase 0 = .busy job activity ∧
      w.lease job.id = some 1 ∧ w.jobStatus job.id = some .running ∧
      twoWorkers.step w (.finish 0 (seconds 403)) = some w' ∧
      w'.jobStatus job.id = some .queued := by
  have hrun : (exec twoWorkers.step Always
      (slowExecution ++ [.checkpoint 0 (seconds 402) (.error "unused"), .close 0 none])
      onePending).any (fun w =>
        (w.phase 0).attempt.any (fun a =>
          decide (w.lease a.1.id = some 1) && decide (w.jobStatus a.1.id = some .running) &&
          (twoWorkers.step w (.finish 0 (seconds 403))).any
            fun w' => decide (w'.jobStatus a.1.id = some .queued))) = true := by
    decide +kernel
  obtain ⟨w, hw, hand⟩ := (Option.any_eq_true _ _).mp hrun
  obtain ⟨⟨job, activity⟩, hp, hand⟩ := (Option.any_eq_true _ _).mp hand
  obtain ⟨hand, hany⟩ := Bool.and_eq_true_iff.mp hand
  obtain ⟨hlease, hrunning⟩ := Bool.and_eq_true_iff.mp hand
  obtain ⟨w', hw', hqueued⟩ := (Option.any_eq_true _ _).mp hany
  exact ⟨w, w', job, activity, reaches_of_exec hw, Phase.attempt_eq_some.mp hp, of_decide_eq_true hlease,
    of_decide_eq_true hrunning, hw', of_decide_eq_true hqueued⟩

end ReconcileFlow.Worker
