import ReconcileFlow.Worker.Evolution

/-!
# Worker — Simulation

Every step of the system is, for each job, a move or nothing (`step_view`), and a job that a step
adds is fresh (`step_new`).  The steps keep the worlds valid (`Valid.step`).  So what every move
keeps, under a condition on the steps, holds of every job in every state of a run whose steps meet
the condition (`view_invariant`).
-/

namespace ReconcileFlow.Worker

open Support Support.Transaction Persistence ReconciliationJobProcessor
open Audit (AuditTrail)

/-! ### The steps of a worker -/

/-- What a step does to one job: nothing, or a move. -/
def Moved (S : System) (a : Action) (v v' : View) : Prop := v' = v ∨ Move S a v v'

theorem Moved.refl {S : System} {a : Action} (v : View) : Moved S a v v := .inl rfl

section

variable {S : System} {w : World} {n : ℕ} {job : WorkerJob} {activity : Activity} {now : Instant}

theorem busy_view (hv : w.Valid S) (hp : w.phase n = .busy job activity) :
    ∃ v, w.view job.id = some v ∧ v.Sound S ∧ v.attempt n = some (job, activity) ∧
      job.Of v.job := by
  obtain ⟨record, hjob⟩ := Option.isSome_iff_exists.mp (hv.attempt n job activity hp)
  obtain ⟨v, hview, -⟩ := hv.view hjob
  have hsound := hv.sound job.id v hview
  have ha : v.attempt n = some (job, activity) := by
    rw [(view_eq_some hview).2.2]
    exact attempt_eq_some.mpr ⟨hp, rfl⟩
  exact ⟨v, hview, hsound, ha, hsound.attempt n job activity ha⟩

/-- What no step changes, as `evolves_go` asks for it. -/
theorem keeps_started {v : View} {j : UUID} (h : w.view j = some v) (r : UUID) :
    w.started r = if r = v.job.runId then v.started else w.started r := by
  rw [(view_eq_some h).2.2]
  split
  · next hr => rw [hr]
  · rfl

theorem keeps_saves {v : View} {j : UUID} (h : w.view j = some v) (r : UUID) :
    w.saves r = if r = v.job.runId then v.saves else w.saves r := by
  rw [(view_eq_some h).2.2]
  split
  · next hr => rw [hr]
  · rfl

/-- The attempt goes on, and nothing is stored. -/
theorem evolves_advance (hv : w.Valid S) (hp : w.phase n = .busy job activity) {a : Action}
    {next : Activity} {v : View} (hview : w.view job.id = some v)
    (hmove : Move S a v (v.put n (some (job, next)))) :
    Evolves (Moved S a) w (w.go n job next w.db) := by
  have hstarted := keeps_started hview
  have hsaves := keeps_saves hview
  have hshows := shows_of_view hview
  exact evolves_go hv hview hp rfl (fun _ _ h => by cases h; rfl) .refl rfl hstarted hsaves hshows
    rfl ⟨rfl, rfl⟩ (.inr hmove) Moved.refl

/-- The attempt goes on, and a job record is stored. -/
theorem evolves_goJob (hv : w.Valid S) (hp : w.phase n = .busy job activity) {a : Action}
    {next : Activity} {v : View} (hview : w.view job.id = some v) {record : BackgroundJobRecord}
    {db : Database} (hs : JobStored w.db record db) (hsame : v.job.SameJob record)
    (hmove : Move S a v (({ v with job := record } : View).put n (some (job, next)))) :
    Evolves (Moved S a) w (w.go n job next db) := by
  have hid : record.id = job.id := hsame.id.trans (Table.key_of_find (view_eq_some hview).1)
  have hstarted := keeps_started hview
  have hsaves := keeps_saves hview
  have hshows := (shows_of_view hview).storeJob hs hid hsame.runId
  exact evolves_go (u := { v with job := record }) hv hview hp rfl (fun _ _ h => by cases h; rfl)
    (hid ▸ .jobStored hs) rfl hstarted hsaves hshows hsame.runId ⟨rfl, rfl⟩ (.inr hmove) Moved.refl

theorem next_afterStart (files : List SourceFileRecord)
    (config : Reconciliation.ReconciliationConfig) (storage : Option String) :
    Next .running job .starting (job.afterStart files config storage) := by
  unfold WorkerJob.afterStart
  split
  · exact .unopened rfl
  · exact .opened rfl

theorem next_afterCheckpoint {status : RunStatus} (runtime : Reconciliation.Runtime)
    (c : Checkpoint) (loaded : Except String Reconciliation.Inputs) (progress : Progress) :
    Next status job (.checkpointing c progress)
      (job.afterCheckpoint runtime c loaded progress) := by
  unfold WorkerJob.afterCheckpoint
  split
  · exact .raised
  · split
    · exact .passed
    · exact .ready

theorem evolves_start (hv : w.Valid S) (hp : w.phase n = .busy job .starting)
    (storage : Option String) :
    Evolves (Moved S (.start n now storage)) w (System.start w n job now storage) := by
  obtain ⟨v, hview, hsound, ha, hof⟩ := busy_view hv hp
  obtain ⟨hjob, hrun, -⟩ := view_eq_some hview
  have hstarted := keeps_started hview
  have hsaves := keeps_saves hview
  have hshows := shows_of_view hview
  rw [← hof.runId] at hrun
  unfold System.start
  split
  · next db hok =>
    obtain ⟨run, hrun', hcases⟩ := runs_start (atomically_ok.mp hok)
    obtain rfl : v.run = run := Option.some.inj (hrun.symm.trans hrun')
    rcases hcases with ⟨hs, -, rfl⟩ | ⟨-, hi, -⟩ | ⟨-, hi, -⟩
    · exact evolves_advance hv hp hview (.advance ha (.returned hs))
    · cases hi
    · cases hi
  · next files config db hok =>
    obtain ⟨run, hrun', hcases⟩ := runs_start (atomically_ok.mp hok)
    obtain rfl : v.run = run := Option.some.inj (hrun.symm.trans hrun')
    have hnext : Next .running job .starting (job.afterStart files config storage) :=
      next_afterStart files config storage
    rcases hcases with ⟨-, hi, -⟩ | ⟨hs, -, rfl⟩ | ⟨hs, -, hstored⟩
    · cases hi
    · refine evolves_go (u := v) hv hview hp rfl (fun _ _ h => by cases h; rfl) .refl rfl ?_ hsaves
        hshows rfl ⟨rfl, rfl⟩ (.inr (.advance ha (hs ▸ hnext))) Moved.refl
      intro r
      simp only [hrun, hs, Option.any_some, reduceCtorEq, decide_false, Bool.and_false,
        Bool.or_false]
      exact hstarted r
    · refine evolves_go (u := { v with run := v.run.moved .running now none none, started := true })
        hv hview hp rfl (fun _ _ h => by cases h; rfl) ?_ rfl ?_ hsaves ?_ rfl ⟨rfl, rfl⟩
        (.inr (.start ha hs hnext)) Moved.refl
      · have hid : (v.run.moved .running now none none).id = v.job.runId := hsound.runId
        exact hid ▸ .runStored hstored
      · intro r
        simp only [hrun, hs, Option.any_some, decide_true, Bool.and_true]
        rw [hof.runId]
        by_cases hr : r = v.job.runId <;> simp [hr]
      · have hs := hshows.storeRun hstored hsound.runId
        exact ⟨hs.job, hs.run, hs.results, hs.auditEvents⟩
  · next e db herror =>
    have hraises := (of_atomically_error herror).2
    have hs : v.run.status = .failed :=
      failed_of_start_raises hrun (hsound.organizationId.trans hof.organizationId.symm)
        (hof.runId ▸ hv.configuration _ _ hjob) hsound.finishedAt hraises
    exact evolves_advance hv hp hview (.advance ha (.refused hs))

theorem evolves_checkpoint (hv : w.Valid S) {c : Checkpoint} {progress : Progress}
    (hp : w.phase n = .busy job (.checkpointing c progress))
    (loaded : Except String Reconciliation.Inputs) :
    Evolves (Moved S (.checkpoint n now loaded)) w (S.checkpoint w n job c progress now loaded) := by
  obtain ⟨v, hview, hsound, ha, hof⟩ := busy_view hv hp
  obtain ⟨hjob, -⟩ := view_eq_some hview
  unfold System.checkpoint
  split
  · next record db hok =>
    obtain ⟨old, hold, hactive, hclaimed, rfl, hstored⟩ :=
      BackgroundWorker.runs_checkpoint (atomically_ok.mp hok)
    obtain rfl : v.job = old := Option.some.inj (hjob.symm.trans hold)
    have hsame : v.job.SameJob ((v.job.beaten now).progressed c.percentage (some c.message)) :=
      BackgroundJobRecord.sameJob_beaten.trans BackgroundJobRecord.sameJob_progressed
    split
    · exact evolves_goJob hv hp hview hstored hsame (.renew ha hactive hclaimed .raised)
    · exact evolves_goJob hv hp hview hstored hsame
        (.renew ha hactive hclaimed (next_afterCheckpoint S.runtime c loaded progress))
  · exact evolves_advance hv hp hview (.advance ha .raised)

theorem evolves_save (hv : w.Valid S) {progress : Progress}
    (hp : w.phase n = .busy job (.saving progress)) :
    Evolves (Moved S (.save n now)) w (System.save w n job progress now) := by
  obtain ⟨v, hview, hsound, ha, hof⟩ := busy_view hv hp
  obtain ⟨hjob, hrun, -⟩ := view_eq_some hview
  have hstarted := keeps_started hview
  have hsaves := keeps_saves hview
  have hshows := shows_of_view hview
  rw [← hof.runId] at hrun
  unfold System.save
  split
  · next written db hok =>
    obtain ⟨run, hrun', hcases⟩ := runs_save (atomically_ok.mp hok)
    obtain rfl : v.run = run := Option.some.inj (hrun.symm.trans hrun')
    rcases hcases with ⟨hs, rfl, rfl⟩ | ⟨hs, rfl, t, mid, ht, happended, hstored⟩
    · refine evolves_go (u := v) hv hview hp rfl (fun _ _ h => by cases h; rfl) .refl rfl hstarted ?_
        hshows rfl ⟨rfl, rfl⟩ (.inr (.advance ha (.saved hs))) Moved.refl
      intro r
      simpa using hsaves r
    · have hid : (v.run.moved .succeeded now none none).id = v.job.runId := hsound.runId
      rw [hof.runId] at ht happended
      have hrunFound : db.runs.find v.job.runId = some (v.run.moved .succeeded now none none) := by
        rw [hstored.find, if_pos hid.symm]
      have hclock : notBefore (some now) v.run.startedAt = true := Table.check_of_find hrunFound
      have hjobFound : db.jobs.find job.id = some v.job := by
        obtain ⟨_, _, -, rfl, -⟩ := happended
        rw [hstored.jobs]
        exact hjob
      refine evolves_go hv hview hp rfl (fun _ _ h => by cases h; rfl) ?_ rfl hstarted ?_
        (u := {
          v with
          run := v.run.moved .succeeded now none none
          results := db.resultsOf v.job.runId
          auditEvents := db.auditEventsOf v.job.runId
          saves := v.saves + 1 })
        ⟨hjobFound, hrunFound, rfl, rfl⟩ rfl ⟨rfl, rfl⟩ (.inr (.save ha hs hclock)) Moved.refl
      · exact (AgreeExcept.resultsAdded ht).trans
          ((AgreeExcept.auditAppended happended).trans (hid ▸ .runStored hstored))
      · intro r
        simp only [true_and, hof.runId]
        by_cases hr : r = v.job.runId
        · have hold := hsaves r
          rw [if_pos hr] at hold
          simp [hr, ← hold]
        · simp [hr]
  · exact evolves_advance hv hp hview (.advance ha .unsaved)

theorem evolves_fail (hv : w.Valid S) {failure : Failure} {trail : AuditTrail}
    (hp : w.phase n = .busy job (.failing failure trail)) :
    Evolves (Moved S (.fail n now)) w (System.fail w n job failure trail now) := by
  obtain ⟨v, hview, hsound, ha, hof⟩ := busy_view hv hp
  obtain ⟨hjob, hrun, -⟩ := view_eq_some hview
  have hstarted := keeps_started hview
  have hsaves := keeps_saves hview
  have hshows := shows_of_view hview
  rw [← hof.runId] at hrun
  unfold System.fail
  split
  · next db hok =>
    obtain ⟨run, hrun', hcases⟩ := runs_failRun (atomically_ok.mp hok)
    obtain rfl : v.run = run := Option.some.inj (hrun.symm.trans hrun')
    rcases hcases with ⟨hs, rfl⟩ | ⟨hs, mid, happended, hstored⟩
    · exact evolves_advance hv hp hview (.advance ha (.failed hs))
    · have hid : (v.run.moved .failed now (some (failureCode failure).1)
          (some (failureCode failure).2)).id = v.job.runId := hsound.runId
      have hshown := (hshows.appendAudit happended).storeRun hstored hid
      have hclock : notBefore (some now) v.run.startedAt = true := Table.check_of_find hshown.run
      rw [hof.runId] at happended
      refine evolves_go hv hview hp rfl (fun _ _ h => by cases h; rfl) ?_ rfl ?_ ?_
        (u := {
          v with
          run := v.run.moved .failed now (some (failureCode failure).1)
            (some (failureCode failure).2)
          auditEvents := mid.auditEventsOf v.job.runId })
        ⟨hshown.job, hshown.run, hshown.results, hshown.auditEvents⟩ rfl ⟨rfl, rfl⟩
        (.inr (.fail ha hs hclock)) Moved.refl
      · exact (AgreeExcept.auditAppended happended).trans (hid ▸ .runStored hstored)
      · exact hstarted
      · exact hsaves
  · next e db herror =>
    have hraises := (of_atomically_error herror).2
    obtain ⟨hs, hclock⟩ := clock_of_failRun_raises hrun
      (hsound.organizationId.trans hof.organizationId.symm) hraises
    exact evolves_advance hv hp hview (.unfail ha hs hclock)

/-- The same database and the same attempts: no view changes. -/
theorem evolves_same {w' : World} (hv : w.Valid S) {R : View → View → Prop} (hrefl : ∀ v, R v v)
    (hdb : w'.db = w.db) (hlease : w'.lease = w.lease) (hstarted : w'.started = w.started)
    (hsaves : w'.saves = w.saves)
    (hphase : ∀ m job activity, w'.phase m = .busy job activity ↔ w.phase m = .busy job activity) :
    Evolves R w w' := by
  have hattempt : w'.attempt = w.attempt := by
    funext j m
    refine Option.ext fun ⟨job, activity⟩ => ?_
    simp only [attempt_eq_some, hphase]
  refine ⟨fun j v hj => ⟨v, ?_, hrefl v⟩, fun _ => by rw [hdb], by rw [hdb],
    fun m job activity hp => hv.attempt m job activity ((hphase m job activity).mp hp),
    fun _ _ hu => ?_, fun _ _ => by rw [hlease]⟩
  · rw [← hj]
    simp only [World.view, hdb, hlease, hstarted, hsaves, hattempt]
  · exact ⟨hdb ▸ hu.run, hstarted ▸ hu.started, hsaves ▸ hu.saves, hdb ▸ hu.results,
      hdb ▸ hu.auditEvents⟩

/-- A worker leaves the job it may be at work on, and nothing is stored. -/
theorem evolves_leave (hv : w.Valid S) (a : Action) {phase : Phase} (hn : phase.attempt = none) :
    Evolves (Moved S a) w (w.leave n phase) := by
  have hidle : ∀ job activity, phase ≠ .busy job activity := by
    rintro job activity rfl
    cases hn
  by_cases hbusy : ∃ job activity, w.phase n = .busy job activity
  · obtain ⟨job, activity, hp⟩ := hbusy
    obtain ⟨v, hview, -⟩ := busy_view hv hp
    have hstarted := keeps_started hview
    have hsaves := keeps_saves hview
    have hshows := shows_of_view hview
    exact evolves_go hv hview hp rfl (fun _ _ h => absurd h (hidle _ _)) .refl rfl hstarted hsaves
      hshows rfl ⟨rfl, rfl⟩ (.inr (hn ▸ .leave)) Moved.refl
  · push Not at hbusy
    refine evolves_same hv Moved.refl rfl rfl rfl rfl fun m job activity => ?_
    show Function.update w.phase n phase m = _ ↔ _
    rw [Function.update_apply]
    split
    · next hm =>
      rw [hm]
      exact ⟨fun h => absurd h (hidle _ _), fun h => absurd h (hbusy _ _)⟩
    · exact Iff.rfl

theorem evolves_finish (hv : w.Valid S) {outcome : Option Failure}
    (hp : w.phase n = .busy job (.finishing outcome)) :
    Evolves (Moved S (.finish n now)) w (S.finish w n job outcome now) := by
  obtain ⟨v, hview, hsound, ha, hof⟩ := busy_view hv hp
  obtain ⟨hjob, -⟩ := view_eq_some hview
  have hstarted := keeps_started hview
  have hsaves := keeps_saves hview
  unfold System.finish
  split
  · next record db hok =>
    obtain ⟨old, hold, hfinished, hstored⟩ := BackgroundWorker.runs_finish (atomically_ok.mp hok)
    obtain rfl : v.job = old := Option.some.inj (hjob.symm.trans hold)
    have hsame := hfinished.same
    have hid : record.id = job.id := hsame.id.trans (Table.key_of_find hjob)
    have hshows := (shows_of_view hview).storeJob hstored hid hsame.runId
    exact evolves_go (u := { v with job := record }) hv hview hp rfl (by rintro _ _ ⟨⟩)
      (hid ▸ .jobStored hstored) rfl hstarted hsaves hshows hsame.runId ⟨rfl, rfl⟩
      (.inr (.finish ha hfinished)) Moved.refl
  · exact evolves_leave hv _ rfl

theorem evolves_close (hv : w.Valid S) {outcome : Option Failure}
    (hp : w.phase n = .busy job (.closing outcome)) (raised : Option String) :
    Evolves (Moved S (.close n raised)) w
      (w.go n job (.finishing ((raised.map .error).or outcome)) w.db) := by
  obtain ⟨v, hview, -, ha, -⟩ := busy_view hv hp
  cases raised with
  | none => exact evolves_advance hv hp hview (.advance ha .closed)
  | some typeName => exact evolves_advance hv hp hview (.advance ha .unclosed)

/-! ### The poll -/

/-- The sweep: every stale job is recovered. -/
theorem evolves_sweep (hv : w.Valid S) {cutoff : Instant} {mid : Database}
    (hs : Swept w.db cutoff now mid) (n : ℕ) :
    Evolves (fun v v' => v' = v.swept cutoff now) w
      { w with db := mid, lease := w.polledLease n cutoff none } := by
  have hresults : mid.resultsOf = w.db.resultsOf := by
    funext r
    rw [Database.resultsOf, hs.results]
    rfl
  have hauditEvents : mid.auditEventsOf = w.db.auditEventsOf := by
    funext r
    rw [Database.auditEventsOf, hs.auditEvents]
    rfl
  refine ⟨fun j v hj => ⟨v.swept cutoff now, ?_, rfl⟩, fun j => ?_, hs.configurations, hv.attempt,
    fun _ _ hu => ?_, fun j hj => by simp [World.polledLease, hj]⟩
  · obtain ⟨hjob, hrun, hview⟩ := view_eq_some hj
    have hjob' : mid.jobs.find j = some (v.job.swept cutoff now) := by rw [hs.find, hjob]; rfl
    have hrunId : (v.job.swept cutoff now).runId = v.job.runId :=
      BackgroundJobRecord.sameJob_swept.runId
    have hrun' : mid.runs.find (v.job.swept cutoff now).runId = some v.run := by
      rw [hrunId, hs.runs]
      exact hrun
    rw [view_of hjob' hrun', hrunId, hresults, hauditEvents, hview]
    by_cases hstale : v.job.isStale cutoff = true
    · simp [View.swept, BackgroundJobRecord.swept, World.polledLease, hjob, hstale]
      rfl
    · simp [View.swept, BackgroundJobRecord.swept, World.polledLease, hjob, hstale]
      rfl
  · rw [hs.find, Option.map_map]
    refine Option.map_congr fun job _ => ?_
    exact BackgroundJobRecord.sameJob_swept.runId
  · exact ⟨hs.runs ▸ hu.run, hu.started, hu.saves, hresults ▸ hu.results,
      hauditEvents ▸ hu.auditEvents⟩

/-- The claim: one eligible job gets a lease, and worker `n` an attempt. -/
theorem evolves_claim (hv : w.Valid S) (hidle : w.phase n = .idle) {record : BackgroundJobRecord}
    {db : Database} {workerId : String} {organizationId : Option UUID} {deadlineAt : Instant}
    (hjob : w.db.jobs.find record.id = some record)
    (heligible : record.isEligible now organizationId = true)
    (hs : JobStored w.db (record.claimed workerId now) db) :
    Evolves
      (fun v v' => v' = v ∨ v.job.isEligible now organizationId = true ∧ v.attempt n = none ∧
        v' = ({ v with job := v.job.claimed workerId now, lease := some n }.put n <| some
          (BackgroundWorker.workerJob (v.job.claimed workerId now) deadlineAt, .starting)))
      w
      { w with
        db := db
        lease := Function.update w.lease record.id (some n)
        phase := Function.update w.phase n <|
          .busy (BackgroundWorker.workerJob (record.claimed workerId now) deadlineAt) .starting } := by
  obtain ⟨v, hview, rfl⟩ := hv.view hjob
  have hnone : v.attempt n = none := by
    rw [(view_eq_some hview).2.2]
    simp [World.attempt, hidle]
  have hshows : Shows db v.job.id { v with job := v.job.claimed workerId now } :=
    (shows_of_view hview).storeJob hs rfl rfl
  have hnew : ∀ job activity,
      Phase.busy (BackgroundWorker.workerJob (v.job.claimed workerId now) deadlineAt) .starting =
        .busy job activity → job.id = v.job.id := by
    intro _ _ h
    cases h
    rfl
  have hdb : AgreeExcept (v.job.claimed workerId now).id v.job.runId w.db db := .jobStored hs
  suffices hview' : World.view _ v.job.id =
      some (({ v with job := v.job.claimed workerId now, lease := some n } : View).put n <| some
        (BackgroundWorker.workerJob (v.job.claimed workerId now) deadlineAt, .starting)) from
    Local.evolves hv hview
      ⟨hdb, fun k hk => Function.update_of_ne hk _ _, fun _ _ => rfl, fun _ _ => rfl,
        phase_iff_of_ne rfl hnew (by simp [hidle])⟩
      hview' rfl (.inr ⟨heligible, hnone, rfl⟩) fun _ => .inl rfl
  rw [view_of hshows.job hshows.run, hshows.results, hshows.auditEvents, attempt_of_phase rfl hnew]
  simp only [Function.update_self]
  rw [(view_eq_some hview).2.2]
  rfl

theorem evolves_poll (hv : w.Valid S) (hidle : w.phase n = .idle) :
    Evolves (Moved S (.poll n now)) w (S.poll w n now) := by
  unfold System.poll
  split
  · next claim db hok =>
    obtain ⟨mid, hswept, hclaim⟩ := BackgroundWorker.runs_poll (atomically_ok.mp hok)
    have hsweep := evolves_sweep hv hswept n
    rcases hclaim with ⟨rfl, rfl⟩ | ⟨record, deadlineAt, hjob, heligible, rfl, hstored⟩
    · have hphase : Function.update w.phase n .idle = w.phase := by
        rw [← hidle, Function.update_eq_self]
      simp only [hphase]
      refine hsweep.mono ?_
      rintro v v' rfl
      exact .inr .sweep
    · have hlease : w.polledLease n ((S.worker n).staleBefore now) (some
            (BackgroundWorker.workerJob (record.claimed (S.worker n).workerId now) deadlineAt)) =
          Function.update (w.polledLease n ((S.worker n).staleBefore now) none) record.id
            (some n) := by
        funext k
        rw [Function.update_apply]
        by_cases hk : k = record.id
        · simp [World.polledLease, BackgroundWorker.workerJob, BackgroundJobRecord.claimed, hk]
        · simp [World.polledLease, BackgroundWorker.workerJob, BackgroundJobRecord.claimed, hk,
            Ne.symm hk]
      have hmid := hsweep.valid hv fun v v' hr hs => hr ▸ hs.swept
      simp only [hlease]
      refine (hsweep.trans (evolves_claim hmid hidle hjob heligible hstored)).mono ?_
      rintro v v' ⟨u, rfl, rfl | ⟨heligible, hnone, rfl⟩⟩
      · exact .inr .sweep
      · exact .inr (.claim rfl heligible (by rwa [View.swept_attempt] at hnone))
  · exact evolves_leave hv _ rfl

/-! ### The steps of a user -/

/-- A transaction at one job, which no attempt notices. -/
theorem evolves_store (hv : w.Valid S) {R : View → View → Prop} (hrefl : ∀ v, R v v) {j : UUID}
    {v u : View} {db : Database} (hview : w.view j = some v)
    (hdb : AgreeExcept j v.job.runId w.db db) (hu : Shows db j u)
    (hrunId : u.job.runId = v.job.runId)
    (hkeeps : u.lease = v.lease ∧ u.started = v.started ∧ u.saves = v.saves ∧
      u.attempt = v.attempt)
    (hr : R v u) : Evolves R w { w with db := db } := by
  suffices hview' : World.view { w with db := db } j = some u from
    Local.evolves hv hview
      ⟨hdb, fun _ _ => rfl, fun _ _ => rfl, fun _ _ => rfl, fun _ _ _ _ => Iff.rfl⟩ hview' hrunId hr
      hrefl
  obtain ⟨hlease, hstarted, hsaves, hattempt⟩ := hkeeps
  have hv' := (view_eq_some hview).2.2
  rw [view_of hu.job hu.run, hu.results, hu.auditEvents, hrunId]
  have hl : w.lease j = u.lease := by rw [hlease, hv']
  have hst : w.started v.job.runId = u.started := by rw [hstarted, hv']
  have hsv : w.saves v.job.runId = u.saves := by rw [hsaves, hv']
  have hat : ({ w with db := db } : World).attempt j = u.attempt := by
    rw [hattempt, hv']
    rfl
  simp only [hl, hst, hsv, hat]

theorem evolves_cancel (hv : w.Valid S) (jobId organizationId : UUID) :
    Evolves (Moved S (.cancel jobId organizationId now)) w
      (w.after (Api.cancelBackgroundJob jobId organizationId now)) := by
  unfold World.after
  cases hok : atomically (Api.cancelBackgroundJob jobId organizationId now) w.db with
  | mk r db =>
    cases r with
    | error e =>
      obtain rfl := (of_atomically_error hok).1
      exact evolves_same hv Moved.refl rfl rfl rfl rfl fun _ _ _ => Iff.rfl
    | ok record =>
      obtain ⟨job, hjob, horganizationId, hstatus, rfl, hstored, -⟩ :=
        runs_requestCancellation (atomically_ok.mp hok)
      obtain ⟨v, hview, rfl⟩ := hv.view hjob
      have hsame : v.job.SameJob (v.job.cancelled now) := BackgroundJobRecord.sameJob_cancelled
      have hid : (v.job.cancelled now).id = jobId := hsame.id.trans (Table.key_of_find hjob)
      exact evolves_store hv Moved.refl (u := { v with job := v.job.cancelled now }) hview
        (hid ▸ .jobStored hstored) ((shows_of_view hview).storeJob hstored hid hsame.runId)
        hsame.runId ⟨rfl, rfl, rfl, rfl⟩
        (.inr (.cancel (Table.key_of_find hjob) horganizationId hstatus))

theorem evolves_retry (hv : w.Valid S) (jobId organizationId : UUID) :
    Evolves (Moved S (.retry jobId organizationId now)) w
      (w.after (Api.retryBackgroundJob S.settings jobId organizationId now)) := by
  unfold World.after
  cases hok : atomically (Api.retryBackgroundJob S.settings jobId organizationId now) w.db with
  | mk r db =>
    cases r with
    | error e =>
      obtain rfl := (of_atomically_error hok).1
      exact evolves_same hv Moved.refl rfl rfl rfl rfl fun _ _ _ => Iff.rfl
    | ok record =>
      obtain ⟨job, run, mid, hjob, hfailed, -, hresults, hrun, hstatus, rfl, hstored, hrenewed, -⟩ :=
        runs_retryFailed (atomically_ok.mp hok)
      obtain ⟨v, hview, rfl⟩ := hv.view hjob
      obtain rfl : v.run = run := Option.some.inj ((view_eq_some hview).2.1.symm.trans hrun)
      have hid : (v.job.retried now).id = jobId := Table.key_of_find hjob
      have hrunId : v.run.renewed.id = v.job.runId := Table.key_of_find hrun
      have hshows := ((shows_of_view hview).storeJob hstored hid rfl).storeRun hrenewed hrunId
      have hdb : AgreeExcept jobId v.job.runId w.db db :=
        (hid ▸ AgreeExcept.jobStored hstored).trans (hrunId ▸ AgreeExcept.runStored hrenewed)
      have hnil : v.results = [] := (shows_of_view hview).results.symm.trans hresults
      exact evolves_store hv Moved.refl
        (u := { v with job := v.job.retried now, run := v.run.renewed }) hview hdb
        ⟨hshows.job, hshows.run, hshows.results, hshows.auditEvents⟩ rfl ⟨rfl, rfl, rfl, rfl⟩
        (.inr (.retry (Table.key_of_find hjob) hfailed hstatus hnil))

/-- An execution has been queued: a fresh job, and nothing else. -/
structure Queued (S : System) (w w' : World) (j : UUID) : Prop where
  view : ∀ k, k ≠ j → w'.view k = w.view k
  absent : w.view j = none
  fresh : ∃ v, w'.view j = some v ∧ v.Fresh
  valid : w'.Valid S

theorem View.Fresh.sound {v : View} (h : v.Fresh) : v.Sound S where
  attempt n job activity ha := by simp [h.attempt n] at ha
  runId := h.runId
  organizationId := h.organizationId
  finishedAt _ := h.finishedAt
  unstarted _ := h.run
  lease ha := by simp [h.job, BackgroundJobStatus.isActive] at ha
  saves := .inl h.saves
  results hr := absurd h.results hr
  returned n job activity ha := by simp [h.attempt n] at ha
  succeeded hs := by simp [h.job] at hs

section Enqueue

variable {record : BackgroundJobRecord} {db : Database}

theorem resultsOf_stored (hs : JobStored w.db record db) : db.resultsOf = w.db.resultsOf := by
  funext r
  rw [Database.resultsOf, hs.results]
  rfl

theorem auditEventsOf_stored (hs : JobStored w.db record db) :
    db.auditEventsOf = w.db.auditEventsOf := by
  funext r
  rw [Database.auditEventsOf, hs.auditEvents]
  rfl

/-- No worker attempts a job that is not stored. -/
theorem not_attempted (hv : w.Valid S) {j : UUID} (hnone : w.db.jobs.find j = none)
    (hp : w.phase n = .busy job activity) : job.id ≠ j := by
  intro he
  have hsome := hv.attempt n job activity hp
  rw [he, hnone] at hsome
  cases hsome

theorem view_stored (hs : JobStored w.db record db) {k : UUID} (hk : k ≠ record.id) :
    ({ w with db := db } : World).view k = w.view k := by
  simp only [World.view, hs.find, if_neg hk, hs.runs, resultsOf_stored hs, auditEventsOf_stored hs]
  rfl

/-- A queued job of a run that has none is fresh. -/
theorem fresh_stored (hv : w.Valid S) {run : ReconciliationRunRecord}
    (hrun : w.db.runs.find record.runId = some run)
    (horganizationId : run.organizationId = record.organizationId)
    (hstatus : record.status = .queued) (hnone : w.db.jobs.find record.id = none)
    (hno : ∀ job ∈ w.db.jobs.rows, job.runId ≠ record.runId) (hs : JobStored w.db record db) :
    ∃ v, ({ w with db := db } : World).view record.id = some v ∧ v.Fresh := by
  have hid : run.id = record.runId := Table.key_of_find hrun
  have hunqueued := hv.unqueued record.runId hno
  obtain ⟨hpending, hfinishedAt⟩ := hunqueued.run run hrun
  have hjob' : db.jobs.find record.id = some record := by rw [hs.find, if_pos rfl]
  have hrun' : db.runs.find record.runId = some run := by rw [hs.runs, hrun]
  refine ⟨_, view_of hjob' hrun', ?_⟩
  refine ⟨hstatus, hid, horganizationId, hpending, hfinishedAt, ?_, ?_, hv.lease _ hnone,
    hunqueued.started, hunqueued.saves, fun n => ?_⟩
  · rw [resultsOf_stored hs]
    exact hunqueued.results
  · rw [auditEventsOf_stored hs]
    exact hunqueued.auditEvents
  · refine Option.eq_none_iff_forall_not_mem.mpr fun attempt ha => ?_
    obtain ⟨job, activity⟩ := attempt
    obtain ⟨hp, he⟩ := attempt_eq_some.mp (Option.mem_def.mp ha)
    exact not_attempted hv hnone hp he

/-- The jobs that are found: the new one, and those that were found before. -/
theorem find_stored (hs : JobStored w.db record db) {j : UUID} {job : BackgroundJobRecord}
    (h : db.jobs.find j = some job) : job = record ∨ w.db.jobs.find j = some job := by
  rw [hs.find] at h
  split at h
  · exact .inl (Option.some.inj h).symm
  · exact .inr h

/-- A run without a job after the step had none before. -/
theorem unqueued_stored (hv : w.Valid S) (hnone : w.db.jobs.find record.id = none)
    (hs : JobStored w.db record db) {r : UUID} (hno : ∀ job ∈ db.jobs.rows, job.runId ≠ r) :
    ({ w with db := db } : World).Unqueued r := by
  have hold : ∀ job ∈ w.db.jobs.rows, job.runId ≠ r := by
    refine no_job_iff_find.mpr fun k hk => ?_
    have hne : k ≠ record.id := by
      rintro rfl
      simp [hnone] at hk
    refine no_job_iff_find.mp hno k ?_
    rw [hs.find, if_neg hne]
    exact hk
  have hu := hv.unqueued r hold
  exact ⟨hs.runs ▸ hu.run, hu.started, hu.saves, resultsOf_stored hs ▸ hu.results,
    auditEventsOf_stored hs ▸ hu.auditEvents⟩

theorem queued_store (hv : w.Valid S) {run : ReconciliationRunRecord}
    (hrun : w.db.runs.find record.runId = some run)
    (horganizationId : run.organizationId = record.organizationId)
    (hconfig : (w.db.configurations.find record.runId).isSome)
    (hstatus : record.status = .queued) (hnone : w.db.jobs.find record.id = none)
    (hno : ∀ job ∈ w.db.jobs.rows, job.runId ≠ record.runId) (hs : JobStored w.db record db) :
    Queued S w { w with db := db } record.id := by
  have hfresh := fresh_stored hv hrun horganizationId hstatus hnone hno hs
  refine ⟨fun k hk => view_stored hs hk, by simp [World.view, hnone], hfresh, ?_⟩
  refine ⟨fun n job activity hp => ?_, fun j job hjob => ?_, fun j job hjob => ?_, fun j v hj => ?_,
    fun r hno' => unqueued_stored hv hnone hs hno', fun j hj => ?_⟩
  · show (db.jobs.find job.id).isSome = true
    rw [hs.find, if_neg (not_attempted hv hnone hp)]
    exact hv.attempt n job activity hp
  · show (db.runs.find job.runId).isSome = true
    rw [hs.runs]
    rcases find_stored hs hjob with rfl | hold
    · rw [hrun]
      rfl
    · exact hv.run j job hold
  · show (db.configurations.find job.runId).isSome = true
    rw [hs.configurations]
    rcases find_stored hs hjob with rfl | hold
    · exact hconfig
    · exact hv.configuration j job hold
  · by_cases he : j = record.id
    · obtain ⟨u, hu, hf⟩ := hfresh
      subst he
      obtain rfl : u = v := Option.some.inj (hu.symm.trans hj)
      exact hf.sound
    · exact hv.sound j v ((view_stored hs he).symm.trans hj)
  · refine hv.lease j ?_
    replace hj : db.jobs.find j = none := hj
    rw [hs.find] at hj
    split at hj
    · cases hj
    · exact hj

end Enqueue

theorem evolves_execute (hv : w.Valid S) (runId organizationId jobId : UUID)
    (request : Api.ExecutionRequest) :
    Evolves (Moved S (.execute runId organizationId jobId request now)) w
        (w.after (Api.executeRun S.settings runId organizationId jobId request now)) ∨
      ∃ j, Queued S w
        (w.after (Api.executeRun S.settings runId organizationId jobId request now)) j := by
  unfold World.after
  cases hok : atomically (Api.executeRun S.settings runId organizationId jobId request now)
      w.db with
  | mk r db =>
    cases r with
    | error e =>
      obtain rfl := (of_atomically_error hok).1
      exact .inl (evolves_same hv Moved.refl rfl rfl rfl rfl fun _ _ _ => Iff.rfl)
    | ok record =>
      obtain ⟨run, hrun, horganizationId, -, hconfig, rfl, rfl, rfl, hstatus, hnone, hno, hs⟩ :=
        Api.runs_executeRun (atomically_ok.mp hok)
      exact .inr ⟨_, queued_store hv hrun horganizationId hconfig hstatus hnone hno hs⟩

/-! ### Every step -/

/-- A step evolves the jobs there are, each by a move or not at all, or queues a fresh job. -/
theorem evolves_step (hv : w.Valid S) {a : Action} {w' : World} (h : S.step w a = some w') :
    Evolves (Moved S a) w w' ∨ ∃ j, Queued S w w' j := by
  cases a with
  | poll | start | checkpoint | save | fail | close | finish | restart =>
    simp only [System.step] at h
    split at h
    · next hp =>
      cases h
      first
        | exact .inl (evolves_poll hv hp)
        | exact .inl (evolves_start hv hp _)
        | exact .inl (evolves_checkpoint hv hp _)
        | exact .inl (evolves_save hv hp)
        | exact .inl (evolves_fail hv hp)
        | exact .inl (evolves_close hv hp _)
        | exact .inl (evolves_finish hv hp)
        | exact .inl (evolves_leave hv _ rfl)
    · cases h
  | crash =>
    cases h
    exact .inl (evolves_leave hv _ rfl)
  | execute =>
    cases h
    exact evolves_execute hv _ _ _ _
  | cancel =>
    cases h
    exact .inl (evolves_cancel hv _ _)
  | retry =>
    cases h
    exact .inl (evolves_retry hv _ _)

end

variable {S : System} {w w' : World} {a : Action} {j : UUID}

/-- **A step makes a move of each job, or leaves it alone.** -/
theorem step_view (hv : w.Valid S) (h : S.step w a = some w') {v : View} (hj : w.view j = some v) :
    ∃ v', w'.view j = some v' ∧ Moved S a v v' := by
  rcases evolves_step hv h with h | ⟨k, h⟩
  · exact h.view j v hj
  · have hne : j ≠ k := by
      rintro rfl
      rw [h.absent] at hj
      cases hj
    exact ⟨v, (h.view j hne).trans hj, Moved.refl v⟩

/-- **A job that a step adds is fresh.** -/
theorem step_new (hv : w.Valid S) (h : S.step w a = some w') (hj : w.view j = none) {v : View}
    (hj' : w'.view j = some v) : v.Fresh := by
  rcases evolves_step hv h with h | ⟨k, h⟩
  · have hnone : w.db.jobs.find j = none := by
      by_contra hne
      obtain ⟨job, hjob⟩ := Option.ne_none_iff_exists'.mp hne
      obtain ⟨u, hu, -⟩ := hv.view hjob
      rw [hj] at hu
      cases hu
    have hmap := h.runId j
    rw [(view_eq_some hj').1, hnone] at hmap
    cases hmap
  · by_cases he : j = k
    · obtain ⟨u, hu, hf⟩ := h.fresh
      subst he
      obtain rfl : u = v := Option.some.inj (hu.symm.trans hj')
      exact hf
    · rw [h.view j he, hj] at hj'
      cases hj'

theorem World.Valid.step (hv : w.Valid S) (h : S.step w a = some w') : w'.Valid S := by
  rcases evolves_step hv h with h | ⟨k, h⟩
  · refine h.valid hv ?_
    rintro v v' (rfl | hm) hs
    · exact hs
    · exact hs.move hm
  · exact h.valid

theorem World.Initial.valid (h : w.Initial) : w.Valid S := by
  have hnone : ∀ j, w.db.jobs.find j = none := fun j => by simp [Table.find, h.jobs]
  refine ⟨fun n job activity hp => ?_, fun j job hj => ?_, fun j job hj => ?_, fun j v hj => ?_,
    fun r _ => ⟨fun run hf => ?_, h.started r, h.saves r, ?_, ?_⟩, fun j _ => h.lease j⟩
  · simp [h.phase n] at hp
  · simp [hnone j] at hj
  · simp [hnone j] at hj
  · simp [World.view, hnone j] at hj
  · obtain ⟨hstatus, -, hfinishedAt⟩ := h.runs run (Table.mem_of_find hf)
    exact ⟨hstatus, hfinishedAt⟩
  · simp [Database.resultsOf, h.results]
  · simp [Database.auditEventsOf, h.auditEvents]

/-! ### Runs -/

/-- The condition holds of every job and the action. -/
def EveryJob (G : Action → View → Bool) (w : World) (a : Action) : Prop :=
  ∀ job ∈ w.db.jobs.rows, (w.view job.id).all (G a) = true

instance (G : Action → View → Bool) (w : World) (a : Action) : Decidable (EveryJob G w a) :=
  inferInstanceAs (Decidable (∀ job ∈ w.db.jobs.rows, _))

theorem EveryJob.of_view {G : Action → View → Bool} (h : EveryJob G w a) {v : View}
    (hj : w.view j = some v) : G a v = true := by
  obtain ⟨hjob, -⟩ := view_eq_some hj
  have hall := h v.job (Table.mem_of_find hjob)
  rw [show v.job.id = j from Table.key_of_find hjob, hj] at hall
  exact hall

theorem reaches_valid {ok : World → Action → Prop} (hv : w.Valid S)
    (h : Reaches S.step ok w w') : w'.Valid S :=
  h.invariant (fun _ _ _ ht _ hs => ht.step hs) hv

/-- What fresh jobs have and every move keeps, under a condition on the steps, all jobs have in
every state of a run whose steps meet the condition. -/
theorem view_invariant {G : Action → View → Bool} {P : View → Prop}
    (hfresh : ∀ v, v.Fresh → P v)
    (hmove : ∀ a v v', v.Sound S → jobSchema.check v'.job = true → P v → G a v = true →
      Move S a v v' → P v')
    (hv : w.Valid S) (hw : ∀ j v, w.view j = some v → P v)
    (h : Reaches S.step (EveryJob G) w w') : ∀ j v, w'.view j = some v → P v := by
  refine (h.invariant (P := fun t => t.Valid S ∧ ∀ j v, t.view j = some v → P v) ?_ ⟨hv, hw⟩).2
  rintro t a u ⟨ht, hP⟩ hok hs
  refine ⟨ht.step hs, fun j v' hj' => ?_⟩
  cases hj : t.view j with
  | none => exact hfresh v' (step_new ht hs hj hj')
  | some v =>
    obtain ⟨u', hu', hmoved⟩ := step_view ht hs hj
    obtain rfl : u' = v' := Option.some.inj (hu'.symm.trans hj')
    rcases hmoved with rfl | hm
    · exact hP j u' hj
    · have hcheck : jobSchema.check u'.job = true := Table.check_of_find (view_eq_some hu').1
      exact hmove a v u' (ht.sound j v hj) hcheck (hP j v hj) (hok.of_view hj) hm

end ReconcileFlow.Worker
