import ReconcileFlow.Worker.Lifecycle

/-!
# Worker — Evolution

How a step of the system is told from what its transaction stored.  A transaction at one job leaves
the rest of the database alone (`AgreeExcept`), a step at one job the rest of the world (`Local`);
such a step is told by the view of that job before and after (`Local.evolves`, `evolves_go`).

In a `Valid` world attempts and jobs refer to what exists, and every job's view is sound; `Evolves`
relates the views of two worlds with the same jobs.
-/

namespace ReconcileFlow.Worker

open Support Support.Transaction Persistence ReconciliationJobProcessor
open Audit (AuditTrail)

/-! ### What a transaction leaves alone -/

/-- The databases agree on everything but this job, this run and what is stored for the run. -/
structure AgreeExcept (jobId runId : UUID) (db db' : Database) : Prop where
  jobs : ∀ k, k ≠ jobId → db'.jobs.find k = db.jobs.find k
  runs : ∀ k, k ≠ runId → db'.runs.find k = db.runs.find k
  results : ∀ k, k ≠ runId → db'.resultsOf k = db.resultsOf k
  auditEvents : ∀ k, k ≠ runId → db'.auditEventsOf k = db.auditEventsOf k
  configurations : db'.configurations = db.configurations

namespace AgreeExcept

variable {jobId runId : UUID} {db db' db'' : Database}

theorem refl : AgreeExcept jobId runId db db :=
  ⟨fun _ _ => rfl, fun _ _ => rfl, fun _ _ => rfl, fun _ _ => rfl, rfl⟩

theorem trans (h : AgreeExcept jobId runId db db') (h' : AgreeExcept jobId runId db' db'') :
    AgreeExcept jobId runId db db'' where
  jobs k hk := (h'.jobs k hk).trans (h.jobs k hk)
  runs k hk := (h'.runs k hk).trans (h.runs k hk)
  results k hk := (h'.results k hk).trans (h.results k hk)
  auditEvents k hk := (h'.auditEvents k hk).trans (h.auditEvents k hk)
  configurations := h'.configurations.trans h.configurations

theorem jobStored {job : BackgroundJobRecord} (h : JobStored db job db') :
    AgreeExcept job.id runId db db' where
  jobs k hk := by rw [h.find, if_neg hk]
  runs _ _ := by rw [h.runs]
  results k _ := by rw [Database.resultsOf, h.results]; rfl
  auditEvents k _ := by rw [Database.auditEventsOf, h.auditEvents]; rfl
  configurations := h.configurations

theorem runStored {run : ReconciliationRunRecord} (h : RunStored db run db') :
    AgreeExcept jobId run.id db db' where
  jobs _ _ := by rw [h.jobs]
  runs k hk := by rw [h.find, if_neg hk]
  results k _ := by rw [Database.resultsOf, h.results]; rfl
  auditEvents k _ := by rw [Database.auditEventsOf, h.auditEvents]; rfl
  configurations := h.configurations

theorem auditAppended {events : List Audit.AuditEvent} (h : AuditAppended db runId events db') :
    AgreeExcept jobId runId db db' := by
  obtain ⟨t, records, ht, rfl, -, hrun⟩ := h
  refine ⟨fun _ _ => rfl, fun _ _ => rfl, fun _ _ => rfl, fun k hk => ?_, rfl⟩
  have hnone : records.filter (fun record => decide (record.runId = k)) = [] :=
    List.filter_eq_nil_iff.mpr fun record hm => by simp [hrun record hm, hk.symm]
  simp [Database.auditEventsOf, ht, hnone]

theorem resultsAdded {t : Table resultSchema}
    {results : List Reconciliation.ReconciliationResult}
    (ht : t.rows = db.results.rows ++ results.map (⟨runId, ·⟩)) :
    AgreeExcept jobId runId db { db with results := t } := by
  refine ⟨fun _ _ => rfl, fun _ _ => rfl, fun k hk => ?_, fun _ _ => rfl, rfl⟩
  have hnone : (results.map fun result => (⟨runId, result⟩ : ReconciliationResultRecord)).filter
      (fun record => decide (record.runId = k)) = [] :=
    List.filter_eq_nil_iff.mpr fun record hm => by
      obtain ⟨_, -, rfl⟩ := List.mem_map.mp hm
      simpa using hk.symm
  simp [Database.resultsOf, ht, hnone]

end AgreeExcept

/-! ### Views of a world -/

theorem view_eq_some {w : World} {j : UUID} {v : View} (h : w.view j = some v) :
    w.db.jobs.find j = some v.job ∧ w.db.runs.find v.job.runId = some v.run ∧
      v = {
        job := v.job, run := v.run
        results := w.db.resultsOf v.job.runId
        auditEvents := w.db.auditEventsOf v.job.runId
        lease := w.lease j
        started := w.started v.job.runId
        saves := w.saves v.job.runId
        attempt := w.attempt j } := by
  obtain ⟨job, hjob, h⟩ := Option.bind_eq_some_iff.mp h
  obtain ⟨run, hrun, rfl⟩ := Option.map_eq_some_iff.mp h
  exact ⟨hjob, hrun, rfl⟩

theorem view_of {w : World} {j : UUID} {job : BackgroundJobRecord} {run : ReconciliationRunRecord}
    (hjob : w.db.jobs.find j = some job) (hrun : w.db.runs.find job.runId = some run) :
    w.view j = some {
      job, run
      results := w.db.resultsOf job.runId
      auditEvents := w.db.auditEventsOf job.runId
      lease := w.lease j
      started := w.started job.runId
      saves := w.saves job.runId
      attempt := w.attempt j } := by
  simp [World.view, hjob, hrun]

theorem attempt_eq_some {w : World} {j : UUID} {n : ℕ} {job : WorkerJob} {activity : Activity} :
    w.attempt j n = some (job, activity) ↔ w.phase n = .busy job activity ∧ job.id = j := by
  unfold World.attempt
  split
  · next job' activity' hp =>
    rw [hp]
    split
    · next hid =>
      simp only [Option.some.injEq, Prod.mk.injEq, Phase.busy.injEq]
      exact ⟨fun ⟨h₁, h₂⟩ => ⟨⟨h₁, h₂⟩, h₁ ▸ hid⟩, fun ⟨⟨h₁, h₂⟩, _⟩ => ⟨h₁, h₂⟩⟩
    · next hid =>
      simp only [Phase.busy.injEq, reduceCtorEq, false_iff]
      rintro ⟨⟨rfl, -⟩, h⟩
      exact hid h
  · next hp =>
    simp only [reduceCtorEq, false_iff]
    exact fun h => hp _ _ h.1

/-- Different jobs are of different runs. -/
theorem runId_ne {db : Database} {j k : UUID} {job job' : BackgroundJobRecord}
    (hj : db.jobs.find j = some job) (hk : db.jobs.find k = some job') (hne : k ≠ j) :
    job'.runId ≠ job.runId := by
  intro h
  have heq := Table.eq_of_clash (Table.mem_of_find hk) (Table.mem_of_find hj)
    (by simpa [jobSchema] using h)
  exact hne ((Table.key_of_find hk).symm.trans (heq ▸ Table.key_of_find hj))

/-! ### Valid worlds -/

/-- Nothing has happened to the run with this id yet, if there is one. -/
structure World.Unqueued (w : World) (runId : UUID) : Prop where
  run : ∀ run, w.db.runs.find runId = some run → run.status = .pending ∧ run.finishedAt = none
  started : w.started runId = false
  saves : w.saves runId = 0
  results : w.db.resultsOf runId = []
  auditEvents : w.db.auditEventsOf runId = []

structure World.Valid (S : System) (w : World) : Prop where
  attempt : ∀ n job activity, w.phase n = .busy job activity → (w.db.jobs.find job.id).isSome
  run : ∀ j job, w.db.jobs.find j = some job → (w.db.runs.find job.runId).isSome
  configuration : ∀ j job, w.db.jobs.find j = some job →
    (w.db.configurations.find job.runId).isSome
  sound : ∀ j v, w.view j = some v → v.Sound S
  unqueued : ∀ r, (∀ job ∈ w.db.jobs.rows, job.runId ≠ r) → w.Unqueued r
  lease : ∀ j, w.db.jobs.find j = none → w.lease j = none

theorem World.Valid.view {S : System} {w : World} (hv : w.Valid S) {j : UUID}
    {job : BackgroundJobRecord} (hjob : w.db.jobs.find j = some job) :
    ∃ v, w.view j = some v ∧ v.job = job := by
  obtain ⟨run, hrun⟩ := Option.isSome_iff_exists.mp (hv.run j job hjob)
  exact ⟨_, view_of hjob hrun, rfl⟩

/-- No job is of the run, told by what is found. -/
theorem no_job_iff_find {db : Database} {r : UUID} :
    (∀ job ∈ db.jobs.rows, job.runId ≠ r) ↔ ∀ j, (db.jobs.find j).map (·.runId) ≠ some r := by
  constructor
  · intro h j hj
    obtain ⟨job, hjob, hr⟩ := Option.map_eq_some_iff.mp hj
    exact h job (Table.mem_of_find hjob) hr
  · intro h job hm hr
    refine h job.id ?_
    rw [show db.jobs.find job.id = some job from Table.find_of_mem hm]
    exact congrArg some hr

/-- The same jobs, each with a view related to the one before; runs without a job as before. -/
structure Evolves (R : View → View → Prop) (w w' : World) : Prop where
  view : ∀ j v, w.view j = some v → ∃ v', w'.view j = some v' ∧ R v v'
  runId : ∀ j, (w'.db.jobs.find j).map (·.runId) = (w.db.jobs.find j).map (·.runId)
  configurations : w'.db.configurations = w.db.configurations
  attempt : ∀ n job activity, w'.phase n = .busy job activity → (w.db.jobs.find job.id).isSome
  unqueued : ∀ r, (∀ job ∈ w.db.jobs.rows, job.runId ≠ r) → w.Unqueued r → w'.Unqueued r
  lease : ∀ j, w.db.jobs.find j = none → w'.lease j = w.lease j

namespace Evolves

variable {R R' : View → View → Prop} {S : System} {w w' w'' : World}

theorem mono (hsub : ∀ v v', R v v' → R' v v') (h : Evolves R w w') : Evolves R' w w' :=
  { h with
    view := fun j v hj =>
      let ⟨v', hj', hr⟩ := h.view j v hj
      ⟨v', hj', hsub v v' hr⟩ }

theorem isSome_iff (h : Evolves R w w') (j : UUID) :
    (w'.db.jobs.find j).isSome ↔ (w.db.jobs.find j).isSome := by
  have hmap := congrArg Option.isSome (h.runId j)
  simp only [Option.isSome_map] at hmap
  rw [hmap]

theorem no_job_iff (h : Evolves R w w') (r : UUID) :
    (∀ job ∈ w'.db.jobs.rows, job.runId ≠ r) ↔ ∀ job ∈ w.db.jobs.rows, job.runId ≠ r := by
  rw [no_job_iff_find, no_job_iff_find]
  simp only [h.runId]

theorem trans (h : Evolves R w w') (h' : Evolves R' w' w'') :
    Evolves (fun v v'' => ∃ v', R v v' ∧ R' v' v'') w w'' where
  view j v hj := by
    obtain ⟨v', hj', hr⟩ := h.view j v hj
    obtain ⟨v'', hj'', hr'⟩ := h'.view j v' hj'
    exact ⟨v'', hj'', v', hr, hr'⟩
  runId j := (h'.runId j).trans (h.runId j)
  configurations := h'.configurations.trans h.configurations
  attempt n job activity hp := (h.isSome_iff _).mp (h'.attempt n job activity hp)
  unqueued r hr hu := h'.unqueued r ((h.no_job_iff r).mpr hr) (h.unqueued r hr hu)
  lease j hj := by
    have hj' : w'.db.jobs.find j = none := by simpa [hj] using h.isSome_iff j
    exact (h'.lease j hj').trans (h.lease j hj)

/-- A step that keeps every view sound keeps the world valid. -/
theorem valid (hv : w.Valid S) (h : Evolves R w w')
    (hsound : ∀ v v', R v v' → v.Sound S → v'.Sound S) : w'.Valid S where
  attempt n job activity hp := (h.isSome_iff _).mpr (h.attempt n job activity hp)
  run j job hjob := by
    obtain ⟨old, hold⟩ := Option.isSome_iff_exists.mp
      ((h.isSome_iff j).mp (Option.isSome_iff_exists.mpr ⟨job, hjob⟩))
    obtain ⟨v, hview, -⟩ := hv.view hold
    obtain ⟨v', hview', -⟩ := h.view j v hview
    obtain ⟨hjob', hrun', -⟩ := view_eq_some hview'
    obtain rfl : job = v'.job := Option.some.inj (hjob.symm.trans hjob')
    exact Option.isSome_iff_exists.mpr ⟨_, hrun'⟩
  configuration j job hjob := by
    have hmap := h.runId j
    rw [hjob] at hmap
    obtain ⟨old, hold, hr⟩ := Option.map_eq_some_iff.mp hmap.symm
    rw [h.configurations, ← show old.runId = job.runId from hr]
    exact hv.configuration j old hold
  sound j v' hview' := by
    obtain ⟨hjob', -⟩ := view_eq_some hview'
    obtain ⟨old, hold⟩ := Option.isSome_iff_exists.mp
      ((h.isSome_iff j).mp (Option.isSome_iff_exists.mpr ⟨_, hjob'⟩))
    obtain ⟨v, hview, -⟩ := hv.view hold
    obtain ⟨u, hu, hr⟩ := h.view j v hview
    obtain rfl : u = v' := Option.some.inj (hu.symm.trans hview')
    exact hsound v u hr (hv.sound j v hview)
  unqueued r hr :=
    have hr' := (h.no_job_iff r).mp hr
    h.unqueued r hr' (hv.unqueued r hr')
  lease j hj := by
    have hj' : w.db.jobs.find j = none := by simpa [hj] using (h.isSome_iff j).symm
    exact (h.lease j hj').trans (hv.lease j hj')

end Evolves

/-! ### Steps at one job -/

/-- The worlds agree on everything but this job, its run and the attempts at it. -/
structure Local (j : UUID) (runId : UUID) (w w' : World) : Prop where
  db : AgreeExcept j runId w.db w'.db
  lease : ∀ k, k ≠ j → w'.lease k = w.lease k
  started : ∀ r, r ≠ runId → w'.started r = w.started r
  saves : ∀ r, r ≠ runId → w'.saves r = w.saves r
  attempt : ∀ n job activity, job.id ≠ j →
    (w'.phase n = .busy job activity ↔ w.phase n = .busy job activity)

namespace Local

variable {R : View → View → Prop} {S : System} {w w' : World} {j : UUID}

/-- Other jobs look the same. -/
theorem view {r k : UUID} (h : Local j r w w') (hk : k ≠ j)
    (hr : ∀ job, w.db.jobs.find k = some job → job.runId ≠ r) : w'.view k = w.view k := by
  unfold World.view
  rw [h.db.jobs k hk]
  cases hjob : w.db.jobs.find k with
  | none => rfl
  | some job =>
    have hne := hr job hjob
    have hattempt : w'.attempt k = w.attempt k := by
      funext n
      refine Option.ext fun ⟨job, activity⟩ => ?_
      simp only [attempt_eq_some]
      constructor
      · rintro ⟨hp, rfl⟩
        exact ⟨(h.attempt n job activity hk).mp hp, rfl⟩
      · rintro ⟨hp, rfl⟩
        exact ⟨(h.attempt n job activity hk).mpr hp, rfl⟩
    simp only [Option.bind_some, h.db.runs _ hne, h.db.results _ hne, h.db.auditEvents _ hne,
      h.lease k hk, h.started _ hne, h.saves _ hne, hattempt]

/-- A step at one job is told by what it does to the view of that job. -/
theorem evolves {v v' : View} (hv : w.Valid S) (hview : w.view j = some v)
    (h : Local j v.job.runId w w') (hview' : w'.view j = some v')
    (hrunId : v'.job.runId = v.job.runId) (hr : R v v') (hrefl : ∀ v, R v v) :
    Evolves R w w' := by
  obtain ⟨hjob, -⟩ := view_eq_some hview
  obtain ⟨hjob', -⟩ := view_eq_some hview'
  have hrun : ∀ r, (∀ job ∈ w.db.jobs.rows, job.runId ≠ r) → r ≠ v.job.runId :=
    fun r hno he => hno v.job (Table.mem_of_find hjob) he.symm
  refine ⟨fun k u hk => ?_, fun k => ?_, h.db.configurations, fun n job activity hp => ?_,
    fun r hno hu => ?_, fun k hk => ?_⟩
  · by_cases he : k = j
    · subst he
      obtain rfl : v = u := Option.some.inj (hview.symm.trans hk)
      exact ⟨v', hview', hr⟩
    · have hsame := h.view he fun job hj => runId_ne hjob hj he
      exact ⟨u, hsame.trans hk, hrefl u⟩
  · by_cases he : k = j
    · rw [he, hjob, hjob']
      exact congrArg some hrunId
    · rw [h.db.jobs k he]
  · by_cases he : job.id = j
    · exact Option.isSome_iff_exists.mpr ⟨_, he ▸ hjob⟩
    · exact hv.attempt n job activity ((h.attempt n job activity he).mp hp)
  · have hne := hrun r hno
    exact ⟨fun run hf => hu.run run ((h.db.runs r hne).symm.trans hf),
      (h.started _ hne).trans hu.started, (h.saves _ hne).trans hu.saves,
      (h.db.results _ hne).trans hu.results, (h.db.auditEvents _ hne).trans hu.auditEvents⟩
  · refine h.lease k fun he => ?_
    rw [he, hjob] at hk
    cases hk

end Local

/-- What of a view is in the database. -/
structure Shows (db : Database) (j : UUID) (v : View) : Prop where
  job : db.jobs.find j = some v.job
  run : db.runs.find v.job.runId = some v.run
  results : db.resultsOf v.job.runId = v.results
  auditEvents : db.auditEventsOf v.job.runId = v.auditEvents

theorem shows_of_view {w : World} {j : UUID} {v : View} (h : w.view j = some v) :
    Shows w.db j v := by
  obtain ⟨hjob, hrun, hv⟩ := view_eq_some h
  rw [hv]
  exact ⟨hjob, hrun, rfl, rfl⟩

namespace Shows

variable {db db' : Database} {j : UUID} {v : View}

theorem storeJob (h : Shows db j v) {record : BackgroundJobRecord} (hs : JobStored db record db')
    (hid : record.id = j) (hrunId : record.runId = v.job.runId) :
    Shows db' j { v with job := record } where
  job := by rw [hs.find, if_pos hid.symm]
  run := by rw [hs.runs, hrunId]; exact h.run
  results := by rw [hrunId, Database.resultsOf, hs.results]; exact h.results
  auditEvents := by rw [hrunId, Database.auditEventsOf, hs.auditEvents]; exact h.auditEvents

theorem storeRun (h : Shows db j v) {run : ReconciliationRunRecord} (hs : RunStored db run db')
    (hid : run.id = v.job.runId) : Shows db' j { v with run := run } where
  job := by rw [hs.jobs]; exact h.job
  run := by rw [hs.find, if_pos hid.symm]
  results := by rw [Database.resultsOf, hs.results]; exact h.results
  auditEvents := by rw [Database.auditEventsOf, hs.auditEvents]; exact h.auditEvents

theorem appendAudit (h : Shows db j v) {runId : UUID} {events : List Audit.AuditEvent}
    (hs : AuditAppended db runId events db') :
    Shows db' j { v with auditEvents := db'.auditEventsOf v.job.runId } := by
  obtain ⟨t, records, -, rfl, -, -⟩ := hs
  exact ⟨h.job, h.run, h.results, rfl⟩

end Shows

/-- The attempt that a phase is. -/
def Phase.attempt : Phase → Option (WorkerJob × Activity)
  | .busy job activity => some (job, activity)
  | _ => none

theorem Phase.attempt_eq_some {phase : Phase} {job : WorkerJob} {activity : Activity} :
    phase.attempt = some (job, activity) ↔ phase = .busy job activity := by
  cases phase <;> simp [Phase.attempt]

section

variable {w w' : World} {n : ℕ} {j : UUID} {phase : Phase}

/-- Worker `n` enters a phase at this job, or at none. -/
theorem attempt_of_phase (hphase : w'.phase = Function.update w.phase n phase)
    (hnew : ∀ job activity, phase = .busy job activity → job.id = j) :
    w'.attempt j = Function.update (w.attempt j) n phase.attempt := by
  funext m
  unfold World.attempt
  simp only [hphase, Function.update_apply]
  by_cases hm : m = n
  · rw [if_pos hm, if_pos hm]
    cases phase with
    | busy job activity => simp [Phase.attempt, hnew job activity rfl]
    | _ => rfl
  · rw [if_neg hm, if_neg hm]

/-- It leaves the attempts at other jobs alone. -/
theorem phase_iff_of_ne (hphase : w'.phase = Function.update w.phase n phase)
    (hnew : ∀ job activity, phase = .busy job activity → job.id = j)
    (hold : ∀ job activity, w.phase n = .busy job activity → job.id = j) (m : ℕ) (job : WorkerJob)
    (activity : Activity) (hne : job.id ≠ j) :
    w'.phase m = .busy job activity ↔ w.phase m = .busy job activity := by
  rw [hphase, Function.update_apply]
  split
  · next hm =>
    rw [hm]
    exact ⟨fun h => absurd (hnew _ _ h) hne, fun h => absurd (hold _ _ h) hne⟩
  · exact Iff.rfl

end

/-- A step of the worker at work on a job, which goes to another phase at the same job. -/
theorem evolves_go {R : View → View → Prop} {S : System} {w w' : World} {n : ℕ} {job : WorkerJob}
    {activity : Activity} {phase : Phase} {v u : View} (hv : w.Valid S)
    (hview : w.view job.id = some v) (hp : w.phase n = .busy job activity)
    (hphase : w'.phase = Function.update w.phase n phase)
    (hbusy : ∀ job' activity', phase = .busy job' activity' → job' = job)
    (hdb : AgreeExcept job.id v.job.runId w.db w'.db) (hlease : w'.lease = w.lease)
    (hstarted : ∀ r, w'.started r = if r = v.job.runId then u.started else w.started r)
    (hsaves : ∀ r, w'.saves r = if r = v.job.runId then u.saves else w.saves r)
    (hu : Shows w'.db job.id u) (hrunId : u.job.runId = v.job.runId)
    (hkeeps : u.lease = v.lease ∧ u.attempt = v.attempt)
    (hr : R v (u.put n phase.attempt)) (hrefl : ∀ v, R v v) : Evolves R w w' := by
  have hnew : ∀ job' activity', phase = .busy job' activity' → job'.id = job.id :=
    fun _ _ h => congrArg WorkerJob.id (hbusy _ _ h)
  have hold : ∀ job' activity', w.phase n = .busy job' activity' → job'.id = job.id := by
    intro _ _ h
    rw [hp] at h
    cases h
    rfl
  have hlocal : Local job.id v.job.runId w w' :=
    ⟨hdb, fun _ _ => by rw [hlease], fun r hne => by rw [hstarted, if_neg hne],
      fun r hne => by rw [hsaves, if_neg hne], phase_iff_of_ne hphase hnew hold⟩
  have hattempt : w'.attempt job.id = (u.put n phase.attempt).attempt := by
    have hv' : v.attempt = w.attempt job.id := by rw [(view_eq_some hview).2.2]
    rw [attempt_of_phase hphase hnew, ← hv', ← hkeeps.2]
    rfl
  have hview' : w'.view job.id = some (u.put n phase.attempt) := by
    have hl : w.lease job.id = v.lease := by rw [(view_eq_some hview).2.2]
    rw [view_of hu.job hu.run, hu.results, hu.auditEvents, hlease, hl, ← hkeeps.1, hstarted, hsaves,
      if_pos hrunId, if_pos hrunId, hattempt]
    rfl
  exact hlocal.evolves hv hview hview' hrunId hr hrefl

end ReconcileFlow.Worker
