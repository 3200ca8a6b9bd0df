import ReconcileFlow.Worker.Simulation

/-!
# Worker — Saving

The results of a run are saved once, whatever the interleaving (`saved_once`): a transaction that
writes them needs the run RUNNING and leaves it SUCCEEDED, and nothing takes a run out of
SUCCEEDED.  Up to `step_saves` the argument is about the moves of one job; from there it is about
runs, with a job or without.
-/

namespace ReconcileFlow.Worker

open Support Persistence

variable {S : System}

/-! ### Moves -/

/-- No move takes the run out of SUCCEEDED. -/
theorem Move.succeeded {a : Action} {v v' : View} (hm : Move S a v v')
    (hs : v.run.status = .succeeded) : v'.run.status = .succeeded := by
  cases hm with
  | start _ hp => simp [hs] at hp
  | save => rfl
  | fail _ hr => simp [hs] at hr
  | retry _ _ hf => simp [hs] at hf
  | sweep => rw [View.swept_run]; exact hs
  | claim hu =>
    subst hu
    show (v.swept _ _).run.status = _
    rw [View.swept_run]
    exact hs
  | _ => exact hs

/-- A move that writes results is the first to do so. -/
theorem Move.saves {a : Action} {v v' : View} (hm : Move S a v v') (h : v.Sound S) :
    v'.results = v.results ∧ v'.saves = v.saves ∨
      v.results = [] ∧ v.saves = 0 ∧ v'.saves = 1 := by
  cases hm with
  | save _ hs =>
    have hne : v.run.status ≠ .succeeded := by simp [hs]
    have hzero := h.saves_eq_zero hne
    refine .inr ⟨h.results_eq_nil hne, hzero, ?_⟩
    show v.saves + 1 = 1
    rw [hzero]
  | sweep =>
    unfold View.swept
    split <;> exact .inl ⟨rfl, rfl⟩
  | claim hu =>
    subst hu
    unfold View.swept
    split <;> exact .inl ⟨rfl, rfl⟩
  | _ => exact .inl ⟨rfl, rfl⟩

/-! ### Runs with a job and without -/

/-- The run with this id is the run of a job's view, or nothing has happened to it yet. -/
theorem World.Valid.run_cases {w : World} (hv : w.Valid S) (r : UUID) :
    (∃ j v, w.view j = some v ∧ v.job.runId = r) ∨
      (∀ job ∈ w.db.jobs.rows, job.runId ≠ r) ∧ w.Unqueued r := by
  by_cases hno : ∀ job ∈ w.db.jobs.rows, job.runId ≠ r
  · exact .inr ⟨hno, hv.unqueued r hno⟩
  · push Not at hno
    obtain ⟨job, hm, hr⟩ := hno
    obtain ⟨v, hview, rfl⟩ := hv.view (Table.find_of_mem hm)
    exact .inl ⟨_, v, hview, hr⟩

/-- What a view shows of its run is what the world has of it. -/
theorem run_of_view {w : World} {j : UUID} {v : View} (h : w.view j = some v) :
    w.runStatus v.job.runId = some v.run.status ∧ w.db.resultsOf v.job.runId = v.results ∧
      w.saves v.job.runId = v.saves := by
  obtain ⟨-, hrun, hv⟩ := view_eq_some h
  refine ⟨by rw [World.runStatus, hrun]; rfl, ?_, ?_⟩ <;> rw [hv]

section

variable {w w' : World} {a : Action}

/-- A run that no job had, and that has one after a step, is that of a fresh job. -/
theorem fresh_of_step (hv : w.Valid S) (h : S.step w a = some w') {r : UUID}
    (hno : ∀ job ∈ w.db.jobs.rows, job.runId ≠ r) {j : UUID} {v' : View}
    (hj' : w'.view j = some v') (hr : v'.job.runId = r) : v'.Fresh := by
  cases hj : w.view j with
  | none => exact step_new hv h hj hj'
  | some v =>
    obtain ⟨u, hu, hmoved⟩ := step_view hv h hj
    obtain rfl : u = v' := Option.some.inj (hu.symm.trans hj')
    have hrunId : u.job.runId = v.job.runId := by
      rcases hmoved with rfl | hm
      · rfl
      · exact hm.sameJob.runId
    exact absurd (hrunId.symm.trans hr) (hno v.job (Table.mem_of_find (view_eq_some hj).1))

/-- A step that writes results of a run is the first to do so. -/
theorem step_saves (hv : w.Valid S) (h : S.step w a = some w') (r : UUID) :
    w'.db.resultsOf r = w.db.resultsOf r ∧ w'.saves r = w.saves r ∨
      w.db.resultsOf r = [] ∧ w.saves r = 0 ∧ w'.saves r = 1 := by
  rcases hv.run_cases r with ⟨j, v, hj, rfl⟩ | ⟨hno, hu⟩
  · obtain ⟨v', hj', hmoved⟩ := step_view hv h hj
    obtain ⟨-, hresults, hsaves⟩ := run_of_view hj
    obtain ⟨-, hresults', hsaves'⟩ := run_of_view hj'
    rcases hmoved with rfl | hm
    · exact .inl ⟨hresults'.trans hresults.symm, hsaves'.trans hsaves.symm⟩
    · rw [hm.sameJob.runId] at hresults' hsaves'
      rw [hresults, hsaves, hresults', hsaves']
      exact hm.saves (hv.sound j v hj)
  · refine .inl ?_
    rw [hu.results, hu.saves]
    rcases (hv.step h).run_cases r with ⟨j, v', hj', hr⟩ | ⟨-, hu'⟩
    · have hfresh := fresh_of_step hv h hno hj' hr
      obtain ⟨-, hresults', hsaves'⟩ := run_of_view hj'
      rw [← hr, hresults', hsaves']
      exact ⟨hfresh.results, hfresh.saves⟩
    · exact ⟨hu'.results, hu'.saves⟩

/-- No step takes a run out of SUCCEEDED. -/
theorem step_succeeded (hv : w.Valid S) (h : S.step w a = some w') {r : UUID}
    (hs : w.runStatus r = some .succeeded) : w'.runStatus r = some .succeeded := by
  rcases hv.run_cases r with ⟨j, v, hj, rfl⟩ | ⟨-, hu⟩
  · obtain ⟨v', hj', hmoved⟩ := step_view hv h hj
    obtain ⟨hstatus, -⟩ := run_of_view hj
    obtain ⟨hstatus', -⟩ := run_of_view hj'
    have hsucceeded : v.run.status = .succeeded := Option.some.inj (hstatus.symm.trans hs)
    rcases hmoved with rfl | hm
    · rw [hstatus', hsucceeded]
    · rw [hm.sameJob.runId] at hstatus'
      rw [hstatus', hm.succeeded hsucceeded]
  · obtain ⟨run, hrun, hstatus⟩ := Option.map_eq_some_iff.mp hs
    obtain ⟨hpending, -⟩ := hu.run run hrun
    rw [hpending] at hstatus
    cases hstatus

/-! ### States -/

/-- In a valid world results mean that one transaction wrote them and the run has succeeded. -/
theorem World.Valid.saved (hv : w.Valid S) (r : UUID) :
    w.saves r ≤ 1 ∧
      (w.db.resultsOf r ≠ [] → w.saves r = 1 ∧ w.runStatus r = some .succeeded) := by
  rcases hv.run_cases r with ⟨j, v, hj, rfl⟩ | ⟨-, hu⟩
  · have hsound := hv.sound j v hj
    obtain ⟨hstatus, hresults, hsaves⟩ := run_of_view hj
    rw [hstatus, hresults, hsaves]
    rcases hsound.saves with hzero | ⟨hone, hsucceeded⟩
    · refine ⟨by omega, fun hr => ?_⟩
      have := hsound.results hr
      omega
    · exact ⟨by omega, fun _ => ⟨hone, by rw [hsucceeded]⟩⟩
  · rw [hu.saves]
    exact ⟨by omega, fun hr => absurd hu.results hr⟩

theorem World.Valid.succeeded (hv : w.Valid S) {j : UUID} {job : BackgroundJobRecord}
    (hjob : w.db.jobs.find j = some job) (hs : job.status = .succeeded) :
    w.runStatus job.runId = some .succeeded := by
  obtain ⟨v, hj, rfl⟩ := hv.view hjob
  rw [(run_of_view hj).1, (hv.sound j v hj).succeeded hs]

/-- From a valid world on, a SUCCEEDED run stays so and results that are there stay as they are. -/
theorem World.Valid.stays (hv : w.Valid S) (h : Reaches S.step Always w w') (r : UUID) :
    (w.runStatus r = some .succeeded → w'.runStatus r = some .succeeded) ∧
      (w.db.resultsOf r ≠ [] → w'.db.resultsOf r = w.db.resultsOf r) := by
  induction h with
  | refl => exact ⟨id, fun _ => rfl⟩
  | tail hreach _ hs ih =>
    have ht := reaches_valid hv hreach
    refine ⟨fun hr => step_succeeded ht hs (ih.1 hr), fun hr => ?_⟩
    have hsame := ih.2 hr
    rcases step_saves ht hs r with ⟨hresults, -⟩ | ⟨hnil, -⟩
    · exact hresults.trans hsame
    · exact absurd (hsame.symm.trans hnil) hr

end

/-- **Results are saved at most once, and only by success.**  In every reachable state: at most one
transaction has written results of a run; there are some only if the run is SUCCEEDED; a step that
changes them is the one that wrote; a SUCCEEDED run stays SUCCEEDED with the same results; and a
SUCCEEDED job has a SUCCEEDED run. -/
theorem saved_once {w₀ w : World} (h₀ : w₀.Initial) (h : Reaches S.step Always w₀ w) :
    (∀ r, w.saves r ≤ 1) ∧
      (∀ r, w.db.resultsOf r ≠ [] → w.saves r = 1 ∧ w.runStatus r = some .succeeded) ∧
      (∀ a w' r, S.step w a = some w' → w'.db.resultsOf r ≠ w.db.resultsOf r →
        w.saves r = 0 ∧ w'.saves r = 1) ∧
      (∀ w' r, Reaches S.step Always w w' →
        (w.runStatus r = some .succeeded → w'.runStatus r = some .succeeded) ∧
          (w.db.resultsOf r ≠ [] → w'.db.resultsOf r = w.db.resultsOf r)) ∧
      ∀ j job, w.db.jobs.find j = some job → job.status = .succeeded →
        w.runStatus job.runId = some .succeeded := by
  have hv : w.Valid S := reaches_valid h₀.valid h
  refine ⟨fun r => (hv.saved r).1, fun r => (hv.saved r).2, fun a w' r hs hne => ?_,
    fun w' r h' => hv.stays h' r, fun j job hjob hs => hv.succeeded hjob hs⟩
  rcases step_saves hv hs r with ⟨hsame, -⟩ | ⟨-, hzero, hone⟩
  · exact absurd hsame hne
  · exact ⟨hzero, hone⟩

/-- An invoice that nothing pays, which the run reports. -/
def unpaidInvoice : ERPInvoice where
  invoiceId := "INV-1"
  invoiceNumber := "2024-001"
  invoiceType := .invoice
  status := .open
  issueDate := 738000
  currency := "EUR"
  amountDue := .ofInt 100
  invoiceId_text := .refl true
  invoiceNumber_text := .refl true
  currency_valid := .refl true

/-- An execution that one worker takes through all its stages. -/
def oneExecution : List Action :=
  let loaded := Except.ok ⟨[], [unpaidInvoice], []⟩
  [.execute 1 1 7 {} 0, .poll 0 0, .start 0 0 none] ++
    List.replicate 6 (.checkpoint 0 0 loaded) ++ [.save 0 0, .close 0 none, .finish 0 0]

theorem saved_once_oneExecution : ∃ w, Reaches twoWorkers.step Always onePending w ∧
    w.db.resultsOf 1 ≠ [] ∧ w.saves 1 = 1 ∧ w.runStatus 1 = some .succeeded := by
  have hrun : (exec twoWorkers.step Always oneExecution onePending).any
      (fun w => decide (w.db.resultsOf 1 ≠ [])) = true := by decide +kernel
  obtain ⟨w, hw, hne⟩ := (Option.any_eq_true _ _).mp hrun
  have hreach := reaches_of_exec hw
  have hresults : w.db.resultsOf 1 ≠ [] := by simpa using hne
  exact ⟨w, hreach, hresults, (saved_once onePending_initial hreach).2.1 1 hresults⟩

end ReconcileFlow.Worker
