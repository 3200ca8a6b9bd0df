import ReconcileFlow.Worker.System

/-!
# Worker — Commits

A step of the system commits the transaction of its action, or leaves the database as it is
(`step_db`).  What all steps keep of the database is then shown transaction by transaction, each
taken apart by its own lemma.
-/

namespace ReconcileFlow.Worker

open Support Support.Transaction Persistence

/-- The transaction of the action takes the database of `w` to the last argument; a worker's is that
of the attempt it is at. -/
inductive Commits (S : System) (w : World) : Action → Database → Prop
  | poll {n : ℕ} {now : Instant} {claim : Option WorkerJob} {db : Database} :
      Runs ((S.worker n).poll now) w.db claim db → Commits S w (.poll n now) db
  | start {n : ℕ} {now : Instant} {storage : Option String} {job : WorkerJob}
      {i : Option (List SourceFileRecord × Reconciliation.ReconciliationConfig)} {db : Database} :
      w.phase n = .busy job .starting → Runs (ReconciliationJobProcessor.start job now) w.db i db →
      Commits S w (.start n now storage) db
  | checkpoint {n : ℕ} {now : Instant} {loaded : Except String Reconciliation.Inputs}
      {job : WorkerJob} {c : ReconciliationJobProcessor.Checkpoint}
      {progress : ReconciliationJobProcessor.Progress} {record : BackgroundJobRecord}
      {db : Database} :
      w.phase n = .busy job (.checkpointing c progress) →
      Runs ((S.worker n).checkpoint job c.percentage c.message now) w.db record db →
      Commits S w (.checkpoint n now loaded) db
  | save {n : ℕ} {now : Instant} {job : WorkerJob}
      {progress : ReconciliationJobProcessor.Progress} {written : Bool} {db : Database} :
      w.phase n = .busy job (.saving progress) →
      Runs (ReconciliationJobProcessor.save job progress now) w.db written db →
      Commits S w (.save n now) db
  | fail {n : ℕ} {now : Instant} {job : WorkerJob} {failure : Failure} {trail : Audit.AuditTrail}
      {db : Database} :
      w.phase n = .busy job (.failing failure trail) →
      Runs (ReconciliationJobProcessor.failRun job trail failure now) w.db () db →
      Commits S w (.fail n now) db
  | finish {n : ℕ} {now : Instant} {job : WorkerJob} {outcome : Option Failure}
      {record : BackgroundJobRecord} {db : Database} :
      w.phase n = .busy job (.finishing outcome) →
      Runs ((S.worker n).finish job outcome now) w.db record db → Commits S w (.finish n now) db
  | execute {runId organizationId jobId : UUID} {request : Api.ExecutionRequest} {now : Instant}
      {record : BackgroundJobRecord} {db : Database} :
      Runs (Api.executeRun S.settings runId organizationId jobId request now) w.db record db →
      Commits S w (.execute runId organizationId jobId request now) db
  | cancel {jobId organizationId : UUID} {now : Instant} {record : BackgroundJobRecord}
      {db : Database} :
      Runs (Api.cancelBackgroundJob jobId organizationId now) w.db record db →
      Commits S w (.cancel jobId organizationId now) db
  | retry {jobId organizationId : UUID} {now : Instant} {record : BackgroundJobRecord}
      {db : Database} :
      Runs (Api.retryBackgroundJob S.settings jobId organizationId now) w.db record db →
      Commits S w (.retry jobId organizationId now) db

variable {S : System} {w w' : World}

/-- A user's transaction commits or changes nothing. -/
theorem after_db {α : Type} (t : Session α) :
    (w.after t).db = w.db ∨ ∃ a, Runs t w.db a (w.after t).db := by
  unfold World.after
  cases hok : atomically t w.db with
  | mk r db =>
    cases r with
    | error e => exact .inl (of_atomically_error hok).1
    | ok a => exact .inr ⟨a, atomically_ok.mp hok⟩

section

variable {n : ℕ} {job : WorkerJob} {now : Instant}

theorem poll_db : (S.poll w n now).db = w.db ∨ Commits S w (.poll n now) (S.poll w n now).db := by
  unfold System.poll
  split
  · next claim db hok => exact .inr (.poll (atomically_ok.mp hok))
  · exact .inl rfl

theorem start_db (hp : w.phase n = .busy job .starting) (storage : Option String) :
    (System.start w n job now storage).db = w.db ∨
      Commits S w (.start n now storage) (System.start w n job now storage).db := by
  unfold System.start
  split
  · next db hok => exact .inr (.start hp (atomically_ok.mp hok))
  · next files config db hok => exact .inr (.start hp (atomically_ok.mp hok))
  · exact .inl rfl

theorem checkpoint_db {c : ReconciliationJobProcessor.Checkpoint}
    {progress : ReconciliationJobProcessor.Progress}
    (hp : w.phase n = .busy job (.checkpointing c progress))
    (loaded : Except String Reconciliation.Inputs) :
    (S.checkpoint w n job c progress now loaded).db = w.db ∨
      Commits S w (.checkpoint n now loaded) (S.checkpoint w n job c progress now loaded).db := by
  unfold System.checkpoint
  split
  · next record db hok =>
    refine .inr ?_
    split <;> exact .checkpoint hp (atomically_ok.mp hok)
  · exact .inl rfl

theorem save_db {progress : ReconciliationJobProcessor.Progress}
    (hp : w.phase n = .busy job (.saving progress)) :
    (System.save w n job progress now).db = w.db ∨
      Commits S w (.save n now) (System.save w n job progress now).db := by
  unfold System.save
  split
  · next written db hok => exact .inr (.save hp (atomically_ok.mp hok))
  · exact .inl rfl

theorem fail_db {failure : Failure} {trail : Audit.AuditTrail}
    (hp : w.phase n = .busy job (.failing failure trail)) :
    (System.fail w n job failure trail now).db = w.db ∨
      Commits S w (.fail n now) (System.fail w n job failure trail now).db := by
  unfold System.fail
  split
  · next db hok => exact .inr (.fail hp (atomically_ok.mp hok))
  · exact .inl rfl

theorem finish_db {outcome : Option Failure} (hp : w.phase n = .busy job (.finishing outcome)) :
    (S.finish w n job outcome now).db = w.db ∨
      Commits S w (.finish n now) (S.finish w n job outcome now).db := by
  unfold System.finish
  split
  · next record db hok => exact .inr (.finish hp (atomically_ok.mp hok))
  · exact .inl rfl

end

/-- **A step commits its transaction or keeps the database.** -/
theorem step_db {a : Action} (h : S.step w a = some w') : w'.db = w.db ∨ Commits S w a w'.db := by
  cases a with
  | poll | start | checkpoint | save | fail | close | finish | restart =>
    simp only [System.step] at h
    split at h
    · next hp =>
      cases h
      first
        | exact .inl rfl
        | exact poll_db
        | exact start_db hp _
        | exact checkpoint_db hp _
        | exact save_db hp
        | exact fail_db hp
        | exact finish_db hp
    · cases h
  | crash =>
    cases h
    exact .inl rfl
  | execute =>
    cases h
    exact (after_db _).imp_right fun ⟨_, hruns⟩ => .execute hruns
  | cancel =>
    cases h
    exact (after_db _).imp_right fun ⟨_, hruns⟩ => .cancel hruns
  | retry =>
    cases h
    exact (after_db _).imp_right fun ⟨_, hruns⟩ => .retry hruns

end ReconcileFlow.Worker
