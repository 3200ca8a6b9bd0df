import ReconcileFlow.Worker.Commits

/-!
# Worker — History

The audit events of a run, over every interleaving.  They are numbered 1, …, n; a SUCCEEDED run has
one RUN_SUCCEEDED, its last event; and a FAILED run ends in RUN_FAILED, unless a worker has failed
it unrecorded (`history_recorded`): a trail that was never started has nothing to append, and files
that cannot be materialized fail the attempt before its trail starts.

An attempt carries the events it will append (`Activity.Traced`).  A commit adds them to the history
of its run in two ways only, with the success of the run or with its failure (`Chapter`).
-/

namespace ReconcileFlow.Worker

open Support Support.Transaction Persistence ReconciliationJobProcessor
open Audit (AuditEvent AuditTrail)

/-! ### Histories -/

/-- The audit events of a run, the first one first. -/
def history (db : Database) (runId : UUID) : List AuditEvent :=
  (db.auditEventsOf runId).map (·.event)

/-- RUN_SUCCEEDED is there once, and last. -/
structure SucceedsOnce (events : List AuditEvent) : Prop where
  count : events.count .runSucceeded = 1
  last : events.getLast? = some .runSucceeded

def isRunFailed : AuditEvent → Bool
  | .runFailed .. => true
  | _ => false

/-- RUN_FAILED is the last event. -/
def EndsInFailure (events : List AuditEvent) : Prop := events.getLast?.any isRunFailed = true

instance (events : List AuditEvent) : Decidable (EndsInFailure events) :=
  inferInstanceAs (Decidable (_ = true))

theorem SucceedsOnce.append {events later : List AuditEvent} (h : SucceedsOnce later)
    (hno : AuditEvent.runSucceeded ∉ events) : SucceedsOnce (events ++ later) where
  count := by rw [List.count_append, List.count_eq_zero.mpr hno, h.count]
  last := by rw [List.getLast?_append, h.last, Option.some_or]

theorem succeedsOnce_singleton : SucceedsOnce [.runSucceeded] := ⟨rfl, rfl⟩

/-! ### What an attempt has traced -/

/-- RUN_SUCCEEDED is traced before the last checkpoint, and not before. -/
def Activity.Traced : Activity → Prop
  | .checkpointing .finalizing progress | .saving progress => SucceedsOnce progress.trail.events
  | .checkpointing _ progress => AuditEvent.runSucceeded ∉ progress.trail.events
  | _ => True

theorem traced_afterFailure {job : WorkerJob} {failure : Failure} {trail : AuditTrail} :
    (job.afterFailure failure trail).Traced := by
  unfold WorkerJob.afterFailure
  split <;> trivial

theorem traced_afterStart {job : WorkerJob} {files : List SourceFileRecord}
    {config : Reconciliation.ReconciliationConfig} {storage : Option String} :
    (job.afterStart files config storage).Traced := by
  unfold WorkerJob.afterStart
  split
  · exact traced_afterFailure
  · next progress hprepare =>
    simp only [prepare] at hprepare
    split at hprepare
    · cases hprepare
    · split at hprepare
      · cases hprepare
        simp [Activity.Traced, AuditTrail.start, AuditTrail.emit]
      · cases hprepare

/-- Another event than a success, in a further stage. -/
theorem untraced_emit {trail : AuditTrail} {event : AuditEvent} (name : String)
    (h : AuditEvent.runSucceeded ∉ trail.events) (hne : event ≠ .runSucceeded) :
    AuditEvent.runSucceeded ∉ ((trail.beginStage name).emit event).events := by
  intro hm
  rcases List.mem_append.mp hm with hm | hm
  · exact h hm
  · exact hne (List.mem_singleton.mp hm).symm

/-- No stage before the last two traces a success. -/
theorem stage_untraced {runtime : Reconciliation.Runtime} {c : Checkpoint}
    {loaded : Except String Reconciliation.Inputs} {progress : Progress}
    (hc : c ≠ .saving ∧ c ≠ .finalizing)
    (h : AuditEvent.runSucceeded ∉ progress.trail.events) :
    AuditEvent.runSucceeded ∉ (stage runtime c loaded progress).1.trail.events := by
  cases c with
  | bankIngestion | erpIngestion =>
    cases loaded with
    | error => exact h
    | ok => exact untraced_emit _ h nofun
  | gatewayIngestion =>
    simp only [stage]
    split
    · cases loaded with
      | error => exact h
      | ok => exact untraced_emit _ h nofun
    · exact untraced_emit _ h nofun
  | reconciliation =>
    simp only [stage]
    split
    · exact h
    · exact untraced_emit _ h nofun
  | saving => exact absurd rfl hc.1
  | finalizing => exact absurd rfl hc.2

theorem traced_afterCheckpoint {job : WorkerJob} {runtime : Reconciliation.Runtime} {c : Checkpoint}
    {loaded : Except String Reconciliation.Inputs} {progress : Progress}
    (h : (Activity.checkpointing c progress).Traced) :
    (job.afterCheckpoint runtime c loaded progress).Traced := by
  unfold WorkerJob.afterCheckpoint
  split
  · exact traced_afterFailure
  · next progress' hstage =>
    have hfirst := congrArg Prod.fst hstage
    cases c with
    | saving =>
      obtain rfl : { progress with trail := progress.trail.succeed } = progress' := hfirst
      exact succeedsOnce_singleton.append h
    | finalizing =>
      obtain rfl : progress = progress' := hfirst
      exact h
    | _ =>
      show AuditEvent.runSucceeded ∉ progress'.trail.events
      rw [← show (stage runtime _ loaded progress).1 = progress' from hfirst]
      exact stage_untraced ⟨nofun, nofun⟩ h

/-- Every attempt has traced what its activity says. -/
def World.Traced (w : World) : Prop :=
  ∀ n job activity, w.phase n = .busy job activity → activity.Traced

namespace World.Traced

variable {w : World}

theorem update (h : w.Traced) {w' : World} {n : ℕ} {phase : Phase}
    (hphase : w'.phase = Function.update w.phase n phase)
    (hn : ∀ job activity, phase = .busy job activity → activity.Traced) : w'.Traced := by
  intro m job activity hp
  rw [hphase, Function.update_apply] at hp
  split at hp
  · exact hn job activity hp
  · exact h m job activity hp

theorem go (h : w.Traced) {w' : World} {n : ℕ} {job : WorkerJob} {activity : Activity}
    (hphase : w'.phase = Function.update w.phase n (.busy job activity)) (hn : activity.Traced) :
    w'.Traced := by
  refine h.update hphase ?_
  rintro _ _ ⟨⟩
  exact hn

theorem step {S : System} (h : w.Traced) {a : Action} {w' : World} (hs : S.step w a = some w') :
    w'.Traced := by
  cases a with
  | execute | cancel | retry =>
    cases hs
    exact h
  | crash =>
    cases hs
    exact h.update rfl (by rintro _ _ ⟨⟩)
  | poll n now =>
    simp only [System.step, System.poll] at hs
    split at hs
    · cases hs
      split
      · next claim _ _ =>
        refine h.update rfl fun job activity hp => ?_
        cases claim <;> cases hp
        trivial
      · exact h.update rfl (by rintro _ _ ⟨⟩)
    · cases hs
  | start n now storage =>
    simp only [System.step, System.start] at hs
    split at hs
    · cases hs
      split
      · exact h.go rfl trivial
      · exact h.go rfl traced_afterStart
      · exact h.go rfl trivial
    · cases hs
  | checkpoint n now loaded =>
    simp only [System.step, System.checkpoint] at hs
    split at hs
    · next hp =>
      cases hs
      split
      · split
        · exact h.go rfl traced_afterFailure
        · exact h.go rfl (traced_afterCheckpoint (h n _ _ hp))
      · exact h.go rfl traced_afterFailure
    · cases hs
  | save n now =>
    simp only [System.step, System.save] at hs
    split at hs
    · cases hs
      split
      · exact h.go rfl trivial
      · exact h.go rfl traced_afterFailure
    · cases hs
  | fail n now =>
    simp only [System.step, System.fail] at hs
    split at hs
    · cases hs
      split <;> exact h.go rfl trivial
    · cases hs
  | close n raised =>
    simp only [System.step] at hs
    split at hs
    · cases hs
      exact h.go rfl trivial
    · cases hs
  | finish n now =>
    simp only [System.step, System.finish] at hs
    split at hs
    · cases hs
      split <;> exact h.update rfl (by rintro _ _ ⟨⟩)
    · cases hs
  | restart n =>
    simp only [System.step] at hs
    split at hs
    · cases hs
      exact h.update rfl (by rintro _ _ ⟨⟩)
    · cases hs

end World.Traced
/-! ### What a commit adds -/

/-- The status of a run in a database, if there is one. -/
def statusOf (db : Database) (runId : UUID) : Option RunStatus :=
  (db.runs.find runId).map (·.status)

/-- What a commit does to the status and the history of a run. -/
inductive Chapter (S : System) (w : World) (a : Action) (db : Database) (r : UUID) : Prop
  | kept : statusOf db r = w.runStatus r → history db r = history w.db r → Chapter S w a db r
  | moved : w.runStatus r ≠ some .succeeded → statusOf db r ≠ some .succeeded →
      statusOf db r ≠ some .failed → history db r = history w.db r → Chapter S w a db r
  | saved {n : ℕ} {job : WorkerJob} {progress : Progress} :
      w.phase n = .busy job (.saving progress) → w.runStatus r = some .running →
      statusOf db r = some .succeeded → history db r = history w.db r ++ progress.trail.events →
      Chapter S w a db r
  | failed {n : ℕ} {now : Instant} {job : WorkerJob} {failure : Failure} {trail : AuditTrail}
      {run : ReconciliationRunRecord} : a = .fail n now →
      w.phase n = .busy job (.failing failure trail) → job.runId = r →
      w.db.runs.find r = some run → run.status = .running →
      notBefore (some now) run.startedAt = true → statusOf db r = some .failed →
      history db r = history w.db r ++ failureEvents trail failure → Chapter S w a db r

section

variable {S : System} {w : World} {a : Action} {db : Database}

theorem history_congr {db db' : Database} (h : db'.auditEvents = db.auditEvents) (r : UUID) :
    history db' r = history db r := by
  unfold history Database.auditEventsOf
  rw [h]

/-- The transaction touches neither the runs nor their histories. -/
theorem Chapter.of_same (hruns : db.runs = w.db.runs) (hevents : db.auditEvents = w.db.auditEvents)
    (r : UUID) : Chapter S w a db r :=
  .kept (by rw [statusOf, hruns]; rfl) (history_congr hevents r)

/-- A run is stored, and the history of that run only has more events. -/
theorem Chapter.of_stored {mid : Database} {run : ReconciliationRunRecord}
    {events : List AuditEvent} (hstored : RunStored mid run db) (hruns : mid.runs = w.db.runs)
    (hevents : ∀ r, history mid r = history w.db r ++ if r = run.id then events else [])
    (hthis : statusOf db run.id = some run.status →
      history db run.id = history w.db run.id ++ events → Chapter S w a db run.id) (r : UUID) :
    Chapter S w a db r := by
  have hkept := history_congr hstored.auditEvents
  by_cases hr : r = run.id
  · subst hr
    refine hthis ?_ ?_
    · rw [statusOf, hstored.find, if_pos rfl]
      rfl
    · rw [hkept, hevents, if_pos rfl]
  · refine .kept ?_ ?_
    · rw [statusOf, hstored.find, if_neg hr, hruns]
      rfl
    · rw [hkept, hevents, if_neg hr, List.append_nil]

/-- **A commit adds to a history only what goes with the end of the run.** -/
theorem Commits.chapter (h : Commits S w a db) (r : UUID) : Chapter S w a db r := by
  have hnone : ∀ (r s : UUID), history w.db r =
      history w.db r ++ if r = s then ([] : List AuditEvent) else [] := by
    intro r s
    rw [ite_self, List.append_nil]
  cases h with
  | poll h =>
    obtain ⟨mid, hswept, ⟨-, rfl⟩ | ⟨_, _, -, -, -, hstored⟩⟩ := BackgroundWorker.runs_poll h
    · exact .of_same hswept.runs hswept.auditEvents r
    · exact .of_same (hstored.runs.trans hswept.runs)
        (hstored.auditEvents.trans hswept.auditEvents) r
  | start hp h =>
    obtain ⟨run, hrun, ⟨-, -, rfl⟩ | ⟨-, -, rfl⟩ | ⟨hs, -, hstored⟩⟩ := runs_start h
    · exact .of_same rfl rfl r
    · exact .of_same rfl rfl r
    · have hid : run.id = _ := Table.key_of_find hrun
      refine .of_stored hstored rfl (fun r => hnone r _) (fun hstatus hevents => ?_) r
      refine .moved ?_ (by rw [hstatus]; nofun) (by rw [hstatus]; nofun) (by simpa using hevents)
      show w.runStatus run.id ≠ _
      rw [World.runStatus, hid, hrun]
      simp [hs]
  | checkpoint hp h =>
    obtain ⟨_, -, -, -, -, hstored⟩ := BackgroundWorker.runs_checkpoint h
    exact .of_same hstored.runs hstored.auditEvents r
  | save hp h =>
    obtain ⟨run, hrun, ⟨-, -, rfl⟩ | ⟨hs, -, t, mid, -, happended, hstored⟩⟩ := runs_save h
    · exact .of_same rfl rfl r
    · have hid : run.id = _ := Table.key_of_find hrun
      have hruns : mid.runs = w.db.runs := by
        obtain ⟨_, _, -, rfl, -⟩ := happended
        rfl
      have hevents := happended.events
      rw [← hid] at hevents
      refine .of_stored hstored hruns hevents (fun hstatus hevents => ?_) r
      refine .saved hp ?_ hstatus hevents
      show w.runStatus run.id = _
      rw [World.runStatus, hid, hrun]
      exact congrArg some hs
  | fail hp h =>
    obtain ⟨run, hrun, ⟨-, rfl⟩ | ⟨hs, mid, happended, hstored⟩⟩ := runs_failRun h
    · exact .of_same rfl rfl r
    · have hid : run.id = _ := Table.key_of_find hrun
      have hruns : mid.runs = w.db.runs := by
        obtain ⟨_, _, -, rfl, -⟩ := happended
        rfl
      have hevents := happended.events
      rw [← hid] at hevents
      have hclock := Table.check_of_find ((hstored.find _).trans (if_pos rfl))
      refine .of_stored hstored hruns hevents (fun hstatus hevents => ?_) r
      exact .failed rfl hp hid.symm (hid ▸ hrun) hs hclock hstatus hevents
  | finish hp h =>
    obtain ⟨_, -, -, hstored⟩ := BackgroundWorker.runs_finish h
    exact .of_same hstored.runs hstored.auditEvents r
  | execute h =>
    obtain ⟨_, -, -, -, -, -, -, -, -, -, -, hstored⟩ := Api.runs_executeRun h
    exact .of_same hstored.runs hstored.auditEvents r
  | cancel h =>
    obtain ⟨_, -, -, -, -, hstored, -⟩ := runs_requestCancellation h
    exact .of_same hstored.runs hstored.auditEvents r
  | retry h =>
    obtain ⟨job, run, mid, -, -, -, -, hrun, hs, -, hstored, hrenewed, -⟩ := runs_retryFailed h
    have hid : run.id = _ := Table.key_of_find hrun
    have hsame : ∀ s, history mid s =
        history w.db s ++ if s = run.renewed.id then ([] : List AuditEvent) else [] := fun s => by
      rw [history_congr hstored.auditEvents]
      exact hnone s _
    refine .of_stored hrenewed hstored.runs hsame (fun hstatus hevents => ?_) r
    refine .moved ?_ (by rw [hstatus]; nofun) (by rw [hstatus]; nofun) (by simpa using hevents)
    show w.runStatus run.id ≠ _
    rw [World.runStatus, hid, hrun]
    simp [hs]

theorem numbered_save {job : WorkerJob} {progress : Progress} {now : Instant} {written : Bool}
    {db' : Database} (h : Runs (save job progress now) db written db') {r : UUID}
    (hn : db.IsNumbered r) : db'.IsNumbered r := by
  simp only [save, runs_bind, runs_get_run] at h
  obtain ⟨_, _, ⟨-, -, rfl⟩, h⟩ := h
  split at h
  · obtain ⟨-, rfl⟩ := runs_pure.mp h
    exact hn
  · simp only [runs_bind, runs_require, runs_pure] at h
    obtain ⟨_, _, ⟨-, rfl⟩, _, _, hadd, _, _, hevents, _, _, hmove, -, rfl⟩ := h
    obtain ⟨t, -, rfl⟩ := runs_addMany hadd
    obtain ⟨_, -, -, -, hstored⟩ := runs_transition hmove
    exact (numbered_appendAll hevents hn).congr hstored.auditEvents

theorem numbered_failRun {job : WorkerJob} {failure : Failure} {trail : AuditTrail} {now : Instant}
    {u : Unit} {db' : Database} (h : Runs (failRun job trail failure now) db u db') {r : UUID}
    (hn : db.IsNumbered r) : db'.IsNumbered r := by
  simp only [failRun, runs_bind, runs_get_run] at h
  obtain ⟨_, _, ⟨-, -, rfl⟩, h⟩ := h
  split at h
  · simp only [runs_bind, runs_pure] at h
    obtain ⟨_, _, hevents, _, _, hmove, -, rfl⟩ := h
    obtain ⟨_, -, -, -, hstored⟩ := runs_transition hmove
    exact (numbered_appendAll hevents hn).congr hstored.auditEvents
  · obtain ⟨-, rfl⟩ := runs_pure.mp h
    exact hn

/-- **The events stay numbered.** -/
theorem Commits.numbered (h : Commits S w a db) {r : UUID} (hn : w.db.IsNumbered r) :
    db.IsNumbered r := by
  cases h with
  | poll h =>
    obtain ⟨mid, hswept, ⟨-, rfl⟩ | ⟨_, _, -, -, -, hstored⟩⟩ := BackgroundWorker.runs_poll h
    · exact hn.congr hswept.auditEvents
    · exact hn.congr (hstored.auditEvents.trans hswept.auditEvents)
  | start hp h =>
    obtain ⟨run, -, ⟨-, -, rfl⟩ | ⟨-, -, rfl⟩ | ⟨-, -, hstored⟩⟩ := runs_start h
    · exact hn
    · exact hn
    · exact hn.congr hstored.auditEvents
  | checkpoint hp h =>
    obtain ⟨_, -, -, -, -, hstored⟩ := BackgroundWorker.runs_checkpoint h
    exact hn.congr hstored.auditEvents
  | save hp h => exact numbered_save h hn
  | fail hp h => exact numbered_failRun h hn
  | finish hp h =>
    obtain ⟨_, -, -, hstored⟩ := BackgroundWorker.runs_finish h
    exact hn.congr hstored.auditEvents
  | execute h =>
    obtain ⟨_, -, -, -, -, -, -, -, -, -, -, hstored⟩ := Api.runs_executeRun h
    exact hn.congr hstored.auditEvents
  | cancel h =>
    obtain ⟨_, -, -, -, -, hstored, -⟩ := runs_requestCancellation h
    exact hn.congr hstored.auditEvents
  | retry h =>
    obtain ⟨job, run, mid, -, -, -, -, -, -, -, hstored, hrenewed, -⟩ := runs_retryFailed h
    exact hn.congr (hrenewed.auditEvents.trans hstored.auditEvents)

end

/-! ### Runs of the system -/

/-- No failure appends RUN_SUCCEEDED. -/
theorem runSucceeded_not_mem_failureEvents {trail : AuditTrail} {failure : Failure} :
    AuditEvent.runSucceeded ∉ failureEvents trail failure := by
  intro hm
  have hne := (List.mem_filter.mp hm).2
  simp at hne

/-- What the failure of a trail that has started appends ends in RUN_FAILED. -/
theorem endsInFailure_append {trail : AuditTrail} {failure : Failure} (events : List AuditEvent)
    (h : trail.events ≠ []) : EndsInFailure (events ++ failureEvents trail failure) := by
  unfold EndsInFailure failureEvents AuditTrail.fail AuditTrail.emit
  rw [if_neg h]
  simp only [List.filter_append]
  rw [← List.append_assoc]
  simp [isRunFailed]

/-- What every step keeps of the attempts and of one run. -/
structure World.Told (w : World) (r : UUID) : Prop where
  traced : w.Traced
  numbered : w.db.IsNumbered r
  succeeded : w.runStatus r = some .succeeded → SucceedsOnce (history w.db r)
  unsucceeded : w.runStatus r ≠ some .succeeded → AuditEvent.runSucceeded ∉ history w.db r

/-- A worker fails the run, and leaves it without RUN_FAILED: its trail was never started, and the
history does not end in RUN_FAILED from an earlier failure. -/
def World.failsUnrecorded (w : World) (r : UUID) : Action → Bool
  | .fail n now =>
    match w.phase n with
    | .busy job (.failing _ trail) =>
      decide (job.runId = r) && decide (trail.events = []) &&
        decide (¬ EndsInFailure (history w.db r)) &&
        (w.db.runs.find r).any fun run =>
          decide (run.status = .running) && notBefore (some now) run.startedAt
    | _ => false
  | _ => false

/-- The step does not fail the run unrecorded. -/
def Recorded (r : UUID) (w : World) (a : Action) : Prop := w.failsUnrecorded r a = false

instance (r : UUID) (w : World) (a : Action) : Decidable (Recorded r w a) :=
  inferInstanceAs (Decidable (_ = false))

section

variable {S : System} {w w' : World} {a : Action} {r : UUID}

theorem World.Initial.told (h : w.Initial) : w.Told r := by
  have hnil : w.db.auditEventsOf r = [] := by simp [Database.auditEventsOf, h.auditEvents]
  refine ⟨fun n job activity hp => ?_, ?_, fun hs => ?_, fun _ => ?_⟩
  · rw [h.phase n] at hp
    cases hp
  · simp [Database.IsNumbered, hnil]
  · obtain ⟨run, hrun, hstatus⟩ := Option.map_eq_some_iff.mp hs
    rw [(h.runs run (Table.mem_of_find hrun)).1] at hstatus
    cases hstatus
  · simp [history, hnil]

theorem World.Told.step (ht : w.Told r) (h : S.step w a = some w') : w'.Told r := by
  rcases step_db h with hdb | hcommits
  · exact ⟨ht.traced.step h, hdb ▸ ht.numbered, by rw [World.runStatus, hdb]; exact ht.succeeded,
      by rw [World.runStatus, hdb]; exact ht.unsucceeded⟩
  · refine ⟨ht.traced.step h, hcommits.numbered ht.numbered, ?_, ?_⟩
    · intro hs
      cases hcommits.chapter r with
      | kept hstatus hevents => exact hevents ▸ ht.succeeded (hstatus ▸ hs)
      | moved _ hne => exact absurd hs hne
      | saved hp hrunning _ hevents =>
        rw [hevents]
        exact (ht.traced _ _ _ hp).append (ht.unsucceeded (by rw [hrunning]; nofun))
      | failed _ _ _ _ _ _ hstatus => cases hstatus.symm.trans hs
    · intro hs
      cases hcommits.chapter r with
      | kept hstatus hevents => exact hevents ▸ ht.unsucceeded (hstatus ▸ hs)
      | moved hne _ _ hevents => exact hevents ▸ ht.unsucceeded hne
      | saved _ _ hstatus => exact absurd hstatus hs
      | failed _ _ _ hrun hrunning _ _ hevents =>
        rw [hevents]
        intro hm
        rcases List.mem_append.mp hm with hm | hm
        · refine ht.unsucceeded ?_ hm
          rw [World.runStatus, hrun]
          simp [hrunning]
        · exact runSucceeded_not_mem_failureEvents hm

/-- A step that does not fail the run unrecorded. -/
theorem step_endsInFailure (hok : Recorded r w a) (h : S.step w a = some w')
    (hw : w.runStatus r = some .failed → EndsInFailure (history w.db r))
    (hs : w'.runStatus r = some .failed) : EndsInFailure (history w'.db r) := by
  rcases step_db h with hdb | hcommits
  · rw [World.runStatus, hdb] at hs
    exact hdb ▸ hw hs
  · cases hcommits.chapter r with
    | kept hstatus hevents => exact hevents ▸ hw (hstatus ▸ hs)
    | moved _ _ hne => exact absurd hs hne
    | saved _ _ hstatus => cases hstatus.symm.trans hs
    | @failed n now job failure trail run ha hp hr hrun hrunning hclock _ hevents =>
      rw [hevents]
      by_cases hstarted : trail.events = []
      · -- nothing is appended, and RUN_FAILED is the last event already
        have hends : EndsInFailure (history w.db r) := by
          by_contra hne
          subst ha
          simp [Recorded, World.failsUnrecorded, hp, hr, hstarted, hne, hrun, hrunning, hclock]
            at hok
        simpa [failureEvents, hstarted] using hends
      · exact endsInFailure_append _ hstarted

end

/-- **Histories are numbered, and end as their runs do.**  In every reachable state the audit events
of a run are numbered 1, …, n, and a SUCCEEDED run has RUN_SUCCEEDED once, as its last event; and in
every state of a run of the system in which no step fails the run unrecorded, a FAILED run ends in
RUN_FAILED. -/
theorem history_recorded {S : System} {w₀ w : World} (h₀ : w₀.Initial) (r : UUID) :
    (Reaches S.step Always w₀ w → w.db.IsNumbered r ∧
      (w.runStatus r = some .succeeded → SucceedsOnce (history w.db r))) ∧
    (Reaches S.step (Recorded r) w₀ w →
      w.runStatus r = some .failed → EndsInFailure (history w.db r)) := by
  refine ⟨fun h => ?_, fun h => ?_⟩
  · have htold : w.Told r :=
      h.invariant (P := fun t => t.Told r) (fun _ _ _ ht _ hs => ht.step hs) h₀.told
    exact ⟨htold.numbered, htold.succeeded⟩
  · refine h.invariant (P := fun t => t.runStatus r = some .failed →
      EndsInFailure (history t.db r)) (fun _ _ _ ht hok hs => step_endsInFailure hok hs ht) ?_
    intro hs
    obtain ⟨run, hrun, hstatus⟩ := Option.map_eq_some_iff.mp hs
    rw [(h₀.runs run (Table.mem_of_find hrun)).1] at hstatus
    cases hstatus

/-- Three attempts at the one run; `attempt` is what each does between its claim and its end. -/
def threeAttempts (attempt : Instant → List Action) : List Action :=
  let retried (now : Instant) := [.poll 0 now] ++ attempt now ++ [.close 0 none, .finish 0 now]
  [.execute 1 1 7 {} 0] ++ retried 0 ++ retried (seconds 30) ++ [.poll 0 (seconds 60)] ++
    attempt (seconds 60) ++ [.fail 0 (seconds 60), .close 0 none, .finish 0 (seconds 60)]

/-- The bank file cannot be read in any attempt. -/
theorem history_recorded_threeAttempts : ∃ w, Reaches twoWorkers.step Always onePending w ∧
    w.runStatus 1 = some .failed ∧ w.db.IsNumbered 1 ∧ EndsInFailure (history w.db 1) := by
  have hrun : (exec twoWorkers.step (Recorded 1)
      (threeAttempts fun now => [.start 0 now none, .checkpoint 0 now (.error "IngestionError")])
      onePending).any (fun w => decide (w.runStatus 1 = some .failed)) = true := by decide +kernel
  obtain ⟨w, hw, hfailed⟩ := (Option.any_eq_true _ _).mp hrun
  have hreach := reaches_of_exec hw
  have hstatus : w.runStatus 1 = some .failed := by simpa using hfailed
  have hrecorded := history_recorded (S := twoWorkers) (w := w) onePending_initial 1
  exact ⟨w, hreach.always, hstatus, (hrecorded.1 hreach.always).1, hrecorded.2 hreach hstatus⟩

/-- Storage fails in every attempt: the run has failed and its history is empty. -/
theorem failed_unrecorded : ∃ w, Reaches twoWorkers.step Always onePending w ∧
    w.runStatus 1 = some .failed ∧ ¬ EndsInFailure (history w.db 1) := by
  have hrun : (exec twoWorkers.step Always
      (threeAttempts fun now => [.start 0 now (some "StorageOperationError")]) onePending).any
      (fun w => decide (w.runStatus 1 = some .failed ∧ ¬ EndsInFailure (history w.db 1))) =
      true := by decide +kernel
  obtain ⟨w, hw, hfailed⟩ := (Option.any_eq_true _ _).mp hrun
  exact ⟨w, reaches_of_exec hw, of_decide_eq_true hfailed⟩

end ReconcileFlow.Worker
