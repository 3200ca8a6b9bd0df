import ReconcileFlow.Support.Client
import ReconcileFlow.Worker.Service

/-!
# Worker — Polling

The loop of a worker, with a processor that may do anything, and with anything done by others before
each of its transactions.  A round raises nothing but what the database refuses; of the errors of a
status that is not as expected, none comes from the poll, and one from the finish exactly if the
attempt does not hold its job any more (`StillHeld`).  Nothing catches it: it ends the loop
(`loop_ended`).
-/

namespace ReconcileFlow.Worker

open Support Support.Transaction Support.Client Persistence

/-- The error is an `InvalidStatusTransitionError`. -/
def isTransitionError : Error → Bool
  | .invalidStatusTransition _ => true
  | _ => false

/-- A round of the loop: when it polls, what the processor does, and when the job is finished. -/
structure Round where
  polledAt : Instant
  processor : WorkerJob → Client Database Failure Unit
  finishedAt : Instant

/-- What the processor raised, if anything. -/
def outcomeOf : Except Failure Unit → Option Failure
  | .ok () => none
  | .error failure => some failure

namespace BackgroundWorker

variable (worker : BackgroundWorker)

def runOnce (round : Round) : Client Database Error Bool := do
  match ← transact (worker.poll round.polledAt) with
  | none => return false
  | some job =>
    let processed ← attempt (round.processor job)
    let _ ← transact (worker.finish job (outcomeOf processed) round.finishedAt)
    return true

/-- `run_forever`, of which these are the rounds until the stop event is set. -/
def runForever : List Round → Client Database Error Unit
  | [] => return
  | round :: rounds => do
    let _ ← worker.runOnce round
    runForever rounds

/-! ### What the finish accepts -/

/-- The attempt holds its job still: the job is at work (a cancellation was requested, if that is
what the processor raised), and has attempts left if the finish asks for another. -/
structure StillHeld (job : WorkerJob) (outcome : Option Failure) (record : BackgroundJobRecord) :
    Prop where
  active : record.status.isActive = true
  cancelled : outcome = some .jobCancelled → record.status = .cancelRequested
  attempts : asksRetry job outcome record.status = true → record.attemptCount < record.maxAttempts

theorem target_allowed_iff {outcome : Option Failure} {status : BackgroundJobStatus} :
    target outcome status ∈ status.allowed ↔
      status.isActive = true ∧ (outcome = some .jobCancelled → status = .cancelRequested) := by
  cases outcome with
  | none => cases status <;> simp [target, BackgroundJobStatus.allowed, BackgroundJobStatus.isActive]
  | some failure =>
    cases failure <;> cases status <;>
      simp [target, BackgroundJobStatus.allowed, BackgroundJobStatus.isActive]

theorem StillHeld.of_finishable {job : WorkerJob} {outcome : Option Failure} {now : Instant}
    {record : BackgroundJobRecord} (h : Finishable job outcome now record) :
    StillHeld job outcome record :=
  ⟨(target_allowed_iff.mp h.allowed).1, (target_allowed_iff.mp h.allowed).2, h.attempts⟩

/-! ### Errors -/

/-- The error is none of a status. -/
def IsOther (e : Error) : Prop := isTransitionError e = false

theorem raises_flush {job : BackgroundJobRecord} :
    Raises (BackgroundJobRepository.flush job) IsOther :=
  raises_bind raises_get fun _ => raises_bind (raises_fromOption rfl) fun _ => raises_set

theorem raises_appendEvent {job : BackgroundJobRecord} {eventType : BackgroundJobEventType}
    {occurredAt : Instant} {details : EventDetails} :
    Raises (BackgroundJobRepository.appendEvent job eventType occurredAt details) IsOther :=
  raises_bind raises_get fun _ => raises_bind (raises_fromOption rfl) fun _ => raises_set

theorem raises_getJob {jobId organizationId : UUID} :
    Raises (BackgroundJobRepository.get jobId organizationId) IsOther :=
  raises_bind raises_get fun _ => raises_fromOption rfl

theorem raises_recoverStale {cutoff now : Instant} :
    Raises (BackgroundJobRepository.recoverStale cutoff now) IsOther :=
  raises_bind raises_get fun _ => raises_bind
    (raises_forM (fun _ => raises_bind raises_flush fun _ => raises_appendEvent) _)
    fun _ => raises_pure

theorem raises_claimNext {workerId : String} {now : Instant} {organizationId : Option UUID}
    {priorityAgingSeconds : Nat} :
    Raises (BackgroundJobRepository.claimNext workerId now organizationId priorityAgingSeconds)
      IsOther := by
  refine raises_bind (raises_require rfl) fun _ => raises_bind (raises_require rfl) fun _ =>
    raises_bind raises_get fun db => ?_
  cases BackgroundJobRepository.nextJob db.jobs.rows now organizationId priorityAgingSeconds with
  | none => exact raises_pure
  | some job =>
    exact raises_bind raises_flush fun _ => raises_bind raises_appendEvent fun _ => raises_pure

/-- No status is in the way of a poll. -/
theorem raises_poll {now : Instant} : Raises (worker.poll now) IsOther := by
  refine raises_bind raises_recoverStale fun _ => raises_bind raises_claimNext fun record => ?_
  cases record with
  | none => exact raises_pure
  | some record => exact raises_bind (raises_fromOption rfl) fun _ => raises_pure

variable {worker} {db : Database} {job : WorkerJob} {outcome : Option Failure} {now : Instant}

/-- Completing a job raises an error of its status only if the target or a retry is refused. -/
theorem refused_of_complete {jobId organizationId : UUID} {target : BackgroundJobStatus}
    {code message : Option String} {retryAt : Option Instant} {e : Error}
    (h : Fails (BackgroundJobRepository.complete jobId target organizationId now code message
      retryAt) db e) (he : isTransitionError e = true) :
    ∃ record, db.jobs.find jobId = some record ∧ ¬ (target ∈ record.status.allowed ∧
      (BackgroundJobRecord.isRetry target retryAt = true →
        record.attemptCount < record.maxAttempts)) := by
  have hother {α : Type} {x : Session α} (hx : Raises x IsOther) {s : Database} : ¬ Fails x s e := by
    intro hfails
    rw [hx s e hfails] at he
    cases he
  rcases fails_bind.mp h with hget | ⟨record, db₁, hget, hrest⟩
  · exact absurd hget (hother raises_getJob)
  · obtain ⟨hfind, -, rfl⟩ := runs_get_job.mp hget
    refine ⟨record, hfind, fun ⟨hallowed, hattempts⟩ => ?_⟩
    rcases fails_bind.mp hrest with hrefused | ⟨_, db₂, -, hrest⟩
    · exact (fails_require.mp hrefused).1 hallowed
    · rcases fails_bind.mp hrest with hrefused | ⟨_, db₃, -, hrest⟩
      · exact (fails_require.mp hrefused).1 hattempts
      · exact hother (raises_bind raises_flush fun _ => raises_bind raises_appendEvent
          fun _ => raises_pure) hrest

/-- The finish transaction raises an error of the status only if the attempt has lost its job. -/
theorem lost_of_finish {e : Error} (h : Fails (worker.finish job outcome now) db e)
    (he : isTransitionError e = true) :
    ∃ record, db.jobs.find job.id = some record ∧ ¬ StillHeld job outcome record := by
  have hlost {record : BackgroundJobRecord} {code message : Option String} {retryAt : Option Instant}
      (hfind : db.jobs.find job.id = some record)
      (hfails : Fails (BackgroundJobRepository.complete job.id (target outcome record.status)
        job.organizationId now code message retryAt) db e)
      (hretry : BackgroundJobRecord.isRetry (target outcome record.status) retryAt =
        asksRetry job outcome record.status) :
      ∃ record, db.jobs.find job.id = some record ∧ ¬ StillHeld job outcome record := by
    obtain ⟨other, hother, hrefused⟩ := refused_of_complete hfails he
    obtain rfl := Option.some.inj (hfind.symm.trans hother)
    refine ⟨record, hfind, fun hheld => hrefused ⟨?_, fun hr => hheld.attempts (hretry ▸ hr)⟩⟩
    exact target_allowed_iff.mpr ⟨hheld.active, hheld.cancelled⟩
  have hfound {x : BackgroundJobRecord → Session BackgroundJobRecord}
      (hfails : Fails (BackgroundJobRepository.get job.id job.organizationId >>= x) db e) :
      ∃ record, db.jobs.find job.id = some record ∧ Fails (x record) db e := by
    rcases fails_bind.mp hfails with hget | ⟨record, _, hget, hrest⟩
    · rw [raises_getJob _ _ hget] at he
      cases he
    · obtain ⟨hfind, -, rfl⟩ := runs_get_job.mp hget
      exact ⟨record, hfind, hrest⟩
  cases outcome with
  | none =>
    obtain ⟨record, hfind, hrest⟩ := hfound h
    split at hrest
    · next hc =>
      have ht : target none record.status = .cancelled := if_pos hc
      exact hlost hfind (ht ▸ hrest) (by simp [ht, asksRetry, BackgroundJobRecord.isRetry])
    · next hc =>
      have ht : target none record.status = .succeeded := if_neg hc
      exact hlost hfind (ht ▸ hrest) (by simp [ht, asksRetry, BackgroundJobRecord.isRetry])
  | some failure =>
    cases failure with
    | jobCancelled =>
      obtain ⟨record, hfind, -⟩ := refused_of_complete h he
      exact hlost hfind h rfl
    | jobTimedOut =>
      obtain ⟨record, hfind, hrest⟩ := hfound h
      split at hrest
      · next hc =>
        have ht : target (some .jobTimedOut) record.status = .cancelled := if_pos hc
        exact hlost hfind (ht ▸ hrest) (by simp [ht, asksRetry, BackgroundJobRecord.isRetry])
      · next hc =>
        have ht : target (some .jobTimedOut) record.status = .failed := if_neg hc
        exact hlost hfind (ht ▸ hrest) (by rw [ht, isRetry_retryAt, asksRetry, ht])
    | error typeName =>
      obtain ⟨record, hfind, -⟩ := refused_of_complete h he
      exact hlost hfind h (isRetry_retryAt _)

/-! ### Rounds -/

/-- If the round has a job to finish, the attempt holds it still. -/
def Unhindered (worker : BackgroundWorker) (others : ℕ → Database → Database) (round : Round)
    (s : Turn Database) : Prop :=
  ∀ job u processed v, Ends (transact (worker.poll round.polledAt)) others s (.ok (some job)) u →
    Ends (round.processor job) others u processed v →
      ∀ record, (others v.log.length v.state).jobs.find job.id = some record →
        StillHeld job (outcomeOf processed) record

variable {others : ℕ → Database → Database} {s t : Turn Database}

/-- A round returns exactly if it is not hindered, when nothing else is refused. -/
theorem runOnce_ok_iff {round : Round} {result : Except Error Bool}
    (h : Ends (worker.runOnce round) others s result t)
    (hothers : ∀ e, result = .error e → isTransitionError e = true) :
    (∃ processed, result = .ok processed) ↔ worker.Unhindered others round s := by
  obtain ⟨claim, u, hpoll, hrest⟩ | ⟨e, hpoll, rfl⟩ := ends_bind.mp h
  · cases claim with
    | none =>
      obtain ⟨rfl, -⟩ := ends_pure.mp hrest
      refine iff_of_true ⟨false, rfl⟩ fun job u' processed v hpoll' => ?_
      cases (hpoll.unique hpoll').1
    | some job =>
      obtain ⟨processed, v, hattempt, hlast⟩ | ⟨_, hattempt, -⟩ := ends_bind.mp hrest
      · obtain ⟨r, hprocessed, hr⟩ := ends_attempt.mp hattempt
        obtain rfl := Except.ok.inj hr
        have honly {job' : WorkerJob} {u' v' : Turn Database} {processed' : Except Failure Unit}
            (hpoll' : Ends (transact (worker.poll round.polledAt)) others s (.ok (some job')) u')
            (hprocessed' : Ends (round.processor job') others u' processed' v') :
            job' = job ∧ processed' = processed ∧ v' = v := by
          obtain ⟨hjob, rfl⟩ := hpoll'.unique hpoll
          obtain rfl := Option.some.inj (Except.ok.inj hjob)
          exact ⟨rfl, hprocessed'.unique hprocessed⟩
        obtain ⟨record, w, hfinish, hanswer⟩ | ⟨e, hfinish, rfl⟩ := ends_bind.mp hlast
        · obtain ⟨rfl, -⟩ := ends_pure.mp hanswer
          obtain ⟨old, hold, hfinished, -⟩ :=
            runs_finish (atomically_ok.mp (ends_transact.mp hfinish).1)
          refine iff_of_true ⟨true, rfl⟩ fun job' u' processed' v' hpoll' hprocessed' other hother => ?_
          obtain ⟨rfl, rfl, rfl⟩ := honly hpoll' hprocessed'
          obtain rfl := Option.some.inj (hold.symm.trans hother)
          exact .of_finishable hfinished.toFinishable
        · obtain ⟨hfails, -⟩ := atomically_error.mp (ends_transact.mp hfinish).1
          obtain ⟨old, hold, hlost⟩ := lost_of_finish hfails (hothers e rfl)
          refine iff_of_false (fun ⟨_, hok⟩ => by cases hok) fun hheld => hlost ?_
          exact hheld job u processed v hpoll hprocessed old hold
      · obtain ⟨r, -, hr⟩ := ends_attempt.mp hattempt
        cases hr
  · -- a poll is refused by no status
    obtain ⟨hfails, -⟩ := atomically_error.mp (ends_transact.mp hpoll).1
    have hother : isTransitionError e = false := raises_poll worker _ _ hfails
    rw [hothers e rfl] at hother
    cases hother

/-- **A worker polls until it is stopped** exactly if no round is hindered: a round returns exactly
if its attempt, if there is one, holds its job still when it is finished, and the loop goes through
all its rounds exactly if all of them return. -/
theorem polls_until_stopped :
    (∀ round s result t, Ends (worker.runOnce round) others s result t →
      (∀ e, result = .error e → isTransitionError e = true) →
        ((∃ processed, result = .ok processed) ↔ worker.Unhindered others round s)) ∧
    ∀ rounds s result t, Ends (worker.runForever rounds) others s result t →
      (∀ e, result = .error e → isTransitionError e = true) →
        ((∃ u, result = .ok u) ↔ ∀ before round after, rounds = before ++ round :: after →
          ∀ u, Ends (worker.runForever before) others s (.ok ()) u →
            worker.Unhindered others round u) := by
  refine ⟨fun _ _ _ _ h hothers => runOnce_ok_iff h hothers, fun rounds => ?_⟩
  induction rounds with
  | nil =>
    intro s result t h _
    obtain ⟨rfl, -⟩ := ends_pure.mp h
    refine iff_of_true ⟨(), rfl⟩ fun before round after hsplit => ?_
    simp at hsplit
  | cons round rounds ih =>
    intro s result t h hothers
    obtain ⟨processed, v, honce, hrest⟩ | ⟨e, honce, rfl⟩ := ends_bind.mp h
    · have hfirst : worker.Unhindered others round s :=
        (runOnce_ok_iff honce fun e he => by cases he).mp ⟨processed, rfl⟩
      refine (ih v result t hrest hothers).trans ⟨fun hall before other after hsplit u hu => ?_,
        fun hall before other after hsplit u hu => ?_⟩
      · cases before with
        | nil =>
          obtain ⟨rfl, rfl⟩ := List.cons.inj hsplit
          obtain ⟨-, rfl⟩ := ends_pure.mp hu
          exact hfirst
        | cons first before =>
          obtain ⟨rfl, hrounds⟩ := List.cons.inj hsplit
          obtain ⟨_, v', honce', hbefore⟩ | ⟨_, -, hfailed⟩ := ends_bind.mp hu
          · obtain ⟨-, rfl⟩ := honce'.unique honce
            exact hall before other after hrounds u hbefore
          · cases hfailed
      · refine hall (round :: before) other after (by rw [hsplit]; rfl) u ?_
        exact ends_bind.mpr (.inl ⟨processed, v, honce, hu⟩)
    · refine iff_of_false (fun ⟨_, hok⟩ => by cases hok) fun hall => ?_
      have hrefused (e' : Error) (he : (Except.error e : Except Error Bool) = .error e') :
          isTransitionError e' = true := by
        obtain rfl := Except.error.inj he
        exact hothers e rfl
      obtain ⟨_, hok⟩ := (runOnce_ok_iff honce hrefused).mpr
        (hall [] round rounds rfl s (ends_pure.mpr ⟨rfl, rfl⟩))
      cases hok

end BackgroundWorker

def waitingRun : ReconciliationRunRecord where
  id := 2
  organizationId := 1
  createdAt := 0

/-- A job of the run 2 that waits. -/
def oneQueued : Database where
  runs := ⟨[waitingRun], by decide⟩
  sourceFiles := .empty
  configurations := .empty
  jobs := ⟨[{ id := 3, organizationId := 1, runId := 2, scheduledAt := 0, createdAt := 0 }],
    by decide⟩

/-- The processor returns, after more than the stale timeout. -/
def slowRound : Round where
  polledAt := 0
  processor _ := pure ()
  finishedAt := seconds 1200

/-- The second worker recovers the job of the first, claims it, and is done with it, before the
first finishes. -/
def takenOver (n : ℕ) (db : Database) : Database :=
  if n = 1 then
    match atomically (secondWorker.poll (seconds 1000)) db with
    | (.ok (some job), db) => (atomically (secondWorker.finish job none (seconds 1100)) db).2
    | (_, db) => db
  else db

theorem polls_until_stopped_alone : ∃ t, Ends (firstWorker.runOnce slowRound) (fun _ db => db)
    ⟨oneQueued, []⟩ (.ok true) t ∧
      firstWorker.Unhindered (fun _ db => db) slowRound ⟨oneQueued, []⟩ := by
  obtain ⟨result, t, hends⟩ :=
    exists_ends (firstWorker.runOnce slowRound) (fun _ db => db) ⟨oneQueued, []⟩
  have hrun : (match (((firstWorker.runOnce slowRound).run fun _ db => db).run ⟨oneQueued, []⟩).1 with
    | .ok processed => processed
    | .error _ => false) = true := by decide +kernel
  rw [show (((firstWorker.runOnce slowRound).run fun _ db => db).run ⟨oneQueued, []⟩).1 = result from
    congrArg Prod.fst hends] at hrun
  cases result with
  | error e => cases hrun
  | ok processed =>
    obtain rfl : processed = true := hrun
    exact ⟨t, hends, (BackgroundWorker.polls_until_stopped.1 slowRound _ _ _ hends nofun).mp
      ⟨true, rfl⟩⟩

/-- The first worker finds its job done by another, and stops. -/
theorem loop_ended : ∃ t message, Ends (firstWorker.runForever [slowRound]) takenOver
    ⟨oneQueued, []⟩ (.error (.invalidStatusTransition message)) t := by
  obtain ⟨result, t, hends⟩ :=
    exists_ends (firstWorker.runForever [slowRound]) takenOver ⟨oneQueued, []⟩
  have hrun : (match (((firstWorker.runForever [slowRound]).run takenOver).run ⟨oneQueued, []⟩).1 with
    | .ok _ => false
    | .error e => isTransitionError e) = true := by decide +kernel
  rw [show (((firstWorker.runForever [slowRound]).run takenOver).run ⟨oneQueued, []⟩).1 = result from
    congrArg Prod.fst hends] at hrun
  cases result with
  | ok u => cases hrun
  | error e =>
    cases e with
    | invalidStatusTransition message => exact ⟨t, message, hends⟩
    | _ => cases hrun

end ReconcileFlow.Worker
