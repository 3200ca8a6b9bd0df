import ReconcileFlow.Queue.Operations

/-!
# Queue — Waiting

A queued job is overtaken a bounded number of times.  Once it has waited for twice the aging time
its effective priority is the highest there is, so `claim_next` takes it or a job that has been
eligible for as long (`claim_before`).  A job that enters the queue meanwhile, new, retried or
recovered, is eligible from now on only, so the jobs that may go first (`ahead`) never become more
(`ahead_subset`), and each time the job is overtaken they become fewer.
-/

namespace ReconcileFlow.Queue

open Support Support.Transaction Persistence
open BackgroundJobRepository (nextJob)

/-! ### The choice of `claim_next` -/

theorem effectivePriority_le (job : BackgroundJobRecord) (now : Instant) (aging : Nat) :
    job.effectivePriority now aging ≤ 2 := by
  unfold BackgroundJobRecord.effectivePriority
  dsimp only
  split
  · rfl
  · split <;> decide
  · split
    · rfl
    · split <;> decide

theorem seconds_mono {m n : Nat} (h : m ≤ n) : seconds m ≤ seconds n :=
  mul_le_mul_of_nonneg_right (Int.ofNat_le.mpr h) (by decide)

/-- A job that has waited twice the aging time is as urgent as any. -/
theorem effectivePriority_aged {job : BackgroundJobRecord} {now : Instant} {aging : Nat}
    (haged : job.eligibleSince + seconds (2 * aging) ≤ now) :
    job.effectivePriority now aging = 2 := by
  have htwice : job.eligibleSince ≤ now - seconds (aging * 2) :=
    le_sub_iff_add_le.mpr (Nat.mul_comm 2 aging ▸ haged)
  have honce : job.eligibleSince ≤ now - seconds aging :=
    htwice.trans (sub_le_sub_left (seconds_mono (Nat.le_mul_of_pos_right aging Nat.zero_lt_two)) now)
  unfold BackgroundJobRecord.effectivePriority
  cases job.priority <;> simp [htwice, honce]

/-- **Nothing younger is claimed** while an aged job can be. -/
theorem claim_before {jobs : List BackgroundJobRecord} {now : Instant} {aging : Nat}
    {job next : BackgroundJobRecord} (hjob : job ∈ jobs)
    (heligible : job.isEligible now none = true)
    (haged : job.eligibleSince + seconds (2 * aging) ≤ now)
    (hnext : nextJob jobs now none aging = some next) :
    next.eligibleSince ≤ job.eligibleSince := by
  have hle := le_of_head_sortOn _ hnext (List.mem_filter.mpr ⟨hjob, heligible⟩)
  rw [Prod.Lex.toLex_le_toLex, effectivePriority_aged haged] at hle
  have htop := effectivePriority_le next now aging
  rcases hle with hlt | ⟨-, hle⟩
  · simp only at hlt
    omega
  · rw [Prod.Lex.toLex_le_toLex] at hle
    rcases hle with hlt | ⟨heq, -⟩
    · exact hlt.le
    · exact heq.le

theorem exists_next (aging : Nat) {jobs : List BackgroundJobRecord} {now : Instant}
    {job : BackgroundJobRecord} (hjob : job ∈ jobs) (heligible : job.isEligible now none = true) :
    ∃ next, nextJob jobs now none aging = some next := by
  have hne : jobs.filter (·.isEligible now none) ≠ [] :=
    List.ne_nil_of_mem (List.mem_filter.mpr ⟨hjob, heligible⟩)
  rw [← Option.isSome_iff_exists]
  refine List.isSome_head?.mpr ?_
  exact fun h => hne (List.perm_nil.mp (h ▸ (sortOn_perm _ _).symm))

theorem isEligible_mono {job : BackgroundJobRecord} {now later : Instant}
    {organizationId : Option UUID} (h : job.isEligible now organizationId = true)
    (hle : now ≤ later) : job.isEligible later organizationId = true := by
  simp only [BackgroundJobRecord.isEligible, Bool.and_eq_true, decide_eq_true_eq] at h ⊢
  refine ⟨⟨⟨⟨h.1.1.1.1, h.1.1.1.2.trans hle⟩, ?_⟩, h.1.2⟩, h.2⟩
  cases hr : job.retryAt with
  | none => rfl
  | some retryAt =>
    have := h.1.1.2
    rw [hr] at this
    simp only [Option.all_some, decide_eq_true_eq] at this ⊢
    exact this.trans hle

/-! ### The jobs that may go first -/

def IsQueued (db : Database) (jobId : UUID) : Prop :=
  ∃ job, db.jobs.find jobId = some job ∧ job.status = .queued

/-- The other queued jobs that have been eligible for as long as `job`. -/
def ahead (db : Database) (job : BackgroundJobRecord) : Finset UUID :=
  ((db.jobs.rows.filter fun other => decide (other.id ≠ job.id) && decide (other.status = .queued) &&
    decide (other.eligibleSince ≤ job.eligibleSince)).map (·.id)).toFinset

theorem mem_ahead {db : Database} {job : BackgroundJobRecord} {k : UUID} :
    k ∈ ahead db job ↔ ∃ other, db.jobs.find k = some other ∧ k ≠ job.id ∧
      other.status = .queued ∧ other.eligibleSince ≤ job.eligibleSince := by
  simp only [ahead, List.mem_toFinset, List.mem_map, List.mem_filter, Bool.and_eq_true,
    decide_eq_true_eq]
  constructor
  · rintro ⟨other, ⟨hm, ⟨hne, hqueued⟩, hsince⟩, rfl⟩
    exact ⟨other, Table.find_of_mem hm, hne, hqueued, hsince⟩
  · rintro ⟨other, hfind, hne, hqueued, hsince⟩
    obtain rfl : other.id = k := Table.key_of_find hfind
    exact ⟨other, ⟨Table.mem_of_find hfind, ⟨hne, hqueued⟩, hsince⟩, rfl⟩

namespace Operation

/-- The time that the operation is called with. -/
def time : Operation → Option Instant
  | .create _ _ _ _ _ _ _ now | .claimNext _ now _ _ | .heartbeat _ _ _ now
  | .updateProgress _ _ _ _ now | .requestCancellation _ _ now | .complete _ _ _ now _ _ _
  | .recoverStale _ now | .retryFailed _ _ now => some now
  | .deleteExpiredTerminal .. | .others _ => none

/-- The operation is called at `clock` or later.  New jobs are scheduled, and retries put off, to
a time that is not past; a claim ages jobs at least as fast as `aging`. -/
def Timely (aging : Nat) (clock : Instant) (operation : Operation) : Prop :=
  (∀ now ∈ operation.time, clock ≤ now) ∧
    match operation with
    | .create _ _ _ scheduledAt _ _ _ now => now ≤ scheduledAt
    | .complete _ _ _ now _ _ retryAt => ∀ time ∈ retryAt, now ≤ time
    | .claimNext _ _ none priorityAgingSeconds => priorityAgingSeconds ≤ aging
    | _ => True

/-- How often the operation claims, for no particular organization, another job than `jobId`. -/
def overtakes (jobId : UUID) (db : Database) : Operation → ℕ
  | .claimNext workerId now none aging =>
    match (atomically (BackgroundJobRepository.claimNext workerId now none aging) db).1 with
    | .ok (some job) => if job.id = jobId then 0 else 1
    | _ => 0
  | _ => 0

end Operation

/-- A run of operations, each called while the job is queued, that ends in a database at a time;
and how often the job was overtaken. -/
inductive Waiting (limit aging : Nat) (jobId : UUID) (db : Database) (clock : Instant) :
    Database → Instant → ℕ → Prop
  | refl : Waiting limit aging jobId db clock db clock 0
  | step {db' : Database} {clock' : Instant} {n : ℕ} {operation : Operation} :
      Waiting limit aging jobId db clock db' clock' n → IsQueued db' jobId →
      operation.Timely aging clock' →
      Waiting limit aging jobId db clock (operation.apply limit db')
        (operation.time.getD clock') (n + operation.overtakes jobId db')

section

variable {limit aging : Nat} {clock : Instant} {operation : Operation}

/-- A queued job is claimed or cancelled; nothing else can be done to it. -/
theorem JobMove.of_queued {job job' : BackgroundJobRecord} {entries : List EventEntry}
    (h : JobMove limit job operation entries job') (hq : job.status = .queued) :
    job'.status ≠ .queued := by
  cases h with
  | claim => exact fun h => by cases h
  | beat hactive | progress hactive => simp [hq, BackgroundJobStatus.isActive] at hactive
  | cancel => simp [BackgroundJobRecord.status_cancelled, hq]
  | complete htarget => simp [hq, BackgroundJobStatus.allowed] at htarget
  | recover hstale => simp [BackgroundJobRecord.isStale, hq, BackgroundJobStatus.isActive] at hstale
  | retry hfailed => simp [hq] at hfailed

/-- A job that gets into the queue is eligible from now on. -/
theorem JobMove.now_le {job job' : BackgroundJobRecord} {entries : List EventEntry}
    (h : JobMove limit job operation entries job') (htimely : operation.Timely aging clock)
    (hq : job'.status = .queued) : clock ≤ job'.eligibleSince := by
  obtain ⟨hclock, htimely⟩ := htimely
  cases h with
  | claim => cases hq
  | beat hactive | progress hactive =>
    have hq : job.status = .queued := hq
    simp [hq, BackgroundJobStatus.isActive] at hactive
  | cancel hstatus =>
    rw [BackgroundJobRecord.status_cancelled] at hq
    split at hq <;> cases hq
  | @complete _ _ target now _ _ retryAt htarget hretry =>
    have hnow : clock ≤ now := hclock now rfl
    cases hr : BackgroundJobRecord.isRetry target retryAt with
    | true =>
      obtain ⟨retryTime, rfl⟩ := Option.isSome_iff_exists.mp (Bool.and_eq_true_iff.mp hr).2
      have hlater : now ≤ retryTime := htimely retryTime rfl
      simpa [BackgroundJobRecord.eligibleSince, BackgroundJobRecord.completed, hr] using
        hnow.trans hlater
    | false =>
      have hterminal := BackgroundJobStatus.terminal_of_allowed htarget
      have hq : target = .queued := by simpa [BackgroundJobRecord.completed, hr] using hq
      simp [hq, BackgroundJobStatus.isTerminal] at hterminal
  | @recover _ now hstale =>
    have hnow : clock ≤ now := hclock now rfl
    rw [BackgroundJobRecord.status_recovered] at hq
    by_cases hc : job.status = .cancelRequested
    · simp [hc] at hq
    · by_cases ha : job.attemptCount < job.maxAttempts
      · simpa [BackgroundJobRecord.eligibleSince, BackgroundJobRecord.recovered, hc, ha] using hnow
      · simp [hc, ha] at hq
  | @retry _ _ now => exact hclock now rfl

/-- **The jobs that may go first never become more.** -/
theorem ahead_subset {db : Database} {job : BackgroundJobRecord}
    (haged : job.eligibleSince < clock) (htimely : operation.Timely aging clock) :
    ahead (operation.apply limit db) job ⊆ ahead db job := by
  intro k hk
  obtain ⟨other, hfind, hne, hqueued, hsince⟩ := mem_ahead.mp hk
  have hchange := apply_change limit operation db k
  rw [hfind] at hchange
  generalize hbefore : db.jobs.find k = before, db.eventsOf k = events,
    (operation.apply limit db).eventsOf k = events' at hchange
  cases hchange with
  | same => exact mem_ahead.mpr ⟨other, hbefore, hne, hqueued, hsince⟩
  | move hmove => exact absurd (hmove.now_le htimely hqueued) (hsince.trans_lt haged).not_ge
  | create hcreated =>
    subst hcreated
    have hscheduled := (htimely.1 _ rfl).trans htimely.2
    exact absurd hscheduled (hsince.trans_lt haged).not_ge

/-- A job that stays in the queue stays as it is. -/
theorem find_of_isQueued {db : Database} {job : BackgroundJobRecord} {k : UUID}
    (hjob : db.jobs.find k = some job) (hstatus : job.status = .queued)
    (h : IsQueued (operation.apply limit db) k) :
    (operation.apply limit db).jobs.find k = some job := by
  obtain ⟨job', hjob', hstatus'⟩ := h
  have hchange := apply_change limit operation db k
  rw [hjob, hjob'] at hchange
  generalize db.eventsOf k = events, (operation.apply limit db).eventsOf k = events' at hchange
  cases hchange with
  | same => exact hjob'
  | move hmove => exact absurd hstatus' (hmove.of_queued hstatus)

theorem overtakes_eq (operation : Operation) (db : Database) (k : UUID) :
    operation.overtakes k db = 0 ∨ operation.overtakes k db = 1 ∧
      ∃ workerId now priorityAgingSeconds record db',
        operation = .claimNext workerId now none priorityAgingSeconds ∧ record.id ≠ k ∧
        Runs (BackgroundJobRepository.claimNext workerId now none priorityAgingSeconds) db
          (some record) db' := by
  unfold Operation.overtakes
  split
  · next workerId now priorityAgingSeconds =>
    cases hok : atomically (BackgroundJobRepository.claimNext workerId now none
      priorityAgingSeconds) db with
    | mk result db' =>
      match result, hok with
      | .error e, _ => exact .inl rfl
      | .ok none, _ => exact .inl rfl
      | .ok (some record), hok =>
        by_cases hk : record.id = k
        · exact .inl (if_pos hk)
        · exact .inr ⟨if_neg hk, workerId, now, priorityAgingSeconds, record, db', rfl, hk,
            atomically_ok.mp hok⟩
  · exact .inl rfl

/-- **Each time the job is overtaken, one job fewer is left to go first.** -/
theorem card_ahead {db : Database} {job : BackgroundJobRecord}
    (hjob : db.jobs.find job.id = some job) (heligible : job.isEligible clock none = true)
    (hwaited : job.eligibleSince < clock)
    (haged : job.eligibleSince + seconds (2 * aging) ≤ clock)
    (htimely : operation.Timely aging clock) :
    operation.overtakes job.id db + (ahead (operation.apply limit db) job).card ≤
      (ahead db job).card := by
  have hsubset : ahead (operation.apply limit db) job ⊆ ahead db job :=
    ahead_subset hwaited htimely
  rcases overtakes_eq operation db job.id with
    h | ⟨h, workerId, now, faster, record, db', rfl, hne, hrun⟩
  · rw [h, Nat.zero_add]
    exact Finset.card_le_card hsubset
  · obtain ⟨hclock, hfaster⟩ := htimely
    have hnow : clock ≤ now := hclock now rfl
    obtain ⟨hnone, -⟩ | ⟨next, hnext, hfind, heligible', hrecord, hstored, -⟩ := runs_claimNext hrun
    · cases hnone
    · obtain rfl := Option.some.inj hrecord
      have hsince := claim_before (Table.mem_of_find hjob) (isEligible_mono heligible hnow)
        ((add_le_add_right (seconds_mono (Nat.mul_le_mul_left 2 hfaster)) _).trans
          (haged.trans hnow)) hnext
      have hqueued : next.status = .queued := by
        simp only [BackgroundJobRecord.isEligible, Bool.and_eq_true, decide_eq_true_eq]
          at heligible'
        exact heligible'.1.1.1.1
      have hbefore : next.id ∈ ahead db job := mem_ahead.mpr ⟨next, hfind, hne, hqueued, hsince⟩
      have hafter : next.id ∉ ahead ((Operation.claimNext workerId now none faster).apply limit db)
          job := by
        intro hm
        obtain ⟨other, hother, -, hstatus, -⟩ := mem_ahead.mp hm
        have hvoid := (runs_void (u := ())).mpr ⟨_, hrun⟩
        have hdb : (Operation.claimNext workerId now none faster).apply limit db = db' :=
          apply_of_runs hvoid
        have hfound : db'.jobs.find next.id = some (next.claimed (strip workerId) now) :=
          (hstored.find next.id).trans (if_pos rfl)
        rw [hdb, hfound] at hother
        cases hother
        cases hstatus
      rw [h, Nat.add_comm]
      exact Finset.card_lt_card (hsubset.ssubset_of_mem_notMem hbefore hafter)

/-- While a job waits, its age and the jobs that may go first stay under control. -/
theorem Waiting.bound {db db' : Database} {clock' : Instant} {n : ℕ} {job : BackgroundJobRecord}
    (hjob : db.jobs.find job.id = some job) (heligible : job.isEligible clock none = true)
    (hwaited : job.eligibleSince < clock)
    (haged : job.eligibleSince + seconds (2 * aging) ≤ clock)
    (h : Waiting limit aging job.id db clock db' clock' n) :
    clock ≤ clock' ∧ (IsQueued db' job.id → db'.jobs.find job.id = some job) ∧
      n + (ahead db' job).card ≤ (ahead db job).card := by
  have hqueued : job.status = .queued := by
    simp only [BackgroundJobRecord.isEligible, Bool.and_eq_true, decide_eq_true_eq] at heligible
    exact heligible.1.1.1.1
  induction h with
  | refl => exact ⟨le_refl _, fun _ => hjob, (Nat.zero_add _).le⟩
  | @step mid clock' n operation _ hwaiting htimely ih =>
    obtain ⟨hclock, hfind, hcard⟩ := ih
    have hmid := hfind hwaiting
    have hone : operation.overtakes job.id mid + (ahead (operation.apply limit mid) job).card ≤
        (ahead mid job).card :=
      card_ahead hmid (isEligible_mono heligible hclock) (hwaited.trans_le hclock)
        (haged.trans hclock) htimely
    refine ⟨?_, find_of_isQueued hmid hqueued, by omega⟩
    cases ht : operation.time with
    | none => exact hclock
    | some now => exact hclock.trans (htimely.1 now ht)

end

/-- **Bounded overtaking.** Let an eligible job have waited for twice the aging time.  However
often it has been overtaken since, there were as many jobs that had been eligible for as long; and
while it is queued the next `claim_next` takes it or a job that has been eligible for as long. -/
theorem overtaken_bounded {limit aging : Nat} {db db' : Database} {clock clock' : Instant} {n : ℕ}
    {job : BackgroundJobRecord} (haging : 30 ≤ aging) (hjob : db.jobs.find job.id = some job)
    (heligible : job.isEligible clock none = true)
    (haged : job.eligibleSince + seconds (2 * aging) ≤ clock)
    (hwaiting : Waiting limit aging job.id db clock db' clock' n) :
    n ≤ (ahead db job).card ∧
      ∀ workerId now, IsQueued db' job.id → clock' ≤ now →
        strip workerId ≠ "" ∧ (strip workerId).length ≤ 200 →
        ∃ next db'', next.status = .queued ∧ next.eligibleSince ≤ job.eligibleSince ∧
          db'.jobs.find next.id = some next ∧
          Runs (BackgroundJobRepository.claimNext workerId now none aging) db'
            (some (next.claimed (strip workerId) now)) db'' := by
  have hpositive : 0 < seconds (2 * aging) := by
    show (0 : Int) < (2 * aging : ℕ) * 1000000
    omega
  have hwaited : job.eligibleSince < clock := (lt_add_of_pos_right _ hpositive).trans_le haged
  obtain ⟨hclock, hfind, hcard⟩ := hwaiting.bound hjob heligible hwaited haged
  refine ⟨by omega, fun workerId now hqueued hnow hworker => ?_⟩
  have hm := Table.mem_of_find (hfind hqueued)
  have heligible' := isEligible_mono heligible (hclock.trans hnow)
  obtain ⟨next, hnext⟩ := exists_next aging hm heligible'
  obtain ⟨hnextMem, hnextEligible⟩ := mem_nextJob hnext
  obtain ⟨db'', hrun⟩ := exists_claimNext hworker haging hnext
  simp only [BackgroundJobRecord.isEligible, Bool.and_eq_true, decide_eq_true_eq] at hnextEligible
  exact ⟨next, db'', hnextEligible.1.1.1.1,
    claim_before hm heligible' (haged.trans (hclock.trans hnow)) hnext,
    Table.find_of_mem hnextMem, hrun⟩

/-- A low job is overtaken by the one high job that is as old, and is next. -/
theorem overtaken_once : ∃ (db db' db'' : Database) (job next : BackgroundJobRecord) (n : ℕ),
    Waiting 2 30 job.id db 60000000 db' 70000000 n ∧ n = 1 ∧ n ≤ (ahead db job).card ∧
      next.eligibleSince ≤ job.eligibleSince ∧
      Runs (BackgroundJobRepository.claimNext "worker" 80000000 none 30) db'
        (some (next.claimed "worker" 80000000)) db'' := by
  let claim : Operation := .claimNext "worker" 70000000 none 30
  let db := (Operation.create 1 1 1 0 3 30 .low 1).apply 2
    ((Operation.create 2 2 2 0 3 30 .high 0).apply 2 twoRuns)
  have hdb : (db.jobs.find 1).any (fun job => job.id = 1 ∧ job.status = .queued ∧
      job.isEligible 60000000 none = true ∧
      job.eligibleSince + seconds (2 * 30) ≤ 60000000) = true := by decide +kernel
  have hafter : ((claim.apply 2 db).jobs.find 1).any (fun job => job.status = .queued) = true := by
    decide +kernel
  have hone : claim.overtakes 1 db = 1 := by decide +kernel
  obtain ⟨job, hjob, h⟩ := (Option.any_eq_true _ _).mp hdb
  obtain ⟨hid, hstatus, heligible, haged⟩ := of_decide_eq_true h
  obtain ⟨later, hlater, hqueued⟩ := (Option.any_eq_true _ _).mp hafter
  have hwaiting : Waiting 2 30 job.id db 60000000 (claim.apply 2 db) 70000000
      (0 + claim.overtakes job.id db) :=
    .step .refl ⟨job, hid ▸ hjob, hstatus⟩ ⟨by simp [claim, Operation.time], le_refl 30⟩
  obtain ⟨hbound, hnext⟩ := overtaken_bounded (le_refl 30) (hid ▸ hjob) heligible haged hwaiting
  obtain ⟨next, db'', -, hsince, -, hrun⟩ := hnext "worker" 80000000
    ⟨later, hid ▸ hlater, of_decide_eq_true hqueued⟩ (by decide) (by decide)
  exact ⟨db, _, db'', job, next, _, hwaiting, by rw [hid, hone], hbound, hsince, hrun⟩

end ReconcileFlow.Queue
