import ReconcileFlow.AI.Consumption
import ReconcileFlow.Support.Serial

/-!
# AI — Serial

The usage controller of `AI.Statements`, served alone, does what the transactions of `AI.Usage` do:
each request answers and commits, or fails and leaves, the same (`exec_metering`).
-/

namespace ReconcileFlow.AI.Statements

open Support Support.Program Support.Transaction Support.ReadCommitted Support.Calendar
open Persistence (UUID Instant AIUsageRecord AIOrganizationRecord integrityError seconds
  usageSchema)
open Tenancy (TenantDatabase TenantSession)

variable {P : TenantDatabase → Prop}

/-! ### Queries -/

theorem performs_query {α : Type} {statement : TenantSession α}
    (hreads : ∀ d a d', Runs statement d a d' → d' = d) :
    Performs Failure.database P (query statement) statement fun a b d => a = b ∧ P d := by
  refine Performs.statement fun d => ?_
  show _ ∨ _
  cases hresult : statement.run d with
  | error e => exact .inr ⟨e, rfl, hresult⟩
  | ok result =>
    obtain ⟨a, d'⟩ := result
    obtain rfl := hreads d a d' hresult
    exact .inl ⟨a, rfl, hresult⟩

theorem performs_getOrganization (organizationId : UUID) :
    Performs Failure.database P (OrganizationRepository.getLocked organizationId)
      (getOrganization organizationId) fun a b d => a = b ∧ P d := by
  unfold OrganizationRepository.getLocked getOrganization
  refine Performs.selectForUpdate.bindEq fun found => ?_
  exact (Performs.expect (f := Failure.database) _ found).weaken (fun _ h => h)
    fun _ _ _ h => ⟨h.1, h.2.2.2⟩

theorem performs_summarize (organizationId : UUID) (now : Instant) :
    Performs Failure.database P (AIUsageController.summarize organizationId now)
      (AI.AIUsageController.summarize organizationId now) fun a b d => a = b ∧ P d := by
  have hreads (since : Instant) : ∀ d a d',
      Runs (Tenancy.AIUsageRepository.summarize organizationId since now) d a d' → d' = d := by
    intro d a d' h
    simp only [Tenancy.AIUsageRepository.summarize, runs_bind, runs_reads, runs_pure] at h
    obtain ⟨_, _, ⟨-, rfl⟩, -, rfl⟩ := h
    rfl
  unfold AIUsageController.summarize AI.AIUsageController.summarize
  refine Performs.bindEq (M := fun _ => P) (performs_query (hreads _)) fun daily => ?_
  refine Performs.bindEq (M := fun _ => P) (performs_query (hreads _)) fun monthly => ?_
  exact .pure _ _ fun d h => ⟨rfl, h⟩

/-! ### Releases -/

/-- The order of the writes makes no difference. -/
theorem releaseRow_perm {now : Instant} {usageIds usageIds' : List UUID}
    (h : usageIds.Perm usageIds') (usages : Table usageSchema) :
    usageIds.foldl (AIUsageRepository.releaseRow now) usages =
      usageIds'.foldl (AIUsageRepository.releaseRow now) usages := by
  have hkeys (usageIds : List UUID) (usages : Table usageSchema) :
      (usageIds.foldl (AIUsageRepository.releaseRow now) usages).rows.map usageSchema.key =
        usages.rows.map usageSchema.key := by
    induction usageIds generalizing usages with
    | nil => rfl
    | cons first usageIds ih =>
      rw [List.foldl_cons, ih]
      unfold AIUsageRepository.releaseRow
      split
      · exact Table.keys_put usages _
      · rfl
  refine Table.eq_of_find ((hkeys _ _).trans (hkeys _ _).symm) fun id => ?_
  rw [find_releaseRows, find_releaseRows]
  simp only [h.mem_iff]

theorem alone_releaseRows (now : Instant) (usageIds : List UUID) (s : Connection TenantDatabase) :
    alone (AIUsageRepository.releaseRows now usageIds) s =
      ((), s.write (releaseAll now usageIds)) := by
  induction usageIds generalizing s with
  | nil => rfl
  | cons first usageIds ih => exact ih _

/-- A stored row is released as its record says. -/
theorem runs_releaseRow {db : TenantDatabase} {usage : AIUsageRecord} {e : Persistence.Error}
    (hfind : db.usageRecords.find usage.id = some usage) (now : Instant) :
    Runs (TenantDatabase.usagePart.update e (usage.released now)) db ()
      (releaseAll now [usage.id] db) := by
  obtain ⟨usages, hupdate⟩ := Table.exists_update (t := db.usageRecords)
    (check_released hfind now) fun _ _ _ => rfl
  refine Part.runs_update.mpr ⟨usages, hupdate, ?_⟩
  have hput : db.usageRecords.put (usage.released now) = usages := by
    rw [Table.put, hupdate, Option.getD_some]
  simp only [TenantDatabase.usagePart, releaseAll, List.foldl_cons, List.foldl_nil,
    AIUsageRepository.releaseRow, hfind, hput]

/-- The loop of the whole transaction over records that are stored. -/
theorem runs_releaseAll {e : Persistence.Error} {now : Instant} {records : List AIUsageRecord}
    {db : TenantDatabase} (hdistinct : (records.map (·.id)).Nodup)
    (hfind : ∀ usage ∈ records, db.usageRecords.find usage.id = some usage) :
    Runs (forM records fun usage => TenantDatabase.usagePart.update e (usage.released now)) db ()
      (releaseAll now (records.map (·.id)) db) := by
  induction records generalizing db with
  | nil => exact runs_pure.mpr ⟨rfl, rfl⟩
  | cons first records ih =>
    obtain ⟨hfresh, hdistinct⟩ := List.nodup_cons.mp hdistinct
    rw [List.forM_cons]
    refine runs_bind.mpr ⟨(), _, runs_releaseRow (hfind first List.mem_cons_self) now, ?_⟩
    refine ih hdistinct fun usage hm => ?_
    have hne : usage.id ≠ first.id := fun he =>
      hfresh (List.mem_map.mpr ⟨usage, hm, he⟩)
    exact (find_releaseRow now db.usageRecords first.id usage.id).trans
      ((if_neg hne).trans (hfind usage (List.mem_cons_of_mem _ hm)))

theorem performs_releaseExpired (organizationId : UUID) (now : Instant) :
    Performs Failure.database P (AIUsageRepository.releaseExpired organizationId now)
      (Tenancy.AIUsageRepository.releaseExpired organizationId now)
      fun usageIds count _ => usageIds.length = count := by
  intro c s d hs
  obtain rfl := hs.view
  let records := s.view.usageRecords.rows.filter fun usage =>
    decide (usage.organizationId = organizationId) && usage.isExpired now
  have hloop : Runs (Tenancy.AIUsageRepository.releaseExpired organizationId now) s.view
      records.length (releaseAll now (records.map (·.id)) s.view) := by
    unfold Tenancy.AIUsageRepository.releaseExpired
    refine runs_bind.mpr ⟨records, _, runs_reads.mpr ⟨rfl, rfl⟩, ?_⟩
    refine runs_bind.mpr ⟨(), _, runs_releaseAll ?_ ?_, runs_pure.mpr ⟨rfl, rfl⟩⟩
    · exact s.view.usageRecords.valid.1.sublist (List.filter_sublist.map _)
    · exact fun usage hm => Table.find_of_mem (List.mem_of_mem_filter hm)
  refine ⟨fun count d' hruns => ?_, fun e hfails => absurd hfails hloop.not_fails⟩
  obtain ⟨rfl, rfl⟩ := hruns.unique hloop
  refine ⟨sortOn (·.toNat) (records.map (·.id)),
    s.write (releaseAll now (sortOn (·.toNat) (records.map (·.id)))), ?_, hs.committed, ?_, ?_⟩
  · simp only [AIUsageRepository.releaseExpired, respond_bind, respond_lift, alone_get,
      alone_releaseRows, respond_pure]
    rfl
  · show releaseAll _ _ s.view = releaseAll _ _ s.view
    unfold releaseAll
    rw [releaseRow_perm (sortOn_perm _ _)]
  · exact (sortOn_perm _ _).length_eq.trans (List.length_map _)

/-! ### Reservations -/

theorem performs_reserve (reservationId organizationId runId : UUID)
    (provider modelVersion : String) (reservedTokens candidateCount : Int)
    (expiresAt now : Instant) :
    Performs Failure.database P
      (AIUsageRepository.reserve reservationId organizationId runId provider modelVersion
        reservedTokens candidateCount expiresAt now)
      (Tenancy.AIUsageRepository.reserve reservationId organizationId runId provider modelVersion
        reservedTokens candidateCount expiresAt now) fun id record _ => id = record.id := by
  have hreads : ∀ d a d', Runs (Tenancy.ensureRun runId organizationId) d a d' → d' = d := by
    intro d a d' h
    simp only [Tenancy.ensureRun, runs_bind, runs_reads, runs_require] at h
    obtain ⟨_, _, ⟨-, rfl⟩, -, rfl⟩ := h
    rfl
  unfold AIUsageRepository.reserve Tenancy.AIUsageRepository.reserve
  refine Performs.bindEq (M := fun _ => P) (performs_query hreads) fun _ => ?_
  refine (Performs.insert (f := Failure.database) ?_ ?_).bind fun _ _ => .pure _ _ fun _ _ => rfl
  · intro d _ hfree
    obtain ⟨usages, hinsert⟩ := Option.isSome_iff_exists.mp (Option.isNone_eq_false_iff.mp hfree)
    refine Part.runs_insert.mpr ⟨usages, hinsert, ?_⟩
    simp only [TenantDatabase.usagePart, Table.add, hinsert, Option.getD_some]
  · intro d _ htaken
    exact Part.fails_insert.mpr ⟨Option.isNone_iff_eq_none.mp htaken, rfl⟩

/-- The record is the stored one. -/
theorem performs_getLocked (reservationId organizationId : UUID) :
    Performs Failure.database P (AIUsageRepository.getLocked reservationId organizationId)
      (Tenancy.AIUsageRepository.get reservationId organizationId)
      fun a b d => a = b ∧ d.usageRecords.find a.id = some a := by
  unfold AIUsageRepository.getLocked Tenancy.AIUsageRepository.get
  refine Performs.selectForUpdate.bindEq fun found => ?_
  refine (Performs.expect (f := Failure.database) _ found).weaken (fun _ h => h) ?_
  rintro usage _ d ⟨rfl, rfl, hfound, -⟩
  obtain ⟨hfind, -⟩ := Option.filter_eq_some_iff.mp hfound.symm
  have hid : usage.id = reservationId := Table.key_of_find hfind
  exact ⟨rfl, hid ▸ hfind⟩

theorem performs_flush {usage after : AIUsageRecord} (hid : after.id = usage.id) :
    Performs Failure.database (fun d => d.usageRecords.find usage.id = some usage)
      (AIUsageRepository.flush after) (TenantDatabase.usagePart.update integrityError after)
      fun _ _ _ => True := by
  have hkey (d : TenantDatabase) (hfind : d.usageRecords.find usage.id = some usage) :
      d.usageRecords.find (usageSchema.key after) = some usage := by
    rw [← hfind, ← hid]
    rfl
  intro c s d hs
  obtain rfl := hs.view
  unfold AIUsageRepository.flush
  rw [respond_bind, respond_ensure]
  by_cases hcheck : usageSchema.check after = true
  · obtain ⟨usages, hupdate⟩ := Table.exists_update (t := s.view.usageRecords) hcheck
      fun _ _ _ => rfl
    refine ⟨fun u d' hruns => ?_, fun e' hfails => ?_⟩
    · obtain ⟨rows, hrows, rfl⟩ := Part.runs_update.mp hruns
      refine ⟨(), s.write fun db => { db with usageRecords := db.usageRecords.put after },
        by simp only [hcheck, if_true, respond_lift, alone_update], hs.committed, ?_, trivial⟩
      show { s.view with usageRecords := s.view.usageRecords.put after } = _
      rw [Table.put, show s.view.usageRecords.update? after = some rows from hrows,
        Option.getD_some]
      rfl
    · cases hupdate.symm.trans (Part.fails_update.mp hfails).1
  · refine ⟨fun u d' hruns => ?_, fun e' hfails => ?_⟩
    · obtain ⟨rows, hrows, -⟩ := Part.runs_update.mp hruns
      have hstored := Table.find_update_self hrows rfl (hkey s.view hs.holds)
      exact absurd (Table.check_of_find hstored) hcheck
    · obtain ⟨-, rfl⟩ := Part.fails_update.mp hfails
      exact ⟨_, s, by simp only [hcheck, Bool.false_eq_true, if_false], rfl, hs.committed⟩

theorem performs_finalize (reservationId organizationId : UUID) (inputTokens outputTokens : Int)
    (now : Instant) :
    Performs Failure.database P
      (AIUsageRepository.finalize reservationId organizationId inputTokens outputTokens now)
      (Tenancy.AIUsageRepository.finalize reservationId organizationId inputTokens outputTokens now)
      fun _ _ _ => True := by
  unfold AIUsageRepository.finalize Tenancy.AIUsageRepository.finalize
  refine (performs_getLocked _ _).bindEq fun usage => ?_
  refine (Performs.ensure (f := Failure.database) _).bind fun _ _ => ?_
  have hid : (usage.finalized inputTokens outputTokens now).id = usage.id := rfl
  exact ((performs_flush hid).pureRight _).weaken (fun _ h => h.2) fun _ _ _ _ => trivial

theorem performs_release (reservationId organizationId : UUID) (now : Instant) :
    Performs Failure.database P (AIUsageRepository.release reservationId organizationId now)
      (Tenancy.AIUsageRepository.release reservationId organizationId now) fun _ _ _ => True := by
  unfold AIUsageRepository.release Tenancy.AIUsageRepository.release
  refine (performs_getLocked _ _).bindEq fun usage => ?_
  by_cases hstatus : usage.status = .reserved
  · rw [if_pos hstatus, if_pos hstatus]
    have hid : (usage.released now).id = usage.id := rfl
    exact ((performs_flush hid).pureRight _).weaken (fun _ h => h) fun _ _ _ _ => trivial
  · rw [if_neg hstatus, if_neg hstatus]
    exact .pure _ _ fun _ _ => trivial

/-! ### The requests -/

variable (controller : AIUsageController)

theorem performs_reserveMetered (reservationId organizationId runId : UUID) (candidateCount : Int)
    (now : Instant) :
    Performs id P
      (AIUsageController.reserveMetered controller reservationId organizationId runId candidateCount
        now)
      (controller.reserveMetered reservationId organizationId runId candidateCount now)
      fun a b _ => a.2 = b := by
  unfold AIUsageController.reserveMetered AI.AIUsageController.reserveMetered
  refine Performs.bindEq (M := fun _ => P) (performs_getOrganization _).mapError
    fun organization => ?_
  refine (Performs.ensure (f := id) _).bind fun _ _ => ?_
  refine (performs_releaseExpired _ _).mapError.bind fun released _ => ?_
  refine (performs_summarize _ _).mapError.bindEq fun usage => ?_
  refine (Performs.ensure (f := id) _).bind fun _ _ => ?_
  refine (performs_reserve _ _ _ _ _ _ _ _ _).mapError.bind fun reserved record => ?_
  exact .pure _ _ fun _ h => h

theorem serves_reserve (reservationId organizationId runId : UUID) (candidateCount : Int)
    (now : Instant) :
    Serves (AIUsageController.reserve controller reservationId organizationId runId candidateCount
      now) (controller.reserve reservationId organizationId runId candidateCount now) := by
  unfold AIUsageController.reserve AI.AIUsageController.reserve
  by_cases hmetered : controller.isMetered = true
  · rw [if_pos hmetered, if_pos hmetered]
    refine Serves.ensure _ fun _ => ?_
    refine ((performs_reserveMetered controller _ _ _ _ _).pureRight some).serves_part _ ?_
    rintro _ _ _ ⟨_, rfl, rfl⟩
    rfl
  · rw [if_neg hmetered, if_neg hmetered]
    exact fun db => rfl

theorem serves_finalize (reservationId organizationId : UUID) (inputTokens outputTokens : Int)
    (now : Instant) :
    Serves (AIUsageController.finalize reservationId organizationId inputTokens outputTokens now)
      (AI.AIUsageController.finalize reservationId organizationId inputTokens outputTokens now) :=
  ((performs_finalize _ _ _ _ _).mapError.pureRight _).serves _ fun _ _ _ _ => rfl

theorem serves_release (reservationId organizationId : UUID) (now : Instant) :
    Serves (AIUsageController.release reservationId organizationId now)
      (AI.AIUsageController.release reservationId organizationId now) :=
  ((performs_release _ _ _).mapError.pureRight _).serves _ fun _ _ _ _ => rfl

theorem serves_summary (organizationId : UUID) (now : Instant) :
    Serves (AIUsageController.summary organizationId now)
      (AI.AIUsageController.summary organizationId now) := by
  refine Performs.serves_part (R := fun a b _ => a.2 = b) ?_ _ fun _ _ _ h => h
  refine Performs.mapError ?_
  have hreads : ∀ d a d', Runs (getOrganization organizationId) d a d' → d' = d :=
    fun _ _ _ h => (runs_getOrganization h).2
  refine Performs.bindEq (M := fun _ _ => True) (performs_query hreads) fun _ => ?_
  refine (performs_releaseExpired _ _).bind fun released _ => ?_
  refine ((performs_summarize _ _).pureLeft _).weaken (fun _ h => h) ?_
  rintro _ b d ⟨a, ⟨rfl, -⟩, rfl⟩
  rfl

/-- What a request does as a whole. -/
def MeteringRequest.transaction : MeteringRequest → AISession Unit
  | .reserve reservationId organizationId runId candidateCount now =>
    void (controller.reserve reservationId organizationId runId candidateCount now)
  | .finalize reservationId organizationId inputTokens outputTokens now =>
    AI.AIUsageController.finalize reservationId organizationId inputTokens outputTokens now
  | .release reservationId organizationId now =>
    AI.AIUsageController.release reservationId organizationId now
  | .summary organizationId now => void (AI.AIUsageController.summary organizationId now)

/-- **A request that nobody hinders commits what its transaction does.** -/
theorem exec_metering {n : ℕ} {w : World TenantDatabase UsageLock UsageCommit}
    (hidle : w.program n = .pure ()) (hfree : Unhindered n w) (request : MeteringRequest) :
    ∃ actions w', exec (step (MeteringRequest.program controller)) Always
        (.begin n request :: actions) w = some w' ∧ w'.program n = .pure () ∧
      w'.state = (atomically (request.transaction controller) w.state).2 := by
  cases request with
  | reserve reservationId organizationId runId candidateCount now =>
    unfold MeteringRequest.transaction
    rw [atomically_void]
    exact exec_serves hidle hfree rfl (serves_reserve controller _ _ _ _ _)
  | finalize reservationId organizationId inputTokens outputTokens now =>
    exact exec_serves hidle hfree rfl (serves_finalize _ _ _ _ _)
  | release reservationId organizationId now =>
    exact exec_serves hidle hfree rfl (serves_release _ _ _)
  | summary organizationId now =>
    unfold MeteringRequest.transaction
    rw [atomically_void]
    exact exec_serves hidle hfree rfl (serves_summary _ _)

end ReconcileFlow.AI.Statements
