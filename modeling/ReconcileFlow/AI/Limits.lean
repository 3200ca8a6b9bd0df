import ReconcileFlow.AI.Effects

/-!
# AI — Limits

How much an organization's reservations and calls can come to.  A reservation that has expired is no
longer counted, but may be finalized late and count again; so the bound is on all records of a
period that have not been released, expired or not (`held`).  Closing a record never raises what is
held (`Settled`), and `reserve` first releases what has expired, so that what it then counts is all
that is held.  Each record is charged one request, and of its tokens at most those that it reserved.

`requests_within` bounds the requests of every day and month.  The tokens that a provider reports
may exceed the estimate; `tokens_within` bounds them by the limit and these excesses.
-/

namespace ReconcileFlow.AI

open Support Support.Transaction Support.Calendar Tenancy
open Persistence (UUID Instant AIUsageRecord AIOrganizationRecord usageSchema
  ReconciliationRunRecord)

/-! ### Charges -/

/-- The limits of an organization. -/
inductive Limit
  | dailyRequests | dailyTokens | monthlyRequests | monthlyTokens

namespace Limit

def period : Limit → Period
  | .dailyRequests | .dailyTokens => .day
  | .monthlyRequests | .monthlyTokens => .month

def bound (organization : AIOrganizationRecord) : Limit → Int
  | .dailyRequests => organization.aiDailyRequestLimit
  | .dailyTokens => organization.aiDailyTokenLimit
  | .monthlyRequests => organization.aiMonthlyRequestLimit
  | .monthlyTokens => organization.aiMonthlyTokenLimit

/-- What a record counts for while it is counted. -/
def weight (usage : AIUsageRecord) : Limit → Int
  | .dailyRequests | .monthlyRequests => usage.reservedRequests
  | .dailyTokens | .monthlyTokens => usage.tokens

/-- The figure of a summary that the limit is on. -/
def figure (summary : AIUsageSummary) : Limit → Int
  | .dailyRequests => summary.dailyRequests
  | .dailyTokens => summary.dailyTokens
  | .monthlyRequests => summary.monthlyRequests
  | .monthlyTokens => summary.monthlyTokens

/-- What a record is held for: its request, or of its tokens at most those that it reserved. -/
def charge (usage : AIUsageRecord) : Limit → Int
  | .dailyRequests | .monthlyRequests => usage.reservedRequests
  | .dailyTokens | .monthlyTokens => min usage.tokens usage.reservedTokens

end Limit

/-- The record is of the organization and the period, and has not been released. -/
def isHeld (limit : Limit) (organizationId : UUID) (index : Int) (usage : AIUsageRecord) : Bool :=
  decide (usage.organizationId = organizationId) && decide (usage.status ≠ .released) &&
    decide (limit.period.index usage.createdAt = index)

/-- What all records of a period are held for, expired or not. -/
def held (limit : Limit) (organizationId : UUID) (index : Int) (usages : Table usageSchema) : Int :=
  (usages.rows.map fun usage =>
    if isHeld limit organizationId index usage then limit.charge usage else 0).sum

/-- What finalized records of a period have used beyond what they reserved. -/
def excess (period : Period) (organizationId : UUID) (index : Int) (usages : Table usageSchema) :
    Int :=
  (usages.rows.map fun usage =>
    if usage.organizationId = organizationId ∧ usage.status = .finalized ∧
        period.index usage.createdAt = index then
      max 0 (usage.inputTokens + usage.outputTokens - usage.reservedTokens)
    else 0).sum

/-- What the table's check says of a record. -/
theorem check_iff {usage : AIUsageRecord} : usageSchema.check usage = true ↔
    usage.reservedRequests = 1 ∧ 0 ≤ usage.reservedTokens ∧ 0 ≤ usage.inputTokens ∧
      0 ≤ usage.outputTokens ∧ 0 ≤ usage.candidateCount := by
  simp [usageSchema, and_assoc]

theorem charge_nonneg (limit : Limit) {usage : AIUsageRecord}
    (h : usageSchema.check usage = true) : 0 ≤ limit.charge usage := by
  obtain ⟨hrequests, hreserved, hinput, houtput, -⟩ := check_iff.mp h
  have htokens : 0 ≤ usage.tokens := by
    unfold AIUsageRecord.tokens
    split <;> omega
  cases limit with
  | dailyRequests | monthlyRequests => exact hrequests.symm.le.trans' Int.one_nonneg
  | dailyTokens | monthlyTokens => exact le_min htokens hreserved

/-- To close a reservation does not raise its charge. -/
theorem charge_closes {limit : Limit} {old new : AIUsageRecord} (hstatus : old.status = .reserved)
    (h : Closes old new) : limit.charge new ≤ limit.charge old := by
  have hreserved : new.reservedTokens = old.reservedTokens ∧
      new.reservedRequests = old.reservedRequests := by
    cases h <;> exact ⟨rfl, rfl⟩
  have htokens : old.tokens = old.reservedTokens := by simp [AIUsageRecord.tokens, hstatus]
  cases limit with
  | dailyRequests | monthlyRequests => exact hreserved.2.le
  | dailyTokens | monthlyTokens =>
    simp only [Limit.charge, htokens, min_self, hreserved.1]
    exact min_le_right _ _

/-- **Closing reservations does not raise what is held.** -/
theorem Settled.held_le {s t : Table usageSchema} (h : Settled s t) (limit : Limit)
    (organizationId : UUID) (index : Int) :
    held limit organizationId index t ≤ held limit organizationId index s := by
  refine h.sum_le _ fun old new hcheck hstatus hcloses => ?_
  have hsame : new.organizationId = old.organizationId ∧ new.createdAt = old.createdAt := by
    cases hcloses <;> exact ⟨rfl, rfl⟩
  by_cases hnew : isHeld limit organizationId index new = true
  · have hold : isHeld limit organizationId index old = true := by
      unfold isHeld at hnew ⊢
      rw [hsame.1, hsame.2] at hnew
      rw [hstatus]
      simpa using And.imp_left And.left (by simpa using hnew)
    rw [if_pos hnew, if_pos hold]
    exact charge_closes hstatus hcloses
  · rw [if_neg hnew]
    split
    · exact charge_nonneg _ hcheck
    · exact le_refl _

/-! ### What a summary counts -/

/-- The records that `summarize` selects. -/
def isCounted (organizationId : UUID) (since now : Instant) (usage : AIUsageRecord) : Bool :=
  decide (usage.organizationId = organizationId) && decide (since ≤ usage.createdAt) &&
    usage.isActive now

theorem sum_filter_map (rows : List AIUsageRecord) (p : AIUsageRecord → Bool)
    (weight : AIUsageRecord → Int) :
    ((rows.filter p).map weight).sum = (rows.map fun usage => if p usage then weight usage else 0).sum := by
  induction rows with
  | nil => rfl
  | cons usage rows ih =>
    by_cases hp : p usage = true
    · simp [hp, ih]
    · simp [hp, ih]

/-- A figure of the summary is the weight of the records that it counts. -/
theorem figure_eq {db db' : TenantDatabase} {organizationId : UUID} {now : Instant}
    {summary : AIUsageSummary}
    (h : Runs (AIUsageController.summarize organizationId now) db summary db') (limit : Limit) :
    db' = db ∧ limit.figure summary = (db.usageRecords.rows.map fun usage =>
      if isCounted organizationId (limit.period.start now) now usage then limit.weight usage
      else 0).sum := by
  simp only [AIUsageController.summarize, AIUsageRepository.summarize, runs_bind, runs_reads,
    runs_pure] at h
  obtain ⟨_, _, ⟨_, _, ⟨rfl, rfl⟩, rfl, rfl⟩, _, _, ⟨_, _, ⟨rfl, rfl⟩, rfl, rfl⟩, rfl, rfl⟩ := h
  refine ⟨rfl, ?_⟩
  cases limit <;> exact sum_filter_map _ _ _

variable {db db' : TenantDatabase} {organizationId : UUID} {now t : Instant}
  {summary : AIUsageSummary}

theorem weight_nonneg (limit : Limit) {usage : AIUsageRecord}
    (h : usageSchema.check usage = true) : 0 ≤ limit.weight usage := by
  refine (charge_nonneg limit h).trans ?_
  cases limit with
  | dailyRequests | monthlyRequests => exact le_refl _
  | dailyTokens | monthlyTokens => exact min_le_left _ _

/-- **Where nothing expired is left, all that is held is counted.** -/
theorem held_le_figure (limit : Limit)
    (h : Runs (AIUsageController.summarize organizationId now) db summary db')
    (hcreated : ∀ usage ∈ db.usageRecords.rows, usage.organizationId = organizationId →
      usage.createdAt ≤ now)
    (hexpired : ∀ usage ∈ db.usageRecords.rows, usage.organizationId = organizationId →
      usage.isExpired now = false) :
    held limit organizationId (limit.period.index now) db.usageRecords ≤ limit.figure summary := by
  rw [(figure_eq h limit).2]
  refine List.sum_le_sum fun usage hm => ?_
  have hcheck := db.usageRecords.valid.2.2 usage hm
  by_cases hheld : isHeld limit organizationId (limit.period.index now) usage = true
  · have hfacts := hheld
    simp only [isHeld, Bool.and_eq_true, decide_eq_true_eq] at hfacts
    obtain ⟨⟨horg, hopen⟩, hindex⟩ := hfacts
    have hsince := (limit.period.start_le_iff (hcreated usage hm horg)).mpr hindex
    have hactive : usage.isActive now = true := by
      have hnot := hexpired usage hm horg
      unfold AIUsageRecord.isExpired at hnot
      unfold AIUsageRecord.isActive
      cases hstatus : usage.status with
      | released => exact absurd hstatus hopen
      | finalized => rfl
      | reserved => simpa [hstatus] using hnot
    have hcounted : isCounted organizationId (limit.period.start now) now usage = true := by
      simp [isCounted, horg, hsince, hactive]
    rw [if_pos hheld, if_pos hcounted]
    cases limit with
    | dailyRequests | monthlyRequests => exact le_refl _
    | dailyTokens | monthlyTokens => exact min_le_left _ _
  · rw [if_neg hheld]
    split
    · exact weight_nonneg _ hcheck
    · exact le_refl _

/-- What is counted of the tokens is held, but for the excesses. -/
theorem tokens_le {limit : Limit} (hlimit : limit = .dailyTokens ∨ limit = .monthlyTokens)
    (h : Runs (AIUsageController.summarize organizationId t) db summary db')
    (hcreated : ∀ usage ∈ db.usageRecords.rows, usage.organizationId = organizationId →
      usage.createdAt ≤ t) :
    limit.figure summary ≤ held limit organizationId (limit.period.index t) db.usageRecords +
      excess limit.period organizationId (limit.period.index t) db.usageRecords := by
  rw [(figure_eq h limit).2, held, excess, ← List.sum_map_add]
  refine List.sum_le_sum fun usage hm => ?_
  obtain ⟨-, hreserved, hinput, houtput, -⟩ := check_iff.mp (db.usageRecords.valid.2.2 usage hm)
  have hcharge : limit.charge usage = min usage.tokens usage.reservedTokens ∧
      limit.weight usage = usage.tokens := by
    rcases hlimit with rfl | rfl <;> exact ⟨rfl, rfl⟩
  rw [hcharge.1, hcharge.2]
  by_cases hcounted : isCounted organizationId (limit.period.start t) t usage = true
  · have hfacts := hcounted
    simp only [isCounted, Bool.and_eq_true, decide_eq_true_eq] at hfacts
    obtain ⟨⟨horg, hsince⟩, hactive⟩ := hfacts
    have hindex := (limit.period.start_le_iff (hcreated usage hm horg)).mp hsince
    rw [if_pos hcounted]
    cases hstatus : usage.status with
    | released => simp [AIUsageRecord.isActive, hstatus] at hactive
    | reserved => simp [isHeld, horg, hstatus, hindex, AIUsageRecord.tokens]
    | finalized =>
      simp only [isHeld, horg, hstatus, hindex, AIUsageRecord.tokens]
      simp
      omega
  · rw [if_neg hcounted]
    have htokens : 0 ≤ usage.tokens := by
      unfold AIUsageRecord.tokens
      split <;> omega
    split <;> split <;> omega

/-! ### Every sequence of calls -/

/-- A call of the controller of some provider. -/
inductive UsageCall
  | reserve (controller : AIUsageController) (reservationId organizationId runId : UUID)
      (candidateCount : Int)
  | finalize (reservationId organizationId : UUID) (inputTokens outputTokens : Int)
  | release (reservationId organizationId : UUID)
  | summary (organizationId : UUID)

def UsageCall.run (now : Instant) : UsageCall → AISession Unit
  | .reserve controller reservationId organizationId runId candidateCount =>
    void (controller.reserve reservationId organizationId runId candidateCount now)
  | .finalize reservationId organizationId inputTokens outputTokens =>
    AIUsageController.finalize reservationId organizationId inputTokens outputTokens now
  | .release reservationId organizationId => AIUsageController.release reservationId organizationId now
  | .summary organizationId => void (AIUsageController.summary organizationId now)

/-- The database, and when it was last used. -/
structure MeteredState where
  db : TenantDatabase
  now : Instant

/-- A call takes place as a whole, not before the last. -/
def MeteredState.step (s : MeteredState) (call : UsageCall × Instant) : Option MeteredState :=
  if s.now ≤ call.2 then some ⟨(atomically (call.1.run call.2) s.db).2, call.2⟩ else none

/-- The organization, whose limits stay, holds no more than them in any period. -/
structure Within (organization : AIOrganizationRecord) (s : MeteredState) : Prop where
  stays : s.db.organizations.find organization.id = some organization
  created : ∀ usage ∈ s.db.usageRecords.rows, usage.organizationId = organization.id →
    usage.createdAt ≤ s.now
  held_le : ∀ limit index,
    held limit organization.id index s.db.usageRecords ≤ limit.bound organization

variable {organization : AIOrganizationRecord}

namespace Within

variable {s : MeteredState} {usages : Table usageSchema}

theorem later (h : Within organization s) (hnow : s.now ≤ now) : Within organization ⟨s.db, now⟩ :=
  ⟨h.stays, fun usage hm horg => (h.created usage hm horg).trans hnow, h.held_le⟩

theorem settled (h : Within organization s) (hsettled : Settled s.db.usageRecords usages) :
    Within organization ⟨{ s.db with usageRecords := usages }, s.now⟩ where
  stays := h.stays
  created usage hm horg := by
    obtain ⟨old, hold, horg', hcreated⟩ := hsettled.created usage hm
    exact hcreated ▸ h.created old hold (horg'.trans horg)
  held_le limit index :=
    (hsettled.held_le limit organization.id index).trans (h.held_le limit index)

/-- A record whose charge the limits leave room for may be added. -/
theorem insert {usage : AIUsageRecord} (h : Within organization s)
    (hinsert : s.db.usageRecords.insert? usage = some usages) (hcreated : usage.createdAt = s.now)
    (hroom : usage.organizationId = organization.id → ∀ limit : Limit,
      held limit organization.id (limit.period.index s.now) s.db.usageRecords +
        limit.charge usage ≤ limit.bound organization) :
    Within organization ⟨{ s.db with usageRecords := usages }, s.now⟩ where
  stays := h.stays
  created other hm horg := by
    have hm : other ∈ usages.rows := hm
    rw [Table.rows_insert hinsert] at hm
    rcases List.mem_append.mp hm with hm | hm
    · exact h.created other hm horg
    · rw [List.mem_singleton.mp hm, hcreated]
  held_le limit index := by
    have hheld : held limit organization.id index usages =
        held limit organization.id index s.db.usageRecords +
          if isHeld limit organization.id index usage then limit.charge usage else 0 := by
      simp [held, Table.rows_insert hinsert]
    show held limit organization.id index usages ≤ _
    rw [hheld]
    split
    · next hnew =>
      simp only [isHeld, Bool.and_eq_true, decide_eq_true_eq] at hnew
      obtain ⟨⟨horg, -⟩, rfl⟩ := hnew
      rw [hcreated]
      exact hroom horg limit
    · rw [add_zero]
      exact h.held_le limit index

end Within

theorem room_of_admits {estimatedTokens : Int} {usage : AIUsageRecord}
    (h : AIUsageController.Admits organization summary estimatedTokens)
    (hrequests : usage.reservedRequests = 1) (htokens : usage.reservedTokens = estimatedTokens)
    (limit : Limit) : limit.figure summary + limit.charge usage ≤ limit.bound organization := by
  unfold AIUsageController.Admits at h
  cases limit <;> simp only [Limit.figure, Limit.charge, Limit.bound] <;> omega

theorem Within.reserve {controller : AIUsageController} {reservationId runId other id : UUID}
    {candidateCount : Int} (h : Within organization ⟨db, now⟩)
    (hrun : Runs (controller.reserveMetered reservationId other runId candidateCount now) db id db') :
    Within organization ⟨db', now⟩ := by
  simp only [AIUsageController.reserveMetered, unitOfWork, runs_bind, runs_mapError, runs_require,
    runs_pure] at hrun
  obtain ⟨caller, _, hget, _, _, ⟨-, rfl⟩, _, _, hrelease, summary, _, hsummary, _, _,
    ⟨hadmits, rfl⟩, usage, _, hreserve, -, rfl⟩ := hrun
  obtain ⟨hfind, rfl⟩ := runs_getOrganization hget
  obtain ⟨usages, hsettled, rfl, hexpired⟩ := runs_releaseExpired hrelease
  obtain ⟨rfl, -⟩ := figure_eq hsummary .dailyRequests
  obtain ⟨rfl, usages', hinsert, rfl⟩ := runs_reserve hreserve
  have hwithin := h.settled hsettled
  refine hwithin.insert hinsert rfl fun horg limit => ?_
  obtain rfl : other = organization.id := horg
  obtain rfl := Option.some.inj (hfind.symm.trans h.stays)
  have hcounted := held_le_figure limit hsummary hwithin.created hexpired
  exact (Int.add_le_add_right hcounted _).trans (room_of_admits hadmits rfl rfl limit)

theorem Within.run {call : UsageCall} {u : Unit} (h : Within organization ⟨db, now⟩)
    (hrun : Runs (call.run now) db u db') : Within organization ⟨db', now⟩ := by
  cases call with
  | reserve controller reservationId other runId candidateCount =>
    obtain ⟨_, hrun⟩ := runs_void.mp hrun
    unfold AIUsageController.reserve at hrun
    split at hrun
    · simp only [runs_bind, runs_require, runs_pure] at hrun
      obtain ⟨_, _, ⟨-, rfl⟩, _, _, hmetered, -, rfl⟩ := hrun
      exact h.reserve hmetered
    · obtain ⟨-, rfl⟩ := runs_pure.mp hrun
      exact h
  | finalize reservationId other inputTokens outputTokens =>
    obtain ⟨_, hrun⟩ := runs_void.mp hrun
    obtain ⟨usages, hsettled, rfl⟩ := runs_finalize (runs_mapError.mp hrun)
    exact h.settled hsettled
  | release reservationId other =>
    obtain ⟨_, hrun⟩ := runs_void.mp hrun
    obtain ⟨usages, hsettled, rfl⟩ := runs_release (runs_mapError.mp hrun)
    exact h.settled hsettled
  | summary other =>
    obtain ⟨summary, hrun⟩ := runs_void.mp hrun
    simp only [AIUsageController.summary, unitOfWork, runs_mapError, runs_bind] at hrun
    obtain ⟨_, _, hget, _, _, hrelease, hsummary⟩ := hrun
    obtain ⟨-, rfl⟩ := runs_getOrganization hget
    obtain ⟨usages, hsettled, rfl, -⟩ := runs_releaseExpired hrelease
    obtain ⟨rfl, -⟩ := figure_eq hsummary .dailyRequests
    exact h.settled hsettled

theorem Within.step {s s' : MeteredState} {call : UsageCall × Instant}
    (h : Within organization s) (hstep : s.step call = some s') : Within organization s' := by
  unfold MeteredState.step at hstep
  split at hstep
  · next hnow =>
    obtain rfl := Option.some.inj hstep
    have hlater := h.later hnow
    cases hresult : atomically (call.1.run call.2) s.db with
    | mk result db' =>
      cases result with
      | ok u => exact hlater.run (atomically_ok.mp hresult)
      | error e => exact (of_atomically_error hresult).1 ▸ hlater
  · cases hstep

/-- An organization that has no records is within its limits. -/
theorem within_of_none {s : MeteredState}
    (hstays : s.db.organizations.find organization.id = some organization)
    (h : ∀ usage ∈ s.db.usageRecords.rows, usage.organizationId ≠ organization.id) :
    Within organization s where
  stays := hstays
  created usage hm horg := absurd horg (h usage hm)
  held_le limit index := by
    have hnone : held limit organization.id index s.db.usageRecords = 0 := by
      refine List.sum_eq_zero fun charge hcharge => ?_
      obtain ⟨usage, hm, rfl⟩ := List.mem_map.mp hcharge
      exact if_neg (by simp [isHeld, h usage hm])
    rw [hnone]
    cases limit <;> exact Int.natCast_nonneg _

theorem within_of_reaches {s s' : MeteredState}
    (hstays : s.db.organizations.find organization.id = some organization)
    (h : ∀ usage ∈ s.db.usageRecords.rows, usage.organizationId ≠ organization.id)
    (hreach : Reaches MeteredState.step Always s s') : Within organization s' :=
  hreach.invariant (fun _ _ _ hwithin _ hstep => hwithin.step hstep) (within_of_none hstays h)

/-- The records of the organization that were created in a period and that count at a moment. -/
def activeIn (period : Period) (organizationId : UUID) (index : Int) (t : Instant)
    (db : TenantDatabase) : List AIUsageRecord :=
  db.usageRecords.rows.filter fun usage => decide (usage.organizationId = organizationId) &&
    decide (period.index usage.createdAt = index) && usage.isActive t

/-- Every record that counts is held for its request. -/
theorem length_activeIn_le {limit : Limit}
    (hlimit : limit = .dailyRequests ∨ limit = .monthlyRequests) (index : Int) :
    ((activeIn limit.period organizationId index t db).length : Int) ≤
      held limit organizationId index db.usageRecords := by
  have hlength : ((activeIn limit.period organizationId index t db).length : Int) =
      ((activeIn limit.period organizationId index t db).map fun _ => (1 : Int)).sum := by
    simp
  rw [hlength, activeIn, sum_filter_map]
  refine List.sum_le_sum fun usage hm => ?_
  have hcheck := db.usageRecords.valid.2.2 usage hm
  have hcharge : limit.charge usage = 1 := by
    rcases hlimit with rfl | rfl <;> exact (check_iff.mp hcheck).1
  split
  · next hactive =>
    simp only [Bool.and_eq_true, decide_eq_true_eq] at hactive
    obtain ⟨⟨horg, hindex⟩, hactive⟩ := hactive
    have hopen : usage.status ≠ .released := by
      intro hstatus
      simp [AIUsageRecord.isActive, hstatus] at hactive
    rw [if_pos (by simp [isHeld, horg, hindex, hopen]), hcharge]
  · split
    · exact charge_nonneg _ hcheck
    · exact le_refl _

/-! ### An organization with small limits -/

/-- Two requests a day and three a month, a thousand tokens a day and two thousand a month. -/
def meteredOrganization : AIOrganizationRecord where
  id := 1
  hostedAiEnabled := true
  aiDailyRequestLimit := 2
  aiMonthlyRequestLimit := 3
  aiDailyTokenLimit := 1000
  aiMonthlyTokenLimit := 2000

def meteredRun : ReconciliationRunRecord := { id := 2, organizationId := 1, createdAt := 0 }

def meteredStart : MeteredState where
  db := {
    runs := ⟨[meteredRun], by decide⟩, sourceFiles := .empty, configurations := .empty
    organizations := ⟨[meteredOrganization], by decide⟩ }
  now := 0

theorem none_metered : ∀ usage ∈ meteredStart.db.usageRecords.rows,
    usage.organizationId ≠ meteredOrganization.id :=
  fun _ hm => absurd hm List.not_mem_nil

def hosted : AIUsageController where
  providerName := "openai-compatible"
  modelVersion := "hosted-v1"
  reservationTtlSeconds := 120

/-- One candidate is estimated at 256 tokens, and the provider reports 4500. -/
def overspend : List (UsageCall × Instant) :=
  [(.reserve hosted 3 1 2 1, 1000000), (.finalize 3 1 4000 500, 2000000)]

/-- **The request limits hold.**  Whatever the calls, of the records created in a UTC day or month
no more than the organization's limit are finalized or reserved and unexpired, at any moment. -/
theorem requests_within {s s' : MeteredState}
    (hstays : s.db.organizations.find organization.id = some organization)
    (hnone : ∀ usage ∈ s.db.usageRecords.rows, usage.organizationId ≠ organization.id)
    (hreach : Reaches MeteredState.step Always s s') (t : Instant) :
    (∀ day, (activeIn .day organization.id day t s'.db).length ≤
      organization.aiDailyRequestLimit) ∧
    ∀ month, (activeIn .month organization.id month t s'.db).length ≤
      organization.aiMonthlyRequestLimit := by
  have hwithin := within_of_reaches hstays hnone hreach
  constructor
  · intro day
    exact Int.ofNat_le.mp ((length_activeIn_le (.inl rfl) day).trans
      (hwithin.held_le .dailyRequests day))
  · intro month
    exact Int.ofNat_le.mp ((length_activeIn_le (.inr rfl) month).trans
      (hwithin.held_le .monthlyRequests month))

theorem requests_within_overspend : ∃ s, Reaches MeteredState.step Always meteredStart s ∧
    (∀ day, (activeIn .day meteredOrganization.id day 3000000 s.db).length ≤ 2) ∧
      ∀ month, (activeIn .month meteredOrganization.id month 3000000 s.db).length ≤ 3 := by
  have hreach := reaches_of_exec (rfl : exec MeteredState.step Always overspend meteredStart = some _)
  exact ⟨_, hreach, requests_within rfl none_metered hreach 3000000⟩

/-- **The tokens that are counted** never exceed a limit by more than finalized calls of the period
have used beyond what they reserved. -/
theorem tokens_within {s s' : MeteredState}
    (hstays : s.db.organizations.find organization.id = some organization)
    (hnone : ∀ usage ∈ s.db.usageRecords.rows, usage.organizationId ≠ organization.id)
    (hreach : Reaches MeteredState.step Always s s') (ht : s'.now ≤ t)
    (hsummary : Runs (AIUsageController.summarize organization.id t) s'.db summary db') :
    summary.dailyTokens ≤ organization.aiDailyTokenLimit +
        excess .day organization.id (Period.day.index t) s'.db.usageRecords ∧
      summary.monthlyTokens ≤ organization.aiMonthlyTokenLimit +
        excess .month organization.id (Period.month.index t) s'.db.usageRecords := by
  have hwithin := (within_of_reaches hstays hnone hreach).later ht
  exact ⟨(tokens_le (.inl rfl) hsummary hwithin.created).trans
      (Int.add_le_add_right (hwithin.held_le .dailyTokens _) _),
    (tokens_le (.inr rfl) hsummary hwithin.created).trans
      (Int.add_le_add_right (hwithin.held_le .monthlyTokens _) _)⟩

theorem tokens_within_overspend : ∃ s, Reaches MeteredState.step Always meteredStart s ∧
    ∃ summary, Runs (AIUsageController.summarize meteredOrganization.id 3000000) s.db summary s.db ∧
      summary.dailyTokens ≤ meteredOrganization.aiDailyTokenLimit +
        excess .day meteredOrganization.id (Period.day.index 3000000) s.db.usageRecords ∧
      summary.monthlyTokens ≤ meteredOrganization.aiMonthlyTokenLimit +
        excess .month meteredOrganization.id (Period.month.index 3000000) s.db.usageRecords := by
  have hreach := reaches_of_exec (rfl : exec MeteredState.step Always overspend meteredStart = some _)
  exact ⟨_, hreach, _, rfl, tokens_within rfl none_metered hreach (by decide) rfl⟩

/-- A provider that reports more than the estimate takes the organization over its limit. -/
theorem tokens_exceeded : ∃ s, Reaches MeteredState.step Always meteredStart s ∧
    ∃ summary, Runs (AIUsageController.summarize meteredOrganization.id s.now) s.db summary s.db ∧
      meteredOrganization.aiDailyTokenLimit < summary.dailyTokens := by
  have hreach := reaches_of_exec (rfl : exec MeteredState.step Always overspend meteredStart = some _)
  refine ⟨_, hreach, _, rfl, ?_⟩
  decide +kernel

end ReconcileFlow.AI
