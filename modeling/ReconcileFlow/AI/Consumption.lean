import ReconcileFlow.AI.Limits
import ReconcileFlow.AI.Statements

/-!
# AI — Consumption

What has been consumed stays consumed.  The writes of `release_expired` reach reservations that
were finalized after it had selected them, which loses what they had consumed
(`consumption_lost`).  That is the only way: as long as no transaction commits such a write, a
finalized record stays as it was finalized, and counts (`finalized_stays`).
-/

namespace ReconcileFlow.AI.Statements

open Support Support.ReadCommitted Support.Calendar
open Persistence (UUID Instant AIUsageStatus AIUsageRecord AIOrganizationRecord usageSchema)
open Tenancy (TenantDatabase TenantSession)

/-! ### Usage in time -/

/-- `after` is the same record, and finalized with the same tokens if `usage` was finalized. -/
structure Outlasts (usage after : AIUsageRecord) : Prop where
  organization : after.organizationId = usage.organizationId
  created : after.createdAt = usage.createdAt
  finalized : usage.status = .finalized → after.status = .finalized ∧
    after.inputTokens = usage.inputTokens ∧ after.outputTokens = usage.outputTokens

/-- Every record of `s` is still there in `t`. -/
def Accumulates (s t : Table usageSchema) : Prop :=
  ∀ id usage, s.find id = some usage → ∃ after, t.find id = some after ∧ Outlasts usage after

/-- The record was finalized with these tokens. -/
def Consumed (usageId : UUID) (inputTokens outputTokens : Int) (usages : Table usageSchema) :
    Prop :=
  ∃ usage ∈ usages.find usageId, usage.status = .finalized ∧ usage.inputTokens = inputTokens ∧
    usage.outputTokens = outputTokens

instance (usageId : UUID) (inputTokens outputTokens : Int) (usages : Table usageSchema) :
    Decidable (Consumed usageId inputTokens outputTokens usages) :=
  inferInstanceAs (Decidable (∃ _ ∈ usages.find usageId, _))

/-- None of the records has been finalized. -/
def Unconsumed (usageIds : List UUID) (usages : Table usageSchema) : Prop :=
  ∀ id ∈ usageIds, (usages.find id).all fun usage => decide (usage.status ≠ .finalized)

instance (usageIds : List UUID) (usages : Table usageSchema) :
    Decidable (Unconsumed usageIds usages) :=
  List.decidableBAll _ usageIds

/-- What the lock on a record protects. -/
def SameUsage : UsageLock → TenantDatabase → TenantDatabase → Prop
  | .usage id, s, t => s.usageRecords.find id = t.usageRecords.find id
  | _, _, _ => True

/-- What a transaction has selected for release has not been finalized since. -/
def ReleasesUnconsumed : UsageCommit → TenantDatabase → Prop
  | .released usageIds, db => Unconsumed usageIds db.usageRecords
  | _, _ => True

instance : ∀ label db, Decidable (ReleasesUnconsumed label db)
  | .released usageIds, db => inferInstanceAs (Decidable (Unconsumed usageIds db.usageRecords))
  | .finalized .., _ => .isTrue trivial
  | .other, _ => .isTrue trivial

/-- What a finalization leaves. -/
def Finalizes : UsageCommit → TenantDatabase → TenantDatabase → Prop
  | .finalized usageId inputTokens outputTokens, _, t =>
    Consumed usageId inputTokens outputTokens t.usageRecords
  | _, _, _ => True

theorem Outlasts.refl (usage : AIUsageRecord) : Outlasts usage usage :=
  ⟨rfl, rfl, fun h => ⟨h, rfl, rfl⟩⟩

theorem Outlasts.trans {usage after last : AIUsageRecord} (h : Outlasts usage after)
    (h' : Outlasts after last) : Outlasts usage last := by
  refine ⟨h'.organization.trans h.organization, h'.created.trans h.created, fun hfinalized => ?_⟩
  obtain ⟨hafter, hinput, houtput⟩ := h.finalized hfinalized
  obtain ⟨hlast, hinput', houtput'⟩ := h'.finalized hafter
  exact ⟨hlast, hinput'.trans hinput, houtput'.trans houtput⟩

/-- Closing a record that is not finalized. -/
theorem Outlasts.of_closes {usage after : AIUsageRecord} (h : Closes usage after)
    (hopen : usage.status ≠ .finalized) : Outlasts usage after := by
  cases h with
  | released now => exact ⟨rfl, rfl, fun hfinalized => absurd hfinalized hopen⟩
  | finalized input output now => exact ⟨rfl, rfl, fun hfinalized => absurd hfinalized hopen⟩

theorem Accumulates.refl (s : Table usageSchema) : Accumulates s s :=
  fun _ usage h => ⟨usage, h, .refl usage⟩

theorem Accumulates.trans {s t u : Table usageSchema} (h : Accumulates s t)
    (h' : Accumulates t u) : Accumulates s u := by
  intro id usage hfind
  obtain ⟨after, hafter, houtlasts⟩ := h id usage hfind
  obtain ⟨last, hlast, houtlasts'⟩ := h' id after hafter
  exact ⟨last, hlast, houtlasts.trans houtlasts'⟩

theorem SameUsage.refl (k : UsageLock) (s : TenantDatabase) : SameUsage k s s := by
  cases k with
  | usage id => exact Eq.refl (s.usageRecords.find id)
  | organization id => exact trivial

theorem SameUsage.trans {k : UsageLock} {s t u : TenantDatabase} (h : SameUsage k s t)
    (h' : SameUsage k t u) : SameUsage k s u := by
  cases k with
  | usage id => exact Eq.trans h h'
  | organization id => exact trivial

def metering : Contract TenantDatabase UsageLock UsageCommit where
  Inv _ := True
  Rely s t := Accumulates s.usageRecords t.usageRecords
  Same := SameUsage
  Ok := ReleasesUnconsumed
  Post := Finalizes
  rely_refl s := .refl s.usageRecords
  rely_trans := .trans
  same_refl := .refl
  same_trans := .trans

/-! ### Changes of the table -/

section

variable {usages : Table usageSchema} {usage after : AIUsageRecord}

theorem find_put_usage (hfind : usages.find usage.id = some usage) (h : Closes usage after)
    (hcheck : usageSchema.check after = true) (id : UUID) :
    (usages.put after).find id = if id = usage.id then some after else usages.find id := by
  have hid : after.id = usage.id := by cases h <;> rfl
  have hstored : usages.find (usageSchema.key after) = some usage := by
    rw [← hfind, ← hid]
    rfl
  rw [← hid]
  exact Table.find_put hstored hcheck (fun _ => ⟨rfl, rfl⟩) id

theorem check_released {id : UUID} (hfind : usages.find id = some usage) (now : Instant) :
    usageSchema.check (usage.released now) = true :=
  (Table.check_of_find hfind : usageSchema.check usage = true)

theorem find_releaseRow (now : Instant) (usages : Table usageSchema) (usageId id : UUID) :
    (AIUsageRepository.releaseRow now usages usageId).find id =
      if id = usageId then (usages.find id).map (·.released now) else usages.find id := by
  unfold AIUsageRepository.releaseRow
  cases hfind : usages.find usageId with
  | none =>
    by_cases hid : id = usageId
    · simp [hid, hfind]
    · simp [hid]
  | some usage =>
    obtain rfl : usage.id = usageId := Table.key_of_find hfind
    dsimp only
    rw [find_put_usage hfind (.released now) (check_released hfind now)]
    by_cases hid : id = usage.id
    · simp [hid, hfind]
    · simp [hid]

/-- Releasing the rows of a list, one after another. -/
theorem find_releaseRows (now : Instant) (usages : Table usageSchema) (usageIds : List UUID)
    (id : UUID) :
    (usageIds.foldl (AIUsageRepository.releaseRow now) usages).find id =
      if id ∈ usageIds then (usages.find id).map (·.released now) else usages.find id :=
  Table.find_foldl (f := (·.released now)) (fun _ => rfl) (find_releaseRow now) usages usageIds id

end

/-- A commit makes the second table of `t`, under the locks `L`. -/
inductive UsageChange (L : Set UsageLock) (t : Table usageSchema) :
    UsageCommit → Table usageSchema → Prop
  | nothing : UsageChange L t .other t
  | closed {usage : AIUsageRecord} {now : Instant} :
      t.find usage.id = some usage → usage.status = .reserved → .usage usage.id ∈ L →
      UsageChange L t .other (t.put (usage.released now))
  | finalized {usage : AIUsageRecord} {inputTokens outputTokens : Int} {now : Instant} :
      t.find usage.id = some usage → usage.status = .reserved → .usage usage.id ∈ L →
      usageSchema.check (usage.finalized inputTokens outputTokens now) = true →
      UsageChange L t (.finalized usage.id inputTokens outputTokens)
        (t.put (usage.finalized inputTokens outputTokens now))
  | released {usageIds : List UUID} {now : Instant} : (∀ id ∈ usageIds, .usage id ∈ L) →
      UsageChange L t (.released usageIds)
        (usageIds.foldl (AIUsageRepository.releaseRow now) t)
  | reserved {usageIds : List UUID} {now : Instant} {usage : AIUsageRecord} :
      (∀ id ∈ usageIds, .usage id ∈ L) → .usage usage.id ∈ L →
      UsageChange L t (.released usageIds)
        ((usageIds.foldl (AIUsageRepository.releaseRow now) t).add usage)

namespace UsageChange

variable {L : Set UsageLock} {t t' : Table usageSchema} {label : UsageCommit}

/-- Releasing what has not been finalized loses nothing. -/
theorem accumulates_release {usageIds : List UUID} {now : Instant} (hok : Unconsumed usageIds t) :
    Accumulates t (usageIds.foldl (AIUsageRepository.releaseRow now) t) := by
  intro id usage hfind
  have hreleased := find_releaseRows now t usageIds id
  rw [hfind] at hreleased
  by_cases hid : id ∈ usageIds
  · have hopen : usage.status ≠ .finalized := by
      have hall := hok id hid
      rw [hfind] at hall
      exact of_decide_eq_true hall
    rw [if_pos hid] at hreleased
    exact ⟨_, hreleased, Outlasts.of_closes (.released now) hopen⟩
  · rw [if_neg hid] at hreleased
    exact ⟨usage, hreleased, .refl usage⟩

theorem accumulates_put {usage after : AIUsageRecord} (hfind : t.find usage.id = some usage)
    (hstatus : usage.status = .reserved) (h : Closes usage after)
    (hcheck : usageSchema.check after = true) : Accumulates t (t.put after) := by
  intro id before hbefore
  have hput := find_put_usage hfind h hcheck id
  by_cases hid : id = usage.id
  · rw [if_pos hid] at hput
    rw [hid, hfind] at hbefore
    obtain rfl := Option.some.inj hbefore
    exact ⟨after, hput, Outlasts.of_closes h (by rw [hstatus]; exact AIUsageStatus.noConfusion)⟩
  · rw [if_neg hid] at hput
    exact ⟨before, hput.trans hbefore, .refl before⟩

theorem accumulates (h : UsageChange L t label t') {db : TenantDatabase}
    (hdb : db.usageRecords = t) (hok : ReleasesUnconsumed label db) : Accumulates t t' := by
  subst hdb
  cases h with
  | nothing => exact .refl _
  | closed hfind hstatus _ =>
    exact accumulates_put hfind hstatus (.released _) (check_released hfind _)
  | finalized hfind hstatus _ hcheck =>
    exact accumulates_put hfind hstatus (.finalized _ _ _) hcheck
  | released _ => exact accumulates_release hok
  | reserved _ _ =>
    intro id usage hfind
    obtain ⟨after, hafter, houtlasts⟩ := accumulates_release hok id usage hfind
    exact ⟨after, Table.find_add_of_find hafter, houtlasts⟩

/-- A record that the client has not locked stays as it is. -/
theorem find_eq (h : UsageChange L t label t') {id : UUID} (hid : .usage id ∉ L) :
    t.find id = t'.find id := by
  have hne {other : UUID} (hlock : UsageLock.usage other ∈ L) : id ≠ other :=
    fun he => hid (he ▸ hlock)
  cases h with
  | nothing => rfl
  | @closed usage now _ _ hlock =>
    exact (Table.find_put_of_ne (S := usageSchema) (r := usage.released now) t (hne hlock)).symm
  | @finalized usage input output now _ _ hlock _ =>
    exact (Table.find_put_of_ne (S := usageSchema) (r := usage.finalized input output now) t
      (hne hlock)).symm
  | @released usageIds now hlocks =>
    rw [find_releaseRows, if_neg fun hm => hid (hlocks id hm)]
  | @reserved usageIds now usage hlocks hlock =>
    rw [Table.find_add_of_ne (S := usageSchema) _ (hne hlock), find_releaseRows,
      if_neg fun hm => hid (hlocks id hm)]

/-- **Every change keeps to the contract.** -/
theorem commits {db db' : TenantDatabase}
    (h : UsageChange L db.usageRecords label db'.usageRecords) (hok : metering.Ok label db) :
    metering.Commits label L db db' := by
  refine ⟨trivial, h.accumulates rfl hok, fun k hk => ?_, ?_⟩
  · cases k with
    | usage id => exact h.find_eq hk
    | organization id => exact trivial
  · cases label with
    | finalized usageId input output =>
      show Consumed usageId input output db'.usageRecords
      generalize db'.usageRecords = t' at h
      cases h with
      | @finalized usage _ _ now hfind _ _ hcheck =>
        have hstored := find_put_usage hfind (.finalized input output now) hcheck usage.id
        rw [if_pos rfl] at hstored
        exact ⟨_, hstored, rfl, rfl, rfl⟩
    | released usageIds => exact trivial
    | other => exact trivial

end UsageChange

/-! ### What the requests commit -/

section

variable {α : Type} {L : Set UsageLock} {s : TenantDatabase}
  {pending : TenantDatabase → TenantDatabase}

theorem wpr_query {statement : TenantSession α}
    {post : α → (TenantDatabase → TenantDatabase) → Set UsageLock → TenantDatabase → Prop}
    (h : ∀ a t, post a pending L t) :
    wpr metering (query statement) post Whatever pending L s := by
  refine wp_get.mpr fun t _ => ?_
  cases ((statement.run (pending t)).map Prod.fst).mapError Failure.database with
  | ok a => exact h a t
  | error e => exact trivial

/-- The writes of `release_expired`, once they are all made. -/
def releaseAll (now : Instant) (usageIds : List UUID) (db : TenantDatabase) : TenantDatabase :=
  { db with usageRecords := usageIds.foldl (AIUsageRepository.releaseRow now) db.usageRecords }

theorem wp_releaseRows {now : Instant} {usageIds : List UUID}
    {post : Unit → (TenantDatabase → TenantDatabase) → Set UsageLock → TenantDatabase → Prop}
    (h : ∀ t, post () (fun db => releaseAll now usageIds (pending db))
      (L ∪ {k | ∃ id ∈ usageIds, .usage id = k}) t) :
    wp metering (AIUsageRepository.releaseRows now usageIds) post pending L s := by
  induction usageIds generalizing pending L s with
  | nil =>
    have hnil : L ∪ {k | ∃ id ∈ ([] : List UUID), UsageLock.usage id = k} = L := by simp
    exact hnil ▸ h s
  | cons first usageIds ih =>
    intro t _
    refine ih fun u => ?_
    have hlocks : insert (UsageLock.usage first) L ∪ {k | ∃ id ∈ usageIds, .usage id = k} =
        L ∪ {k | ∃ id ∈ first :: usageIds, .usage id = k} := by
      ext k
      simp only [Set.mem_union, Set.mem_insert_iff, Set.mem_ofPred_eq, List.mem_cons]
      grind
    rw [hlocks]
    exact h u

theorem wpr_releaseExpired {organizationId : UUID} {now : Instant}
    {post : List UUID → (TenantDatabase → TenantDatabase) → Set UsageLock → TenantDatabase → Prop}
    (h : ∀ usageIds t, post usageIds (releaseAll now usageIds)
      (L ∪ {k | ∃ id ∈ usageIds, .usage id = k}) t) :
    wpr metering (AIUsageRepository.releaseExpired organizationId now) post Whatever id L s := by
  refine wpr_bind.mpr (wpr_lift.mpr (wp_get.mpr fun t _ => ?_))
  exact wpr_bind.mpr (wpr_lift.mpr (wp_releaseRows fun u => wpr_pure.mpr (h _ u)))

theorem wpr_summarize {organizationId : UUID} {now : Instant}
    {post : AIUsageSummary → (TenantDatabase → TenantDatabase) → Set UsageLock →
      TenantDatabase → Prop} (h : ∀ summary t, post summary pending L t) :
    wpr metering (AIUsageController.summarize organizationId now) post Whatever pending L s := by
  refine wpr_bind.mpr (wpr_query fun daily t => ?_)
  exact wpr_bind.mpr (wpr_query fun monthly u => wpr_pure.mpr (h _ u))

/-- The record is the stored one, and locked. -/
theorem wpr_getLocked {reservationId organizationId : UUID}
    {post : AIUsageRecord → (TenantDatabase → TenantDatabase) → Set UsageLock →
      TenantDatabase → Prop}
    (h : ∀ usage t, t.usageRecords.find usage.id = some usage → usage.id = reservationId →
      post usage id {.usage usage.id} t) :
    wpr metering (AIUsageRepository.getLocked reservationId organizationId) post Whatever id ∅ s := by
  refine wpr_bind.mpr (wpr_lift.mpr (wp_selectForUpdate.mpr fun t _ => ?_))
  have hkey {db : TenantDatabase} {usage : AIUsageRecord}
      (hfound : (db.usageRecords.find reservationId).filter (fun usage =>
        decide (usage.organizationId = organizationId)) = some usage) :
      db.usageRecords.find usage.id = some usage ∧ usage.id = reservationId := by
    obtain ⟨hfind, -⟩ := Option.filter_eq_some_iff.mp hfound
    have hid : usage.id = reservationId := Table.key_of_find hfind
    exact ⟨hid ▸ hfind, hid⟩
  cases hrow : (t.usageRecords.find reservationId).filter fun usage =>
      decide (usage.organizationId = organizationId) with
  | none =>
    simp only [id_eq, hrow]
    exact wpr_expect.mpr ⟨by rintro _ ⟨⟩, fun _ => trivial⟩
  | some row =>
    simp only [id_eq, hrow]
    refine fun u _ => wpr_expect.mpr ⟨fun usage hagain => ?_, fun _ => trivial⟩
    obtain ⟨hfind, hid⟩ := hkey hagain
    have hlocks : insert (UsageLock.usage row.id) ∅ = ({.usage usage.id} : Set UsageLock) := by
      rw [(hkey hrow).2, hid]
      simp
    rw [hlocks]
    exact h usage u hfind hid

/-- A record whose lock is held is not changed by others. -/
theorem find_of_interferes {t u : TenantDatabase} {id : UUID} {usage : Option AIUsageRecord}
    (hu : metering.Interferes L t u) (hlock : .usage id ∈ L)
    (hfind : t.usageRecords.find id = usage) : u.usageRecords.find id = usage :=
  (Eq.symm (hu.same _ hlock)).trans hfind

variable {controller : AIUsageController}

theorem wpr_reserve {reservationId organizationId runId : UUID} {candidateCount : Int}
    {now : Instant} :
    wpr metering (AIUsageController.reserve controller reservationId organizationId runId
      candidateCount now) Whatever Whatever id ∅ s := by
  unfold AIUsageController.reserve
  split
  · refine wpr_bind.mpr (wpr_ensure.mpr ⟨fun _ => ?_, fun _ => trivial⟩)
    refine wpr_bind.mpr (wpr_committable (fun _ _ => trivial) (fun _ _ => trivial) ?_)
    refine wpr_bind.mpr (wpr_bind.mpr (wpr_lift.mpr (wp_selectForUpdate_any fun found L t _ => ?_)))
    refine wpr_expect.mpr ⟨fun organization _ => ?_, fun _ => trivial⟩
    refine wpr_bind.mpr (wpr_ensure.mpr ⟨fun _ => ?_, fun _ => trivial⟩)
    refine wpr_bind.mpr (wpr_releaseExpired fun usageIds u => ?_)
    refine wpr_bind.mpr (wpr_summarize fun summary v => ?_)
    refine wpr_bind.mpr (wpr_ensure.mpr ⟨fun _ => ?_, fun _ => trivial⟩)
    refine wpr_bind.mpr (wpr_bind.mpr (wpr_query fun _ w => ?_))
    refine wpr_bind.mpr (wpr_insert trivial (fun x _ _ => ?_) fun _ _ => trivial)
    refine wpr_pure.mpr (wpr_pure.mpr fun y hy hok => ?_)
    refine UsageChange.commits (.reserved (fun id hid => .inl (.inr ⟨id, hid, rfl⟩)) ?_) hok
    exact .inr (List.mem_singleton.mpr rfl)
  · exact wpr_pure.mpr trivial

theorem wpr_finalize {reservationId organizationId : UUID} {inputTokens outputTokens : Int}
    {now : Instant} :
    wpr metering (AIUsageController.finalize reservationId organizationId inputTokens outputTokens
      now) Whatever Whatever id ∅ s := by
  refine wpr_committable (fun _ _ => trivial) (fun _ _ => trivial) ?_
  refine wpr_bind.mpr (wpr_getLocked fun usage t hfind hid => ?_)
  subst hid
  refine wpr_bind.mpr (wpr_ensure.mpr ⟨fun hstatus => ?_, fun _ => trivial⟩)
  refine wpr_bind.mpr (wpr_ensure.mpr ⟨fun hcheck => ?_, fun _ => trivial⟩)
  refine wpr_lift.mpr (wp_update.mpr fun u hu hok => ?_)
  have hstored := find_of_interferes hu rfl hfind
  exact UsageChange.commits (.finalized hstored hstatus rfl hcheck) hok

theorem wpr_release {reservationId organizationId : UUID} {now : Instant} :
    wpr metering (AIUsageController.release reservationId organizationId now) Whatever Whatever
      id ∅ s := by
  refine wpr_committable (fun _ _ => trivial) (fun _ _ => trivial) ?_
  refine wpr_bind.mpr (wpr_getLocked fun usage t hfind _ => ?_)
  split
  · next hstatus =>
    refine wpr_bind.mpr (wpr_ensure.mpr ⟨fun _ => ?_, fun _ => trivial⟩)
    refine wpr_lift.mpr (wp_update.mpr fun u hu hok => ?_)
    have hstored := find_of_interferes hu rfl hfind
    exact UsageChange.commits (.closed hstored hstatus rfl) hok
  · exact wpr_pure.mpr fun u hu hok => UsageChange.commits .nothing hok

theorem wpr_summary {organizationId : UUID} {now : Instant} :
    wpr metering (AIUsageController.summary organizationId now) Whatever Whatever id ∅ s := by
  refine wpr_bind.mpr (wpr_committable (fun _ _ => trivial) (fun _ _ => trivial) ?_)
  refine wpr_bind.mpr (wpr_query fun organization t => ?_)
  refine wpr_bind.mpr (wpr_releaseExpired fun usageIds u => ?_)
  refine wpr_bind.mpr (wpr_summarize fun summary v => wpr_pure.mpr fun w hw hok => ?_)
  exact UsageChange.commits (.released fun id hid => .inr ⟨id, hid, rfl⟩) hok

/-- **Every request keeps to the contract.** -/
theorem wp_metering {request : MeteringRequest} :
    wp metering (request.program controller) Whatever id ∅ s := by
  cases request with
  | reserve reservationId organizationId runId candidateCount now => exact wp_serve wpr_reserve
  | finalize reservationId organizationId input output now => exact wp_serve wpr_finalize
  | release reservationId organizationId now => exact wp_serve wpr_release
  | summary organizationId now => exact wp_serve wpr_summary

end

/-! ### What has been consumed -/

/-- So many tokens are among those that the organization has used since a moment. -/
def Counts (organizationId : UUID) (createdAt : Instant) (tokens : Int) (db : TenantDatabase) :
    Prop :=
  ∀ since now totals, since ≤ createdAt →
    Transaction.Runs (Tenancy.AIUsageRepository.summarize organizationId since now) db totals db →
    tokens ≤ totals.2

theorem tokens_nonneg {usages : Table usageSchema} {usage : AIUsageRecord}
    (hm : usage ∈ usages.rows) : 0 ≤ usage.tokens := by
  have hcheck : usageSchema.check usage = true := usages.valid.2.2 usage hm
  simp only [usageSchema, Bool.and_eq_true, decide_eq_true_eq] at hcheck
  unfold AIUsageRecord.tokens
  split <;> omega

theorem counts_of_find {db : TenantDatabase} {usage : AIUsageRecord}
    (hfind : db.usageRecords.find usage.id = some usage) (hstatus : usage.status = .finalized) :
    Counts usage.organizationId usage.createdAt (usage.inputTokens + usage.outputTokens) db := by
  intro since now totals hsince hrun
  simp only [Tenancy.AIUsageRepository.summarize, Transaction.runs_bind, Transaction.runs_reads,
    Transaction.runs_pure] at hrun
  obtain ⟨_, _, ⟨rfl, rfl⟩, rfl, -⟩ := hrun
  have htokens : usage.inputTokens + usage.outputTokens = usage.tokens := by
    simp [AIUsageRecord.tokens, hstatus]
  rw [htokens]
  refine List.single_le_sum (fun x hx => ?_) _ (List.mem_map_of_mem (List.mem_filter.mpr
    ⟨Table.mem_of_find hfind, ?_⟩))
  · obtain ⟨other, hother, rfl⟩ := List.mem_map.mp hx
    exact tokens_nonneg (List.mem_of_mem_filter hother)
  · simp [hsince, AIUsageRecord.isActive, hstatus]

/-- **A finalized record stays as it was finalized, and counts**, in every run in which no
transaction commits the release of a record that was finalized after it had selected it. -/
theorem finalized_stays {controller : AIUsageController}
    {w₀ w w' w'' : World TenantDatabase UsageLock UsageCommit} {n : ℕ} {usageId : UUID}
    {inputTokens outputTokens : Int} {next : Program TenantDatabase UsageLock UsageCommit Unit}
    (hidle : Idle w₀)
    (hrun : Reaches (step (MeteringRequest.program controller))
      (Allows ReleasesUnconsumed fun _ _ => True) w₀ w)
    (hcommit : w.program n = .commit (.finalized usageId inputTokens outputTokens) next)
    (hstep : w.advance n = some w')
    (hlater : Reaches (step (MeteringRequest.program controller))
      (Allows ReleasesUnconsumed fun _ _ => True) w' w'') :
    Consumed usageId inputTokens outputTokens w''.state.usageRecords ∧
      ∀ usage, w'.state.usageRecords.find usageId = some usage →
        Counts usage.organizationId usage.createdAt (inputTokens + outputTokens) w''.state := by
  have hcode : ∀ request s, metering.Inv s → True →
      wp metering (MeteringRequest.program controller request) Whatever id ∅ s :=
    fun _ _ _ _ => wp_metering
  have hsafe : Safe metering w := safe_of_reaches hcode hidle trivial hrun
  have hfinalizes := (hsafe.commits hcommit trivial).post
  have hallowed : Allows metering.Ok (fun _ _ => True) w (.advance n : Action MeteringRequest) := by
    show Permits metering.Ok w.state (w.program n)
    rw [hcommit]
    exact trivial
  have hsafe' : Safe metering w' := hsafe.advance hallowed hstep
  obtain ⟨-, hlater⟩ := rely_of_reaches hcode hsafe' hlater
  unfold World.advance at hstep
  rw [hcommit] at hstep
  obtain rfl := Option.some.inj hstep
  obtain ⟨usage, hfind, hstatus, rfl, rfl⟩ := hfinalizes
  obtain ⟨after, hafter, houtlasts⟩ := hlater usageId usage hfind
  obtain ⟨hfinalized, hinput, houtput⟩ := houtlasts.finalized hstatus
  refine ⟨⟨after, hafter, hfinalized, hinput, houtput⟩, fun before hbefore => ?_⟩
  obtain rfl := Option.some.inj (hfind.symm.trans hbefore)
  obtain rfl : after.id = usageId := Table.key_of_find hafter
  rw [← houtlasts.organization, ← houtlasts.created, ← hinput, ← houtput]
  exact counts_of_find hafter hfinalized

/-! ### Two clients -/

/-- Hosted inference is enabled, and nothing has been reserved. -/
def meteredWorld : World TenantDatabase UsageLock UsageCommit where
  state := meteredStart.db

theorem idle_meteredWorld : Idle meteredWorld := fun _ => rfl

/-- What the next statement of client `n` finalizes, if it is the commit of a finalization. -/
def finalizing (w : World TenantDatabase UsageLock UsageCommit) (n : ℕ) :
    Option (UUID × Int × Int) :=
  match w.program n with
  | .commit (.finalized usageId inputTokens outputTokens) _ =>
    some (usageId, inputTokens, outputTokens)
  | _ => none

theorem exists_finalization {w : World TenantDatabase UsageLock UsageCommit} {n : ℕ} {usageId : UUID}
    {inputTokens outputTokens : Int}
    (h : finalizing w n = some (usageId, inputTokens, outputTokens)) :
    ∃ next, w.program n = .commit (.finalized usageId inputTokens outputTokens) next := by
  unfold finalizing at h
  split at h
  · next usageId' input output next hprogram =>
    obtain ⟨rfl, hrest⟩ := Prod.mk.inj (Option.some.inj h)
    obtain ⟨rfl, rfl⟩ := Prod.mk.inj hrest
    exact ⟨next, hprogram⟩
  · cases h

/-- Client 0 reserves. -/
def reserving : List (Action MeteringRequest) :=
  .begin 0 (.reserve 3 1 2 1 0) :: List.replicate 10 (.advance 0)

/-- Client 1 is about to commit the finalization of the expired reservation. -/
def finalizingLate : List (Action MeteringRequest) :=
  .begin 1 (.finalize 3 1 40 5 400000000) :: List.replicate 3 (.advance 1)

/-- Client 0 asks for the summary. -/
def summarizing : List (Action MeteringRequest) :=
  .begin 0 (.summary 1 400000000) :: List.replicate 2 (.advance 0)

/-- A reservation that has expired is finalized, before another client asks for the summary. -/
theorem finalized_stays_summarized : ∃ (w w' w'' : World TenantDatabase UsageLock UsageCommit)
    (next : Program TenantDatabase UsageLock UsageCommit Unit),
    w.program 1 = .commit (.finalized 3 40 5) next ∧ w.advance 1 = some w' ∧
      Reaches (step (MeteringRequest.program hosted)) Always w' w'' ∧
      Consumed 3 40 5 w''.state.usageRecords := by
  have hrun : (exec (step (MeteringRequest.program hosted)) (Allows ReleasesUnconsumed fun _ _ => True)
      (reserving ++ finalizingLate) meteredWorld).any (fun w =>
      finalizing w 1 = some (3, 40, 5) ∧ (w.advance 1).any (fun w' =>
        (exec (step (MeteringRequest.program hosted)) (Allows ReleasesUnconsumed fun _ _ => True)
          (summarizing ++ List.replicate 3 (.advance 0)) w').isSome) = true) = true := by
    decide +kernel
  obtain ⟨w, hw, hready⟩ := (Option.any_eq_true _ _).mp hrun
  obtain ⟨hfinalizing, hstep⟩ := of_decide_eq_true hready
  obtain ⟨next, hcommit⟩ := exists_finalization hfinalizing
  obtain ⟨w', hw', hlater⟩ := (Option.any_eq_true _ _).mp hstep
  obtain ⟨w'', hw''⟩ := Option.isSome_iff_exists.mp hlater
  have hrest := reaches_of_exec hw''
  exact ⟨w, w', w'', next, hcommit, hw', hrest.mono fun _ _ _ => trivial,
    (finalized_stays idle_meteredWorld (reaches_of_exec hw) hcommit hw' hrest).1⟩

/-- Client 0 selects the expired reservation for release, client 1 finalizes it, and client 0
releases it. -/
theorem consumption_lost : ∃ (w w' w'' : World TenantDatabase UsageLock UsageCommit)
    (next : Program TenantDatabase UsageLock UsageCommit Unit), Idle meteredWorld ∧
      Reaches (step (MeteringRequest.program hosted)) Always meteredWorld w ∧
      w.program 1 = .commit (.finalized 3 40 5) next ∧ w.advance 1 = some w' ∧
      Reaches (step (MeteringRequest.program hosted)) Always w' w'' ∧
      ¬ Consumed 3 40 5 w''.state.usageRecords := by
  have hrun : (exec (step (MeteringRequest.program hosted)) Always
      (reserving ++ summarizing ++ finalizingLate) meteredWorld).any (fun w =>
      finalizing w 1 = some (3, 40, 5) ∧ (w.advance 1).any (fun w' =>
        (exec (step (MeteringRequest.program hosted)) Always (List.replicate 5 (.advance 0)) w').any
          fun w'' => ¬ Consumed 3 40 5 w''.state.usageRecords) = true) = true := by
    decide +kernel
  obtain ⟨w, hw, hready⟩ := (Option.any_eq_true _ _).mp hrun
  obtain ⟨hfinalizing, hstep⟩ := of_decide_eq_true hready
  obtain ⟨next, hcommit⟩ := exists_finalization hfinalizing
  obtain ⟨w', hw', hlater⟩ := (Option.any_eq_true _ _).mp hstep
  obtain ⟨w'', hw'', hlost⟩ := (Option.any_eq_true _ _).mp hlater
  exact ⟨w, w', w'', next, idle_meteredWorld, reaches_of_exec hw, hcommit, hw',
    reaches_of_exec hw'', of_decide_eq_true hlost⟩

end ReconcileFlow.AI.Statements
