import ReconcileFlow.AI.Usage

/-!
# AI — Effects

What the operations on usage records did when they returned.  A finalization, a release and the
release of what has expired close reservations and leave all else (`Settled`); a reservation adds a
record.
-/

namespace ReconcileFlow.AI

open Support Support.Transaction Support.Calendar Tenancy
open Persistence (UUID Instant AIUsageRecord AIOrganizationRecord usageSchema)

/-- A reservation is finalized or released. -/
inductive Closes (old : AIUsageRecord) : AIUsageRecord → Prop
  | released (now : Instant) : Closes old (old.released now)
  | finalized (inputTokens outputTokens : Int) (now : Instant) :
      Closes old (old.finalized inputTokens outputTokens now)

/-- Some reservations have been finalized or released. -/
structure Settled (s t : Table usageSchema) : Prop where
  sum_le : ∀ weight : AIUsageRecord → ℤ,
    (∀ old new, usageSchema.check old = true → old.status = .reserved → Closes old new →
      weight new ≤ weight old) → (t.rows.map weight).sum ≤ (s.rows.map weight).sum
  created : ∀ usage ∈ t.rows, ∃ old ∈ s.rows, old.organizationId = usage.organizationId ∧
    old.createdAt = usage.createdAt

namespace Settled

variable {s t u : Table usageSchema}

theorem refl : Settled s s :=
  ⟨fun _ _ => le_refl _, fun usage hm => ⟨usage, hm, rfl, rfl⟩⟩

theorem trans (h : Settled s t) (h' : Settled t u) : Settled s u where
  sum_le weight hweight := (h'.sum_le weight hweight).trans (h.sum_le weight hweight)
  created usage hm := by
    obtain ⟨old, hold, horg, hcreated⟩ := h'.created usage hm
    obtain ⟨older, holder, horg', hcreated'⟩ := h.created old hold
    exact ⟨older, holder, horg'.trans horg, hcreated'.trans hcreated⟩

/-- One reservation is closed. -/
theorem update {old new : AIUsageRecord} (hfind : s.find old.id = some old)
    (hstatus : old.status = .reserved) (hcloses : Closes old new) (h : s.update? new = some t) :
    Settled s t := by
  have hid : new.id = old.id := by cases hcloses <;> rfl
  have hsame : new.organizationId = old.organizationId ∧ new.createdAt = old.createdAt := by
    cases hcloses <;> exact ⟨rfl, rfl⟩
  constructor
  · intro weight hweight
    refine Table.sum_update_le h fun other hother => ?_
    have hfound : s.find old.id = some other := hid ▸ hother
    obtain rfl := Option.some.inj (hfind.symm.trans hfound)
    exact hweight old new (Table.check_of_find hfind) hstatus hcloses
  · intro usage hm
    rw [Table.rows_update h] at hm
    obtain ⟨other, hother, rfl⟩ := List.mem_map.mp hm
    split
    · exact ⟨old, Table.mem_of_find hfind, hsame.1.symm, hsame.2.symm⟩
    · exact ⟨other, hother, rfl, rfl⟩

end Settled

section

variable {db db' : TenantDatabase} {usage : AIUsageRecord} {organizationId : UUID} {now : Instant}

theorem runs_usageUpdate {u : Unit} {e : Persistence.Error}
    (h : Runs (TenantDatabase.usagePart.update e usage) db u db') :
    ∃ usages, db.usageRecords.update? usage = some usages ∧
      db' = { db with usageRecords := usages } := by
  simp only [Part.update, runs_bind, runs_get, runs_fromOption, runs_set] at h
  obtain ⟨_, _, ⟨rfl, rfl⟩, usages, _, ⟨hupdate, rfl⟩, rfl⟩ := h
  exact ⟨usages, hupdate, rfl⟩

theorem runs_usageInsert {u : Unit} {e : Persistence.Error}
    (h : Runs (TenantDatabase.usagePart.insert e usage) db u db') :
    ∃ usages, db.usageRecords.insert? usage = some usages ∧
      db' = { db with usageRecords := usages } := by
  simp only [Part.insert, runs_bind, runs_get, runs_fromOption, runs_set] at h
  obtain ⟨_, _, ⟨rfl, rfl⟩, usages, _, ⟨hinsert, rfl⟩, rfl⟩ := h
  exact ⟨usages, hinsert, rfl⟩

theorem runs_getUsage {reservationId : UUID}
    (h : Runs (AIUsageRepository.get reservationId organizationId) db usage db') :
    db.usageRecords.find usage.id = some usage ∧ usage.organizationId = organizationId ∧
      db' = db := by
  simp only [AIUsageRepository.get, runs_bind, runs_reads, runs_fromOption] at h
  obtain ⟨_, _, ⟨rfl, rfl⟩, hfound, rfl⟩ := h
  obtain ⟨hfind, horg⟩ := Option.filter_eq_some_iff.mp hfound
  have hid : usage.id = reservationId := Table.key_of_find hfind
  exact ⟨hid ▸ hfind, of_decide_eq_true horg, rfl⟩

/-- A finalization closes one reservation of the organization. -/
theorem runs_finalize {reservationId : UUID} {inputTokens outputTokens : Int}
    (h : Runs (AIUsageRepository.finalize reservationId organizationId inputTokens outputTokens now)
      db usage db') :
    ∃ usages, Settled db.usageRecords usages ∧ db' = { db with usageRecords := usages } := by
  simp only [AIUsageRepository.finalize, runs_bind, runs_require, runs_pure] at h
  obtain ⟨old, _, hget, _, _, ⟨hstatus, rfl⟩, _, _, hwrite, rfl, rfl⟩ := h
  obtain ⟨hfind, -, rfl⟩ := runs_getUsage hget
  obtain ⟨usages, hupdate, rfl⟩ := runs_usageUpdate hwrite
  exact ⟨usages, .update hfind hstatus (.finalized _ _ _) hupdate, rfl⟩

theorem runs_release {reservationId : UUID}
    (h : Runs (AIUsageRepository.release reservationId organizationId now) db usage db') :
    ∃ usages, Settled db.usageRecords usages ∧ db' = { db with usageRecords := usages } := by
  simp only [AIUsageRepository.release, runs_bind] at h
  obtain ⟨old, _, hget, h⟩ := h
  obtain ⟨hfind, -, rfl⟩ := runs_getUsage hget
  split at h
  · next hstatus =>
    simp only [runs_bind, runs_pure] at h
    obtain ⟨_, _, hwrite, -, rfl⟩ := h
    obtain ⟨usages, hupdate, rfl⟩ := runs_usageUpdate hwrite
    exact ⟨usages, .update hfind hstatus (.released _) hupdate, rfl⟩
  · obtain ⟨-, rfl⟩ := runs_pure.mp h
    exact ⟨_, .refl, rfl⟩

/-- The loop of `release_expired`, with the records that are left. -/
structure Releasing (start : TenantDatabase) (organizationId : UUID) (now : Instant)
    (left : List AIUsageRecord) (db : TenantDatabase) : Prop where
  settled : Settled start.usageRecords db.usageRecords
  others : db = { start with usageRecords := db.usageRecords }
  distinct : (left.map (·.id)).Nodup
  found : ∀ usage ∈ left, db.usageRecords.find usage.id = some usage ∧ usage.status = .reserved
  complete : ∀ usage ∈ db.usageRecords.rows, usage.organizationId = organizationId →
    usage.isExpired now = true → usage ∈ left

/-- **Nothing expired is left of the organization.** -/
theorem runs_releaseExpired {count : Nat}
    (h : Runs (AIUsageRepository.releaseExpired organizationId now) db count db') :
    ∃ usages, Settled db.usageRecords usages ∧ db' = { db with usageRecords := usages } ∧
      ∀ usage ∈ usages.rows, usage.organizationId = organizationId → usage.isExpired now = false := by
  simp only [AIUsageRepository.releaseExpired, runs_bind, runs_reads, runs_pure] at h
  obtain ⟨_, _, ⟨rfl, rfl⟩, _, _, hloop, -, rfl⟩ := h
  have hstart : Releasing db organizationId now (db.usageRecords.rows.filter fun usage =>
      decide (usage.organizationId = organizationId) && usage.isExpired now) db := by
    refine ⟨.refl, rfl, db.usageRecords.valid.1.sublist (List.filter_sublist.map _), ?_, ?_⟩
    · intro usage hm
      obtain ⟨hm, hexpired⟩ := List.mem_filter.mp hm
      exact ⟨Table.find_of_mem hm, by simp [AIUsageRecord.isExpired] at hexpired; tauto⟩
    · intro usage hm horg hexpired
      exact List.mem_filter.mpr ⟨hm, by simp [horg, hexpired]⟩
  have hend := Runs.forM (P := Releasing db organizationId now) (fun usage left s s' hs hrun => ?_)
    hstart hloop
  · refine ⟨_, hend.settled, hend.others, fun usage hm horg => ?_⟩
    cases hexpired : usage.isExpired now with
    | false => rfl
    | true => exact absurd (hend.complete usage hm horg hexpired) List.not_mem_nil
  · obtain ⟨usages, hupdate, rfl⟩ := runs_usageUpdate hrun
    obtain ⟨hfind, hstatus⟩ := hs.found usage List.mem_cons_self
    obtain ⟨hfresh, hdistinct⟩ := List.nodup_cons.mp hs.distinct
    refine ⟨hs.settled.trans (.update hfind hstatus (.released now) hupdate), ?_, hdistinct, ?_, ?_⟩
    · rw [hs.others]
    · intro other hother
      have hne : other.id ≠ usage.id := fun he =>
        hfresh (List.mem_map.mpr ⟨other, hother, he⟩)
      refine ⟨?_, (hs.found other (List.mem_cons_of_mem _ hother)).2⟩
      exact ((Table.find_update hupdate other.id).trans (if_neg hne)).trans
        (hs.found other (List.mem_cons_of_mem _ hother)).1
    · intro other hother horg hexpired
      have hother : other ∈ usages.rows := hother
      rw [Table.rows_update hupdate] at hother
      obtain ⟨old, hold, rfl⟩ := List.mem_map.mp hother
      by_cases hkey : usageSchema.key old = usageSchema.key (usage.released now)
      · rw [if_pos hkey] at hexpired
        simp [AIUsageRecord.isExpired, AIUsageRecord.released] at hexpired
      · rw [if_neg hkey] at horg hexpired ⊢
        rcases List.mem_cons.mp (hs.complete old hold horg hexpired) with rfl | hleft
        · exact absurd rfl hkey
        · exact hleft

theorem runs_getOrganization {organization : AIOrganizationRecord}
    (h : Runs (getOrganization organizationId) db organization db') :
    db.organizations.find organizationId = some organization ∧ db' = db := by
  simp only [getOrganization, runs_bind, runs_reads, runs_fromOption] at h
  obtain ⟨_, _, ⟨rfl, rfl⟩, hfind, rfl⟩ := h
  exact ⟨hfind, rfl⟩

/-- A reservation is one more record. -/
theorem runs_reserve {reservationId runId : UUID} {provider modelVersion : String}
    {reservedTokens candidateCount : Int} {expiresAt : Instant}
    (h : Runs (AIUsageRepository.reserve reservationId organizationId runId provider modelVersion
      reservedTokens candidateCount expiresAt now) db usage db') :
    usage = {
        id := reservationId, organizationId, runId, provider, modelVersion, reservedTokens
        candidateCount, expiresAt, createdAt := now } ∧
      ∃ usages, db.usageRecords.insert? usage = some usages ∧
        db' = { db with usageRecords := usages } := by
  simp only [AIUsageRepository.reserve, ensureRun, runs_bind, runs_reads, runs_require,
    runs_pure] at h
  obtain ⟨_, _, ⟨_, _, ⟨-, rfl⟩, -, rfl⟩, _, _, hwrite, rfl, rfl⟩ := h
  exact ⟨rfl, runs_usageInsert hwrite⟩

end

end ReconcileFlow.AI
