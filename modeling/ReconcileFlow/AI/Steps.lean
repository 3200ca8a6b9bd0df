import ReconcileFlow.AI.Effects
import ReconcileFlow.AI.Workflow

/-!
# AI — Steps

What the transactions of a call commit, one lemma for each, and when those that close an event or a
reservation can.
-/

namespace ReconcileFlow.AI

open Support Support.Transaction
open Persistence (UUID Instant AIUsageRecord AIInferenceEventRecord AIInferenceCompletion
  usageSchema inferenceEventSchema)
open Tenancy

section

variable {db db' : TenantDatabase} {organizationId runId : UUID} {now : Instant}

/-! ### Events -/

theorem runs_eventInsert {event : AIInferenceEventRecord} {u : Unit} {e : Persistence.Error} :
    Runs (TenantDatabase.inferenceEventPart.insert e event) db u db' ↔
      ∃ events, db.inferenceEvents.insert? event = some events ∧
        db' = { db with inferenceEvents := events } := by
  simp only [Part.insert, TenantDatabase.inferenceEventPart, runs_bind, runs_get, runs_fromOption,
    runs_set]
  constructor
  · rintro ⟨_, _, ⟨rfl, rfl⟩, events, _, ⟨hinsert, rfl⟩, rfl⟩
    exact ⟨events, hinsert, rfl⟩
  · rintro ⟨events, hinsert, rfl⟩
    exact ⟨db, db, ⟨rfl, rfl⟩, events, db, ⟨hinsert, rfl⟩, rfl⟩

theorem runs_eventUpdate {event : AIInferenceEventRecord} {u : Unit} {e : Persistence.Error} :
    Runs (TenantDatabase.inferenceEventPart.update e event) db u db' ↔
      ∃ events, db.inferenceEvents.update? event = some events ∧
        db' = { db with inferenceEvents := events } := by
  simp only [Part.update, TenantDatabase.inferenceEventPart, runs_bind, runs_get, runs_fromOption,
    runs_set]
  constructor
  · rintro ⟨_, _, ⟨rfl, rfl⟩, events, _, ⟨hupdate, rfl⟩, rfl⟩
    exact ⟨events, hupdate, rfl⟩
  · rintro ⟨events, hupdate, rfl⟩
    exact ⟨db, db, ⟨rfl, rfl⟩, events, db, ⟨hupdate, rfl⟩, rfl⟩

/-- An event that is started is requested. -/
theorem runs_start {observer : AIInferenceObserver} {eventId id : UUID} {candidateCount : Nat}
    (h : Runs (observer.start eventId organizationId runId candidateCount now) db id db') :
    id = eventId ∧ ∃ event events, event.id = eventId ∧ event.organizationId = organizationId ∧
      event.outcome = .requested ∧ db.inferenceEvents.insert? event = some events ∧
      db' = { db with inferenceEvents := events } := by
  simp only [AIInferenceObserver.start, unitOfWork, AIInferenceEventRepository.create, ensureRun,
    runs_bind, runs_mapError, runs_reads, runs_require, runs_pure] at h
  obtain ⟨_, _, ⟨_, _, ⟨_, _, ⟨-, rfl⟩, -, rfl⟩, _, _, hinsert, rfl, rfl⟩, rfl, rfl⟩ := h
  obtain ⟨events, hadded, rfl⟩ := runs_eventInsert.mp hinsert
  exact ⟨rfl, _, events, rfl, rfl, rfl, hadded, rfl⟩

/-- Completing an event. -/
theorem runs_complete {eventId : UUID} {completion : AIInferenceCompletion} {u : Unit} :
    Runs (AIInferenceObserver.complete eventId organizationId completion) db u db' ↔
      ∃ event, db.inferenceEvents.find eventId = some event ∧
        event.organizationId = organizationId ∧ event.outcome = .requested ∧
        ∃ events, db.inferenceEvents.update? (event.completed completion) = some events ∧
          db' = { db with inferenceEvents := events } := by
  simp only [AIInferenceObserver.complete, unitOfWork, AIInferenceEventRepository.complete,
    runs_void, runs_mapError, runs_bind, runs_reads, runs_fromOption, runs_require, runs_pure,
    runs_eventUpdate]
  constructor
  · rintro ⟨_, _, _, ⟨rfl, rfl⟩, event, _, ⟨hfound, rfl⟩, _, _, ⟨hrequested, rfl⟩, _, _,
      ⟨events, hupdate, rfl⟩, rfl, rfl⟩
    obtain ⟨hfind, horg⟩ := Option.filter_eq_some_iff.mp hfound
    exact ⟨event, hfind, of_decide_eq_true horg, hrequested, events, hupdate, rfl⟩
  · rintro ⟨event, hfind, horg, hrequested, events, hupdate, rfl⟩
    have hfound : ((db.inferenceEvents.find eventId).filter fun event =>
        decide (event.organizationId = organizationId)) = some event :=
      Option.filter_eq_some_iff.mpr ⟨hfind, decide_eq_true horg⟩
    exact ⟨_, _, db, ⟨rfl, rfl⟩, event, db, ⟨hfound, rfl⟩, (), db, ⟨hrequested, rfl⟩, (), _,
      ⟨events, hupdate, rfl⟩, rfl, rfl⟩

/-- An event that is requested can be completed. -/
theorem exists_complete {eventId : UUID} (completion : AIInferenceCompletion)
    {event : AIInferenceEventRecord} (hfind : db.inferenceEvents.find eventId = some event)
    (horg : event.organizationId = organizationId) (hrequested : event.outcome = .requested)
    (hcounts : 0 ≤ completion.suggestionCount ∧ 0 ≤ completion.inputTokens ∧
      0 ≤ completion.outputTokens ∧ 0 ≤ completion.durationMs) :
    ∃ db', Runs (AIInferenceObserver.complete eventId organizationId completion) db () db' := by
  have hcheck : inferenceEventSchema.check event = true := Table.check_of_find hfind
  obtain ⟨events, hupdate⟩ : ∃ events,
      db.inferenceEvents.update? (event.completed completion) = some events := by
    refine Table.exists_update ?_ fun _ _ _ => rfl
    simp only [inferenceEventSchema, Bool.and_eq_true, decide_eq_true_eq] at hcheck ⊢
    exact ⟨⟨⟨⟨hcheck.1.1.1.1, hcounts.1⟩, hcounts.2.1⟩, hcounts.2.2.1⟩,
      decide_eq_true hcounts.2.2.2⟩
  exact ⟨_, runs_complete.mpr ⟨event, hfind, horg, hrequested, events, hupdate, rfl⟩⟩

/-! ### Reservations -/

/-- A metered reservation is reserved. -/
theorem runs_reserveCall {controller : AIUsageController} {reservationId : UUID}
    {candidateCount : Int} {result : Option UUID}
    (h : Runs (controller.reserve reservationId organizationId runId candidateCount now) db result
      db') :
    (result = none ∧ db' = db) ∨ (result = some reservationId ∧
      ∃ usages, db' = { db with usageRecords := usages } ∧
        ∃ usage, usages.find reservationId = some usage ∧ usage.organizationId = organizationId ∧
          usage.status = .reserved) := by
  unfold AIUsageController.reserve at h
  split at h
  · simp only [AIUsageController.reserveMetered, unitOfWork, runs_bind, runs_mapError,
      runs_require, runs_pure] at h
    obtain ⟨_, _, ⟨-, rfl⟩, _, _, ⟨organization, _, hget, _, _, ⟨-, rfl⟩, _, _, hrelease, _, _,
      hsummary, _, _, ⟨-, rfl⟩, usage, _, hreserve, rfl, rfl⟩, rfl, rfl⟩ := h
    obtain ⟨-, rfl⟩ := runs_getOrganization hget
    obtain ⟨released, -, rfl, -⟩ := runs_releaseExpired hrelease
    simp only [AIUsageController.summarize, AIUsageRepository.summarize, runs_bind, runs_reads,
      runs_pure] at hsummary
    obtain ⟨_, _, ⟨_, _, ⟨-, rfl⟩, -, rfl⟩, _, _, ⟨_, _, ⟨-, rfl⟩, -, rfl⟩, -, rfl⟩ := hsummary
    obtain ⟨rfl, usages, hinsert, rfl⟩ := runs_reserve hreserve
    exact .inr ⟨rfl, usages, rfl, _, Table.find_insert_self hinsert, rfl, rfl⟩
  · obtain ⟨rfl, rfl⟩ := runs_pure.mp h
    exact .inl ⟨rfl, rfl⟩

/-- A reservation of the organization can be released. -/
theorem exists_release {reservationId : UUID} {usage : AIUsageRecord} (now : Instant)
    (hfind : db.usageRecords.find reservationId = some usage)
    (horg : usage.organizationId = organizationId) :
    ∃ usages, Runs (AIUsageController.release reservationId organizationId now) db ()
        { db with usageRecords := usages } ∧
      ∃ after, usages.find reservationId = some after ∧ after.organizationId = organizationId ∧
        after.status ≠ .reserved := by
  have hget : ((db.usageRecords.find reservationId).filter fun usage =>
      decide (usage.organizationId = organizationId)) = some usage :=
    Option.filter_eq_some_iff.mpr ⟨hfind, decide_eq_true horg⟩
  simp only [AIUsageController.release, unitOfWork, AIUsageRepository.release,
    AIUsageRepository.get, runs_void, runs_mapError, runs_bind, runs_reads, runs_fromOption]
  by_cases hstatus : usage.status = .reserved
  · have hcheck : usageSchema.check usage = true := Table.check_of_find hfind
    obtain ⟨usages, hupdate⟩ : ∃ usages,
        db.usageRecords.update? (usage.released now) = some usages :=
      Table.exists_update hcheck fun _ _ _ => rfl
    have hid : usage.id = reservationId := Table.key_of_find hfind
    have hfound : usages.find reservationId = some (usage.released now) :=
      Table.find_update_self hupdate hid hfind
    refine ⟨usages, ⟨usage.released now, usage, db, ⟨_, db, ⟨rfl, rfl⟩, hget, rfl⟩, ?_⟩,
      _, hfound, horg, by rintro ⟨⟩⟩
    simp only [hstatus, if_true, runs_bind, runs_pure, Part.update, TenantDatabase.usagePart,
      runs_get, runs_fromOption, runs_set]
    exact ⟨(), _, ⟨db, db, ⟨rfl, rfl⟩, usages, db, ⟨hupdate, rfl⟩, rfl⟩, trivial, rfl⟩
  · refine ⟨db.usageRecords, ⟨usage, usage, db, ⟨_, db, ⟨rfl, rfl⟩, hget, rfl⟩, ?_⟩, usage,
      hfind, horg, hstatus⟩
    simp only [hstatus, if_false, runs_pure]
    exact ⟨trivial, trivial⟩

/-- A reservation that was finalized. -/
theorem runs_finalizeCall {reservationId : UUID} {input output : Nat}
    (h : Runs (AIUsageController.finalize reservationId organizationId input output now) db ()
      db') :
    ∃ usages, db' = { db with usageRecords := usages } ∧ ∃ usage,
      usages.find reservationId = some usage ∧ usage.organizationId = organizationId ∧
        usage.status = .finalized := by
  obtain ⟨_, hrun⟩ := runs_void.mp h
  have hfinalize := runs_mapError.mp hrun
  simp only [AIUsageRepository.finalize, AIUsageRepository.get, runs_bind, runs_reads,
    runs_fromOption, runs_require, runs_pure] at hfinalize
  obtain ⟨old, _, ⟨_, _, ⟨rfl, rfl⟩, hfound, rfl⟩, _, _, ⟨-, rfl⟩, _, _, hwrite, -, rfl⟩ := hfinalize
  obtain ⟨hfind, horg⟩ := Option.filter_eq_some_iff.mp hfound
  obtain ⟨usages, hupdate, rfl⟩ := runs_usageUpdate hwrite
  have hid : old.id = reservationId := Table.key_of_find hfind
  exact ⟨usages, rfl, old.finalized input output now, Table.find_update_self hupdate hid hfind,
    of_decide_eq_true horg, rfl⟩

/-- A reservation is finalized exactly if it is still reserved. -/
theorem runs_finalizeCall_iff {reservationId : UUID} {usage : AIUsageRecord} {input output : Nat}
    (hfind : db.usageRecords.find reservationId = some usage)
    (horg : usage.organizationId = organizationId) :
    (∃ db', Runs (AIUsageController.finalize reservationId organizationId input output now) db ()
      db') ↔ usage.status = .reserved := by
  have hget : ((db.usageRecords.find reservationId).filter fun usage =>
      decide (usage.organizationId = organizationId)) = some usage :=
    Option.filter_eq_some_iff.mpr ⟨hfind, decide_eq_true horg⟩
  simp only [AIUsageController.finalize, unitOfWork, AIUsageRepository.finalize,
    AIUsageRepository.get, runs_void, runs_mapError, runs_bind, runs_reads, runs_fromOption,
    runs_require, runs_pure]
  constructor
  · rintro ⟨_, _, _, _, ⟨_, _, ⟨rfl, rfl⟩, hfound, rfl⟩, _, _, ⟨hstatus, -⟩, -⟩
    obtain rfl := Option.some.inj (hget.symm.trans hfound)
    exact hstatus
  · intro hstatus
    have hcheck : usageSchema.check usage = true := Table.check_of_find hfind
    obtain ⟨usages, hupdate⟩ : ∃ usages,
        db.usageRecords.update? (usage.finalized input output now) = some usages := by
      refine Table.exists_update ?_ fun _ _ _ => rfl
      simp only [usageSchema, Bool.and_eq_true, decide_eq_true_eq] at hcheck ⊢
      exact ⟨⟨⟨hcheck.1.1.1, Int.natCast_nonneg input⟩, Int.natCast_nonneg output⟩, hcheck.2⟩
    refine ⟨{ db with usageRecords := usages }, _, usage, db, ⟨_, db, ⟨rfl, rfl⟩, hget, rfl⟩, (), db,
      ⟨hstatus, rfl⟩, (), _, ?_, rfl, rfl⟩
    simp only [Part.update, TenantDatabase.usagePart, runs_bind, runs_get, runs_fromOption, runs_set]
    exact ⟨db, db, ⟨rfl, rfl⟩, usages, db, ⟨hupdate, rfl⟩, rfl⟩

end

end ReconcileFlow.AI
