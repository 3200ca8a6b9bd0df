import Mathlib.Logic.Relation
import ReconcileFlow.AI.Decisions
import ReconcileFlow.AI.Limits
import ReconcileFlow.AI.Proposals

/-!
# AI — Others

What the rest of the system does between the transactions of a call (`OtherStep`), and that it
leaves what the call has drawn ids for (`Undisturbed`): the event is as it was, the reservation is
as it was or has been closed, and no suggestion has taken an id.
-/

namespace ReconcileFlow.AI

open Support Support.Transaction
open Persistence (UUID Instant AIUsageRecord AIMatchSuggestionRecord AIInferenceEventRecord
  AIInferenceCompletion MatchSuggestionStatus usageSchema suggestionSchema inferenceEventSchema)
open Tenancy

/-! ### Reservations -/

theorem sum_map_ite {α : Type} (p : α → Prop) [DecidablePred p] (c : ℤ) (l : List α) :
    (l.map fun a => if p a then c else 0).sum = c * l.countP p := by
  induction l with
  | nil => simp
  | cons a l ih =>
    rw [List.map_cons, List.sum_cons, ih, List.countP_cons]
    by_cases hp : p a
    · simp only [hp, if_true, decide_true, Nat.cast_add, Nat.cast_one]
      ring
    · simp [hp]

namespace Settled

variable {s t : Table usageSchema} {p : AIUsageRecord → Prop} [DecidablePred p]

/-- What closing a reservation does not bring about is not there after some have been closed. -/
theorem forall_not (h : Settled s t) (hp : ∀ old new, Closes old new → p new → p old)
    (hs : ∀ usage ∈ s.rows, ¬ p usage) : ∀ usage ∈ t.rows, ¬ p usage := by
  have hle := h.sum_le (fun usage => if p usage then 1 else 0) fun old new _ _ hcloses => by
    by_cases hnew : p new
    · simp [hnew, hp old new hcloses hnew]
    · by_cases hold : p old <;> simp [hnew, hold]
  have hzero : s.rows.countP p = 0 := List.countP_eq_zero.mpr (by simpa using hs)
  rw [sum_map_ite, sum_map_ite, hzero] at hle
  have hnone : t.rows.countP p = 0 := by omega
  simpa using List.countP_eq_zero.mp hnone

/-- What closing a reservation keeps is still there after some have been closed. -/
theorem exists_of_exists (h : Settled s t) (hp : ∀ old new, Closes old new → p old → p new)
    (hs : ∃ usage ∈ s.rows, p usage) : ∃ usage ∈ t.rows, p usage := by
  have hle := h.sum_le (fun usage => if p usage then -1 else 0) fun old new _ _ hcloses => by
    by_cases hold : p old
    · simp [hold, hp old new hcloses hold]
    · by_cases hnew : p new <;> simp [hnew, hold]
  have hpos : 0 < s.rows.countP p := List.countP_pos_iff.mpr (by simpa using hs)
  rw [sum_map_ite, sum_map_ite] at hle
  have hsome : 0 < t.rows.countP p := by omega
  simpa using List.countP_pos_iff.mp hsome

end Settled

/-- The reservation with the id is not there, or as it was, or has been closed. -/
structure Reserves (id : UUID) (s t : Table usageSchema) : Prop where
  absent : s.find id = none → t.find id = none
  present : ∀ usage, s.find id = some usage → ∃ after, t.find id = some after ∧
    after.organizationId = usage.organizationId ∧ (after = usage ∨ after.status ≠ .reserved)

namespace Reserves

variable {id : UUID} {s t u : Table usageSchema}

theorem refl : Reserves id s s :=
  ⟨fun h => h, fun usage h => ⟨usage, h, rfl, .inl rfl⟩⟩

theorem trans (h : Reserves id s t) (h' : Reserves id t u) : Reserves id s u where
  absent hnone := h'.absent (h.absent hnone)
  present usage hfind := by
    obtain ⟨after, hafter, horg, hsame⟩ := h.present usage hfind
    obtain ⟨last, hlast, horg', hsame'⟩ := h'.present after hafter
    refine ⟨last, hlast, horg'.trans horg, ?_⟩
    rcases hsame' with rfl | hclosed
    · exact hsame
    · exact .inr hclosed

theorem settled (h : Settled s t) : Reserves id s t where
  absent hnone := by
    refine Table.find_eq_none.mpr (h.forall_not (p := fun usage => usage.id = id) ?_ ?_)
    · intro old new hcloses hid
      cases hcloses <;> exact hid
    · exact Table.find_eq_none.mp hnone
  present usage hfind := by
    have hkept : ∃ after ∈ t.rows, after.id = id ∧
        after.organizationId = usage.organizationId ∧
          (after = usage ∨ after.status ≠ .reserved) := by
      refine h.exists_of_exists ?_ ⟨usage, Table.mem_of_find hfind, Table.key_of_find hfind, rfl,
        .inl rfl⟩
      rintro old new hcloses ⟨hid, horg, -⟩
      cases hcloses with
      | released now => exact ⟨hid, horg, .inr nofun⟩
      | finalized inputTokens outputTokens now => exact ⟨hid, horg, .inr nofun⟩
    obtain ⟨after, hm, rfl, horg, hsame⟩ := hkept
    exact ⟨after, Table.find_of_mem hm, horg, hsame⟩

/-- A reservation with another id is made. -/
theorem insert {usage : AIUsageRecord} (hne : usage.id ≠ id) (h : s.insert? usage = some t) :
    Reserves id s t := by
  have hfind : t.find id = s.find id :=
    (Table.find_insert h id).trans (if_neg fun he => hne he.symm)
  exact ⟨fun hnone => hfind.trans hnone, fun old hold => ⟨old, hfind.trans hold, rfl, .inl rfl⟩⟩

end Reserves

/-- A call that meters usage under another id closes reservations, or adds another. -/
theorem Reserves.of_run {id : UUID} {call : UsageCall} {now : Instant} {s t : TenantDatabase}
    {u : Unit} (hid : ∀ controller organizationId runId candidateCount,
      call ≠ .reserve controller id organizationId runId candidateCount)
    (h : Runs (call.run now) s u t) :
    ∃ usages, Reserves id s.usageRecords usages ∧ t = { s with usageRecords := usages } := by
  cases call with
  | reserve controller reservationId organizationId runId candidateCount =>
    obtain ⟨_, hrun⟩ := runs_void.mp h
    unfold AIUsageController.reserve at hrun
    split at hrun
    · simp only [AIUsageController.reserveMetered, unitOfWork, runs_bind, runs_mapError,
        runs_require, runs_pure] at hrun
      obtain ⟨_, _, ⟨-, rfl⟩, _, _, ⟨_, _, hget, _, _, ⟨-, rfl⟩, _, _, hrelease, summary, _,
        hsummary, _, _, ⟨-, rfl⟩, usage, _, hreserve, -, rfl⟩, -, rfl⟩ := hrun
      obtain ⟨-, rfl⟩ := runs_getOrganization hget
      obtain ⟨released, hsettled, rfl, -⟩ := runs_releaseExpired hrelease
      obtain ⟨rfl, -⟩ := figure_eq hsummary .dailyRequests
      obtain ⟨rfl, usages, hinsert, rfl⟩ := runs_reserve hreserve
      have hne : reservationId ≠ id := fun he =>
        hid controller organizationId runId candidateCount (by rw [he])
      exact ⟨usages, (Reserves.settled hsettled).trans (.insert hne hinsert), rfl⟩
    · obtain ⟨-, rfl⟩ := runs_pure.mp hrun
      exact ⟨_, .refl, rfl⟩
  | finalize reservationId organizationId inputTokens outputTokens =>
    obtain ⟨_, hrun⟩ := runs_void.mp h
    obtain ⟨usages, hsettled, rfl⟩ := runs_finalize (runs_mapError.mp hrun)
    exact ⟨usages, .settled hsettled, rfl⟩
  | release reservationId organizationId =>
    obtain ⟨_, hrun⟩ := runs_void.mp h
    obtain ⟨usages, hsettled, rfl⟩ := runs_release (runs_mapError.mp hrun)
    exact ⟨usages, .settled hsettled, rfl⟩
  | summary organizationId =>
    obtain ⟨_, hrun⟩ := runs_void.mp h
    simp only [AIUsageController.summary, unitOfWork, runs_mapError, runs_bind] at hrun
    obtain ⟨_, _, hget, _, _, hrelease, hsummary⟩ := hrun
    obtain ⟨-, rfl⟩ := runs_getOrganization hget
    obtain ⟨usages, hsettled, rfl, -⟩ := runs_releaseExpired hrelease
    obtain ⟨rfl, -⟩ := figure_eq hsummary .dailyRequests
    exact ⟨usages, .settled hsettled, rfl⟩

/-! ### Other transactions -/

/-- A transaction of another call, or of the rest of the system. -/
inductive OtherStep (draws : Draws) (s : TenantDatabase) : TenantDatabase → Prop
  | usage {call : UsageCall} {now : Instant} {t : TenantDatabase}
      (hid : ∀ controller organizationId runId candidateCount,
        call ≠ .reserve controller draws.reservationId organizationId runId candidateCount)
      (hrun : Runs (call.run now) s () t) : OtherStep draws s t
  | start {observer : AIInferenceObserver} {eventId organizationId runId id : UUID}
      {candidateCount : Nat} {now : Instant} {t : TenantDatabase} (hid : eventId ≠ draws.eventId)
      (hrun : Runs (observer.start eventId organizationId runId candidateCount now) s id t) :
      OtherStep draws s t
  | complete {eventId organizationId : UUID} {completion : AIInferenceCompletion}
      {t : TenantDatabase} (hid : eventId ≠ draws.eventId)
      (hrun : Runs (AIInferenceObserver.complete eventId organizationId completion) s () t) :
      OtherStep draws s t
  | suggest {suggestionId organizationId runId : UUID} {draft : SuggestionDraft} {now : Instant}
      {record : AIMatchSuggestionRecord} {t : TenantDatabase}
      (hid : ∀ n, suggestionId ≠ draws.suggestionId n)
      (hrun : Runs (AIMatchSuggestionRepository.create suggestionId organizationId runId draft now)
        s record t) : OtherStep draws s t
  | resolve {suggestionId organizationId reviewerUserId : UUID} {decision : MatchSuggestionStatus}
      {now : Instant} {record : AIMatchSuggestionRecord} {t : TenantDatabase}
      (hrun : Runs (AIMatchSuggestionRepository.resolve suggestionId organizationId reviewerUserId
        decision now) s record t) : OtherStep draws s t
  | expire {suggestionId organizationId : UUID} {record : AIMatchSuggestionRecord}
      {t : TenantDatabase}
      (hrun : Runs (AIMatchSuggestionRepository.expire suggestionId organizationId) s record t) :
      OtherStep draws s t
  /-- The other tables may change in any way. -/
  | elsewhere {t : TenantDatabase} (husage : t.usageRecords = s.usageRecords)
      (hevents : t.inferenceEvents = s.inferenceEvents) (hsuggestions : t.suggestions = s.suggestions) :
      OtherStep draws s t

/-- What a call has drawn ids for is left to it. -/
structure Undisturbed (draws : Draws) (s t : TenantDatabase) : Prop where
  event : t.inferenceEvents.find draws.eventId = s.inferenceEvents.find draws.eventId
  reservation : Reserves draws.reservationId s.usageRecords t.usageRecords
  suggestions : ∀ n, s.suggestions.find (draws.suggestionId n) = none →
    t.suggestions.find (draws.suggestionId n) = none

namespace Undisturbed

variable {draws : Draws} {s t u : TenantDatabase}

theorem refl : Undisturbed draws s s := ⟨rfl, .refl, fun _ h => h⟩

theorem trans (h : Undisturbed draws s t) (h' : Undisturbed draws t u) : Undisturbed draws s u :=
  ⟨h'.event.trans h.event, h.reservation.trans h'.reservation,
    fun n hnone => h'.suggestions n (h.suggestions n hnone)⟩

/-- A suggestion that is changed takes no id. -/
theorem of_suggestionUpdate {suggestion : AIMatchSuggestionRecord} {rows : Table suggestionSchema}
    (h : s.suggestions.update? suggestion = some rows) :
    Undisturbed draws s { s with suggestions := rows } := by
  refine ⟨rfl, .refl, fun n hnone => (Table.find_update h _).trans ?_⟩
  rw [hnone]
  split <;> rfl

theorem of_suggest {suggestionId organizationId runId : UUID} {draft : SuggestionDraft}
    {now : Instant} {record : AIMatchSuggestionRecord}
    (hid : ∀ n, suggestionId ≠ draws.suggestionId n)
    (h : Runs (AIMatchSuggestionRepository.create suggestionId organizationId runId draft now) s
      record t) : Undisturbed draws s t := by
  obtain ⟨rfl, -, -, -, rows, hinsert, rfl⟩ := runs_create h
  refine ⟨rfl, .refl, fun n hnone => (Table.find_insert hinsert _).trans ?_⟩
  exact (if_neg fun he => hid n he.symm).trans hnone

/-- **No transaction of another disturbs the call.** -/
theorem of_step (h : OtherStep draws s t) : Undisturbed draws s t := by
  cases h with
  | usage hid hrun =>
    obtain ⟨usages, hreserves, rfl⟩ := Reserves.of_run hid hrun
    exact ⟨rfl, hreserves, fun _ h => h⟩
  | start hid hrun =>
    obtain ⟨-, event, events, hevent, -, -, hinsert, rfl⟩ := runs_start hrun
    refine ⟨?_, .refl, fun _ h => h⟩
    exact (Table.find_insert hinsert _).trans (if_neg fun he => hid (hevent.symm.trans he.symm))
  | complete hid hrun =>
    obtain ⟨event, hfind, -, -, events, hupdate, rfl⟩ := runs_complete.mp hrun
    refine ⟨?_, .refl, fun _ h => h⟩
    have hevent : event.id = _ := Table.key_of_find hfind
    exact (Table.find_update hupdate _).trans (if_neg fun he => hid (hevent.symm.trans he.symm))
  | suggest hid hrun => exact of_suggest hid hrun
  | resolve hrun =>
    obtain ⟨found, -, -, -, -, -, rows, hupdate, rfl⟩ := runs_resolve hrun
    exact of_suggestionUpdate hupdate
  | expire hrun =>
    obtain ⟨found, -, -, rows, hupdate, rfl⟩ := runs_expire hrun
    exact of_suggestionUpdate hupdate
  | elsewhere husage hevents hsuggestions =>
    exact ⟨by rw [hevents], husage ▸ .refl, fun n h => by rw [hsuggestions]; exact h⟩

theorem of_steps (h : Relation.ReflTransGen (OtherStep draws) s t) : Undisturbed draws s t := by
  induction h with
  | refl => exact .refl
  | tail _ hstep ih => exact ih.trans (.of_step hstep)

end Undisturbed

end ReconcileFlow.AI
