import ReconcileFlow.AI.Others

/-!
# AI — Closing

How a call leaves the event that it started and the reservation that it made.  Whatever ends the
guarded part of a call with an error, both are closed.  What comes after it is not guarded: if the
reservation has been released meanwhile, or the suggestions cannot be stored, the event stays
requested (`event_left_requested`).  It is closed exactly if nothing of this happens
(`event_closed_iff`).
-/

namespace ReconcileFlow.AI

open Support Support.Transaction Support.Client
open Persistence (UUID AIMatchSuggestionRecord AIInferenceOutcome)
open Tenancy (TenantDatabase)

/-- The ids that a call with so many candidates has drawn are new. -/
structure Fresh (draws : Draws) (count : ℕ) (db : TenantDatabase) : Prop where
  event : db.inferenceEvents.find draws.eventId = none
  reservation : db.usageRecords.find draws.reservationId = none
  suggestions : NewIds draws 0 count db.suggestions

/-- The reservation of the call, if there is one, is not reserved. -/
def Unheld (draws : Draws) (db : TenantDatabase) : Prop :=
  ∀ usage, db.usageRecords.find draws.reservationId = some usage →
    usage.status = .finalized ∨ usage.status = .released

/-- An event that the call has started has an outcome, which is success exactly if the call
returned; and the reservation is not reserved. -/
def Closed {α : Type} (draws : Draws) (result : Except Failure α) (db : TenantDatabase) : Prop :=
  ∀ event, db.inferenceEvents.find draws.eventId = some event →
    event.outcome ≠ .requested ∧ (event.outcome = .succeeded ↔ ∃ a, result = .ok a) ∧
      Unheld draws db

/-- The reservation, if one was made, is still reserved. -/
def StillReserved (reservationId : Option UUID) (db : TenantDatabase) : Prop :=
  ∀ id, reservationId = some id → ∃ usage, db.usageRecords.find id = some usage ∧
    usage.status = .reserved

/-- The run is stored, no suggestion of the same records as one of these is, and no text that is
stored with them has a NUL. -/
structure Storable (workflow : AIMatchSuggestionWorkflow) (call : GenerateCall) (inferred : Inferred)
    (db : TenantDatabase) : Prop where
  run : inferred.validated ≠ [] → RunStored call db
  texts : inferred.validated ≠ [] → workflow.Legible inferred.response
  unsuggested : ∀ pair ∈ inferred.validated, ¬ AlreadySuggested call pair.1 db.suggestions

/-! ### What a call has open -/

/-- The event of the call is requested. -/
def Requested (call : GenerateCall) (db : TenantDatabase) : Prop :=
  ∃ event, db.inferenceEvents.find call.draws.eventId = some event ∧
    event.organizationId = call.organizationId ∧ event.outcome = .requested

/-- The event is requested, and the reservation is the one that was made. -/
structure Open (call : GenerateCall) (count : ℕ) (reservationId : Option UUID)
    (db : TenantDatabase) : Prop where
  requested : Requested call db
  unreserved : reservationId = none → db.usageRecords.find call.draws.reservationId = none
  reserved : ∀ id, reservationId = some id → id = call.draws.reservationId ∧
    ∃ usage, db.usageRecords.find id = some usage ∧ usage.organizationId = call.organizationId
  suggestions : NewIds call.draws 0 count db.suggestions

section

variable {call : GenerateCall} {count : ℕ} {reservationId : Option UUID}
  {s t : TenantDatabase}

theorem NewIds.undisturbed {n : ℕ} (h : NewIds call.draws n count s.suggestions)
    (hst : Undisturbed call.draws s t) : NewIds call.draws n count t.suggestions :=
  ⟨fun m hm hlt => hst.suggestions m (h.unused m hm hlt), h.distinct⟩

theorem Fresh.undisturbed (h : Fresh call.draws count s) (hst : Undisturbed call.draws s t) :
    Fresh call.draws count t :=
  ⟨hst.event.trans h.event, hst.reservation.absent h.reservation, h.suggestions.undisturbed hst⟩

theorem Requested.undisturbed (h : Requested call s) (hst : Undisturbed call.draws s t) :
    Requested call t := by
  obtain ⟨event, hfind, hevent⟩ := h
  exact ⟨event, hst.event.trans hfind, hevent⟩

theorem Open.undisturbed (h : Open call count reservationId s) (hst : Undisturbed call.draws s t) :
    Open call count reservationId t where
  requested := h.requested.undisturbed hst
  unreserved hnone := hst.reservation.absent (h.unreserved hnone)
  reserved id hid := by
    obtain ⟨rfl, usage, hfind, horg⟩ := h.reserved id hid
    obtain ⟨after, hafter, hsame, -⟩ := hst.reservation.present usage hfind
    exact ⟨rfl, after, hafter, hsame.trans horg⟩
  suggestions := h.suggestions.undisturbed hst

theorem closed_of_ne {status : Persistence.AIUsageStatus} (h : status ≠ .reserved) :
    status = .finalized ∨ status = .released := by
  cases status with
  | reserved => exact absurd rfl h
  | finalized => exact .inl rfl
  | released => exact .inr rfl

theorem Unheld.undisturbed {draws : Draws} (h : Unheld draws s) (hst : Undisturbed draws s t) :
    Unheld draws t := by
  intro usage hfind
  cases hold : s.usageRecords.find draws.reservationId with
  | none =>
    rw [hst.reservation.absent hold] at hfind
    cases hfind
  | some old =>
    obtain ⟨after, hafter, -, hsame⟩ := hst.reservation.present old hold
    obtain rfl := Option.some.inj (hafter.symm.trans hfind)
    rcases hsame with rfl | hclosed
    · exact h after hold
    · exact closed_of_ne hclosed

end

/-! ### The transactions of a call -/

namespace AIMatchSuggestionWorkflow

section

variable {self : AIMatchSuggestionWorkflow} {call : GenerateCall} {count : ℕ}
  {reservationId : Option UUID} {others : ℕ → TenantDatabase → TenantDatabase}
  {s t : Turn TenantDatabase} (hothers : ∀ n db, Undisturbed call.draws db (others n db))

include hothers

/-- What is started is open. -/
theorem open_of_start {observer : AIInferenceObserver} {candidateCount : Nat}
    {result : Except Failure (Option UUID)} (hobserver : self.observer = some observer)
    (hs : Fresh call.draws count s.state)
    (h : Ends (self.start call candidateCount) others s result t) :
    (∃ e, result = .error e ∧ t.state.inferenceEvents.find call.draws.eventId = none) ∨
      (result = .ok (some call.draws.eventId) ∧ Open call count none t.state) := by
  have hfresh := hs.undisturbed (hothers s.log.length s.state)
  simp only [start, hobserver] at h
  obtain ⟨id, u, hstart, hanswer⟩ | ⟨e, hstart, rfl⟩ := ends_bind.mp h
  · obtain ⟨rfl, rfl⟩ := ends_pure.mp hanswer
    have hrun := atomically_ok.mp (ends_transact.mp hstart).1
    obtain ⟨rfl, event, events, hid, horg, hrequested, hinsert, hstate⟩ := runs_start hrun
    refine .inr ⟨rfl, ?_⟩
    rw [hstate]
    refine ⟨⟨event, ?_, horg, hrequested⟩, fun _ => hfresh.reservation, nofun, hfresh.suggestions⟩
    exact hid ▸ Table.find_insert_self hinsert
  · obtain ⟨-, hstate⟩ := atomically_error.mp (ends_transact.mp hstart).1
    exact .inl ⟨e, rfl, hstate ▸ hfresh.event⟩

theorem open_of_reserve {candidateCount : Nat} {result : Except Failure (Option UUID)}
    (hs : Open call count none s.state)
    (h : Ends (self.reserve call candidateCount) others s result t) :
    (∃ e, result = .error e ∧ Open call count none t.state) ∨
      ∃ reservationId, result = .ok reservationId ∧ Open call count reservationId t.state := by
  unfold reserve at h
  split at h
  · obtain ⟨rfl, rfl⟩ := ends_pure.mp h
    exact .inr ⟨none, rfl, hs⟩
  · have hopen := hs.undisturbed (hothers s.log.length s.state)
    have hends := (ends_transact.mp h).1
    cases result with
    | error e => exact .inl ⟨e, rfl, (atomically_error.mp hends).2 ▸ hopen⟩
    | ok reservationId =>
      refine .inr ⟨reservationId, rfl, ?_⟩
      obtain ⟨rfl, hstate⟩ | ⟨rfl, usages, hstate, usage, hfind, horg, -⟩ :=
        runs_reserveCall (atomically_ok.mp hends)
      · exact hstate ▸ hopen
      · rw [hstate]
        refine ⟨hopen.requested, nofun, fun id hid => ?_, hopen.suggestions⟩
        obtain rfl := Option.some.inj hid
        exact ⟨rfl, usage, hfind, horg⟩

/-- A release goes through. -/
theorem open_of_release {result : Except Failure Unit} (hs : Open call count reservationId s.state)
    (h : Ends (release call reservationId) others s result t) :
    result = .ok () ∧ Open call count reservationId t.state ∧ Unheld call.draws t.state := by
  cases reservationId with
  | none =>
    obtain ⟨rfl, rfl⟩ := ends_pure.mp h
    refine ⟨rfl, hs, fun usage hfind => ?_⟩
    rw [hs.unreserved rfl] at hfind
    cases hfind
  | some id =>
    have hopen := hs.undisturbed (hothers s.log.length s.state)
    obtain ⟨rfl, usage, hfind, horg⟩ := hopen.reserved id rfl
    obtain ⟨usages, hrun, after, hafter, hsame, hstatus⟩ :=
      exists_release call.draws.releasedAt hfind horg
    have hends := (ends_transact.mp h).1
    cases result with
    | error e => exact absurd (atomically_error.mp hends).1 hrun.not_fails
    | ok u =>
      obtain ⟨-, hstate⟩ := hrun.unique (atomically_ok.mp hends)
      rw [← hstate]
      refine ⟨rfl, ⟨hopen.requested, nofun, fun id hid => ?_, hopen.suggestions⟩, ?_⟩
      · obtain rfl := Option.some.inj hid
        exact ⟨rfl, after, hafter, hsame⟩
      · intro other hother
        obtain rfl := Option.some.inj (hafter.symm.trans hother)
        exact closed_of_ne hstatus

/-- An event that is requested is completed. -/
theorem closed_of_complete {outcome : AIInferenceOutcome}
    {suggestionCount inputTokens outputTokens : Nat} {errorCode : Option String}
    {result : Except Failure Unit} (hs : Requested call s.state) (hunheld : Unheld call.draws s.state)
    (h : Ends (complete call (some call.draws.eventId) outcome suggestionCount inputTokens
      outputTokens errorCode) others s result t) :
    result = .ok () ∧ Unheld call.draws t.state ∧
      ∃ event, t.state.inferenceEvents.find call.draws.eventId = some event ∧
        event.outcome = outcome := by
  obtain ⟨event, hfind, horg, hrequested⟩ := hs.undisturbed (hothers s.log.length s.state)
  obtain ⟨after, hrun⟩ := exists_complete {
      outcome, suggestionCount, inputTokens, outputTokens, errorCode
      durationMs := call.draws.durationMs
      completedAt := call.draws.completedAt } hfind horg hrequested
    ⟨Int.natCast_nonneg _, Int.natCast_nonneg _, Int.natCast_nonneg _, Int.natCast_nonneg _⟩
  have hends := (ends_transact.mp h).1
  cases result with
  | error e => exact absurd (atomically_error.mp hends).1 hrun.not_fails
  | ok u =>
    obtain ⟨old, hold, -, -, events, hupdate, hstate⟩ := runs_complete.mp (atomically_ok.mp hends)
    have hid : old.id = call.draws.eventId := Table.key_of_find hold
    have hlater := hunheld.undisturbed (hothers s.log.length s.state)
    rw [hstate]
    exact ⟨rfl, hlater, _, Table.find_update_self hupdate hid hold, rfl⟩

/-! ### The guarded part -/

/-- The event is closed without success, and the reservation with it. -/
def Abandoned (call : GenerateCall) (db : TenantDatabase) : Prop :=
  Unheld call.draws db ∧ ∃ event, db.inferenceEvents.find call.draws.eventId = some event ∧
    event.outcome ≠ .requested ∧ event.outcome ≠ .succeeded

/-- **An error that is caught closes what is open.** -/
theorem abandoned_of_closeFailed {error : Failure} {result : Except Failure Inferred}
    (hs : Open call count reservationId s.state)
    (h : Ends (closeFailed call (some call.draws.eventId) reservationId error) others s result t) :
    (∃ e, result = .error e) ∧ Abandoned call t.state := by
  have hfailed : (failureOutcome error).1 ≠ .requested ∧ (failureOutcome error).1 ≠ .succeeded := by
    cases error <;> exact ⟨nofun, nofun⟩
  obtain ⟨_, u, hrelease, hrest⟩ | ⟨e, hrelease, rfl⟩ := ends_bind.mp h
  · obtain ⟨-, hopen, hunheld⟩ := open_of_release hothers hs hrelease
    obtain ⟨_, v, hcomplete, hthrow⟩ | ⟨e, hcomplete, rfl⟩ := ends_bind.mp hrest
    · obtain ⟨rfl, rfl⟩ := ends_throw.mp hthrow
      obtain ⟨-, hunheld', event, hfind, houtcome⟩ := closed_of_complete hothers hopen.requested hunheld hcomplete
      exact ⟨⟨_, rfl⟩, hunheld', event, hfind, houtcome ▸ hfailed⟩
    · cases (closed_of_complete hothers hopen.requested hunheld hcomplete).1
  · cases (open_of_release hothers hs hrelease).1

theorem open_of_infer {candidates : List GeneratedCandidate} {request : AIInferenceRequest}
    {result : Except Failure Inferred} (hs : Open call count none s.state)
    (h : Ends (self.infer call (some call.draws.eventId) candidates request) others s result t) :
    (∃ inferred, result = .ok inferred ∧ Open call count inferred.reservationId t.state) ∨
      ((∃ e, result = .error e) ∧ Abandoned call t.state) := by
  obtain ⟨reserved, u, hattempt, hrest⟩ | ⟨_, hattempt, -⟩ := ends_bind.mp h
  · obtain ⟨r, hreserve, hr⟩ := ends_attempt.mp hattempt
    obtain rfl := Except.ok.inj hr
    obtain ⟨e, rfl, hopen⟩ | ⟨reservationId, rfl, hopen⟩ := open_of_reserve hothers hs hreserve
    · exact .inr (abandoned_of_closeFailed hothers hopen hrest)
    · dsimp only at hrest
      split at hrest
      · exact .inr (abandoned_of_closeFailed hothers hopen hrest)
      · next answered =>
        obtain ⟨rfl, rfl⟩ := ends_pure.mp hrest
        obtain ⟨response, -, hvalidated⟩ := bind_ok.mp answered
        obtain ⟨validated, -, hinferred⟩ := bind_ok.mp hvalidated
        obtain rfl := Except.ok.inj hinferred
        exact .inl ⟨_, rfl, hopen⟩
  · obtain ⟨r, -, hr⟩ := ends_attempt.mp hattempt
    cases hr

/-- A call that submitted candidates has its event open; otherwise there is none, or it is closed. -/
theorem open_of_submit {observer : AIInferenceObserver}
    {result : Except Failure (Option (Option UUID × Inferred))}
    (hobserver : self.observer = some observer) (hs : Fresh call.draws count s.state)
    (h : Ends (self.submit call) others s result t) :
    (∃ inferred, result = .ok (some (some call.draws.eventId, inferred)) ∧
        Open call count inferred.reservationId t.state) ∨
      ((result = .ok none ∨ ∃ e, result = .error e) ∧
        (t.state.inferenceEvents.find call.draws.eventId = none ∨
          (∃ e, result = .error e) ∧ Abandoned call t.state)) := by
  obtain ⟨candidates, u, hgenerate, hrest⟩ | ⟨e, hgenerate, rfl⟩ := ends_bind.mp h
  · obtain ⟨-, rfl⟩ := ends_fromResult.mp hgenerate
    split at hrest
    · obtain ⟨rfl, rfl⟩ := ends_pure.mp hrest
      exact .inr ⟨.inl rfl, .inl hs.event⟩
    · obtain ⟨request, u₁, hrequest, hstarted⟩ | ⟨e, hrequest, rfl⟩ := ends_bind.mp hrest
      · obtain ⟨-, hu⟩ := ends_fromResult.mp hrequest
        rw [← hu] at hs
        obtain ⟨eventId, u₂, hstart, hguarded⟩ | ⟨e, hstart, rfl⟩ := ends_bind.mp hstarted
        · obtain ⟨_, hfailed, -⟩ | ⟨hid, hopen⟩ := open_of_start hothers hobserver hs hstart
          · cases hfailed
          · obtain rfl := Except.ok.inj hid
            obtain ⟨inferred, u₃, hinfer, hanswer⟩ | ⟨e, hinfer, rfl⟩ := ends_bind.mp hguarded
            · obtain ⟨rfl, rfl⟩ := ends_pure.mp hanswer
              obtain ⟨_, hsame, hopen'⟩ | ⟨⟨_, hfailed⟩, -⟩ := open_of_infer hothers hopen hinfer
              · obtain rfl := Except.ok.inj hsame
                exact .inl ⟨inferred, rfl, hopen'⟩
              · cases hfailed
            · obtain ⟨_, hsame, -⟩ | ⟨-, habandoned⟩ := open_of_infer hothers hopen hinfer
              · cases hsame
              · exact .inr ⟨.inr ⟨e, rfl⟩, .inr ⟨⟨e, rfl⟩, habandoned⟩⟩
        · obtain ⟨_, -, hnone⟩ | ⟨hid, -⟩ := open_of_start hothers hobserver hs hstart
          · exact .inr ⟨.inr ⟨e, rfl⟩, .inl hnone⟩
          · cases hid
      · obtain ⟨-, rfl⟩ := ends_fromResult.mp hrequest
        exact .inr ⟨.inr ⟨e, rfl⟩, .inl hs.event⟩
  · obtain ⟨-, rfl⟩ := ends_fromResult.mp hgenerate
    exact .inr ⟨.inr ⟨e, rfl⟩, .inl hs.event⟩

/-! ### After the guarded part -/

/-- The reservation is finalized exactly if it is still reserved. -/
theorem open_of_finalize {inferred : Inferred} {result : Except Failure Unit}
    (hs : Open call count inferred.reservationId s.state)
    (h : Ends (finalize call inferred) others s result t) :
    Open call count inferred.reservationId t.state ∧
      ((result = .ok () ∧ StillReserved inferred.reservationId (others s.log.length s.state) ∧
          Unheld call.draws t.state) ∨
        (∃ e, result = .error e) ∧
          ¬ StillReserved inferred.reservationId (others s.log.length s.state)) := by
  unfold finalize at h
  split at h
  · next hnone =>
    obtain ⟨rfl, rfl⟩ := ends_pure.mp h
    refine ⟨hs, .inl ⟨rfl, fun id hid => ?_, fun usage hfind => ?_⟩⟩
    · rw [hnone] at hid
      cases hid
    · rw [hs.unreserved hnone] at hfind
      cases hfind
  · next id hsome =>
    have hopen := hs.undisturbed (hothers s.log.length s.state)
    obtain ⟨rfl, usage, hfind, horg⟩ := hopen.reserved id hsome
    have hends := (ends_transact.mp h).1
    cases result with
    | ok u =>
      have hrun := atomically_ok.mp hends
      obtain ⟨usages, hstate, after, hafter, hsame, hfinalized⟩ := runs_finalizeCall hrun
      rw [hstate]
      refine ⟨⟨hopen.requested, fun hnone => ?_, fun id hid => ?_, hopen.suggestions⟩,
        .inl ⟨rfl, fun id hid => ?_, fun other hother => ?_⟩⟩
      · rw [hsome] at hnone
        cases hnone
      · obtain rfl := Option.some.inj (hsome.symm.trans hid)
        exact ⟨rfl, after, hafter, hsame⟩
      · obtain rfl := Option.some.inj (hsome.symm.trans hid)
        exact ⟨usage, hfind, (runs_finalizeCall_iff hfind horg).mp ⟨_, hrun⟩⟩
      · obtain rfl := Option.some.inj (hafter.symm.trans hother)
        exact .inl hfinalized
    | error e =>
      obtain ⟨hfails, hstate⟩ := atomically_error.mp hends
      rw [hstate]
      refine ⟨hopen, .inr ⟨⟨e, rfl⟩, fun hreserved => ?_⟩⟩
      obtain ⟨other, hother, hstatus⟩ := hreserved _ hsome
      obtain rfl := Option.some.inj (hfind.symm.trans hother)
      obtain ⟨_, hrun⟩ := (runs_finalizeCall_iff hfind horg).mpr hstatus
      exact hrun.not_fails hfails

/-- The suggestions are stored exactly if they can be. -/
theorem requested_of_persist {inferred : Inferred}
    {result : Except Failure (List AIMatchSuggestionRecord)}
    (hdistinct : (inferred.validated.map fun pair => pair.1.records.fingerprint).Nodup)
    (hle : inferred.validated.length ≤ count)
    (hs : Open call count reservationId s.state) (hunheld : Unheld call.draws s.state)
    (h : Ends (transact (unitOfWork (self.persist call inferred.response 0 inferred.validated)))
      others s result t) :
    Requested call t.state ∧ Unheld call.draws t.state ∧
      (((∃ records, result = .ok records) ∧
          Storable self call inferred (others s.log.length s.state)) ∨
        (∃ e, result = .error e) ∧
          ¬ Storable self call inferred (others s.log.length s.state)) := by
  have hopen := hs.undisturbed (hothers s.log.length s.state)
  have hlater := hunheld.undisturbed (hothers s.log.length s.state)
  have hends := (ends_transact.mp h).1
  cases result with
  | ok records =>
    obtain ⟨-, hstored, hfree, suggestions, hstate, -⟩ :=
      runs_persist (runs_mapError.mp (atomically_ok.mp hends))
    rw [hstate]
    exact ⟨hopen.requested, hlater, .inl ⟨⟨records, rfl⟩,
      ⟨fun hne => (hstored hne).1, fun hne => (hstored hne).2, hfree⟩⟩⟩
  | error e =>
    obtain ⟨hfails, hstate⟩ := atomically_error.mp hends
    rw [hstate]
    refine ⟨hopen.requested, hlater, .inr ⟨⟨e, rfl⟩, fun hstorable => ?_⟩⟩
    obtain ⟨e', hfails', -⟩ := fails_mapError.mp hfails
    have hnew : NewIds call.draws 0 inferred.validated.length
        (others s.log.length s.state).suggestions :=
      ⟨fun m hm hlt => hopen.suggestions.unused m hm (by omega),
        fun m m' hm hlt hlt' => hopen.suggestions.distinct m m' hm hlt (by omega)⟩
    have hne : inferred.validated ≠ [] := by
      intro hempty
      rw [hempty] at hfails'
      exact fails_pure hfails'
    obtain ⟨hmissing, -⟩ | ⟨-, pair, hm, hsuggested⟩ | ⟨hillegible, -⟩ :=
      fails_persist hnew hdistinct hfails'
    · exact hmissing (hstorable.run hne)
    · exact hstorable.unsuggested pair hm hsuggested
    · exact hillegible (hstorable.texts hne)

/-- **After the guarded part**, the event is closed exactly if nothing came in between. -/
theorem closed_store_iff {inferred : Inferred}
    {result : Except Failure (List AIMatchSuggestionRecord)}
    (hdistinct : (inferred.validated.map fun pair => pair.1.records.fingerprint).Nodup)
    (hle : inferred.validated.length ≤ count)
    (hs : Open call count inferred.reservationId s.state)
    (h : Ends (self.store call (some call.draws.eventId) inferred) others s result t) :
    Closed call.draws result t.state ↔
      StillReserved inferred.reservationId (others s.log.length s.state) ∧
        ∀ u, Ends (finalize call inferred) others s (.ok ()) u →
          Storable self call inferred (others u.log.length u.state) := by
  have hopened {db : TenantDatabase} (hrequested : Requested call db) :
      ¬ Closed call.draws result db := by
    intro hclosed
    obtain ⟨event, hfind, -, houtcome⟩ := hrequested
    exact (hclosed event hfind).1 houtcome
  obtain ⟨_, u, hfinalize, hrest⟩ | ⟨e, hfinalize, rfl⟩ := ends_bind.mp h
  · obtain ⟨hopen, ⟨-, hreserved, hunheld⟩ | ⟨⟨_, hfailed⟩, -⟩⟩ :=
      open_of_finalize hothers hs hfinalize
    · have honly {v : Turn TenantDatabase} (hv : Ends (finalize call inferred) others s (.ok ()) v) :
          v = u := (hv.unique hfinalize).2
      obtain ⟨records, v, hpersist, hlast⟩ | ⟨e, hpersist, rfl⟩ := ends_bind.mp hrest
      · obtain ⟨hrequested, hunheld', ⟨-, hstorable⟩ | ⟨⟨_, hfailed⟩, -⟩⟩ :=
          requested_of_persist hothers hdistinct hle hopen hunheld hpersist
        · refine iff_of_true ?_ ⟨hreserved, fun w hw => honly hw ▸ hstorable⟩
          obtain ⟨_, w, hcomplete, hanswer⟩ | ⟨e, hcomplete, -⟩ := ends_bind.mp hlast
          · obtain ⟨rfl, rfl⟩ := ends_pure.mp hanswer
            obtain ⟨-, hunheld'', event, hfind, houtcome⟩ :=
              closed_of_complete hothers hrequested hunheld' hcomplete
            intro other hother
            obtain rfl := Option.some.inj (hfind.symm.trans hother)
            exact ⟨by rw [houtcome]; nofun, iff_of_true houtcome ⟨records, rfl⟩, hunheld''⟩
          · cases (closed_of_complete hothers hrequested hunheld' hcomplete).1
        · cases hfailed
      · obtain ⟨hrequested, -, ⟨⟨_, hsucceeded⟩, -⟩ | ⟨-, hhindered⟩⟩ :=
          requested_of_persist hothers hdistinct hle hopen hunheld hpersist
        · cases hsucceeded
        · exact iff_of_false (hopened hrequested) fun hall => hhindered (hall.2 u hfinalize)
    · cases hfailed
  · obtain ⟨hopen, ⟨hsucceeded, -⟩ | ⟨-, hreleased⟩⟩ := open_of_finalize hothers hs hfinalize
    · cases hsucceeded
    · exact iff_of_false (hopened hopen.requested) fun hall => hreleased hall.1

end

/-! ### The call as a whole -/

variable {self : AIMatchSuggestionWorkflow} {call : GenerateCall}

/-- Nothing comes in between after the guarded part: the reservation is still reserved when it is
finalized, and when the suggestions are stored, the run is there, none of them is, and no text has a
NUL. -/
def Unhindered (workflow : AIMatchSuggestionWorkflow) (call : GenerateCall)
    (others : ℕ → TenantDatabase → TenantDatabase) (s : TenantDatabase) : Prop :=
  ∀ eventId inferred u, Ends (workflow.submit call) others ⟨s, []⟩ (.ok (some (eventId, inferred))) u →
    StillReserved inferred.reservationId (others u.log.length u.state) ∧
      ∀ v, Ends (finalize call inferred) others u (.ok ()) v →
        Storable workflow call inferred (others v.log.length v.state)

/-- **A call closes its event and its reservation** exactly if nothing comes in between. -/
theorem event_closed_iff {observer : AIInferenceObserver}
    {others : ℕ → TenantDatabase → TenantDatabase} {s : TenantDatabase} {t : Turn TenantDatabase}
    {result : Except Failure (List AIMatchSuggestionRecord)} (hobserver : self.observer = some observer)
    (hfresh : Fresh call.draws self.generator.maximumCandidates s)
    (hothers : ∀ n db, Relation.ReflTransGen (OtherStep call.draws) db (others n db))
    (h : Ends (self.generateAndPersist call) others ⟨s, []⟩ result t) :
    Closed call.draws result t.state ↔ Unhindered self call others s := by
  have hundisturbed (n : ℕ) (db : TenantDatabase) : Undisturbed call.draws db (others n db) :=
    .of_steps (hothers n db)
  obtain ⟨submitted, u, hsubmit, hrest⟩ | ⟨e, hsubmit, rfl⟩ := ends_bind.mp h
  · obtain ⟨inferred, hsubmitted, hopen⟩ | ⟨hsubmitted, hclosed⟩ :=
      open_of_submit hundisturbed hobserver hfresh hsubmit
    · obtain rfl := Except.ok.inj hsubmitted
      obtain ⟨candidates, hgenerate, ⟨-, hnone⟩ | ⟨_, _, hsame, hanswered⟩⟩ := ends_submit hsubmit
      · cases hnone
      · obtain ⟨-, rfl⟩ := Prod.mk.inj (Option.some.inj hsame)
        have hdistinct := nodup_fingerprints
          (ReconciliationCandidateGenerator.distinguished_generate hgenerate) hanswered.mapped
        refine (closed_store_iff hundisturbed hdistinct (length_validated_le hgenerate hanswered)
          hopen hrest).trans ⟨fun hall eventId' inferred' u' hsubmit' => ?_, fun hall => ?_⟩
        · obtain ⟨hok, rfl⟩ := hsubmit.unique hsubmit'
          obtain ⟨-, rfl⟩ := Prod.mk.inj (Option.some.inj (Except.ok.inj hok))
          exact hall
        · exact hall _ inferred u hsubmit
    · obtain hsubmitted | ⟨_, hfailed⟩ := hsubmitted
      · obtain rfl := Except.ok.inj hsubmitted
        obtain ⟨rfl, rfl⟩ := ends_pure.mp hrest
        refine iff_of_true (fun event hfind => ?_) (fun _ _ _ hsubmit' => ?_)
        · obtain hnone | ⟨⟨_, hfailed⟩, -⟩ := hclosed
          · rw [hnone] at hfind
            cases hfind
          · cases hfailed
        · cases (hsubmit.unique hsubmit').1
      · cases hfailed
  · obtain ⟨_, hsubmitted, -⟩ | ⟨-, hclosed⟩ := open_of_submit hundisturbed hobserver hfresh hsubmit
    · cases hsubmitted
    · refine iff_of_true (fun event hfind => ?_) (fun _ _ _ hsubmit' => ?_)
      · obtain hnone | ⟨-, hunheld, other, hother, hrequested, hsucceeded⟩ := hclosed
        · rw [hnone] at hfind
          cases hfind
        · obtain rfl := Option.some.inj (hother.symm.trans hfind)
          exact ⟨hrequested, iff_of_false hsucceeded (fun ⟨_, hok⟩ => by cases hok), hunheld⟩
      · cases (hsubmit.unique hsubmit').1

end AIMatchSuggestionWorkflow

def hostedWorkflow : AIMatchSuggestionWorkflow :=
  { deterministicWorkflow with
    generator := { ReconciliationCandidateGenerator.standard sameRecords with
      maximumCandidates := 1, maximumCandidates_range := by decide }
    providerName := "openai-compatible", providerName_valid := by decide
    usageController := some hosted
    observer := some {
      provider := "openai-compatible"
      modelVersion := "hosted-v1"
      promptVersion := "prompt-v1"
      inferenceConfigVersion := "config-v1" } }

/-- The same call once more. -/
def secondCall : GenerateCall :=
  { onlyCall with draws := { onlyCall.draws with
      eventId := 15
      reservationId := 16
      suggestionId := fun n => BitVec.ofNat 128 (17 + n) } }

/-- The event of the second call, as a database has it. -/
def secondOutcome (db : TenantDatabase) : Option AIInferenceOutcome :=
  (db.inferenceEvents.find 15).map (·.outcome)

/-- Nothing but the call takes place. -/
def alone : ℕ → TenantDatabase → TenantDatabase := fun _ db => db

/-- The suggestion is stored already. -/
def suggestedOnce : TenantDatabase :=
  (((deterministicWorkflow.generateAndPersist onlyCall).run alone).run ⟨meteredStart.db, []⟩).2.state

theorem fresh_secondCall {db : TenantDatabase} (hevent : db.inferenceEvents.find 15 = none)
    (hreservation : db.usageRecords.find 16 = none) (hsuggestion : db.suggestions.find 17 = none) :
    Fresh secondCall.draws hostedWorkflow.generator.maximumCandidates db := by
  refine ⟨hevent, hreservation, fun m _ hlt => ?_, fun m m' _ hlt hlt' => ?_⟩
  · obtain rfl : m = 0 := by
      have hlt : m < 0 + 1 := hlt
      omega
    exact hsuggestion
  · have hlt' : m' < 0 + 1 := hlt'
    omega

theorem event_closed_alone : ∃ result t,
    Ends (hostedWorkflow.generateAndPersist secondCall) alone ⟨meteredStart.db, []⟩ result t ∧
      secondOutcome t.state = some .succeeded ∧
      hostedWorkflow.Unhindered secondCall alone meteredStart.db := by
  obtain ⟨result, t, hends⟩ :=
    exists_ends (hostedWorkflow.generateAndPersist secondCall) alone ⟨meteredStart.db, []⟩
  have hrun : (match ((hostedWorkflow.generateAndPersist secondCall).run alone).run
      ⟨meteredStart.db, []⟩ with
    | (.ok _, t) => decide (secondOutcome t.state = some .succeeded) &&
        decide ((t.state.usageRecords.find 16).map (·.status) = some .finalized)
    | (.error _, _) => false) = true := by decide +kernel
  rw [show ((hostedWorkflow.generateAndPersist secondCall).run alone).run
    ⟨meteredStart.db, []⟩ = (result, t) from hends] at hrun
  cases result with
  | error e => cases hrun
  | ok records =>
    simp only [Bool.and_eq_true, decide_eq_true_eq] at hrun
    obtain ⟨houtcome, hstatus⟩ := hrun
    refine ⟨.ok records, t, hends, houtcome, (AIMatchSuggestionWorkflow.event_closed_iff rfl
      (fresh_secondCall rfl rfl rfl) (fun _ _ => .refl) hends).mp fun event hfind => ?_⟩
    have hsucceeded : event.outcome = .succeeded := by
      rw [secondOutcome, show t.state.inferenceEvents.find 15 = some event from hfind] at houtcome
      exact Option.some.inj houtcome
    refine ⟨by rw [hsucceeded]; rintro ⟨⟩, iff_of_true hsucceeded ⟨records, rfl⟩, fun usage husage => ?_⟩
    rw [show t.state.usageRecords.find 16 = some usage from husage] at hstatus
    exact .inl (Option.some.inj hstatus)

/-- The records have a suggestion already: storing it again is refused, and the event of the call
stays requested. -/
theorem event_left_requested : ∃ result t,
    Fresh secondCall.draws hostedWorkflow.generator.maximumCandidates suggestedOnce ∧
      Ends (hostedWorkflow.generateAndPersist secondCall) alone ⟨suggestedOnce, []⟩ result t ∧
      ¬ Closed secondCall.draws result t.state := by
  obtain ⟨result, t, hends⟩ :=
    exists_ends (hostedWorkflow.generateAndPersist secondCall) alone ⟨suggestedOnce, []⟩
  have hfree : (suggestedOnce.inferenceEvents.find 15).isNone = true ∧
      (suggestedOnce.usageRecords.find 16).isNone = true ∧
        (suggestedOnce.suggestions.find 17).isNone = true := by decide +kernel
  have hrun : secondOutcome (((hostedWorkflow.generateAndPersist secondCall).run alone).run
      ⟨suggestedOnce, []⟩).2.state = some .requested := by decide +kernel
  rw [show (((hostedWorkflow.generateAndPersist secondCall).run alone).run
    ⟨suggestedOnce, []⟩).2 = t from congrArg Prod.snd hends] at hrun
  refine ⟨result, t, fresh_secondCall (Option.isNone_iff_eq_none.mp hfree.1)
    (Option.isNone_iff_eq_none.mp hfree.2.1) (Option.isNone_iff_eq_none.mp hfree.2.2), hends, ?_⟩
  intro hclosed
  obtain ⟨event, hfind, hrequested⟩ := Option.map_eq_some_iff.mp hrun
  exact (hclosed event hfind).1 hrequested

end ReconcileFlow.AI
