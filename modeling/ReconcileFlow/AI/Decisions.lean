import ReconcileFlow.Support.Transition
import ReconcileFlow.Tenancy.Database

/-!
# AI — Decisions

The life of suggestions under any sequence of creations, decisions and expiries.  A suggestion is
decided or expired at most once, whatever the order (`Moves`).  Its deadline is stored with it, and
no operation looks at it: a decision that comes late is recorded like any other
(`accepted_after_deadline`), so the deadline is kept only where the decisions keep it
(`decisions_kept`).
-/

namespace ReconcileFlow.AI

open Support Support.Transaction
open Persistence (UUID Instant AIMatchSuggestionRecord MatchSuggestionStatus CandidateRecordSet
  suggestionSchema integrityError)
open Tenancy

/-! ### The operations -/

inductive SuggestionOperation
  | create (suggestionId organizationId runId : UUID) (draft : SuggestionDraft)
  | resolve (suggestionId organizationId reviewerUserId : UUID) (decision : MatchSuggestionStatus)
  | expire (suggestionId organizationId : UUID)

def SuggestionOperation.run (now : Instant) :
    SuggestionOperation → TenantSession AIMatchSuggestionRecord
  | .create suggestionId organizationId runId draft =>
    AIMatchSuggestionRepository.create suggestionId organizationId runId draft now
  | .resolve suggestionId organizationId reviewerUserId decision =>
    AIMatchSuggestionRepository.resolve suggestionId organizationId reviewerUserId decision now
  | .expire suggestionId organizationId =>
    AIMatchSuggestionRepository.expire suggestionId organizationId

/-- The database, and when it was last used. -/
structure SuggestionStore where
  db : TenantDatabase
  clock : Instant

namespace SuggestionStore

/-- An operation at a moment that is not past; one that raises leaves no trace. -/
def step (store : SuggestionStore) (action : SuggestionOperation × Instant) :
    Option SuggestionStore :=
  if store.clock ≤ action.2 then
    some ⟨(atomically (action.1.run action.2) store.db).2, action.2⟩
  else none

def suggestion (store : SuggestionStore) (suggestionId : UUID) : Option AIMatchSuggestionRecord :=
  store.db.suggestions.find suggestionId

/-- A user decides in time on a pending suggestion. -/
def InTime (store : SuggestionStore) : SuggestionOperation × Instant → Prop
  | (.resolve suggestionId organizationId reviewerUserId decision, now) =>
    (decision = .accepted ∨ decision = .rejected) →
      (store.db.users.find reviewerUserId).isSome = true →
      ∀ suggestion ∈ store.suggestion suggestionId,
        suggestion.organizationId = organizationId → suggestion.status = .pending →
          ∀ expiresAt ∈ suggestion.expiresAt, now < expiresAt
  | _ => True

instance (store : SuggestionStore) : ∀ action, Decidable (store.InTime action)
  | (.create .., _) | (.expire .., _) => .isTrue trivial
  | (.resolve .., _) => inferInstanceAs (Decidable (_ → _ → _))

end SuggestionStore

/-! ### What an operation does -/

def isDecided (suggestion : AIMatchSuggestionRecord) : Prop :=
  suggestion.status = .accepted ∨ suggestion.status = .rejected

/-- It has a reviewer and a time of review exactly when it is decided. -/
def Reviewed (suggestion : AIMatchSuggestionRecord) : Prop :=
  (suggestion.reviewedByUserId.isSome = true ↔ isDecided suggestion) ∧
    (suggestion.reviewedAt.isSome = true ↔ isDecided suggestion)

/-- If it is decided, that was before its deadline. -/
def BeforeDeadline (suggestion : AIMatchSuggestionRecord) : Prop :=
  isDecided suggestion → ∀ expiresAt ∈ suggestion.expiresAt,
    ∀ reviewedAt ∈ suggestion.reviewedAt, reviewedAt < expiresAt

/-- What is stored under an id before and after an operation at `now`; `timely` holds of a
suggestion that is decided. -/
inductive Moves (now : Instant) (timely : AIMatchSuggestionRecord → Prop) :
    Option AIMatchSuggestionRecord → Option AIMatchSuggestionRecord → Prop
  | stays (stored : Option AIMatchSuggestionRecord) : Moves now timely stored stored
  | created {suggestion : AIMatchSuggestionRecord} (hpending : suggestion.status = .pending)
      (hreviewer : suggestion.reviewedByUserId = none) (htime : suggestion.reviewedAt = none) :
      Moves now timely none (some suggestion)
  | decided {suggestion : AIMatchSuggestionRecord} {reviewer : UUID}
      {decision : MatchSuggestionStatus} (hpending : suggestion.status = .pending)
      (hdecision : decision = .accepted ∨ decision = .rejected) (htimely : timely suggestion) :
      Moves now timely (some suggestion) (some { suggestion with
        status := decision, reviewedByUserId := some reviewer, reviewedAt := some now })
  | expired {suggestion : AIMatchSuggestionRecord} (hpending : suggestion.status = .pending) :
      Moves now timely (some suggestion) (some { suggestion with status := .expired })

section

variable {s t : TenantDatabase} {suggestionId organizationId : UUID}
  {record : AIMatchSuggestionRecord}

theorem runs_create {runId : UUID} {draft : SuggestionDraft} {now : Instant}
    (h : Runs (AIMatchSuggestionRepository.create suggestionId organizationId runId draft now) s
      record t) :
    record.id = suggestionId ∧ record.status = .pending ∧ record.reviewedByUserId = none ∧
      record.reviewedAt = none ∧ ∃ rows, s.suggestions.insert? record.stored = some rows ∧
        t = { s with suggestions := rows } := by
  simp only [AIMatchSuggestionRepository.create, ensureRun, Part.insert,
    TenantDatabase.suggestionPart, runs_bind, runs_reads, runs_require, runs_fromExcept, runs_get,
    runs_fromOption, runs_set, runs_pure] at h
  obtain ⟨_, _, ⟨_, _, ⟨-, rfl⟩, -, rfl⟩, checked, _, ⟨-, rfl⟩, row, _, ⟨hrow, rfl⟩, _, _,
    ⟨_, _, ⟨rfl, rfl⟩, rows, _, ⟨hinsert, rfl⟩, rfl⟩, rfl, rfl⟩ := h
  obtain rfl := AIMatchSuggestionRecord.toRow_ok hrow
  exact ⟨rfl, rfl, rfl, rfl, rows, hinsert, rfl⟩

theorem runs_getPending {found : AIMatchSuggestionRecord}
    (h : Runs (AIMatchSuggestionRepository.getPending suggestionId organizationId) s found t) :
    s.suggestions.find suggestionId = some found ∧ found.organizationId = organizationId ∧
      found.status = .pending ∧ t = s := by
  simp only [AIMatchSuggestionRepository.getPending, AIMatchSuggestionRepository.get, runs_bind,
    runs_require, runs_reads, runs_fromOption, runs_pure] at h
  obtain ⟨_, _, ⟨_, _, ⟨rfl, rfl⟩, hfound, rfl⟩, _, _, ⟨hpending, rfl⟩, rfl, rfl⟩ := h
  obtain ⟨hfound, horganization⟩ := Option.filter_eq_some_iff.mp hfound
  exact ⟨hfound, by simpa using horganization, hpending, rfl⟩

theorem runs_updateSuggestion {e : Persistence.Error} {u : Unit}
    (h : Runs (TenantDatabase.suggestionPart.update e record) s u t) :
    ∃ rows, s.suggestions.update? record = some rows ∧ t = { s with suggestions := rows } := by
  simp only [Part.update, TenantDatabase.suggestionPart, runs_bind, runs_get, runs_fromOption,
    runs_set] at h
  obtain ⟨_, _, ⟨rfl, rfl⟩, rows, _, ⟨hupdate, rfl⟩, rfl⟩ := h
  exact ⟨rows, hupdate, rfl⟩

theorem runs_resolve {reviewer : UUID} {decision : MatchSuggestionStatus} {now : Instant}
    (h : Runs (AIMatchSuggestionRepository.resolve suggestionId organizationId reviewer decision
      now) s record t) :
    ∃ found, s.suggestions.find suggestionId = some found ∧
      found.organizationId = organizationId ∧ found.status = .pending ∧
      (decision = .accepted ∨ decision = .rejected) ∧ (s.users.find reviewer).isSome = true ∧
      ∃ rows, s.suggestions.update? { found with
        status := decision, reviewedByUserId := some reviewer, reviewedAt := some now } =
          some rows ∧ t = { s with suggestions := rows } := by
  simp only [AIMatchSuggestionRepository.resolve, runs_bind, runs_require, runs_reads,
    runs_pure] at h
  obtain ⟨_, _, ⟨hdecision, rfl⟩, found, _, hget, _, _, ⟨hreviewer, rfl⟩, _, _, ⟨hstored, rfl⟩,
    _, _, hupdate, -, rfl⟩ := h
  obtain ⟨hfound, horganization, hpending, rfl⟩ := runs_getPending hget
  exact ⟨found, hfound, horganization, hpending, hdecision, hreviewer ▸ hstored,
    runs_updateSuggestion hupdate⟩

theorem runs_expire
    (h : Runs (AIMatchSuggestionRepository.expire suggestionId organizationId) s record t) :
    ∃ found, s.suggestions.find suggestionId = some found ∧ found.status = .pending ∧
      ∃ rows, s.suggestions.update? { found with status := .expired } = some rows ∧
        t = { s with suggestions := rows } := by
  simp only [AIMatchSuggestionRepository.expire, runs_bind, runs_pure] at h
  obtain ⟨found, _, hget, _, _, hupdate, -, rfl⟩ := h
  obtain ⟨hfound, -, hpending, rfl⟩ := runs_getPending hget
  exact ⟨found, hfound, hpending, runs_updateSuggestion hupdate⟩

end

/-- The row that is put in the place of the one stored under `key` moves it, and no other. -/
theorem moves_update {now : Instant} {timely : AIMatchSuggestionRecord → Prop}
    {t t' : Table suggestionSchema} {key : UUID} {old new : AIMatchSuggestionRecord}
    (h : t.update? new = some t') (hfind : t.find key = some old) (hid : new.id = old.id)
    (hmoves : Moves now timely (some old) (some new)) (id : UUID) :
    Moves now timely (t.find id) (t'.find id) := by
  have hkey : suggestionSchema.key new = key := hid.trans (Table.key_of_find hfind)
  rw [Table.find_update h, hkey]
  by_cases hat : id = key
  · rw [if_pos hat, hat, hfind]
    exact hmoves
  · rw [if_neg hat]
    exact .stays _

theorem moves_of_run {now : Instant} {operation : SuggestionOperation} {s t : TenantDatabase}
    {record : AIMatchSuggestionRecord} {clock : Instant}
    (h : Runs (operation.run now) s record t) (id : UUID) :
    Moves now (fun suggestion => SuggestionStore.InTime ⟨s, clock⟩ (operation, now) →
      ∀ expiresAt ∈ suggestion.expiresAt, now < expiresAt)
      (s.suggestions.find id) (t.suggestions.find id) := by
  cases operation with
  | create =>
    obtain ⟨-, hpending, hreviewer, htime, rows, hinsert, rfl⟩ := runs_create h
    rw [Table.find_insert hinsert]
    by_cases hat : id = suggestionSchema.key record.stored
    · rw [if_pos hat, hat, Table.find_of_insert hinsert]
      exact .created hpending hreviewer htime
    · rw [if_neg hat]
      exact .stays _
  | resolve =>
    obtain ⟨found, hfind, horganization, hpending, hdecision, hreviewer, rows, hupdate, rfl⟩ :=
      runs_resolve h
    refine moves_update hupdate hfind rfl (.decided hpending hdecision fun htimely => ?_) id
    exact htimely hdecision hreviewer found hfind horganization hpending
  | expire =>
    obtain ⟨found, hfind, hpending, rows, hupdate, rfl⟩ := runs_expire h
    exact moves_update hupdate hfind rfl (.expired hpending) id

namespace SuggestionStore

variable {w w' : SuggestionStore} {action : SuggestionOperation × Instant}

theorem moves_of_step (h : w.step action = some w') (id : UUID) :
    Moves action.2 (fun suggestion => w.InTime action →
      ∀ expiresAt ∈ suggestion.expiresAt, action.2 < expiresAt)
      (w.suggestion id) (w'.suggestion id) := by
  unfold step at h
  split at h
  · obtain rfl := Option.some.inj h
    show Moves _ _ _ ((atomically (action.1.run action.2) w.db).2.suggestions.find id)
    cases hrun : (action.1.run action.2).run w.db with
    | error e =>
      rw [show (atomically (action.1.run action.2) w.db).2 = w.db by
        unfold atomically; rw [hrun]]
      exact .stays _
    | ok result =>
      rw [show (atomically (action.1.run action.2) w.db).2 = result.2 by
        unfold atomically; rw [hrun]]
      have hruns : Runs (action.1.run action.2) w.db result.1 result.2 := hrun
      exact moves_of_run hruns id
  · cases h

/-! ### Every run -/

/-- A suggestion that is no longer pending is not touched again. -/
theorem closed_of_reaches (h : Reaches step Always w w') {id : UUID}
    {suggestion : AIMatchSuggestionRecord} (hstored : w.suggestion id = some suggestion)
    (hclosed : suggestion.status ≠ .pending) : w'.suggestion id = some suggestion := by
  refine h.invariant (P := fun u => u.suggestion id = some suggestion) ?_ hstored
  intro t action u ht _ hstep
  have hmoves := moves_of_step hstep id
  rw [ht] at hmoves
  generalize u.suggestion id = after at hmoves
  cases hmoves with
  | stays => rfl
  | decided hpending => exact absurd hpending hclosed
  | expired hpending => exact absurd hpending hclosed

/-- What holds of pending suggestions as they are created, and of those that are decided or expired,
holds of all in every state reached. -/
theorem forall_of_reaches {ok : SuggestionStore → SuggestionOperation × Instant → Prop}
    {P : AIMatchSuggestionRecord → Prop}
    (hmoves : ∀ w action before after, ok w action → (∀ suggestion, before = some suggestion →
      P suggestion) → Moves action.2 (fun suggestion => w.InTime action →
        ∀ expiresAt ∈ suggestion.expiresAt, action.2 < expiresAt) before (some after) → P after)
    (hinit : ∀ suggestion ∈ w.db.suggestions.rows, P suggestion) (h : Reaches step ok w w') :
    ∀ suggestion ∈ w'.db.suggestions.rows, P suggestion := by
  have hfound (u : SuggestionStore) : (∀ suggestion ∈ u.db.suggestions.rows, P suggestion) ↔
      ∀ id suggestion, u.suggestion id = some suggestion → P suggestion :=
    ⟨fun hall _ suggestion hfind => hall suggestion (Table.mem_of_find hfind),
      fun hall suggestion hm => hall _ suggestion (Table.find_of_mem hm)⟩
  rw [hfound] at hinit ⊢
  refine h.invariant (P := fun u => ∀ id suggestion, u.suggestion id = some suggestion →
    P suggestion) ?_ hinit
  intro t action u ht hok hstep id suggestion hsuggestion
  exact hmoves t action _ suggestion hok (ht id) (hsuggestion ▸ moves_of_step hstep id)

theorem reviewed_of_reaches (hinit : ∀ suggestion ∈ w.db.suggestions.rows, Reviewed suggestion)
    (h : Reaches step Always w w') :
    ∀ suggestion ∈ w'.db.suggestions.rows, Reviewed suggestion := by
  refine forall_of_reaches (fun _ action before after _ hbefore hmoves => ?_) hinit h
  cases hmoves with
  | stays => exact hbefore after rfl
  | created hpending hreviewer htime => simp [Reviewed, isDecided, hpending, hreviewer, htime]
  | decided hpending hdecision => simp [Reviewed, isDecided, hdecision]
  | expired hpending =>
    have hreviewed := hbefore _ rfl
    simpa [Reviewed, isDecided, hpending] using hreviewed

theorem beforeDeadline_of_reaches
    (hinit : ∀ suggestion ∈ w.db.suggestions.rows, BeforeDeadline suggestion)
    (h : Reaches step InTime w w') :
    ∀ suggestion ∈ w'.db.suggestions.rows, BeforeDeadline suggestion := by
  refine forall_of_reaches (fun _ action before after hok hbefore hmoves => ?_) hinit h
  cases hmoves with
  | stays => exact hbefore after rfl
  | created hpending => simp [BeforeDeadline, isDecided, hpending]
  | decided hpending hdecision htimely =>
    intro _ expiresAt hdeadline reviewedAt hreviewed
    obtain rfl := Option.some.inj hreviewed
    exact htimely hok expiresAt hdeadline
  | expired hpending => simp [BeforeDeadline, isDecided]

/-- **Where every decision comes in time**, suggestions leave `PENDING` once, and have a reviewer
and a time exactly when they are decided, which was before their deadline. -/
theorem decisions_kept
    (hinit : ∀ suggestion ∈ w.db.suggestions.rows, Reviewed suggestion ∧ BeforeDeadline suggestion)
    (h : Reaches step InTime w w') :
    (∀ suggestion ∈ w'.db.suggestions.rows, Reviewed suggestion ∧ BeforeDeadline suggestion) ∧
      ∀ u, Reaches step Always w' u → ∀ suggestion ∈ w'.db.suggestions.rows,
        suggestion.status ≠ .pending → u.suggestion suggestion.id = some suggestion := by
  refine ⟨fun suggestion hm => ⟨?_, ?_⟩, fun u hu suggestion hm hclosed => ?_⟩
  · exact reviewed_of_reaches (fun s hs => (hinit s hs).1) h.always suggestion hm
  · exact beforeDeadline_of_reaches (fun s hs => (hinit s hs).2) h suggestion hm
  · exact closed_of_reaches hu (Table.find_of_mem hm) hclosed

end SuggestionStore

/-! ### The deadline -/

def reviewedRun : Persistence.ReconciliationRunRecord where
  id := 2
  organizationId := 1
  createdAt := 0

/-- A run and a user, and no suggestion yet. -/
def reviewable : SuggestionStore where
  db := {
    runs := ⟨[reviewedRun], by decide⟩
    sourceFiles := .empty
    configurations := .empty
    users := ⟨[{ id := 3, email := "", passwordHash := "" }], by decide⟩ }
  clock := 0

/-- A suggestion that expires at 10. -/
def expiring : SuggestionDraft where
  candidates := ⟨["b"], ["i"], [], by decide⟩
  confidenceScore := .ofInt 1
  explanation := .object [("a", .null)]
  features := .object [("a", .null)]
  provider := "p"
  modelVersion := "m"
  promptTemplateVersion := "t"
  inferenceConfigVersion := "c"
  expiresAt := some 10

/-- It is accepted at the moment `reviewedAt`. -/
def acceptedAt (reviewedAt : Instant) : List (SuggestionOperation × Instant) :=
  [(.create 4 1 2 expiring, 1), (.resolve 4 1 3 .accepted, reviewedAt), (.expire 4 1, 12)]

/-- Accepted at 9. -/
theorem decisions_kept_accepted : ∃ w,
    Reaches SuggestionStore.step SuggestionStore.InTime reviewable w ∧
    (w.suggestion 4).any (·.status = .accepted) = true ∧
    ∀ suggestion ∈ w.db.suggestions.rows, Reviewed suggestion ∧ BeforeDeadline suggestion := by
  have hrun : (exec SuggestionStore.step SuggestionStore.InTime (acceptedAt 9) reviewable).any
      (fun w => (w.suggestion 4).any (·.status = .accepted)) = true := by decide +kernel
  obtain ⟨w, hw, haccepted⟩ := (Option.any_eq_true _ _).mp hrun
  have hreaches := reaches_of_exec hw
  exact ⟨w, hreaches, haccepted,
    (SuggestionStore.decisions_kept (fun _ hm => absurd hm List.not_mem_nil) hreaches).1⟩

/-- Accepted at 11, when nobody has run `expire` yet. -/
theorem accepted_after_deadline : ∃ w, Reaches SuggestionStore.step Always reviewable w ∧
    ∃ suggestion ∈ w.db.suggestions.rows, suggestion.status = .accepted ∧
      suggestion.expiresAt = some 10 ∧ suggestion.reviewedAt = some 11 ∧
      ¬ BeforeDeadline suggestion := by
  have hrun : (exec SuggestionStore.step Always (acceptedAt 11) reviewable).any (fun w =>
      (w.suggestion 4).any fun suggestion => suggestion.status = .accepted ∧
        suggestion.expiresAt = some 10 ∧ suggestion.reviewedAt = some 11) = true := by
    decide +kernel
  obtain ⟨w, hw, hend⟩ := (Option.any_eq_true _ _).mp hrun
  obtain ⟨suggestion, hfind, hlate⟩ := (Option.any_eq_true _ _).mp hend
  obtain ⟨haccepted, hexpires, hreviewed⟩ := of_decide_eq_true hlate
  refine ⟨w, reaches_of_exec hw, suggestion, Table.mem_of_find hfind, haccepted, hexpires, hreviewed,
    fun hbefore => ?_⟩
  exact absurd (hbefore (.inl haccepted) 10 hexpires 11 hreviewed) (by decide)

end ReconcileFlow.AI
