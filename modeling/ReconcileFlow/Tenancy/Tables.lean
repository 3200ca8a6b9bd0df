import ReconcileFlow.Tenancy.Queue

/-!
# Tenancy — Tables

The operations on the tables that the queue does not use isolate the organization that they are
called with, and so do the operations of the queue on the whole database
(`Isolates.onDatabase`).  Suggestions, usage records and inference events are rows of one shape,
with an organization and a run (`OwnedPart`); files and results belong to whom their run belongs.
-/

namespace ReconcileFlow.Tenancy

open Support Support.Transaction
open Persistence hiding SourceFileRecord sourceFileSchema
open Storage (SourceFileRecord)

/-! ### The queue's tables in the database -/

section

variable {A B runId owner : UUID} {s t : TenantDatabase} {next next' : Database}

theorem OnlyQueueOf.isRunOf {db : Database} (h : OnlyQueueOf A db next)
    (howner : organizationOf db runId = some owner) : isRunOf B next runId = isRunOf B db runId := by
  unfold Tenancy.isRunOf
  rw [h.owners howner, howner]

theorem any_find_eq (db : Database) (runId : UUID) :
    ((db.runs.find runId).any fun run => decide (run.organizationId = B)) = isRunOf B db runId := by
  unfold isRunOf organizationOf
  cases db.runs.find runId with
  | none => rfl
  | some run => simp

theorem belongsTo_eq (db : TenantDatabase) (file : SourceFileRecord) :
    db.fileStore.belongsTo B file = isRunOf B db.toDatabase file.runId :=
  any_find_eq db.toDatabase file.runId

theorem Owned.setQueue (h : Owned s) (hnext : OwnedQueue next)
    (honly : OnlyQueueOf A s.toDatabase next) : Owned { s with toDatabase := next } where
  queue := hnext
  files file hm := by
    obtain ⟨owner, howner⟩ := h.files file hm
    exact ⟨owner, honly.owners howner⟩
  resultIds row hm := by
    obtain ⟨owner, howner⟩ := h.resultIds row hm
    exact ⟨owner, honly.owners howner⟩
  suggestions suggestion hm := honly.owners (h.suggestions suggestion hm)
  usageRecords usage hm := honly.owners (h.usageRecords usage hm)
  inferenceEvents event hm := honly.owners (h.inferenceEvents event hm)

theorem OnlyRowsOf.setQueue (honly : OnlyQueueOf A s.toDatabase next) :
    OnlyRowsOf A s { s with toDatabase := next } :=
  ⟨honly, rfl, rfl, rfl, rfl, .refl, .refl, .refl⟩

/-- A change of the queue changes no file's organization. -/
theorem filesOf_setQueue (h : Owned s) (honly : OnlyQueueOf A s.toDatabase next) :
    ({ s with toDatabase := next } : TenantDatabase).fileStore.filesOf B =
      s.fileStore.filesOf B := by
  refine List.filter_congr fun file hm => ?_
  obtain ⟨owner, howner⟩ := h.files file hm
  rw [belongsTo_eq, belongsTo_eq]
  exact honly.isRunOf howner

theorem resultIds_setQueue (h : Owned s) (honly : OnlyQueueOf A s.toDatabase next) :
    (s.resultIds.rows.filter fun row => isRunOf B next row.runId) =
      s.resultIds.rows.filter fun row => isRunOf B s.toDatabase row.runId := by
  refine List.filter_congr fun row hm => ?_
  obtain ⟨owner, howner⟩ := h.resultIds row hm
  exact honly.isRunOf howner

theorem SameRows.setQueue (h : SameRows A s t) (hs : Owned s) (ht : Owned t)
    (honly : OnlyQueueOf A s.toDatabase next) (honly' : OnlyQueueOf A t.toDatabase next')
    (hnext : SameQueue A next next') :
    SameRows A { s with toDatabase := next } { t with toDatabase := next' } where
  queue := hnext
  files := by rw [filesOf_setQueue hs honly, filesOf_setQueue ht honly', h.files]
  resultIds := (resultIds_setQueue hs honly).trans
    (h.resultIds.trans (resultIds_setQueue ht honly').symm)
  suggestions := h.suggestions
  usageRecords := h.usageRecords
  inferenceEvents := h.inferenceEvents

/-- **What isolates on the queue's tables isolates on all.** -/
theorem Isolates.onDatabase {α : Type} {x : Session α} {pre : Database → Prop}
    {post : α → Database → Prop} (h : Isolates (queueTenancy A) pre x post) :
    Isolates (tenancy A) (fun db => pre db.toDatabase) (Tenancy.onDatabase x)
      fun a db => post a db.toDatabase := by
  intro s t hl hs ht
  have hx := h s.toDatabase t.toDatabase
    ⟨hl.left.queue, hl.right.queue, hl.agree.1.queue⟩ hs ht
  have hrun (db : TenantDatabase) : (Tenancy.onDatabase x).run db =
      (x.run db.toDatabase).map fun r => (r.1, { db with toDatabase := r.2 }) := rfl
  unfold Couples at hx ⊢
  rw [hrun, hrun]
  cases hxs : x.run s.toDatabase with
  | error e =>
    cases hxt : x.run t.toDatabase with
    | error e' =>
      rw [hxs, hxt] at hx
      exact hx
    | ok b =>
      rw [hxs, hxt] at hx
      exact hx.elim
  | ok a =>
    cases hxt : x.run t.toDatabase with
    | error e' =>
      rw [hxs, hxt] at hx
      exact hx.elim
    | ok b =>
      rw [hxs, hxt] at hx
      obtain ⟨ha, hm, hpost, hpost'⟩ := hx
      refine ⟨ha, ⟨⟨?_, ?_, ?_, hl.agree.2⟩, ?_, ?_⟩, hpost, hpost'⟩
      · exact Owned.setQueue hl.left hm.linked.left hm.left
      · exact Owned.setQueue hl.right hm.linked.right hm.right
      · exact SameRows.setQueue hl.agree.1 hl.left hl.right hm.left hm.right hm.linked.agree
      · exact OnlyRowsOf.setQueue hm.left
      · exact OnlyRowsOf.setQueue hm.right

end

/-! ### Rows with an organization and a run -/

/-- A table of the database whose rows have an organization, which is that of their run; only rows
of one organization clash. -/
structure OwnedPart {ρ : Type} {S : Schema ρ UUID} (part : Part TenantDatabase S)
    (organizationId runId : ρ → UUID) : Prop where
  shared : ∀ A, part.Shared (tenancy A) fun r => decide (organizationId r = A)
  owned : ∀ {db}, Owned db → ∀ r ∈ (part.table db).rows,
    organizationOf db.toDatabase (runId r) = some (organizationId r)
  put : ∀ {db} {rows : Table S}, Owned db → (∀ r ∈ rows.rows,
    organizationOf db.toDatabase (runId r) = some (organizationId r)) → Owned (part.put rows db)
  table_put : ∀ (rows : Table S) db, part.table (part.put rows db) = rows
  clash : ∀ {r s : ρ}, (S.clash r s || S.clash s r) = true → organizationId r = organizationId s

theorem ownedPart_usage :
    OwnedPart TenantDatabase.usagePart AIUsageRecord.organizationId AIUsageRecord.runId where
  shared A := {
    same := fun h => h.1.usageRecords
    agree := fun h huv =>
      ⟨⟨h.1.queue, h.1.files, h.1.resultIds, h.1.suggestions, huv, h.1.inferenceEvents⟩, h.2⟩
    confined := fun hu => ⟨.refl, rfl, rfl, rfl, rfl, .refl, hu, .refl⟩ }
  owned h := h.usageRecords
  put h hrows := ⟨h.queue, h.files, h.resultIds, h.suggestions, hrows, h.inferenceEvents⟩
  table_put _ _ := rfl
  clash h := by cases h

theorem ownedPart_inferenceEvent : OwnedPart TenantDatabase.inferenceEventPart
    AIInferenceEventRecord.organizationId AIInferenceEventRecord.runId where
  shared A := {
    same := fun h => h.1.inferenceEvents
    agree := fun h huv =>
      ⟨⟨h.1.queue, h.1.files, h.1.resultIds, h.1.suggestions, h.1.usageRecords, huv⟩, h.2⟩
    confined := fun hu => ⟨.refl, rfl, rfl, rfl, rfl, .refl, .refl, hu⟩ }
  owned h := h.inferenceEvents
  put h hrows := ⟨h.queue, h.files, h.resultIds, h.suggestions, h.usageRecords, hrows⟩
  table_put _ _ := rfl
  clash h := by cases h

theorem ownedPart_suggestion : OwnedPart TenantDatabase.suggestionPart
    AIMatchSuggestionRecord.organizationId AIMatchSuggestionRecord.runId where
  shared A := {
    same := fun h => h.1.suggestions
    agree := fun h huv =>
      ⟨⟨h.1.queue, h.1.files, h.1.resultIds, huv, h.1.usageRecords, h.1.inferenceEvents⟩, h.2⟩
    confined := fun hu => ⟨.refl, rfl, rfl, rfl, rfl, hu, .refl, .refl⟩ }
  owned h := h.suggestions
  put h hrows := ⟨h.queue, h.files, h.resultIds, hrows, h.usageRecords, h.inferenceEvents⟩
  table_put _ _ := rfl
  clash {r s} h := by
    rcases Bool.or_eq_true_iff.mp h with h | h
    · exact (of_decide_eq_true h).1
    · exact (of_decide_eq_true h).1.symm

namespace OwnedPart

variable {ρ : Type} {S : Schema ρ UUID} {part : Part TenantDatabase S}
  {organizationId runId : ρ → UUID} {A : UUID} {r old : ρ} {e : Persistence.Error}

/-- The row of the organization is stored so. -/
def Stored (_ : OwnedPart part organizationId runId) (A : UUID) (r : ρ) (db : TenantDatabase) : Prop :=
  organizationId r = A ∧ (part.table db).find (S.key r) = some r

variable (h : OwnedPart part organizationId runId)
include h

/-- What is selected of the organization's rows. -/
theorem select {q : ρ → Bool} (hq : ∀ r, q r = true → organizationId r = A) {s t : TenantDatabase}
    (hl : (tenancy A).Linked s t) :
    (part.table s).rows.filter q = (part.table t).rows.filter q :=
  ((h.shared A).same hl.agree).filter (fun r _ hr => decide_eq_true (hq r hr))
    fun r _ hr => decide_eq_true (hq r hr)

theorem isolates_get {k : UUID} : Isolates (tenancy A) (fun _ => True) (do
    let found ← reads fun db => ((part.table db).find k).filter fun r => decide (organizationId r = A)
    fromOption e found) (h.Stored A) := by
  have hread : Isolates (tenancy A) (fun _ => True)
      (reads fun db => ((part.table db).find k).filter fun r => decide (organizationId r = A) :
        TenantSession (Option ρ))
      (fun found db =>
        ((part.table db).find k).filter (fun r => decide (organizationId r = A)) = found) :=
    isolates_reads (fun s t hl _ _ => ((h.shared A).same hl.agree).find k) fun _ _ _ => rfl
  refine isolates_bind hread fun found => isolates_fromOption fun r db hr hfound => ?_
  obtain ⟨hfind, horg⟩ := Option.filter_eq_some_iff.mp (hfound.trans hr)
  have hkey : S.key r = k := Table.key_of_find hfind
  exact ⟨of_decide_eq_true horg, hkey ▸ hfind⟩

/-- A row of the same key, organization and run takes the place of one that is stored. -/
theorem isolates_update (hkey : S.key r = S.key old) (horg : organizationId r = organizationId old)
    (hrun : runId r = runId old)
    (hclash : ∀ u, S.clash r u = S.clash old u ∧ S.clash u r = S.clash u old) :
    Isolates (tenancy A) (h.Stored A old) (part.update e r) fun _ => h.Stored A r := by
  refine isolates_of_and fun holdOrg => ?_
  refine Part.isolates_update (h.shared A) (decide_eq_true (horg.trans holdOrg))
    (fun s _ hs => ⟨old, ⟨hkey ▸ hs, hclash⟩, decide_eq_true holdOrg⟩) fun s u hinv hs hu => ?_
  refine ⟨h.put hinv fun other hm => ?_, horg.trans holdOrg, ?_⟩
  · rw [Table.rows_update hu] at hm
    obtain ⟨stored, hstored, rfl⟩ := List.mem_map.mp hm
    split
    · rw [hrun, horg]
      exact h.owned hinv old (Table.mem_of_find hs)
    · exact h.owned hinv stored hstored
  · rw [h.table_put]
    exact Table.find_update_self hu rfl (hkey ▸ hs)

/-- A row is stored under a new key, whose run is the organization's. -/
theorem isolates_insert {pre : TenantDatabase → Prop} (horg : organizationId r = A)
    (hnew : ∀ db, pre db → (part.table db).find (S.key r) = none ∧
      organizationOf db.toDatabase (runId r) = some A) :
    Isolates (tenancy A) pre (part.insert e r) fun _ _ => True := by
  refine Part.isolates_insert (h.shared A) (decide_eq_true horg) (fun s t hl hs ht => ?_)
    fun s u hinv hs hu => ⟨h.put hinv fun other hm => ?_, trivial⟩
  · have hclashes := ((h.shared A).same hl.agree).any (q := fun other =>
        S.clash other r || S.clash r other)
      (fun other _ hc => decide_eq_true ((h.clash hc).trans horg))
      fun other _ hc => decide_eq_true ((h.clash hc).trans horg)
    have hfree (db : TenantDatabase) (hnew : (part.table db).find (S.key r) = none) :
        (part.table db).Free r ↔
          ((part.table db).rows.any fun other => S.clash other r || S.clash r other) = false := by
      rw [List.any_eq_false]
      constructor
      · intro hfree other hm
        rw [hfree.clash other hm]
        exact Bool.false_ne_true
      · intro hnone
        exact ⟨Table.find_eq_none.mp hnew, fun other hm => Bool.eq_false_iff.mpr (hnone other hm)⟩
    rw [hfree s (hnew s hs).1, hfree t (hnew t ht).1, hclashes]
  · rw [Table.rows_insert hu] at hm
    rcases List.mem_append.mp hm with hm | hm
    · exact h.owned hinv other hm
    · obtain rfl := List.mem_singleton.mp hm
      exact (hnew s hs).2.trans (congrArg some horg.symm)

end OwnedPart

/-! ### Suggestions -/

section

variable {A runId : UUID} {page : Page} {now : Instant}

/-- The run is found only if it is the organization's. -/
theorem isolates_ensureRun {pre : TenantDatabase → Prop} :
    Isolates (tenancy A) pre (ensureRun runId A) fun _ db =>
      pre db ∧ organizationOf db.toDatabase runId = some A := by
  have hread : Isolates (tenancy A) pre
      (reads fun db => ((db.runs.find runId).filter fun run =>
        decide (run.organizationId = A)).isSome : TenantSession Bool)
      (fun found db =>
        pre db ∧ (found = true → organizationOf db.toDatabase runId = some A)) := by
    refine isolates_reads (fun s t hl _ _ => by rw [hl.agree.1.queue.findRun]) fun db _ hpre => ?_
    refine ⟨hpre, fun hfound => ?_⟩
    rw [← isRunOf_eq] at hfound
    exact of_decide_eq_true hfound
  exact isolates_bind hread fun found => isolates_require fun db hfound hs => ⟨hs.1, hs.2 hfound⟩

variable {suggestionId : UUID}

theorem isolates_createSuggestion {draft : SuggestionDraft} :
    Isolates (tenancy A) (fun db => db.suggestions.find suggestionId = none)
      (AIMatchSuggestionRepository.create suggestionId A runId draft now) fun _ _ => True := by
  refine isolates_bind isolates_ensureRun fun _ => ?_
  refine isolates_fromExcept_bind fun draft _ => isolates_fromExcept_bind fun row hrow => ?_
  obtain rfl := AIMatchSuggestionRecord.toRow_ok hrow
  refine isolates_bind (ownedPart_suggestion.isolates_insert ?_ fun _ hs => hs) fun _ =>
    isolates_pure fun _ _ => trivial
  rfl

theorem isolates_getSuggestion : Isolates (tenancy A) (fun _ => True)
    (AIMatchSuggestionRepository.get suggestionId A) (ownedPart_suggestion.Stored A) :=
  ownedPart_suggestion.isolates_get

theorem select_suggestions {status : Option MatchSuggestionStatus} {s t : TenantDatabase}
    (hl : (tenancy A).Linked s t) :
    (s.suggestions.rows.filter fun suggestion => isListed suggestion runId A status) =
      t.suggestions.rows.filter fun suggestion => isListed suggestion runId A status := by
  refine ownedPart_suggestion.select (fun suggestion hlisted => ?_) hl
  exact of_decide_eq_true (Bool.and_eq_true_iff.mp (Bool.and_eq_true_iff.mp hlisted).1).2

theorem isolating_listSuggestions {status : Option MatchSuggestionStatus} :
    Isolating (tenancy A) (AIMatchSuggestionRepository.listForRun runId A page status) :=
  isolating_reads fun s t hl => by rw [select_suggestions hl]

theorem isolating_countSuggestions {status : Option MatchSuggestionStatus} :
    Isolating (tenancy A) (AIMatchSuggestionRepository.countForRun runId A status) :=
  isolating_reads fun s t hl => by rw [select_suggestions hl]

theorem isolates_getPending : Isolates (tenancy A) (fun _ => True)
    (AIMatchSuggestionRepository.getPending suggestionId A) (ownedPart_suggestion.Stored A) :=
  isolates_bind isolates_getSuggestion fun _ => isolates_require_bind fun _ =>
    isolates_pure fun _ hs => hs

/-- The reviewer may be of any organization. -/
theorem isolating_resolve {reviewerUserId : UUID} {decision : MatchSuggestionStatus} :
    Isolating (tenancy A)
      (AIMatchSuggestionRepository.resolve suggestionId A reviewerUserId decision now) := by
  refine isolates_require_bind fun _ => isolates_bind isolates_getPending fun record => ?_
  refine isolates_reads_bind (fun s t hl => hl.agree.2 reviewerUserId) fun _ => ?_
  refine isolates_require_bind fun _ => ?_
  exact isolates_bind (ownedPart_suggestion.isolates_update rfl rfl rfl fun _ => ⟨rfl, rfl⟩)
    fun _ => isolates_pure fun _ _ => trivial

theorem isolating_expire :
    Isolating (tenancy A) (AIMatchSuggestionRepository.expire suggestionId A) := by
  refine isolates_bind isolates_getPending fun record => ?_
  exact isolates_bind (ownedPart_suggestion.isolates_update rfl rfl rfl fun _ => ⟨rfl, rfl⟩)
    fun _ => isolates_pure fun _ _ => trivial

/-! ### Usage -/

variable {reservationId : UUID} {provider modelVersion : String}

theorem isolates_reserve {reservedTokens candidateCount : Int} {expiresAt : Instant} :
    Isolates (tenancy A) (fun db => db.usageRecords.find reservationId = none)
      (AIUsageRepository.reserve reservationId A runId provider modelVersion reservedTokens
        candidateCount expiresAt now) fun _ _ => True := by
  refine isolates_bind isolates_ensureRun fun _ => ?_
  refine isolates_bind (ownedPart_usage.isolates_insert ?_ fun _ hs => hs) fun _ =>
    isolates_pure fun _ _ => trivial
  rfl

theorem isolates_getUsage : Isolates (tenancy A) (fun _ => True)
    (AIUsageRepository.get reservationId A) (ownedPart_usage.Stored A) :=
  ownedPart_usage.isolates_get

theorem isolating_finalize {inputTokens outputTokens : Int} : Isolating (tenancy A)
    (AIUsageRepository.finalize reservationId A inputTokens outputTokens now) := by
  refine isolates_bind isolates_getUsage fun record => isolates_require_bind fun _ => ?_
  exact isolates_bind (ownedPart_usage.isolates_update rfl rfl rfl fun _ => ⟨rfl, rfl⟩)
    fun _ => isolates_pure fun _ _ => trivial

theorem isolating_release :
    Isolating (tenancy A) (AIUsageRepository.release reservationId A now) := by
  refine isolates_bind isolates_getUsage fun record => ?_
  split
  · exact isolates_bind (ownedPart_usage.isolates_update rfl rfl rfl fun _ => ⟨rfl, rfl⟩)
      fun _ => isolates_pure fun _ _ => trivial
  · exact isolates_pure fun _ _ => trivial

/-- The reservations that are still to be released are stored. -/
def StillReserved (A : UUID) (usages : List AIUsageRecord) (db : TenantDatabase) : Prop :=
  (usages.map (·.id)).Nodup ∧ ∀ usage ∈ usages, ownedPart_usage.Stored A usage db

theorem isolates_releaseOne (usage : AIUsageRecord) (usages : List AIUsageRecord) :
    Isolates (tenancy A) (StillReserved A (usage :: usages))
      (TenantDatabase.usagePart.update integrityError (usage.released now))
      fun _ => StillReserved A usages := by
  have hone : Isolates (tenancy A) (ownedPart_usage.Stored A usage)
      (TenantDatabase.usagePart.update integrityError (usage.released now))
      fun _ => ownedPart_usage.Stored A (usage.released now) :=
    ownedPart_usage.isolates_update rfl rfl rfl fun _ => ⟨rfl, rfl⟩
  by_cases hnodup : ((usage :: usages).map (·.id)).Nodup
  · obtain ⟨hnot, hrest⟩ := List.nodup_cons.mp hnodup
    refine (hone.frame (P := fun db => ∀ other ∈ usages, ownedPart_usage.Stored A other db)
      fun db _ db' hruns hstored other hm => ?_).mono
      (fun db h => ⟨h.2 usage List.mem_cons_self,
        fun other hm => h.2 other (List.mem_cons_of_mem usage hm)⟩) fun _ db h => ⟨hrest, h.2⟩
    obtain ⟨rows, hrows, rfl⟩ := Part.runs_update.mp hruns
    obtain ⟨horg, hfind⟩ := hstored other hm
    have hne : other.id ≠ usage.id := fun he => hnot (List.mem_map.mpr ⟨other, hm, he⟩)
    exact ⟨horg, (Table.find_update hrows other.id).trans ((if_neg hne).trans hfind)⟩
  · exact fun s _ _ hs _ => absurd hs.1 hnodup

theorem isolating_releaseExpired :
    Isolating (tenancy A) (AIUsageRepository.releaseExpired A now) := by
  have horg {usage : AIUsageRecord}
      (hq : (decide (usage.organizationId = A) && usage.isExpired now) = true) :
      usage.organizationId = A := of_decide_eq_true (Bool.and_eq_true_iff.mp hq).1
  have hread : Isolates (tenancy A) (fun _ => True)
      (reads fun db => db.usageRecords.rows.filter fun usage =>
        decide (usage.organizationId = A) && usage.isExpired now :
        TenantSession (List AIUsageRecord))
      (StillReserved A) := by
    refine isolates_reads (fun s t hl _ _ => ownedPart_usage.select (fun _ hq => horg hq) hl) ?_
    intro db _ _
    refine ⟨db.usageRecords.valid.1.sublist (List.filter_sublist.map _), fun usage hm => ?_⟩
    obtain ⟨hm, hq⟩ := List.mem_filter.mp hm
    exact ⟨horg hq, Table.find_of_mem hm⟩
  exact isolates_bind hread fun usages =>
    isolates_bind (isolates_forM isolates_releaseOne usages) fun _ =>
      isolates_pure fun _ _ => trivial

theorem isolating_summarizeUsage {since : Instant} :
    Isolating (tenancy A) (AIUsageRepository.summarize A since now) := by
  refine isolates_bind (isolating_reads fun s t hl => ?_) fun _ => isolates_pure fun _ _ => trivial
  exact ownedPart_usage.select (fun _ hq => of_decide_eq_true
    (Bool.and_eq_true_iff.mp (Bool.and_eq_true_iff.mp hq).1).1) hl

/-! ### Inference events -/

variable {eventId : UUID}

theorem isolates_createInferenceEvent {promptVersion inferenceConfigVersion : String}
    {candidateCount : Int} :
    Isolates (tenancy A) (fun db => db.inferenceEvents.find eventId = none)
      (AIInferenceEventRepository.create eventId A runId provider modelVersion promptVersion
        inferenceConfigVersion candidateCount now) fun _ _ => True := by
  refine isolates_bind isolates_ensureRun fun _ => ?_
  refine isolates_bind (ownedPart_inferenceEvent.isolates_insert ?_ fun _ hs => hs) fun _ =>
    isolates_pure fun _ _ => trivial
  rfl

theorem isolating_completeInferenceEvent {completion : AIInferenceCompletion} :
    Isolating (tenancy A) (AIInferenceEventRepository.complete eventId A completion) := by
  have hget (e : Persistence.Error) := ownedPart_inferenceEvent.isolates_get (A := A) (k := eventId)
    (e := e)
  unfold AIInferenceEventRepository.complete
  rw [← bind_assoc]
  refine isolates_bind (hget _) fun record => isolates_require_bind fun _ => ?_
  exact isolates_bind (ownedPart_inferenceEvent.isolates_update rfl rfl rfl fun _ => ⟨rfl, rfl⟩)
    fun _ => isolates_pure fun _ _ => trivial

theorem isolating_listInferenceEvents {outcome : Option AIInferenceOutcome} :
    Isolating (tenancy A) (AIInferenceEventRepository.listForOrganization A page outcome) :=
  isolating_reads fun s t hl => by
    have hselect := ownedPart_inferenceEvent.select (q := fun event =>
      decide (event.organizationId = A) && outcome.all fun value => decide (event.outcome = value))
      (fun _ hq => of_decide_eq_true (Bool.and_eq_true_iff.mp hq).1) hl
    exact congrArg (fun rows => page.of (sortOn _ rows)) hselect

/-! ### Files and results -/

theorem SameRows.findFile {s t : TenantDatabase} (h : SameRows A s t) (fileId : UUID) :
    s.fileStore.findFile fileId A = t.fileStore.findFile fileId A := by
  have hfiles : (s.files.filter (s.fileStore.belongsTo A)).find fileId =
      (t.files.filter (t.fileStore.belongsTo A)).find fileId :=
    congrArg (List.find? fun file : SourceFileRecord => decide (file.id = fileId)) h.files
  rwa [Table.find_filter, Table.find_filter] at hfiles

theorem isolating_findFile {fileId : UUID} :
    Isolating (tenancy A) (SourceFileRepository.find fileId A) :=
  isolating_reads fun _ _ hl => hl.agree.1.findFile fileId

theorem isolating_getFile {fileId : UUID} :
    Isolating (tenancy A) (SourceFileRepository.get fileId A) :=
  isolates_bind isolating_findFile fun _ => isolates_fromOption fun _ _ _ _ => trivial

theorem isolating_findByStorageKey {storageKey : String} :
    Isolating (tenancy A) (SourceFileRepository.findByStorageKey storageKey A) :=
  isolating_reads fun _ _ hl => by
    unfold Storage.FileStore.findByStorageKey
    rw [hl.agree.1.files]

theorem isolating_referencedStorageKeys :
    Isolating (tenancy A) (SourceFileRepository.referencedStorageKeys A) :=
  isolating_reads fun _ _ hl => by
    unfold Storage.FileStore.referencedStorageKeys
    rw [hl.agree.1.files]

theorem isolating_listStoredFiles {limit : Nat} :
    Isolating (tenancy A) (SourceFileRepository.listStoredForOrganization A limit) :=
  isolating_reads fun _ _ hl => by
    unfold Storage.listStoredForOrganization
    rw [hl.agree.1.files]

theorem isolating_totalSize :
    Isolating (tenancy A) (SourceFileRepository.totalSizeForOrganization A) :=
  isolating_reads fun _ _ hl => by
    unfold Storage.FileStore.totalSizeForOrganization
    rw [hl.agree.1.files]

/-- The results of a run of the organization are found alike. -/
theorem SameQueue.findResult {s t : Database} (h : SameQueue A s t) (hrun : isRunOf A s runId = true)
    (resultId : String) : s.results.find (runId, resultId) = t.results.find (runId, resultId) := by
  have hfound := h.sameResults.find (runId, resultId)
  have hkept (db : Database) : (db.results.find (runId, resultId)).filter
      (fun record => isRunOf A s record.runId) = db.results.find (runId, resultId) := by
    cases hf : db.results.find (runId, resultId) with
    | none => rfl
    | some record =>
      have hid : record.runId = runId := congrArg Prod.fst (Table.key_of_find hf)
      rw [Option.filter_some, hid, if_pos hrun]
  rwa [hkept, hkept] at hfound

theorem isolating_getResult {resultId : UUID} :
    Isolating (tenancy A) (ReconciliationResultRepository.get resultId A) := by
  refine isolates_bind (isolating_reads fun s t hl => ?_) fun _ =>
    isolates_fromOption fun _ _ _ _ => trivial
  have hrow : (s.resultIds.find resultId).filter (fun row => isRunOf A s.toDatabase row.runId) =
      (t.resultIds.find resultId).filter fun row => isRunOf A t.toDatabase row.runId := by
    rw [← Table.find_filter, ← Table.find_filter]
    exact congrArg (List.find? fun row : ResultId => decide (row.id = resultId)) hl.agree.1.resultIds
  unfold ReconciliationResultRepository.findIn
  simp only [any_find_eq]
  rw [← hrow]
  refine Option.bind_congr fun row hm => ?_
  exact hl.agree.1.queue.findResult (Option.filter_eq_some_iff.mp hm).2 row.resultId

end

end ReconcileFlow.Tenancy
