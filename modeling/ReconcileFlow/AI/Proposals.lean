import ReconcileFlow.AI.Generation
import ReconcileFlow.AI.Steps
import ReconcileFlow.Support.Isolation

/-!
# AI — Proposals

What is stored of a response.  The types of a response accept nothing that the repository's checks of
texts and metadata refuse (`checked_draft`), but they accept a NUL, which the columns refuse.
Storing it fails only if the run is missing, a suggestion of the same records exists, or
one of its texts has a NUL (`fails_persist`).  A call stores one suggestion for each of the
response, of the candidate it refers to, or nothing (`stores_response`).
-/

namespace ReconcileFlow.AI

open Support Support.Transaction Support.Client
open Persistence (UUID Instant Error Metadata AIMatchSuggestionRecord suggestionSchema
  integrityError runNotFound requiredText validateMetadata inspect inspectItems inspectFields
  isForbidden hasNul hasNul_strip nulRefused)
open Tenancy (TenantDatabase TenantSession SuggestionDraft AIMatchSuggestionRepository.create)

/-! ### Checks -/

theorem requiredText_ok {value field : String} {maximum : Nat} (h : isBlank value = false)
    (hlength : value.length ≤ maximum) : requiredText value field maximum = .ok (strip value) := by
  have hstrip := isBlank_strip h
  have hne : strip value ≠ "" := by
    intro he
    rw [he] at hstrip
    cases hstrip
  have hle := (length_strip_le value).trans hlength
  simp only [requiredText, hne, false_or, not_lt.mpr hle, if_false]
  rfl

/-- A text of a field that is checked when the workflow is set up. -/
theorem requiredText_of_isTextWithin {value field : String} {maximum : Nat}
    (h : isTextWithin maximum value = true) : requiredText value field maximum = .ok value := by
  obtain ⟨htext, hlength⟩ := Bool.and_eq_true_iff.mp h
  rw [requiredText_ok (isText_not_blank htext) (of_decide_eq_true hlength), strip_of_isText htext]

theorem inspectItems_texts {field : String} {texts : List String}
    (h : ∀ text ∈ texts, text.length ≤ 500) :
    inspectItems field (texts.map .text) = .ok () := by
  induction texts with
  | nil => rfl
  | cons text texts ih =>
    have htext : inspect field (.text text) = .ok () := by
      rw [inspect, if_neg (not_lt.mpr (h text List.mem_cons_self))]
      rfl
    rw [List.map_cons, inspectItems, htext]
    exact ih fun other hm => h other (List.mem_cons_of_mem _ hm)

theorem length_of_isReasonCode {code : String} (h : isReasonCode code = true) :
    code.length ≤ 50 := by
  unfold isReasonCode at h
  rw [← String.length_toList]
  cases hl : code.toList with
  | nil => simp
  | cons first rest =>
    simp only [hl, Bool.and_eq_true, decide_eq_true_eq] at h
    simp only [List.length_cons]
    omega

/-- **No explanation that a response can have is refused.** -/
theorem validateMetadata_explanation (suggestion : AIInferenceSuggestion) :
    validateMetadata (.object [("summary", .text suggestion.explanation),
      ("reason_codes", .list (suggestion.reasonCodes.map .text))]) "explanation" = .ok () := by
  obtain ⟨-, hcount, hcodes⟩ := suggestion.reasonCodes_valid
  have hsummary : ¬ 500 < suggestion.explanation.length :=
    not_lt.mpr (of_decide_eq_true (Bool.and_eq_true_iff.mp suggestion.explanation_valid).2)
  have hitems : inspectItems "explanation" (suggestion.reasonCodes.map .text) = .ok () :=
    inspectItems_texts fun code hm => (length_of_isReasonCode (hcodes code hm)).trans (by decide)
  have hlist : ¬ 100 < (suggestion.reasonCodes.map Metadata.text).length := by
    rw [List.length_map]
    omega
  have hkeys : isForbidden "summary" = false ∧ isForbidden "reason_codes" = false := by
    decide +kernel
  simp only [validateMetadata, inspect, inspectFields, hkeys, hsummary, hlist, hitems]
  rfl

theorem validateMetadata_features (features : NormalizedMatchFeatures) :
    validateMetadata (.object [("amount_similarity", .number features.amountSimilarity),
      ("date_similarity", .number features.dateSimilarity),
      ("reference_similarity", .number features.referenceSimilarity),
      ("currency_matches", .bool features.currencyMatches)]) "features" = .ok () := by
  have hkeys : isForbidden "amount_similarity" = false ∧ isForbidden "date_similarity" = false ∧
      isForbidden "reference_similarity" = false ∧ isForbidden "currency_matches" = false := by
    decide +kernel
  simp only [validateMetadata, inspect, inspectFields, hkeys]
  rfl

/-! ### Rows -/

/-- The run is stored, in the organization. -/
def RunStored (call : GenerateCall) (db : TenantDatabase) : Prop :=
  ∃ run, db.runs.find call.runId = some run ∧ run.organizationId = call.organizationId

/-- The run has a suggestion of the candidate's records. -/
def AlreadySuggested (call : GenerateCall) (candidate : GeneratedCandidate)
    (suggestions : Table suggestionSchema) : Prop :=
  ∃ stored ∈ suggestions.rows, stored.organizationId = call.organizationId ∧
    stored.runId = call.runId ∧ stored.candidateFingerprint = candidate.records.fingerprint

/-- The ids that are drawn for so many suggestions are new. -/
structure NewIds (draws : Draws) (n count : ℕ) (suggestions : Table suggestionSchema) : Prop where
  unused : ∀ m, n ≤ m → m < n + count → suggestions.find (draws.suggestionId m) = none
  distinct : ∀ m m', n ≤ m → m < m' → m' < n + count →
    draws.suggestionId m ≠ draws.suggestionId m'

namespace AIMatchSuggestionWorkflow

variable (self : AIMatchSuggestionWorkflow) (call : GenerateCall)

/-- The draft, as the repository normalizes it. -/
def checkedDraft (response : AIInferenceResponse) (candidate : GeneratedCandidate)
    (suggestion : AIInferenceSuggestion) : SuggestionDraft :=
  { self.draft call response candidate suggestion with
    modelVersion := strip response.modelVersion
    promptTemplateVersion := strip response.promptVersion }

/-- The record of the suggestion number `n`. -/
def row (response : AIInferenceResponse) (n : ℕ) (candidate : GeneratedCandidate)
    (suggestion : AIInferenceSuggestion) : AIMatchSuggestionRecord :=
  (self.checkedDraft call response candidate suggestion).record (call.draws.suggestionId n)
    call.organizationId call.runId call.draws.persistedAt

/-- The records of the suggestions from the number `n` on. -/
def rows (response : AIInferenceResponse) : ℕ → List (GeneratedCandidate × AIInferenceSuggestion) →
    List AIMatchSuggestionRecord
  | _, [] => []
  | n, (candidate, suggestion) :: validated =>
    self.row call response n candidate suggestion :: rows response (n + 1) validated

/-- None of the texts that are stored of each suggestion has a NUL. -/
def Legible (workflow : AIMatchSuggestionWorkflow) (response : AIInferenceResponse) : Prop :=
  ∀ text ∈ [workflow.providerName, response.modelVersion, response.promptVersion,
    workflow.inferenceConfigVersion], hasNul text = false

instance (workflow : AIMatchSuggestionWorkflow) (response : AIInferenceResponse) :
    Decidable (workflow.Legible response) :=
  inferInstanceAs (Decidable (∀ text ∈ [workflow.providerName, response.modelVersion,
    response.promptVersion, workflow.inferenceConfigVersion], hasNul text = false))

variable {self call} {response : AIInferenceResponse} {candidate : GeneratedCandidate}
  {suggestion : AIInferenceSuggestion} {n : ℕ}

/-- **The repository refuses nothing that the types of a response accept.** -/
theorem checked_draft : (self.draft call response candidate suggestion).checked =
    .ok (self.checkedDraft call response candidate suggestion) := by
  have hconfidence : ((Decimal.ofInt 0).le suggestion.confidence &&
    suggestion.confidence.le (.ofInt 1)) = true := suggestion.confidence_valid
  have hmodel : requiredText response.modelVersion "model_version" 150 =
      .ok (strip response.modelVersion) :=
    requiredText_ok response.modelVersion_valid.1 (response.modelVersion_valid.2.trans (by decide))
  have hprompt : requiredText response.promptVersion "prompt_template_version" 100 =
      .ok (strip response.promptVersion) :=
    requiredText_ok response.promptVersion_valid.1 response.promptVersion_valid.2
  have hprovider : requiredText self.providerName "provider" 100 = .ok self.providerName :=
    requiredText_of_isTextWithin self.providerName_valid
  have hconfig : requiredText self.inferenceConfigVersion "inference_config_version" 100 =
      .ok self.inferenceConfigVersion :=
    requiredText_of_isTextWithin self.inferenceConfigVersion_valid
  simp only [SuggestionDraft.checked, draft, hconfidence, hmodel, hprompt, hprovider, hconfig,
    validateMetadata_explanation, validateMetadata_features]
  rfl

/-- Only a NUL is in the way of a row. -/
theorem toRow_row : (self.row call response n candidate suggestion).toRow =
    if self.Legible response then .ok (self.row call response n candidate suggestion).stored
    else .error nulRefused := by
  obtain ⟨hscore, hscore'⟩ := Bool.and_eq_true_iff.mp suggestion.confidence_valid
  have htexts : (self.row call response n candidate suggestion).texts.any hasNul = true ↔
      ¬ self.Legible response := by
    simp [Legible, AIMatchSuggestionRecord.texts, row, checkedDraft, draft, SuggestionDraft.record,
      hasNul_strip, imp_iff_not_or]
  have hrow : (self.row call response n candidate suggestion).toRow =
      if (self.row call response n candidate suggestion).texts.any hasNul then .error nulRefused
      else .ok (self.row call response n candidate suggestion).stored :=
    AIMatchSuggestionRecord.toRow_of_fraction hscore hscore'
  rw [hrow]
  simp only [htexts, ite_not]

theorem check_row (hlegible : self.Legible response) :
    suggestionSchema.check (self.row call response n candidate suggestion).stored = true := by
  obtain ⟨hscore, hscore'⟩ := Bool.and_eq_true_iff.mp suggestion.confidence_valid
  have hmodel := isBlank_strip response.modelVersion_valid.1
  have hprompt := isBlank_strip response.promptVersion_valid.1
  have htext {value : String} (h : isTextWithin 100 value = true) : isBlank value = false :=
    isText_not_blank (Bool.and_eq_true_iff.mp h).1
  have hexpires : call.draws.persistedAt <
      call.draws.persistedAt + Persistence.seconds (86400 * self.suggestionTtlDays) := by
    have hdays := self.suggestionTtlDays_range.1
    have hseconds : 0 < Persistence.seconds (86400 * self.suggestionTtlDays) := by
      unfold Persistence.seconds
      omega
    exact lt_add_of_pos_right _ hseconds
  obtain ⟨-, hkept, hzero, hone⟩ := Decimal.fraction_numeric 4 hscore hscore'
  obtain ⟨hprovider', hmodel', hprompt', hconfig'⟩ : hasNul self.providerName = false ∧
      hasNul response.modelVersion = false ∧ hasNul response.promptVersion = false ∧
        hasNul self.inferenceConfigVersion = false := by
    simpa [Legible] using hlegible
  simp [suggestionSchema, AIMatchSuggestionRecord.stored, AIMatchSuggestionRecord.texts, row,
    checkedDraft, draft, SuggestionDraft.record, hzero, hone, hkept, hmodel, hprompt, hasNul_strip,
    htext self.providerName_valid, htext self.inferenceConfigVersion_valid, hexpires,
    hprovider', hmodel', hprompt', hconfig']

variable {db db' : TenantDatabase}

theorem isSome_filter_run : ((db.runs.find call.runId).filter fun run =>
      decide (run.organizationId = call.organizationId)).isSome = true ↔ RunStored call db := by
  rw [Option.isSome_iff_exists]
  simp only [Option.filter_eq_some_iff, decide_eq_true_eq]
  rfl

/-- A suggestion that is stored is one more row. -/
theorem runs_create {record : AIMatchSuggestionRecord} :
    Runs (AIMatchSuggestionRepository.create (call.draws.suggestionId n) call.organizationId
      call.runId (self.draft call response candidate suggestion) call.draws.persistedAt) db record
      db' ↔
    RunStored call db ∧ self.Legible response ∧
      record = self.row call response n candidate suggestion ∧
      ∃ suggestions, db.suggestions.insert? record.stored = some suggestions ∧
        db' = { db with suggestions } := by
  simp only [AIMatchSuggestionRepository.create, Tenancy.ensureRun, checked_draft, Part.insert,
    TenantDatabase.suggestionPart, runs_bind, runs_reads, runs_require, runs_fromExcept, runs_get,
    runs_fromOption, runs_set, runs_pure]
  constructor
  · rintro ⟨_, _, ⟨_, _, ⟨rfl, rfl⟩, hrun, rfl⟩, _, _, ⟨hdraft, rfl⟩, stored, _, ⟨hrow, rfl⟩, _, _,
      ⟨_, _, ⟨rfl, rfl⟩, suggestions, _, ⟨hinsert, rfl⟩, rfl⟩, rfl, rfl⟩
    obtain rfl := Except.ok.inj hdraft
    have hrow := toRow_row.symm.trans hrow
    split at hrow
    · next hlegible =>
      obtain rfl := Except.ok.inj hrow
      exact ⟨isSome_filter_run.mp hrun, hlegible, rfl, suggestions, hinsert, rfl⟩
    · cases hrow
  · rintro ⟨hrun, hlegible, rfl, suggestions, hinsert, rfl⟩
    exact ⟨(), db, ⟨_, db, ⟨rfl, rfl⟩, isSome_filter_run.mpr hrun, rfl⟩, _, db, ⟨rfl, rfl⟩, _, db,
      ⟨toRow_row.trans (if_pos hlegible), rfl⟩, (), _,
      ⟨db, db, ⟨rfl, rfl⟩, suggestions, db, ⟨hinsert, rfl⟩, rfl⟩, rfl, rfl⟩

/-- A suggestion is not stored if the run is missing, a text has a NUL, or a row is in its way. -/
theorem fails_create {e : Error} :
    Fails (AIMatchSuggestionRepository.create (call.draws.suggestionId n) call.organizationId
      call.runId (self.draft call response candidate suggestion) call.draws.persistedAt) db e ↔
    (¬ RunStored call db ∧ e = runNotFound call.runId) ∨
      (RunStored call db ∧ ((¬ self.Legible response ∧ e = nulRefused) ∨
        (self.Legible response ∧ e = integrityError ∧
          db.suggestions.insert? (self.row call response n candidate suggestion).stored =
            none))) := by
  rw [← isSome_filter_run]
  have hrefused : (self.row call response n candidate suggestion).toRow = .error e ↔
      ¬ self.Legible response ∧ e = nulRefused := by
    rw [toRow_row]
    split
    · next hlegible => simp [hlegible]
    · next hillegible => simp [hillegible, eq_comm]
  have haccepted (row : AIMatchSuggestionRecord) :
      (self.row call response n candidate suggestion).toRow = .ok row ↔ self.Legible response ∧
        row = (self.row call response n candidate suggestion).stored := by
    rw [toRow_row]
    split
    · next hlegible => simp [hlegible, eq_comm]
    · next hillegible => simp [hillegible]
  simp only [AIMatchSuggestionRepository.create, Tenancy.ensureRun, checked_draft, Part.insert,
    TenantDatabase.suggestionPart, runs_bind, runs_reads, runs_require, runs_fromExcept, runs_get,
    runs_fromOption, fails_bind, fails_reads, fails_require, fails_fromExcept,
    fails_get, fails_fromOption, fails_set, fails_pure]
  constructor
  · rintro ((⟨⟨⟩⟩ | ⟨_, _, ⟨rfl, rfl⟩, hrun, rfl⟩) | ⟨_, _, ⟨_, _, ⟨rfl, rfl⟩, hrun, rfl⟩,
      (⟨⟨⟩⟩ | ⟨_, _, ⟨hdraft, rfl⟩, (hrow | ⟨row, _, ⟨hrow, rfl⟩,
        ((⟨⟨⟩⟩ | ⟨_, _, ⟨rfl, rfl⟩, (⟨hnone, rfl⟩ | ⟨_, _, _, ⟨⟩⟩)⟩) | ⟨_, _, _, ⟨⟩⟩)⟩)⟩)⟩)
    · exact .inl ⟨hrun, rfl⟩
    · obtain rfl := Except.ok.inj hdraft
      exact .inr ⟨hrun, .inl (hrefused.mp hrow)⟩
    · obtain rfl := Except.ok.inj hdraft
      obtain ⟨hlegible, rfl⟩ := (haccepted row).mp hrow
      exact .inr ⟨hrun, .inr ⟨hlegible, rfl, hnone⟩⟩
  · rintro (⟨hrun, rfl⟩ | ⟨hrun, hrow | ⟨hlegible, rfl, hnone⟩⟩)
    · exact .inl (.inr ⟨_, db, ⟨rfl, rfl⟩, hrun, rfl⟩)
    · exact .inr ⟨(), db, ⟨_, db, ⟨rfl, rfl⟩, hrun, rfl⟩, .inr ⟨_, db, ⟨rfl, rfl⟩,
        .inl (hrefused.mpr hrow)⟩⟩
    · exact .inr ⟨(), db, ⟨_, db, ⟨rfl, rfl⟩, hrun, rfl⟩, .inr ⟨_, db, ⟨rfl, rfl⟩,
        .inr ⟨_, db, ⟨(haccepted _).mpr ⟨hlegible, rfl⟩, rfl⟩,
          .inl (.inr ⟨db, db, ⟨rfl, rfl⟩, .inl ⟨hnone, rfl⟩⟩)⟩⟩⟩

/-- Only another suggestion of the same records is in the way of a row with a new id. -/
theorem alreadySuggested_of_none (hlegible : self.Legible response)
    (hnew : db.suggestions.find (call.draws.suggestionId n) = none)
    (hnone : db.suggestions.insert? (self.row call response n candidate suggestion).stored =
      none) :
    AlreadySuggested call candidate db.suggestions := by
  by_contra hfree
  have hclash : ∀ stored ∈ db.suggestions.rows, ¬ (stored.organizationId = call.organizationId ∧
      stored.runId = call.runId ∧ stored.candidateFingerprint = candidate.records.fingerprint) :=
    fun stored hm h => hfree ⟨stored, hm, h⟩
  have hsome : (db.suggestions.insert?
      (self.row call response n candidate suggestion).stored).isSome = true := by
    refine Table.insert_isSome.mpr
      ⟨⟨Table.find_eq_none.mp hnew, fun stored hm => ?_⟩, check_row hlegible⟩
    have hapart := hclash stored hm
    show (decide _ || decide _) = false
    rw [Bool.or_eq_false_iff, decide_eq_false_iff_not, decide_eq_false_iff_not]
    exact ⟨hapart, fun he => hapart ⟨he.1.symm, he.2.1.symm, he.2.2.symm⟩⟩
  rw [hnone] at hsome
  cases hsome

theorem not_alreadySuggested {suggestions : Table suggestionSchema}
    (h : db.suggestions.insert? (self.row call response n candidate suggestion).stored =
      some suggestions) : ¬ AlreadySuggested call candidate db.suggestions := by
  rintro ⟨stored, hm, horg, hrun, hfingerprint⟩
  have hfree := (Table.insert_isSome.mp (Option.isSome_iff_exists.mpr ⟨_, h⟩)).1.clash stored hm
  rw [Bool.or_eq_false_iff] at hfree
  exact of_decide_eq_false hfree.1 ⟨horg, hrun, hfingerprint⟩

/-- **What is stored**: a row for each suggestion, in order. -/
theorem runs_persist {validated : List (GeneratedCandidate × AIInferenceSuggestion)}
    {records : List AIMatchSuggestionRecord}
    (h : Runs (self.persist call response n validated) db records db') :
    records = self.rows call response n validated ∧
      (validated ≠ [] → RunStored call db ∧ self.Legible response) ∧
      (∀ pair ∈ validated, ¬ AlreadySuggested call pair.1 db.suggestions) ∧
      ∃ suggestions, db' = { db with suggestions } ∧
        suggestions.rows = db.suggestions.rows ++ records.map (·.stored) := by
  induction validated generalizing n db db' records with
  | nil =>
    obtain ⟨rfl, rfl⟩ := runs_pure.mp h
    exact ⟨rfl, fun hne => absurd rfl hne, fun _ hm => absurd hm List.not_mem_nil, db.suggestions,
      rfl, (List.append_nil _).symm⟩
  | cons pair validated ih =>
    obtain ⟨candidate, suggestion⟩ := pair
    simp only [persist, runs_bind, runs_pure] at h
    obtain ⟨record, _, hcreate, rest, _, hrest, rfl, rfl⟩ := h
    obtain ⟨hstored, hlegible, rfl, suggestions, hinsert, rfl⟩ := runs_create.mp hcreate
    obtain ⟨rfl, -, hfree, suggestions', rfl, hrows⟩ := ih hrest
    refine ⟨rfl, fun _ => ⟨hstored, hlegible⟩, fun other hm => ?_, suggestions', rfl, ?_⟩
    · rcases List.mem_cons.mp hm with rfl | hm
      · exact not_alreadySuggested hinsert
      · rintro ⟨stored, hm', hsame⟩
        refine hfree other hm ⟨stored, ?_, hsame⟩
        rw [Table.rows_insert hinsert]
        exact List.mem_append_left _ hm'
    · rw [hrows, Table.rows_insert hinsert, List.append_assoc]
      rfl

/-- **Why nothing is stored**: the run is missing, a suggestion of the same records exists, or a
text has a NUL. -/
theorem fails_persist {validated : List (GeneratedCandidate × AIInferenceSuggestion)} {e : Error}
    (hnew : NewIds call.draws n validated.length db.suggestions)
    (hdistinct : (validated.map fun pair => pair.1.records.fingerprint).Nodup)
    (h : Fails (self.persist call response n validated) db e) :
    (¬ RunStored call db ∧ e = runNotFound call.runId) ∨ (e = integrityError ∧
        ∃ pair ∈ validated, AlreadySuggested call pair.1 db.suggestions) ∨
      (¬ self.Legible response ∧ e = nulRefused) := by
  induction validated generalizing n db with
  | nil => exact absurd h fails_pure
  | cons pair validated ih =>
    obtain ⟨candidate, suggestion⟩ := pair
    obtain ⟨hfresh, hdistinct⟩ := List.nodup_cons.mp hdistinct
    have hunused := hnew.unused n (le_refl n) (by simp)
    rcases fails_bind.mp h with hcreate | ⟨record, db₁, hcreate, h⟩
    · rcases fails_create.mp hcreate with hmissing | ⟨-, hillegible | ⟨hlegible, rfl, hnone⟩⟩
      · exact .inl hmissing
      · exact .inr (.inr hillegible)
      · exact .inr (.inl ⟨rfl, _, List.mem_cons_self,
          alreadySuggested_of_none hlegible hunused hnone⟩)
    · obtain ⟨-, -, rfl, suggestions, hinsert, rfl⟩ := runs_create.mp hcreate
      rcases fails_bind.mp h with hrest | ⟨_, _, _, hpure⟩
      · have hnew' : NewIds call.draws (n + 1) validated.length suggestions := by
          constructor
          · intro m hm hlt
            have hne : call.draws.suggestionId m ≠ call.draws.suggestionId n := fun he =>
              hnew.distinct n m (le_refl n) hm (by rw [List.length_cons]; omega) he.symm
            refine (Table.find_insert hinsert _).trans ((if_neg hne).trans ?_)
            exact hnew.unused m (by omega) (by rw [List.length_cons]; omega)
          · intro m m' hm hlt hlt'
            exact hnew.distinct m m' (by omega) hlt (by rw [List.length_cons]; omega)
        rcases ih hnew' hdistinct hrest with
          hmissing | ⟨rfl, other, hm, stored, hstored, hsame⟩ | hillegible
        · exact .inl hmissing
        · refine .inr (.inl ⟨rfl, other, List.mem_cons_of_mem _ hm, stored, ?_, hsame⟩)
          have hstored : stored ∈ suggestions.rows := hstored
          rw [Table.rows_insert hinsert] at hstored
          rcases List.mem_append.mp hstored with hstored | hstored
          · exact hstored
          · -- the row that was just stored is of other records
            obtain rfl := List.mem_singleton.mp hstored
            exact absurd (List.mem_map.mpr ⟨other, hm, hsame.2.2.symm⟩) hfresh
        · exact .inr (.inr hillegible)
      · exact absurd hpure fails_pure

end AIMatchSuggestionWorkflow

/-! ### Responses -/

/-- A suggestion of a response is mapped to a candidate of its reference. -/
theorem mapResponse_ok {response : AIInferenceResponse} {candidates : List GeneratedCandidate}
    {promptVersion : String} {validated : List (GeneratedCandidate × AIInferenceSuggestion)}
    (h : mapResponse response candidates promptVersion = .ok validated) :
    List.Forall₂ (fun suggestion pair => pair.2 = suggestion ∧ pair.1 ∈ candidates ∧
      pair.1.features.candidateReference = suggestion.candidateReference)
      response.suggestions validated := by
  obtain ⟨-, -, hmapped⟩ := bind_ok.mp h
  refine (forall₂_of_mapM hmapped).imp fun suggestion pair hpair => ?_
  split at hpair
  · cases hpair
  · next candidate hfound =>
    obtain rfl := Except.ok.inj hpair
    exact ⟨rfl, List.mem_reverse.mp (List.mem_of_find?_eq_some hfound),
      by simpa using List.find?_some hfound⟩

theorem references_of_mapResponse {response : AIInferenceResponse}
    {candidates : List GeneratedCandidate} {promptVersion : String}
    {validated : List (GeneratedCandidate × AIInferenceSuggestion)}
    (h : mapResponse response candidates promptVersion = .ok validated) :
    (∀ pair ∈ validated, pair.1 ∈ candidates) ∧
      validated.map (fun pair => pair.1.features.candidateReference) =
        response.suggestions.map (·.candidateReference) := by
  have hmapped := mapResponse_ok h
  generalize response.suggestions = suggestions at hmapped ⊢
  clear h
  induction hmapped with
  | nil => exact ⟨fun _ hm => absurd hm List.not_mem_nil, rfl⟩
  | cons hpair _ ih =>
    refine ⟨fun pair hm => ?_, ?_⟩
    · rcases List.mem_cons.mp hm with rfl | hm
      · exact hpair.2.1
      · exact ih.1 pair hm
    · rw [List.map_cons, List.map_cons, hpair.2.2, ih.2]

/-- No two suggestions of a response are of the same records. -/
theorem nodup_fingerprints {records : List CandidateSourceRecord} {response : AIInferenceResponse}
    {candidates : List GeneratedCandidate} {promptVersion : String}
    {validated : List (GeneratedCandidate × AIInferenceSuggestion)}
    (hcandidates : Distinguished records candidates)
    (h : mapResponse response candidates promptVersion = .ok validated) :
    (validated.map fun pair => pair.1.records.fingerprint).Nodup := by
  obtain ⟨hmem, hreferences⟩ := references_of_mapResponse h
  have hunique := response.references_unique
  rw [← hreferences, List.Nodup, List.pairwise_map] at hunique
  rw [List.Nodup, List.pairwise_map]
  refine hunique.imp_of_mem fun {pair other} hpair hother hne he => hne ?_
  have hsame := identity_of_fingerprint (hcandidates.pairs _ (hmem _ hpair))
    (hcandidates.pairs _ (hmem _ hother)) he
  rw [List.inj_on_of_nodup_map hcandidates.distinct (hmem _ hpair) (hmem _ hother) hsame]

/-! ### What a call adds -/

/-- The transactions added these suggestions, one after another, and changed no other. -/
def Adds (log : List (TenantDatabase × TenantDatabase)) (records : List AIMatchSuggestionRecord) :
    Prop :=
  ∃ added, List.Forall₂ (fun (t : TenantDatabase × TenantDatabase) new =>
    t.2.suggestions.rows = t.1.suggestions.rows ++ new) log added ∧ added.flatten = records

section

variable {log : List (TenantDatabase × TenantDatabase)} {records new : List AIMatchSuggestionRecord}
  {t : TenantDatabase × TenantDatabase}

theorem Adds.nil : Adds [] [] := ⟨[], .nil, rfl⟩

theorem Adds.rows (h : Adds log records)
    (hnew : t.2.suggestions.rows = t.1.suggestions.rows ++ new) :
    Adds (log ++ [t]) (records ++ new) := by
  obtain ⟨added, hadded, rfl⟩ := h
  refine ⟨added ++ [new], List.rel_append hadded (.cons hnew .nil), ?_⟩
  rw [List.flatten_append, List.flatten_singleton]

theorem Adds.same (h : Adds log records) (hsame : t.2.suggestions = t.1.suggestions) :
    Adds (log ++ [t]) records := by
  have hrows : Adds (log ++ [t]) (records ++ []) := h.rows (by rw [hsame, List.append_nil])
  rwa [List.append_nil] at hrows

end

/-- The client adds no suggestion, however it ends. -/
def AddsNothing {α : Type} (x : AIClient α) : Prop :=
  ∀ others s result t records, Ends x others s result t → Adds s.log records → Adds t.log records

section

variable {α β : Type}

theorem addsNothing_pure {a : α} : AddsNothing (pure a) := by
  intro others s result t records h hadds
  obtain ⟨-, rfl⟩ := ends_pure.mp h
  exact hadds

theorem addsNothing_throw {e : Failure} : AddsNothing (throw e : AIClient α) := by
  intro others s result t records h hadds
  obtain ⟨-, rfl⟩ := ends_throw.mp h
  exact hadds

theorem addsNothing_fromResult {r : Except Failure α} : AddsNothing (fromResult r) := by
  intro others s result t records h hadds
  obtain ⟨-, rfl⟩ := ends_fromResult.mp h
  exact hadds

theorem addsNothing_bind {x : AIClient α} {f : α → AIClient β} (hx : AddsNothing x)
    (hf : ∀ a, AddsNothing (f a)) : AddsNothing (x >>= f) := by
  intro others s result t records h hadds
  rcases ends_bind.mp h with ⟨a, u, hfirst, hrest⟩ | ⟨e, hfirst, -⟩
  · exact hf a others u result t records hrest (hx others s _ u records hfirst hadds)
  · exact hx others s _ t records hfirst hadds

theorem addsNothing_attempt {x : AIClient α} (hx : AddsNothing x) : AddsNothing (attempt x) := by
  intro others s result t records h hadds
  obtain ⟨r, hends, -⟩ := ends_attempt.mp h
  exact hx others s r t records hends hadds

theorem addsNothing_transact {x : AISession α}
    (hx : ∀ db a db', Runs x db a db' → db'.suggestions = db.suggestions) :
    AddsNothing (transact x) := by
  intro others s result t records h hadds
  obtain ⟨hrun, hlog⟩ := ends_transact.mp h
  rw [hlog]
  refine hadds.same ?_
  cases result with
  | ok a => exact hx _ a _ (atomically_ok.mp hrun)
  | error e => rw [(atomically_error.mp hrun).2]

end

namespace AIMatchSuggestionWorkflow

variable {self : AIMatchSuggestionWorkflow} {call : GenerateCall}

theorem addsNothing_start {candidateCount : Nat} :
    AddsNothing (self.start call candidateCount) := by
  unfold start
  split
  · exact addsNothing_pure
  · refine addsNothing_bind (addsNothing_transact fun db id db' h => ?_) fun _ => addsNothing_pure
    obtain ⟨-, -, -, -, -, -, -, rfl⟩ := runs_start h
    rfl

theorem addsNothing_complete {eventId : Option UUID} {outcome : Persistence.AIInferenceOutcome}
    {suggestionCount inputTokens outputTokens : Nat} {errorCode : Option String} :
    AddsNothing (complete call eventId outcome suggestionCount inputTokens outputTokens
      errorCode) := by
  unfold complete
  split
  · exact addsNothing_pure
  · refine addsNothing_transact fun db u db' h => ?_
    obtain ⟨-, -, -, -, -, -, rfl⟩ := runs_complete.mp h
    rfl

theorem addsNothing_reserve {candidateCount : Nat} :
    AddsNothing (self.reserve call candidateCount) := by
  unfold reserve
  split
  · exact addsNothing_pure
  · refine addsNothing_transact fun db result db' h => ?_
    obtain ⟨-, rfl⟩ | ⟨-, -, rfl, -⟩ := runs_reserveCall h
    · rfl
    · rfl

theorem addsNothing_release {reservationId : Option UUID} :
    AddsNothing (release call reservationId) := by
  unfold release
  split
  · exact addsNothing_pure
  · refine addsNothing_transact fun db u db' h => ?_
    obtain ⟨_, hrun⟩ := runs_void.mp h
    obtain ⟨-, -, rfl⟩ := runs_release (runs_mapError.mp hrun)
    rfl

theorem addsNothing_finalize {inferred : Inferred} : AddsNothing (finalize call inferred) := by
  unfold finalize
  split
  · exact addsNothing_pure
  · refine addsNothing_transact fun db u db' h => ?_
    obtain ⟨_, hrun⟩ := runs_void.mp h
    obtain ⟨-, -, rfl⟩ := runs_finalize (runs_mapError.mp hrun)
    rfl

theorem addsNothing_closeFailed {eventId reservationId : Option UUID} {error : Failure} :
    AddsNothing (closeFailed call eventId reservationId error) :=
  addsNothing_bind addsNothing_release fun _ =>
    addsNothing_bind addsNothing_complete fun _ => addsNothing_throw

theorem addsNothing_infer {eventId : Option UUID} {candidates : List GeneratedCandidate}
    {request : AIInferenceRequest} :
    AddsNothing (self.infer call eventId candidates request) := by
  refine addsNothing_bind (addsNothing_attempt addsNothing_reserve) fun result => ?_
  split
  · exact addsNothing_closeFailed
  · dsimp only
    split
    · exact addsNothing_closeFailed
    · exact addsNothing_pure

/-- Nothing is added before the guarded part has ended. -/
theorem addsNothing_submit : AddsNothing (self.submit call) := by
  refine addsNothing_bind addsNothing_fromResult fun candidates => ?_
  split
  · exact addsNothing_pure
  · exact addsNothing_bind addsNothing_fromResult fun _ => addsNothing_bind addsNothing_start
      fun _ => addsNothing_bind addsNothing_infer fun _ => addsNothing_pure

/-- What the guarded part hands over was answered to what was submitted. -/
structure Answered (workflow : AIMatchSuggestionWorkflow) (call : GenerateCall)
    (candidates : List GeneratedCandidate) (inferred : Inferred) : Prop where
  request : ∃ request, AIInferenceRequest.normalized
    ⟨candidates.map (·.features), workflow.promptVersion⟩ = .ok request ∧
      call.infer request = .ok inferred.response
  mapped : mapResponse inferred.response candidates workflow.promptVersion = .ok inferred.validated

theorem answered_infer {others : ℕ → TenantDatabase → TenantDatabase} {s t : Turn TenantDatabase}
    {eventId : Option UUID} {candidates : List GeneratedCandidate} {request : AIInferenceRequest}
    {inferred : Inferred}
    (h : Ends (self.infer call eventId candidates request) others s (.ok inferred) t) :
    call.infer request = .ok inferred.response ∧
      mapResponse inferred.response candidates self.promptVersion = .ok inferred.validated := by
  have hclosed {reservationId : Option UUID} {error : Failure} {u : Turn TenantDatabase} :
      ¬ Ends (closeFailed call eventId reservationId error) others u (.ok inferred) t := by
    intro hclose
    simp [closeFailed, ends_bind] at hclose
  obtain ⟨reserved, u, -, hrest⟩ | ⟨_, -, hfailed⟩ := ends_bind.mp h
  · cases reserved with
    | error error => exact absurd hrest hclosed
    | ok reservationId =>
      dsimp only at hrest
      split at hrest
      · exact absurd hrest hclosed
      · next answered =>
        obtain ⟨he, -⟩ := ends_pure.mp hrest
        obtain rfl := Except.ok.inj he
        obtain ⟨response, hresponse, hvalidated⟩ := bind_ok.mp answered
        obtain ⟨validated, hmapped, hinferred⟩ := bind_ok.mp hvalidated
        obtain rfl := Except.ok.inj hinferred
        exact ⟨hresponse, hmapped⟩
  · cases hfailed

/-- The first part of a call submits the candidates, if there are any. -/
theorem ends_submit {others : ℕ → TenantDatabase → TenantDatabase} {s t : Turn TenantDatabase}
    {result : Option (Option UUID × Inferred)}
    (h : Ends (self.submit call) others s (.ok result) t) :
    ∃ candidates, self.generator.generate call.organizationId call.runId call.records
        call.excludedRecordIds = .ok candidates ∧
      ((candidates = [] ∧ result = none) ∨ ∃ eventId inferred, result = some (eventId, inferred) ∧
        Answered self call candidates inferred) := by
  obtain ⟨candidates, u, hgenerate, hrest⟩ | ⟨_, -, hfailed⟩ := ends_bind.mp h
  · obtain ⟨hcandidates, rfl⟩ := ends_fromResult.mp hgenerate
    refine ⟨candidates, hcandidates.symm, ?_⟩
    split at hrest
    · next hempty =>
      obtain ⟨he, -⟩ := ends_pure.mp hrest
      exact .inl ⟨List.isEmpty_iff.mp hempty, Except.ok.inj he⟩
    · obtain ⟨request, u₁, hends, hstarted⟩ | ⟨_, -, hfailed⟩ := ends_bind.mp hrest
      · obtain ⟨hrequest, -⟩ := ends_fromResult.mp hends
        obtain ⟨eventId, u₂, -, hguarded⟩ | ⟨_, -, hfailed⟩ := ends_bind.mp hstarted
        · obtain ⟨inferred, u₃, hinfer, hanswer⟩ | ⟨_, -, hfailed⟩ := ends_bind.mp hguarded
          · obtain ⟨he, -⟩ := ends_pure.mp hanswer
            obtain ⟨hresponse, hmapped⟩ := answered_infer hinfer
            exact .inr ⟨eventId, inferred, Except.ok.inj he, ⟨request, hrequest.symm, hresponse⟩,
              hmapped⟩
          · cases hfailed
        · cases hfailed
      · cases hfailed
  · cases hfailed

end AIMatchSuggestionWorkflow

/-! ### What is proposed -/

/-- The records of one source type that a suggestion names. -/
def named (record : AIMatchSuggestionRecord) : CandidateSourceType → List String
  | .bank => record.bankRecordIds
  | .erp => record.erpInvoiceIds
  | .gateway => record.gatewayRecordIds

/-- The record may be part of a candidate of the call. -/
def GenerateCall.Admits (call : GenerateCall) (record : CandidateSourceRecord) : Prop :=
  record ∈ call.records ∧ record.organizationId = call.organizationId ∧
    record.runId = call.runId ∧ record.recordId ∉ call.excludedRecordIds

/-- The record is what a suggestion of the response is stored as. -/
structure Proposes (call : GenerateCall) (candidates : List GeneratedCandidate)
    (suggestion : AIInferenceSuggestion) (record : AIMatchSuggestionRecord) : Prop where
  organization : record.organizationId = call.organizationId
  run : record.runId = call.runId
  /-- It names the records of the candidate of its reference, and there is only one. -/
  candidate : ∃ candidate ∈ candidates,
    (∀ other ∈ candidates,
      other.features.candidateReference = suggestion.candidateReference ↔ other = candidate) ∧
    named record .bank = candidate.records.bankRecordIds ∧
    named record .erp = candidate.records.erpInvoiceIds ∧
    named record .gateway = candidate.records.gatewayRecordIds
  /-- These are one record each of two source types. -/
  pair : ∃ left right, call.Admits left ∧ call.Admits right ∧ left.sourceType ≠ right.sourceType ∧
    ∀ sourceType, named record sourceType =
      if left.sourceType = sourceType then [left.recordId]
      else if right.sourceType = sourceType then [right.recordId] else []
  explanation : record.explanation = .object [("summary", .text suggestion.explanation),
    ("reason_codes", .list (suggestion.reasonCodes.map .text))]

namespace AIMatchSuggestionWorkflow

variable {self : AIMatchSuggestionWorkflow} {call : GenerateCall}

theorem forall₂_rows {response : AIInferenceResponse} {n : ℕ}
    {validated : List (GeneratedCandidate × AIInferenceSuggestion)}
    {α : Type} {sources : List α} {R : α → GeneratedCandidate × AIInferenceSuggestion → Prop}
    {P : α → AIMatchSuggestionRecord → Prop} (h : List.Forall₂ R sources validated)
    (hrow : ∀ n source pair, R source pair →
      P source (self.row call response n pair.1 pair.2).stored) :
    List.Forall₂ P sources ((self.rows call response n validated).map (·.stored)) := by
  induction h generalizing n with
  | nil => exact .nil
  | cons hpair _ ih => exact .cons (hrow n _ _ hpair) ih

theorem proposes_rows {candidates : List GeneratedCandidate} {inferred : Inferred}
    (hgenerate : self.generator.generate call.organizationId call.runId call.records
      call.excludedRecordIds = .ok candidates)
    (hanswered : Answered self call candidates inferred) :
    List.Forall₂ (Proposes call candidates) inferred.response.suggestions
      ((self.rows call inferred.response 0 inferred.validated).map (·.stored)) := by
  have hdistinguished := ReconciliationCandidateGenerator.distinguished_generate hgenerate
  have hunique : (candidates.map fun candidate =>
      candidate.features.candidateReference).Nodup := by
    obtain ⟨request, hrequest, -⟩ := hanswered.request
    obtain ⟨_, -, hrest⟩ := bind_ok.mp hrequest
    obtain ⟨_, hnodup, -⟩ := bind_ok.mp hrest
    simpa [List.map_map, Function.comp_def] using raiseUnless_ok.mp hnodup
  refine forall₂_rows (mapResponse_ok hanswered.mapped) fun n suggestion pair hpair => ?_
  obtain ⟨candidate, suggestion'⟩ := pair
  obtain ⟨rfl, hm, href⟩ := hpair
  obtain ⟨left, hleft, right, hright, htypes, hrecords⟩ := hdistinguished.pairs candidate hm
  have hadmits {record : CandidateSourceRecord} (h : record ∈ call.records.filter
      (ReconciliationCandidateGenerator.isScoped call.organizationId call.runId
        call.excludedRecordIds)) : call.Admits record := by
    obtain ⟨hrecord, hscoped⟩ := List.mem_filter.mp h
    simp only [ReconciliationCandidateGenerator.isScoped, Bool.and_eq_true,
      decide_eq_true_eq] at hscoped
    exact ⟨hrecord, hscoped.1.1, hscoped.1.2, hscoped.2⟩
  refine ⟨rfl, rfl, ⟨candidate, hm, fun other hother => ⟨fun he => ?_, fun he => he ▸ href⟩, rfl, rfl,
    rfl⟩, ⟨left, right, hadmits hleft, hadmits hright, htypes, fun sourceType => ?_⟩, rfl⟩
  · exact List.inj_on_of_nodup_map hunique hother hm (he.trans href.symm)
  · rw [← idsOf_eq htypes]
    cases sourceType with
    | bank => exact congrArg (·.bankRecordIds) hrecords
    | erp => exact congrArg (·.erpInvoiceIds) hrecords
    | gateway => exact congrArg (·.gatewayRecordIds) hrecords

/-- The last part of a call stores a row for each suggestion, or nothing. -/
theorem ends_store {others : ℕ → TenantDatabase → TenantDatabase} {s t : Turn TenantDatabase}
    {eventId : Option UUID} {inferred : Inferred}
    {result : Except Failure (List AIMatchSuggestionRecord)}
    (h : Ends (self.store call eventId inferred) others s result t) (hs : Adds s.log []) :
    (Adds t.log [] ∧ ∃ e, result = .error e) ∨
      (Adds t.log ((self.rows call inferred.response 0 inferred.validated).map (·.stored)) ∧
        ∀ records, result = .ok records →
          records = self.rows call inferred.response 0 inferred.validated) := by
  obtain ⟨_, u, hfinalize, hrest⟩ | ⟨e, hfinalize, rfl⟩ := ends_bind.mp h
  · have hu := addsNothing_finalize _ _ _ _ _ hfinalize hs
    obtain ⟨records, v, hpersist, hlast⟩ | ⟨e, hpersist, rfl⟩ := ends_bind.mp hrest
    · obtain ⟨hrun, hlog⟩ := ends_transact.mp hpersist
      obtain ⟨rfl, -, -, suggestions, hafter, hrows⟩ :=
        runs_persist (runs_mapError.mp (atomically_ok.mp hrun))
      have hv : Adds v.log
          ((self.rows call inferred.response 0 inferred.validated).map (·.stored)) := by
        have hadded : v.state.suggestions.rows = (others u.log.length u.state).suggestions.rows ++
            (self.rows call inferred.response 0 inferred.validated).map (·.stored) := by
          rw [hafter, hrows]
        rw [hlog]
        exact hu.rows hadded
      obtain ⟨_, w, hcomplete, hanswer⟩ | ⟨e, hcomplete, rfl⟩ := ends_bind.mp hlast
      · obtain ⟨rfl, rfl⟩ := ends_pure.mp hanswer
        exact .inr ⟨addsNothing_complete _ _ _ _ _ hcomplete hv,
          fun _ he => (Except.ok.inj he).symm⟩
      · exact .inr ⟨addsNothing_complete _ _ _ _ _ hcomplete hv, nofun⟩
    · obtain ⟨hrun, hlog⟩ := ends_transact.mp hpersist
      refine .inl ⟨?_, e, rfl⟩
      rw [hlog]
      refine hu.same ?_
      rw [(atomically_error.mp hrun).2]
  · exact .inl ⟨addsNothing_finalize _ _ _ _ _ hfinalize hs, e, rfl⟩

/-- A call stores what the response proposes, or it stores nothing and raises. -/
def StoresResponse (workflow : AIMatchSuggestionWorkflow) (call : GenerateCall) : Prop :=
  ∀ others s result t, Ends (workflow.generateAndPersist call) others ⟨s, []⟩ result t →
    (Adds t.log [] ∧ ∃ e, result = .error e) ∨
      ∃ candidates suggestions records,
        workflow.generator.generate call.organizationId call.runId call.records
          call.excludedRecordIds = .ok candidates ∧
        ((candidates = [] ∧ suggestions = []) ∨ ∃ request response,
          AIInferenceRequest.normalized ⟨candidates.map (·.features), workflow.promptVersion⟩ =
            .ok request ∧ call.infer request = .ok response ∧
            suggestions = response.suggestions) ∧
        Adds t.log records ∧ List.Forall₂ (Proposes call candidates) suggestions records ∧
        ∀ answered, result = .ok answered → answered.map (·.stored) = records

/-- Nothing is in the way of a response but a missing run, or a suggestion that exists. -/
def OnlyHindered (workflow : AIMatchSuggestionWorkflow) (call : GenerateCall) : Prop :=
  ∀ candidates inferred db e,
    workflow.generator.generate call.organizationId call.runId call.records
      call.excludedRecordIds = .ok candidates →
    Answered workflow call candidates inferred →
    NewIds call.draws 0 inferred.validated.length db.suggestions →
    Fails (workflow.persist call inferred.response 0 inferred.validated) db e →
      (¬ RunStored call db ∧ e = runNotFound call.runId) ∨ (e = integrityError ∧
        ∃ pair ∈ inferred.validated, AlreadySuggested call pair.1 db.suggestions)

theorem stores_response : self.StoresResponse call := by
  intro others s result t h
  obtain ⟨submitted, u, hsubmit, hrest⟩ | ⟨e, hsubmit, rfl⟩ := ends_bind.mp h
  · have hu : Adds u.log [] := addsNothing_submit _ _ _ _ _ hsubmit .nil
    obtain ⟨candidates, hgenerate, hsubmitted⟩ := ends_submit hsubmit
    obtain ⟨rfl, rfl⟩ | ⟨eventId, inferred, rfl, hanswered⟩ := hsubmitted
    · obtain ⟨rfl, rfl⟩ := ends_pure.mp hrest
      refine .inr ⟨[], [], [], hgenerate, .inl ⟨rfl, rfl⟩, hu, .nil, fun _ he => ?_⟩
      obtain rfl := Except.ok.inj he
      rfl
    · obtain hnothing | ⟨hstored, hresult⟩ := ends_store hrest hu
      · exact .inl hnothing
      · obtain ⟨request, hrequest, hresponse⟩ := hanswered.request
        exact .inr ⟨candidates, inferred.response.suggestions, _, hgenerate,
          .inr ⟨request, inferred.response, hrequest, hresponse, rfl⟩, hstored,
          proposes_rows hgenerate hanswered, fun answered he => hresult answered he ▸ rfl⟩
  · exact .inl ⟨addsNothing_submit _ _ _ _ _ hsubmit .nil, e, rfl⟩

/-- A response is mapped to no more candidates than are generated at most. -/
theorem length_validated_le {candidates : List GeneratedCandidate} {inferred : Inferred}
    (hgenerate : self.generator.generate call.organizationId call.runId call.records
      call.excludedRecordIds = .ok candidates)
    (hanswered : Answered self call candidates inferred) :
    inferred.validated.length ≤ self.generator.maximumCandidates := by
  obtain ⟨hmem, hreferences⟩ := references_of_mapResponse hanswered.mapped
  have hunique := inferred.response.references_unique
  rw [← hreferences] at hunique
  have hsubset : inferred.validated.map (fun pair => pair.1.features.candidateReference) ⊆
      candidates.map fun candidate => candidate.features.candidateReference := by
    intro reference hm
    obtain ⟨pair, hpair, rfl⟩ := List.mem_map.mp hm
    exact List.mem_map.mpr ⟨pair.1, hmem pair hpair, rfl⟩
  obtain ⟨generation, -, htaken⟩ := bind_ok.mp hgenerate
  obtain rfl := Except.ok.inj htaken
  calc inferred.validated.length
      = (inferred.validated.map fun pair => pair.1.features.candidateReference).length :=
        (List.length_map ..).symm
    _ ≤ _ := (hunique.subperm hsubset).length_le
    _ ≤ self.generator.maximumCandidates := by
        rw [List.length_map]
        exact List.length_take_le ..

/-- There is nothing but the run of the call. -/
def onlyRun (call : GenerateCall) : TenantDatabase where
  runs := ⟨[{ id := call.runId, organizationId := call.organizationId, createdAt := 0 }],
    List.nodup_singleton _, List.pairwise_singleton _ _, fun _ hm =>
      List.mem_singleton.mp hm ▸ rfl⟩
  sourceFiles := .empty
  configurations := .empty

theorem runStored_onlyRun : RunStored call (onlyRun call) := by
  refine ⟨{ id := call.runId, organizationId := call.organizationId, createdAt := 0 }, ?_, rfl⟩
  simp [onlyRun, Table.find, Persistence.runSchema]

/-- A response with a NUL cannot be stored, although the run is there and has no suggestion. -/
theorem not_onlyHindered {candidates : List GeneratedCandidate} {inferred : Inferred}
    (hdraws : NewIds call.draws 0 self.generator.maximumCandidates .empty)
    (hgenerate : self.generator.generate call.organizationId call.runId call.records
      call.excludedRecordIds = .ok candidates)
    (hanswered : Answered self call candidates inferred)
    (hsuggestions : inferred.response.suggestions ≠ [])
    (hillegible : ¬ self.Legible inferred.response) : ¬ self.OnlyHindered call := by
  intro honly
  have hlength := length_validated_le hgenerate hanswered
  have hnew : NewIds call.draws 0 inferred.validated.length (onlyRun call).suggestions :=
    ⟨fun _ _ _ => rfl, fun m m' hm hlt hlt' => hdraws.distinct m m' hm hlt (by omega)⟩
  have hfails : Fails (self.persist call inferred.response 0 inferred.validated) (onlyRun call)
      nulRefused := by
    have hmapped := mapResponse_ok hanswered.mapped
    cases hvalidated : inferred.validated with
    | nil =>
      rw [hvalidated, List.forall₂_nil_right_iff] at hmapped
      exact absurd hmapped hsuggestions
    | cons pair validated =>
      exact fails_bind.mpr (.inl (fails_create.mpr
        (.inr ⟨runStored_onlyRun, .inl ⟨hillegible, rfl⟩⟩)))
  obtain ⟨hmissing, -⟩ | ⟨he, -⟩ := honly candidates inferred _ _ hgenerate hanswered hnew hfails
  · exact hmissing runStored_onlyRun
  · cases he

/-- **What a call stores of a response**, and what is in its way: nothing but a missing run or a
suggestion that exists, exactly if no text that is stored with a suggestion has a NUL. -/
theorem response_stored_iff (hdraws : NewIds call.draws 0 self.generator.maximumCandidates .empty) :
    self.StoresResponse call ∧ self.OnlyHindered call ↔
      ∀ candidates inferred,
        self.generator.generate call.organizationId call.runId call.records
          call.excludedRecordIds = .ok candidates →
        Answered self call candidates inferred → inferred.response.suggestions ≠ [] →
          self.Legible inferred.response := by
  constructor
  · rintro ⟨-, honly⟩ candidates inferred hgenerate hanswered hsuggestions
    by_contra hillegible
    exact not_onlyHindered hdraws hgenerate hanswered hsuggestions hillegible honly
  · refine fun hall => ⟨stores_response, ?_⟩
    intro candidates inferred db e hgenerate hanswered hnew hfails
    obtain hmissing | hexists | ⟨hillegible, -⟩ := fails_persist hnew (nodup_fingerprints
      (ReconciliationCandidateGenerator.distinguished_generate hgenerate) hanswered.mapped) hfails
    · exact .inl hmissing
    · exact .inr hexists
    · refine absurd (hall candidates inferred hgenerate hanswered fun hempty => ?_) hillegible
      have hmapped := mapResponse_ok hanswered.mapped
      rw [hempty, List.forall₂_nil_left_iff] at hmapped
      rw [hmapped] at hfails
      exact fails_pure hfails

end AIMatchSuggestionWorkflow

/-- The records of the same amount and day, and with the same reference. -/
def sameRecords : Comparison where
  casefold := Persistence.lower
  sha256 _ := "f5f8696bf73b15932da1f878724305e172b48e068679abfd14ecb1a737889bbf"
  float value := ⟨value.sign, value.coefficient * 10, -1⟩
  nearness _ _ := ⟨false, 10, -1⟩
  ratio _ _ := ⟨false, 10, -1⟩
  round value := value

def bankRecord : CandidateSourceRecord where
  organizationId := 1
  runId := 2
  sourceType := .bank
  recordId := "bank-1"
  amount := .ofInt 100
  effectiveDate := 739617
  currency := "USD"
  references := ["INV-1"]

def invoiceRecord : CandidateSourceRecord where
  organizationId := 1
  runId := 2
  sourceType := .erp
  recordId := "invoice-1"
  amount := .ofInt 100
  effectiveDate := 739617
  currency := "USD"
  references := ["inv1"]

def deterministicWorkflow : AIMatchSuggestionWorkflow where
  generator := .standard sameRecords
  providerName := "deterministic"
  promptVersion := "prompt-v1"
  inferenceConfigVersion := "config-v1"

def onlySuggestion : AIInferenceSuggestion where
  candidateReference := "candidate-f5f8696bf73b15932da1f878724305e172b48e068679abfd14ecb1a737889bbf"
  confidence := ⟨false, 9, -1⟩
  reasonCodes := ["AMOUNT_MATCH", "DATE_MATCH"]
  explanation := "Amount and date agree."

def onlyCall : GenerateCall where
  organizationId := 1
  runId := 2
  records := [bankRecord, invoiceRecord]
  infer request := .ok {
    suggestions := [onlySuggestion]
    modelVersion := "local-v1"
    promptVersion := "prompt-v1"
    references_unique := List.nodup_singleton _ }
  draws := {
    eventId := 5
    reservationId := 6
    suggestionId := fun n => BitVec.ofNat 128 (7 + n)
    startedAt := 1
    reservedAt := 2
    releasedAt := 3
    finalizedAt := 4
    persistedAt := 5
    completedAt := 6
    durationMs := 10 }

/-- The run is there, and nothing else. -/
def emptyRun : TenantDatabase where
  runs := ⟨[{ id := 2, organizationId := 1, createdAt := 0 }], by decide⟩
  sourceFiles := .empty
  configurations := .empty

theorem newIds_onlyCall :
    NewIds onlyCall.draws 0 deterministicWorkflow.generator.maximumCandidates .empty := by
  refine ⟨fun _ _ _ => rfl, fun m m' _ hlt hlt' he => ?_⟩
  have hlt' : m' < 0 + 100 := hlt'
  have hsame : (7 + m) % 2 ^ 128 = (7 + m') % 2 ^ 128 := congrArg BitVec.toNat he
  omega

theorem response_stored_pair : ∃ records t,
    Ends (deterministicWorkflow.generateAndPersist onlyCall) (fun _ db => db) ⟨emptyRun, []⟩
      (.ok records) t ∧
    records.length = 1 ∧ Adds t.log (records.map (·.stored)) ∧
    ∃ candidates, List.Forall₂ (Proposes onlyCall candidates) [onlySuggestion]
      (records.map (·.stored)) := by
  have hrun : (match (((deterministicWorkflow.generateAndPersist onlyCall).run fun _ db => db).run
      ⟨emptyRun, []⟩).1 with
    | .ok records => records.length == 1
    | .error _ => false) = true := by decide +kernel
  obtain ⟨result, t, hends⟩ := exists_ends
    (deterministicWorkflow.generateAndPersist onlyCall) (fun _ db => db) ⟨emptyRun, []⟩
  rw [show (((deterministicWorkflow.generateAndPersist onlyCall).run fun _ db => db).run
    ⟨emptyRun, []⟩).1 = result from congrArg Prod.fst hends] at hrun
  have hlegible : ∀ candidates inferred,
      deterministicWorkflow.generator.generate onlyCall.organizationId onlyCall.runId
        onlyCall.records onlyCall.excludedRecordIds = .ok candidates →
      AIMatchSuggestionWorkflow.Answered deterministicWorkflow onlyCall candidates inferred →
        inferred.response.suggestions ≠ [] →
          deterministicWorkflow.Legible inferred.response := by
    intro candidates inferred hgenerate hanswered _
    obtain ⟨request, -, hresponse⟩ := hanswered.request
    rw [← Except.ok.inj hresponse]
    decide +kernel
  cases result with
  | error e => cases hrun
  | ok records =>
    have hlength : records.length = 1 := beq_iff_eq.mp hrun
    obtain ⟨hstores, -⟩ := (AIMatchSuggestionWorkflow.response_stored_iff
      newIds_onlyCall).mpr hlegible
    obtain ⟨-, _, hfailed⟩ | ⟨candidates, suggestions, stored, -, hanswered, hadds, hproposes,
      hsame⟩ := hstores _ _ _ _ hends
    · cases hfailed
    · obtain rfl := hsame records rfl
      obtain ⟨-, rfl⟩ | ⟨request, response, -, hresponse, rfl⟩ := hanswered
      · obtain hnone := List.forall₂_nil_left_iff.mp hproposes
        rw [List.map_eq_nil_iff.mp hnone] at hlength
        cases hlength
      · obtain rfl := Except.ok.inj hresponse
        exact ⟨records, t, hends, hlength, hadds, candidates, hproposes⟩

/-- The provider says that it is of the model NUL, g, p, t. -/
def nulCall : GenerateCall :=
  { onlyCall with
    infer := fun _ => .ok {
      suggestions := [onlySuggestion]
      modelVersion := "\x00gpt"
      promptVersion := "prompt-v1"
      references_unique := List.nodup_singleton _ } }

/-- What it answers is accepted, and cannot be stored. -/
theorem response_refused : (∃ t,
    Ends (deterministicWorkflow.generateAndPersist nulCall) (fun _ db => db) ⟨emptyRun, []⟩
      (.error (.database nulRefused)) t) ∧
    ¬ (deterministicWorkflow.StoresResponse nulCall ∧
      deterministicWorkflow.OnlyHindered nulCall) := by
  have hsubmit : ((((deterministicWorkflow.submit nulCall).run fun _ db => db).run
      ⟨emptyRun, []⟩).1.toOption.any Option.isSome) = true := by decide +kernel
  have hrun : (((deterministicWorkflow.generateAndPersist nulCall).run fun _ db => db).run
      ⟨emptyRun, []⟩).1.map (fun _ => ()) = .error (.database nulRefused) := by decide +kernel
  constructor
  · obtain ⟨result, t, hends⟩ := exists_ends
      (deterministicWorkflow.generateAndPersist nulCall) (fun _ db => db) ⟨emptyRun, []⟩
    rw [show (((deterministicWorkflow.generateAndPersist nulCall).run fun _ db => db).run
      ⟨emptyRun, []⟩).1 = result from congrArg Prod.fst hends] at hrun
    cases result with
    | ok records => cases hrun
    | error e =>
      obtain rfl := Except.error.inj hrun
      exact ⟨t, hends⟩
  · obtain ⟨result, t, hends⟩ := exists_ends
      (deterministicWorkflow.submit nulCall) (fun _ db => db) ⟨emptyRun, []⟩
    rw [show (((deterministicWorkflow.submit nulCall).run fun _ db => db).run
      ⟨emptyRun, []⟩).1 = result from congrArg Prod.fst hends] at hsubmit
    cases result with
    | error e => cases hsubmit
    | ok submitted =>
      cases submitted with
      | none => cases hsubmit
      | some handed =>
        obtain ⟨candidates, hgenerate, ⟨-, hnone⟩ | ⟨eventId, inferred, -, hanswered⟩⟩ :=
          AIMatchSuggestionWorkflow.ends_submit hends
        · cases hnone
        · obtain ⟨request, -, hresponse⟩ := hanswered.request
          have hsame := Except.ok.inj hresponse
          have hdraws : NewIds nulCall.draws 0 deterministicWorkflow.generator.maximumCandidates
            .empty := newIds_onlyCall
          refine fun hall => AIMatchSuggestionWorkflow.not_onlyHindered hdraws hgenerate hanswered
            ?_ ?_ hall.2
          · rw [← hsame]
            exact List.cons_ne_nil _ _
          · rw [← hsame]
            decide +kernel

end ReconcileFlow.AI
