import ReconcileFlow.AI.Deterministic
import ReconcileFlow.AI.Proposals

/-!
# AI — Application

Inference as the application sets it up: what its settings accept (`APISettings`), the provider that
they name, and the workflow that asks it.

`createApp_ok`: settings that were accepted can be set up.  `generation_by_best`: with the local
provider a call stores exactly the best candidates, or nothing, and what it raises is an error of a
repository or a `ValueError` (`IsDatabase`), none of inference.
-/

namespace ReconcileFlow.AI

open Support Support.Transaction Support.Client
open Persistence (UUID Error Metadata AIMatchSuggestionRecord)
open Tenancy (TenantDatabase)

/-! ### Settings -/

/-- `validate_ai_endpoint_url`, of a stripped URL. -/
def acceptsEndpoint (urlsplit : String → Except Failure SplitUrl) (url : String) : Prop :=
  ∃ endpoint, urlsplit url = .ok endpoint ∧
    ¬ (endpoint.username ≠ "" ∨ endpoint.password ≠ "" ∨ endpoint.query ≠ "" ∨
      endpoint.fragment ≠ "") ∧
    ¬ (endpoint.scheme ∉ ["http", "https"] ∨ endpoint.hostname = "") ∧
    ¬ (endpoint.scheme ≠ "https" ∧ endpoint.hostname ∉ ["localhost", "127.0.0.1", "::1"])

/-- The settings of inference, with what their fields and validators accept. -/
structure APISettings (urlsplit : String → Except Failure SplitUrl) where
  aiInferenceProvider : String := "disabled"
  aiModelVersion : String := "deterministic-v1"
  aiPromptVersion : String := "match-suggestion-v1"
  aiInferenceConfigVersion : String := "config-v1"
  aiMaxCandidatesPerRequest : ℕ := 100
  aiMaxSuggestionsPerResponse : ℕ := 20
  aiCandidateMaxDateDifferenceDays : ℕ := 30
  aiCandidateMaxAmountDifferenceRatio : Decimal := ⟨false, 25, -2⟩
  aiEndpointUrl : Option String := none
  aiApiKey : Option String := none
  aiMaxRetries : ℕ := 2
  aiRetryBackoffSeconds : ℚ := 1 / 4
  aiMaximumResponseBytes : ℕ := 262144
  aiEstimatedTokensPerCandidate : ℕ := 256
  aiUsageReservationTtlSeconds : ℕ := 300
  provider_valid : aiInferenceProvider ∈ ["disabled", "deterministic", "openai-compatible"] := by
    decide
  modelVersion_valid : isTextWithin 100 aiModelVersion = true := by decide
  promptVersion_valid : isTextWithin 100 aiPromptVersion = true := by decide
  configVersion_valid : isTextWithin 100 aiInferenceConfigVersion = true := by decide
  maxCandidates_range :
    1 ≤ aiMaxCandidatesPerRequest ∧ aiMaxCandidatesPerRequest ≤ 1000 := by decide
  maxSuggestions_range :
    1 ≤ aiMaxSuggestionsPerResponse ∧ aiMaxSuggestionsPerResponse ≤ 100 := by decide
  suggestions_within : aiMaxSuggestionsPerResponse ≤ aiMaxCandidatesPerRequest := by decide
  dateDifference_range : aiCandidateMaxDateDifferenceDays ≤ 365 := by decide
  amountRatio_range : isFraction aiCandidateMaxAmountDifferenceRatio = true := by decide
  endpoint_valid : ∀ url, aiEndpointUrl = some url → acceptsEndpoint urlsplit url := by simp
  maxRetries_range : aiMaxRetries ≤ 5 := by decide
  backoff_range : 0 ≤ aiRetryBackoffSeconds ∧ aiRetryBackoffSeconds ≤ 10 := by norm_num
  maximumResponseBytes_range :
    1024 ≤ aiMaximumResponseBytes ∧ aiMaximumResponseBytes ≤ 1048576 := by decide
  tokensPerCandidate_range :
    1 ≤ aiEstimatedTokensPerCandidate ∧ aiEstimatedTokensPerCandidate ≤ 100000 := by decide
  reservationTtl_range :
    30 ≤ aiUsageReservationTtlSeconds ∧ aiUsageReservationTtlSeconds ≤ 3600 := by decide
  /-- Hosted inference requires a key and an endpoint. -/
  hosted_valid : aiInferenceProvider = "openai-compatible" →
    (∃ key, aiApiKey = some key ∧ strip key ≠ "") ∧ ∃ url, aiEndpointUrl = some url ∧ url ≠ "" := by
    simp

/-! ### Providers -/

inductive AIInferenceProvider
  | disabled
  | deterministic (provider : DeterministicAIInferenceProvider)
  | hosted (provider : OpenAICompatibleInferenceProvider)

/-- A text that is neither `None` nor empty. -/
def givenText (text : Option String) : Option String := text.filter fun value => decide (value ≠ "")

/-- `create_ai_inference_provider`. -/
def createAIInferenceProvider (urlsplit : String → Except Failure SplitUrl) (provider : String)
    (modelVersion : String) (maxCandidates maxSuggestions : ℕ) (endpointUrl apiKey : Option String)
    (maxRetries : ℤ) (retryBackoffSeconds : ℚ) (maximumResponseBytes : ℤ) :
    Except Failure AIInferenceProvider :=
  if provider = "disabled" then .ok .disabled
  else if provider = "deterministic" then
    .ok (.deterministic { modelVersion, maxCandidates, maxSuggestions })
  else if provider = "openai-compatible" then
    match givenText endpointUrl, givenText apiKey with
    | some endpointUrl, some apiKey => do
      let hosted ← OpenAICompatibleInferenceProvider.ofArguments urlsplit endpointUrl apiKey
        modelVersion maxRetries retryBackoffSeconds maximumResponseBytes
      return .hosted hosted
    | _, _ => .error (valueError "hosted AI inference requires an endpoint and API key")
  else .error (valueError "unsupported AI inference provider")

/-- What the providers are given at run time. -/
structure InferenceRuntime (σ : Type) where
  scoring : Scoring
  json : JsonRuntime
  endpoint : Endpoint σ

/-- `infer` of each provider. -/
def AIInferenceProvider.infer {σ : Type} (runtime : InferenceRuntime σ) :
    AIInferenceProvider → Provider σ
  | .disabled => fun _ state =>
    (.error (.inferenceDisabled "AI-assisted matching is not enabled"), state)
  | .deterministic provider => fun request state => (provider.infer runtime.scoring request, state)
  | .hosted provider => provider.infer runtime.json runtime.endpoint

/-! ### Setting up -/

/-- The part of the application's state that infers. -/
structure AIApp where
  provider : AIInferenceProvider
  workflow : AIMatchSuggestionWorkflow

section

variable {urlsplit : String → Except Failure SplitUrl} (settings : APISettings urlsplit)
  (comparison : Comparison)

theorem APISettings.providerName_text : isTextWithin 100 settings.aiInferenceProvider = true := by
  have hvalid := settings.provider_valid
  simp only [List.mem_cons, List.not_mem_nil, or_false] at hvalid
  rcases hvalid with h | h | h
  · rw [h]
    decide
  · rw [h]
    decide
  · rw [h]
    decide

/-- The days that come with the workflow's class are within its bounds. -/
theorem standardTtlDays_range : 1 ≤ 7 ∧ 7 ≤ 90 := by decide

/-- `ai_match_suggestion_workflow`, with its generator, its controller and its observer. -/
def APISettings.workflow : AIMatchSuggestionWorkflow where
  generator := {
    comparison
    maximumCandidates := settings.aiMaxCandidatesPerRequest
    maximumDateDifferenceDays := settings.aiCandidateMaxDateDifferenceDays
    maximumAmountDifferenceRatio := settings.aiCandidateMaxAmountDifferenceRatio
    maximumCandidates_range := settings.maxCandidates_range
    maximumDateDifferenceDays_range := settings.dateDifference_range
    maximumAmountDifferenceRatio_range := settings.amountRatio_range }
  providerName := settings.aiInferenceProvider
  promptVersion := settings.aiPromptVersion
  inferenceConfigVersion := settings.aiInferenceConfigVersion
  usageController := some {
    providerName := settings.aiInferenceProvider
    modelVersion := settings.aiModelVersion
    estimatedTokensPerCandidate := settings.aiEstimatedTokensPerCandidate
    reservationTtlSeconds := settings.aiUsageReservationTtlSeconds
    estimatedTokensPerCandidate_positive := settings.tokensPerCandidate_range.1
    reservationTtlSeconds_range := settings.reservationTtl_range.1 }
  observer := some {
    provider := settings.aiInferenceProvider
    modelVersion := settings.aiModelVersion
    promptVersion := settings.aiPromptVersion
    inferenceConfigVersion := settings.aiInferenceConfigVersion }
  suggestionTtlDays_range := standardTtlDays_range
  providerName_valid := settings.providerName_text
  promptVersion_valid := settings.promptVersion_valid
  inferenceConfigVersion_valid := settings.configVersion_valid

/-- `create_app`. -/
def createApp : Except Failure AIApp := do
  let provider ← createAIInferenceProvider urlsplit settings.aiInferenceProvider
    settings.aiModelVersion settings.aiMaxCandidatesPerRequest settings.aiMaxSuggestionsPerResponse
    settings.aiEndpointUrl settings.aiApiKey settings.aiMaxRetries settings.aiRetryBackoffSeconds
    settings.aiMaximumResponseBytes
  return { provider, workflow := settings.workflow comparison }

end

theorem isSafe_of_accepts {urlsplit : String → Except Failure SplitUrl} {url : String}
    (h : acceptsEndpoint urlsplit url) :
    ∃ split, urlsplit url = .ok split ∧ split.isSafe = true := by
  obtain ⟨split, hsplit, hplain, hscheme, hlocal⟩ := h
  simp only [not_or, not_and_or, not_not, ne_eq] at hplain hscheme hlocal
  refine ⟨split, hsplit, ?_⟩
  have hshape : split.scheme = "https" ∨ (split.scheme = "http" ∧
      split.hostname ∈ ["localhost", "127.0.0.1", "::1"]) := by
    rcases hlocal with h | h
    · exact .inl h
    · simp only [List.mem_cons, List.not_mem_nil, or_false] at hscheme
      rcases hscheme.1 with hhttp | hhttps
      · exact .inr ⟨hhttp, h⟩
      · exact .inl hhttps
  have hparts : split.hostname ≠ "" := hscheme.2
  simp only [SplitUrl.isSafe, Bool.and_eq_true, Bool.or_eq_true, decide_eq_true_eq]
  exact ⟨⟨⟨⟨⟨hshape, hparts⟩, hplain.1⟩, hplain.2.1⟩, hplain.2.2.1⟩, hplain.2.2.2⟩

theorem givenText_some {text : String} (h : text ≠ "") : givenText (some text) = some text :=
  if_pos (decide_eq_true h)

section

variable {urlsplit : String → Except Failure SplitUrl} {settings : APISettings urlsplit}
  {comparison : Comparison}

theorem strip_ne_of_isTextWithin {maximum : ℕ} {value : String}
    (h : isTextWithin maximum value = true) : strip value ≠ "" ∧ value.length ≤ maximum := by
  obtain ⟨hshape, hlength⟩ := Bool.and_eq_true_iff.mp h
  refine ⟨fun he => ?_, of_decide_eq_true hlength⟩
  rw [strip_of_isText hshape] at he
  rw [he] at hshape
  cases hshape

variable (settings comparison) in
/-- **Settings that were accepted can be set up.** -/
theorem createApp_ok : ∃ provider, createApp settings comparison =
      .ok ⟨provider, settings.workflow comparison⟩ ∧
    (settings.aiInferenceProvider = "deterministic" → provider = .deterministic
      ⟨settings.aiModelVersion, settings.aiMaxCandidatesPerRequest,
        settings.aiMaxSuggestionsPerResponse⟩) := by
  have hvalid := settings.provider_valid
  simp only [List.mem_cons, List.not_mem_nil, or_false] at hvalid
  unfold createApp createAIInferenceProvider
  rcases hvalid with h | h | h
  · rw [h]
    exact ⟨.disabled, rfl, fun he => absurd he (by decide)⟩
  · rw [h]
    exact ⟨_, rfl, fun _ => rfl⟩
  · obtain ⟨⟨key, hkey, hstrip⟩, url, hurl, hne⟩ := settings.hosted_valid h
    obtain ⟨split, hsplit, hsafe⟩ := isSafe_of_accepts (settings.endpoint_valid url hurl)
    have hkeyne : key ≠ "" := by
      rintro rfl
      exact hstrip rfl
    obtain ⟨hosted, hhosted⟩ := OpenAICompatibleInferenceProvider.exists_ofArguments hsplit hsafe
      hstrip (strip_ne_of_isTextWithin settings.modelVersion_valid) settings.maxRetries_range
      settings.aiRetryBackoffSeconds settings.maximumResponseBytes_range
    refine ⟨.hosted hosted, ?_, fun he => absurd (h.symm.trans he) (by decide)⟩
    rw [h, hkey, hurl, givenText_some hne, givenText_some hkeyne]
    simp only [String.reduceEq, if_false, if_true, hhosted]
    rfl

end

/-! ### Errors of the database -/

/-- An error of a repository, or a `ValueError`. -/
def IsDatabase (failure : Failure) : Prop := ∃ error, failure = .database error

/-- The client raises no other errors. -/
def RaisesDatabase {α : Type} (x : AIClient α) : Prop :=
  ∀ others s e t, Ends x others s (.error e) t → IsDatabase e

section

variable {α β : Type}

theorem raisesDatabase_pure {a : α} : RaisesDatabase (pure a) := by
  intro others s e t h
  cases (ends_pure.mp h).1

theorem raisesDatabase_bind {x : AIClient α} {f : α → AIClient β} (hx : RaisesDatabase x)
    (hf : ∀ a, RaisesDatabase (f a)) : RaisesDatabase (x >>= f) := by
  intro others s e t h
  rcases ends_bind.mp h with ⟨a, u, -, hrest⟩ | ⟨e', hfirst, he⟩
  · exact hf a others u e t hrest
  · obtain rfl := Except.error.inj he
    exact hx others s e t hfirst

/-- A result, and what follows on its value. -/
theorem raisesDatabase_result {r : Except Failure α} {f : α → AIClient β}
    (hr : RaisesOnly IsDatabase r) (hf : ∀ a, r = .ok a → RaisesDatabase (f a)) :
    RaisesDatabase (fromResult r >>= f) := by
  intro others s e t h
  rcases ends_bind.mp h with ⟨a, u, hfirst, hrest⟩ | ⟨e', hfirst, he⟩
  · exact hf a (ends_fromResult.mp hfirst).1.symm others u e t hrest
  · obtain rfl := Except.error.inj he
    exact hr e (ends_fromResult.mp hfirst).1.symm

theorem raisesDatabase_transact {x : AISession α} (h : ∀ db e, Fails x db e → IsDatabase e) :
    RaisesDatabase (transact x) := by
  intro others s e t hends
  exact h _ e (atomically_error.mp (ends_transact.mp hends).1).1

theorem isDatabase_of_unitOfWork {work : Tenancy.TenantSession α} {db : TenantDatabase}
    {e : Failure} (h : Fails (unitOfWork work) db e) : IsDatabase e := by
  obtain ⟨error, -, rfl⟩ := fails_mapError.mp h
  exact ⟨error, rfl⟩

end

theorem isDatabase_valueError {message : String} : IsDatabase (valueError message) := ⟨_, rfl⟩

theorem database_raiseUnless {p : Prop} [Decidable p] {message : String} :
    RaisesOnly IsDatabase (raiseUnless p (valueError message)) := by
  unfold raiseUnless
  split
  · exact raisesOnly_ok _
  · exact raisesOnly_error.mpr isDatabase_valueError

theorem database_normalizedFeatures {features : NormalizedMatchFeatures} :
    RaisesOnly IsDatabase features.normalized := by
  refine raisesOnly_bind.mpr ⟨database_raiseUnless, fun _ _ => ?_⟩
  refine raisesOnly_bind.mpr ⟨database_raiseUnless, fun _ _ => ?_⟩
  refine raisesOnly_bind.mpr ⟨database_raiseUnless, fun _ _ => ?_⟩
  exact raisesOnly_bind.mpr ⟨database_raiseUnless, fun _ _ => raisesOnly_pure _⟩

theorem database_normalizedRequest {request : AIInferenceRequest} :
    RaisesOnly IsDatabase request.normalized := by
  refine raisesOnly_bind.mpr ⟨database_raiseUnless, fun _ _ => ?_⟩
  refine raisesOnly_bind.mpr ⟨database_raiseUnless, fun _ _ => ?_⟩
  exact raisesOnly_bind.mpr ⟨database_raiseUnless, fun _ _ => raisesOnly_pure _⟩

namespace ReconciliationCandidateGenerator

variable {self : ReconciliationCandidateGenerator} {organizationId runId : UUID}
  {records : List CandidateSourceRecord} {excludedRecordIds : List String}

theorem database_generate :
    RaisesOnly IsDatabase (self.generate organizationId runId records excludedRecordIds) := by
  refine raisesOnly_bind.mpr ⟨raisesOnly_foldlM (fun pair _ generation => ?_) _,
    fun _ _ => raisesOnly_pure _⟩
  unfold compare
  dsimp only
  split
  · exact raisesOnly_pure _
  · split
    · exact raisesOnly_pure _
    · split
      · exact raisesOnly_pure _
      · split
        · exact raisesOnly_pure _
        · exact raisesOnly_bind.mpr ⟨database_normalizedFeatures, fun _ _ => raisesOnly_pure _⟩

/-- One pair of the loop. -/
theorem valid_compare {generation generation' : Generation}
    {pair : CandidateSourceRecord × CandidateSourceRecord}
    (h : ∀ candidate ∈ generation.generated, candidate.features.IsValid)
    (hcompare : self.compare organizationId runId generation pair = .ok generation') :
    ∀ candidate ∈ generation'.generated, candidate.features.IsValid := by
  obtain rfl | ⟨htypes, features, -, hfeatures, rfl⟩ := compare_cases hcompare
  · exact h
  · intro candidate hm
    rcases List.mem_append.mp hm with hm | hm
    · exact h candidate hm
    · obtain rfl := List.mem_singleton.mp hm
      exact isValid_of_normalized hfeatures

/-- The features of all candidates are valid, and they are no more than the limit. -/
theorem valid_generate {candidates : List GeneratedCandidate}
    (h : self.generate organizationId runId records excludedRecordIds = .ok candidates) :
    (∀ candidate ∈ candidates, candidate.features.IsValid) ∧
      candidates.length ≤ self.maximumCandidates := by
  obtain ⟨generation, hloop, htaken⟩ := bind_ok.mp h
  obtain rfl := Except.ok.inj htaken
  have hvalid := foldlM_invariant
    (fun generation : Generation => ∀ candidate ∈ generation.generated, candidate.features.IsValid)
    (fun _ _ _ _ hgeneration hcompare => valid_compare hgeneration hcompare)
    (fun _ hm => absurd hm List.not_mem_nil) hloop
  refine ⟨fun candidate hm => ?_, List.length_take_le _ _⟩
  exact hvalid candidate ((mem_sortOn rank).mp (List.mem_of_mem_take hm))

end ReconciliationCandidateGenerator

/-! ### A call of the local provider -/

theorem exists_bind {α β : Type} {x : Except Failure α} {f : α → Except Failure β} {a : α}
    (hx : x = .ok a) (h : ∃ b, f a = .ok b) : ∃ b, x >>= f = .ok b := by
  obtain ⟨b, hb⟩ := h
  exact ⟨b, bind_ok.mpr ⟨a, hx, hb⟩⟩

/-- A response is mapped if it is of this version, and of the candidates. -/
theorem exists_mapResponse {response : AIInferenceResponse} {candidates : List GeneratedCandidate}
    {promptVersion : String} (hversion : response.promptVersion = promptVersion)
    (hknown : ∀ suggestion ∈ response.suggestions, ∃ candidate ∈ candidates,
      candidate.features.candidateReference = suggestion.candidateReference) :
    ∃ validated, mapResponse response candidates promptVersion = .ok validated := by
  refine exists_bind (a := ()) (raiseUnless_ok.mpr hversion)
    ((exists_mapM Prod.snd id fun suggestion hm => ?_).imp fun _ hmapped => hmapped.1)
  obtain ⟨candidate, hcandidate, href⟩ := hknown suggestion hm
  have hfound : (candidates.reverse.find? fun candidate =>
      decide (candidate.features.candidateReference =
        suggestion.candidateReference)).isSome = true :=
    List.find?_isSome.mpr ⟨candidate, List.mem_reverse.mpr hcandidate, decide_eq_true href⟩
  obtain ⟨found, hfound⟩ := Option.isSome_iff_exists.mp hfound
  rw [hfound]
  exact ⟨(found, suggestion), rfl, rfl⟩

namespace AIMatchSuggestionWorkflow

variable {self : AIMatchSuggestionWorkflow} {call : GenerateCall}

theorem raisesDatabase_start {candidateCount : ℕ} :
    RaisesDatabase (self.start call candidateCount) := by
  unfold start
  split
  · exact raisesDatabase_pure
  · refine raisesDatabase_bind (raisesDatabase_transact fun db e h => ?_)
      fun _ => raisesDatabase_pure
    rcases fails_bind.mp h with hcreate | ⟨_, _, -, hpure⟩
    · exact isDatabase_of_unitOfWork hcreate
    · exact absurd hpure fails_pure

theorem isDatabase_void {work : Tenancy.TenantSession α} {db : TenantDatabase} {e : Failure}
    (h : Fails (void (unitOfWork work)) db e) : IsDatabase e := by
  rcases fails_bind.mp h with hwork | ⟨_, _, -, hpure⟩
  · exact isDatabase_of_unitOfWork hwork
  · exact absurd hpure fails_pure

theorem raisesDatabase_store {eventId : Option UUID} {inferred : Inferred} :
    RaisesDatabase (self.store call eventId inferred) := by
  have hfinalize : RaisesDatabase (finalize call inferred) := by
    unfold finalize
    split
    · exact raisesDatabase_pure
    · exact raisesDatabase_transact fun db e h => isDatabase_void h
  have hcomplete (n : ℕ) : RaisesDatabase (complete call eventId .succeeded n
      inferred.response.inputTokens inferred.response.outputTokens none) := by
    unfold complete
    split
    · exact raisesDatabase_pure
    · exact raisesDatabase_transact fun db e h => isDatabase_void h
  refine raisesDatabase_bind hfinalize fun _ => ?_
  refine raisesDatabase_bind
    (raisesDatabase_transact fun db e h => isDatabase_of_unitOfWork h) fun persisted => ?_
  exact raisesDatabase_bind (hcomplete _) fun _ => raisesDatabase_pure

section

variable {others : ℕ → TenantDatabase → TenantDatabase} {s t : Turn TenantDatabase}

/-- Without a meter, nothing is reserved. -/
theorem reserve_unmetered {candidateCount : ℕ} {result : Except Failure (Option UUID)}
    (hunmetered : ∀ controller, self.usageController = some controller →
      controller.isMetered = false)
    (h : Ends (self.reserve call candidateCount) others s result t) : result = .ok none := by
  unfold reserve at h
  split at h
  · exact (ends_pure.mp h).1
  · next controller hcontroller =>
    have hfree : controller.reserve call.draws.reservationId call.organizationId call.runId
        candidateCount call.draws.reservedAt = pure none :=
      if_neg (by rw [hunmetered controller hcontroller]; exact Bool.false_ne_true)
    rw [hfree] at h
    obtain ⟨hrun, -⟩ := ends_transact.mp h
    cases result with
    | ok id => rw [(runs_pure.mp (atomically_ok.mp hrun)).1]
    | error e => exact absurd (atomically_error.mp hrun).1 fails_pure

/-- Without a meter, a request that is answered is answered. -/
theorem infer_unmetered {eventId : Option UUID} {candidates : List GeneratedCandidate}
    {request : AIInferenceRequest} {response : AIInferenceResponse}
    {validated : List (GeneratedCandidate × AIInferenceSuggestion)}
    {result : Except Failure Inferred}
    (hunmetered : ∀ controller, self.usageController = some controller →
      controller.isMetered = false) (hresponse : call.infer request = .ok response)
    (hmapped : mapResponse response candidates self.promptVersion = .ok validated)
    (h : Ends (self.infer call eventId candidates request) others s result t) :
    result = .ok ⟨none, response, validated⟩ := by
  have hinferred : (do
      let response ← call.infer request
      let validated ← mapResponse response candidates self.promptVersion
      return ⟨none, response, validated⟩ : Except Failure Inferred) =
      .ok ⟨none, response, validated⟩ :=
    bind_ok.mpr ⟨response, hresponse, bind_ok.mpr ⟨validated, hmapped, rfl⟩⟩
  obtain ⟨reserved, u, hattempt, hrest⟩ | ⟨e, hattempt, rfl⟩ := ends_bind.mp h
  · obtain ⟨r, hends, hr⟩ := ends_attempt.mp hattempt
    obtain rfl := Except.ok.inj hr
    obtain rfl := reserve_unmetered hunmetered hends
    dsimp only at hrest
    rw [hinferred] at hrest
    exact (ends_pure.mp hrest).1
  · obtain ⟨r, -, hr⟩ := ends_attempt.mp hattempt
    cases hr

end

end AIMatchSuggestionWorkflow

/-! ### The local provider -/

/-- The record is what the local provider's suggestion of the candidate is stored as. -/
structure Suggests (call : GenerateCall) (scoring : Scoring) (modelVersion : String)
    (candidate : GeneratedCandidate) (record : AIMatchSuggestionRecord) : Prop where
  organization : record.organizationId = call.organizationId
  run : record.runId = call.runId
  bank : named record .bank = candidate.records.bankRecordIds
  erp : named record .erp = candidate.records.erpInvoiceIds
  gateway : named record .gateway = candidate.records.gatewayRecordIds
  /-- The score, as its column keeps it. -/
  confidence : record.confidenceScore = (scoring.score candidate.features).atScale 4
  explanation : record.explanation = .object [
    ("summary", .text "Deterministic score derived from normalized matching signals."),
    ("reason_codes", .list (candidate.features.reasons.map .text))]
  provider : record.provider = "deterministic"
  modelVersion : record.modelVersion = modelVersion

namespace DeterministicAIInferenceProvider

variable (self : DeterministicAIInferenceProvider) (scoring : Scoring)

theorem best_nil {α : Type} (features : α → NormalizedMatchFeatures) :
    self.best scoring features [] = [] :=
  List.take_nil

theorem best_map {α : Type} (features : α → NormalizedMatchFeatures) (candidates : List α) :
    self.best scoring id (candidates.map features) =
      (self.best scoring features candidates).map features := by
  unfold best
  rw [List.map_take]
  exact congrArg (List.take self.maxSuggestions)
    (map_sortOn features (fun item => (scoring.suggested item).rank) candidates).symm

variable {self scoring}

theorem mem_of_mem_best {α : Type} {features : α → NormalizedMatchFeatures} {candidates : List α}
    {candidate : α} (h : candidate ∈ self.best scoring features candidates) :
    candidate ∈ candidates :=
  (mem_sortOn _).mp (List.mem_of_mem_take h)

variable (scoring) in
/-- **The answer to a request of candidates is mapped to the best of them.** -/
theorem exists_mapped {candidates : List GeneratedCandidate} {request : AIInferenceRequest}
    (hfeatures : request.features = candidates.map (·.features)) (h : self.Answers request) :
    ∃ response validated, self.infer scoring request = .ok response ∧
      mapResponse response candidates request.promptVersion = .ok validated ∧
      response.modelVersion = self.modelVersion ∧
      List.Forall₂ (fun candidate pair => pair.1 = candidate ∧
          pair.2.suggested = scoring.suggested candidate.features)
        (self.best scoring (·.features) candidates) validated := by
  obtain ⟨response, hresponse, hsuggested, hmodel, hprompt⟩ := self.exists_infer scoring h
  rw [hfeatures, best_map, List.map_map] at hsuggested
  have hbest := forall₂_of_map_eq hsuggested.symm
  have hknown : ∀ suggestion ∈ response.suggestions, ∃ candidate ∈ candidates,
      candidate.features.candidateReference = suggestion.candidateReference := by
    intro suggestion hm
    have hall := List.mem_map_of_mem (f := AIInferenceSuggestion.suggested) hm
    rw [hsuggested] at hall
    obtain ⟨candidate, hcandidate, he⟩ := List.mem_map.mp hall
    exact ⟨candidate, mem_of_mem_best hcandidate, congrArg Suggested.candidateReference he⟩
  obtain ⟨validated, hmapped⟩ := exists_mapResponse hprompt hknown
  refine ⟨response, validated, hresponse, hmapped, hmodel, ?_⟩
  have hunique : (candidates.map fun candidate =>
      candidate.features.candidateReference).Nodup := by
    have hdistinct := h.distinct
    rwa [hfeatures, List.map_map] at hdistinct
  have hpairs := forall₂_comp ((List.forall₂_and_left _ _).mpr
    ⟨fun candidate hm => mem_of_mem_best hm, hbest⟩) (mapResponse_ok hmapped)
  refine hpairs.imp fun candidate pair hpair => ?_
  obtain ⟨suggestion, ⟨hm, hsuggestion⟩, rfl, hcandidate, href⟩ := hpair
  refine ⟨List.inj_on_of_nodup_map hunique hcandidate hm ?_, hsuggestion.symm⟩
  exact href.trans (congrArg Suggested.candidateReference hsuggestion.symm)

end DeterministicAIInferenceProvider

section

variable {urlsplit : String → Except Failure SplitUrl} {settings : APISettings urlsplit}
  {comparison : Comparison} {scoring : Scoring} {call : GenerateCall}
  {candidates : List GeneratedCandidate} {request : AIInferenceRequest}

variable (settings) in
/-- The local provider, as it is set up. -/
def APISettings.localProvider : DeterministicAIInferenceProvider where
  modelVersion := settings.aiModelVersion
  maxCandidates := settings.aiMaxCandidatesPerRequest
  maxSuggestions := settings.aiMaxSuggestionsPerResponse

/-- What a call submits can be answered. -/
theorem answers_submitted
    (hgenerate : (settings.workflow comparison).generator.generate call.organizationId call.runId
      call.records call.excludedRecordIds = .ok candidates)
    (hrequest : AIInferenceRequest.normalized
      ⟨candidates.map (·.features), settings.aiPromptVersion⟩ = .ok request) :
    request.features = candidates.map (·.features) ∧
      request.promptVersion = settings.aiPromptVersion ∧
      settings.localProvider.Answers request := by
  obtain ⟨hvalid, hfew⟩ := ReconciliationCandidateGenerator.valid_generate hgenerate
  obtain ⟨_, -, hrest⟩ := bind_ok.mp hrequest
  obtain ⟨_, hdistinct, hrest⟩ := bind_ok.mp hrest
  obtain ⟨_, -, hrest⟩ := bind_ok.mp hrest
  obtain rfl := Except.ok.inj hrest
  have hprompt : strip settings.aiPromptVersion = settings.aiPromptVersion :=
    strip_of_isText (Bool.and_eq_true_iff.mp settings.promptVersion_valid).1
  refine ⟨rfl, hprompt, ⟨settings.modelVersion_valid, ?_, fun item hm => ?_,
    raiseUnless_ok.mp hdistinct, ?_⟩⟩
  · exact hprompt.symm ▸ settings.promptVersion_valid
  · obtain ⟨candidate, hcandidate, rfl⟩ := List.mem_map.mp hm
    exact hvalid candidate hcandidate
  · exact (List.length_map _).trans_le hfew

/-- A row of the local provider. -/
theorem suggests_row (hlocal : settings.aiInferenceProvider = "deterministic")
    {response : AIInferenceResponse} (hmodel : response.modelVersion = settings.aiModelVersion)
    {n : ℕ} {candidate : GeneratedCandidate} {pair : GeneratedCandidate × AIInferenceSuggestion}
    (hpair : pair.1 = candidate ∧ pair.2.suggested = scoring.suggested candidate.features) :
    Suggests call scoring settings.aiModelVersion candidate
      ((settings.workflow comparison).row call response n pair.1 pair.2).stored := by
  obtain ⟨candidate', suggestion⟩ := pair
  obtain ⟨rfl, hsuggested⟩ := hpair
  have hcodes : suggestion.reasonCodes = candidate'.features.reasons :=
    congrArg Suggested.reasonCodes hsuggested
  have hsummary : suggestion.explanation =
      "Deterministic score derived from normalized matching signals." :=
    congrArg Suggested.explanation hsuggested
  have hscore : suggestion.confidence = scoring.score candidate'.features :=
    congrArg Suggested.confidence hsuggested
  refine ⟨rfl, rfl, rfl, rfl, rfl, congrArg (Decimal.atScale 4) hscore, ?_, hlocal, ?_⟩
  · rw [← hcodes, ← hsummary]
    rfl
  · show strip response.modelVersion = settings.aiModelVersion
    rw [hmodel]
    exact strip_of_isText (Bool.and_eq_true_iff.mp settings.modelVersion_valid).1

/-- The local provider is not metered. -/
theorem unmetered_of_local (hlocal : settings.aiInferenceProvider = "deterministic") :
    ∀ controller, (settings.workflow comparison).usageController = some controller →
      controller.isMetered = false := by
  intro controller hcontroller
  obtain rfl := Option.some.inj hcontroller
  show decide (settings.aiInferenceProvider = "openai-compatible") = false
  rw [hlocal]
  rfl

/-- The first part of a call fails for no reason that is not the database's. -/
theorem raisesDatabase_submit (hlocal : settings.aiInferenceProvider = "deterministic")
    (hinfer : ∀ request, call.infer request = settings.localProvider.infer scoring request) :
    RaisesDatabase ((settings.workflow comparison).submit call) := by
  refine raisesDatabase_result ReconciliationCandidateGenerator.database_generate
    fun candidates hgenerate => ?_
  split
  · exact raisesDatabase_pure
  · refine raisesDatabase_result database_normalizedRequest fun request hrequest => ?_
    refine raisesDatabase_bind AIMatchSuggestionWorkflow.raisesDatabase_start fun eventId => ?_
    refine raisesDatabase_bind ?_ fun _ => raisesDatabase_pure
    -- the guarded part does not fail
    intro others s e t hends
    obtain ⟨hfeatures, hprompt, hanswers⟩ := answers_submitted hgenerate hrequest
    obtain ⟨response, validated, hresponse, hmapped, -⟩ :=
      DeterministicAIInferenceProvider.exists_mapped scoring hfeatures hanswers
    rw [hprompt] at hmapped
    cases AIMatchSuggestionWorkflow.infer_unmetered (unmetered_of_local hlocal)
      ((hinfer request).trans hresponse) hmapped hends

/-- What the first part of a call hands over is stored as the best candidates. -/
theorem best_of_answered (hlocal : settings.aiInferenceProvider = "deterministic")
    (hinfer : ∀ request, call.infer request = settings.localProvider.infer scoring request)
    {inferred : Inferred}
    (hgenerate : (settings.workflow comparison).generator.generate call.organizationId call.runId
      call.records call.excludedRecordIds = .ok candidates)
    (h : AIMatchSuggestionWorkflow.Answered (settings.workflow comparison) call candidates
      inferred) :
    List.Forall₂ (Suggests call scoring settings.aiModelVersion)
      (settings.localProvider.best scoring (·.features) candidates)
      (((settings.workflow comparison).rows call inferred.response 0 inferred.validated).map
        (·.stored)) := by
  obtain ⟨request, hrequest, hanswered⟩ := h.request
  obtain ⟨hfeatures, hprompt, hanswers⟩ := answers_submitted hgenerate hrequest
  obtain ⟨response, validated, hresponse, hmapped, hmodel, hbest⟩ :=
    DeterministicAIInferenceProvider.exists_mapped scoring hfeatures hanswers
  have hsame : inferred.response = response :=
    Except.ok.inj (hanswered.symm.trans ((hinfer request).trans hresponse))
  rw [← hsame] at hmapped hmodel
  rw [hprompt] at hmapped
  obtain rfl := Except.ok.inj (h.mapped.symm.trans hmapped)
  exact AIMatchSuggestionWorkflow.forall₂_rows hbest
    fun _ _ _ hpair => suggests_row hlocal hmodel hpair

end

/-- **A call of the local provider** stores exactly the best candidates, best first, or nothing, and
no error of inference is raised. -/
theorem generation_by_best {σ : Type} {urlsplit : String → Except Failure SplitUrl}
    {settings : APISettings urlsplit} {comparison : Comparison} {app : AIApp}
    (runtime : InferenceRuntime σ) (state : σ) {call : GenerateCall}
    {others : ℕ → TenantDatabase → TenantDatabase} {db : TenantDatabase} {t : Turn TenantDatabase}
    {result : Except Failure (List AIMatchSuggestionRecord)}
    (hlocal : settings.aiInferenceProvider = "deterministic")
    (happ : createApp settings comparison = .ok app)
    (hinfer : ∀ request, call.infer request = (app.provider.infer runtime request state).1)
    (h : Ends (app.workflow.generateAndPersist call) others ⟨db, []⟩ result t) :
    ∃ stored, Adds t.log stored ∧
      ((∃ records, result = .ok records ∧ records.map (·.stored) = stored) ∨
        ∃ e, result = .error (.database e)) ∧
      ((stored = [] ∧ ∃ e, result = .error e) ∨ ∃ candidates,
        app.workflow.generator.generate call.organizationId call.runId call.records
          call.excludedRecordIds = .ok candidates ∧
        List.Forall₂ (Suggests call runtime.scoring settings.aiModelVersion)
          (settings.localProvider.best runtime.scoring (·.features) candidates) stored) := by
  obtain ⟨provider, hcreated, hprovider⟩ := createApp_ok settings comparison
  obtain rfl := Except.ok.inj (happ.symm.trans hcreated)
  obtain rfl := hprovider hlocal
  have hanswer : ∀ request, call.infer request =
      settings.localProvider.infer runtime.scoring request := hinfer
  obtain ⟨submitted, u, hsubmit, hrest⟩ | ⟨e, hsubmit, rfl⟩ := ends_bind.mp h
  · have hu : Adds u.log [] :=
      AIMatchSuggestionWorkflow.addsNothing_submit _ _ _ _ _ hsubmit .nil
    obtain ⟨candidates, hgenerate, hsubmitted⟩ := AIMatchSuggestionWorkflow.ends_submit hsubmit
    obtain ⟨rfl, rfl⟩ | ⟨eventId, inferred, rfl, hanswered⟩ := hsubmitted
    · obtain ⟨rfl, rfl⟩ := ends_pure.mp hrest
      refine ⟨[], hu, .inl ⟨[], rfl, rfl⟩, .inr ⟨[], hgenerate, ?_⟩⟩
      rw [DeterministicAIInferenceProvider.best_nil]
      exact .nil
    · have hraised {e : Failure} (he : result = .error e) : ∃ error, e = .database error :=
        AIMatchSuggestionWorkflow.raisesDatabase_store _ _ _ _ (he ▸ hrest)
      obtain ⟨hnothing, e, rfl⟩ | ⟨hstored, hresult⟩ :=
        AIMatchSuggestionWorkflow.ends_store hrest hu
      · obtain ⟨error, rfl⟩ := hraised rfl
        exact ⟨[], hnothing, .inr ⟨error, rfl⟩, .inl ⟨rfl, _, rfl⟩⟩
      · have hbest := best_of_answered hlocal hanswer hgenerate hanswered
        refine ⟨_, hstored, ?_, .inr ⟨candidates, hgenerate, hbest⟩⟩
        cases result with
        | ok records => exact .inl ⟨records, rfl, hresult records rfl ▸ rfl⟩
        | error e =>
          obtain ⟨error, rfl⟩ := hraised rfl
          exact .inr ⟨error, rfl⟩
  · obtain ⟨error, rfl⟩ := raisesDatabase_submit hlocal hanswer _ _ _ _ hsubmit
    exact ⟨[], AIMatchSuggestionWorkflow.addsNothing_submit _ _ _ _ _ hsubmit .nil,
      .inr ⟨error, rfl⟩, .inl ⟨rfl, _, rfl⟩⟩

/-- Of records that are the same in all respects. -/
def sameScore : Scoring where
  toFloats := .ofFewDigits
  weights_le := by decide +kernel

def localSettings : APISettings fun _ => .error (valueError "Invalid URL") where
  aiInferenceProvider := "deterministic"
  aiInferenceConfigVersion := "config-v2"
  aiMaxCandidatesPerRequest := 50
  aiMaxSuggestionsPerResponse := 10
  aiCandidateMaxDateDifferenceDays := 14
  aiCandidateMaxAmountDifferenceRatio := ⟨false, 1, -1⟩
  aiMaxRetries := 1
  aiRetryBackoffSeconds := 1 / 2

def localRuntime : InferenceRuntime (List HttpReply) where
  scoring := sameScore
  json := hostedJson
  endpoint := scripted

def localCall : GenerateCall :=
  { onlyCall with infer := localSettings.localProvider.infer sameScore }

theorem generation_by_best_pair : ∃ records t,
    Ends ((localSettings.workflow sameRecords).generateAndPersist localCall) (fun _ db => db)
      ⟨emptyRun, []⟩ (.ok records) t ∧
    records.length = 1 ∧ Adds t.log (records.map (·.stored)) ∧ ∃ candidates,
      List.Forall₂ (Suggests localCall sameScore "deterministic-v1")
        (localSettings.localProvider.best sameScore (·.features) candidates)
        (records.map (·.stored)) := by
  have hrun : ((((((localSettings.workflow sameRecords).generateAndPersist localCall).run
      fun _ db => db).run ⟨emptyRun, []⟩).1).toOption.map List.length) = some 1 := by
    decide +kernel
  obtain ⟨result, t, hends⟩ := exists_ends
    ((localSettings.workflow sameRecords).generateAndPersist localCall) (fun _ db => db)
    ⟨emptyRun, []⟩
  rw [show ((((localSettings.workflow sameRecords).generateAndPersist localCall).run
    fun _ db => db).run ⟨emptyRun, []⟩).1 = result from congrArg Prod.fst hends] at hrun
  cases result with
  | error e => cases hrun
  | ok records =>
    have hlength : records.length = 1 := Option.some.inj hrun
    have happ : createApp localSettings sameRecords =
        .ok ⟨.deterministic localSettings.localProvider, localSettings.workflow sameRecords⟩ := rfl
    obtain ⟨stored, hadds, ⟨_, hsame, rfl⟩ | ⟨_, hfailed⟩, hbest⟩ :=
      generation_by_best localRuntime [] rfl happ (fun _ => rfl) hends
    · obtain rfl := Except.ok.inj hsame
      obtain ⟨-, _, hfailed⟩ | ⟨candidates, -, hbest⟩ := hbest
      · cases hfailed
      · exact ⟨records, t, hends, hlength, hadds, candidates, hbest⟩
    · cases hfailed

end ReconcileFlow.AI
