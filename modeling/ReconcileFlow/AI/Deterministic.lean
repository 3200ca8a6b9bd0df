import ReconcileFlow.AI.Candidates
import ReconcileFlow.AI.Hosted
import ReconcileFlow.Support.Floats

/-!
# AI — Deterministic

The local provider.  It scores each candidate by its signals and suggests the best of them; how
the operations on floating-point numbers round is a parameter (`Scoring`).

`exists_infer`: a request within its limit is answered, with the best candidates, best first; two
candidates of the same score are in the order of their references.
-/

namespace ReconcileFlow.AI

open Support

/-- The floating-point numbers that scores are computed in; the weights make at most one. -/
structure Scoring extends Floats where
  weights_le : (add (add (add ⟨false, 45, -2⟩ ⟨false, 25, -2⟩) ⟨false, 25, -2⟩)
    ⟨false, 5, -2⟩).toRat ≤ 1

structure DeterministicAIInferenceProvider where
  modelVersion : String
  maxCandidates : ℕ
  maxSuggestions : ℕ

/-- What is suggested of a candidate. -/
structure Suggested where
  candidateReference : String
  confidence : Decimal
  reasonCodes : List String
  explanation : String
deriving DecidableEq

def AIInferenceSuggestion.suggested (suggestion : AIInferenceSuggestion) : Suggested where
  candidateReference := suggestion.candidateReference
  confidence := suggestion.confidence
  reasonCodes := suggestion.reasonCodes
  explanation := suggestion.explanation

/-- The codes of the signals that are strong. -/
def reasonCodesOf (amount date reference currency : Bool) : List String :=
  let codes := ([("AMOUNT_SIMILAR", amount), ("DATE_SIMILAR", date),
    ("REFERENCE_SIMILAR", reference), ("CURRENCY_MATCH", currency)].filter (·.2)).map (·.1)
  if codes.isEmpty then ["WEAK_SIGNALS"] else codes

theorem reasonCodesOf_valid : ∀ amount date reference currency : Bool,
    reasonCodesOf amount date reference currency ≠ [] ∧
      (reasonCodesOf amount date reference currency).length ≤ 10 ∧
      ∀ code ∈ reasonCodesOf amount date reference currency, isReasonCode code = true := by
  decide +kernel

/-- A signal of at least 0.8. -/
def isStrong (similarity : Decimal) : Bool := Decimal.le ⟨false, 8, -1⟩ similarity

def NormalizedMatchFeatures.reasons (item : NormalizedMatchFeatures) : List String :=
  reasonCodesOf (isStrong item.amountSimilarity) (isStrong item.dateSimilarity)
    (isStrong item.referenceSimilarity) item.currencyMatches

namespace Scoring

variable (scoring : Scoring) (item : NormalizedMatchFeatures)

/-- The weighted sum of the signals, rounded to six digits. -/
def score : Decimal :=
  let amount := scoring.mul item.amountSimilarity ⟨false, 45, -2⟩
  let date := scoring.mul item.dateSimilarity ⟨false, 25, -2⟩
  let reference := scoring.mul item.referenceSimilarity ⟨false, 25, -2⟩
  let currency := if item.currencyMatches then ⟨false, 5, -2⟩ else ⟨false, 0, -1⟩
  scoring.round (scoring.add (scoring.add (scoring.add amount date) reference) currency) 6

def suggested : Suggested where
  candidateReference := item.candidateReference
  confidence := scoring.score item
  reasonCodes := item.reasons
  explanation := "Deterministic score derived from normalized matching signals."

/-- `AIInferenceSuggestion(…)`. -/
def suggest : Except ParseError AIInferenceSuggestion :=
  let values := scoring.suggested item
  AIInferenceSuggestion.ofJson (.str values.candidateReference) (.float (.finite values.confidence))
    (values.reasonCodes.map .str) (.str values.explanation)

end Scoring

/-- The best comes first. -/
def Suggested.rank (suggested : Suggested) : ℚ ×ₗ String :=
  toLex (-suggested.confidence.toRat, suggested.candidateReference)

namespace DeterministicAIInferenceProvider

variable (self : DeterministicAIInferenceProvider) (scoring : Scoring)

def infer (request : AIInferenceRequest) : Except Failure AIInferenceResponse := do
  if self.maxCandidates < request.features.length then
    throw (.inference "inference request exceeds the configured candidate limit")
  let response : Except ParseError AIInferenceResponse := do
    let ranked ← request.features.mapM scoring.suggest
    AIInferenceResponse.ofJson
      ((sortOn (fun suggestion => suggestion.suggested.rank) ranked).take self.maxSuggestions)
      self.modelVersion request.promptVersion (.int 0) (.int 0)
  response.mapError ParseError.toFailure

/-- The candidates that are suggested. -/
def best {α : Type} (features : α → NormalizedMatchFeatures) (candidates : List α) : List α :=
  (sortOn (fun candidate => (scoring.suggested (features candidate)).rank) candidates).take
    self.maxSuggestions

end DeterministicAIInferenceProvider

/-! ### Suggestions -/

/-- The features are ones that have been constructed. -/
def NormalizedMatchFeatures.IsValid (item : NormalizedMatchFeatures) : Prop :=
  isTextWithin 200 item.candidateReference = true ∧ isFraction item.amountSimilarity = true ∧
    isFraction item.dateSimilarity = true ∧ isFraction item.referenceSimilarity = true

theorem isValid_of_normalized {given item : NormalizedMatchFeatures}
    (h : given.normalized = .ok item) : item.IsValid := by
  obtain ⟨_, hreference, h⟩ := bind_ok.mp h
  obtain ⟨_, hamount, h⟩ := bind_ok.mp h
  obtain ⟨_, hdate, h⟩ := bind_ok.mp h
  obtain ⟨_, hsimilarity, h⟩ := bind_ok.mp h
  obtain rfl := Except.ok.inj h
  exact ⟨isTextWithin_strip (raiseUnless_ok.mp hreference), raiseUnless_ok.mp hamount,
    raiseUnless_ok.mp hdate, raiseUnless_ok.mp hsimilarity⟩

theorem readReasonCodes_ok {codes : List String} (h : codes ≠ [] ∧ codes.length ≤ 10 ∧
    ∀ code ∈ codes, isReasonCode code = true) :
    ∃ read, readReasonCodes (codes.map .str) = .ok read ∧ read.1 = codes := by
  have hcodes : ∀ code ∈ codes, ∃ read : { code : String // isReasonCode code = true },
      readReasonCode (.str code) = .ok read ∧ read.val = code :=
    fun code hm => ⟨⟨code, h.2.2 code hm⟩, dif_pos (h.2.2 code hm), rfl⟩
  obtain ⟨read, hread, hmap⟩ := exists_mapM Subtype.val id hcodes
  rw [List.map_id] at hmap
  have hcount : codes.map Json.str ≠ [] ∧ (codes.map Json.str).length ≤ 10 := by simpa using
    ⟨h.1, h.2.1⟩
  unfold readReasonCodes
  rw [dif_pos hcount]
  split
  · next e he =>
    rw [List.mapM_map] at he
    cases he.symm.trans hread
  · next found hfound =>
    rw [List.mapM_map] at hfound
    obtain rfl := Except.ok.inj (hfound.symm.trans hread)
    exact ⟨_, rfl, hmap⟩

/-- A score is from 0 to 1. -/
theorem isFraction_score (scoring : Scoring) {item : NormalizedMatchFeatures} (h : item.IsValid) :
    isFraction (scoring.score item) = true := by
  obtain ⟨-, hamount, hdate, hreference⟩ := h
  rw [isFraction_iff] at hamount hdate hreference
  have hweight (coefficient : ℕ) : 0 ≤ (Decimal.toRat ⟨false, coefficient, -2⟩) := by
    simp only [Decimal.toRat, Decimal.signed, Bool.false_eq_true, if_false]
    positivity
  have hcurrency : 0 ≤ (if item.currencyMatches then ⟨false, 5, -2⟩
      else ⟨false, 0, -1⟩ : Decimal).toRat ∧
      (if item.currencyMatches then ⟨false, 5, -2⟩ else ⟨false, 0, -1⟩ : Decimal).toRat ≤
        Decimal.toRat ⟨false, 5, -2⟩ := by
    split
    · exact ⟨hweight 5, le_refl _⟩
    · have hzero : Decimal.toRat ⟨false, 0, -1⟩ = 0 := by simp [Decimal.toRat, Decimal.signed]
      exact ⟨hzero.ge, hzero.le.trans (hweight 5)⟩
  have hmul := scoring.mul_range hamount.1 hamount.2 (hweight 45)
  have hmul' := scoring.mul_range hdate.1 hdate.2 (hweight 25)
  have hmul'' := scoring.mul_range hreference.1 hreference.2 (hweight 25)
  refine isFraction_iff.mpr (scoring.round_range 6 ?_ ?_)
  · exact scoring.add_nonneg (scoring.add_nonneg (scoring.add_nonneg hmul.1 hmul'.1) hmul''.1)
      hcurrency.1
  · exact (scoring.add_mono (scoring.add_mono (scoring.add_mono hmul.2 hmul'.2) hmul''.2)
      hcurrency.2).trans scoring.weights_le

/-- What is suggested of valid features is accepted as it is. -/
theorem suggest_ok (scoring : Scoring) {item : NormalizedMatchFeatures} (h : item.IsValid) :
    ∃ suggestion, scoring.suggest item = .ok suggestion ∧
      suggestion.suggested = scoring.suggested item := by
  have hscore := isFraction_score scoring h
  obtain ⟨hreference, -⟩ := h
  obtain ⟨codes, hcodes, hvalues⟩ := readReasonCodes_ok (reasonCodesOf_valid
    (isStrong item.amountSimilarity) (isStrong item.dateSimilarity)
    (isStrong item.referenceSimilarity) item.currencyMatches)
  have htext (text : String) : attempt (Json.str text).text = .ok text := rfl
  have hbounded {text : String} {maximum : ℕ} (hvalid : isTextWithin maximum text = true) :
      boundedText text maximum = .ok ⟨text, hvalid⟩ := by
    obtain ⟨hshape, hlength⟩ := Bool.and_eq_true_iff.mp hvalid
    have hstrip := strip_of_isText hshape
    have hne : strip text ≠ "" := by
      intro he
      rw [hstrip] at he
      rw [he] at hshape
      cases hshape
    unfold boundedText
    rw [dif_pos ⟨hne, hstrip.symm ▸ of_decide_eq_true hlength⟩]
    simp only [hstrip]
  have hconfidence : readConfidence (.float (.finite (scoring.score item))) =
      .ok ⟨scoring.score item, hscore⟩ := dif_pos hscore
  have hexplanation : isTextWithin 500
      "Deterministic score derived from normalized matching signals." = true := by decide +kernel
  have hsuggest : ∃ suggestion, scoring.suggest item = .ok suggestion ∧
      suggestion.candidateReference = item.candidateReference ∧
      suggestion.confidence = scoring.score item ∧ suggestion.reasonCodes = codes.1 ∧
      suggestion.explanation =
        "Deterministic score derived from normalized matching signals." := by
    refine ⟨_, bind_eq_ok_iff.mpr ⟨_, htext _, bind_eq_ok_iff.mpr ⟨_, htext _,
      bind_eq_ok_iff.mpr ⟨_, hbounded hreference, bind_eq_ok_iff.mpr ⟨_, hconfidence,
      bind_eq_ok_iff.mpr ⟨_, hbounded hexplanation, bind_eq_ok_iff.mpr ⟨_, hcodes, rfl⟩⟩⟩⟩⟩⟩, ?_⟩
    exact ⟨rfl, rfl, rfl, rfl⟩
  obtain ⟨suggestion, hsuggestion, href, hconf, hreasons, hsummary⟩ := hsuggest
  refine ⟨suggestion, hsuggestion, ?_⟩
  simp only [AIInferenceSuggestion.suggested, Scoring.suggested, href, hconf, hreasons, hsummary,
    hvalues, NormalizedMatchFeatures.reasons]

/-! ### Responses -/

/-- A request that the provider can answer. -/
structure DeterministicAIInferenceProvider.Answers (provider : DeterministicAIInferenceProvider)
    (request : AIInferenceRequest) : Prop where
  modelVersion : isTextWithin 100 provider.modelVersion = true
  promptVersion : isTextWithin 100 request.promptVersion = true
  features : ∀ item ∈ request.features, item.IsValid
  distinct : (request.features.map (·.candidateReference)).Nodup
  few : request.features.length ≤ provider.maxCandidates

theorem ofJson_ok {suggestions : List AIInferenceSuggestion} {model prompt : String}
    (hmodel : isTextWithin 100 model = true) (hprompt : isTextWithin 100 prompt = true)
    (hunique : (suggestions.map (·.candidateReference)).Nodup) :
    ∃ response, AIInferenceResponse.ofJson suggestions model prompt (.int 0) (.int 0) =
        .ok response ∧ response.suggestions = suggestions ∧ response.modelVersion = model ∧
      response.promptVersion = prompt := by
  have hvalid {text : String} (h : isTextWithin 100 text = true) :
      isBlank text = false ∧ text.length ≤ 100 := by
    obtain ⟨hshape, hlength⟩ := Bool.and_eq_true_iff.mp h
    exact ⟨isText_not_blank hshape, of_decide_eq_true hlength⟩
  unfold AIInferenceResponse.ofJson
  rw [dif_pos (hvalid hmodel), dif_pos (hvalid hprompt), dif_pos hunique]
  exact ⟨_, rfl, rfl, rfl, rfl⟩

namespace DeterministicAIInferenceProvider

variable (self : DeterministicAIInferenceProvider) {request : AIInferenceRequest}

/-- **A request within the limit is answered with the best candidates, best first.** -/
theorem exists_infer (scoring : Scoring) (h : self.Answers request) :
    ∃ response, self.infer scoring request = .ok response ∧
      response.suggestions.map AIInferenceSuggestion.suggested =
        (self.best scoring id request.features).map scoring.suggested ∧
      response.modelVersion = self.modelVersion ∧
      response.promptVersion = request.promptVersion := by
  obtain ⟨ranked, hranked, hmap⟩ := exists_mapM AIInferenceSuggestion.suggested scoring.suggested
    fun item hm => suggest_ok scoring (h.features item hm)
  have hsorted (n : ℕ) : (((sortOn (fun suggestion => suggestion.suggested.rank) ranked).take
      n).map AIInferenceSuggestion.suggested) =
        ((sortOn (fun item => (scoring.suggested item).rank) request.features).take n).map
          scoring.suggested := by
    rw [List.map_take, List.map_take, map_sortOn AIInferenceSuggestion.suggested Suggested.rank,
      map_sortOn scoring.suggested Suggested.rank, hmap]
  have hunique : (((sortOn (fun suggestion => suggestion.suggested.rank) ranked).take
      self.maxSuggestions).map (·.candidateReference)).Nodup := by
    have hreferences : ranked.map (·.candidateReference) =
        request.features.map (·.candidateReference) := by
      have hall := congrArg (List.map Suggested.candidateReference) hmap
      rwa [List.map_map, List.map_map] at hall
    have hperm := (sortOn_perm (fun suggestion : AIInferenceSuggestion =>
      suggestion.suggested.rank) ranked).map (·.candidateReference)
    refine (hperm.nodup_iff.mpr (hreferences ▸ h.distinct)).sublist ?_
    exact (List.take_sublist _ _).map _
  obtain ⟨response, hresponse, hsuggestions, hmodel, hprompt⟩ :=
    ofJson_ok h.modelVersion h.promptVersion hunique
  refine ⟨response, ?_, ?_, hmodel, hprompt⟩
  · unfold infer
    rw [if_neg (not_lt.mpr h.few)]
    exact mapError_eq_ok_iff.mpr (bind_eq_ok_iff.mpr ⟨ranked, hranked, hresponse⟩)
  · rw [hsuggestions]
    exact hsorted self.maxSuggestions

end DeterministicAIInferenceProvider

end ReconcileFlow.AI
