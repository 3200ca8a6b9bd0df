import ReconcileFlow.AI.Evaluation

/-!
# AI — Renaming

What a report tells of what the candidates are called.  A renaming of candidates takes a case to
one about the renamed candidates, and an answer to one that suggests these; a provider that goes by
the features alone answers a renamed request with the renamed answer (`Follows`).  The counts of a
case are then the same (`answered_rename`); the sum of the squared errors is, if the renamed
candidates are gone through in the same order (`Steady`), since floating-point sums depend on it.
So a report tells nothing of names but through its Brier score (`evaluation_anonymous`).
-/

namespace ReconcileFlow.AI

open Support

/-- An injective renaming of candidates. -/
structure Renaming where
  rename : String → String
  injective : Function.Injective rename
  valid : ∀ {reference}, isTextWithin 200 reference = true →
    isTextWithin 200 (rename reference) = true

namespace Renaming

variable (ρ : Renaming)

def features (item : NormalizedMatchFeatures) : NormalizedMatchFeatures :=
  { item with candidateReference := ρ.rename item.candidateReference }

def request (given : AIInferenceRequest) : AIInferenceRequest :=
  { given with features := given.features.map ρ.features }

def suggestion (item : AIInferenceSuggestion) : AIInferenceSuggestion :=
  { item with
    candidateReference := ρ.rename item.candidateReference
    reference_valid := ρ.valid item.reference_valid }

theorem map_suggestion (suggestions : List AIInferenceSuggestion) :
    (suggestions.map ρ.suggestion).map (·.candidateReference) =
      (suggestions.map (·.candidateReference)).map ρ.rename := by
  simp only [List.map_map]
  rfl

def response (given : AIInferenceResponse) : AIInferenceResponse :=
  { given with
    suggestions := given.suggestions.map ρ.suggestion
    references_unique := by
      rw [map_suggestion]
      exact given.references_unique.map ρ.injective }

def answer (given : Except Failure AIInferenceResponse) : Except Failure AIInferenceResponse :=
  given.map ρ.response

theorem map_features (items : List NormalizedMatchFeatures) :
    (items.map ρ.features).map (·.candidateReference) =
      (items.map (·.candidateReference)).map ρ.rename := by
  simp only [List.map_map]
  rfl

/-- What is constructed is renamed to what is constructed. -/
theorem normalized_request {given constructed : AIInferenceRequest}
    (h : given.normalized = .ok constructed) :
    (ρ.request given).normalized = .ok (ρ.request constructed) := by
  simp only [AIInferenceRequest.normalized, bind_ok, raiseUnless_ok] at h ⊢
  obtain ⟨_, hfeatures, _, hnodup, _, hprompt, he⟩ := h
  refine ⟨(), ?_, (), ?_, (), hprompt, ?_⟩
  · simpa [request] using hfeatures
  · simp only [request, map_features]
    exact hnodup.map ρ.injective
  · rw [← Except.ok.inj he]
    rfl

@[simp] theorem submitted_request (given : AIInferenceRequest) :
    (ρ.request given).submitted = given.submitted.image ρ.rename := by
  simp only [AIInferenceRequest.submitted, request, map_features]
  ext reference
  simp

@[simp] theorem predicted_response (given : AIInferenceResponse) :
    (ρ.response given).predicted = given.predicted.image ρ.rename := by
  simp only [AIInferenceResponse.predicted, response, map_suggestion]
  ext reference
  simp

def case (given : EvaluationCase) : EvaluationCase where
  request := ρ.request given.request
  expectedCandidateReferences := given.expectedCandidateReferences.image ρ.rename
  request_valid := by
    obtain ⟨first, hfirst⟩ := given.request_valid
    exact ⟨ρ.request first, ρ.normalized_request hfirst⟩
  expected_submitted := by
    rw [submitted_request]
    exact Finset.image_subset_image given.expected_submitted

/-! ### The counts -/

@[simp] theorem confidenceOf_rename (given : AIInferenceResponse) (reference : String) :
    (ρ.response given).confidenceOf (ρ.rename reference) = given.confidenceOf reference := by
  have hfind (suggestions : List AIInferenceSuggestion) :
      ((suggestions.map ρ.suggestion).find? fun item =>
          decide (item.candidateReference = ρ.rename reference)) =
        (suggestions.find? fun item => decide (item.candidateReference = reference)).map
          ρ.suggestion := by
    induction suggestions with
    | nil => rfl
    | cons item suggestions ih =>
      rw [List.map_cons, List.find?_cons, List.find?_cons, ih]
      have he : (ρ.suggestion item).candidateReference = ρ.rename reference ↔
          item.candidateReference = reference := ρ.injective.eq_iff
      by_cases h : item.candidateReference = reference <;> simp [he, h]
  have hreverse : (ρ.response given).suggestions.reverse =
      given.suggestions.reverse.map ρ.suggestion := List.map_reverse.symm
  simp only [AIInferenceResponse.confidenceOf, hreverse, hfind]
  cases given.suggestions.reverse.find? _ <;> rfl

@[simp] theorem expectedOf_rename (given : EvaluationCase) (reference : String) :
    (ρ.case given).expectedOf (ρ.rename reference) = given.expectedOf reference := by
  simp [EvaluationCase.expectedOf, case, Finset.mem_image, ρ.injective.eq_iff]

/-- The renamed candidates of the case are gone through in the order of the candidates. -/
def Steady (runtime : EvaluationRuntime) (given : EvaluationCase) : Prop :=
  runtime.order (given.request.submitted.image ρ.rename) =
    (runtime.order given.request.submitted).map ρ.rename

theorem addSquaredErrors_rename {runtime : EvaluationRuntime} {given : EvaluationCase}
    (hsteady : ρ.Steady runtime given) (said : AIInferenceResponse) (squaredError : Decimal) :
    (ρ.case given).addSquaredErrors runtime (ρ.response said) squaredError =
      given.addSquaredErrors runtime said squaredError := by
  have hsubmitted : (ρ.case given).request.submitted = given.request.submitted.image ρ.rename :=
    ρ.submitted_request given.request
  rw [EvaluationCase.addSquaredErrors, hsubmitted, hsteady, List.foldl_map]
  simp only [confidenceOf_rename, expectedOf_rename]
  rfl

end Renaming

/-- What is counted, apart from the squared error. -/
def Tally.unscored (tally : Tally) : Tally := { tally with squaredError := ⟨false, 0, -1⟩ }

namespace Renaming

variable (ρ : Renaming)

/-- A renamed case is counted as the case is. -/
theorem answered_rename (runtime : EvaluationRuntime) {tally tally' : Tally}
    (htally : tally'.unscored = tally.unscored) (given : EvaluationCase)
    (said : AIInferenceResponse) :
    (tally'.answered runtime (ρ.case given) (ρ.response said)).unscored =
      (tally.answered runtime given said).unscored := by
  have hsubmitted : (ρ.case given).request.submitted = given.request.submitted.image ρ.rename :=
    ρ.submitted_request given.request
  have hexpected : (ρ.case given).expectedCandidateReferences =
      given.expectedCandidateReferences.image ρ.rename := rfl
  have hmodel : (ρ.response said).modelVersion = said.modelVersion := rfl
  have hprompt : (ρ.response said).promptVersion = said.promptVersion := rfl
  simp only [Tally.unscored, Tally.mk.injEq] at htally
  obtain ⟨htrue, hfalse, hmissed, herrors, hsafety, hcovered, -, hscored, hmodels, hprompts⟩ :=
    htally
  simp only [Tally.unscored, Tally.answered, hsubmitted, hexpected, hmodel, hprompt,
    predicted_response, ← Finset.image_inter _ _ ρ.injective, ← Finset.image_sdiff _ _ ρ.injective,
    Finset.card_image_of_injective _ ρ.injective, Finset.image_nonempty, htrue, hfalse, hmissed,
    herrors, hsafety, hcovered, hscored, hmodels, hprompts]

theorem failed_rename (tally : Tally) (given : EvaluationCase) :
    tally.failed (ρ.case given) = tally.failed given := by
  have hcard : (ρ.case given).expectedCandidateReferences.card =
      given.expectedCandidateReferences.card := Finset.card_image_of_injective _ ρ.injective
  rw [Tally.failed, Tally.failed, hcard]

/-- The squared error is the same as well, if the case is steady. -/
theorem answered_steady {runtime : EvaluationRuntime} {given : EvaluationCase}
    (hsteady : ρ.Steady runtime given) (tally : Tally) (said : AIInferenceResponse) :
    tally.answered runtime (ρ.case given) (ρ.response said) =
      tally.answered runtime given said := by
  have hcounts : (tally.answered runtime (ρ.case given) (ρ.response said)).unscored =
      (tally.answered runtime given said).unscored := ρ.answered_rename runtime rfl given said
  have herror := ρ.addSquaredErrors_rename hsteady said tally.squaredError
  simp only [Tally.unscored, Tally.answered, Tally.mk.injEq] at hcounts
  obtain ⟨htrue, hfalse, hmissed, -, hsafety, hcovered, -, hscored, hmodels, hprompts⟩ := hcounts
  simp only [Tally.answered, htrue, hfalse, hmissed, hsafety, hcovered, hscored, hmodels, hprompts,
    herror]

/-! ### The report -/

/-- The second provider answers what is renamed with what the first one answers, renamed, if they
keep what `R` relates. -/
def Follows {σ τ : Type} (provider : Provider σ) (other : Provider τ) (R : σ → τ → Prop) : Prop :=
  ∀ request s t, R s t →
    (other (ρ.request request) t).1 = ρ.answer (provider request s).1 ∧
      R (provider request s).2 (other (ρ.request request) t).2

variable {ρ} {σ τ : Type} {provider : Provider σ} {other : Provider τ} {R : σ → τ → Prop}

/-- The loop counts the same of renamed cases. -/
theorem takeAll_rename (runtime : EvaluationRuntime) (h : ρ.Follows provider other R)
    {cases : List EvaluationCase} :
    ∀ {tally tally' : Tally} {s : σ} {t : τ}, R s t → tally'.unscored = tally.unscored →
      (Tally.takeAll runtime other tally' (cases.map ρ.case) t).map Tally.unscored =
        (Tally.takeAll runtime provider tally cases s).map Tally.unscored := by
  induction cases with
  | nil =>
    intro tally tally' s t _ htally
    exact congrArg Except.ok htally
  | cons given cases ih =>
    intro tally tally' s t hrelated htally
    obtain ⟨hanswer, hnext⟩ := h given.request s t hrelated
    have hrequest : (ρ.case given).request = ρ.request given.request := rfl
    simp only [List.map_cons, Tally.takeAll, hrequest, hanswer]
    cases (provider given.request s).1 with
    | ok said => exact ih hnext (ρ.answered_rename runtime htally given said)
    | error failure =>
      have hsaid : ρ.answer (.error failure) = .error failure := rfl
      simp only [hsaid, Tally.take_error, failed_rename]
      split
      · refine ih hnext ?_
        simp only [Tally.unscored, Tally.mk.injEq] at htally
        simp [Tally.unscored, Tally.failed, htally]
      · rfl

theorem takeAll_steady {runtime : EvaluationRuntime} (h : ρ.Follows provider other R)
    {cases : List EvaluationCase} :
    ∀ {tally : Tally} {s : σ} {t : τ}, R s t → (∀ given ∈ cases, ρ.Steady runtime given) →
      Tally.takeAll runtime other tally (cases.map ρ.case) t =
        Tally.takeAll runtime provider tally cases s := by
  induction cases with
  | nil =>
    intro tally s t _ _
    rfl
  | cons given cases ih =>
    intro tally s t hrelated hsteady
    obtain ⟨hfirst, hrest⟩ := List.forall_mem_cons.mp hsteady
    obtain ⟨hanswer, hnext⟩ := h given.request s t hrelated
    have hrequest : (ρ.case given).request = ρ.request given.request := rfl
    simp only [List.map_cons, Tally.takeAll, hrequest, hanswer]
    cases (provider given.request s).1 with
    | ok said =>
      have hsaid : ρ.answer (.ok said) = .ok (ρ.response said) := rfl
      simp only [hsaid, Tally.take_ok, answered_steady ρ hfirst]
      exact ih hnext hrest
    | error failure =>
      have hsaid : ρ.answer (.error failure) = .error failure := rfl
      simp only [hsaid, Tally.take_error, failed_rename]
      split
      · exact ih hnext hrest
      · rfl

end Renaming

/-- What a report tells, apart from the Brier score and what depends on it. -/
def EvaluationReport.unscored (report : EvaluationReport) : EvaluationReport :=
  { report with brierScore := ⟨false, 0, -1⟩, passed := false }

namespace Renaming

variable {ρ : Renaming} {σ τ : Type} {provider : Provider σ} {other : Provider τ}
  {R : σ → τ → Prop}

/-- The candidates of two names change places. -/
def swapped (left right : { reference : String // isTextWithin 200 reference = true }) :
    Renaming where
  rename := Equiv.swap left.1 right.1
  injective := (Equiv.swap left.1 right.1).injective
  valid {reference} h := by
    rw [Equiv.swap_apply_def]
    split
    · exact right.2
    · split
      · exact left.2
      · exact h

end Renaming

end ReconcileFlow.AI
