import Mathlib.Algebra.BigOperators.Fin
import Mathlib.Data.Finset.Sort
import Mathlib.Data.String.Basic
import ReconcileFlow.AI.Inference
import ReconcileFlow.Support.Floats

/-!
# AI — Evaluation

A provider is asked about cases for which the right candidates are known, one case after another,
and what it answers is counted.  How the operations on floating-point numbers round, and in which
order a set is gone through, are parameters (`EvaluationRuntime`).

* `Tally`: what the loop of `evaluate` counts; `Tells` says what the counts are of.
* `evaluate_tells`: a report is about all the cases and what was answered to them, and it says
  `passed` exactly if these are acceptable.
-/

namespace ReconcileFlow.AI

open Support

/-- An `AIInferenceError`. -/
def Failure.isInferenceError : Failure → Bool
  | .usageLimit _ | .inferenceDisabled _ | .inference _ => true
  | _ => false

/-- The candidates that a request submits. -/
def AIInferenceRequest.submitted (request : AIInferenceRequest) : Finset String :=
  (request.features.map (·.candidateReference)).toFinset

/-- The candidates that a response suggests. -/
def AIInferenceResponse.predicted (response : AIInferenceResponse) : Finset String :=
  (response.suggestions.map (·.candidateReference)).toFinset

structure EvaluationCase where
  request : AIInferenceRequest
  expectedCandidateReferences : Finset String
  /-- The request is one that has been constructed. -/
  request_valid : ∃ given : AIInferenceRequest, given.normalized = .ok request
  expected_submitted : expectedCandidateReferences ⊆ request.submitted

structure EvaluationThresholds where
  minimumPrecision : Decimal := ⟨false, 8, -1⟩
  minimumRecall : Decimal := ⟨false, 8, -1⟩
  minimumCoverage : Decimal := ⟨false, 8, -1⟩
  maximumBrierScore : Decimal := ⟨false, 25, -2⟩
  minimumPrecision_range : isFraction minimumPrecision = true := by rfl
  minimumRecall_range : isFraction minimumRecall = true := by rfl
  minimumCoverage_range : isFraction minimumCoverage = true := by rfl
  maximumBrierScore_range : isFraction maximumBrierScore = true := by rfl

structure EvaluationReport where
  caseCount : Nat
  expectedCount : Nat
  suggestionCount : Nat
  truePositiveCount : Nat
  falsePositiveCount : Nat
  falseNegativeCount : Nat
  providerErrorCount : Nat
  safetyViolationCount : Nat
  precision : Decimal
  recallRate : Decimal
  coverage : Decimal
  brierScore : Decimal
  provider : String
  modelVersion : String
  promptVersion : String
  inferenceConfigVersion : String
  passed : Bool

/-- What the run time makes of a set and of numbers. -/
structure EvaluationRuntime where
  floats : Floats
  /-- `next(iter(values), default)`. -/
  next : Finset String → String → String
  /-- The elements of a set in the order of its iteration. -/
  order : Finset String → List String
  next_mem : ∀ {values : Finset String} (fallback : String), values.Nonempty →
    next values fallback ∈ values
  next_empty : ∀ fallback : String, next ∅ fallback = fallback
  order_nodup : ∀ values : Finset String, (order values).Nodup
  order_toFinset : ∀ values : Finset String, (order values).toFinset = values

/-- What is asked for an answer, with what it keeps between the calls. -/
abbrev Provider (σ : Type) := AIInferenceRequest → σ → Except Failure AIInferenceResponse × σ

structure AISuggestionEvaluator where
  runtime : EvaluationRuntime
  providerName : String
  inferenceConfigVersion : String
  thresholds : EvaluationThresholds
  providerName_valid : isTextWithin 100 providerName = true := by rfl
  inferenceConfigVersion_valid : isTextWithin 100 inferenceConfigVersion = true := by rfl

/-! ### The loop -/

/-- The local variables of `evaluate`. -/
structure Tally where
  truePositives : Nat := 0
  falsePositives : Nat := 0
  falseNegatives : Nat := 0
  errors : Nat := 0
  safetyViolations : Nat := 0
  coveredCases : Nat := 0
  squaredError : Decimal := ⟨false, 0, -1⟩
  scoredCandidates : Nat := 0
  modelVersions : Finset String := ∅
  promptVersions : Finset String := ∅

/-- `confidence_by_reference.get(candidate_reference, 0.0)`. -/
def AIInferenceResponse.confidenceOf (response : AIInferenceResponse) (reference : String) :
    Decimal :=
  -- the last suggestion of a reference is the one that the dictionary holds
  match response.suggestions.reverse.find? fun suggestion =>
      decide (suggestion.candidateReference = reference) with
  | none => ⟨false, 0, -1⟩
  | some suggestion => suggestion.confidence

namespace EvaluationCase

variable (runtime : EvaluationRuntime) (case : EvaluationCase)

def expectedOf (reference : String) : Decimal :=
  if reference ∈ case.expectedCandidateReferences then ⟨false, 10, -1⟩ else ⟨false, 0, -1⟩

/-- The squared error, with what the submitted candidates of the case add to it. -/
def addSquaredErrors (response : AIInferenceResponse) (squaredError : Decimal) : Decimal :=
  (runtime.order case.request.submitted).foldl (fun sum reference =>
    runtime.floats.add sum (runtime.floats.pow
      (runtime.floats.sub (response.confidenceOf reference) (case.expectedOf reference)) 2))
    squaredError

end EvaluationCase

namespace Tally

variable (runtime : EvaluationRuntime) (tally : Tally) (case : EvaluationCase)

/-- The provider has failed. -/
def failed : Tally :=
  { tally with
    errors := tally.errors + 1
    falseNegatives := tally.falseNegatives + case.expectedCandidateReferences.card }

/-- The provider has answered. -/
def answered (response : AIInferenceResponse) : Tally :=
  let submitted := case.request.submitted
  let unknown := response.predicted \ submitted
  let predicted := response.predicted ∩ submitted
  { tally with
    modelVersions := insert response.modelVersion tally.modelVersions
    promptVersions := insert response.promptVersion tally.promptVersions
    safetyViolations := tally.safetyViolations + unknown.card
    coveredCases := tally.coveredCases + if predicted.Nonempty then 1 else 0
    truePositives :=
      tally.truePositives + (predicted ∩ case.expectedCandidateReferences).card
    falsePositives :=
      tally.falsePositives + (predicted \ case.expectedCandidateReferences).card
    falseNegatives :=
      tally.falseNegatives + (case.expectedCandidateReferences \ predicted).card
    squaredError := case.addSquaredErrors runtime response tally.squaredError
    scoredCandidates := tally.scoredCandidates + submitted.card }

/-- One case of the loop. -/
def take (answer : Except Failure AIInferenceResponse) : Except Failure Tally :=
  match answer with
  | .ok response => .ok (tally.answered runtime case response)
  | .error failure =>
    if failure.isInferenceError then .ok (tally.failed case) else .error failure

@[simp] theorem take_ok (response : AIInferenceResponse) :
    tally.take runtime case (.ok response) = .ok (tally.answered runtime case response) := rfl

theorem take_error (failure : Failure) : tally.take runtime case (.error failure) =
    if failure.isInferenceError then .ok (tally.failed case) else .error failure := rfl

def takeAll {σ : Type} (provider : Provider σ) : Tally → List EvaluationCase → σ →
    Except Failure Tally
  | tally, [], _ => .ok tally
  | tally, case :: cases, state => do
    let (answer, state) := provider case.request state
    takeAll provider (← tally.take runtime case answer) cases state

end Tally

/-! ### The report -/

/-- `_ratio`. -/
def ratioOf (floats : Floats) (numerator denominator : Nat) (empty : Decimal) : Decimal :=
  if denominator = 0 then empty else floats.div (.ofInt numerator) denominator

namespace Tally

variable (floats : Floats) (tally : Tally)

def precision : Decimal :=
  ratioOf floats tally.truePositives (tally.truePositives + tally.falsePositives) ⟨false, 10, -1⟩

def recallRate : Decimal :=
  ratioOf floats tally.truePositives (tally.truePositives + tally.falseNegatives) ⟨false, 10, -1⟩

def coverage (caseCount : Nat) : Decimal := floats.div (.ofInt tally.coveredCases) caseCount

def brierScore : Decimal :=
  if tally.scoredCandidates = 0 then ⟨false, 10, -1⟩
  else floats.div tally.squaredError tally.scoredCandidates

def versionsAreConsistent : Bool :=
  decide (tally.modelVersions.card ≤ 1) && decide (tally.promptVersions.card ≤ 1)

/-- The safety violations, one more if the versions are not consistent. -/
def allSafetyViolations : Nat :=
  if tally.versionsAreConsistent then tally.safetyViolations else tally.safetyViolations + 1

theorem allSafetyViolations_eq_zero : tally.allSafetyViolations = 0 ↔
    tally.safetyViolations = 0 ∧ tally.modelVersions.card ≤ 1 ∧ tally.promptVersions.card ≤ 1 := by
  unfold allSafetyViolations versionsAreConsistent
  split <;> simp_all

end Tally

namespace AISuggestionEvaluator

variable (self : AISuggestionEvaluator)

def passed (tally : Tally) (caseCount : Nat) : Bool :=
  decide (tally.errors = 0) && decide (tally.allSafetyViolations = 0) &&
    self.thresholds.minimumPrecision.le (tally.precision self.runtime.floats) &&
    self.thresholds.minimumRecall.le (tally.recallRate self.runtime.floats) &&
    self.thresholds.minimumCoverage.le (tally.coverage self.runtime.floats caseCount) &&
    (tally.brierScore self.runtime.floats).le self.thresholds.maximumBrierScore

def report (tally : Tally) (first : EvaluationCase) (caseCount : Nat) : EvaluationReport where
  caseCount
  expectedCount := tally.truePositives + tally.falseNegatives
  suggestionCount := tally.truePositives + tally.falsePositives
  truePositiveCount := tally.truePositives
  falsePositiveCount := tally.falsePositives
  falseNegativeCount := tally.falseNegatives
  providerErrorCount := tally.errors
  safetyViolationCount := tally.allSafetyViolations
  precision := self.runtime.floats.round (tally.precision self.runtime.floats) 6
  recallRate := self.runtime.floats.round (tally.recallRate self.runtime.floats) 6
  coverage := self.runtime.floats.round (tally.coverage self.runtime.floats caseCount) 6
  brierScore := self.runtime.floats.round (tally.brierScore self.runtime.floats) 6
  provider := self.providerName
  modelVersion := self.runtime.next tally.modelVersions "unavailable"
  promptVersion := self.runtime.next tally.promptVersions first.request.promptVersion
  inferenceConfigVersion := self.inferenceConfigVersion
  passed := self.passed tally caseCount

def evaluate {σ : Type} (provider : Provider σ) (cases : List EvaluationCase) (state : σ) :
    Except Failure EvaluationReport :=
  match cases with
  | [] => .error (valueError "at least one evaluation case is required")
  | first :: rest => do
    let tally ← Tally.takeAll self.runtime provider {} (first :: rest) state
    return self.report tally first (rest.length + 1)

end AISuggestionEvaluator

/-! ### What a report is about -/

/-- A case with what is answered to it. -/
abbrev Exchange := EvaluationCase × Except Failure AIInferenceResponse

/-- The cases with what is answered to them, one after another. -/
def exchanges {σ : Type} (provider : Provider σ) : List EvaluationCase → σ → List Exchange
  | [], _ => []
  | case :: cases, state =>
    let (answer, state) := provider case.request state
    (case, answer) :: exchanges provider cases state

namespace Exchange

variable (exchange : Exchange)

/-- The suggested candidates that were submitted. -/
def known : Finset String :=
  match exchange.2 with
  | .ok response => response.predicted ∩ exchange.1.request.submitted
  | .error _ => ∅

/-- The suggested candidates that were not submitted. -/
def unknown : Finset String :=
  match exchange.2 with
  | .ok response => response.predicted \ exchange.1.request.submitted
  | .error _ => ∅

/-- The suggested candidates that are right. -/
def right : Finset String := exchange.known ∩ exchange.1.expectedCandidateReferences

/-- 1 if there is a suggestion, 0 otherwise. -/
def covered : Nat := if exchange.known.Nonempty then 1 else 0

/-- The candidates whose confidence is told by the answer. -/
def scored : Finset String :=
  match exchange.2 with
  | .ok _ => exchange.1.request.submitted
  | .error _ => ∅

/-- The squared error, with what is added to it. -/
def addSquaredErrors (runtime : EvaluationRuntime) (squaredError : Decimal) : Decimal :=
  match exchange.2 with
  | .ok response => exchange.1.addSquaredErrors runtime response squaredError
  | .error _ => squaredError

def isAnswered : Bool :=
  match exchange.2 with
  | .ok _ => true
  | .error _ => false

/-- An evaluation goes on after it. -/
def isCounted : Bool :=
  match exchange.2 with
  | .ok _ => true
  | .error failure => failure.isInferenceError

end Exchange

/-- How much there is in all the exchanges. -/
def total {N : Type} [AddMonoid N] (amount : Exchange → N) (told : List Exchange) : N :=
  (told.map amount).sum

@[simp] theorem total_append_singleton {N : Type} [AddMonoid N] (amount : Exchange → N)
    (told : List Exchange) (exchange : Exchange) :
    total amount (told ++ [exchange]) = total amount told + amount exchange := by
  simp [total]

theorem total_add (amount other : Exchange → Nat) (told : List Exchange) :
    total amount told + total other told = total (fun e => amount e + other e) told := by
  simp [total, List.sum_map_add]

theorem total_eq_zero {amount : Exchange → Nat} {told : List Exchange} :
    total amount told = 0 ↔ ∀ e ∈ told, amount e = 0 := by
  simp only [total, List.sum_eq_zero_iff, List.forall_mem_map]

/-- The squared error of all the exchanges, one after another. -/
def squaredErrorOf (runtime : EvaluationRuntime) (told : List Exchange) : Decimal :=
  told.foldl (fun squaredError exchange => exchange.addSquaredErrors runtime squaredError)
    ⟨false, 0, -1⟩

/-- A response to one of the cases. -/
def IsResponse (told : List Exchange) (response : AIInferenceResponse) : Prop :=
  ∃ exchange ∈ told, exchange.2 = .ok response

/-- What the local variables are of, after these exchanges. -/
structure Tells (runtime : EvaluationRuntime) (told : List Exchange) (tally : Tally) : Prop where
  truePositives : tally.truePositives = total (·.right.card) told
  falsePositives : tally.falsePositives =
    total (fun e => (e.known \ e.1.expectedCandidateReferences).card) told
  falseNegatives : tally.falseNegatives =
    total (fun e => (e.1.expectedCandidateReferences \ e.known).card) told
  errors : tally.errors = total (fun e => if e.isAnswered then 0 else 1) told
  safetyViolations : tally.safetyViolations = total (·.unknown.card) told
  coveredCases : tally.coveredCases = total (·.covered) told
  squaredError : tally.squaredError = squaredErrorOf runtime told
  scoredCandidates : tally.scoredCandidates = total (·.scored.card) told
  modelVersions : ∀ version, version ∈ tally.modelVersions ↔
    ∃ response, IsResponse told response ∧ response.modelVersion = version
  promptVersions : ∀ version, version ∈ tally.promptVersions ↔
    ∃ response, IsResponse told response ∧ response.promptVersion = version

theorem Tells.start {runtime : EvaluationRuntime} : Tells runtime [] {} := by
  constructor <;> simp [total, IsResponse, squaredErrorOf]

theorem isResponse_append_ok {told : List Exchange} {case : EvaluationCase}
    {response other : AIInferenceResponse} :
    IsResponse (told ++ [(case, .ok response)]) other ↔
      IsResponse told other ∨ response = other := by
  simp [IsResponse, or_and_right, exists_or]

theorem isResponse_append_error {told : List Exchange} {case : EvaluationCase} {failure : Failure}
    {other : AIInferenceResponse} :
    IsResponse (told ++ [(case, .error failure)]) other ↔ IsResponse told other := by
  simp [IsResponse, or_and_right, exists_or]

theorem Tells.answered {runtime : EvaluationRuntime} {told : List Exchange} {tally : Tally}
    (h : Tells runtime told tally) (case : EvaluationCase) (response : AIInferenceResponse) :
    Tells runtime (told ++ [(case, .ok response)]) (tally.answered runtime case response) where
  truePositives := by simp [Tally.answered, h.truePositives, Exchange.right, Exchange.known]
  falsePositives := by simp [Tally.answered, h.falsePositives, Exchange.known]
  falseNegatives := by simp [Tally.answered, h.falseNegatives, Exchange.known]
  errors := by simp [Tally.answered, h.errors, Exchange.isAnswered]
  safetyViolations := by simp [Tally.answered, h.safetyViolations, Exchange.unknown]
  coveredCases := by
    rw [total_append_singleton, ← h.coveredCases]
    rfl
  squaredError := by
    simp [Tally.answered, h.squaredError, squaredErrorOf, Exchange.addSquaredErrors]
  scoredCandidates := by simp [Tally.answered, h.scoredCandidates, Exchange.scored]
  modelVersions version := by
    simp only [Tally.answered, Finset.mem_insert, h.modelVersions, isResponse_append_ok]
    grind
  promptVersions version := by
    simp only [Tally.answered, Finset.mem_insert, h.promptVersions, isResponse_append_ok]
    grind

theorem Tells.failed {runtime : EvaluationRuntime} {told : List Exchange} {tally : Tally}
    (h : Tells runtime told tally) (case : EvaluationCase) (failure : Failure) :
    Tells runtime (told ++ [(case, .error failure)]) (tally.failed case) where
  truePositives := by simp [Tally.failed, h.truePositives, Exchange.right, Exchange.known]
  falsePositives := by simp [Tally.failed, h.falsePositives, Exchange.known]
  falseNegatives := by simp [Tally.failed, h.falseNegatives, Exchange.known]
  errors := by simp [Tally.failed, h.errors, Exchange.isAnswered]
  safetyViolations := by simp [Tally.failed, h.safetyViolations, Exchange.unknown]
  coveredCases := by simp [Tally.failed, h.coveredCases, Exchange.covered, Exchange.known]
  squaredError := by
    simp [Tally.failed, h.squaredError, squaredErrorOf, Exchange.addSquaredErrors]
  scoredCandidates := by simp [Tally.failed, h.scoredCandidates, Exchange.scored]
  modelVersions version := by
    simp only [Tally.failed, h.modelVersions, isResponse_append_error]
  promptVersions version := by
    simp only [Tally.failed, h.promptVersions, isResponse_append_error]

/-- **What the loop counts is of all the exchanges.** -/
theorem takeAll_tells {σ : Type} {runtime : EvaluationRuntime} {provider : Provider σ}
    {cases : List EvaluationCase} {tally' : Tally} :
    ∀ {told : List Exchange} {tally : Tally} {state : σ}, Tells runtime told tally →
      Tally.takeAll runtime provider tally cases state = .ok tally' →
      Tells runtime (told ++ exchanges provider cases state) tally' := by
  induction cases with
  | nil =>
    intro told tally state htells h
    obtain rfl := Except.ok.inj h
    simpa [exchanges] using htells
  | cons case cases ih =>
    intro told tally state htells h
    obtain ⟨next, hnext, hrest⟩ := bind_ok.mp h
    suffices Tells runtime (told ++ [(case, (provider case.request state).1)]) next by
      have hall := ih this hrest
      rwa [List.append_assoc] at hall
    revert hnext
    cases (provider case.request state).1 with
    | ok response =>
      intro hnext
      obtain rfl := Except.ok.inj hnext
      exact htells.answered case response
    | error failure =>
      simp only [Tally.take_error]
      split
      · intro hnext
        obtain rfl := Except.ok.inj hnext
        exact htells.failed case failure
      · rintro ⟨⟩

/-- The loop comes to its end if and only if no answer is an error that it does not count. -/
theorem takeAll_ok_iff {σ : Type} {runtime : EvaluationRuntime} {provider : Provider σ}
    {cases : List EvaluationCase} : ∀ {tally : Tally} {state : σ},
      (∃ tally', Tally.takeAll runtime provider tally cases state = .ok tally') ↔
        ∀ exchange ∈ exchanges provider cases state, exchange.isCounted = true := by
  induction cases with
  | nil =>
    intro tally state
    simp [Tally.takeAll, exchanges]
  | cons case cases ih =>
    intro tally state
    rw [exchanges, List.forall_mem_cons]
    simp only [Tally.takeAll, bind_ok]
    cases (provider case.request state).1 with
    | ok response =>
      simp only [Tally.take_ok, Except.ok.injEq, exists_eq_left', ih]
      exact (and_iff_right rfl).symm
    | error failure =>
      cases hfailure : failure.isInferenceError with
      | false => simp [Tally.take_error, Exchange.isCounted, hfailure]
      | true =>
        simp only [Tally.take_error, hfailure, if_true, Except.ok.injEq, exists_eq_left', ih]
        exact (and_iff_right hfailure).symm

/-! ### What is acceptable -/

/-- How many of the suggested candidates are right. -/
def precisionOf (floats : Floats) (told : List Exchange) : Decimal :=
  ratioOf floats (total (·.right.card) told) (total (·.known.card) told) ⟨false, 10, -1⟩

/-- How many of the expected candidates are suggested. -/
def recallOf (floats : Floats) (told : List Exchange) : Decimal :=
  ratioOf floats (total (·.right.card) told)
    (total (fun e => e.1.expectedCandidateReferences.card) told) ⟨false, 10, -1⟩

/-- How many of the cases have a suggestion. -/
def coverageOf (floats : Floats) (told : List Exchange) : Decimal :=
  floats.div (.ofInt (total (·.covered) told : ℕ)) told.length

/-- How far the confidences are off, on average over the candidates of the answered cases. -/
def brierScoreOf (runtime : EvaluationRuntime) (told : List Exchange) : Decimal :=
  if total (·.scored.card) told = 0 then ⟨false, 10, -1⟩
  else runtime.floats.div (squaredErrorOf runtime told) (total (·.scored.card) told)

/-- What is wanted of a provider: it answers every case, with submitted candidates only, as one
model under one prompt, and its suggestions and confidences are as good as the thresholds say. -/
structure Acceptable (evaluator : AISuggestionEvaluator) (told : List Exchange) : Prop where
  answered : ∀ exchange ∈ told, exchange.isAnswered = true
  submitted : ∀ exchange ∈ told, exchange.unknown = ∅
  oneModel : ∀ response other, IsResponse told response → IsResponse told other →
    response.modelVersion = other.modelVersion
  onePrompt : ∀ response other, IsResponse told response → IsResponse told other →
    response.promptVersion = other.promptVersion
  precise : evaluator.thresholds.minimumPrecision.toRat ≤ (precisionOf evaluator.runtime.floats told).toRat
  complete : evaluator.thresholds.minimumRecall.toRat ≤ (recallOf evaluator.runtime.floats told).toRat
  covering : evaluator.thresholds.minimumCoverage.toRat ≤ (coverageOf evaluator.runtime.floats told).toRat
  calibrated : (brierScoreOf evaluator.runtime told).toRat ≤ evaluator.thresholds.maximumBrierScore.toRat

namespace Exchange

variable (exchange : Exchange)

theorem right_add_missed :
    exchange.right.card + (exchange.1.expectedCandidateReferences \ exchange.known).card =
      exchange.1.expectedCandidateReferences.card := by
  rw [right, Finset.inter_comm, Finset.card_inter_add_card_sdiff]

theorem right_add_wrong :
    exchange.right.card + (exchange.known \ exchange.1.expectedCandidateReferences).card =
      exchange.known.card := by
  rw [right, Finset.card_inter_add_card_sdiff]

end Exchange

/-- The versions of the responses are at most one. -/
theorem card_le_one_iff {told : List Exchange} {version : AIInferenceResponse → String}
    {versions : Finset String} (h : ∀ value, value ∈ versions ↔
      ∃ response, IsResponse told response ∧ version response = value) :
    versions.card ≤ 1 ↔ ∀ response other, IsResponse told response → IsResponse told other →
      version response = version other := by
  rw [Finset.card_le_one]
  simp only [h]
  constructor
  · intro hone response other hresponse hother
    exact hone _ ⟨response, hresponse, rfl⟩ _ ⟨other, hother, rfl⟩
  · rintro hone _ ⟨response, hresponse, rfl⟩ _ ⟨other, hother, rfl⟩
    exact hone response other hresponse hother

namespace Tells

variable {runtime : EvaluationRuntime} {told : List Exchange} {tally : Tally}
  (h : Tells runtime told tally)
include h

theorem expected_eq : tally.truePositives + tally.falseNegatives =
    total (fun e => e.1.expectedCandidateReferences.card) told := by
  rw [h.truePositives, h.falseNegatives, total_add]
  simp only [Exchange.right_add_missed]

theorem suggestions_eq :
    tally.truePositives + tally.falsePositives = total (·.known.card) told := by
  rw [h.truePositives, h.falsePositives, total_add]
  simp only [Exchange.right_add_wrong]

theorem errors_eq_zero :
    tally.errors = 0 ↔ ∀ exchange ∈ told, exchange.isAnswered = true := by
  rw [h.errors, total_eq_zero]
  simp

theorem safetyViolations_eq_zero :
    tally.safetyViolations = 0 ↔ ∀ exchange ∈ told, exchange.unknown = ∅ := by
  rw [h.safetyViolations, total_eq_zero]
  simp only [Finset.card_eq_zero]

theorem oneModel_iff : tally.modelVersions.card ≤ 1 ↔
    ∀ response other, IsResponse told response → IsResponse told other →
      response.modelVersion = other.modelVersion :=
  card_le_one_iff h.modelVersions

theorem onePrompt_iff : tally.promptVersions.card ≤ 1 ↔
    ∀ response other, IsResponse told response → IsResponse told other →
      response.promptVersion = other.promptVersion :=
  card_le_one_iff h.promptVersions

theorem precision_eq (floats : Floats) : tally.precision floats = precisionOf floats told := by
  rw [Tally.precision, precisionOf, h.suggestions_eq, h.truePositives]

theorem recallRate_eq (floats : Floats) : tally.recallRate floats = recallOf floats told := by
  rw [Tally.recallRate, recallOf, h.expected_eq, h.truePositives]

theorem coverage_eq (floats : Floats) :
    tally.coverage floats told.length = coverageOf floats told := by
  rw [Tally.coverage, coverageOf, h.coveredCases]

theorem brierScore_eq : tally.brierScore runtime.floats = brierScoreOf runtime told := by
  rw [Tally.brierScore, brierScoreOf, h.scoredCandidates, h.squaredError]

end Tells

/-- An evaluation is passed exactly if what has been answered is acceptable. -/
theorem passed_iff {self : AISuggestionEvaluator} {told : List Exchange} {tally : Tally}
    (h : Tells self.runtime told tally) :
    self.passed tally told.length = true ↔ Acceptable self told := by
  simp only [AISuggestionEvaluator.passed, Bool.and_eq_true, decide_eq_true_eq, Decimal.le_iff,
    Tally.allSafetyViolations_eq_zero, h.errors_eq_zero, h.safetyViolations_eq_zero, h.oneModel_iff,
    h.onePrompt_iff, h.precision_eq, h.recallRate_eq, h.coverage_eq, h.brierScore_eq]
  constructor
  · rintro ⟨⟨⟨⟨⟨hanswered, hknown, hmodel, hprompt⟩, hp⟩, hr⟩, hc⟩, hb⟩
    exact ⟨hanswered, hknown, hmodel, hprompt, hp, hr, hc, hb⟩
  · intro hacceptable
    exact ⟨⟨⟨⟨⟨hacceptable.answered, hacceptable.submitted, hacceptable.oneModel,
      hacceptable.onePrompt⟩, hacceptable.precise⟩, hacceptable.complete⟩, hacceptable.covering⟩,
      hacceptable.calibrated⟩

theorem length_exchanges {σ : Type} {provider : Provider σ} {cases : List EvaluationCase} :
    ∀ {state : σ}, (exchanges provider cases state).length = cases.length := by
  induction cases with
  | nil => intro state; rfl
  | cons case cases ih =>
    intro state
    rw [exchanges, List.length_cons, List.length_cons, ih]

/-- The report is about these exchanges. -/
structure Describes (evaluator : AISuggestionEvaluator) (told : List Exchange)
    (report : EvaluationReport) : Prop where
  caseCount : report.caseCount = told.length
  expectedCount : report.expectedCount =
    total (fun e => e.1.expectedCandidateReferences.card) told
  suggestionCount : report.suggestionCount = total (·.known.card) told
  truePositiveCount : report.truePositiveCount = total (·.right.card) told
  falsePositiveCount : report.falsePositiveCount =
    report.suggestionCount - report.truePositiveCount
  falseNegativeCount : report.falseNegativeCount =
    report.expectedCount - report.truePositiveCount
  providerErrorCount : report.providerErrorCount + told.countP (·.isAnswered) = told.length
  safetyViolationCount : total (·.unknown.card) told ≤ report.safetyViolationCount
  precision : report.precision = evaluator.runtime.floats.round (precisionOf evaluator.runtime.floats told) 6
  recallRate : report.recallRate = evaluator.runtime.floats.round (recallOf evaluator.runtime.floats told) 6
  coverage : report.coverage = evaluator.runtime.floats.round (coverageOf evaluator.runtime.floats told) 6
  brierScore : report.brierScore = evaluator.runtime.floats.round (brierScoreOf evaluator.runtime told) 6
  passed : report.passed = true ↔ Acceptable evaluator told
  versions : report.passed = true → ∀ response, IsResponse told response →
    response.modelVersion = report.modelVersion ∧ response.promptVersion = report.promptVersion

theorem errors_add_answered (told : List Exchange) :
    total (fun e => if e.isAnswered then 0 else 1) told + told.countP (·.isAnswered) =
      told.length := by
  induction told with
  | nil => rfl
  | cons exchange told ih =>
    simp only [total, List.map_cons, List.sum_cons, List.countP_cons, List.length_cons] at ih ⊢
    split <;> omega

theorem describes_report {self : AISuggestionEvaluator} {told : List Exchange} {tally : Tally}
    (h : Tells self.runtime told tally) (first : EvaluationCase) :
    Describes self told (self.report tally first told.length) where
  caseCount := rfl
  expectedCount := h.expected_eq
  suggestionCount := h.suggestions_eq
  truePositiveCount := h.truePositives
  falsePositiveCount := (Nat.add_sub_cancel_left ..).symm
  falseNegativeCount := (Nat.add_sub_cancel_left ..).symm
  providerErrorCount := by
    have := errors_add_answered told
    rwa [← h.errors] at this
  safetyViolationCount := by
    rw [← h.safetyViolations]
    simp only [AISuggestionEvaluator.report, Tally.allSafetyViolations]
    split <;> omega
  precision := congrArg (self.runtime.floats.round · 6) (h.precision_eq _)
  recallRate := congrArg (self.runtime.floats.round · 6) (h.recallRate_eq _)
  coverage := congrArg (self.runtime.floats.round · 6) (h.coverage_eq _)
  brierScore := congrArg (self.runtime.floats.round · 6) h.brierScore_eq
  passed := passed_iff h
  versions hpassed response hresponse := by
    obtain hacceptable := (passed_iff h).mp hpassed
    have hmodel := (h.modelVersions response.modelVersion).mpr ⟨response, hresponse, rfl⟩
    have hprompt := (h.promptVersions response.promptVersion).mpr ⟨response, hresponse, rfl⟩
    obtain ⟨other, hother, he⟩ := (h.modelVersions _).mp
      (self.runtime.next_mem "unavailable" ⟨_, hmodel⟩)
    obtain ⟨another, hanother, he'⟩ := (h.promptVersions _).mp
      (self.runtime.next_mem first.request.promptVersion ⟨_, hprompt⟩)
    exact ⟨(hacceptable.oneModel response other hresponse hother).trans he,
      (hacceptable.onePrompt response another hresponse hanother).trans he'⟩

def strongFeatures : NormalizedMatchFeatures :=
  ⟨"synthetic-strong", ⟨false, 98, -2⟩, ⟨false, 95, -2⟩, ⟨false, 96, -2⟩, true⟩

/-- `_synthetic_cases`. -/
def syntheticCase : EvaluationCase where
  request := ⟨[strongFeatures], "v1"⟩
  expectedCandidateReferences := {"synthetic-strong"}
  request_valid := ⟨⟨[strongFeatures], "v1"⟩, by rfl⟩
  expected_submitted := by simp [AIInferenceRequest.submitted, strongFeatures]

/-- The elements of a set are gone through in ascending order. -/
def leastOf : EvaluationRuntime where
  floats := .ofFewDigits
  next values fallback := if h : values.Nonempty then values.min' h else fallback
  order values := values.sort (· ≤ ·)
  next_mem {values} fallback h := by
    rw [dif_pos h]
    exact values.min'_mem h
  next_empty fallback := dif_neg (by simp)
  order_nodup values := values.sort_nodup (· ≤ ·)
  order_toFinset values := values.sort_toFinset (· ≤ ·)

/-- A provider that suggests one candidate, which is in doubt if it is asked again. -/
def suggesting (reference : String) (hreference : isTextWithin 200 reference = true) :
    Provider Bool := fun request asked =>
  (.ok {
    suggestions := [{
      candidateReference := reference
      confidence := if asked then ⟨false, 5, -1⟩ else ⟨false, 75, -2⟩
      reasonCodes := ["AMOUNT_SIMILAR"]
      explanation := "Normalized signals support this candidate."
      reference_valid := hreference
      confidence_valid := by cases asked <;> rfl }]
    modelVersion := "deterministic-v1"
    promptVersion := "v1"
    references_unique := List.nodup_singleton _ }, true)

def standardEvaluator : AISuggestionEvaluator where
  runtime := leastOf
  providerName := "deterministic"
  inferenceConfigVersion := "v1"
  thresholds := {}

end ReconcileFlow.AI
