import ReconcileFlow.AI.Usage
import ReconcileFlow.Support.Decimal

/-!
# AI — Inference

What is sent to an inference provider and what it may answer, with what the types of both accept.
A floating-point number is told by its `repr`, as a decimal.
-/

namespace ReconcileFlow.AI

open Support

/-- A `ValueError`. -/
def valueError (message : String) : Failure := .database (.value message)

/-- Raises `e` unless `p`. -/
def raiseUnless (p : Prop) [Decidable p] (e : Failure) : Except Failure Unit :=
  if p then .ok () else .error e

@[simp] theorem raiseUnless_ok {p : Prop} [Decidable p] {e : Failure} {u : Unit} :
    raiseUnless p e = .ok u ↔ p := by
  unfold raiseUnless
  by_cases hp : p <;> simp [hp]

/-- A computation that returned did so step by step. -/
@[simp] theorem bind_ok {α β : Type} {x : Except Failure α} {f : α → Except Failure β} {b : β} :
    x >>= f = .ok b ↔ ∃ a, x = .ok a ∧ f a = .ok b := by
  cases x <;> simp [bind, Except.bind]

/-- A number between 0 and 1. -/
def isFraction (value : Decimal) : Bool := (Decimal.ofInt 0).le value && value.le (.ofInt 1)

theorem isFraction_iff {value : Decimal} :
    isFraction value = true ↔ 0 ≤ value.toRat ∧ value.toRat ≤ 1 := by
  rw [isFraction, Bool.and_eq_true, Decimal.le_iff, Decimal.le_iff, Decimal.toRat_zero,
    Decimal.toRat_one]

/-- A text that is not blank, without spaces around it, of at most so many characters. -/
def isTextWithin (maximum : Nat) (value : String) : Bool :=
  isText value && decide (value.length ≤ maximum)

/-- Minimized derived features; source records and business text are excluded. -/
structure NormalizedMatchFeatures where
  candidateReference : String
  amountSimilarity : Decimal
  dateSimilarity : Decimal
  referenceSimilarity : Decimal
  currencyMatches : Bool
deriving DecidableEq

namespace NormalizedMatchFeatures

/-- `__post_init__`. -/
def normalized (features : NormalizedMatchFeatures) : Except Failure NormalizedMatchFeatures := do
  let reference := strip features.candidateReference
  raiseUnless (reference ≠ "" ∧ reference.length ≤ 200)
    (valueError "candidate_reference must be nonblank and at most 200 characters")
  let checkFraction (name : String) (value : Decimal) : Except Failure Unit :=
    raiseUnless (isFraction value = true)
      (valueError (name ++ " must be a finite number between 0 and 1"))
  checkFraction "amount_similarity" features.amountSimilarity
  checkFraction "date_similarity" features.dateSimilarity
  checkFraction "reference_similarity" features.referenceSimilarity
  return { features with candidateReference := reference }

end NormalizedMatchFeatures

structure AIInferenceRequest where
  features : List NormalizedMatchFeatures
  promptVersion : String

/-- `__post_init__`. -/
def AIInferenceRequest.normalized (request : AIInferenceRequest) :
    Except Failure AIInferenceRequest := do
  raiseUnless (request.features ≠ []) (valueError "at least one candidate feature set is required")
  raiseUnless (request.features.map (·.candidateReference)).Nodup
    (valueError "candidate references must be unique")
  let promptVersion := strip request.promptVersion
  raiseUnless (promptVersion ≠ "" ∧ promptVersion.length ≤ 100)
    (valueError "prompt_version must be nonblank and at most 100 characters")
  return { request with promptVersion }

/-- `re.fullmatch(r"[A-Z][A-Z0-9_]{0,49}", code)`. -/
def isReasonCode (code : String) : Bool :=
  match code.toList with
  | [] => false
  | first :: rest =>
    decide ('A' ≤ first ∧ first ≤ 'Z') && decide (rest.length ≤ 49) && rest.all fun c =>
      decide ('A' ≤ c ∧ c ≤ 'Z') || decide ('0' ≤ c ∧ c ≤ '9') || decide (c = '_')

structure AIInferenceSuggestion where
  candidateReference : String
  confidence : Decimal
  reasonCodes : List String
  explanation : String
  reference_valid : isTextWithin 200 candidateReference = true := by decide
  confidence_valid : isFraction confidence = true := by decide
  explanation_valid : isTextWithin 500 explanation = true := by decide
  reasonCodes_valid : reasonCodes ≠ [] ∧ reasonCodes.length ≤ 10 ∧
    ∀ code ∈ reasonCodes, isReasonCode code = true := by decide

structure AIInferenceResponse where
  suggestions : List AIInferenceSuggestion
  modelVersion : String
  promptVersion : String
  inputTokens : Nat := 0
  outputTokens : Nat := 0
  modelVersion_valid : isBlank modelVersion = false ∧ modelVersion.length ≤ 100 := by decide
  promptVersion_valid : isBlank promptVersion = false ∧ promptVersion.length ≤ 100 := by decide
  references_unique : (suggestions.map (·.candidateReference)).Nodup

end ReconcileFlow.AI
