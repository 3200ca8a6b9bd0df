import Mathlib.Data.Prod.Lex
import Mathlib.Data.String.Basic
import ReconcileFlow.AI.Inference

/-!
# AI — Candidates

The pairs of unresolved records that a provider is asked about.  Records of the organization and the
run that are not excluded are compared two by two; a pair of two source types that is close enough
is a candidate, under an opaque reference.

Case folding, the digest and what is computed in floating-point numbers are parameters
(`Comparison`).
-/

namespace ReconcileFlow.AI

open Support
open Persistence (UUID CandidateRecordSet)

inductive CandidateSourceType
  | bank | erp | gateway
deriving DecidableEq, Repr

/-- An internal projection of a record, which is compared locally. -/
structure CandidateSourceRecord where
  organizationId : UUID
  runId : UUID
  sourceType : CandidateSourceType
  recordId : String
  amount : Decimal
  effectiveDate : Date
  currency : String
  references : List String := []
  recordId_valid : isTextWithin 200 recordId = true := by decide
  currency_valid : isTextWithin 3 currency = true := by decide
  references_valid : references.length ≤ 20 ∧ ∀ value ∈ references, value.length ≤ 200 := by decide

structure GeneratedCandidate where
  records : CandidateRecordSet
  features : NormalizedMatchFeatures

/-- What the run time makes of texts and of floating-point numbers. -/
structure Comparison where
  casefold : String → String
  /-- `sha256(material).hexdigest()`. -/
  sha256 : String → String
  /-- `float(value)`. -/
  float : Decimal → Decimal
  /-- `round(1 - difference / maximum, 6)`. -/
  nearness : Nat → Nat → Decimal
  /-- `SequenceMatcher(None, left, right).ratio()`. -/
  ratio : String → String → Decimal
  /-- `round(value, 6)`. -/
  round : Decimal → Decimal
  /-- The digits that decimal arithmetic keeps. -/
  precision : Nat := 28

structure ReconciliationCandidateGenerator where
  comparison : Comparison
  maximumCandidates : Nat := 100
  maximumDateDifferenceDays : Nat := 30
  maximumAmountDifferenceRatio : Decimal := ⟨false, 25, -2⟩
  maximumCandidates_range : 1 ≤ maximumCandidates ∧ maximumCandidates ≤ 1000 := by decide
  maximumDateDifferenceDays_range : maximumDateDifferenceDays ≤ 365 := by decide
  maximumAmountDifferenceRatio_range : isFraction maximumAmountDifferenceRatio = true := by decide

/-- A generator with the limits that come with the class. -/
def ReconciliationCandidateGenerator.standard (comparison : Comparison) :
    ReconciliationCandidateGenerator where
  comparison

/-- `combinations(values, 2)`. -/
def combinations {α : Type} : List α → List (α × α)
  | [] => []
  | value :: values => values.map (value, ·) ++ combinations values

theorem mem_of_mem_combinations {α : Type} {values : List α} {left right : α}
    (h : (left, right) ∈ combinations values) : left ∈ values ∧ right ∈ values := by
  induction values with
  | nil => cases h
  | cons value values ih =>
    rcases List.mem_append.mp h with h | h
    · obtain ⟨other, hother, he⟩ := List.mem_map.mp h
      obtain ⟨rfl, rfl⟩ := Prod.mk.inj he
      exact ⟨List.mem_cons_self, List.mem_cons_of_mem _ hother⟩
    · exact ⟨List.mem_cons_of_mem _ (ih h).1, List.mem_cons_of_mem _ (ih h).2⟩

/-! ### Candidate sets -/

/-- The ids of one source type. -/
def idsOf (sourceType : CandidateSourceType) (left right : CandidateSourceRecord) : List String :=
  sortOn id (([left, right].filter fun record => decide (record.sourceType = sourceType)).map
    (·.recordId))

/-- A pair of two source types names at most one record of each. -/
theorem idsOf_eq {left right : CandidateSourceRecord} (h : left.sourceType ≠ right.sourceType)
    (sourceType : CandidateSourceType) :
    idsOf sourceType left right =
      if left.sourceType = sourceType then [left.recordId]
      else if right.sourceType = sourceType then [right.recordId] else [] := by
  unfold idsOf
  by_cases hleft : left.sourceType = sourceType
  · have hright : right.sourceType ≠ sourceType := fun he => h (hleft.trans he.symm)
    simp [hleft, hright, sortOn]
  · by_cases hright : right.sourceType = sourceType
    · simp [hleft, hright, sortOn]
    · simp [hleft, hright, sortOn]

theorem isText_not_blank {value : String} (h : isText value = true) : isBlank value = false := by
  obtain ⟨hhead, -⟩ := Bool.and_eq_true_iff.mp h
  unfold isBlank
  cases hl : value.toList with
  | nil => simp [hl] at hhead
  | cons c l =>
    have hc : isSpace c = false := by simpa [hl] using hhead
    simp [hc]

theorem idsOf_valid {left right : CandidateSourceRecord} (h : left.sourceType ≠ right.sourceType)
    (sourceType : CandidateSourceType) :
    (idsOf sourceType left right).Nodup ∧
      ∀ value ∈ idsOf sourceType left right, isBlank value = false ∧ value.length ≤ 200 := by
  have hvalid (record : CandidateSourceRecord) :
      isBlank record.recordId = false ∧ record.recordId.length ≤ 200 := by
    obtain ⟨htext, hlength⟩ := Bool.and_eq_true_iff.mp record.recordId_valid
    exact ⟨isText_not_blank htext, of_decide_eq_true hlength⟩
  rw [idsOf_eq h]
  split
  · exact ⟨List.nodup_singleton _, by simpa using hvalid left⟩
  · split
    · exact ⟨List.nodup_singleton _, by simpa using hvalid right⟩
    · exact ⟨List.nodup_nil, by simp⟩

/-- `_candidate_set`. -/
def candidateSet (left right : CandidateSourceRecord) (h : left.sourceType ≠ right.sourceType) :
    CandidateRecordSet where
  bankRecordIds := idsOf .bank left right
  erpInvoiceIds := idsOf .erp left right
  gatewayRecordIds := idsOf .gateway left right
  valid := by
    constructor
    · intro hnone
      simp only [List.append_eq_nil_iff, idsOf_eq h] at hnone
      cases htype : left.sourceType <;> simp [htype] at hnone
    · intro group hgroup
      simp only [List.mem_cons, List.not_mem_nil, or_false] at hgroup
      rcases hgroup with rfl | rfl | rfl <;> exact idsOf_valid h _

/-- What tells one candidate from another. -/
structure CandidateIdentity where
  bankRecordIds : List String
  erpInvoiceIds : List String
  gatewayRecordIds : List String
deriving DecidableEq

def identity (candidates : CandidateRecordSet) : CandidateIdentity :=
  ⟨candidates.bankRecordIds, candidates.erpInvoiceIds, candidates.gatewayRecordIds⟩

/-! ### Similarities -/

/-- `max(a, b)`. -/
def larger (a b : Decimal) : Decimal := if a.lt b then b else a

/-- `min(a, b)`. -/
def smaller (a b : Decimal) : Decimal := if b.lt a then b else a

namespace Comparison

variable (self : Comparison)

/-- `_amount_difference_ratio`. -/
def amountDifferenceRatio (left right : Decimal) : Decimal :=
  let context : Decimal.Context := ⟨some self.precision⟩
  let denominator := larger (context.abs left) (context.abs right)
  if denominator.numEq (.ofInt 0) then .ofInt 0
  else smaller (.ofInt 1)
    (Decimal.div self.precision (context.abs (context.sub left right)) denominator)

/-- `_normalized_references`. -/
def normalizedReferences (values : List String) : List String :=
  (values.map fun value => String.ofList ((self.casefold value).toList.filter fun c =>
    decide ('a' ≤ c ∧ c ≤ 'z') || decide ('0' ≤ c ∧ c ≤ '9'))).filter fun value => value != ""

/-- `_reference_similarity`. -/
def referenceSimilarity (left right : List String) : Decimal :=
  let pairs := (self.normalizedReferences left).flatMap fun leftValue =>
    (self.normalizedReferences right).map fun rightValue => self.ratio leftValue rightValue
  match pairs with
  | [] => .ofInt 0
  | first :: rest => self.round (rest.foldl larger first)

/-- `_opaque_reference`. -/
def opaqueReference (organizationId runId : UUID) (identity : CandidateIdentity) : String :=
  let material := "\x1f".intercalate ([organizationId.format, runId.format] ++
    identity.bankRecordIds ++ identity.erpInvoiceIds ++ identity.gatewayRecordIds)
  "candidate-" ++ self.sha256 material

end Comparison

/-! ### The generator -/

/-- What has been generated, and the identities that have been seen. -/
structure Generation where
  seen : List CandidateIdentity := []
  generated : List GeneratedCandidate := []

namespace ReconciliationCandidateGenerator

variable (self : ReconciliationCandidateGenerator)

/-- The features of a pair, which its values must be fit for. -/
def features (organizationId runId : UUID) (left right : CandidateSourceRecord)
    (identity : CandidateIdentity) : Except Failure NormalizedMatchFeatures :=
  let comparison := self.comparison
  let dateDifference := (left.effectiveDate - right.effectiveDate).natAbs
  let amountRatio := comparison.amountDifferenceRatio left.amount right.amount
  NormalizedMatchFeatures.normalized {
    candidateReference := comparison.opaqueReference organizationId runId identity
    amountSimilarity :=
      comparison.float (Decimal.Context.sub ⟨some comparison.precision⟩ (.ofInt 1) amountRatio)
    dateSimilarity :=
      if self.maximumDateDifferenceDays = 0 then .ofInt 1
      else comparison.nearness dateDifference self.maximumDateDifferenceDays
    referenceSimilarity := comparison.referenceSimilarity left.references right.references
    currencyMatches := decide (left.currency = right.currency) }

/-- One pair of the loop. -/
def compare (organizationId runId : UUID) (generation : Generation)
    (pair : CandidateSourceRecord × CandidateSourceRecord) : Except Failure Generation :=
  let (left, right) := pair
  if h : left.sourceType = right.sourceType then return generation
  else if self.maximumDateDifferenceDays < (left.effectiveDate - right.effectiveDate).natAbs then
    return generation
  else if self.maximumAmountDifferenceRatio.lt
      (self.comparison.amountDifferenceRatio left.amount right.amount) then
    return generation
  else
    let records := candidateSet left right h
    if identity records ∈ generation.seen then return generation
    else do
      let features ← self.features organizationId runId left right (identity records)
      return ⟨identity records :: generation.seen, generation.generated ++ [⟨records, features⟩]⟩

/-- The order in which candidates are submitted. -/
def rank (candidate : GeneratedCandidate) : ℚ ×ₗ ℚ ×ₗ ℚ ×ₗ String :=
  let features := candidate.features
  toLex (-features.amountSimilarity.toRat, toLex (-features.dateSimilarity.toRat,
    toLex (-features.referenceSimilarity.toRat, features.candidateReference)))

/-- The record may be part of a candidate. -/
def isScoped (organizationId runId : UUID) (excludedRecordIds : List String)
    (record : CandidateSourceRecord) : Bool :=
  decide (record.organizationId = organizationId) && decide (record.runId = runId) &&
    decide (record.recordId ∉ excludedRecordIds)

def generate (organizationId runId : UUID) (records : List CandidateSourceRecord)
    (excludedRecordIds : List String) : Except Failure (List GeneratedCandidate) := do
  let inScope := records.filter (isScoped organizationId runId excludedRecordIds)
  let generation ← (combinations inScope).foldlM (self.compare organizationId runId) {}
  return (sortOn rank generation.generated).take self.maximumCandidates

end ReconciliationCandidateGenerator

end ReconcileFlow.AI
