import ReconcileFlow.Models

/-!
# Reconciliation — Results

The explainable output of the engine.  A result is its values, given by the rule that adds it,
under the id formed from its position.  Distinct positions have distinct ids
(`formatResultId_injective`).
-/

namespace ReconcileFlow.Reconciliation

open Support (Decimal)

/-- What a rule passes to `add`, as `__post_init__` accepts it. -/
structure ResultValues where
  status : ReconciliationStatus
  rule : String
  bankSourceRecordIds : List String := []
  erpInvoiceIds : List String := []
  gatewaySourceRecordIds : List String := []
  expectedAmount : Option Decimal := none
  actualAmount : Option Decimal := none
  amountDifference : Option Decimal := none
  currency : Option String := none
  explanation : String
  requiresReview : Bool := false
  rule_nonblank : isBlank rule = false := by decide
  explanation_nonblank : isBlank explanation = false := by decide
  amountDifference_nonneg : (amountDifference.all fun d => !d.lt (.ofInt 0)) = true := by decide
deriving DecidableEq, Repr

structure ReconciliationResult extends ResultValues where
  resultId : String
deriving DecidableEq, Repr

/-- `f"RESULT-{n:04d}"`. -/
def formatResultId (n : Nat) : String :=
  let digits := Nat.toDigits 10 n
  "RESULT-" ++ String.ofList (List.replicate (4 - digits.length) '0' ++ digits)

/-- The values of the results, without their ids. -/
def valuesOf (results : List ReconciliationResult) : List ResultValues :=
  results.map (·.toResultValues)

/-- Results with the values `vs`, each under the id of its position. -/
def number (vs : List ResultValues) : List ReconciliationResult :=
  vs.mapIdx fun n v => ⟨v, formatResultId (n + 1)⟩

theorem number_snoc (vs : List ResultValues) (v : ResultValues) :
    number (vs ++ [v]) = number vs ++ [⟨v, formatResultId (vs.length + 1)⟩] := by
  simp [number]

@[simp] theorem valuesOf_number (vs : List ResultValues) : valuesOf (number vs) = vs := by
  refine List.ext_getElem ?_ fun n _ _ => ?_ <;> simp [valuesOf, number]

/-- The three inputs, whose ids a result lists separately. -/
inductive Source
  | bank | erp | gateway
deriving DecidableEq, Repr

/-- The ids of one source that the values list. -/
def ResultValues.ids (values : ResultValues) : Source → List String
  | .bank => values.bankSourceRecordIds
  | .erp => values.erpInvoiceIds
  | .gateway => values.gatewaySourceRecordIds

theorem formatResultId_injective : Function.Injective formatResultId := by
  intro m n h
  have hdigits := String.ofList_injective ((String.append_right_inj _).mp h)
  have hvalue := congrArg (Nat.ofDigitChars 10 · 0) hdigits
  simpa [Nat.ofDigitChars_append, Nat.ofDigitChars_replicate_zero,
    Nat.ofDigitChars_ten_toDigits] using hvalue

theorem resultIds_number (vs : List ResultValues) :
    (number vs).map (·.resultId) = (List.range vs.length).map fun n => formatResultId (n + 1) := by
  refine List.ext_getElem ?_ fun n _ _ => ?_ <;> simp [number]

theorem nodup_resultIds_number (vs : List ResultValues) :
    ((number vs).map (·.resultId)).Nodup := by
  rw [resultIds_number]
  exact List.nodup_range.map fun _ _ h => Nat.succ.inj (formatResultId_injective h)

end ReconcileFlow.Reconciliation
