import ReconcileFlow.Models

/-!
# Reconciliation — Config

The configuration of the matching rules.  A configuration that its `__post_init__` would refuse
cannot be built.
-/

namespace ReconcileFlow.Reconciliation

open Support (Decimal)

structure ReconciliationConfig where
  amountTolerance : Decimal := ⟨false, 100, -2⟩
  dateToleranceDays : Nat := 14
  maximumGroupSize : Nat := 5
  amountTolerance_nonneg : amountTolerance.lt (.ofInt 0) = false := by decide
  maximumGroupSize_range : 2 ≤ maximumGroupSize ∧ maximumGroupSize ≤ 10 := by decide
deriving DecidableEq

/-- The configuration as it comes. -/
def ReconciliationConfig.standard : ReconciliationConfig := {}

end ReconcileFlow.Reconciliation
