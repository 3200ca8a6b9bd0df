import Mathlib.Data.Prod.Lex
import Mathlib.Data.String.Basic
import ReconcileFlow.Persistence.Queries
import ReconcileFlow.Reconciliation.Results

/-!
# Results — Repository

The table of reconciliation results with all its columns, and the repository that saves what the
engine returned and lists it again page by page.  Amounts are stored with twenty digits, four of
them after the point.

The id that each row is stored under and the time of the transaction are arguments.
-/

namespace ReconcileFlow.Results

open Support Support.Transaction
open Persistence (UUID Instant Page Error integrityError amountColumn)
open Reconciliation (ReconciliationResult)

structure ReconciliationResultRecord where
  id : UUID
  runId : UUID
  externalResultId : String
  status : ReconciliationStatus
  rule : String
  bankSourceRecordIds : List String
  erpInvoiceIds : List String
  gatewaySourceRecordIds : List String
  expectedAmount : Option Decimal
  actualAmount : Option Decimal
  amountDifference : Option Decimal
  currency : Option String
  explanation : String
  requiresReview : Bool
  createdAt : Instant
deriving DecidableEq

def resultSchema : Schema ReconciliationResultRecord UUID where
  key := (·.id)
  clash record other := decide (record.runId = other.runId ∧
    record.externalResultId = other.externalResultId)
  check record :=
    (record.amountDifference.all fun difference => (Decimal.ofInt 0).le difference) &&
      record.currency.all fun currency => decide (currency.length = 3)

namespace ReconciliationResultRepository

/-- `_to_record`, as it is stored. -/
def toRecord (id runId : UUID) (createdAt : Instant) (result : ReconciliationResult) :
    Option ReconciliationResultRecord := do
  let expectedAmount ← amountColumn result.expectedAmount
  let actualAmount ← amountColumn result.actualAmount
  let amountDifference ← amountColumn result.amountDifference
  return {
    id, runId, externalResultId := result.resultId, status := result.status, rule := result.rule
    bankSourceRecordIds := result.bankSourceRecordIds
    erpInvoiceIds := result.erpInvoiceIds
    gatewaySourceRecordIds := result.gatewaySourceRecordIds
    expectedAmount, actualAmount, amountDifference, currency := result.currency
    explanation := result.explanation, requiresReview := result.requiresReview, createdAt }

def addMany (runId : UUID) (createdAt : Instant) (results : List (UUID × ReconciliationResult)) :
    Transaction (Table resultSchema) Error Unit := do
  let records ← fromOption (.runtime "numeric field overflow")
    (results.mapM fun (id, result) => toRecord id runId createdAt result)
  let table ← get
  let stored ← fromOption integrityError (Table.ofRows? resultSchema (table.rows ++ records))
  set stored

/-- The rows that `list_for_run` and `count_for_run` select. -/
def isListed (record : ReconciliationResultRecord) (runId : UUID)
    (status : Option ReconciliationStatus) (requiresReview : Option Bool) : Bool :=
  decide (record.runId = runId) && (status.all fun value => decide (record.status = value)) &&
    requiresReview.all fun value => decide (record.requiresReview = value)

/-- The order of the listing. -/
def listingKey (record : ReconciliationResultRecord) : Instant ×ₗ String :=
  toLex (record.createdAt, record.externalResultId)

def listForRun (table : Table resultSchema) (runId : UUID) (page : Page)
    (status : Option ReconciliationStatus) (requiresReview : Option Bool) :
    List ReconciliationResultRecord :=
  page.of (sortOn listingKey
    (table.rows.filter fun record => isListed record runId status requiresReview))

def countForRun (table : Table resultSchema) (runId : UUID)
    (status : Option ReconciliationStatus) (requiresReview : Option Bool) : Nat :=
  (table.rows.filter fun record => isListed record runId status requiresReview).length

end ReconciliationResultRepository

end ReconcileFlow.Results
