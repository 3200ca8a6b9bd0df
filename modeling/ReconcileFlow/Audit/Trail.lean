import ReconcileFlow.Reconciliation.Results

/-!
# Audit — Trail

The events that one attempt collects in memory, in order, and the stage it is in.  An event keeps
its type and details; its timestamp is left out.
-/

namespace ReconcileFlow.Audit

open Reconciliation (ReconciliationResult)

/-- An event type with the details that `emit` gets for it. -/
inductive AuditEvent
  | runStarted
  | bankIngestionCompleted (recordsLoaded : Nat)
  | erpIngestionCompleted (recordsLoaded : Nat)
  | gatewayIngestionCompleted (recordsLoaded : Nat)
  | gatewayIngestionSkipped
  | reconciliationCompleted (results resultsRequiringReview : Nat)
      (statusCounts : List (ReconciliationStatus × Nat))
  | exportCompleted (outputFormat outputFilename : String)
  | runSucceeded
  | runFailed (failureType failureStage failureMessage : String)
deriving DecidableEq, Repr

structure AuditTrail where
  events : List AuditEvent := []
  stage : String := "initialization"
deriving DecidableEq, Repr

namespace AuditTrail

def emit (trail : AuditTrail) (event : AuditEvent) : AuditTrail :=
  { trail with events := trail.events ++ [event] }

def start (trail : AuditTrail) : AuditTrail := trail.emit .runStarted

def beginStage (trail : AuditTrail) (stage : String) : AuditTrail := { trail with stage := stage }

/-- The statuses in the order of their names, each with how many results have it. -/
def statusCounts (results : List ReconciliationResult) : List (ReconciliationStatus × Nat) :=
  let statuses : List ReconciliationStatus :=
    [.duplicate, .exactMatch, .manyToOneMatch, .oneToManyMatch, .requiresReview, .settlementMatch,
      .toleranceMatch]
  let counts := statuses.map fun status => (status, results.countP fun item => item.status = status)
  counts.filter fun (_, count) => count ≠ 0

def reconciliationCompleted (trail : AuditTrail) (results : List ReconciliationResult) :
    AuditTrail :=
  trail.emit (.reconciliationCompleted results.length (results.countP (·.requiresReview))
    (statusCounts results))

def succeed (trail : AuditTrail) : AuditTrail := trail.emit .runSucceeded

/-- Of the error only its type and the stage are kept. -/
def fail (trail : AuditTrail) (failureType : String) : AuditTrail :=
  trail.emit (.runFailed failureType trail.stage ("Processing failed during " ++ trail.stage ++ "."))

end AuditTrail

end ReconcileFlow.Audit
