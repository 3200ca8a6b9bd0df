import ReconcileFlow.Persistence.Records

/-!
# Persistence — Metering

The rows that meter hosted inference: the limits of an organization, usage records, which reserve
tokens before a call and are finalized or released after it, and inference events.
-/

namespace ReconcileFlow.Persistence

open Support

/-- The columns of an organization's row that meter its hosted inference. -/
structure AIOrganizationRecord where
  id : UUID
  hostedAiEnabled : Bool := false
  aiDailyRequestLimit : Nat := 100
  aiMonthlyRequestLimit : Nat := 1000
  aiDailyTokenLimit : Nat := 100000
  aiMonthlyTokenLimit : Nat := 1000000
deriving DecidableEq, Repr

def aiOrganizationSchema : Schema AIOrganizationRecord UUID where
  key := (·.id)
  clash _ _ := false
  check _ := true

inductive AIUsageStatus
  | reserved | finalized | released
deriving DecidableEq, Repr

structure AIUsageRecord where
  id : UUID
  organizationId : UUID
  runId : UUID
  status : AIUsageStatus := .reserved
  provider : String
  modelVersion : String
  reservedRequests : Int := 1
  reservedTokens : Int
  inputTokens : Int := 0
  outputTokens : Int := 0
  candidateCount : Int
  expiresAt : Instant
  finalizedAt : Option Instant := none
  releasedAt : Option Instant := none
  createdAt : Instant
deriving DecidableEq, Repr

def usageSchema : Schema AIUsageRecord UUID where
  key := (·.id)
  clash _ _ := false
  check usage :=
    decide (usage.reservedRequests = 1) && decide (0 ≤ usage.reservedTokens) &&
      decide (0 ≤ usage.inputTokens) && decide (0 ≤ usage.outputTokens) &&
      decide (0 ≤ usage.candidateCount)

namespace AIUsageRecord

variable (usage : AIUsageRecord)

def released (now : Instant) : AIUsageRecord :=
  { usage with status := .released, releasedAt := some now }

def finalized (inputTokens outputTokens : Int) (now : Instant) : AIUsageRecord :=
  { usage with
    status := .finalized
    inputTokens := inputTokens
    outputTokens := outputTokens
    finalizedAt := some now }

/-- A reservation whose time is up. -/
def isExpired (now : Instant) : Bool :=
  decide (usage.status = .reserved) && decide (usage.expiresAt ≤ now)

/-- What counts against a limit: finalized usage, and reservations that have not expired. -/
def isActive (now : Instant) : Bool :=
  decide (usage.status = .finalized) ||
    (decide (usage.status = .reserved) && decide (now < usage.expiresAt))

def tokens : Int :=
  if usage.status = .finalized then usage.inputTokens + usage.outputTokens else usage.reservedTokens

end AIUsageRecord

inductive AIInferenceOutcome
  | requested | succeeded | failed | timedOut | disabled | quotaRejected
deriving DecidableEq, Repr

structure AIInferenceEventRecord where
  id : UUID
  organizationId : UUID
  runId : UUID
  outcome : AIInferenceOutcome := .requested
  provider : String
  modelVersion : String
  promptVersion : String
  inferenceConfigVersion : String
  candidateCount : Int
  suggestionCount : Int := 0
  inputTokens : Int := 0
  outputTokens : Int := 0
  durationMs : Option Int := none
  errorCode : Option String := none
  completedAt : Option Instant := none
  createdAt : Instant
deriving DecidableEq, Repr

def inferenceEventSchema : Schema AIInferenceEventRecord UUID where
  key := (·.id)
  clash _ _ := false
  check event :=
    decide (0 ≤ event.candidateCount) && decide (0 ≤ event.suggestionCount) &&
      decide (0 ≤ event.inputTokens) && decide (0 ≤ event.outputTokens) &&
      event.durationMs.all fun duration => decide (0 ≤ duration)

/-- How one inference went. -/
structure AIInferenceCompletion where
  outcome : AIInferenceOutcome
  suggestionCount : Int
  inputTokens : Int
  outputTokens : Int
  durationMs : Int
  errorCode : Option String
  completedAt : Instant

def AIInferenceEventRecord.completed (event : AIInferenceEventRecord)
    (completion : AIInferenceCompletion) : AIInferenceEventRecord :=
  { event with
    outcome := completion.outcome
    suggestionCount := completion.suggestionCount
    inputTokens := completion.inputTokens
    outputTokens := completion.outputTokens
    durationMs := some completion.durationMs
    errorCode := completion.errorCode
    completedAt := some completion.completedAt }

end ReconcileFlow.Persistence
