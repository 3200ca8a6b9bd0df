import ReconcileFlow.AI.Candidates
import ReconcileFlow.Support.Client

/-!
# AI — Workflow

Generating suggestions: candidates are submitted to a provider, its response is mapped to them, and
what they are suggested as is stored.  The observer's event, the reservation and the suggestions
are committed one after another, each in a transaction of its own.

What the provider answers is a parameter of a call, as are the ids and the moments that it draws.
`generate_and_persist` is cut in two where its `try` statement ends.
-/

namespace ReconcileFlow.AI

open Support Support.Transaction Support.Client
open Persistence (UUID Instant seconds Metadata AIInferenceOutcome AIInferenceCompletion
  AIMatchSuggestionRecord)
open Tenancy

/-! ### The observer -/

structure AIInferenceObserver where
  provider : String
  modelVersion : String
  promptVersion : String
  inferenceConfigVersion : String

namespace AIInferenceObserver

def start (self : AIInferenceObserver) (eventId organizationId runId : UUID) (candidateCount : Nat)
    (now : Instant) : AISession UUID := do
  let event ← unitOfWork (AIInferenceEventRepository.create eventId organizationId runId
    self.provider self.modelVersion self.promptVersion self.inferenceConfigVersion candidateCount now)
  return event.id

def complete (eventId organizationId : UUID) (completion : AIInferenceCompletion) : AISession Unit :=
  void (unitOfWork (AIInferenceEventRepository.complete eventId organizationId completion))

end AIInferenceObserver

/-! ### The workflow -/

structure AIMatchSuggestionWorkflow where
  generator : ReconciliationCandidateGenerator
  providerName : String
  promptVersion : String
  inferenceConfigVersion : String
  suggestionTtlDays : Nat := 7
  usageController : Option AIUsageController := none
  observer : Option AIInferenceObserver := none
  providerName_valid : isTextWithin 100 providerName = true := by decide
  promptVersion_valid : isTextWithin 100 promptVersion = true := by decide
  inferenceConfigVersion_valid : isTextWithin 100 inferenceConfigVersion = true := by decide
  suggestionTtlDays_range : 1 ≤ suggestionTtlDays ∧ suggestionTtlDays ≤ 90 := by decide

/-- The ids that are drawn for the rows of a call, and when its transactions take place. -/
structure Draws where
  eventId : UUID
  reservationId : UUID
  suggestionId : ℕ → UUID
  startedAt : Instant
  reservedAt : Instant
  releasedAt : Instant
  finalizedAt : Instant
  persistedAt : Instant
  completedAt : Instant
  durationMs : Nat

/-- The arguments of `generate_and_persist`, and what the call meets. -/
structure GenerateCall where
  organizationId : UUID
  runId : UUID
  records : List CandidateSourceRecord
  excludedRecordIds : List String := []
  /-- What the provider answers or raises; `Failure.timeout` if the time is up. -/
  infer : AIInferenceRequest → Except Failure AIInferenceResponse
  draws : Draws

/-- What the guarded part of a call ends with. -/
structure Inferred where
  reservationId : Option UUID
  response : AIInferenceResponse
  validated : List (GeneratedCandidate × AIInferenceSuggestion)

/-- `_map_response`. -/
def mapResponse (response : AIInferenceResponse) (candidates : List GeneratedCandidate)
    (promptVersion : String) : Except Failure (List (GeneratedCandidate × AIInferenceSuggestion)) := do
  raiseUnless (response.promptVersion = promptVersion)
    (.inference "AI inference returned incompatible version metadata")
  response.suggestions.mapM fun suggestion =>
    -- the last candidate of a reference is the one that the dictionary holds
    match candidates.reverse.find? fun candidate =>
        decide (candidate.features.candidateReference = suggestion.candidateReference) with
    | none => throw (.inference "AI inference returned an unknown candidate reference")
    | some candidate => return (candidate, suggestion)

/-- The outcome and the code that an event is completed with after an error. -/
def failureOutcome : Failure → AIInferenceOutcome × String
  | .timeout => (.timedOut, "INFERENCE_TIMEOUT")
  | .usageLimit _ => (.quotaRejected, "USAGE_POLICY_REJECTED")
  | .inferenceDisabled _ => (.disabled, "INFERENCE_DISABLED")
  | _ => (.failed, "INFERENCE_FAILED")

/-- What is raised in place of an error. -/
def raised : Failure → Failure
  | .timeout => .inference "AI inference exceeded the configured timeout"
  | error => error

abbrev AIClient (α : Type) := Client TenantDatabase Failure α

namespace AIMatchSuggestionWorkflow

variable (self : AIMatchSuggestionWorkflow) (call : GenerateCall)

/-! #### Transactions -/

def start (candidateCount : Nat) : AIClient (Option UUID) :=
  match self.observer with
  | none => return none
  | some observer => do
    let eventId ← transact (observer.start call.draws.eventId call.organizationId call.runId
      candidateCount call.draws.startedAt)
    return some eventId

def complete (eventId : Option UUID) (outcome : AIInferenceOutcome) (suggestionCount inputTokens
    outputTokens : Nat) (errorCode : Option String) : AIClient Unit :=
  match eventId with
  | none => return
  | some eventId => transact (AIInferenceObserver.complete eventId call.organizationId {
      outcome, suggestionCount, inputTokens, outputTokens, errorCode
      durationMs := call.draws.durationMs
      completedAt := call.draws.completedAt })

def reserve (candidateCount : Nat) : AIClient (Option UUID) :=
  match self.usageController with
  | none => return none
  | some controller => transact (controller.reserve call.draws.reservationId call.organizationId
      call.runId candidateCount call.draws.reservedAt)

def release (reservationId : Option UUID) : AIClient Unit :=
  match reservationId with
  | none => return
  | some reservationId => transact (AIUsageController.release reservationId call.organizationId
      call.draws.releasedAt)

def finalize (inferred : Inferred) : AIClient Unit :=
  match inferred.reservationId with
  | none => return
  | some reservationId => transact (AIUsageController.finalize reservationId call.organizationId
      inferred.response.inputTokens inferred.response.outputTokens call.draws.finalizedAt)

/-- What is stored of one suggestion. -/
def draft (response : AIInferenceResponse) (candidate : GeneratedCandidate)
    (suggestion : AIInferenceSuggestion) : SuggestionDraft where
  candidates := candidate.records
  confidenceScore := suggestion.confidence
  explanation := .object [
    ("summary", .text suggestion.explanation),
    ("reason_codes", .list (suggestion.reasonCodes.map .text))]
  features := .object [
    ("amount_similarity", .number candidate.features.amountSimilarity),
    ("date_similarity", .number candidate.features.dateSimilarity),
    ("reference_similarity", .number candidate.features.referenceSimilarity),
    ("currency_matches", .bool candidate.features.currencyMatches)]
  provider := self.providerName
  modelVersion := response.modelVersion
  promptTemplateVersion := response.promptVersion
  inferenceConfigVersion := self.inferenceConfigVersion
  expiresAt := some (call.draws.persistedAt + seconds (86400 * self.suggestionTtlDays))

/-- The loop that stores the suggestions from the number `n` on. -/
def persist (response : AIInferenceResponse) : ℕ → List (GeneratedCandidate × AIInferenceSuggestion) →
    TenantSession (List AIMatchSuggestionRecord)
  | _, [] => return []
  | n, (candidate, suggestion) :: validated => do
    let record ← AIMatchSuggestionRepository.create (call.draws.suggestionId n) call.organizationId
      call.runId (self.draft call response candidate suggestion) call.draws.persistedAt
    let records ← persist response (n + 1) validated
    return record :: records

/-! #### The call -/

/-- The `except` branches. -/
def closeFailed (eventId reservationId : Option UUID) (error : Failure) : AIClient Inferred := do
  -- what these transactions raise takes the place of the error
  release call reservationId
  complete call eventId (failureOutcome error).1 0 0 0 (failureOutcome error).2
  throw (raised error)

/-- The `try` statement. -/
def infer (eventId : Option UUID) (candidates : List GeneratedCandidate)
    (request : AIInferenceRequest) : AIClient Inferred := do
  match ← attempt (self.reserve call candidates.length) with
  | .error error => closeFailed call eventId none error
  | .ok reservationId =>
    let inferred : Except Failure Inferred := do
      let response ← call.infer request
      let validated ← mapResponse response candidates self.promptVersion
      return ⟨reservationId, response, validated⟩
    match inferred with
    | .error error => closeFailed call eventId reservationId error
    | .ok inferred => return inferred

/-- Up to the end of the `try` statement; answers `none` if there is nothing to submit. -/
def submit : AIClient (Option (Option UUID × Inferred)) := do
  let candidates ← fromResult (self.generator.generate call.organizationId call.runId call.records
    call.excludedRecordIds)
  -- no event is recorded of a call without candidates
  if candidates.isEmpty then return none
  else
    let request ← fromResult (AIInferenceRequest.normalized
      ⟨candidates.map (·.features), self.promptVersion⟩)
    let eventId ← self.start call candidates.length
    let inferred ← self.infer call eventId candidates request
    return some (eventId, inferred)

/-- After the `try` statement. -/
def store (eventId : Option UUID) (inferred : Inferred) :
    AIClient (List AIMatchSuggestionRecord) := do
  finalize call inferred
  -- the usage has been charged by now, whatever becomes of the suggestions
  let persisted ← transact (unitOfWork (self.persist call inferred.response 0 inferred.validated))
  complete call eventId .succeeded persisted.length inferred.response.inputTokens
    inferred.response.outputTokens none
  return persisted

def generateAndPersist : AIClient (List AIMatchSuggestionRecord) := do
  match ← self.submit call with
  | none => return []
  | some (eventId, inferred) => self.store call eventId inferred

end AIMatchSuggestionWorkflow

end ReconcileFlow.AI
