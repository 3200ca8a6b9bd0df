import ReconcileFlow.Support.Calendar
import ReconcileFlow.Tenancy.Database

/-!
# AI — Usage

The controller that reserves and meters hosted inference, for one organization at a time.  Each of
its calls is one transaction; what it returns and the moment it takes place are arguments where the
source draws them.
-/

namespace ReconcileFlow.AI

open Support Support.Transaction Support.Calendar
open Persistence (UUID Instant Error integrityError seconds AIUsageRecord AIOrganizationRecord)
open Tenancy

/-- What the inference code raises. -/
inductive Failure
  | usageLimit (message : String)
  | inferenceDisabled (message : String)
  | inference (message : String)
  | timeout
  | cancelled
  | database (error : Error)
  /-- Any other exception of a provider. -/
  | other (message : String)
deriving DecidableEq, Repr

abbrev AISession (α : Type) := Transaction TenantDatabase Failure α

/-- A unit of work of the repositories. -/
def unitOfWork {α : Type} (work : TenantSession α) : AISession α := mapError .database work

/-- `OrganizationRepository.get`. -/
def getOrganization (organizationId : UUID) : TenantSession AIOrganizationRecord := do
  let found ← reads fun db : TenantDatabase => db.organizations.find organizationId
  fromOption (.recordNotFound ("organization " ++ organizationId.format ++ " was not found")) found

structure AIUsageSummary where
  dailyRequests : Int
  dailyTokens : Int
  monthlyRequests : Int
  monthlyTokens : Int
deriving DecidableEq, Repr

structure AIUsageController where
  providerName : String
  modelVersion : String
  estimatedTokensPerCandidate : Nat := 256
  reservationTtlSeconds : Nat := 300
  estimatedTokensPerCandidate_positive : 1 ≤ estimatedTokensPerCandidate := by decide
  reservationTtlSeconds_range : 30 ≤ reservationTtlSeconds := by decide

namespace AIUsageController

/-- `_summarize`. -/
def summarize (organizationId : UUID) (now : Instant) : TenantSession AIUsageSummary := do
  let (dailyRequests, dailyTokens) ←
    AIUsageRepository.summarize organizationId (Period.day.start now) now
  let (monthlyRequests, monthlyTokens) ←
    AIUsageRepository.summarize organizationId (Period.month.start now) now
  return { dailyRequests, dailyTokens, monthlyRequests, monthlyTokens }

variable (self : AIUsageController)

def isMetered : Bool := decide (self.providerName = "openai-compatible")

/-- Another request with so many tokens is within the limits. -/
def Admits (organization : AIOrganizationRecord) (usage : AIUsageSummary)
    (estimatedTokens : Int) : Prop :=
  ¬ (organization.aiDailyRequestLimit < usage.dailyRequests + 1 ∨
    organization.aiMonthlyRequestLimit < usage.monthlyRequests + 1 ∨
    organization.aiDailyTokenLimit < usage.dailyTokens + estimatedTokens ∨
    organization.aiMonthlyTokenLimit < usage.monthlyTokens + estimatedTokens)

instance (organization : AIOrganizationRecord) (usage : AIUsageSummary) (estimatedTokens : Int) :
    Decidable (Admits organization usage estimatedTokens) :=
  inferInstanceAs (Decidable (¬ _))

/-- The transaction of `reserve`. -/
def reserveMetered (reservationId organizationId runId : UUID) (candidateCount : Int)
    (now : Instant) : AISession UUID := do
  let estimatedTokens := candidateCount * self.estimatedTokensPerCandidate
  let organization ← unitOfWork (getOrganization organizationId)
  require (organization.hostedAiEnabled = true)
    (.usageLimit "hosted AI inference is not enabled for this organization")
  -- what has expired no longer counts
  let _ ← unitOfWork (AIUsageRepository.releaseExpired organizationId now)
  let usage ← unitOfWork (summarize organizationId now)
  require (Admits organization usage estimatedTokens)
    (.usageLimit "hosted AI usage limit has been reached")
  let record ← unitOfWork (AIUsageRepository.reserve reservationId organizationId runId
    self.providerName self.modelVersion estimatedTokens candidateCount
    (now + seconds self.reservationTtlSeconds) now)
  return record.id

def reserve (reservationId organizationId runId : UUID) (candidateCount : Int) (now : Instant) :
    AISession (Option UUID) :=
  if self.isMetered then do
    require (1 ≤ candidateCount) (.database (.value "candidate_count must be positive"))
    let id ← self.reserveMetered reservationId organizationId runId candidateCount now
    return some id
  else return none

def finalize (reservationId organizationId : UUID) (inputTokens outputTokens : Int)
    (now : Instant) : AISession Unit :=
  void (unitOfWork (AIUsageRepository.finalize reservationId organizationId inputTokens
    outputTokens now))

def release (reservationId organizationId : UUID) (now : Instant) : AISession Unit :=
  void (unitOfWork (AIUsageRepository.release reservationId organizationId now))

def summary (organizationId : UUID) (now : Instant) : AISession AIUsageSummary :=
  unitOfWork do
    let _ ← getOrganization organizationId
    let _ ← AIUsageRepository.releaseExpired organizationId now
    summarize organizationId now

end AIUsageController

end ReconcileFlow.AI
