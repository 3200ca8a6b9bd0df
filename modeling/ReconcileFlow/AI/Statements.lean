import ReconcileFlow.AI.Usage
import ReconcileFlow.Support.Interference

/-!
# AI — Statements

The transactions of the usage controller, statement by statement.  What `release_expired` selects
is not locked; its writes, one row each, wait for the rows one after another and set the columns of
whatever is stored there by then.

A query that takes no lock is the one of `Tenancy.Database`, run as a single statement.
-/

namespace ReconcileFlow.AI.Statements

open Support Support.Program Support.Calendar Tenancy
open Persistence (UUID Instant Error integrityError seconds AIUsageRecord AIOrganizationRecord
  usageSchema)

inductive UsageLock
  | organization (id : UUID)
  | usage (id : UUID)
deriving DecidableEq

/-- What a commit did to the usage records. -/
inductive UsageCommit
  /-- The reservations that `release_expired` had selected were released. -/
  | released (usageIds : List UUID)
  | finalized (usageId : UUID) (inputTokens outputTokens : Int)
  | other
deriving DecidableEq

abbrev UsageRequest := ExceptT Failure (Program TenantDatabase UsageLock UsageCommit)

/-- A query that takes no lock. -/
def query {α : Type} (statement : TenantSession α) : UsageRequest α :=
  ExceptT.mk (get fun db => ((statement.run db).map Prod.fst).mapError .database)

namespace OrganizationRepository

/-- `get` with `lock=True`. -/
def getLocked (organizationId : UUID) : UsageRequest AIOrganizationRecord := do
  let found ← ExceptT.lift (selectForUpdate
    (fun db : TenantDatabase => db.organizations.find organizationId)
    fun organization => .organization organization.id)
  expect (.database (.recordNotFound
    ("organization " ++ organizationId.format ++ " was not found"))) found

end OrganizationRepository

namespace AIUsageRepository

def reserve (reservationId organizationId runId : UUID) (provider modelVersion : String)
    (reservedTokens candidateCount : Int) (expiresAt now : Instant) : UsageRequest UUID := do
  query (ensureRun runId organizationId)
  let record : AIUsageRecord := {
    id := reservationId, organizationId, runId, provider, modelVersion, reservedTokens
    candidateCount, expiresAt, createdAt := now }
  insert (.database integrityError) [.usage reservationId]
    (fun db => (db.usageRecords.insert? record).isNone)
    fun db => { db with usageRecords := db.usageRecords.add record }
  return reservationId

/-- `get` with `lock=True`. -/
def getLocked (reservationId organizationId : UUID) : UsageRequest AIUsageRecord := do
  let found ← ExceptT.lift (selectForUpdate
    (fun db : TenantDatabase => (db.usageRecords.find reservationId).filter fun usage =>
      decide (usage.organizationId = organizationId))
    fun usage => .usage usage.id)
  expect (.database (.recordNotFound
    ("AI usage reservation " ++ reservationId.format ++ " was not found"))) found

/-- Writes a row that is locked. -/
def flush (usage : AIUsageRecord) : UsageRequest Unit := do
  ensure (usageSchema.check usage = true) (.database integrityError)
  ExceptT.lift (update fun db : TenantDatabase =>
    { db with usageRecords := db.usageRecords.put usage })

def finalize (reservationId organizationId : UUID) (inputTokens outputTokens : Int)
    (finalizedAt : Instant) : UsageRequest Unit := do
  let record ← getLocked reservationId organizationId
  ensure (record.status = .reserved)
    (.database (.persistenceConflict "AI usage reservation is no longer active"))
  flush (record.finalized inputTokens outputTokens finalizedAt)

def release (reservationId organizationId : UUID) (releasedAt : Instant) : UsageRequest Unit := do
  let record ← getLocked reservationId organizationId
  if record.status = .reserved then flush (record.released releasedAt) else return

/-- `UPDATE … SET status, released_at` of one row, as it is stored. -/
def releaseRow (now : Instant) (usages : Table usageSchema) (usageId : UUID) : Table usageSchema :=
  match usages.find usageId with
  | some usage => usages.put (usage.released now)
  | none => usages

/-- The writes of `release_expired`, each of which waits for its row. -/
def releaseRows (now : Instant) : List UUID → Program TenantDatabase UsageLock UsageCommit Unit
  | [] => .pure ()
  | usageId :: usageIds => .lock (.usage usageId) fun _ =>
      .write (fun db => { db with usageRecords := releaseRow now db.usageRecords usageId })
        (releaseRows now usageIds)

/-- Answers with the reservations that were selected.  They are written in the order of their
ids. -/
def releaseExpired (organizationId : UUID) (now : Instant) : UsageRequest (List UUID) := do
  let records ← ExceptT.lift (get fun db : TenantDatabase => db.usageRecords.rows.filter fun usage =>
    decide (usage.organizationId = organizationId) && usage.isExpired now)
  let usageIds := sortOn (·.toNat) (records.map (·.id))
  ExceptT.lift (releaseRows now usageIds)
  return usageIds

end AIUsageRepository

namespace AIUsageController

/-- `_summarize`. -/
def summarize (organizationId : UUID) (now : Instant) : UsageRequest AIUsageSummary := do
  let daily ← query (AIUsageRepository.summarize organizationId (Period.day.start now) now)
  let monthly ← query (AIUsageRepository.summarize organizationId (Period.month.start now) now)
  return ⟨daily.1, daily.2, monthly.1, monthly.2⟩

variable (self : AIUsageController)

/-- The transaction of `reserve`; answers with what it released, too. -/
def reserveMetered (reservationId organizationId runId : UUID) (candidateCount : Int)
    (now : Instant) : UsageRequest (List UUID × UUID) := do
  let estimatedTokens := candidateCount * self.estimatedTokensPerCandidate
  let organization ← OrganizationRepository.getLocked organizationId
  ensure (organization.hostedAiEnabled = true)
    (.usageLimit "hosted AI inference is not enabled for this organization")
  let released ← AIUsageRepository.releaseExpired organizationId now
  let usage ← summarize organizationId now
  ensure (AIUsageController.Admits organization usage estimatedTokens)
    (.usageLimit "hosted AI usage limit has been reached")
  let id ← AIUsageRepository.reserve reservationId organizationId runId self.providerName
    self.modelVersion estimatedTokens candidateCount (now + seconds self.reservationTtlSeconds) now
  return (released, id)

def reserve (reservationId organizationId runId : UUID) (candidateCount : Int) (now : Instant) :
    UsageRequest (Option UUID) :=
  if self.isMetered then do
    ensure (1 ≤ candidateCount) (.database (.value "candidate_count must be positive"))
    let result ← Program.unitOfWork (fun result => .released result.1)
      (reserveMetered self reservationId organizationId runId candidateCount now)
    return some result.2
  else return none

def finalize (reservationId organizationId : UUID) (inputTokens outputTokens : Int)
    (now : Instant) : UsageRequest Unit :=
  Program.unitOfWork (fun _ => .finalized reservationId inputTokens outputTokens)
    (AIUsageRepository.finalize reservationId organizationId inputTokens outputTokens now)

def release (reservationId organizationId : UUID) (now : Instant) : UsageRequest Unit :=
  Program.unitOfWork (fun _ => .other) (AIUsageRepository.release reservationId organizationId now)

def summary (organizationId : UUID) (now : Instant) : UsageRequest AIUsageSummary := do
  let result ← Program.unitOfWork (fun result => .released result.1) do
    let _ ← query (getOrganization organizationId)
    let released ← AIUsageRepository.releaseExpired organizationId now
    let summary ← summarize organizationId now
    return (released, summary)
  return result.2

end AIUsageController

/-! ### Any requests -/

inductive MeteringRequest
  | reserve (reservationId organizationId runId : UUID) (candidateCount : Int) (now : Instant)
  | finalize (reservationId organizationId : UUID) (inputTokens outputTokens : Int) (now : Instant)
  | release (reservationId organizationId : UUID) (now : Instant)
  | summary (organizationId : UUID) (now : Instant)

/-- What a request runs. -/
def MeteringRequest.program (controller : AIUsageController) :
    MeteringRequest → Program TenantDatabase UsageLock UsageCommit Unit
  | .reserve reservationId organizationId runId candidateCount now =>
    serve (AIUsageController.reserve controller reservationId organizationId runId candidateCount now)
  | .finalize reservationId organizationId inputTokens outputTokens now =>
    serve (AIUsageController.finalize reservationId organizationId inputTokens outputTokens now)
  | .release reservationId organizationId now =>
    serve (AIUsageController.release reservationId organizationId now)
  | .summary organizationId now => serve (AIUsageController.summary organizationId now)

end ReconcileFlow.AI.Statements
