import ReconcileFlow.Persistence.Accounts
import ReconcileFlow.Persistence.Metering
import ReconcileFlow.Persistence.Queries
import ReconcileFlow.Persistence.Suggestions
import ReconcileFlow.Storage.Maintenance
import ReconcileFlow.Support.Isolation

/-!
# Tenancy — Database

The whole database of the tenants' data, and the repositories of the tables that the queue and the
worker do not use.  The queue's tables are those of `Persistence.Database`; the columns of source
files and results that it leaves out are in tables of their own here (`files`, `resultIds`).

An id that the database draws is an argument of the operation that draws it.
-/

namespace ReconcileFlow.Tenancy

open Support Support.Transaction
open Persistence hiding SourceFileRecord sourceFileSchema
open Storage (FileStore SourceFileRecord sourceFileSchema)
open Reconciliation (ReconciliationResult ReconciliationConfig)

/-- Under which id a result is stored. -/
structure ResultId where
  id : UUID
  runId : UUID
  resultId : String
deriving DecidableEq, Repr

def resultIdSchema : Schema ResultId UUID where
  key := (·.id)
  clash row other := decide (row.runId = other.runId ∧ row.resultId = other.resultId)
  check _ := true

structure TenantDatabase extends Database where
  files : Table sourceFileSchema := .empty
  resultIds : Table resultIdSchema := .empty
  users : Table userSchema := .empty
  organizations : Table aiOrganizationSchema := .empty
  suggestions : Table suggestionSchema := .empty
  usageRecords : Table usageSchema := .empty
  inferenceEvents : Table inferenceEventSchema := .empty

abbrev TenantSession (α : Type) := Transaction TenantDatabase Error α

/-- A unit of work on the queue's tables. -/
def onDatabase {α : Type} (x : Session α) : TenantSession α := fun db =>
  (x.run db.toDatabase).map fun (a, next) => (a, { db with toDatabase := next })

theorem runs_onDatabase {α : Type} {x : Session α} {db db' : TenantDatabase} {a : α} :
    Runs (onDatabase x) db a db' ↔
      ∃ next, Runs x db.toDatabase a next ∧ db' = { db with toDatabase := next } := by
  unfold Runs onDatabase
  show (x.run db.toDatabase).map _ = _ ↔ _
  cases x.run db.toDatabase with
  | error e => simp [Except.map]
  | ok result =>
    simp only [Except.map, Except.ok.injEq, Prod.mk.injEq]
    constructor
    · rintro ⟨rfl, rfl⟩
      exact ⟨_, rfl, rfl⟩
    · rintro ⟨next, rfl, rfl⟩
      exact ⟨rfl, rfl⟩

namespace TenantDatabase

def suggestionPart : Part TenantDatabase suggestionSchema where
  table := (·.suggestions)
  put rows db := { db with suggestions := rows }

def usagePart : Part TenantDatabase usageSchema where
  table := (·.usageRecords)
  put rows db := { db with usageRecords := rows }

def inferenceEventPart : Part TenantDatabase inferenceEventSchema where
  table := (·.inferenceEvents)
  put rows db := { db with inferenceEvents := rows }

/-- What the queries on source files read. -/
def fileStore (db : TenantDatabase) : FileStore where
  organizations := .empty
  runs := db.runs
  jobs := db.jobs
  files := db.files
  objects _ := none

end TenantDatabase

/-- The run is one of the organization's. -/
def ensureRun (runId organizationId : UUID) : TenantSession Unit := do
  let exists? ← reads fun db : TenantDatabase => ((db.runs.find runId).filter fun run =>
    decide (run.organizationId = organizationId)).isSome
  require (exists? = true) (runNotFound runId)

/-! ### Source files -/

namespace SourceFileRepository

def fileNotFound (fileId : UUID) : Error :=
  .recordNotFound ("source file " ++ fileId.format ++ " was not found")

def find (fileId organizationId : UUID) : TenantSession (Option SourceFileRecord) :=
  reads fun db => db.fileStore.findFile fileId organizationId

def get (fileId organizationId : UUID) : TenantSession SourceFileRecord := do
  let found ← find fileId organizationId
  fromOption (fileNotFound fileId) found

def findByStorageKey (storageKey : String) (organizationId : UUID) :
    TenantSession (Option SourceFileRecord) :=
  reads fun db => db.fileStore.findByStorageKey storageKey organizationId

def referencedStorageKeys (organizationId : UUID) : TenantSession (List String) :=
  reads fun db => db.fileStore.referencedStorageKeys organizationId

def listStoredForOrganization (organizationId : UUID) (limit : Nat) :
    TenantSession (List SourceFileRecord) :=
  reads fun db => Storage.listStoredForOrganization db.fileStore organizationId limit

def totalSizeForOrganization (organizationId : UUID) : TenantSession Nat :=
  reads fun db => db.fileStore.totalSizeForOrganization organizationId

/-- The row of the file, and what the worker reads of it. -/
def add (file : SourceFileRecord) : TenantSession Unit := do
  let db ← MonadState.get
  require (¬ db.files.rows.any fun other =>
      decide (other.runId = file.runId ∧ other.sourceType = file.sourceType))
    (.persistenceConflict ("run " ++ file.runId.format ++ " already has a " ++
      Storage.sourceTypeName file.sourceType ++ " source file"))
  let files ← fromOption integrityError (db.files.insert? file)
  let sourceFiles ← fromOption integrityError
    (db.sourceFiles.insert? ⟨file.runId, file.sourceType⟩)
  set { db with files := files, sourceFiles := sourceFiles }

def remove (file : SourceFileRecord) : TenantSession Unit := do
  let db ← MonadState.get
  set { db with
    files := db.files.filter fun other => decide (other.id ≠ file.id)
    sourceFiles := db.sourceFiles.filter fun other =>
      decide (¬ (other.runId = file.runId ∧ other.sourceType = file.sourceType)) }

end SourceFileRepository

/-! ### Results -/

namespace ReconciliationResultRepository

/-- The result with the id, if its run is the organization's. -/
def findIn (db : TenantDatabase) (resultId organizationId : UUID) :
    Option ReconciliationResultRecord :=
  ((db.resultIds.find resultId).filter fun row => (db.runs.find row.runId).any fun run =>
      decide (run.organizationId = organizationId)).bind fun row =>
    db.results.find (row.runId, row.resultId)

def get (resultId organizationId : UUID) : TenantSession ReconciliationResultRecord := do
  let found ← reads fun db => findIn db resultId organizationId
  fromOption (.recordNotFound ("reconciliation result " ++ resultId.format ++ " was not found")) found

def addMany (runId : UUID) (results : List (UUID × ReconciliationResult)) : TenantSession Unit := do
  onDatabase (Persistence.ReconciliationResultRepository.addMany runId (results.map (·.2)))
  let db ← MonadState.get
  let rows := results.map fun (id, result) => (⟨id, runId, result.resultId⟩ : ResultId)
  let resultIds ← fromOption integrityError
    (Table.ofRows? resultIdSchema (db.resultIds.rows ++ rows))
  set { db with resultIds := resultIds }

end ReconciliationResultRepository

/-! ### Suggestions -/

/-- What a suggestion is made of, besides its run. -/
structure SuggestionDraft where
  candidates : CandidateRecordSet
  confidenceScore : Decimal
  explanation : Metadata
  features : Metadata
  provider : String
  modelVersion : String
  promptTemplateVersion : String
  inferenceConfigVersion : String
  expiresAt : Option Instant := none

/-- The draft with its texts normalized, if its values are accepted. -/
def SuggestionDraft.checked (draft : SuggestionDraft) : Except Error SuggestionDraft := do
  if ¬ ((Decimal.ofInt 0).le draft.confidenceScore && draft.confidenceScore.le (.ofInt 1)) then
    throw (.value "confidence_score must be between 0 and 1")
  validateMetadata draft.explanation "explanation"
  validateMetadata draft.features "features"
  let provider ← requiredText draft.provider "provider" 100
  let modelVersion ← requiredText draft.modelVersion "model_version" 150
  let promptTemplateVersion ← requiredText draft.promptTemplateVersion "prompt_template_version" 100
  let inferenceConfigVersion ←
    requiredText draft.inferenceConfigVersion "inference_config_version" 100
  return { draft with provider, modelVersion, promptTemplateVersion, inferenceConfigVersion }

def SuggestionDraft.record (draft : SuggestionDraft) (id organizationId runId : UUID)
    (now : Instant) : AIMatchSuggestionRecord where
  id
  organizationId
  runId
  confidenceScore := draft.confidenceScore
  candidateFingerprint := draft.candidates.fingerprint
  bankRecordIds := draft.candidates.bankRecordIds
  erpInvoiceIds := draft.candidates.erpInvoiceIds
  gatewayRecordIds := draft.candidates.gatewayRecordIds
  explanation := draft.explanation
  features := draft.features
  provider := draft.provider
  modelVersion := draft.modelVersion
  promptTemplateVersion := draft.promptTemplateVersion
  inferenceConfigVersion := draft.inferenceConfigVersion
  expiresAt := draft.expiresAt
  createdAt := now

/-- The rows that `list_for_run` and `count_for_run` select. -/
def isListed (suggestion : AIMatchSuggestionRecord) (runId organizationId : UUID)
    (status : Option MatchSuggestionStatus) : Bool :=
  decide (suggestion.runId = runId) && decide (suggestion.organizationId = organizationId) &&
    status.all fun value => decide (suggestion.status = value)

namespace AIMatchSuggestionRepository

def create (suggestionId organizationId runId : UUID) (draft : SuggestionDraft) (now : Instant) :
    TenantSession AIMatchSuggestionRecord := do
  ensureRun runId organizationId
  let draft ← fromExcept draft.checked
  let record := draft.record suggestionId organizationId runId now
  let row ← fromExcept record.toRow
  TenantDatabase.suggestionPart.insert integrityError row
  -- the record in memory keeps the score that it was given
  return record

def get (suggestionId organizationId : UUID) : TenantSession AIMatchSuggestionRecord := do
  let found ← reads fun db : TenantDatabase => (db.suggestions.find suggestionId).filter
    fun suggestion => decide (suggestion.organizationId = organizationId)
  fromOption (.recordNotFound ("AI match suggestion " ++ suggestionId.format ++ " was not found"))
    found

def listForRun (runId organizationId : UUID) (page : Page) (status : Option MatchSuggestionStatus) :
    TenantSession (List AIMatchSuggestionRecord) :=
  reads fun db => page.of (sortOn (fun suggestion => toLex (suggestion.createdAt, suggestion.id.toNat))
    (db.suggestions.rows.filter fun suggestion => isListed suggestion runId organizationId status))

def countForRun (runId organizationId : UUID) (status : Option MatchSuggestionStatus) :
    TenantSession Nat :=
  reads fun db => (db.suggestions.rows.filter fun suggestion =>
    isListed suggestion runId organizationId status).length

/-- The suggestion, which must still be pending. -/
def getPending (suggestionId organizationId : UUID) : TenantSession AIMatchSuggestionRecord := do
  let record ← get suggestionId organizationId
  require (record.status = .pending)
    (.persistenceConflict "AI match suggestion is no longer pending")
  return record

def resolve (suggestionId organizationId reviewerUserId : UUID) (decision : MatchSuggestionStatus)
    (reviewedAt : Instant) : TenantSession AIMatchSuggestionRecord := do
  require (decision = .accepted ∨ decision = .rejected)
    (.value "decision must be ACCEPTED or REJECTED")
  let record ← getPending suggestionId organizationId
  let reviewer ← reads fun db : TenantDatabase => (db.users.find reviewerUserId).isSome
  require (reviewer = true) (.recordNotFound ("user " ++ reviewerUserId.format ++ " was not found"))
  let resolved := { record with
    status := decision
    reviewedByUserId := some reviewerUserId
    reviewedAt := some reviewedAt }
  TenantDatabase.suggestionPart.update integrityError resolved
  return resolved

def expire (suggestionId organizationId : UUID) : TenantSession AIMatchSuggestionRecord := do
  let record ← getPending suggestionId organizationId
  let expired := { record with status := .expired }
  TenantDatabase.suggestionPart.update integrityError expired
  return expired

end AIMatchSuggestionRepository

/-! ### Usage -/

namespace AIUsageRepository

def reserve (reservationId organizationId runId : UUID) (provider modelVersion : String)
    (reservedTokens candidateCount : Int) (expiresAt now : Instant) :
    TenantSession AIUsageRecord := do
  ensureRun runId organizationId
  let record : AIUsageRecord := {
    id := reservationId, organizationId, runId, provider, modelVersion, reservedTokens
    candidateCount, expiresAt, createdAt := now }
  TenantDatabase.usagePart.insert integrityError record
  return record

def get (reservationId organizationId : UUID) : TenantSession AIUsageRecord := do
  let found ← reads fun db : TenantDatabase => (db.usageRecords.find reservationId).filter
    fun usage => decide (usage.organizationId = organizationId)
  fromOption (.recordNotFound ("AI usage reservation " ++ reservationId.format ++ " was not found"))
    found

def finalize (reservationId organizationId : UUID) (inputTokens outputTokens : Int)
    (finalizedAt : Instant) : TenantSession AIUsageRecord := do
  let record ← get reservationId organizationId
  require (record.status = .reserved)
    (.persistenceConflict "AI usage reservation is no longer active")
  let finalized := record.finalized inputTokens outputTokens finalizedAt
  TenantDatabase.usagePart.update integrityError finalized
  return finalized

def release (reservationId organizationId : UUID) (releasedAt : Instant) :
    TenantSession AIUsageRecord := do
  let record ← get reservationId organizationId
  if record.status = .reserved then
    TenantDatabase.usagePart.update integrityError (record.released releasedAt)
    return record.released releasedAt
  else return record

def releaseExpired (organizationId : UUID) (now : Instant) : TenantSession Nat := do
  let records ← reads fun db : TenantDatabase => db.usageRecords.rows.filter fun usage =>
    decide (usage.organizationId = organizationId) && usage.isExpired now
  forM records fun record =>
    TenantDatabase.usagePart.update integrityError (record.released now)
  return records.length

/-- The requests and the tokens that count since a moment. -/
def summarize (organizationId : UUID) (since now : Instant) : TenantSession (Int × Int) := do
  let records ← reads fun db : TenantDatabase => db.usageRecords.rows.filter fun usage =>
    decide (usage.organizationId = organizationId) && decide (since ≤ usage.createdAt) &&
      usage.isActive now
  return ((records.map (·.reservedRequests)).sum, (records.map (·.tokens)).sum)

end AIUsageRepository

/-! ### Inference events -/

namespace AIInferenceEventRepository

def create (eventId organizationId runId : UUID)
    (provider modelVersion promptVersion inferenceConfigVersion : String) (candidateCount : Int)
    (now : Instant) : TenantSession AIInferenceEventRecord := do
  ensureRun runId organizationId
  let record : AIInferenceEventRecord := {
    id := eventId, organizationId, runId, provider, modelVersion, promptVersion
    inferenceConfigVersion, candidateCount, createdAt := now }
  TenantDatabase.inferenceEventPart.insert integrityError record
  return record

def complete (eventId organizationId : UUID) (completion : AIInferenceCompletion) :
    TenantSession AIInferenceEventRecord := do
  let found ← reads fun db : TenantDatabase => (db.inferenceEvents.find eventId).filter
    fun event => decide (event.organizationId = organizationId)
  let record ← fromOption
    (.recordNotFound ("AI inference event " ++ eventId.format ++ " was not found")) found
  require (record.outcome = .requested)
    (.persistenceConflict "AI inference event is already complete")
  TenantDatabase.inferenceEventPart.update integrityError (record.completed completion)
  return record.completed completion

def listForOrganization (organizationId : UUID) (page : Page)
    (outcome : Option AIInferenceOutcome) : TenantSession (List AIInferenceEventRecord) :=
  reads fun db => page.of (sortOn (fun event => toLex (-event.createdAt, -(event.id.toNat : Int)))
    (db.inferenceEvents.rows.filter fun event =>
      decide (event.organizationId = organizationId) &&
        outcome.all fun value => decide (event.outcome = value)))

end AIInferenceEventRepository

end ReconcileFlow.Tenancy
