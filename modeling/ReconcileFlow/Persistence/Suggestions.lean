import Mathlib.Data.String.Basic
import ReconcileFlow.Persistence.Records
import ReconcileFlow.Support.Sorting

/-!
# Persistence — Suggestions

The rows of AI match suggestions, and what their metadata has to be.  The fingerprint of the
candidates is a SHA-256 digest; it is told by what is digested.
-/

namespace ReconcileFlow.Persistence

open Support

/-! ### Candidates -/

/-- Internal record identifiers proposed as one advisory match. -/
structure CandidateRecordSet where
  bankRecordIds : List String := []
  erpInvoiceIds : List String := []
  gatewayRecordIds : List String := []
  valid : bankRecordIds ++ erpInvoiceIds ++ gatewayRecordIds ≠ [] ∧
    ∀ group ∈ [bankRecordIds, erpInvoiceIds, gatewayRecordIds],
      group.Nodup ∧ ∀ value ∈ group, isBlank value = false ∧ value.length ≤ 200

/-- What is digested: the sorted identifiers of each group. -/
structure CandidateFingerprint where
  bank : List String
  erp : List String
  gateway : List String
deriving DecidableEq, Repr

def CandidateRecordSet.fingerprint (candidates : CandidateRecordSet) : CandidateFingerprint where
  bank := sortOn id candidates.bankRecordIds
  erp := sortOn id candidates.erpInvoiceIds
  gateway := sortOn id candidates.gatewayRecordIds

/-! ### Metadata -/

/-- A JSON value, or another object of Python. -/
inductive Metadata
  | null
  | bool (value : Bool)
  | number (value : Decimal)
  | text (value : String)
  | list (items : List Metadata)
  | object (fields : List (String × Metadata))
  | other

/-- `lower()`, as far as it makes ASCII letters. -/
def lower (value : String) : String :=
  String.ofList (value.toList.flatMap fun c =>
    let n := c.toNat
    if 65 ≤ n ∧ n ≤ 90 then [Char.ofNat (n + 32)]
    else if n = 0x212A then ['k']
    else if n = 0x130 then ['i', Char.ofNat 0x307]
    else [c])

/-- `_FORBIDDEN_METADATA_TERMS`. -/
def forbiddenMetadataTerms : List String :=
  ["authorization", "credential", "endpoint", "key", "path", "prompt", "raw", "response", "secret",
    "token", "url"]

/-- A term is forbidden anywhere in the key. -/
def isForbidden (key : String) : Bool :=
  let normalized := (lower key).toList.map fun c => if c = '-' then '_' else c
  forbiddenMetadataTerms.any fun term => decide (term.toList <:+: normalized)

mutual

/-- `inspect`. -/
def inspect (field : String) : Metadata → Except Error Unit
  | .object fields => inspectFields field fields
  | .list items => do
    if 100 < items.length then throw (.value (field ++ " contains too many values"))
    inspectItems field items
  | .text value =>
    if 500 < value.length then throw (.value (field ++ " text values must not exceed 500 characters"))
    else return
  | .other => throw (.value (field ++ " contains a non-JSON value"))
  | .null | .bool _ | .number _ => return

def inspectFields (field : String) : List (String × Metadata) → Except Error Unit
  | [] => return
  | (key, nested) :: fields => do
    if isForbidden key then throw (.value (field ++ " contains a forbidden field"))
    inspect field nested
    inspectFields field fields

def inspectItems (field : String) : List Metadata → Except Error Unit
  | [] => return
  | nested :: items => do
    inspect field nested
    inspectItems field items

end

/-- `_validate_metadata`. -/
def validateMetadata (value : Metadata) (field : String) : Except Error Unit :=
  match value with
  | .object (first :: fields) => inspect field (.object (first :: fields))
  | _ => throw (.value (field ++ " must be a non-empty structured object"))

/-- `_required_text`. -/
def requiredText (value field : String) (maximum : Nat) : Except Error String :=
  let normalized := strip value
  if normalized = "" ∨ maximum < normalized.length then
    throw (.value (field ++ " must be nonblank and at most " ++ toString maximum ++ " characters"))
  else return normalized

/-! ### Rows -/

inductive MatchSuggestionStatus
  | pending | accepted | rejected | expired
deriving DecidableEq, Repr

structure AIMatchSuggestionRecord where
  id : UUID
  organizationId : UUID
  runId : UUID
  status : MatchSuggestionStatus := .pending
  confidenceScore : Decimal
  candidateFingerprint : CandidateFingerprint
  bankRecordIds : List String
  erpInvoiceIds : List String
  gatewayRecordIds : List String
  explanation : Metadata
  features : Metadata
  provider : String
  modelVersion : String
  promptTemplateVersion : String
  inferenceConfigVersion : String
  reviewedByUserId : Option UUID := none
  reviewedAt : Option Instant := none
  expiresAt : Option Instant := none
  createdAt : Instant

/-- The text has a NUL, which no column of text takes. -/
def hasNul (value : String) : Bool := value.toList.contains (Char.ofNat 0)

def nulRefused : Error := .runtime "PostgreSQL text fields cannot contain NUL (0x00) bytes"

/-- A NUL is no space. -/
theorem hasNul_strip (value : String) : hasNul (strip value) = hasNul value := by
  simp only [hasNul, strip, String.toList_ofList, List.contains_eq_mem, List.mem_reverse,
    mem_dropWhile_iff (show isSpace (Char.ofNat 0) = false from rfl)]

namespace AIMatchSuggestionRecord

/-- The texts of the record that are columns of their own. -/
def texts (record : AIMatchSuggestionRecord) : List String :=
  [record.provider, record.modelVersion, record.promptTemplateVersion,
    record.inferenceConfigVersion]

/-- The record as its row has it: the score is a column `Numeric(5, 4)`. -/
def stored (record : AIMatchSuggestionRecord) : AIMatchSuggestionRecord :=
  { record with confidenceScore := record.confidenceScore.atScale 4 }

/-- The row of a new record, if the columns take its values. -/
def toRow (record : AIMatchSuggestionRecord) : Except Error AIMatchSuggestionRecord := do
  if record.texts.any hasNul then throw nulRefused
  if (record.confidenceScore.numeric 5 4).isNone then throw (.runtime "numeric field overflow")
  return record.stored

theorem toRow_ok {record row : AIMatchSuggestionRecord} (h : record.toRow = .ok row) :
    row = record.stored := by
  simp only [toRow] at h
  split at h
  · cases h
  · split at h
    · cases h
    · exact (Except.ok.inj h).symm

/-- Only a NUL is in the way of a row whose score is from 0 to 1. -/
theorem toRow_of_fraction {record : AIMatchSuggestionRecord}
    (hzero : (Decimal.ofInt 0).le record.confidenceScore = true)
    (hone : record.confidenceScore.le (.ofInt 1) = true) :
    record.toRow = if record.texts.any hasNul then .error nulRefused else .ok record.stored := by
  simp only [toRow, (Decimal.fraction_numeric 4 hzero hone).1]
  split <;> rfl

end AIMatchSuggestionRecord

/-- A run has at most one suggestion of the same candidates. -/
def suggestionSchema : Schema AIMatchSuggestionRecord UUID where
  key := (·.id)
  clash suggestion other := decide (suggestion.organizationId = other.organizationId ∧
    suggestion.runId = other.runId ∧
    suggestion.candidateFingerprint = other.candidateFingerprint)
  check suggestion :=
    (Decimal.ofInt 0).le suggestion.confidenceScore && suggestion.confidenceScore.le (.ofInt 1) &&
      decide (suggestion.confidenceScore.numeric 5 4 = some suggestion.confidenceScore) &&
      (suggestion.texts.all fun text => !isBlank text && !hasNul text) &&
      (suggestion.expiresAt.all fun expiresAt => decide (suggestion.createdAt < expiresAt)) &&
      decide (suggestion.reviewedByUserId.isSome = suggestion.reviewedAt.isSome) &&
      (decide (suggestion.status ≠ .accepted ∧ suggestion.status ≠ .rejected) ||
        suggestion.reviewedByUserId.isSome)

end ReconcileFlow.Persistence
