import ReconcileFlow.AI.Candidates
import ReconcileFlow.Ingestion.Accepted
import ReconcileFlow.Persistence.Repositories

/-!
# AI — Selection

Which records of a completed run the generator may pair: `generate_suggestions` up to its call of the
workflow, with the scoping of the generator.  The ids of the results that need no review are
collected from all three columns into one set, and every record whose id is in it is left out; so a
record is also left out for one of another source type that has its id (`offers_open_iff`).

The records are the validated ones that the loaders return (`exists_bankItem`), told by the attributes
that are read of them.
-/

namespace ReconcileFlow.AI

open Support
open Ingestion (Attributes Runtime)
open Persistence (UUID Database runNotFound)
open Reconciliation (ReconciliationResult)

/-! ### Records -/

/-- Where a record of a source type has its values. -/
structure Projection where
  recordId : String
  amount : String
  effectiveDate : String
  currency : String
  references : List String

def projectionOf : CandidateSourceType → Projection
  | .bank => {
      recordId := "source_record_id"
      amount := "amount"
      effectiveDate := "booking_date"
      currency := "currency"
      references := ["transaction_id", "entry_reference", "end_to_end_id", "invoice_reference",
        "customer_reference", "bank_reference"] }
  | .erp => {
      recordId := "invoice_id"
      amount := "amount_due"
      effectiveDate := "issue_date"
      currency := "currency"
      references := ["invoice_id", "invoice_number", "payment_reference",
        "purchase_order_reference", "sales_order_reference"] }
  | .gateway => {
      recordId := "source_record_id"
      amount := "net_amount"
      effectiveDate := "settlement_date"
      currency := "settlement_currency"
      references := ["settlement_id", "gateway_payment_id", "invoice_reference",
        "order_reference", "gateway_reference", "bank_reference"] }

/-- The attributes of a validated record: its id and its currency have passed their checks. -/
structure SourceItem where
  sourceType : CandidateSourceType
  attributes : Attributes
  recordId_checked :
    Ingestion.requireText (projectionOf sourceType).recordId attributes = .ok attributes
  currency_checked :
    Ingestion.requireCurrency (projectionOf sourceType).currency attributes = .ok attributes

def textAt (attributes : Attributes) (name : String) : Option String :=
  match attributes name with
  | some (.text value) => some value
  | _ => none

/-- The date of an attribute that has passed `require_date`. -/
def dateAt (attributes : Attributes) (name : String) : Date :=
  match attributes name with
  | some (.date value) => value
  | _ => 0

namespace SourceItem

variable (item : SourceItem)

def recordId : String := (textAt item.attributes (projectionOf item.sourceType).recordId).getD ""

def currency : String := (textAt item.attributes (projectionOf item.sourceType).currency).getD ""

/-- `tuple(filter(None, …))`. -/
def references : List String :=
  ((projectionOf item.sourceType).references.filterMap (textAt item.attributes)).filter (· ≠ "")

end SourceItem

/-- `CandidateSourceRecord.__post_init__`. -/
def candidateRecord (upper : String → String) (organizationId runId : UUID) (item : SourceItem) :
    Except Failure CandidateSourceRecord :=
  if hid : isTextWithin 200 (strip item.recordId) = true then
    if hcurrency : isTextWithin 3 (upper (strip item.currency)) = true then
      if hreferences : item.references.length ≤ 20 ∧
          ∀ value ∈ item.references, value.length ≤ 200 then
        .ok {
          organizationId
          runId
          sourceType := item.sourceType
          recordId := strip item.recordId
          amount := Ingestion.amountAt item.attributes (projectionOf item.sourceType).amount
          effectiveDate := dateAt item.attributes (projectionOf item.sourceType).effectiveDate
          currency := upper (strip item.currency)
          references := item.references
          recordId_valid := hid
          currency_valid := hcurrency
          references_valid := hreferences }
      else .error (valueError "references exceed the safe local comparison bounds")
    else .error (valueError "currency must be a valid short code")
  else .error (valueError "record_id must be nonblank and at most 200 characters")

/-- `_candidate_records`. -/
def candidateRecords (upper : String → String) (organizationId runId : UUID)
    (items : List SourceItem) : Except Failure (List CandidateSourceRecord) :=
  items.mapM (candidateRecord upper organizationId runId)

/-! ### The request -/

/-- The stored results of the run that need no review. -/
def resolvedResults (db : Database) (runId : UUID) : List ReconciliationResult :=
  ((db.resultsOf runId).map (·.result)).filter fun result => !result.requiresReview

/-- The ids of one column. -/
def idsIn (result : ReconciliationResult) : CandidateSourceType → List String
  | .bank => result.bankSourceRecordIds
  | .erp => result.erpInvoiceIds
  | .gateway => result.gatewaySourceRecordIds

/-- The ids of all three columns, in one set. -/
def resolvedIds (db : Database) (runId : UUID) : List String :=
  (resolvedResults db runId).flatMap fun result =>
    idsIn result .bank ++ idsIn result .erp ++ idsIn result .gateway

/-- Bank transactions and ERP invoices are there. -/
def hasSourceFiles (db : Database) (runId : UUID) : Bool :=
  (db.filesOf runId).any (fun file => decide (file.sourceType = .bankTransactions)) &&
    (db.filesOf runId).any fun file => decide (file.sourceType = .erpInvoices)

/-- The records that the generator is left with, of those that have been loaded. -/
def offeredRecords (upper : String → String) (db : Database) (organizationId runId : UUID)
    (items : List SourceItem) : Except Failure (List CandidateSourceRecord) :=
  match (db.runs.find runId).filter fun run => decide (run.organizationId = organizationId) with
  | none => .error (.database (runNotFound runId))
  | some run => do
    raiseUnless (run.status = .succeeded) (.database (.api 409 "RUN_NOT_COMPLETED"
      "Suggestions require a completed reconciliation run."))
    raiseUnless (hasSourceFiles db runId = true) (.database (.api 422 "MISSING_SOURCE_FILES"
      "Bank transactions and ERP invoices are required."))
    let records ← candidateRecords upper organizationId runId items
    return records.filter (ReconciliationCandidateGenerator.isScoped organizationId runId
      (resolvedIds db runId))

/-! ### Which records are open -/

/-- The id is not among those of its own column that need no review. -/
def isOpen (db : Database) (runId : UUID) (item : SourceItem) : Bool :=
  (resolvedResults db runId).all fun result => decide (item.recordId ∉ idsIn result item.sourceType)

/-- What a candidate may be made of. -/
def WithinBounds (item : SourceItem) : Prop :=
  item.recordId.length ≤ 200 ∧ ∀ value ∈ item.references, value.length ≤ 200

instance (item : SourceItem) : Decidable (WithinBounds item) :=
  inferInstanceAs (Decidable (_ ∧ _))

section

variable {upper : String → String} {db : Database} {organizationId runId : UUID}
  {items : List SourceItem}

theorem mem_resolvedIds {value : String} :
    value ∈ resolvedIds db runId ↔
      ∃ result ∈ resolvedResults db runId, ∃ sourceType, value ∈ idsIn result sourceType := by
  unfold resolvedIds
  rw [List.mem_flatMap]
  refine exists_congr fun result => and_congr_right fun _ => ?_
  rw [List.mem_append, List.mem_append]
  constructor
  · rintro ((h | h) | h)
    · exact ⟨.bank, h⟩
    · exact ⟨.erp, h⟩
    · exact ⟨.gateway, h⟩
  · rintro ⟨sourceType, h⟩
    cases sourceType with
    | bank => exact .inl (.inl h)
    | erp => exact .inl (.inr h)
    | gateway => exact .inr h

theorem isOpen_iff {item : SourceItem} : isOpen db runId item = true ↔
    ∀ result ∈ resolvedResults db runId, item.recordId ∉ idsIn result item.sourceType := by
  simp [isOpen]

theorem isText_of_requireTextOf {name text : String} {value : Option Ingestion.Value}
    (h : Ingestion.requireTextOf name value = .ok text) : isText text = true := by
  unfold Ingestion.requireTextOf at h
  split at h
  · split at h
    · cases h
    · next hblank =>
      obtain rfl := Except.ok.inj h
      exact isText_strip (by simpa using hblank)
  · cases h

/-- An attribute that a check has stored is there. -/
theorem textAt_of_store {attributes : Attributes} {name text : String}
    (h : attributes.store name text = attributes) : textAt attributes name = some text := by
  have hself : some (Ingestion.Value.text text) = attributes name := by
    conv_rhs => rw [← h]
    exact (Function.update_self name (some (.text text)) attributes).symm
  unfold textAt
  rw [← hself]

namespace SourceItem

variable (item : SourceItem)

theorem isText_recordId : isText item.recordId = true := by
  obtain ⟨text, htext, hstored⟩ := bind_eq_ok_iff.mp item.recordId_checked
  have hself := textAt_of_store (Except.ok.inj hstored)
  rw [recordId, hself]
  exact isText_of_requireTextOf htext

theorem currency_valid : isText item.currency = true ∧ isCurrencyCode item.currency = true := by
  obtain ⟨text, htext, h⟩ := bind_eq_ok_iff.mp item.currency_checked
  obtain ⟨_, hcode, hstored⟩ := bind_eq_ok_iff.mp h
  have hself := textAt_of_store (Except.ok.inj hstored)
  rw [currency, hself]
  exact ⟨isText_of_requireTextOf htext, must_eq_ok_iff.mp hcode⟩

theorem length_references : item.references.length ≤ 20 := by
  have hfields : (projectionOf item.sourceType).references.length ≤ 6 := by
    cases item.sourceType <;> decide
  calc item.references.length
      ≤ ((projectionOf item.sourceType).references.filterMap (textAt item.attributes)).length :=
        List.length_filter_le ..
    _ ≤ (projectionOf item.sourceType).references.length := List.length_filterMap_le ..
    _ ≤ 20 := hfields.trans (by decide)

end SourceItem

/-- A record can be made a candidate if and only if its texts are short enough. -/
theorem candidateRecord_eq_ok (hupper : ∀ code, isCurrencyCode code = true → upper code = code)
    {item : SourceItem} : (∃ record, candidateRecord upper organizationId runId item = .ok record) ↔
      WithinBounds item := by
  have hid : strip item.recordId = item.recordId := strip_of_isText item.isText_recordId
  obtain ⟨htext, hcode⟩ := item.currency_valid
  have hcurrency : isTextWithin 3 (upper (strip item.currency)) = true := by
    rw [strip_of_isText htext, hupper _ hcode]
    have hlength : item.currency.length = 3 := by
      simpa using (Bool.and_eq_true_iff.mp hcode).1
    exact Bool.and_eq_true_iff.mpr ⟨htext, decide_eq_true hlength.le⟩
  unfold candidateRecord
  split
  · next hidWithin =>
    have hidLength : item.recordId.length ≤ 200 := by
      rw [hid] at hidWithin
      exact of_decide_eq_true (Bool.and_eq_true_iff.mp hidWithin).2
    split
    · next hreferences => exact iff_of_true ⟨_, rfl⟩ ⟨hidLength, hreferences.2⟩
    · next hreferences =>
      exact iff_of_false nofun fun h => hreferences ⟨item.length_references, h.2⟩
  · next hidWithin =>
    refine iff_of_false nofun fun h => hidWithin ?_
    rw [hid]
    exact Bool.and_eq_true_iff.mpr ⟨item.isText_recordId, decide_eq_true h.1⟩

theorem candidateRecord_fields {item : SourceItem} {record : CandidateSourceRecord}
    (h : candidateRecord upper organizationId runId item = .ok record) :
    record.organizationId = organizationId ∧ record.runId = runId ∧
      record.sourceType = item.sourceType ∧ record.recordId = item.recordId := by
  unfold candidateRecord at h
  split at h
  · split at h
    · split at h
      · obtain rfl := Except.ok.inj h
        exact ⟨rfl, rfl, rfl, strip_of_isText item.isText_recordId⟩
      · cases h
    · cases h
  · cases h

/-- The records of the items, if they can all be made candidates. -/
theorem candidateRecords_eq_ok
    (hupper : ∀ code, isCurrencyCode code = true → upper code = code) :
    (∃ records, candidateRecords upper organizationId runId items = .ok records) ↔
      ∀ item ∈ items, WithinBounds item := by
  induction items with
  | nil => exact iff_of_true ⟨[], rfl⟩ (List.forall_mem_nil _)
  | cons item items ih =>
    rw [List.forall_mem_cons, ← candidateRecord_eq_ok hupper, ← ih]
    constructor
    · rintro ⟨records, h⟩
      obtain ⟨record, rest, hrecord, hrest, rfl⟩ := List.forall₂_cons_left_iff.mp
        (mapM_eq_ok_iff.mp h)
      exact ⟨⟨record, hrecord⟩, rest, mapM_eq_ok_iff.mpr hrest⟩
    · rintro ⟨⟨record, hrecord⟩, rest, hrest⟩
      exact ⟨record :: rest, mapM_eq_ok_iff.mpr (.cons hrecord (mapM_eq_ok_iff.mp hrest))⟩

/-- The scoping of the generator, told of the loaded record. -/
theorem isScoped_iff {excluded : List String} {item : SourceItem} {record : CandidateSourceRecord}
    (h : candidateRecord upper organizationId runId item = .ok record) :
    ReconciliationCandidateGenerator.isScoped organizationId runId excluded record =
      decide (item.recordId ∉ excluded) := by
  obtain ⟨horganization, hrun, -, hid⟩ := candidateRecord_fields h
  simp [ReconciliationCandidateGenerator.isScoped, horganization, hrun, hid]

/-- The filter of the generator keeps what the items give that it keeps. -/
theorem filter_candidateRecords {records : List CandidateSourceRecord}
    (h : candidateRecords upper organizationId runId items = .ok records) (excluded : List String) :
    candidateRecords upper organizationId runId
        (items.filter fun item => decide (item.recordId ∉ excluded)) =
      .ok (records.filter (ReconciliationCandidateGenerator.isScoped organizationId runId
        excluded)) := by
  refine mapM_eq_ok_iff.mpr (List.rel_filter ?_ (mapM_eq_ok_iff.mp h))
  intro item record hrecord
  exact Iff.of_eq (congrArg (· = true) (isScoped_iff hrecord).symm)

/-- A record is open if its id is in no column of a result that needs no review. -/
theorem isOpen_of_notMem {item : SourceItem} (h : item.recordId ∉ resolvedIds db runId) :
    isOpen db runId item = true :=
  isOpen_iff.mpr fun result hresult hmem =>
    h (mem_resolvedIds.mpr ⟨result, hresult, item.sourceType, hmem⟩)

/-- As many items are kept as are open only if every open one is kept. -/
theorem notMem_of_length_eq
    (h : (items.filter (isOpen db runId)).length =
      (items.filter fun item => decide (item.recordId ∉ resolvedIds db runId)).length)
    {item : SourceItem} (hitem : item ∈ items) (hopen : isOpen db runId item = true) :
    item.recordId ∉ resolvedIds db runId := by
  have hkept : (items.filter fun item => decide (item.recordId ∉ resolvedIds db runId)).Sublist
      (items.filter (isOpen db runId)) :=
    List.monotone_filter_right items fun _ h => isOpen_of_notMem (of_decide_eq_true h)
  have hmem := List.mem_filter.mpr ⟨hitem, hopen⟩
  rw [← hkept.eq_of_length h.symm] at hmem
  exact of_decide_eq_true (List.mem_filter.mp hmem).2

/-- What a completed run with its files gives. -/
theorem offeredRecords_eq {run : Persistence.ReconciliationRunRecord}
    (hrun : db.runs.find runId = some run) (horganization : run.organizationId = organizationId)
    (hsucceeded : run.status = .succeeded) (hfiles : hasSourceFiles db runId = true) :
    offeredRecords upper db organizationId runId items = do
      let records ← candidateRecords upper organizationId runId items
      return records.filter (ReconciliationCandidateGenerator.isScoped organizationId runId
        (resolvedIds db runId)) := by
  have hfind : (db.runs.find runId).filter (fun run => decide (run.organizationId = organizationId)) =
      some run := by
    simp [hrun, horganization]
  rw [offeredRecords, hfind]
  simp only [raiseUnless, if_pos hsucceeded, if_pos hfiles]
  rfl

/-- **When the generator is left with the open records**: if and only if every record is short enough
to be compared, and no open record has the id of another source type's record in a result that needs
no review. -/
theorem offers_open_iff (hupper : ∀ code, isCurrencyCode code = true → upper code = code)
    {run : Persistence.ReconciliationRunRecord} (hrun : db.runs.find runId = some run)
    (horganization : run.organizationId = organizationId) (hsucceeded : run.status = .succeeded)
    (hfiles : hasSourceFiles db runId = true) :
    (∃ offered, offeredRecords upper db organizationId runId items = .ok offered ∧
      candidateRecords upper organizationId runId (items.filter (isOpen db runId)) = .ok offered) ↔
    ∀ item ∈ items, WithinBounds item ∧
      (isOpen db runId item = true → ∀ result ∈ resolvedResults db runId, ∀ sourceType,
        item.recordId ∉ idsIn result sourceType) := by
  rw [offeredRecords_eq hrun horganization hsucceeded hfiles]
  constructor
  · rintro ⟨offered, hoffered, hopen⟩
    obtain ⟨records, hrecords, hfiltered⟩ := bind_eq_ok_iff.mp hoffered
    cases hfiltered
    have hkept := filter_candidateRecords hrecords (resolvedIds db runId)
    have hlength := (mapM_eq_ok_iff.mp hopen).length_eq.trans (mapM_eq_ok_iff.mp hkept).length_eq.symm
    intro item hitem
    refine ⟨(candidateRecords_eq_ok hupper).mp ⟨records, hrecords⟩ item hitem, ?_⟩
    intro hopenItem result hresult sourceType hmem
    exact notMem_of_length_eq hlength hitem hopenItem
      (mem_resolvedIds.mpr ⟨result, hresult, sourceType, hmem⟩)
  · intro h
    obtain ⟨records, hrecords⟩ :=
      (candidateRecords_eq_ok hupper).mpr fun item hitem => (h item hitem).1
    refine ⟨_, bind_eq_ok_iff.mpr ⟨records, hrecords, rfl⟩, ?_⟩
    rw [← filter_candidateRecords hrecords (resolvedIds db runId)]
    congr 1
    refine List.filter_congr fun item hitem => ?_
    by_cases hopen : isOpen db runId item = true
    · have hnot : item.recordId ∉ resolvedIds db runId := by
        intro hmem
        obtain ⟨result, hresult, sourceType, hmem⟩ := mem_resolvedIds.mp hmem
        exact (h item hitem).2 hopen result hresult sourceType hmem
      rw [hopen, decide_eq_true hnot]
    · have hmem : ¬ item.recordId ∉ resolvedIds db runId := fun hnot => hopen (isOpen_of_notMem hnot)
      rw [Bool.eq_false_iff.mpr hopen, decide_eq_false hmem]

end

/-! ### Loaded records -/

section

open Ingestion

variable {py : Runtime} {config : IngestionConfig} {data : List (List Cell)}

theorem exists_bankItem {records : List Record} (h : loadBankTransactions py config data = .ok records)
    {record : Record} (hrecord : record ∈ records) :
    ∃ item : SourceItem, item.sourceType = .bank ∧ item.attributes = record.attributes := by
  obtain ⟨mapped, hmapped, -⟩ := bind_eq_ok_iff.mp h
  obtain ⟨row, -, hdescribed, -⟩ := exists_left_of_mem
    (loadSimple_eq_ok textless_bankTransaction allKeep_bankChecks hmapped h) hrecord
  exact ⟨{
    sourceType := .bank
    attributes := record.attributes
    recordId_checked := hdescribed.passed _ (by simp [bankChecks, projectionOf, forEach])
    currency_checked := hdescribed.passed _ (by simp [bankChecks, projectionOf]) }, rfl, rfl⟩

theorem exists_gatewayItem {records : List Record}
    (h : loadGatewaySettlements py config data = .ok records) {record : Record}
    (hrecord : record ∈ records) :
    ∃ item : SourceItem, item.sourceType = .gateway ∧ item.attributes = record.attributes := by
  obtain ⟨mapped, hmapped, -⟩ := bind_eq_ok_iff.mp h
  obtain ⟨row, -, hdescribed, -⟩ := exists_left_of_mem
    (loadSimple_eq_ok textless_gatewaySettlementEntry (allKeep_allGatewayChecks py) hmapped h) hrecord
  exact ⟨{
    sourceType := .gateway
    attributes := record.attributes
    recordId_checked := hdescribed.passed _ (by simp [gatewayChecks, projectionOf, forEach])
    currency_checked := hdescribed.passed _ (by simp [gatewayChecks, projectionOf]) }, rfl, rfl⟩

theorem exists_invoiceItem {invoices : List Invoice}
    (h : loadErpInvoices py config data = .ok invoices) {invoice : Invoice}
    (hinvoice : invoice ∈ invoices) :
    ∃ item : SourceItem, item.sourceType = .erp ∧ item.attributes = invoice.attributes := by
  obtain ⟨mapped, hmapped, -⟩ := bind_eq_ok_iff.mp h
  obtain ⟨group, -, hloaded⟩ := exists_left_of_mem (loadErpInvoices_eq_ok hmapped h) hinvoice
  exact ⟨{
    sourceType := .erp
    attributes := invoice.attributes
    recordId_checked := hloaded.described.passed _ (by
      simp [allInvoiceChecks, invoiceChecks, projectionOf, forEach])
    currency_checked := hloaded.described.passed _ (by
      simp [allInvoiceChecks, invoiceChecks, projectionOf]) }, rfl, rfl⟩

end

/-! ### A completed run -/

theorem requireText_of_isText {attributes : Attributes} {name text : String}
    (h : attributes name = some (.text text)) (htext : isText text = true) :
    Ingestion.requireText name attributes = .ok attributes := by
  have hof : Ingestion.requireTextOf name (attributes name) = .ok text := by
    rw [h, Ingestion.requireTextOf, if_neg (by simp [isText_not_blank htext]),
      strip_of_isText htext]
  have hstore : attributes.store name text = attributes := by
    rw [Attributes.store, ← h]
    exact Function.update_eq_self name attributes
  exact bind_eq_ok_iff.mpr ⟨text, hof, congrArg Except.ok hstore⟩

theorem requireCurrency_of_isText {attributes : Attributes} {name text : String}
    (h : attributes name = some (.text text)) (htext : isText text = true)
    (hcode : isCurrencyCode text = true) :
    Ingestion.requireCurrency name attributes = .ok attributes := by
  obtain ⟨found, hof, hstored⟩ := bind_eq_ok_iff.mp (requireText_of_isText h htext)
  have hfound : textAt attributes name = some found := textAt_of_store (Except.ok.inj hstored)
  obtain rfl : text = found := by
    rw [textAt, h] at hfound
    exact Option.some.inj hfound
  exact bind_eq_ok_iff.mpr ⟨text, hof, bind_eq_ok_iff.mpr ⟨(), must_eq_ok_iff.mpr hcode, hstored⟩⟩

/-- A bank transaction in euros. -/
def bankItem (recordId : String) (h : isText recordId = true) : SourceItem where
  sourceType := .bank
  attributes name := [("source_record_id", Ingestion.Value.text recordId),
    ("currency", .text "EUR")].lookup name
  recordId_checked := requireText_of_isText rfl h
  currency_checked := requireCurrency_of_isText rfl (by decide : isText "EUR" = true) (by decide)

/-- An invoice in euros. -/
def invoiceItem (recordId : String) (h : isText recordId = true) : SourceItem where
  sourceType := .erp
  attributes name := [("invoice_id", Ingestion.Value.text recordId),
    ("currency", .text "EUR")].lookup name
  recordId_checked := requireText_of_isText rfl h
  currency_checked := requireCurrency_of_isText rfl (by decide : isText "EUR" = true) (by decide)

/-- A run that has matched the bank transaction 1 with the invoice 7. -/
def matchedRun : Database where
  runs := ⟨[{ id := 2, organizationId := 1, status := .succeeded, createdAt := 0 }], by decide⟩
  sourceFiles := ⟨[⟨2, .bankTransactions⟩, ⟨2, .erpInvoices⟩], by decide⟩
  configurations := .empty
  results := ⟨[⟨2, {
    status := .exactMatch
    rule := "exact"
    bankSourceRecordIds := ["1"]
    erpInvoiceIds := ["7"]
    explanation := "equal"
    resultId := "RESULT-0001"
    amountDifference := none
    amountDifference_nonneg := .refl true }⟩], by decide⟩

theorem offers_open_matched :
    (∃ offered, offeredRecords id matchedRun 1 2
        [bankItem "1" (by decide), bankItem "2" (by decide), invoiceItem "7" (by decide)] =
          .ok offered ∧
      candidateRecords id 1 2 ([bankItem "1" (by decide), bankItem "2" (by decide),
        invoiceItem "7" (by decide)].filter (isOpen matchedRun 2)) = .ok offered) ↔
    ∀ item ∈ [bankItem "1" (by decide), bankItem "2" (by decide), invoiceItem "7" (by decide)],
      WithinBounds item ∧ (isOpen matchedRun 2 item = true →
        ∀ result ∈ resolvedResults matchedRun 2, ∀ sourceType,
          item.recordId ∉ idsIn result sourceType) :=
  have hrun : matchedRun.runs.find 2 =
      some { id := 2, organizationId := 1, status := .succeeded, createdAt := 0 } := by decide
  offers_open_iff (fun _ _ => rfl) hrun rfl rfl (by decide)

/-- The invoice 1 is open, and left out: the bank transaction 1 is not. -/
theorem open_invoice_left_out :
    ¬ ∃ offered, offeredRecords id matchedRun 1 2
        [bankItem "1" (by decide), invoiceItem "7" (by decide), invoiceItem "1" (by decide)] =
          .ok offered ∧
      candidateRecords id 1 2 ([bankItem "1" (by decide), invoiceItem "7" (by decide),
        invoiceItem "1" (by decide)].filter (isOpen matchedRun 2)) = .ok offered := by
  rintro ⟨offered, hoffered, hopen⟩
  have hnone : (offeredRecords id matchedRun 1 2 [bankItem "1" (by decide),
      invoiceItem "7" (by decide), invoiceItem "1" (by decide)]).toOption.map List.length =
        some 0 := by decide +kernel
  have hone : (candidateRecords id 1 2 ([bankItem "1" (by decide), invoiceItem "7" (by decide),
      invoiceItem "1" (by decide)].filter (isOpen matchedRun 2))).toOption.map List.length =
        some 1 := by decide +kernel
  rw [hoffered] at hnone
  rw [hopen] at hone
  exact absurd (hnone.symm.trans hone) (by decide)

end ReconcileFlow.AI
