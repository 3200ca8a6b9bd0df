import ReconcileFlow.Persistence.Effects
import ReconcileFlow.Reconciliation.Outcome
import ReconcileFlow.Results.Repository
import ReconcileFlow.Support.Numerals

/-!
# Results — Paging

What a reader of the pages gets of the engine's results.  The pages, put together, are the whole
listing (`concatenated_eq`), which is in the order of the result ids as texts.  The ids are padded
to four digits, so that up to 9999 results this is the engine's order (`formatResultId_lt`), and the
ten-thousandth result is listed before the thousand-and-first.  Of an amount only four digits after
the point are kept.  `pages_faithful_iff` puts the two together: the pages are the engine's results
if and only if there are at most 9999 of them and no amount has a fifth digit.
-/

namespace ReconcileFlow.Results

open Support Support.Transaction
open Persistence (UUID Instant Page Error)
open Reconciliation (ReconciliationResult ReconciliationEngine formatResultId deposit depositInvoice)

/-- Two amounts are the same number, or both are missing. -/
def SameAmount (stored value : Option Decimal) : Prop :=
  stored.map Decimal.toRat = value.map Decimal.toRat

/-- The row says what the result does, field by field. -/
structure Shows (record : ReconciliationResultRecord) (result : ReconciliationResult) : Prop where
  externalResultId : record.externalResultId = result.resultId
  status : record.status = result.status
  rule : record.rule = result.rule
  bankSourceRecordIds : record.bankSourceRecordIds = result.bankSourceRecordIds
  erpInvoiceIds : record.erpInvoiceIds = result.erpInvoiceIds
  gatewaySourceRecordIds : record.gatewaySourceRecordIds = result.gatewaySourceRecordIds
  expectedAmount : SameAmount record.expectedAmount result.expectedAmount
  actualAmount : SameAmount record.actualAmount result.actualAmount
  amountDifference : SameAmount record.amountDifference result.amountDifference
  currency : record.currency = result.currency
  explanation : record.explanation = result.explanation
  requiresReview : record.requiresReview = result.requiresReview

/-- The amounts that the result states. -/
def amounts (result : ReconciliationResult) : List Decimal :=
  result.expectedAmount.toList ++ result.actualAmount.toList ++ result.amountDifference.toList

/-- No digit of the amount comes after the fourth. -/
def Fits (amount : Decimal) : Prop := ∃ n : ℤ, amount.toRat * 10 ^ 4 = n

/-- The column keeps the amount. -/
theorem fits_iff (amount : Decimal) : (amount.atScale 4).numEq amount = true ↔ Fits amount := by
  rw [Decimal.numEq_iff, Decimal.toRat_atScale_iff]
  rfl

instance (amount : Decimal) : Decidable (Fits amount) := decidable_of_iff _ (fits_iff amount)

namespace ReconciliationResultRepository

/-! ### Pages -/

/-- The first `count` pages of a size, put together. -/
def concatenated (table : Table resultSchema) (runId : UUID) (limit : Nat)
    (hlimit : 1 ≤ limit ∧ limit ≤ 100) (count : Nat) : List ReconciliationResultRecord :=
  (List.range count).flatMap fun i => listForRun table runId ⟨limit, i * limit, hlimit⟩ none none

/-- Whatever the page size, the pages show the results, in their order and each once. -/
def PagesShow (table : Table resultSchema) (runId : UUID) (results : List ReconciliationResult) :
    Prop :=
  ∀ limit hlimit count, countForRun table runId none none ≤ count * limit →
    List.Forall₂ Shows (concatenated table runId limit hlimit count) results

/-- The whole listing. -/
def listing (table : Table resultSchema) (runId : UUID) : List ReconciliationResultRecord :=
  sortOn listingKey (table.rows.filter fun record => isListed record runId none none)

theorem flatMap_pages {α : Type} (rows : List α) (limit count : Nat) :
    ((List.range count).flatMap fun i => (rows.drop (i * limit)).take limit) =
      rows.take (count * limit) := by
  induction count with
  | zero => simp
  | succ count ih =>
    rw [List.range_succ, List.flatMap_append, ih, List.flatMap_singleton, Nat.succ_mul,
      List.take_add]

/-- Enough pages are the whole listing. -/
theorem concatenated_eq {table : Table resultSchema} {runId : UUID} {limit count : Nat}
    (hlimit : 1 ≤ limit ∧ limit ≤ 100) (h : countForRun table runId none none ≤ count * limit) :
    concatenated table runId limit hlimit count = listing table runId := by
  refine (flatMap_pages (listing table runId) limit count).trans (List.take_of_length_le ?_)
  rw [listing, (sortOn_perm listingKey _).length_eq]
  exact h

theorem pagesShow_iff {table : Table resultSchema} {runId : UUID}
    {results : List ReconciliationResult} :
    PagesShow table runId results ↔ List.Forall₂ Shows (listing table runId) results := by
  constructor
  · intro h
    have hall := h 1 (by decide) (countForRun table runId none none) (by rw [Nat.mul_one])
    rwa [concatenated_eq (by decide) (by rw [Nat.mul_one])] at hall
  · intro h limit hlimit count hcount
    rwa [concatenated_eq hlimit hcount]

/-! ### What is saved -/

/-- The row that a result is stored as. -/
def stored (id runId : UUID) (createdAt : Instant) (result : ReconciliationResult) :
    ReconciliationResultRecord where
  id
  runId
  externalResultId := result.resultId
  status := result.status
  rule := result.rule
  bankSourceRecordIds := result.bankSourceRecordIds
  erpInvoiceIds := result.erpInvoiceIds
  gatewaySourceRecordIds := result.gatewaySourceRecordIds
  expectedAmount := result.expectedAmount.map (Decimal.atScale 4)
  actualAmount := result.actualAmount.map (Decimal.atScale 4)
  amountDifference := result.amountDifference.map (Decimal.atScale 4)
  currency := result.currency
  explanation := result.explanation
  requiresReview := result.requiresReview
  createdAt

theorem toRecord_eq_some {id runId : UUID} {createdAt : Instant} {result : ReconciliationResult}
    {record : ReconciliationResultRecord} (h : toRecord id runId createdAt result = some record) :
    record = stored id runId createdAt result := by
  unfold toRecord at h
  obtain ⟨expected, hexpected, h⟩ := Option.bind_eq_some_iff.mp h
  obtain ⟨actual, hactual, h⟩ := Option.bind_eq_some_iff.mp h
  obtain ⟨difference, hdifference, h⟩ := Option.bind_eq_some_iff.mp h
  rw [← Option.some.inj h, Persistence.amountColumn_eq_some hexpected,
    Persistence.amountColumn_eq_some hactual, Persistence.amountColumn_eq_some hdifference]
  rfl

theorem toRecords_eq_some {runId : UUID} {createdAt : Instant} :
    ∀ {results : List (UUID × ReconciliationResult)} {records : List ReconciliationResultRecord},
      results.mapM (fun x => toRecord x.1 runId createdAt x.2) = some records →
        records = results.map fun x => stored x.1 runId createdAt x.2
  | [], records, h => by
    rw [List.mapM_nil] at h
    exact (Option.some.inj h).symm
  | x :: results, records, h => by
    rw [List.mapM_cons] at h
    obtain ⟨record, hrecord, h⟩ := Option.bind_eq_some_iff.mp h
    obtain ⟨rest, hrest, h⟩ := Option.bind_eq_some_iff.mp h
    rw [← Option.some.inj h, toRecord_eq_some hrecord, toRecords_eq_some hrest, List.map_cons]

/-- The rows that `add_many` puts behind those of before. -/
theorem runs_addMany {runId : UUID} {createdAt : Instant}
    {results : List (UUID × ReconciliationResult)} {table table' : Table resultSchema} {u : Unit}
    (h : Runs (addMany runId createdAt results) table u table') :
    table'.rows = table.rows ++ results.map fun x => stored x.1 runId createdAt x.2 := by
  simp only [addMany, runs_bind, runs_fromOption, runs_get, runs_set] at h
  obtain ⟨records, _, ⟨hrecords, rfl⟩, _, _, ⟨rfl, rfl⟩, _, _, ⟨hrows, rfl⟩, rfl⟩ := h
  rw [Table.rows_of_ofRows? hrows, toRecords_eq_some hrecords]

/-! ### What the worker has of it -/

/-- The row of the worker's table, with the columns that it leaves out. -/
def full (id : UUID) (createdAt : Instant) (row : Persistence.ReconciliationResultRecord) :
    ReconciliationResultRecord where
  id
  runId := row.runId
  externalResultId := row.result.resultId
  status := row.result.status
  rule := row.result.rule
  bankSourceRecordIds := row.result.bankSourceRecordIds
  erpInvoiceIds := row.result.erpInvoiceIds
  gatewaySourceRecordIds := row.result.gatewaySourceRecordIds
  expectedAmount := row.result.expectedAmount
  actualAmount := row.result.actualAmount
  amountDifference := row.result.amountDifference
  currency := row.result.currency
  explanation := row.result.explanation
  requiresReview := row.result.requiresReview
  createdAt

/-- The worker's rows are these, without the columns that it leaves out. -/
def Projects (records : List ReconciliationResultRecord)
    (rows : List Persistence.ReconciliationResultRecord) : Prop :=
  List.Forall₂ (fun record row => record = full record.id record.createdAt row) records rows

/-- What the table of all columns allows, the worker's table allows. -/
theorem Projects.valid {rows : List Persistence.ReconciliationResultRecord} {table : Table resultSchema}
    (h : Projects table.rows rows) : Persistence.resultSchema.Valid rows := by
  have hcolumns {records : List ReconciliationResultRecord} (h : Projects records rows) :
      rows.map Persistence.resultSchema.key =
          records.map (fun record => (record.runId, record.externalResultId)) ∧
        rows.map Persistence.resultSchema.check = records.map resultSchema.check := by
    clear * - h
    induction h with
    | nil => exact ⟨rfl, rfl⟩
    | cons hrow _ ih =>
      rw [hrow, List.map_cons, List.map_cons, List.map_cons, List.map_cons, ih.1, ih.2]
      exact ⟨rfl, rfl⟩
  obtain ⟨hkeys, hchecks⟩ := hcolumns h
  refine ⟨?_, List.pairwise_of_forall fun _ _ => rfl, fun row hm => ?_⟩
  · rw [hkeys, List.Nodup, List.pairwise_map]
    refine table.valid.2.1.imp fun {record other} hclash he => ?_
    rw [Bool.or_eq_false_iff] at hclash
    exact of_decide_eq_false hclash.1 ⟨congrArg Prod.fst he, congrArg Prod.snd he⟩
  · have hchecked : Persistence.resultSchema.check row ∈ table.rows.map resultSchema.check :=
      hchecks ▸ List.mem_map_of_mem hm
    obtain ⟨record, hrecord, he⟩ := List.mem_map.mp hchecked
    rw [← he]
    exact table.valid.2.2 record hrecord

theorem allToColumns_of_toRecords {runId : UUID} {createdAt : Instant}
    {results : List (UUID × ReconciliationResult)} {records : List ReconciliationResultRecord}
    (h : results.mapM (fun x => toRecord x.1 runId createdAt x.2) = some records) :
    (results.map (·.2)).mapM Persistence.toColumns =
      some ((results.map (·.2)).map Persistence.storedResult) := by
  induction results generalizing records with
  | nil => rfl
  | cons x results ih =>
    rw [List.mapM_cons] at h
    obtain ⟨record, hrecord, h⟩ := Option.bind_eq_some_iff.mp h
    obtain ⟨rest, hrest, -⟩ := Option.bind_eq_some_iff.mp h
    unfold toRecord at hrecord
    obtain ⟨expected, hexpected, hrecord⟩ := Option.bind_eq_some_iff.mp hrecord
    obtain ⟨actual, hactual, hrecord⟩ := Option.bind_eq_some_iff.mp hrecord
    obtain ⟨difference, hdifference, -⟩ := Option.bind_eq_some_iff.mp hrecord
    have hfirst : Persistence.toColumns x.2 = some (Persistence.storedResult x.2) := by
      simp only [Persistence.toColumns, hexpected, hactual, hdifference]
      rfl
    rw [List.map_cons, List.mapM_cons, hfirst, ih hrest]
    rfl

/-- **The worker's `add_many` is this one**, without the columns that it leaves out. -/
theorem projects_addMany {runId : UUID} {createdAt : Instant}
    {results : List (UUID × ReconciliationResult)} {table table' : Table resultSchema} {u : Unit}
    {db : Persistence.Database} (h : Projects table.rows db.results.rows)
    (hrun : Runs (addMany runId createdAt results) table u table') :
    ∃ db', Runs (Persistence.ReconciliationResultRepository.addMany runId (results.map (·.2))) db ()
      db' ∧ Projects table'.rows db'.results.rows := by
  have hrows := runs_addMany hrun
  simp only [addMany, runs_bind, runs_fromOption] at hrun
  obtain ⟨records, _, ⟨hrecords, rfl⟩, -⟩ := hrun
  have hnew : Projects table'.rows (db.results.rows ++
      ((results.map (·.2)).map Persistence.storedResult).map (⟨runId, ·⟩)) := by
    rw [hrows]
    refine List.rel_append h ?_
    rw [List.map_map, List.map_map, List.forall₂_map_left_iff, List.forall₂_map_right_iff,
      List.forall₂_same]
    exact fun _ _ => rfl
  obtain ⟨rows, hstored⟩ := Table.exists_ofRows? hnew.valid
  refine ⟨{ db with results := rows }, ?_, ?_⟩
  · simp only [Persistence.ReconciliationResultRepository.addMany, runs_bind, runs_fromOption,
      runs_get, runs_set]
    exact ⟨_, db, ⟨allToColumns_of_toRecords hrecords, rfl⟩, db, db, ⟨rfl, rfl⟩, rows, db,
      ⟨hstored, rfl⟩, rfl⟩
  · rw [Table.rows_of_ofRows? hstored]
    exact hnew

/-! ### What is shown of it -/

theorem sameAmount_iff {amount : Option Decimal} :
    SameAmount (amount.map (Decimal.atScale 4)) amount ↔ ∀ value ∈ amount, Fits value := by
  cases amount with
  | none => simp [SameAmount]
  | some value => simp [SameAmount, ← fits_iff, Decimal.numEq_iff]

/-- A stored result shows what it was unless an amount has lost a digit. -/
theorem shows_stored_iff {id runId : UUID} {createdAt : Instant} {result : ReconciliationResult} :
    Shows (stored id runId createdAt result) result ↔ ∀ amount ∈ amounts result, Fits amount := by
  have hamounts : (∀ amount ∈ amounts result, Fits amount) ↔
      (∀ value ∈ result.expectedAmount, Fits value) ∧ (∀ value ∈ result.actualAmount, Fits value) ∧
        ∀ value ∈ result.amountDifference, Fits value := by
    simp only [amounts, List.forall_mem_append, Option.mem_toList, Option.mem_def, and_assoc]
  rw [hamounts, ← sameAmount_iff, ← sameAmount_iff, ← sameAmount_iff]
  constructor
  · intro h
    exact ⟨h.expectedAmount, h.actualAmount, h.amountDifference⟩
  · rintro ⟨hexpected, hactual, hdifference⟩
    exact ⟨rfl, rfl, rfl, rfl, rfl, rfl, hexpected, hactual, hdifference, rfl, rfl, rfl⟩

/-! ### The order of the listing -/

/-- **Up to four digits the ids are in order as texts.** -/
theorem formatResultId_lt {m n : Nat} (h : m < n) (hn : n < 10 ^ 4) :
    formatResultId m < formatResultId n := by
  rw [String.lt_iff_toList_lt]
  simp only [formatResultId, String.toList_append, String.toList_ofList]
  exact List.append_left_lt (padded_lt_padded h hn)

variable {runId : UUID} {createdAt : Instant} {results : List (UUID × ReconciliationResult)}
  {table table' : Table resultSchema}

/-- The run had no results before, so its listing is of those that were saved. -/
theorem listing_addMany {u : Unit} (hnew : ∀ record ∈ table.rows, record.runId ≠ runId)
    (h : Runs (addMany runId createdAt results) table u table') :
    listing table' runId =
      sortOn listingKey (results.map fun x => stored x.1 runId createdAt x.2) := by
  have hbefore : table.rows.filter (fun record => isListed record runId none none) = [] := by
    refine List.filter_eq_nil_iff.mpr fun record hrecord hlisted => hnew record hrecord ?_
    simpa [isListed] using hlisted
  have hsaved : (results.map fun x => stored x.1 runId createdAt x.2).filter
      (fun record => isListed record runId none none) =
      results.map fun x => stored x.1 runId createdAt x.2 := by
    refine List.filter_eq_self.mpr fun record hrecord => ?_
    obtain ⟨x, -, rfl⟩ := List.mem_map.mp hrecord
    simp [isListed, stored]
  rw [listing, runs_addMany h, List.filter_append, hbefore, hsaved, List.nil_append]

/-- The ids of the rows of a listing that shows the results. -/
theorem ids_of_shows {records : List ReconciliationResultRecord}
    {results : List ReconciliationResult} (h : List.Forall₂ Shows records results) :
    records.map (·.externalResultId) = results.map (·.resultId) := by
  induction h with
  | nil => rfl
  | cons hshows _ ih => rw [List.map_cons, List.map_cons, hshows.externalResultId, ih]

theorem listingKey_le_iff {x y : UUID × ReconciliationResult} :
    listingKey (stored x.1 runId createdAt x.2) ≤ listingKey (stored y.1 runId createdAt y.2) ↔
      x.2.resultId ≤ y.2.resultId := by
  simp [listingKey, stored, Prod.Lex.toLex_le_toLex]

/-- The results of the engine are numbered. -/
theorem resultIds_reconcile {engine : ReconciliationEngine} {banks : List BankTransaction}
    {erp : List ERPInvoice} {gateways : List GatewaySettlementEntry}
    {results : List ReconciliationResult}
    (h : engine.reconcile banks erp gateways = .ok results) :
    results.map (·.resultId) = (List.range results.length).map fun n => formatResultId (n + 1) := by
  rcases engine.reconcile_cases banks erp gateways with ⟨-, hok⟩ | ⟨source, -, herror⟩
  · rw [hok] at h
    obtain rfl := Except.ok.inj h
    rw [Reconciliation.State.results_numbered, Reconciliation.resultIds_number]
    simp [Reconciliation.number]
  · rw [herror] at h
    cases h

/-- Numbered results are listed in their order if there are at most 9999. -/
theorem sortOn_stored_of_le
    (hids : results.map (·.2.resultId) =
      (List.range results.length).map fun n => formatResultId (n + 1))
    (hlen : results.length ≤ 9999) :
    sortOn listingKey (results.map fun x => stored x.1 runId createdAt x.2) =
      results.map fun x => stored x.1 runId createdAt x.2 := by
  refine List.Pairwise.insertionSort_eq (List.pairwise_map.mpr ?_)
  have hordered : (results.map (·.2.resultId)).Pairwise (· ≤ ·) := by
    rw [hids, List.pairwise_map]
    refine List.pairwise_lt_range.imp_of_mem fun {m n} _ hn hmn => ?_
    have hn := List.mem_range.mp hn
    exact (formatResultId_lt (by omega) (by omega)).le
  exact (List.pairwise_map.mp hordered).imp listingKey_le_iff.mpr

/-- From the ten-thousandth result on the listing is not in the order of the ids' numbers. -/
theorem length_le_of_shows
    (hids : results.map (·.2.resultId) =
      (List.range results.length).map fun n => formatResultId (n + 1))
    (h : List.Forall₂ Shows
      (sortOn listingKey (results.map fun x => stored x.1 runId createdAt x.2))
      (results.map (·.2))) : results.length ≤ 9999 := by
  by_contra hlen
  have hsorted : ((sortOn listingKey
      (results.map fun x => stored x.1 runId createdAt x.2)).map (·.externalResultId)).Pairwise
        (· ≤ ·) := by
    refine List.pairwise_map.mpr ((sortOn_pairwise listingKey _).imp_of_mem fun hr hs hle => ?_)
    rw [mem_sortOn] at hr hs
    obtain ⟨x, -, rfl⟩ := List.mem_map.mp hr
    obtain ⟨y, -, rfl⟩ := List.mem_map.mp hs
    exact listingKey_le_iff.mp hle
  rw [ids_of_shows h, List.map_map] at hsorted
  have hsorted : (results.map (·.2.resultId)).Pairwise (· ≤ ·) := hsorted
  rw [hids, List.pairwise_map] at hsorted
  have hmisplaced := List.pairwise_iff_getElem.mp hsorted 1000 9999 (by simp; omega) (by simp; omega)
    (by decide)
  rw [List.getElem_range, List.getElem_range] at hmisplaced
  exact absurd hmisplaced (not_le_of_gt (by decide +kernel))

/-- **When the pages are the engine's results.**  The results of a reconciliation, saved for a run
that had none, are read back from the pages field by field and in their order, whatever the page
size, if and only if there are at most 9999 of them and no amount has a fifth digit after the
point. -/
theorem pages_faithful_iff {engine : ReconciliationEngine} {banks : List BankTransaction}
    {erp : List ERPInvoice} {gateways : List GatewaySettlementEntry} {u : Unit}
    (hengine : engine.reconcile banks erp gateways = .ok (results.map (·.2)))
    (hnew : ∀ record ∈ table.rows, record.runId ≠ runId)
    (hsave : Runs (addMany runId createdAt results) table u table') :
    PagesShow table' runId (results.map (·.2)) ↔
      results.length ≤ 9999 ∧ ∀ x ∈ results, ∀ amount ∈ amounts x.2, Fits amount := by
  have hids : results.map (·.2.resultId) =
      (List.range results.length).map fun n => formatResultId (n + 1) := by
    have := resultIds_reconcile hengine
    rwa [List.map_map, List.length_map] at this
  have hpairs : List.Forall₂ Shows (results.map fun x => stored x.1 runId createdAt x.2)
      (results.map (·.2)) ↔ ∀ x ∈ results, ∀ amount ∈ amounts x.2, Fits amount := by
    rw [List.forall₂_map_left_iff, List.forall₂_map_right_iff, List.forall₂_same]
    exact forall₂_congr fun _ _ => shows_stored_iff
  rw [pagesShow_iff, listing_addMany hnew hsave]
  constructor
  · intro h
    have hlen := length_le_of_shows hids h
    rw [sortOn_stored_of_le hids hlen] at h
    exact ⟨hlen, hpairs.mp h⟩
  · rintro ⟨hlen, hfits⟩
    rw [sortOn_stored_of_le hids hlen]
    exact hpairs.mpr hfits

/-- The one result of a deposit and its invoice. -/
def depositResult : ReconciliationResult :=
  ⟨Reconciliation.ReconciliationEngine.exactResult deposit depositInvoice, "RESULT-0001"⟩

theorem pages_faithful_deposit : ∃ table',
    Runs (addMany 7 0 [(1, depositResult)]) .empty () table' ∧
      PagesShow table' 7 [depositResult] := by
  have hengine : (⟨.ascii, {}⟩ : ReconciliationEngine).reconcile [deposit] [depositInvoice] [] =
      .ok ([((1 : UUID), depositResult)].map (·.2)) := by decide +kernel
  have hempty : ∀ record ∈ (.empty : Table resultSchema).rows, record.runId ≠ 7 :=
    fun _ hrecord => absurd hrecord List.not_mem_nil
  exact ⟨_, rfl, (pages_faithful_iff hengine hempty rfl).mpr (by decide)⟩

/-- The deposit and its invoice, with a fifth digit in their amount. -/
def fineDeposit : BankTransaction :=
  { deposit with amount := ⟨false, 10000001, -5⟩, amount_valid := by decide }

def fineInvoice : ERPInvoice :=
  { depositInvoice with amountDue := ⟨false, 10000001, -5⟩, amountDue_valid := by decide }

def fineResult : ReconciliationResult :=
  ⟨Reconciliation.ReconciliationEngine.exactResult fineDeposit fineInvoice, "RESULT-0001"⟩

/-- The match of 100.00001 EUR is read back as one of 100.0000 EUR. -/
theorem fifth_digit_lost :
    (⟨.ascii, {}⟩ : ReconciliationEngine).reconcile [fineDeposit] [fineInvoice] [] =
        .ok [fineResult] ∧
      ∃ table', Runs (addMany 7 0 [(1, fineResult)]) .empty () table' ∧
        ¬ PagesShow table' 7 [fineResult] := by
  refine ⟨by decide +kernel, _, rfl, fun h => ?_⟩
  obtain ⟨hshows, -⟩ := List.forall₂_cons.mp (h 1 (by decide) 1 (by decide))
  have hamount := Option.some.inj hshows.expectedAmount
  rw [← Decimal.numEq_iff] at hamount
  revert hamount
  decide

end ReconciliationResultRepository

end ReconcileFlow.Results
