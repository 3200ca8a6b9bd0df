import ReconcileFlow.Exporting.Writing
import ReconcileFlow.Ingestion.Files
import ReconcileFlow.Ingestion.Headers

/-!
# Exporting — Reading

An exported CSV file as a source file.  The ingestion reads the columns and, for each result, a row of
the texts that were written, whatever characters are in them (`read_exported`).  So what the exported
rows tell of the results (`export_recovered_iff`) can be told from the file.
-/

namespace ReconcileFlow.Exporting

open Support
open Ingestion (Cell Row SourceFile SourceConfig LoadWorkbook FileFailure fieldSizeLimit readFile key
  keyChars)
open Reconciliation (ReconciliationResult)

/-! ### What is in the file -/

/-- The contents of the destination after an export. -/
theorem contents_of_export {disk : Disk} {results : List ReconciliationResult} {suffix : String}
    {overwrite : Bool} {before after : Option Node}
    (h : (exportResultsCsv disk results suffix overwrite).run before = .ok () after) :
    suffix = ".csv" ∧ after = some (.file (csvDocument (resultsToDicts results))) := by
  obtain ⟨_, opened, hprepare, hwrite⟩ := run_bind_eq_ok h
  constructor
  · by_contra hsuffix
    rw [prepareOutput, if_pos hsuffix] at hprepare
    cases hprepare
  · unfold writeDocument at hwrite
    split at hwrite
    · cases hwrite
    · obtain ⟨_, _, _, hthrow⟩ := run_bind_eq_ok hwrite
      cases hthrow
    · cases hwrite
      rfl

/-! ### What is read from it -/

/-- The case of lower-case letters is folded already. -/
def FoldsLower (casefold : String → String) : Prop :=
  ∀ text : String, (∀ c ∈ text.toList, c.isLower = true ∨ c = ' ') → casefold text = text

/-- The row of a result, as the ingestion reads it. -/
def exportedRow (row : ResultRow) (number : Nat) : Row :=
  ⟨number, resultColumns.zip (row.texts.map Cell.text)⟩

/-- The rows of the results: the first of them follows the columns. -/
def exportedTable (results : List ReconciliationResult) : List Row :=
  ((resultsToDicts results).zipIdx 2).map fun (row, number) => exportedRow row number

theorem nodup_keys {py : Ingestion.Runtime} (hfold : FoldsLower py.casefold) :
    (resultColumns.map (key py)).Nodup := by
  have hlower : (resultColumns.all fun name =>
      (keyChars name.toList).all fun c => c.isLower || c == ' ') = true := by decide +kernel
  have hkeys : resultColumns.map (key py) =
      (resultColumns.map fun name => keyChars name.toList).map String.ofList := by
    rw [List.map_map]
    refine List.map_congr_left fun name hname => ?_
    rw [Ingestion.key_eq, hfold]
    · rfl
    · rw [String.toList_ofList]
      simpa using List.all_eq_true.mp hlower name hname
  have hchars : (resultColumns.map fun name => keyChars name.toList).Nodup := by decide +kernel
  rw [hkeys]
  exact hchars.map fun _ _ h => String.ofList_injective h

theorem rowsOf_exported (rows : List ResultRow) :
    Ingestion.rowsOf resultColumns (rows.map fun row => row.texts.map Cell.text) =
      (rows.zipIdx 2).map fun (row, number) => exportedRow row number := by
  have hpresent (row : ResultRow) : (row.texts.map Cell.text).any Cell.isPresent = true := by
    -- the truth value of the last column is never empty
    refine List.any_eq_true.mpr ⟨.text (if row.requiresReview then "True" else "False"), ?_, ?_⟩
    · simp [ResultRow.texts]
    · cases row.requiresReview <;> rfl
  rw [Ingestion.rowsOf, List.zipIdx_map, List.filter_map, List.map_map, List.filter_eq_self.mpr]
  · rfl
  · exact fun p _ => hpresent p.1

/-- The value that a column of a row has. -/
def cellText (row : Row) (column : String) : String :=
  match row.values.lookup column with
  | some (.text value) => value
  | _ => ""

/-- A value that may be `None`, which is written as an empty text. -/
def given (text : String) : Option String := if text = "" then none else some text

/-- A row that was read, as the dictionary of a result. -/
def resultRowOf (row : Row) : ResultRow where
  resultId := cellText row "result_id"
  status := cellText row "status"
  rule := cellText row "rule"
  bankSourceRecordIds := cellText row "bank_source_record_ids"
  erpInvoiceIds := cellText row "erp_invoice_ids"
  gatewaySourceRecordIds := cellText row "gateway_source_record_ids"
  expectedAmount := given (cellText row "expected_amount")
  actualAmount := given (cellText row "actual_amount")
  amountDifference := given (cellText row "amount_difference")
  currency := given (cellText row "currency")
  explanation := cellText row "explanation"
  requiresReview := decide (cellText row "requires_review" = "True")

theorem given_getD {value : Option String} (h : value ≠ some "") : given (value.getD "") = value := by
  cases value with
  | none => rfl
  | some text => exact if_neg fun ht => h (congrArg some ht)

theorem decimalText_ne (value : Option Decimal) : decimalText value ≠ some "" := by
  cases value with
  | none =>
    intro h
    cases h
  | some d =>
    intro h
    have hlist := congrArg String.toList (Option.some.inj h)
    rw [String.toList_ofList, DecimalText.fixed] at hlist
    have hdigits := (List.append_eq_nil_iff.mp (List.append_eq_nil_iff.mp hlist).2).1
    exact DecimalText.fixedDigits_ne_nil d hdigits

/-- Everything but a currency that is empty is read as it was. -/
theorem resultRowOf_exportedRow (result : ReconciliationResult) (number : Nat) :
    resultRowOf (exportedRow (resultToDict result) number) =
      { resultToDict result with currency := given (result.currency.getD "") } := by
  have hamount := fun value => given_getD (decimalText_ne value)
  refine ResultRow.mk.injEq .. ▸ ⟨rfl, rfl, rfl, rfl, rfl, rfl, ?_, ?_, ?_, rfl, rfl, ?_⟩
  · exact hamount result.expectedAmount
  · exact hamount result.actualAmount
  · exact hamount result.amountDifference
  · change decide ((if result.requiresReview then "True" else "False") = "True") = _
    cases h : result.requiresReview <;> simp [resultToDict, h]

theorem rows_resultRowOf (results : List ReconciliationResult) :
    (exportedTable results).map resultRowOf =
      results.map fun result =>
        { resultToDict result with currency := given (result.currency.getD "") } := by
  have hfst : (resultsToDicts results).zipIdx 2 =
      ((results.zipIdx 2).map fun p => (resultToDict p.1, p.2)) := by
    rw [resultsToDicts, List.zipIdx_map]
    rfl
  rw [exportedTable, hfst, List.map_map, List.map_map]
  conv_rhs => rw [← List.zipIdx_map_fst 2 results, List.map_map]
  exact List.map_congr_left fun p _ => resultRowOf_exportedRow p.1 p.2

theorem recovers_congr {other : Char → Option (Fin 10)} {result : ReconciliationResult}
    {row row' : ResultRow} (hids : ∀ source, row.ids source = row'.ids source)
    (hamount : ∀ amount, row.amount amount = row'.amount amount) :
    Recovers other result row ↔ Recovers other result row' := by
  constructor
  · intro h
    exact ⟨fun source => hids source ▸ h.ids source, fun amount => hamount amount ▸ h.amounts amount⟩
  · intro h
    refine ⟨fun source => ?_, fun amount => ?_⟩
    · rw [hids]
      exact h.ids source
    · rw [hamount]
      exact h.amounts amount

/-- The rows that are read recover the results if and only if no id has a bar in it. -/
theorem recovers_read_iff (other : Char → Option (Fin 10)) (results : List ReconciliationResult)
    (hids : ∀ result ∈ results, ∀ source, ∀ id ∈ result.ids source, isText id = true)
    (hrange : ∀ result ∈ results, ∀ amount d, amountOf result amount = some d →
      DecimalText.inRange d = true) :
    List.Forall₂ (Recovers other) results ((exportedTable results).map resultRowOf) ↔
      ∀ result ∈ results, ∀ source, ∀ id ∈ result.ids source, '|' ∉ id.toList := by
  rw [rows_resultRowOf, List.forall₂_map_right_iff, List.forall₂_same]
  refine forall₂_congr fun result hresult => ?_
  rw [← recovers_resultToDict_iff other (hids result hresult) (hrange result hresult)]
  exact recovers_congr (fun source => by cases source <;> rfl) fun amount => by cases amount <;> rfl

/-- **An exported file is read as it was written**: as the columns, and a row of the texts of each
result.  The ids and the amounts of the results can be told from these rows if and only if no id has
a bar in it. -/
theorem read_exported (py : Ingestion.Runtime) (loadWorkbook : LoadWorkbook) (config : SourceConfig)
    (hfold : FoldsLower py.casefold) {disk : Disk} {results : List ReconciliationResult}
    {path : String} {overwrite : Bool} {before after : Option Node}
    (hlimit : ∀ result ∈ results, ∀ text ∈ (resultToDict result).texts,
      text.length ≤ fieldSizeLimit)
    (hids : ∀ result ∈ results, ∀ source, ∀ id ∈ result.ids source, isText id = true)
    (hrange : ∀ result ∈ results, ∀ amount d, amountOf result amount = some d →
      DecimalText.inRange d = true)
    (h : (exportResultsCsv disk results (foldedSuffix py.casefold path) overwrite).run before =
      .ok () after) :
    ∃ contents, after = some (.file contents) ∧
      readFile py loadWorkbook config ⟨path, some contents⟩ =
        .ok (resultColumns, exportedTable results) ∧
      (List.Forall₂ (Recovers py.digit) results ((exportedTable results).map resultRowOf) ↔
        ∀ result ∈ results, ∀ source, ∀ id ∈ result.ids source, '|' ∉ id.toList) := by
  obtain ⟨hsuffix, hafter⟩ := contents_of_export h
  refine ⟨_, hafter, ?_, recovers_read_iff py.digit results hids hrange⟩
  have hcells : Ingestion.readCsv (csvDocument (resultsToDicts results)) =
      .ok ((exportedRows (resultsToDicts results)).map fun row => row.map .text) := by
    refine Ingestion.readCsv_document (Ingestion.holds_mark _) fun row hrow => ?_
    rcases List.mem_cons.mp hrow with rfl | hrow
    · decide
    · obtain ⟨dictionary, hdictionary, rfl⟩ := List.mem_map.mp hrow
      obtain ⟨result, hresult, rfl⟩ := List.mem_map.mp hdictionary
      exact hlimit result hresult
  have hsource : Ingestion.sourceSuffix py path = ".csv" := hsuffix
  rw [readFile, Ingestion.cellsOf]
  simp only [hsource, if_true, hcells]
  rw [exportedRows, List.map_cons, List.map_map]
  have hread : Ingestion.read py (resultColumns.map Cell.text ::
      (resultsToDicts results).map fun row => row.texts.map Cell.text) = _ :=
    Ingestion.read_texts (by decide) (by decide) (nodup_keys hfold) _
  rw [rowsOf_exported] at hread
  exact congrArg (Except.mapError fun error => FileFailure.loader (.ingestion error)) hread

theorem export_deposit_run :
    (exportResultsCsv {} barredResults (foldedSuffix id "results.csv") false).run none =
      .ok () (some (.file (csvDocument (resultsToDicts barredResults)))) := by
  have hsuffix : foldedSuffix id "results.csv" = ".csv" := by decide +kernel
  rw [hsuffix]
  rfl

theorem read_exported_deposit :
    ∃ contents, some (Node.file (csvDocument (resultsToDicts barredResults))) =
        some (.file contents) ∧
      readFile Ingestion.plainRuntime (fun _ => .error "BadZipFile") {}
          ⟨"results.csv", some contents⟩ = .ok (resultColumns, exportedTable barredResults) ∧
      (List.Forall₂ (Recovers Ingestion.plainRuntime.digit) barredResults
          ((exportedTable barredResults).map resultRowOf) ↔
        ∀ result ∈ barredResults, ∀ source, ∀ id ∈ result.ids source, '|' ∉ id.toList) := by
  refine read_exported Ingestion.plainRuntime _ {} (fun _ _ => rfl) (by decide +kernel)
    (fun result hresult source id hid => ?_) (fun result hresult amount d hd => ?_)
    export_deposit_run
  · obtain rfl := List.mem_singleton.mp hresult
    cases source with
    | bank =>
      obtain rfl := List.mem_singleton.mp hid
      decide
    | erp => exact absurd hid List.not_mem_nil
    | gateway => exact absurd hid List.not_mem_nil
  · obtain rfl := List.mem_singleton.mp hresult
    cases amount with
    | expected => cases hd
    | actual =>
      obtain rfl := Option.some.inj hd
      decide
    | difference => cases hd

end ReconcileFlow.Exporting
